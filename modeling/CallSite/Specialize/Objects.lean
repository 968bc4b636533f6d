import CallSite.Specialize.ArrayUpdate

/-!
# Object intrinsics

Predicates on classes, conversions and reserved slots, as self-hosted code uses them.  A predicate
is folded to a constant when the classes of its operands are known.

* `Objects.hasClass`, `Objects.isTypeDescr`, `Objects.isCallable`, `Objects.haveSameClass` — class
  predicates.
* `Objects.toObject`, `Objects.isObject`, `Objects.toInteger` — conversions.
* `Objects.setReservedSlot`, `Objects.getReservedSlot` — slots.
-/

namespace CallSite.Objects

open Draft (add push pushConstant result resumeAfter)
open ArrayUpdate (postBarrier)

/-! ## Class predicates -/

/-- A known answer as a constant, else a node that finds it out. -/
def foldOr (known : Option Bool) (op : Op) (inputs : List Operand) : Draft Unit :=
  match known with
  | some answer => pushConstant (.boolean answer)
  | none => result op inputs .boolean

/-- The predicates on one class take an object and were observed to give booleans. -/
def classPredicate : Signature :=
  { arity := .exactly 1, args := [.object], result := .exactly .boolean }

/-- **Whether the class of the argument is one of the candidates.** -/
def hasClass (candidates : List ObjectClass) (s : Site) : Decide Plan := do
  s.classify classPredicate
  let x ← s.arg 0
  return .of (foldOr (x.knownClass?.map candidates.contains) (.hasClass candidates) [x])

/-- **Whether the argument is a type descriptor.**  There is no node for this predicate, so it has
to be decided. -/
def isTypeDescr (s : Site) : Decide Plan := do
  s.classify classPredicate
  let x ← s.arg 0
  let types ← Decide.need x.types .objectTypesUnobserved
  match types.forAllClasses ObjectClass.isTypeDescr with
  | .allTrue => return .of (pushConstant (.boolean true))
  | .allFalse | .empty => return .of (pushConstant (.boolean false))
  | .mixed => Decide.refuse .maybeDescriptor

/-- Whether objects of a class are callable; that of a proxy depends on what it wraps. -/
def callable? (c : ObjectClass) : Option Bool :=
  if c.isProxy then none else some c.isNonProxyCallable

/-- **Whether the argument is callable.** -/
def isCallable (s : Site) : Decide Plan := do
  s.classify classPredicate
  let x ← s.arg 0
  return .of (foldOr (x.knownClass?.bind callable?) .isCallable [x])

/-- Whether two operands are known to have one class, or two. -/
def sameClass? (x y : Operand) : Option Bool := do
  let c ← x.knownClass?
  let d ← y.knownClass?
  return c = d

/-- **Whether the arguments have the same class.** -/
def haveSameClass (s : Site) : Decide Plan := do
  s.classify { arity := .exactly 2, args := [.object, .object] }
  let x ← s.arg 0
  let y ← s.arg 1
  return .of (foldOr (sameClass? x y) .haveSameClass [x, y])

/-! ## Conversions -/

/-- An object is its own conversion to an object. -/
def toObject (s : Site) : Decide Plan := do
  s.classify { arity := .exactly 1, args := [.object], result := .exactly .object }
  let x ← s.arg 0
  return .of (push x)

def isObject (s : Site) : Decide Plan := do
  s.classify { arity := .exactly 1, result := .exactly .boolean }
  let x ← s.arg 0
  return .of (result .isObject [x] .boolean)

/-- The value may be of a type whose conversion to an integer calls out. -/
def mayCallOut (x : Operand) : Bool :=
  [ValueType.object, .string, .symbol, .undefined].any x.mightBe

/-- The value may be a marker internal to the engine. -/
def mayBeMagic (x : Operand) : Bool :=
  x.ty = .boxed && x.types.all (·.hasPrimitives .magic)

/-- **The integer that a value converts to**, for numbers, null and booleans. -/
def toInteger (s : Site) : Decide Plan := do
  s.classify { arity := .exactly 1 }
  let x ← s.arg 0
  Decide.require (!mayCallOut x && !mayBeMagic x) .needsGenericConversion
  if s.returnType ≠ .int32 then Decide.decline (.returnType s.returnType)
  return .of (result .toInt32 [x] .int32)

/-! ## Reserved slots -/

/-- The number of a slot, when it is a constant. -/
def constantSlot (x : Operand) : Decide UInt32 :=
  match x.int32? with
  | some n => if 0 ≤ n then .ok n.toUInt32 else Decide.refuse .slotNotConstant
  | none => Decide.refuse .slotNotConstant

/-- **Stores into a slot.** -/
def setReservedSlot (s : Site) : Decide Plan := do
  s.classify { arity := .exactly 3, args := [.object, .int32], result := .exactly .undefined }
  let slot ← constantSlot (← s.arg 1)
  let object ← s.arg 0
  let value ← s.arg 2
  return .of do
    postBarrier object value
    let store ← add (.storeFixedSlot slot) [object, value] .noValue
    pushConstant .undefined
    resumeAfter store

/-- **Loads from a slot.**  What slots hold is not tracked, so the value is guarded by the observed
types. -/
def getReservedSlot (s : Site) : Decide Plan := do
  s.classify { arity := .exactly 2, args := [.object, .int32] }
  let slot ← constantSlot (← s.arg 1)
  let object ← s.arg 0
  return .of do
    let load ← add (.loadFixedSlot slot) [object] .boxed
    push load
    Draft.guardTop load s.call.resultTypes .typeSet

end CallSite.Objects
