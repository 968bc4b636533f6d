import CallSite.Routine.Arrays
import CallSite.Specialize.Objects
import CallSite.Specialize.Surroundings

/-!
# Intrinsics at work

The routines behind the decisions of `CallSite.Objects` and `CallSite.Surroundings`: class
predicates, conversions and reserved slots, and questions about the frame or the section that the
call sits in.
-/

namespace CallSite

open Objects (classPredicate callable? sameClass? mayCallOut mayBeMagic)

namespace Routine

/-! ## Class predicates -/

/-- A known answer as a constant, else a node that finds it out. -/
def foldOr (call : Call NodeId) (known : Option Bool) (op : Op) (inputs : List NodeId) :
    Routine Status := do
  let e ← commit call []
  match known with
  | some answer => e.pushConstant (.boolean answer)
  | none => e.push (← e.add op inputs .boolean)
  e.finish

/-- Whether the class of the argument is one of the candidates. -/
def inlineHasClass (candidates : List ObjectClass) (_ : Inliner) (call : Call NodeId) :
    Routine Status := do
  classify call classPredicate
  let id ← arg call 0
  let x ← observe id
  foldOr call (x.knownClass?.map candidates.contains) (.hasClass candidates) [id]

/-- Whether the argument is a type descriptor. -/
def inlineObjectIsTypeDescr (_ : Inliner) (call : Call NodeId) : Routine Status := do
  classify call classPredicate
  let types ← need (← observe (← arg call 0)).types .objectTypesUnobserved
  let answer ←
    match types.forAllClasses ObjectClass.isTypeDescr with
    | .allTrue => pure true
    | .allFalse | .empty => pure false
    | .mixed => refuse (.obstacle .maybeDescriptor)
  let e ← commit call []
  e.pushConstant (.boolean answer)
  e.finish

/-- Whether the argument is callable. -/
def inlineIsCallable (_ : Inliner) (call : Call NodeId) : Routine Status := do
  classify call classPredicate
  let id ← arg call 0
  let x ← observe id
  foldOr call (x.knownClass?.bind callable?) .isCallable [id]

/-- Whether the arguments have the same class. -/
def inlineHaveSameClass (_ : Inliner) (call : Call NodeId) : Routine Status := do
  classify call { arity := .exactly 2, args := [.object, .object] }
  let first ← arg call 0
  let x ← observe first
  let second ← arg call 1
  let y ← observe second
  foldOr call (sameClass? x y) .haveSameClass [first, second]

/-! ## Conversions -/

/-- An object is its own conversion to an object. -/
def inlineToObject (_ : Inliner) (call : Call NodeId) : Routine Status := do
  classify call { arity := .exactly 1, args := [.object], result := .exactly .object }
  let e ← commit call []
  e.push (← arg call 0)
  e.finish

def inlineIsObject (_ : Inliner) (call : Call NodeId) : Routine Status := do
  classify call { arity := .exactly 1, result := .exactly .boolean }
  let e ← commit call []
  e.push (← e.add .isObject [← arg call 0] .boolean)
  e.finish

/-- The integer that a value converts to. -/
def inlineToInteger (_ : Inliner) (call : Call NodeId) : Routine Status := do
  classify call { arity := .exactly 1 }
  let id ← arg call 0
  let x ← observe id
  require (!mayCallOut x && !mayBeMagic x) .needsGenericConversion
  expect (call.returnType = .int32) (.returnType call.returnType)
  let e ← commit call []
  e.push (← e.add .toInt32 [id] .int32)
  e.finish

/-! ## Reserved slots -/

/-- The number of a slot, when it is a constant. -/
def constantSlot (id : NodeId) : Routine UInt32 := do
  let n ← need (← observe id).int32? .slotNotConstant
  require (0 ≤ n) .slotNotConstant
  return n.toUInt32

/-- Stores into a slot. -/
def inlineUnsafeSetReservedSlot (_ : Inliner) (call : Call NodeId) : Routine Status := do
  classify call { arity := .exactly 3, args := [.object, .int32], result := .exactly .undefined }
  let slot ← constantSlot (← arg call 1)
  let object ← arg call 0
  let value ← arg call 2
  let e ← commit call []
  e.postBarrier object value
  let store ← e.add (.storeFixedSlot slot) [object, value] .noValue
  e.pushConstant .undefined
  e.resumeAfter store
  e.finish

/-- Loads from a slot. -/
def inlineUnsafeGetReservedSlot (_ : Inliner) (call : Call NodeId) : Routine Status := do
  classify call { arity := .exactly 2, args := [.object, .int32] }
  let slot ← constantSlot (← arg call 1)
  let e ← commit call []
  let load ← e.add (.loadFixedSlot slot) [← arg call 0] .boxed
  e.push load
  e.guardTop load call.resultTypes .typeSet
  e.finish

/-! ## The surroundings of a call -/

/-- Whether the code runs in a parallel section. -/
def inlineInParallelSection (i : Inliner) (call : Call NodeId) : Routine Status := do
  classify call { arity := .atLeast 0 }
  requireParallel i
  let e ← commit call []
  e.pushConstant (.boolean true)
  e.finish

/-- The next slice of parallel work. -/
def inlineForkJoinGetSlice (i : Inliner) (call : Call NodeId) : Routine Status := do
  requireParallel i
  classify call { arity := .exactly 1, args := [.int32], result := .exactly .int32 }
  expect i.config.inlineForkJoinGetSlice .disabled
  let e ← commit call []
  let context ← e.forkJoinContext
  e.push (← e.add .forkJoinGetSlice [context] .int32)
  e.finish

/-- Whether the frame was entered by a construct. -/
def inlineIsConstructing (i : Inliner) (call : Call NodeId) : Routine Status := do
  classify call { arity := .exactly 0, result := .exactly .boolean }
  let known := (i.frame.filter fun f => 0 < f.depth).map Frame.constructing
  foldOr call known .isConstructing []

/-- A bailout, whatever the call looks like. -/
def inlineBailout (_ : Inliner) (call : Call NodeId) : Routine Status := do
  let e ← commit call []
  let _ ← e.add .bail [] .noValue
  e.pushConstant .undefined
  e.finish

/-- A check of the representation of a value, against a constant expectation. -/
def inlineAssertFloat32 (_ : Inliner) (call : Call NodeId) : Routine Status := do
  classify call { arity := .exactly 2 }
  let expectation ← observe (← arg call 1)
  let mustBe ← need (expectation.constant.bind Constant.boolean?) .expectationNotConstant
  let e ← commit call []
  let _ ← e.add (.assertFloat32 mustBe) [← arg call 0] .noValue
  e.pushConstant .undefined
  e.finish

end Routine

end CallSite
