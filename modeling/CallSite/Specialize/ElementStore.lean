import CallSite.Specialize.ArrayUpdate

/-!
# Bulk element stores

Self-hosted code stores groups of (object, index, value) in one call.  Every group is classified
before anything is emitted: either all of them can be stored without a generic path, or the call
stays generic.

* `ElementWrite` — how one group is stored.
* `ElementStore.classify?` — that, decided from the facts about the group.
* `ElementStore.putElements` — the specialization of the whole call.
-/

namespace CallSite

/-- **How an element is stored**: into a dense vector, a typed array, or a typed object that is an
array of scalars. -/
inductive ElementWrite where
  | dense (conversion : DoubleConversion)
  | typedArray (element : Scalar)
  | typedObject (element : Scalar)
  deriving DecidableEq, Repr, Inhabited

namespace ElementStore

open Draft (add pushConstant resumeAfter)
open ArrayUpdate (postBarrier stored)

/-- The group of one store. -/
structure Group where
  object : Operand
  index : Operand
  value : Operand
  deriving DecidableEq

/-- Arguments in groups of three; what is left over is no group. -/
def groups : List Operand → List Group
  | object :: index :: value :: rest => ⟨object, index, value⟩ :: groups rest
  | _ => []

/-! ## Classification -/

/-- A dense store, when all objects keep their elements in a dense vector whose types include the
value. -/
def dense? (types : TypeSet) (c : ObjectClass) (value : Operand) : Option (Answer ElementWrite) :=
  let outside := types.writeNeedsBarrier value.ty value.types
  if c.isNative && !outside.value then
    let conversion := types.convertDoubles
    some ⟨.dense conversion.value, outside.dependencies ++ conversion.dependencies⟩
  else none

/-- A store into typed arrays or typed objects of one element type. -/
def typed? (types : TypeSet) : Option ElementWrite :=
  match types.typedArray? <|> types.sharedTypedArray? with
  | some element => some (.typedArray element)
  | none => (types.typedLayout?.bind TypedLayout.scalarElement?).map .typedObject

/-- **How a group can be stored** without a generic path. -/
def classify? (g : Group) : Option (Answer ElementWrite) :=
  if g.object.ty ≠ .object || !g.index.ty.isIntOrDouble then none
  else do
    let types ← g.object.types
    let c ← types.knownClass?
    dense? types c g.value <|> (typed? types).map Answer.stable

/-- The ways to store all groups, with the facts that they rest on. -/
def classifyAll : List Group → Decide (List (ElementWrite × Group) × List Dependency)
  | [] => .ok ([], [])
  | g :: gs => do
    let write ← Decide.need (classify? g) .elementWriteNotInlinable
    let (writes, facts) ← classifyAll gs
    return ((write.value, g) :: writes, write.dependencies ++ facts)

/-! ## Emission -/

/-- The index as an int32. -/
def int32Index (index : Operand) : Draft Operand :=
  if index.ty = .int32 then pure index else add .toInt32 [index] .int32

/-- The value as an element of this type holds it. -/
def scalarValue (element : Scalar) (value : Operand) : Draft Operand :=
  if element = .uint8Clamped then add .clampToUint8 [value] .int32
  else if !element.isFloatingPoint ∧ value.ty ≠ .int32 then add .truncateToInt32 [value] .int32
  else pure value

/-- The store of a value at an int32 index. -/
def storeNode (object index value : Operand) : ElementWrite → Draft Operand
  | .dense conversion => do
    let value ← stored conversion value
    let elements ← add .elements [object] .elements
    postBarrier object value
    add (.storeElement false) [elements, index, value] .noValue
  | .typedArray element => do
    let value ← scalarValue element value
    let elements ← add .typedArrayElements [object] .elements
    add (.storeTypedElement element .unordered) [elements, index, value] .noValue
  | .typedObject element => do
    let value ← scalarValue element value
    add (.storeTypedObjectElement element) [object, index, value] .noValue

/-- The store of one group, with its own resume point.  That the index is in bounds is up to the
caller. -/
def store (write : ElementWrite) (g : Group) : Draft Unit := do
  let index ← int32Index g.index
  resumeAfter (← storeNode g.object index g.value write)

/-- The stores of all groups. -/
def storeAll : List (ElementWrite × Group) → Draft Unit
  | [] => pure ()
  | (write, g) :: rest => do
    store write g
    storeAll rest

/-- **Stores all groups.**  The result is pushed first, so that the stack is complete at the resume
point of every store. -/
def putElements (s : Site) : Decide Plan := do
  s.classify { arity := .grouped 3 }
  let (writes, facts) ← classifyAll (groups s.args)
  return .relyingOn facts do
    pushConstant .undefined
    storeAll writes

end ElementStore

end CallSite
