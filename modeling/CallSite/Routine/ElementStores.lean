import CallSite.Routine.Arrays
import CallSite.Specialize.ElementStore

/-!
# Bulk element stores at work

The routine behind `CallSite.ElementStore`: a loop that classifies every group, and after the commit
a loop that stores every group.
-/

namespace CallSite

open ElementStore (classify?)

/-! ## Stores -/

namespace Emitter

open Routine (observe)

/-- The index as an int32. -/
def int32Index (e : Emitter) (index : NodeId) : Routine NodeId := do
  if (← observe index).ty = .int32 then pure index else e.add .toInt32 [index] .int32

/-- The value as an element of this type holds it. -/
def scalarValue (e : Emitter) (element : Scalar) (value : NodeId) : Routine NodeId := do
  let ty := (← observe value).ty
  if element = .uint8Clamped then e.add .clampToUint8 [value] .int32
  else if !element.isFloatingPoint ∧ ty ≠ .int32 then e.add .truncateToInt32 [value] .int32
  else pure value

/-- The store of a value at an int32 index. -/
def storeNode (e : Emitter) (object index value : NodeId) : ElementWrite → Routine NodeId
  | .dense conversion => do
    let value ← e.stored conversion value
    let elements ← e.add .elements [object] .elements
    e.postBarrier object value
    e.add (.storeElement false) [elements, index, value] .noValue
  | .typedArray element => do
    let value ← e.scalarValue element value
    let elements ← e.add .typedArrayElements [object] .elements
    e.add (.storeTypedElement element .unordered) [elements, index, value] .noValue
  | .typedObject element => do
    let value ← e.scalarValue element value
    e.add (.storeTypedObjectElement element) [object, index, value] .noValue

/-- The store of one group, with its own resume point. -/
def writeElement (e : Emitter) (write : ElementWrite) (object index value : NodeId) :
    Routine Unit := do
  let index ← e.int32Index index
  e.resumeAfter (← e.storeNode object index value write)

end Emitter

/-! ## Groups -/

/-- The handles of one group, with the way in which it is stored. -/
structure ElementWrite.Target where
  write : ElementWrite
  object : NodeId
  index : NodeId
  value : NodeId
  deriving DecidableEq

/-- The stores of all groups. -/
def Emitter.writeElements (e : Emitter) : List ElementWrite.Target → Routine Unit
  | [] => pure ()
  | t :: ts => do
    e.writeElement t.write t.object t.index t.value
    e.writeElements ts

namespace Routine

/-- The ways to store all groups of three, with the facts that they rest on. -/
def classifyGroups : List NodeId → Routine (List ElementWrite.Target × List Dependency)
  | object :: index :: value :: ids => do
    let group := ⟨← observe object, ← observe index, ← observe value⟩
    let write ← need (classify? group) .elementWriteNotInlinable
    let (targets, facts) ← classifyGroups ids
    return (⟨write.value, object, index, value⟩ :: targets, write.dependencies ++ facts)
  | _ => pure ([], [])

/-- Stores all groups.  The result is pushed first, so that the stack is complete at the resume
point of every store. -/
def inlineUnsafePutElements (_ : Inliner) (call : Call NodeId) : Routine Status := do
  classify call { arity := .grouped 3 }
  let (targets, facts) ← classifyGroups call.args
  let e ← commit call facts
  e.pushConstant .undefined
  e.writeElements targets
  e.finish

end Routine

end CallSite
