import CallSite.Routine.Emitter
import CallSite.Specialize.TypedMemory

/-!
# Typed arrays and typed objects at work

The routines behind the decisions of `CallSite.TypedMemory`.  All atomics share one way to get at
the elements of their array, `Emitter.checkedAccess`.
-/

namespace CallSite

open TypedMemory (instanceSize? isInlineTypedObject)

namespace Emitter

open Routine (observe)

/-- The elements of an array and an index that was checked against its length. -/
def checkedAccess (e : Emitter) (array index : NodeId) : Routine (NodeId × NodeId) := do
  let length ← e.add .typedArrayLength [array] .int32
  let index ← e.boundsCheck index length
  let elements ← e.add .typedArrayElements [array] .elements
  return (elements, index)

/-- The value as an int32. -/
def truncated (e : Emitter) (value : NodeId) : Routine NodeId := do
  if (← observe value).ty = .double then e.add .truncateToInt32 [value] .int32 else pure value

end Emitter

namespace Routine

/-! ## Typed arrays -/

/-- The length of a typed array. -/
def inlineTypedArrayLength (isShared : Bool) (element : Scalar) (_ : Inliner)
    (call : Call NodeId) : Routine Status := do
  classify call { arity := .exactly 0, receiver := .object }
  let observed := (← observe call.receiver).types.bind fun types =>
    if isShared then types.sharedTypedArray? else types.typedArray?
  require (observed.any fun found => !isShared || found = element) .notMatchingTypedArray
  let e ← commit call []
  e.push (← e.add .typedArrayLength [call.receiver] .int32)
  e.finish

/-! ## Typed objects -/

/-- Moves a typed object to another offset of its owner. -/
def inlineSetTypedObjectOffset (_ : Inliner) (call : Call NodeId) : Routine Status := do
  classify call { arity := .exactly 2, args := [.object, .int32], result := .exactly .undefined }
  let allTyped := (← observe (← arg call 0)).types.any fun types =>
    types.forAllClasses ObjectClass.isTypedObject = .allTrue
  require allTyped .notTypedObject
  let e ← commit call []
  let move ← e.add .setTypedObjectOffset [← arg call 0, ← arg call 1] .noValue
  e.pushConstant .undefined
  e.resumeAfter move
  e.finish

/-- Constructs a typed object of a sized descriptor. -/
def inlineNonFunctionCall (d : DescriptorObject) (i : Inliner) (call : Call NodeId) :
    Routine Status := do
  classify call { arity := .exactly 0, constructing := .required }
  let size ← need (instanceSize? d) .descriptorUnsized
  require (size ≤ i.config.inlineTypedObjectMaxSize) .typedObjectTooLarge
  let t ← need (i.env.classTemplate? call.site d.object.objectClass) .noTemplate
  require (isInlineTypedObject t.object.objectClass) .templateNotInlineTypedObject
  require (t.descriptor = some d.object.id) .templateOfOtherDescriptor
  let e ← commit call []
  let template ← e.constant t.constant
  e.push (← e.add (.newTypedObject t.typeObject.initialHeap) [template] .object
    (some (.singleton t.typeObject)))
  e.finish

/-! ## Atomics -/

/-- The element type of the shared array, provided that an atomic access on it gives the type that
was observed. -/
def atomicTarget (call : Call NodeId) : Routine Scalar := do
  let array ← observe (← arg call 0)
  let element ← need (array.types.bind TypeSet.sharedTypedArray?) .notSharedTypedArray
  expect (element.atomicResult? = some call.returnType) (.returnType call.returnType)
  return element

/-- Compares an element and exchanges it. -/
def inlineAtomicsCompareExchange (_ : Inliner) (call : Call NodeId) : Routine Status := do
  classify call { arity := .exactly 4, args := [.object, .int32, .intOrDouble, .intOrDouble] }
  let element ← atomicTarget call
  let e ← commit call []
  let (elements, index) ← e.checkedAccess (← arg call 0) (← arg call 1)
  let old ← e.truncated (← arg call 2)
  let new ← e.truncated (← arg call 3)
  let exchange ← e.add (.compareExchangeTypedElement element) [elements, index, old, new]
    call.returnType
  e.push exchange
  e.resumeAfter exchange
  e.finish

/-- Loads an element. -/
def inlineAtomicsLoad (_ : Inliner) (call : Call NodeId) : Routine Status := do
  classify call { arity := .exactly 2, args := [.object, .int32] }
  let element ← atomicTarget call
  let e ← commit call []
  let (elements, index) ← e.checkedAccess (← arg call 0) (← arg call 1)
  let load ← e.add (.loadTypedElement element .seqCst) [elements, index] call.returnType
  e.push load
  e.resumeAfter load
  e.finish

/-- Stores an element.  The result is the value as it was passed, before truncation. -/
def inlineAtomicsStore (_ : Inliner) (call : Call NodeId) : Routine Status := do
  classify call { arity := .exactly 3, args := [.object, .int32, .intOrDouble] }
  let element ← atomicTarget call
  let value ← arg call 2
  let e ← commit call []
  let (elements, index) ← e.checkedAccess (← arg call 0) (← arg call 1)
  let written ← e.truncated value
  let store ← e.add (.storeTypedElement element .seqCst) [elements, index, written] .noValue
  e.push value
  e.resumeAfter store
  e.finish

/-- Updates an element by an operator; the result is its old value. -/
def inlineAtomicsBinop (operator : AtomicOperator) (_ : Inliner) (call : Call NodeId) :
    Routine Status := do
  classify call { arity := .exactly 3, args := [.object, .int32, .intOrDouble] }
  let element ← atomicTarget call
  let e ← commit call []
  let (elements, index) ← e.checkedAccess (← arg call 0) (← arg call 1)
  let value ← e.truncated (← arg call 2)
  let update ← e.add (.atomicTypedElement operator element) [elements, index, value]
    call.returnType
  e.push update
  e.resumeAfter update
  e.finish

/-- A full memory barrier. -/
def inlineAtomicsFence (_ : Inliner) (call : Call NodeId) : Routine Status := do
  classify call { arity := .exactly 0 }
  let e ← commit call []
  let fence ← e.add .memoryBarrier [] .noValue
  e.pushConstant .undefined
  e.resumeAfter fence
  e.finish

end Routine

end CallSite
