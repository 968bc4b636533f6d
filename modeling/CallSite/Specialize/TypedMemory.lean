import CallSite.Specialize.Signature

/-!
# Typed arrays and typed objects

* `TypedMemory.length` — the `length` getters of typed arrays.
* `TypedMemory.setOffset`, `TypedMemory.construct` — typed objects.
* `TypedMemory.compareExchange`, `TypedMemory.load`, `TypedMemory.store`, `TypedMemory.update`,
  `TypedMemory.fence` — atomics on shared integer arrays, all behind a bounds check.
-/

namespace CallSite.TypedMemory

open Draft (add constant effectfulResult push pushConstant result resumeAfter)

/-! ## Typed arrays -/

/-- **The length of a typed array.**  The getter of unshared arrays serves every element type,
those of shared ones serve one each. -/
def length (isShared : Bool) (element : Scalar) (s : Site) : Decide Plan := do
  s.classify { arity := .exactly 0, receiver := .object }
  let observed := s.receiver.types.bind fun types =>
    if isShared then types.sharedTypedArray? else types.typedArray?
  Decide.require (observed.any fun found => !isShared || found = element) .notMatchingTypedArray
  return .of (result .typedArrayLength [s.receiver] .int32)

/-! ## Typed objects -/

/-- **Moves a typed object** to another offset of its owner. -/
def setOffset (s : Site) : Decide Plan := do
  s.classify { arity := .exactly 2, args := [.object, .int32], result := .exactly .undefined }
  let object ← s.arg 0
  let offset ← s.arg 1
  let allTyped := object.types.any fun types =>
    types.forAllClasses ObjectClass.isTypedObject = .allTrue
  Decide.require allTyped .notTypedObject
  return .of do
    let move ← add .setTypedObjectOffset [object, offset] .noValue
    pushConstant .undefined
    resumeAfter move

/-- The size of the instances of a descriptor, for layouts that have one. -/
def instanceSize? (d : DescriptorObject) : Option UInt32 :=
  match d.layout with
  | .struct _ | .sizedArray .. | .scalar _ => d.size
  | .reference | .unsizedArray _ => none

/-- Classes whose data lies in the object itself. -/
def isInlineTypedObject (c : ObjectClass) : Bool :=
  c = .inlineOpaqueTypedObject || c = .inlineTransparentTypedObject

/-- **Constructs a typed object** of a sized descriptor, from the template that the construct hook
sampled at the site. -/
def construct (d : DescriptorObject) (s : Site) : Decide Plan := do
  s.classify { arity := .exactly 0, constructing := .required }
  let size ← Decide.need (instanceSize? d) .descriptorUnsized
  Decide.require (size ≤ s.config.inlineTypedObjectMaxSize) .typedObjectTooLarge
  let t ← Decide.need (s.env.classTemplate? s.call.site d.object.objectClass) .noTemplate
  Decide.require (isInlineTypedObject t.object.objectClass) .templateNotInlineTypedObject
  Decide.require (t.descriptor = some d.object.id) .templateOfOtherDescriptor
  return .of do
    let template ← constant t.constant
    result (.newTypedObject t.typeObject.initialHeap) [template] .object
      (some (.singleton t.typeObject))

/-! ## Atomics -/

/-- The element type of the shared array, provided that an atomic access on it gives the type that
was observed. -/
def atomicTarget (s : Site) (array : Operand) : Decide Scalar := do
  let element ← Decide.need (array.types.bind TypeSet.sharedTypedArray?) .notSharedTypedArray
  if element.atomicResult? ≠ some s.returnType then Decide.decline (.returnType s.returnType)
  return element

/-- The elements of an array and an index that was checked against its length. -/
def checkedAccess (array index : Operand) : Draft (Operand × Operand) := do
  let length ← add .typedArrayLength [array] .int32
  let index ← Draft.boundsCheck index length
  let elements ← add .typedArrayElements [array] .elements
  return (elements, index)

/-- The value as an int32. -/
def truncated (value : Operand) : Draft Operand :=
  if value.ty = .double then add .truncateToInt32 [value] .int32 else pure value

/-- **Compares an element and exchanges it.** -/
def compareExchange (s : Site) : Decide Plan := do
  s.classify { arity := .exactly 4, args := [.object, .int32, .intOrDouble, .intOrDouble] }
  let array ← s.arg 0
  let element ← atomicTarget s array
  let index ← s.arg 1
  let old ← s.arg 2
  let new ← s.arg 3
  return .of do
    let (elements, index) ← checkedAccess array index
    let old ← truncated old
    let new ← truncated new
    effectfulResult (.compareExchangeTypedElement element) [elements, index, old, new] s.returnType

/-- **Loads an element.** -/
def load (s : Site) : Decide Plan := do
  s.classify { arity := .exactly 2, args := [.object, .int32] }
  let array ← s.arg 0
  let element ← atomicTarget s array
  let index ← s.arg 1
  return .of do
    let (elements, index) ← checkedAccess array index
    effectfulResult (.loadTypedElement element .seqCst) [elements, index] s.returnType

/-- **Stores an element.**  The result is the value as it was passed, before truncation. -/
def store (s : Site) : Decide Plan := do
  s.classify { arity := .exactly 3, args := [.object, .int32, .intOrDouble] }
  let array ← s.arg 0
  let element ← atomicTarget s array
  let index ← s.arg 1
  let value ← s.arg 2
  return .of do
    let (elements, index) ← checkedAccess array index
    let written ← truncated value
    let store ← add (.storeTypedElement element .seqCst) [elements, index, written] .noValue
    push value
    resumeAfter store

/-- **Updates an element** by an operator; the result is its old value. -/
def update (operator : AtomicOperator) (s : Site) : Decide Plan := do
  s.classify { arity := .exactly 3, args := [.object, .int32, .intOrDouble] }
  let array ← s.arg 0
  let element ← atomicTarget s array
  let index ← s.arg 1
  let value ← s.arg 2
  return .of do
    let (elements, index) ← checkedAccess array index
    let value ← truncated value
    effectfulResult (.atomicTypedElement operator element) [elements, index, value] s.returnType

/-- **A full memory barrier.** -/
def fence (s : Site) : Decide Plan := do
  s.classify { arity := .exactly 0 }
  return .of do
    let fence ← add .memoryBarrier [] .noValue
    pushConstant .undefined
    resumeAfter fence

end CallSite.TypedMemory
