import CallSite.Specialize.DenseArray

/-!
# Updating arrays

Specializations of the array methods that work on a receiver in place, or read all of it.

* `ArrayUpdate.push` — appends one value, converted to a double where the receiver keeps doubles.
* `ArrayUpdate.remove` — `pop` and `shift`, guarded where an element may lie outside the observed
  result types.
* `ArrayUpdate.splice`, `ArrayUpdate.join`.
-/

namespace CallSite.ArrayUpdate

open Draft (add effectfulResult pushConstant resumeAfter)

/-- Tells the collector that `value` is stored into `object`, where that can matter. -/
def postBarrier (object value : Operand) : Draft Unit := do
  if value.needsPostBarrier then
    let _ ← add .postWriteBarrier [object, value] .noValue

/-- The value as it is stored into arrays with this conversion. -/
def stored (conversion : DoubleConversion) (value : Operand) : Draft Operand :=
  if conversion.converts then add .toDouble [value] .double else pure value

/-- **Appends one value.** -/
def push (s : Site) : Decide Plan := do
  s.classify { arity := .exactly 1, receiver := .object, result := .exactly .int32 }
  let array ← DenseArray.types s.receiver DenseArray.sparseOrOverflowed
  let value ← s.arg 0
  let outside := array.value.writeNeedsBarrier value.ty value.types
  Decide.require (!outside.value) .pushedValueOutsideElements
  let prototype ← DenseArray.prototype s
  let conversion := array.value.convertDoubles
  Decide.require (conversion.value ≠ .ambiguous) .ambiguousConversion
  let facts := array.dependencies ++ outside.dependencies ++ prototype ++ conversion.dependencies
  return .relyingOn facts do
    let value ← stored conversion.value value
    let object ← add .maybeCopyElementsForWrite [s.receiver] .object
    postBarrier object value
    effectfulResult .arrayPush [object, value] .int32

/-- **Removes the last or the first element.** -/
def remove (side : RemovalSide) (s : Site) : Decide Plan := do
  s.classify { arity := .atLeast 0, receiver := .object, result := .notNullish }
  let array ← DenseArray.types s.receiver DenseArray.sparseOrIterated
  let prototype ← DenseArray.prototype s
  let holes := array.value.hasFlags .nonPacked
  let observed := s.call.resultTypes
  let barrier := array.value.readBarrier observed
  let ty := match barrier.value with
    | .noBarrier => s.returnType
    | .typeSet => .boxed
  let op := Op.arrayRemove side holes.value (observed.hasPrimitives .undefined)
  let facts := array.dependencies ++ prototype ++ holes.dependencies ++ barrier.dependencies
  return .relyingOn facts do
    let object ← add .maybeCopyElementsForWrite [s.receiver] .object
    let element ← add op [object] ty
    Draft.push element
    resumeAfter element
    Draft.guardTop element observed barrier.value

/-- **Removes a range of elements**, when the array of removed elements is not used. -/
def splice (s : Site) : Decide Plan := do
  s.classify { arity := .exactly 2, receiver := .object, args := [.int32, .int32],
               result := .exactly .object }
  Decide.require s.call.resultPopped .spliceResultUsed
  let array ← DenseArray.types s.receiver DenseArray.sparseOrIterated
  let prototype ← DenseArray.prototype s
  let start ← s.arg 0
  let count ← s.arg 1
  return .relyingOn (array.dependencies ++ prototype) do
    let splice ← add .arraySplice [s.receiver, start, count] .noValue
    pushConstant .undefined
    resumeAfter splice

/-- **Joins the elements** with a separator. -/
def join (s : Site) : Decide Plan := do
  s.classify { arity := .exactly 1, receiver := .object, args := [.string],
               result := .exactly .string }
  let array ← DenseArray.types s.receiver DenseArray.sparseOrOverflowed
  let separator ← s.arg 0
  return .relyingOn array.dependencies
    (effectfulResult .arrayJoin [s.receiver, separator] .string)

end CallSite.ArrayUpdate
