import CallSite.Routine.Emitter
import CallSite.Specialize.ArrayCreation

/-!
# Array natives at work

The routines behind the decisions of `CallSite.ArrayCreation` and `CallSite.ArrayUpdate`.  Each
looks at its operands in turn, keeps the facts that it comes to rely on, and commits them with the
call.

* `Routine.inlineArray` — its initial elements are looked at one by one, and stored one by one.
* `Routine.inlineArrayPush`, `Routine.inlineArrayPopShift`, `Routine.inlineArraySplice`,
  `Routine.inlineArrayJoin`, `Routine.inlineArrayConcat`.
* `Routine.inlineNewDenseArray` — inside a parallel section.
-/

namespace CallSite

open ArrayCreation (Start elementsFit)

/-! ## Storing values -/

namespace Emitter

open Routine (observe)

/-- Tells the collector that `value` is stored into `object`, where that can matter. -/
def postBarrier (e : Emitter) (object value : NodeId) : Routine Unit := do
  if (← observe value).needsPostBarrier then
    let _ ← e.add .postWriteBarrier [object, value] .noValue
  else pure ()

/-- The value as it is stored into arrays with this conversion. -/
def stored (e : Emitter) (conversion : DoubleConversion) (value : NodeId) : Routine NodeId :=
  if conversion.converts then e.add .toDouble [value] .double else pure value

/-- An initial element as it is stored. -/
def initialValue (e : Emitter) (convert : Bool) (id : NodeId) : Routine NodeId :=
  if convert then e.add .toDouble [id] .double else pure id

/-- Tells the collector about an initial element; a nursery allocation is young itself. -/
def initialBarrier (e : Emitter) (heap : Heap) (array value : NodeId) : Routine Unit := do
  if heap = .tenured then
    let _ ← e.add .postWriteBarrier [array, value] .noValue
  else pure ()

/-- Stores the initial elements from position `i` on; the value is the index of the last one. -/
def storeInitial (e : Emitter) (elements array : NodeId) (convert : Bool) (heap : Heap) (i : Nat)
    (last : Option NodeId) : List NodeId → Routine (Option NodeId)
  | [] => pure last
  | id :: ids => do
    let index ← e.constant (.int32 (Int32.ofNat i))
    let value ← e.initialValue convert id
    e.initialBarrier heap array value
    let _ ← e.add .initializeElement [elements, index, value] .noValue
    e.storeInitial elements array convert heap (i + 1) (some index) ids

/-- Stores the initial elements and sets the length, after which execution can be resumed. -/
def fill (e : Emitter) (array : NodeId) (convert : Bool) (heap : Heap) (ids : List NodeId) :
    Routine Unit := do
  let elements ← e.add .elements [array] .elements
  match ← e.storeInitial elements array convert heap 0 none ids with
  | none => pure ()
  | some last =>
    let length ← e.add .setInitializedLength [elements, last] .noValue
    e.resumeAfter length

end Emitter

namespace Routine

/-! ## Conditions -/

/-- The observed types of an operand all of whose objects are arrays with none of `flags`. -/
def denseArrayTypes (id : NodeId) (flags : ObjectFlags) : Routine (Answer TypeSet) := do
  let types ← need (← observe id).types .arrayTypesUnobserved
  require (types.knownClass? = some .array) .notArray
  let flagged := types.hasFlags flags
  require (!flagged.value) .sparseArray
  return ⟨types, flagged.dependencies⟩

/-- Holes read as undefined. -/
def checkArrayPrototype (i : Inliner) : Routine (List Dependency) := do
  require (!i.env.indexedArrayPrototype) .indexedArrayPrototype
  return [.noIndexedPrototype]

/-- The template sampled at the site for calls of a native. -/
def template (i : Inliner) (call : Call NodeId) (native : Native) : Routine Template :=
  need (i.env.template? call.site native) .noTemplate

/-! ## The constructor -/

/-- The types of the template include every initial element. -/
def checkElements (t : Template) : List NodeId → Routine Unit
  | [] => pure ()
  | id :: ids => do
    let x ← observe id
    require (t.typeObject.elementTypes.any (·.includes x.ty x.types)) .elementOutsideTemplate
    checkElements t ids

/-- Several arguments are initial elements. -/
def startOfElements (call : Call NodeId) (t : Template) : Routine (Start × List Dependency) := do
  let start : Start := ⟨UInt32.ofNat call.argc, true⟩
  if t.typeObject.unknownProperties then return (start, [])
  else
    checkElements t call.args
    return (start, [.elementTypes t.typeObject.id])

/-- A single argument is the length. -/
def startOfLength (i : Inliner) (call : Call NodeId) (t : Template) :
    Routine (Start × List Dependency) := do
  let x ← observe (← arg call 0)
  let n ← need x.int32? .lengthNotConstant
  require (0 ≤ n) .negativeLength
  let length := n.toUInt32
  require (length < i.config.maxDenseElements) .lengthAboveDenseLimit
  require (length = t.length) .lengthDiffersFromTemplate
  require (length ≤ i.config.eagerAllocationMaxLength) .allocationTooLarge
  return (⟨length, true⟩, [])

/-- How the array starts, by the number of arguments. -/
def start (i : Inliner) (call : Call NodeId) (t : Template) : Routine (Start × List Dependency) :=
  if call.argc = 0 then pure (⟨0, false⟩, [])
  else if call.argc = 1 then startOfLength i call t
  else startOfElements call t

/-- An array from the template of the site. -/
def inlineArray (i : Inliner) (call : Call NodeId) : Routine Status := do
  classify call { arity := .atLeast 0, constructing := .either }
  let t ← template i call .arrayConstructor
  let (start, facts) ← start i call t
  let conversion := call.resultTypes.convertDoubles
  let convert : Bool := conversion.value = .always
  let heap := t.typeObject.initialHeap
  let e ← commit call (facts ++ conversion.dependencies)
  let template ← e.constant t.constant
  let array ← e.add (.newArray start.length start.allocating heap convert) [template] .object
    (some (.singleton t.typeObject))
  e.push array
  if 2 ≤ call.argc then e.fill array convert heap call.args else pure ()
  e.finish

/-! ## Updates -/

/-- Appends one value. -/
def inlineArrayPush (i : Inliner) (call : Call NodeId) : Routine Status := do
  classify call { arity := .exactly 1, receiver := .object, result := .exactly .int32 }
  let array ← denseArrayTypes call.receiver DenseArray.sparseOrOverflowed
  let value ← arg call 0
  let v ← observe value
  let outside := array.value.writeNeedsBarrier v.ty v.types
  require (!outside.value) .pushedValueOutsideElements
  let prototype ← checkArrayPrototype i
  let conversion := array.value.convertDoubles
  require (conversion.value ≠ .ambiguous) .ambiguousConversion
  let e ← commit call
    (array.dependencies ++ outside.dependencies ++ prototype ++ conversion.dependencies)
  let value ← e.stored conversion.value value
  let object ← e.add .maybeCopyElementsForWrite [call.receiver] .object
  e.postBarrier object value
  let push ← e.add .arrayPush [object, value] .int32
  e.push push
  e.resumeAfter push
  e.finish

/-- Removes the last or the first element. -/
def inlineArrayPopShift (side : RemovalSide) (i : Inliner) (call : Call NodeId) :
    Routine Status := do
  classify call { arity := .atLeast 0, receiver := .object, result := .notNullish }
  let array ← denseArrayTypes call.receiver DenseArray.sparseOrIterated
  let prototype ← checkArrayPrototype i
  let holes := array.value.hasFlags .nonPacked
  let maybeUndefined := call.resultTypes.hasPrimitives .undefined
  let barrier := array.value.readBarrier call.resultTypes
  let ty := match barrier.value with
    | .noBarrier => call.returnType
    | .typeSet => .boxed
  let e ← commit call
    (array.dependencies ++ prototype ++ holes.dependencies ++ barrier.dependencies)
  let object ← e.add .maybeCopyElementsForWrite [call.receiver] .object
  let element ← e.add (.arrayRemove side holes.value maybeUndefined) [object] ty
  e.push element
  e.resumeAfter element
  e.guardTop element call.resultTypes barrier.value
  e.finish

/-- Removes a range of elements. -/
def inlineArraySplice (i : Inliner) (call : Call NodeId) : Routine Status := do
  classify call { arity := .exactly 2, receiver := .object, args := [.int32, .int32],
                  result := .exactly .object }
  require call.resultPopped .spliceResultUsed
  let array ← denseArrayTypes call.receiver DenseArray.sparseOrIterated
  let prototype ← checkArrayPrototype i
  let e ← commit call (array.dependencies ++ prototype)
  let splice ← e.add .arraySplice [call.receiver, ← arg call 0, ← arg call 1] .noValue
  e.pushConstant .undefined
  e.resumeAfter splice
  e.finish

/-- Joins the elements with a separator. -/
def inlineArrayJoin (_ : Inliner) (call : Call NodeId) : Routine Status := do
  classify call { arity := .exactly 1, receiver := .object, args := [.string],
                  result := .exactly .string }
  let array ← denseArrayTypes call.receiver DenseArray.sparseOrOverflowed
  let e ← commit call array.dependencies
  let join ← e.add .arrayJoin [call.receiver, ← arg call 0] .string
  e.push join
  e.resumeAfter join
  e.finish

/-! ## Concatenation -/

/-- A new array with the elements of two. -/
def inlineArrayConcat (i : Inliner) (call : Call NodeId) : Routine Status := do
  classify call { arity := .exactly 1, receiver := .object, args := [.object],
                  result := .exactly .object }
  let receiver ← denseArrayTypes call.receiver DenseArray.sparseOrOverflowed
  let argument ← denseArrayTypes (← arg call 0) DenseArray.sparseOrOverflowed
  let prototype ← checkArrayPrototype i
  let key ← need receiver.value.singleObject? .severalReceiverTypes
  require (!key.unknownProperties) .receiverUntracked
  let receiverHoles := receiver.value.hasFlags .nonPacked
  let argumentHoles := argument.value.hasFlags .nonPacked
  require (receiverHoles.value || !argumentHoles.value) .holesIntoPackedReceiver
  require (call.resultTypes.hasObject key.id) .resultMissesReceiver
  let elements ← need key.elementTypes .receiverElementsUntracked
  let tracked ← check (elementsFit elements argument.value.objects)
  let t ← template i call .arrayConcat
  require (t.typeObject.id = key.id) .templateDiffersFromReceiver
  let e ← commit call (receiver.dependencies ++ argument.dependencies ++ prototype ++
    receiverHoles.dependencies ++ argumentHoles.dependencies ++ tracked ++ [.elementTypes key.id])
  let template ← e.constant t.constant
  let concat ← e.add (.arrayConcat t.typeObject.initialHeap)
    [call.receiver, ← arg call 0, template] .object (some call.resultTypes)
  e.push concat
  e.resumeAfter concat
  e.finish

/-! ## Parallel sections -/

/-- Specializations of parallel sections apply in parallel mode only. -/
def requireParallel (i : Inliner) : Routine Unit :=
  match i.config.executionMode with
  | .parallel => pure ()
  | mode => refuse (.executionMode mode)

/-- A dense array allocated inside a parallel section. -/
def inlineNewDenseArray (i : Inliner) (call : Call NodeId) : Routine Status := do
  classify call { arity := .exactly 1, args := [.int32], result := .exactly .object }
  requireParallel i
  let observed ← need call.resultTypes.singleObject? .resultNotSingleObject
  let t ← template i call .newDenseArray
  require (t.typeObject.id = observed.id) .templateDiffersFromResult
  let e ← commit call []
  let context ← e.forkJoinContext
  let template ← e.constant t.constant
  let array ← e.add .newDenseArray [context, ← arg call 0, template] .object
    (some (.singleton t.typeObject))
  e.push array
  e.resumeAfter array
  e.finish

end Routine

end CallSite
