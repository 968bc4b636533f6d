import CallSite.Specialize.ArrayUpdate

/-!
# Creating arrays

Arrays are allocated in the shape of a template that the baseline tier sampled at the site.

* `ArrayCreation.construct` — `Array(...)`: no arguments, a constant length, or initial elements.
* `ArrayCreation.concat` — a new array with the elements of two; since nothing revisits the site,
  the observed types have to account for every element already.
* `ArrayCreation.newDense` — the allocation of self-hosted parallel code.
-/

namespace CallSite.ArrayCreation

open Draft (add constant effectfulResult push resumeAfter)
open ArrayUpdate (postBarrier)

/-! ## The constructor -/

/-- The length that an array starts with, and whether its elements are allocated with it. -/
structure Start where
  length : UInt32
  allocating : Bool
  deriving DecidableEq, Repr

/-- Several arguments are initial elements, which the types of the template have to include. -/
def startOfElements (s : Site) (t : Template) : Decide (Start × List Dependency) := do
  let start : Start := ⟨UInt32.ofNat s.argc, true⟩
  if t.typeObject.unknownProperties then return (start, [])
  let fits (x : Operand) : Bool := t.typeObject.elementTypes.any (·.includes x.ty x.types)
  Decide.require (s.args.all fits) .elementOutsideTemplate
  return (start, [.elementTypes t.typeObject.id])

/-- A single argument is the length, which has to be constant, that of the template, and small. -/
def startOfLength (s : Site) (t : Template) : Decide (Start × List Dependency) := do
  let x ← s.arg 0
  let n ← Decide.need x.int32? .lengthNotConstant
  Decide.require (0 ≤ n) .negativeLength
  let length := n.toUInt32
  Decide.require (length < s.config.maxDenseElements) .lengthAboveDenseLimit
  Decide.require (length = t.length) .lengthDiffersFromTemplate
  Decide.require (length ≤ s.config.eagerAllocationMaxLength) .allocationTooLarge
  return (⟨length, true⟩, [])

/-- An initial element as it is stored. -/
def initialValue (convert : Bool) (x : Operand) : Draft Operand :=
  if convert then add .toDouble [x] .double else pure x

/-- Tells the collector about an initial element; a nursery allocation is young itself. -/
def initialBarrier (heap : Heap) (array value : Operand) : Draft Unit := do
  if heap = .tenured then
    let _ ← add .postWriteBarrier [array, value] .noValue

/-- Stores the initial elements from position `i` on; the value is the index of the last one. -/
def storeInitial (elements array : Operand) (convert : Bool) (heap : Heap) (i : Nat)
    (last : Option Operand) : List Operand → Draft (Option Operand)
  | [] => pure last
  | x :: xs => do
    let index ← constant (.int32 (Int32.ofNat i))
    let value ← initialValue convert x
    initialBarrier heap array value
    let _ ← add .initializeElement [elements, index, value] .noValue
    storeInitial elements array convert heap (i + 1) (some index) xs

/-- How the array starts, by the number of arguments. -/
def start (s : Site) (t : Template) : Decide (Start × List Dependency) :=
  if s.argc = 0 then .ok (⟨0, false⟩, [])
  else if s.argc = 1 then startOfLength s t
  else startOfElements s t

/-- Stores the initial elements and sets the length, after which execution can be resumed. -/
def fill (array : Operand) (convert : Bool) (heap : Heap) (xs : List Operand) : Draft Unit := do
  let elements ← add .elements [array] .elements
  match ← storeInitial elements array convert heap 0 none xs with
  | none => pure ()
  | some last =>
    let length ← add .setInitializedLength [elements, last] .noValue
    resumeAfter length

/-- **An array from the template of the site.** -/
def construct (s : Site) : Decide Plan := do
  s.classify { arity := .atLeast 0, constructing := .either }
  let t ← s.template .arrayConstructor
  let (start, facts) ← start s t
  let conversion := s.call.resultTypes.convertDoubles
  let convert : Bool := conversion.value = .always
  let heap := t.typeObject.initialHeap
  let op := Op.newArray start.length start.allocating heap convert
  return .relyingOn (facts ++ conversion.dependencies) do
    let template ← constant t.constant
    let array ← add op [template] .object (some (.singleton t.typeObject))
    push array
    if 2 ≤ s.argc then fill array convert heap s.args

/-! ## Concatenation -/

/-- The elements of every type object of the argument belong to those of the receiver. -/
def elementsFit (receiver : TypeSet) : List TypeObject → Decide (List Dependency)
  | [] => .ok []
  | o :: os => do
    Decide.require (!o.unknownProperties) .argumentUntracked
    Decide.require (o.elementTypes.any (·.subset receiver)) .argumentElementsNotSubset
    let facts ← elementsFit receiver os
    return .elementTypes o.id :: facts

/-- **A new array with the elements of two.** -/
def concat (s : Site) : Decide Plan := do
  s.classify { arity := .exactly 1, receiver := .object, args := [.object],
               result := .exactly .object }
  let receiver ← DenseArray.types s.receiver DenseArray.sparseOrOverflowed
  let other ← s.arg 0
  let argument ← DenseArray.types other DenseArray.sparseOrOverflowed
  let prototype ← DenseArray.prototype s
  let key ← Decide.need receiver.value.singleObject? .severalReceiverTypes
  Decide.require (!key.unknownProperties) .receiverUntracked
  let receiverHoles := receiver.value.hasFlags .nonPacked
  let argumentHoles := argument.value.hasFlags .nonPacked
  Decide.require (receiverHoles.value || !argumentHoles.value) .holesIntoPackedReceiver
  Decide.require (s.call.resultTypes.hasObject key.id) .resultMissesReceiver
  let elements ← Decide.need key.elementTypes .receiverElementsUntracked
  let tracked ← elementsFit elements argument.value.objects
  let t ← s.template .arrayConcat
  Decide.require (t.typeObject.id = key.id) .templateDiffersFromReceiver
  let facts := receiver.dependencies ++ argument.dependencies ++ prototype ++
    receiverHoles.dependencies ++ argumentHoles.dependencies ++ tracked ++ [.elementTypes key.id]
  return .relyingOn facts do
    let template ← constant t.constant
    effectfulResult (.arrayConcat t.typeObject.initialHeap) [s.receiver, other, template] .object
      (some s.call.resultTypes)

/-! ## Parallel sections -/

/-- Specializations of parallel sections apply in parallel mode only. -/
def requireParallel (s : Site) : Decide Unit :=
  match s.config.executionMode with
  | .parallel => .ok ()
  | mode => Decide.decline (.executionMode mode)

/-- **A dense array allocated inside a parallel section.** -/
def newDense (s : Site) : Decide Plan := do
  s.classify { arity := .exactly 1, args := [.int32], result := .exactly .object }
  requireParallel s
  let observed ← Decide.need s.call.resultTypes.singleObject? .resultNotSingleObject
  let t ← s.template .newDenseArray
  Decide.require (t.typeObject.id = observed.id) .templateDiffersFromResult
  let length ← s.arg 0
  let d : Draft Unit := do
    let template ← constant t.constant
    effectfulResult .newDenseArray [Draft.context, length, template] .object
      (some (.singleton t.typeObject))
  return { usesContext := true, steps := d.steps }

end CallSite.ArrayCreation
