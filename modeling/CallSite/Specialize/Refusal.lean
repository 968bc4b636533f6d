import CallSite.Config
import CallSite.Native

/-!
# Why a call stays generic

A declined specialization is no error: the call keeps its generic form and the graph stays as it
is.  `Refusal` lists the reasons, and `Refusal.message` their wording.

* `Arity` — accepted argument counts.
* `Obstacle` — a condition on shapes or observed types that does not hold.
* `Refusal` — every reason.
-/

namespace CallSite

/-! ## Argument counts -/

/-- **Accepted argument counts**; a grouped count is a multiple of the group, and not zero. -/
inductive Arity where
  | exactly (n : Nat)
  | atLeast (n : Nat)
  | grouped (n : Nat)
  deriving DecidableEq, Repr, Inhabited

namespace Arity

def accepts (a : Arity) (argc : Nat) : Bool :=
  match a with
  | exactly n => argc = n
  | atLeast n => n ≤ argc
  | grouped n => 0 < n && n ≤ argc && argc % n = 0

def text : Arity → String
  | exactly n => s!"exactly {n}"
  | atLeast n => s!"at least {n}"
  | grouped n => s!"a multiple of {n}"

instance : ToString Arity := ⟨text⟩

end Arity

/-! ## Obstacles -/

/-- **A condition on shapes or observed types** that a specialization needs and that does not
hold. -/
inductive Obstacle where
  -- arrays
  | arrayTypesUnobserved
  | notArray
  | sparseArray
  | indexedArrayPrototype
  | noTemplate
  | elementOutsideTemplate
  | lengthNotConstant
  | negativeLength
  | lengthAboveDenseLimit
  | lengthDiffersFromTemplate
  | allocationTooLarge
  | spliceResultUsed
  | pushedValueOutsideElements
  | ambiguousConversion
  | severalReceiverTypes
  | receiverUntracked
  | holesIntoPackedReceiver
  | resultMissesReceiver
  | receiverElementsUntracked
  | argumentUntracked
  | argumentElementsNotSubset
  | templateDiffersFromReceiver
  | elementWriteNotInlinable
  -- strings and regular expressions
  | templateUntracked
  | templateWithoutStrings
  | patternNotStringOrRegExp
  | receiverNotRegExp
  -- intrinsics
  | slotNotConstant
  | needsGenericConversion
  | expectationNotConstant
  | resultNotSingleObject
  | templateDiffersFromResult
  -- typed arrays and typed objects
  | objectTypesUnobserved
  | maybeDescriptor
  | notTypedObject
  | notMatchingTypedArray
  | descriptorUnsized
  | typedObjectTooLarge
  | templateNotInlineTypedObject
  | templateOfOtherDescriptor
  | notSharedTypedArray
  -- bound functions
  | notBound
  | boundTargetNotFunction
  | boundTargetNotConstructor
  | boundTargetMayMove
  | boundReceiverMayMove
  | boundArgumentMayMove
  | tooManyBoundArguments
  deriving DecidableEq, Repr, Inhabited

/-- The wording of an obstacle. -/
def Obstacle.message : Obstacle → String
  | .arrayTypesUnobserved => "no observed types for the array"
  | .notArray => "not known to be an array"
  | .sparseArray => "array may be sparse, overflowed or iterated"
  | .indexedArrayPrototype => "array prototype has indexed properties"
  | .noTemplate => "no template object"
  | .elementOutsideTemplate => "template element types do not include an initial element"
  | .lengthNotConstant => "length is not a constant int32"
  | .negativeLength => "negative length"
  | .lengthAboveDenseLimit => "length above the dense limit"
  | .lengthDiffersFromTemplate => "length differs from the template"
  | .allocationTooLarge => "allocation too large to inline"
  | .spliceResultUsed => "splice result is used"
  | .pushedValueOutsideElements => "element types do not include the pushed value"
  | .ambiguousConversion => "ambiguous double conversion"
  | .severalReceiverTypes => "receiver has more than one type object"
  | .receiverUntracked => "receiver properties are untracked"
  | .holesIntoPackedReceiver => "packed receiver with a non-packed argument"
  | .resultMissesReceiver => "result types miss the receiver's type object"
  | .receiverElementsUntracked => "receiver element types untracked"
  | .argumentUntracked => "argument properties are untracked"
  | .argumentElementsNotSubset => "argument element types are not a subset of the receiver's"
  | .templateDiffersFromReceiver => "template type object differs from the receiver's"
  | .elementWriteNotInlinable => "element write cannot be inlined"
  | .templateUntracked => "template properties are untracked"
  | .templateWithoutStrings => "template elements never held strings"
  | .patternNotStringOrRegExp => "pattern is neither a string nor a regexp"
  | .receiverNotRegExp => "receiver is not known to be a regexp"
  | .slotNotConstant => "slot is not a constant"
  | .needsGenericConversion => "input may need a generic conversion"
  | .expectationNotConstant => "expectation is not a constant boolean"
  | .resultNotSingleObject => "result is not a single known object"
  | .templateDiffersFromResult => "template does not match the observed result"
  | .objectTypesUnobserved => "no observed types for the object"
  | .maybeDescriptor => "object may or may not be a descriptor"
  | .notTypedObject => "object is not known to be a typed object"
  | .notMatchingTypedArray => "receiver is not known to be a matching typed array"
  | .descriptorUnsized => "descriptor is not sized"
  | .typedObjectTooLarge => "typed object too large to allocate inline"
  | .templateNotInlineTypedObject => "template is not an inline typed object"
  | .templateOfOtherDescriptor => "template was created for another descriptor"
  | .notSharedTypedArray => "not a shared typed array"
  | .notBound => "callee is not a bound function"
  | .boundTargetNotFunction => "bound target is not a function"
  | .boundTargetNotConstructor => "bound target is not a constructor"
  | .boundTargetMayMove => "bound target may move"
  | .boundReceiverMayMove => "bound receiver may move"
  | .boundArgumentMayMove => "bound argument may move"
  | .tooManyBoundArguments => "too many arguments"

/-! ## Reasons -/

/-- **Why a call was left generic.** -/
inductive Refusal where
  | disabled
  | callDead
  | notNative
  | noSpecializer (native : Native)
  | arity (expected : Arity) (found : Nat)
  /-- The call is a construct although it must not be one, or the other way round. -/
  | constructing (expected : Bool)
  | receiverType (found : ValueType)
  | argumentType (index : Nat) (found : ValueType)
  | returnType (found : ValueType)
  | executionMode (found : ExecutionMode)
  | tooManyArguments (limit : UInt64) (found : Nat)
  | obstacle (o : Obstacle)
  deriving DecidableEq, Repr, Inhabited

/-- The wording of a reason. -/
def Refusal.message : Refusal → String
  | .disabled => "native inlining disabled"
  | .callDead => "call already specialized"
  | .notNative => "callee is not a native"
  | .noSpecializer native => s!"no specializer for {native}"
  | .arity expected found => s!"expected {expected} arguments, found {found}"
  | .constructing true => "call must be a construct"
  | .constructing false => "call must not be a construct"
  | .receiverType found => s!"unsupported receiver type {found}"
  | .argumentType index found => s!"unsupported type {found} for argument {index}"
  | .returnType found => s!"unsupported result type {found}"
  | .executionMode found => "not available in " ++ found.name ++ " mode"
  | .tooManyArguments limit found => s!"{found} arguments exceed the limit of {limit}"
  | .obstacle o => o.message

end CallSite
