import CallSite.Types.ValueType

/-!
# Native functions

The functions that the engine itself provides.  A call is specialized by *which* function object
it targets and never by a name: a function that a script calls `floor` is no native.

* `Native` — the identity of a native function.
* `Native.name`, `Native.text` — its name in listings and in messages.
* `Native.key` — its key in documents.
-/

namespace CallSite

/-- **The identity of a native function.**  The getters of `length` exist once per element
type. -/
inductive Native where
  -- Atomic accesses
  | atomicsCompareExchange
  | atomicsLoad
  | atomicsStore
  | atomicsFence
  | atomicsAdd
  | atomicsSub
  | atomicsAnd
  | atomicsOr
  | atomicsXor
  -- Arrays
  | arrayConstructor
  | arrayPop
  | arrayShift
  | arrayPush
  | arrayConcat
  | arrayJoin
  | arraySplice
  -- Arithmetic
  | mathAbs
  | mathFloor
  | mathCeil
  | mathRound
  | mathClz32
  | mathSqrt
  | mathAtan2
  | mathHypot
  | mathMax
  | mathMin
  | mathPow
  | mathRandom
  | mathImul
  | mathFround
  | mathSin
  | mathTan
  | mathCos
  | mathExp
  | mathLog
  | mathAtan
  | mathAsin
  | mathAcos
  | mathLog10
  | mathLog2
  | mathLog1p
  | mathExpm1
  | mathCosh
  | mathSinh
  | mathTanh
  | mathAcosh
  | mathAsinh
  | mathAtanh
  | mathSign
  | mathTrunc
  | mathCbrt
  -- Strings and regular expressions
  | stringConstructor
  | stringSplit
  | stringCharCodeAt
  | stringFromCharCode
  | stringCharAt
  | stringReplace
  | regExpExec
  | regExpTest
  -- Intrinsics of self-hosted code
  | unsafePutElements
  | newDenseArray
  | unsafeSetReservedSlot
  | unsafeGetReservedSlot
  | shouldForceSequential
  | inParallelSection
  | forkJoinGetSlice
  | isCallable
  | haveSameClass
  | toObject
  | isObject
  | toInteger
  | toString
  | isConstructing
  -- Typed objects
  | objectIsTypedObject
  | objectIsTransparentTypedObject
  | objectIsOpaqueTypedObject
  | objectIsTypeDescr
  | typeDescrIsSimpleType
  | typeDescrIsArrayType
  | typeDescrIsSizedArrayType
  | typeDescrIsUnsizedArrayType
  | setTypedObjectOffset
  -- Testing functions
  | testingInParallelSection
  | testingBailout
  | testingAssertFloat32
  -- Bound functions
  | callOrConstructBoundFunction
  -- Getters
  | typedArrayLengthGetter (element : Scalar)
  | sharedTypedArrayLengthGetter (element : Scalar)
  deriving DecidableEq, Repr, Inhabited

namespace Native

/-- The name in listings. -/
def name : Native → String
  | atomicsCompareExchange => "Atomics.compareExchange"
  | atomicsLoad => "Atomics.load"
  | atomicsStore => "Atomics.store"
  | atomicsFence => "Atomics.fence"
  | atomicsAdd => "Atomics.add"
  | atomicsSub => "Atomics.sub"
  | atomicsAnd => "Atomics.and"
  | atomicsOr => "Atomics.or"
  | atomicsXor => "Atomics.xor"
  | arrayConstructor => "Array"
  | arrayPop => "Array.prototype.pop"
  | arrayShift => "Array.prototype.shift"
  | arrayPush => "Array.prototype.push"
  | arrayConcat => "Array.prototype.concat"
  | arrayJoin => "Array.prototype.join"
  | arraySplice => "Array.prototype.splice"
  | mathAbs => "Math.abs"
  | mathFloor => "Math.floor"
  | mathCeil => "Math.ceil"
  | mathRound => "Math.round"
  | mathClz32 => "Math.clz32"
  | mathSqrt => "Math.sqrt"
  | mathAtan2 => "Math.atan2"
  | mathHypot => "Math.hypot"
  | mathMax => "Math.max"
  | mathMin => "Math.min"
  | mathPow => "Math.pow"
  | mathRandom => "Math.random"
  | mathImul => "Math.imul"
  | mathFround => "Math.fround"
  | mathSin => "Math.sin"
  | mathTan => "Math.tan"
  | mathCos => "Math.cos"
  | mathExp => "Math.exp"
  | mathLog => "Math.log"
  | mathAtan => "Math.atan"
  | mathAsin => "Math.asin"
  | mathAcos => "Math.acos"
  | mathLog10 => "Math.log10"
  | mathLog2 => "Math.log2"
  | mathLog1p => "Math.log1p"
  | mathExpm1 => "Math.expm1"
  | mathCosh => "Math.cosh"
  | mathSinh => "Math.sinh"
  | mathTanh => "Math.tanh"
  | mathAcosh => "Math.acosh"
  | mathAsinh => "Math.asinh"
  | mathAtanh => "Math.atanh"
  | mathSign => "Math.sign"
  | mathTrunc => "Math.trunc"
  | mathCbrt => "Math.cbrt"
  | stringConstructor => "String"
  | stringSplit => "String.prototype.split"
  | stringCharCodeAt => "String.prototype.charCodeAt"
  | stringFromCharCode => "String.fromCharCode"
  | stringCharAt => "String.prototype.charAt"
  | stringReplace => "String.prototype.replace"
  | regExpExec => "RegExp.prototype.exec"
  | regExpTest => "RegExp.prototype.test"
  | unsafePutElements => "UnsafePutElements"
  | newDenseArray => "NewDenseArray"
  | unsafeSetReservedSlot => "UnsafeSetReservedSlot"
  | unsafeGetReservedSlot => "UnsafeGetReservedSlot"
  | shouldForceSequential => "ShouldForceSequential"
  | inParallelSection => "InParallelSection"
  | forkJoinGetSlice => "ForkJoinGetSlice"
  | isCallable => "IsCallable"
  | haveSameClass => "HaveSameClass"
  | toObject => "ToObject"
  | isObject => "IsObject"
  | toInteger => "ToInteger"
  | toString => "ToString"
  | isConstructing => "IsConstructing"
  | objectIsTypedObject => "ObjectIsTypedObject"
  | objectIsTransparentTypedObject => "ObjectIsTransparentTypedObject"
  | objectIsOpaqueTypedObject => "ObjectIsOpaqueTypedObject"
  | objectIsTypeDescr => "ObjectIsTypeDescr"
  | typeDescrIsSimpleType => "TypeDescrIsSimpleType"
  | typeDescrIsArrayType => "TypeDescrIsArrayType"
  | typeDescrIsSizedArrayType => "TypeDescrIsSizedArrayType"
  | typeDescrIsUnsizedArrayType => "TypeDescrIsUnsizedArrayType"
  | setTypedObjectOffset => "SetTypedObjectOffset"
  | testingInParallelSection => "inParallelSection"
  | testingBailout => "bailout"
  | testingAssertFloat32 => "assertFloat32"
  | callOrConstructBoundFunction => "(bound function)"
  | typedArrayLengthGetter _ => "get TypedArray.prototype.length"
  | sharedTypedArrayLengthGetter _ => "get SharedTypedArray.prototype.length"

/-- The name in messages, which tells getters of different element types apart. -/
def text (n : Native) : String :=
  match n with
  | typedArrayLengthGetter e | sharedTypedArrayLengthGetter e => n.name ++ s!" <{e}>"
  | _ => n.name

instance : ToString Native := ⟨text⟩

/-- The natives other than the getters, in declaration order. -/
def functions : List Native :=
  [atomicsCompareExchange, atomicsLoad, atomicsStore, atomicsFence, atomicsAdd, atomicsSub,
    atomicsAnd, atomicsOr, atomicsXor, arrayConstructor, arrayPop, arrayShift, arrayPush,
    arrayConcat, arrayJoin, arraySplice, mathAbs, mathFloor, mathCeil, mathRound, mathClz32,
    mathSqrt, mathAtan2, mathHypot, mathMax, mathMin, mathPow, mathRandom, mathImul, mathFround,
    mathSin, mathTan, mathCos, mathExp, mathLog, mathAtan, mathAsin, mathAcos, mathLog10,
    mathLog2, mathLog1p, mathExpm1, mathCosh, mathSinh, mathTanh, mathAcosh, mathAsinh, mathAtanh,
    mathSign, mathTrunc, mathCbrt, stringConstructor, stringSplit, stringCharCodeAt,
    stringFromCharCode, stringCharAt, stringReplace, regExpExec, regExpTest, unsafePutElements,
    newDenseArray, unsafeSetReservedSlot, unsafeGetReservedSlot, shouldForceSequential,
    inParallelSection, forkJoinGetSlice, isCallable, haveSameClass, toObject, isObject, toInteger,
    toString, isConstructing, objectIsTypedObject, objectIsTransparentTypedObject,
    objectIsOpaqueTypedObject, objectIsTypeDescr, typeDescrIsSimpleType, typeDescrIsArrayType,
    typeDescrIsSizedArrayType, typeDescrIsUnsizedArrayType, setTypedObjectOffset,
    testingInParallelSection, testingBailout, testingAssertFloat32, callOrConstructBoundFunction]

/-- The getters, one pair for each element type. -/
def getters : List Native :=
  Scalar.all.flatMap fun e => [typedArrayLengthGetter e, sharedTypedArrayLengthGetter e]

/-- The key in documents; for a getter, the key of its element type is the payload. -/
def key : Native → String
  | atomicsCompareExchange => "atomics_compare_exchange"
  | atomicsLoad => "atomics_load"
  | atomicsStore => "atomics_store"
  | atomicsFence => "atomics_fence"
  | atomicsAdd => "atomics_add"
  | atomicsSub => "atomics_sub"
  | atomicsAnd => "atomics_and"
  | atomicsOr => "atomics_or"
  | atomicsXor => "atomics_xor"
  | arrayConstructor => "array_constructor"
  | arrayPop => "array_pop"
  | arrayShift => "array_shift"
  | arrayPush => "array_push"
  | arrayConcat => "array_concat"
  | arrayJoin => "array_join"
  | arraySplice => "array_splice"
  | mathAbs => "math_abs"
  | mathFloor => "math_floor"
  | mathCeil => "math_ceil"
  | mathRound => "math_round"
  | mathClz32 => "math_clz32"
  | mathSqrt => "math_sqrt"
  | mathAtan2 => "math_atan2"
  | mathHypot => "math_hypot"
  | mathMax => "math_max"
  | mathMin => "math_min"
  | mathPow => "math_pow"
  | mathRandom => "math_random"
  | mathImul => "math_imul"
  | mathFround => "math_fround"
  | mathSin => "math_sin"
  | mathTan => "math_tan"
  | mathCos => "math_cos"
  | mathExp => "math_exp"
  | mathLog => "math_log"
  | mathAtan => "math_atan"
  | mathAsin => "math_asin"
  | mathAcos => "math_acos"
  | mathLog10 => "math_log10"
  | mathLog2 => "math_log2"
  | mathLog1p => "math_log1p"
  | mathExpm1 => "math_expm1"
  | mathCosh => "math_cosh"
  | mathSinh => "math_sinh"
  | mathTanh => "math_tanh"
  | mathAcosh => "math_acosh"
  | mathAsinh => "math_asinh"
  | mathAtanh => "math_atanh"
  | mathSign => "math_sign"
  | mathTrunc => "math_trunc"
  | mathCbrt => "math_cbrt"
  | stringConstructor => "string_constructor"
  | stringSplit => "string_split"
  | stringCharCodeAt => "string_char_code_at"
  | stringFromCharCode => "string_from_char_code"
  | stringCharAt => "string_char_at"
  | stringReplace => "string_replace"
  | regExpExec => "reg_exp_exec"
  | regExpTest => "reg_exp_test"
  | unsafePutElements => "unsafe_put_elements"
  | newDenseArray => "new_dense_array"
  | unsafeSetReservedSlot => "unsafe_set_reserved_slot"
  | unsafeGetReservedSlot => "unsafe_get_reserved_slot"
  | shouldForceSequential => "should_force_sequential"
  | inParallelSection => "in_parallel_section"
  | forkJoinGetSlice => "fork_join_get_slice"
  | isCallable => "is_callable"
  | haveSameClass => "have_same_class"
  | toObject => "to_object"
  | isObject => "is_object"
  | toInteger => "to_integer"
  | toString => "to_string"
  | isConstructing => "is_constructing"
  | objectIsTypedObject => "object_is_typed_object"
  | objectIsTransparentTypedObject => "object_is_transparent_typed_object"
  | objectIsOpaqueTypedObject => "object_is_opaque_typed_object"
  | objectIsTypeDescr => "object_is_type_descr"
  | typeDescrIsSimpleType => "type_descr_is_simple_type"
  | typeDescrIsArrayType => "type_descr_is_array_type"
  | typeDescrIsSizedArrayType => "type_descr_is_sized_array_type"
  | typeDescrIsUnsizedArrayType => "type_descr_is_unsized_array_type"
  | setTypedObjectOffset => "set_typed_object_offset"
  | testingInParallelSection => "testing_in_parallel_section"
  | testingBailout => "testing_bailout"
  | testingAssertFloat32 => "testing_assert_float32"
  | callOrConstructBoundFunction => "call_or_construct_bound_function"
  | typedArrayLengthGetter _ => "typed_array_length_getter"
  | sharedTypedArrayLengthGetter _ => "shared_typed_array_length_getter"

/-- **Every native is listed**, among the functions or among the getters. -/
theorem mem_functions_or_getters (n : Native) : n ∈ functions ∨ n ∈ getters := by
  cases n with
  | typedArrayLengthGetter e => exact Or.inr (by cases e <;> decide)
  | sharedTypedArrayLengthGetter e => exact Or.inr (by cases e <;> decide)
  | _ => exact Or.inl (by decide)

end Native

end CallSite
