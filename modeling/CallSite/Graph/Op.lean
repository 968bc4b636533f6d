import CallSite.FunctionObject
import CallSite.Types.Feasibility

/-!
# Operations

What a node of the graph computes.  An operation is *effectful* if the interpreter can observe
that it has happened: a bailout after it has to resume past the call.

* `Op` — the operations.
* `Op.isEffectful` — which of them need a resume point.
* `Op.mnemonic`, `Op.text` — their names and their texts in a dump.
-/

namespace CallSite

/-! ## Parameters of operations -/

/-- The math routines that are called out of line. -/
inductive MathFunction where
  | sin
  | tan
  | cos
  | exp
  | log
  | atan
  | asin
  | acos
  | log10
  | log2
  | log1p
  | expm1
  | cosh
  | sinh
  | tanh
  | acosh
  | asinh
  | atanh
  | sign
  | trunc
  | cbrt
  | floor
  | ceil
  | round
  deriving DecidableEq, Repr, Inhabited

namespace MathFunction

/-- Every routine, in declaration order. -/
def all : List MathFunction :=
  [sin, tan, cos, exp, log, atan, asin, acos, log10, log2, log1p, expm1, cosh, sinh, tanh, acosh,
    asinh, atanh, sign, trunc, cbrt, floor, ceil, round]

def name : MathFunction → String
  | sin => "sin"
  | tan => "tan"
  | cos => "cos"
  | exp => "exp"
  | log => "log"
  | atan => "atan"
  | asin => "asin"
  | acos => "acos"
  | log10 => "log10"
  | log2 => "log2"
  | log1p => "log1p"
  | expm1 => "expm1"
  | cosh => "cosh"
  | sinh => "sinh"
  | tanh => "tanh"
  | acosh => "acosh"
  | asinh => "asinh"
  | atanh => "atanh"
  | sign => "sign"
  | trunc => "trunc"
  | cbrt => "cbrt"
  | floor => "floor"
  | ceil => "ceil"
  | round => "round"

end MathFunction

/-- What range analysis may assume of an identity truncation: nothing, or that its operand may be
truncated if its consumers allow it. -/
inductive TruncateKind where
  | noTruncate
  | indirectTruncate
  deriving DecidableEq, Repr, Inhabited

def TruncateKind.name : TruncateKind → String
  | .noTruncate => "NoTruncate"
  | .indirectTruncate => "IndirectTruncate"

/-- The side of an array on which an element is removed. -/
inductive RemovalSide where
  | pop
  | shift
  deriving DecidableEq, Repr, Inhabited

def RemovalSide.name : RemovalSide → String
  | .pop => "Pop"
  | .shift => "Shift"

/-- The operator of an atomic read-modify-write. -/
inductive AtomicOperator where
  | add
  | sub
  | and
  | or
  | xor
  deriving DecidableEq, Repr, Inhabited

namespace AtomicOperator

def all : List AtomicOperator := [add, sub, and, or, xor]

def name : AtomicOperator → String
  | add => "Add"
  | sub => "Sub"
  | and => "And"
  | or => "Or"
  | xor => "Xor"

end AtomicOperator

/-- The ordering of a typed-array access; `seqCst` is a full barrier before and after it. -/
inductive MemoryOrdering where
  | unordered
  | seqCst
  deriving DecidableEq, Repr, Inhabited

def MemoryOrdering.name : MemoryOrdering → String
  | .unordered => "Unordered"
  | .seqCst => "SeqCst"

/-! ## Operations -/

/-- **What a node computes.** -/
inductive Op where
  -- values
  | parameter (index : UInt16)
  | constant (value : Constant)
  -- arithmetic
  | abs
  | floor
  | ceil
  | round
  | mathFunction (function : MathFunction)
  | limitedTruncate (kind : TruncateKind)
  | clz32
  | sqrt
  | atan2
  | hypot
  | pow
  | powHalf
  | random
  | mul
  | div
  | minMax (isMax : Bool)
  -- conversions
  | toInt32
  | truncateToInt32
  | toDouble
  | toFloat32
  | toString
  | clampToUint8
  -- arrays and their elements
  | newArray (length : UInt32) (allocating : Bool) (heap : Heap) (convertDoubles : Bool)
  | elements
  /-- A store into a fresh object that nothing else sees yet. -/
  | initializeElement
  | setInitializedLength
  | storeElement (needsHoleCheck : Bool)
  | maybeCopyElementsForWrite
  | postWriteBarrier
  | arrayRemove (side : RemovalSide) (needsHoleCheck maybeUndefined : Bool)
  | arrayPush
  | arrayConcat (heap : Heap)
  | arraySplice
  | arrayJoin
  | newDenseArray
  | forkJoinContext
  | forkJoinGetSlice
  -- strings and regular expressions
  | newStringObject
  | stringSplit
  | stringLength
  | charCodeAt
  | fromCharCode
  | stringReplace
  | regExpReplace
  | regExpExec
  | regExpTest
  -- guards
  | boundsCheck
  | typeBarrier (kind : Barrier)
  | bail
  | assertFloat32 (mustBe : Bool)
  -- objects
  | storeFixedSlot (slot : UInt32)
  | loadFixedSlot (slot : UInt32)
  | haveSameClass
  | isCallable
  | isObject
  /-- Whether the class of the operand is one of the candidates. -/
  | hasClass (candidates : List ObjectClass)
  | isConstructing
  -- typed arrays and typed objects
  | typedArrayLength
  | typedArrayElements
  | loadTypedElement (element : Scalar) (ordering : MemoryOrdering)
  | storeTypedElement (element : Scalar) (ordering : MemoryOrdering)
  | compareExchangeTypedElement (element : Scalar)
  | atomicTypedElement (operator : AtomicOperator) (element : Scalar)
  | memoryBarrier
  | storeTypedObjectElement (element : Scalar)
  | setTypedObjectOffset
  | newTypedObject (heap : Heap)
  -- calls
  | call (target : ObjectId) (argc : UInt32) (constructing : Bool)
  deriving DecidableEq, Inhabited

namespace Op

/-- **The interpreter can observe that the operation has happened.** -/
def isEffectful : Op → Bool
  | setInitializedLength | storeElement _ | arrayRemove .. | arrayPush | arrayConcat _
  | arraySplice | arrayJoin | newDenseArray | regExpReplace | regExpExec | regExpTest
  | storeFixedSlot _ | loadTypedElement _ .seqCst | storeTypedElement ..
  | compareExchangeTypedElement _ | atomicTypedElement .. | memoryBarrier
  | storeTypedObjectElement _ | setTypedObjectOffset | call .. => true
  | _ => false

/-- The constant that the operation is, if it is one. -/
def constant? : Op → Option Constant
  | constant c => some c
  | _ => none

/-- The name of the operation. -/
def mnemonic : Op → String
  | parameter _ => "parameter"
  | constant _ => "constant"
  | abs => "abs"
  | floor => "floor"
  | ceil => "ceil"
  | round => "round"
  | mathFunction _ => "mathfunction"
  | limitedTruncate _ => "limitedtruncate"
  | clz32 => "clz"
  | sqrt => "sqrt"
  | atan2 => "atan2"
  | hypot => "hypot"
  | pow => "pow"
  | powHalf => "powhalf"
  | random => "random"
  | mul => "mul"
  | div => "div"
  | minMax true => "max"
  | minMax false => "min"
  | toInt32 => "toint32"
  | truncateToInt32 => "truncatetoint32"
  | toDouble => "todouble"
  | toFloat32 => "tofloat32"
  | toString => "tostring"
  | clampToUint8 => "clamptouint8"
  | newArray .. => "newarray"
  | elements => "elements"
  | initializeElement => "initializeelement"
  | setInitializedLength => "setinitializedlength"
  | storeElement _ => "storeelement"
  | maybeCopyElementsForWrite => "maybecopyelementsforwrite"
  | postWriteBarrier => "postwritebarrier"
  | arrayRemove .pop .. => "arraypop"
  | arrayRemove .shift .. => "arrayshift"
  | arrayPush => "arraypush"
  | arrayConcat _ => "arrayconcat"
  | arraySplice => "arraysplice"
  | arrayJoin => "arrayjoin"
  | newDenseArray => "newdensearraypar"
  | forkJoinContext => "forkjoincontext"
  | forkJoinGetSlice => "forkjoingetslice"
  | newStringObject => "newstringobject"
  | stringSplit => "stringsplit"
  | stringLength => "stringlength"
  | charCodeAt => "charcodeat"
  | fromCharCode => "fromcharcode"
  | stringReplace => "stringreplace"
  | regExpReplace => "regexpreplace"
  | regExpExec => "regexpexec"
  | regExpTest => "regexptest"
  | boundsCheck => "boundscheck"
  | typeBarrier _ => "typebarrier"
  | bail => "bail"
  | assertFloat32 _ => "assertfloat32"
  | storeFixedSlot _ => "storefixedslot"
  | loadFixedSlot _ => "loadfixedslot"
  | haveSameClass => "havesameclass"
  | isCallable => "iscallable"
  | isObject => "isobject"
  | hasClass _ => "hasclass"
  | isConstructing => "isconstructing"
  | typedArrayLength => "typedarraylength"
  | typedArrayElements => "typedarrayelements"
  | loadTypedElement .. => "loadtypedarrayelement"
  | storeTypedElement .. => "storetypedarrayelement"
  | compareExchangeTypedElement _ => "compareexchangetypedarrayelement"
  | atomicTypedElement .. => "atomictypedarrayelementbinop"
  | memoryBarrier => "memorybarrier"
  | storeTypedObjectElement _ => "storetypedobjectelement"
  | setTypedObjectOffset => "settypedobjectoffset"
  | newTypedObject _ => "newtypedobject"
  | call .. => "call"

/-- The text of the operation in a dump: its mnemonic with the parameters that are shown. -/
def text : Op → String
  | parameter index => s!"parameter {index}"
  | constant value => s!"constant {value}"
  | mathFunction f => "mathfunction " ++ f.name
  | op@(storeFixedSlot slot) | op@(loadFixedSlot slot) => op.mnemonic ++ s!"[{slot}]"
  | hasClass candidates =>
    "hasclass [" ++ String.intercalate ", " (candidates.map ObjectClass.name) ++ "]"
  | op@(loadTypedElement element _) | op@(storeTypedElement element _)
  | op@(compareExchangeTypedElement element) | op@(storeTypedObjectElement element) =>
    op.mnemonic ++ s!"<{element}>"
  | atomicTypedElement operator element => "atomic" ++ operator.name ++ s!"<{element}>"
  | call target argc _ => s!"call {target} argc={argc}"
  | op => op.mnemonic

instance : ToString Op := ⟨text⟩

/-- The operations without parameters. -/
def bare : List Op :=
  [abs, floor, ceil, round, clz32, sqrt, atan2, hypot, pow, powHalf, random, mul, div,
    minMax true, minMax false, toInt32, truncateToInt32, toDouble, toFloat32, toString,
    clampToUint8, elements, initializeElement, setInitializedLength, maybeCopyElementsForWrite,
    postWriteBarrier, arrayPush, arraySplice, arrayJoin, newDenseArray, forkJoinContext,
    forkJoinGetSlice, newStringObject, stringSplit, stringLength, charCodeAt, fromCharCode,
    stringReplace, regExpReplace, regExpExec, regExpTest, boundsCheck, bail, haveSameClass,
    isCallable, isObject, isConstructing, typedArrayLength, typedArrayElements, memoryBarrier,
    setTypedObjectOffset]

end Op

end CallSite
