import CallSite.Routine.Arithmetic
import CallSite.Routine.BoundCall
import CallSite.Routine.ElementStores
import CallSite.Routine.Objects
import CallSite.Routine.Strings
import CallSite.Routine.TypedMemory

/-!
# The registry of specializers

Which decision is taken for which native, and which routine carries it out.  Getters have a registry
of their own, since a getter runs without an explicit call.

* `Specializer` — a decision and its routine under a label for listings and logs.
* `Registry.call?`, `Registry.getter?` — the specializer of a native.
* `Registry.entries` — the listing, in the order of names.
-/

namespace CallSite

/-- **A decision about calls of one native**, with its label and the routine that carries it out. -/
structure Specializer where
  label : String
  decide : FunctionObject → Site → Decide Plan
  /-- The specialization at work. -/
  run : FunctionObject → Inliner → Call NodeId → Routine Status

namespace Specializer

/-- A specializer that needs no parameter. -/
def plain (decide : Site → Decide Plan) (run : Inliner → Call NodeId → Routine Status) :
    Specializer := ⟨"Plain", fun _ => decide, fun _ => run⟩

def mathFunction (f : MathFunction) : Specializer :=
  ⟨"MathFunction(" ++ f.name ++ ")", fun _ => Arithmetic.mathFunction f,
    fun _ => Routine.inlineMathFunction f⟩

def rounding (r : Arithmetic.Rounding) : Specializer :=
  ⟨"Rounding(" ++ r.name ++ ")", fun _ => Arithmetic.rounding r,
    fun _ => Routine.inlineMathRounding r⟩

def minMax (isMax : Bool) : Specializer :=
  ⟨s!"MinMax \x7b is_max: {isMax} \x7d", fun _ => Arithmetic.minMax isMax,
    fun _ => Routine.inlineMathMinMax isMax⟩

def remove (side : RemovalSide) : Specializer :=
  ⟨"PopShift(" ++ side.name ++ ")", fun _ => ArrayUpdate.remove side,
    fun _ => Routine.inlineArrayPopShift side⟩

def atomicUpdate (operator : AtomicOperator) : Specializer :=
  ⟨"AtomicBinop(" ++ operator.name ++ ")", fun _ => TypedMemory.update operator,
    fun _ => Routine.inlineAtomicsBinop operator⟩

def hasClass (candidates : List ObjectClass) : Specializer :=
  ⟨"HasClass([" ++ String.intercalate ", " (candidates.map ObjectClass.name) ++ "])",
    fun _ => Objects.hasClass candidates, fun _ => Routine.inlineHasClass candidates⟩

def typedArrayLength (isShared : Bool) (element : Scalar) : Specializer :=
  ⟨s!"TypedArrayLength \x7b shared: {isShared}, scalar: {element} \x7d",
    fun _ => TypedMemory.length isShared element,
    fun _ => Routine.inlineTypedArrayLength isShared element⟩

def boundFunction : Specializer :=
  ⟨"BoundFunction", BoundCall.specialize, fun f i call => Routine.inlineBoundFunction i call f⟩

end Specializer

namespace Registry

/-- **The specializer for calls of a native.** -/
def call? : Native → Option Specializer
  | .atomicsCompareExchange =>
    some (.plain TypedMemory.compareExchange Routine.inlineAtomicsCompareExchange)
  | .atomicsLoad => some (.plain TypedMemory.load Routine.inlineAtomicsLoad)
  | .atomicsStore => some (.plain TypedMemory.store Routine.inlineAtomicsStore)
  | .atomicsFence => some (.plain TypedMemory.fence Routine.inlineAtomicsFence)
  | .atomicsAdd => some (.atomicUpdate .add)
  | .atomicsSub => some (.atomicUpdate .sub)
  | .atomicsAnd => some (.atomicUpdate .and)
  | .atomicsOr => some (.atomicUpdate .or)
  | .atomicsXor => some (.atomicUpdate .xor)
  | .arrayConstructor => some (.plain ArrayCreation.construct Routine.inlineArray)
  | .arrayPop => some (.remove .pop)
  | .arrayShift => some (.remove .shift)
  | .arrayPush => some (.plain ArrayUpdate.push Routine.inlineArrayPush)
  | .arrayConcat => some (.plain ArrayCreation.concat Routine.inlineArrayConcat)
  | .arrayJoin => some (.plain ArrayUpdate.join Routine.inlineArrayJoin)
  | .arraySplice => some (.plain ArrayUpdate.splice Routine.inlineArraySplice)
  | .mathAbs => some (.plain Arithmetic.abs Routine.inlineMathAbs)
  | .mathFloor => some (.rounding .floor)
  | .mathCeil => some (.rounding .ceil)
  | .mathRound => some (.rounding .round)
  | .mathClz32 => some (.plain Arithmetic.clz32 Routine.inlineMathClz32)
  | .mathSqrt => some (.plain Arithmetic.sqrt Routine.inlineMathSqrt)
  | .mathAtan2 => some (.plain Arithmetic.atan2 Routine.inlineMathAtan2)
  | .mathHypot => some (.plain Arithmetic.hypot Routine.inlineMathHypot)
  | .mathMax => some (.minMax true)
  | .mathMin => some (.minMax false)
  | .mathPow => some (.plain Arithmetic.power Routine.inlineMathPow)
  | .mathRandom => some (.plain Arithmetic.random Routine.inlineMathRandom)
  | .mathImul => some (.plain Arithmetic.imul Routine.inlineMathImul)
  | .mathFround => some (.plain Arithmetic.fround Routine.inlineMathFround)
  | .mathSin => some (.mathFunction .sin)
  | .mathTan => some (.mathFunction .tan)
  | .mathCos => some (.mathFunction .cos)
  | .mathExp => some (.mathFunction .exp)
  | .mathLog => some (.mathFunction .log)
  | .mathAtan => some (.mathFunction .atan)
  | .mathAsin => some (.mathFunction .asin)
  | .mathAcos => some (.mathFunction .acos)
  | .mathLog10 => some (.mathFunction .log10)
  | .mathLog2 => some (.mathFunction .log2)
  | .mathLog1p => some (.mathFunction .log1p)
  | .mathExpm1 => some (.mathFunction .expm1)
  | .mathCosh => some (.mathFunction .cosh)
  | .mathSinh => some (.mathFunction .sinh)
  | .mathTanh => some (.mathFunction .tanh)
  | .mathAcosh => some (.mathFunction .acosh)
  | .mathAsinh => some (.mathFunction .asinh)
  | .mathAtanh => some (.mathFunction .atanh)
  | .mathSign => some (.mathFunction .sign)
  | .mathTrunc => some (.mathFunction .trunc)
  | .mathCbrt => some (.mathFunction .cbrt)
  | .stringConstructor => some (.plain Strings.construct Routine.inlineStringObject)
  | .stringSplit => some (.plain Strings.split Routine.inlineStringSplit)
  | .stringCharCodeAt => some (.plain Strings.charCodeAt Routine.inlineStrCharCodeAt)
  | .stringFromCharCode => some (.plain Strings.fromCharCode Routine.inlineStrFromCharCode)
  | .stringCharAt => some (.plain Strings.charAt Routine.inlineStrCharAt)
  | .stringReplace => some (.plain Strings.replace Routine.inlineStrReplace)
  | .regExpExec => some (.plain RegExps.exec Routine.inlineRegExpExec)
  | .regExpTest => some (.plain RegExps.test Routine.inlineRegExpTest)
  | .unsafePutElements => some (.plain ElementStore.putElements Routine.inlineUnsafePutElements)
  | .newDenseArray => some (.plain ArrayCreation.newDense Routine.inlineNewDenseArray)
  | .unsafeSetReservedSlot =>
    some (.plain Objects.setReservedSlot Routine.inlineUnsafeSetReservedSlot)
  | .unsafeGetReservedSlot =>
    some (.plain Objects.getReservedSlot Routine.inlineUnsafeGetReservedSlot)
  | .shouldForceSequential =>
    some (.plain Surroundings.inParallelSection Routine.inlineInParallelSection)
  | .inParallelSection =>
    some (.plain Surroundings.inParallelSection Routine.inlineInParallelSection)
  | .forkJoinGetSlice => some (.plain Surroundings.forkJoinSlice Routine.inlineForkJoinGetSlice)
  | .isCallable => some (.plain Objects.isCallable Routine.inlineIsCallable)
  | .haveSameClass => some (.plain Objects.haveSameClass Routine.inlineHaveSameClass)
  | .toObject => some (.plain Objects.toObject Routine.inlineToObject)
  | .isObject => some (.plain Objects.isObject Routine.inlineIsObject)
  | .toInteger => some (.plain Objects.toInteger Routine.inlineToInteger)
  | .toString => some (.plain Strings.toString Routine.inlineToString)
  | .isConstructing => some (.plain Surroundings.isConstructing Routine.inlineIsConstructing)
  | .objectIsTypedObject => some (.hasClass ObjectClass.typedObjects)
  | .objectIsTransparentTypedObject => some (.hasClass ObjectClass.transparentTypedObjects)
  | .objectIsOpaqueTypedObject => some (.hasClass ObjectClass.opaqueTypedObjects)
  | .objectIsTypeDescr => some (.plain Objects.isTypeDescr Routine.inlineObjectIsTypeDescr)
  | .typeDescrIsSimpleType => some (.hasClass ObjectClass.simpleTypeDescrs)
  | .typeDescrIsArrayType => some (.hasClass ObjectClass.arrayTypeDescrs)
  | .typeDescrIsSizedArrayType => some (.hasClass ObjectClass.sizedArrayTypeDescrs)
  | .typeDescrIsUnsizedArrayType => some (.hasClass ObjectClass.unsizedArrayTypeDescrs)
  | .setTypedObjectOffset => some (.plain TypedMemory.setOffset Routine.inlineSetTypedObjectOffset)
  | .testingInParallelSection =>
    some (.plain Surroundings.inParallelSection Routine.inlineInParallelSection)
  | .testingBailout => some (.plain Surroundings.bailout Routine.inlineBailout)
  | .testingAssertFloat32 => some (.plain Surroundings.assertFloat32 Routine.inlineAssertFloat32)
  | .callOrConstructBoundFunction => some .boundFunction
  | .typedArrayLengthGetter _ | .sharedTypedArrayLengthGetter _ => none

/-- **The specializer for a native as a getter.** -/
def getter? : Native → Option Specializer
  | .typedArrayLengthGetter element => some (.typedArrayLength false element)
  | .sharedTypedArrayLengthGetter element => some (.typedArrayLength true element)
  | _ => none

/-- The specializer of a native for a kind of call. -/
def find? (kind : CallKind) (native : Native) : Option Specializer :=
  match kind with
  | .call => call? native
  | .getter => getter? native

/-- The natives that have a specializer for calls. -/
def callNatives : List Native := Native.functions.filter fun n => (call? n).isSome

/-- The natives that have a specializer as getters. -/
def getterNatives : List Native := Native.getters.filter fun n => (getter? n).isSome

/-- The number of specializers. -/
def size : Nat := callNatives.length + getterNatives.length

/-- **The listing**: the natives with a specializer for calls and its label, in the order of their
names. -/
def entries : List (Native × String) :=
  (callNatives.filterMap fun n => (call? n).map fun s => (n, s.label)).mergeSort
    fun a b => a.1.name ≤ b.1.name

end Registry

end CallSite
