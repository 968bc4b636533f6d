import CallSite.Proofs.Operations.Memory
import CallSite.Proofs.Operations.Numbers
import CallSite.Proofs.Orderly.Registry

/-!
# Which native emits what

The operations of a plan tell for which natives it can be.  `Native.mayEmit` is the table; a plan of
the registry adds no other nodes, guards of the result and the fork-join context apart.

* `Native.mayEmit` — **the table**: the operations that calls of a native can be specialized to.
* `Native.eq_of_mayEmit_loadFixedSlot` and its companions — operations that tell the native.
* `Inliner.Origin`, `Inliner.Origin.emits` — where a plan comes from, and **that it keeps to the
  table**.
-/

namespace CallSite

/-- **The operations that calls of a native can be specialized to**, guards of the result and the
fork-join context apart. -/
def Native.mayEmit (n : Native) (op : Op) : Bool :=
  match n with
  | atomicsCompareExchange =>
    (op matches .typedArrayLength | .boundsCheck | .typedArrayElements | .truncateToInt32
      | .compareExchangeTypedElement _)
  | atomicsLoad =>
    (op matches .typedArrayLength | .boundsCheck | .typedArrayElements
      | .loadTypedElement _ .seqCst)
  | atomicsStore =>
    (op matches .typedArrayLength | .boundsCheck | .typedArrayElements | .truncateToInt32
      | .storeTypedElement _ .seqCst)
  | atomicsAdd | atomicsSub | atomicsAnd | atomicsOr | atomicsXor =>
    (op matches .typedArrayLength | .boundsCheck | .typedArrayElements | .truncateToInt32
      | .atomicTypedElement ..)
  | atomicsFence => (op matches .memoryBarrier | .constant _)
  | arrayConstructor =>
    (op matches .constant _ | .newArray .. | .elements | .toDouble | .postWriteBarrier
      | .initializeElement | .setInitializedLength)
  | arrayPop | arrayShift => (op matches .maybeCopyElementsForWrite | .arrayRemove ..)
  | arrayPush =>
    (op matches .toDouble | .maybeCopyElementsForWrite | .postWriteBarrier | .arrayPush)
  | arrayConcat => (op matches .constant _ | .arrayConcat _)
  | arrayJoin => (op matches .arrayJoin)
  | arraySplice => (op matches .arraySplice | .constant _)
  | mathAbs => (op matches .abs)
  | mathFloor => (op matches .limitedTruncate _ | .floor | .mathFunction _)
  | mathCeil => (op matches .limitedTruncate _ | .ceil | .mathFunction _)
  | mathRound => (op matches .limitedTruncate _ | .round | .mathFunction _)
  | mathClz32 => (op matches .clz32)
  | mathSqrt => (op matches .sqrt)
  | mathAtan2 => (op matches .atan2)
  | mathHypot => (op matches .hypot)
  | mathMax | mathMin => (op matches .limitedTruncate _ | .minMax _)
  | mathPow =>
    (op matches .powHalf | .constant _ | .div | .mul | .pow | .toInt32 | .toDouble)
  | mathRandom => (op matches .random)
  | mathImul => (op matches .truncateToInt32 | .mul)
  | mathFround => (op matches .toFloat32)
  | mathSin | mathTan | mathCos | mathExp | mathLog | mathAtan | mathAsin | mathAcos | mathLog10
  | mathLog2 | mathLog1p | mathExpm1 | mathCosh | mathSinh | mathTanh | mathAcosh | mathAsinh
  | mathAtanh | mathSign | mathTrunc | mathCbrt => (op matches .mathFunction _)
  | stringConstructor => (op matches .constant _ | .newStringObject)
  | stringSplit => (op matches .constant _ | .stringSplit)
  | stringCharCodeAt =>
    (op matches .constant _ | .toInt32 | .stringLength | .boundsCheck | .charCodeAt)
  | stringCharAt =>
    (op matches .constant _ | .toInt32 | .stringLength | .boundsCheck | .charCodeAt | .fromCharCode)
  | stringFromCharCode => (op matches .toInt32 | .fromCharCode)
  | stringReplace => (op matches .stringReplace | .regExpReplace)
  | regExpExec => (op matches .regExpExec | .regExpTest)
  | regExpTest => (op matches .regExpTest)
  | unsafePutElements =>
    ElementStore.isPart op || (op matches .constant _ | .toInt32)
  | newDenseArray => (op matches .constant _ | .newDenseArray)
  | unsafeSetReservedSlot => (op matches .postWriteBarrier | .storeFixedSlot _ | .constant _)
  | unsafeGetReservedSlot => (op matches .loadFixedSlot _)
  | shouldForceSequential | inParallelSection | testingInParallelSection => (op matches .constant _)
  | forkJoinGetSlice => (op matches .forkJoinGetSlice)
  | isCallable => (op matches .constant _ | .isCallable)
  | haveSameClass => (op matches .constant _ | .haveSameClass)
  | toObject => false
  | isObject => (op matches .isObject)
  | toInteger => (op matches .toInt32)
  | toString => (op matches .toString)
  | isConstructing => (op matches .constant _ | .isConstructing)
  | objectIsTypedObject | objectIsTransparentTypedObject | objectIsOpaqueTypedObject
  | typeDescrIsSimpleType | typeDescrIsArrayType | typeDescrIsSizedArrayType
  | typeDescrIsUnsizedArrayType => (op matches .constant _ | .hasClass _)
  | objectIsTypeDescr => (op matches .constant _)
  | setTypedObjectOffset => (op matches .setTypedObjectOffset | .constant _)
  | testingBailout => (op matches .bail | .constant _)
  | testingAssertFloat32 => (op matches .assertFloat32 _ | .constant _)
  | callOrConstructBoundFunction => (op matches .constant _ | .call ..)
  | typedArrayLengthGetter _ | sharedTypedArrayLengthGetter _ => (op matches .typedArrayLength)

/-- The operations that calls of a callee can be specialized to; a descriptor allocates a typed
object. -/
def Callee.mayEmit (callee : Callee) (op : Op) : Bool :=
  match callee with
  | function f => f.native?.any (·.mayEmit op)
  | descriptor _ => (op matches .constant _ | .newTypedObject _)

/-! ## What only few natives emit -/

namespace Native

variable {n : Native}

/-- No native emits a guard of its result by itself. -/
@[simp] lemma mayEmit_typeBarrier (n : Native) (kind : Barrier) :
    n.mayEmit (.typeBarrier kind) = false := by
  cases n <;> rfl

/-- No native emits the fork-join context by itself. -/
@[simp] lemma mayEmit_forkJoinContext (n : Native) : n.mayEmit .forkJoinContext = false := by
  cases n <;> rfl

lemma eq_of_mayEmit_loadFixedSlot {slot : UInt32} (h : n.mayEmit (.loadFixedSlot slot) = true) :
    n = unsafeGetReservedSlot := by
  cases n <;> first | rfl | cases h

lemma eq_of_mayEmit_regExpExec (h : n.mayEmit .regExpExec = true) : n = regExpExec := by
  cases n <;> first | rfl | cases h

lemma eq_of_mayEmit_call {target : ObjectId} {argc : UInt32} {constructing : Bool}
    (h : n.mayEmit (.call target argc constructing) = true) :
    n = callOrConstructBoundFunction := by
  cases n <;> first | rfl | cases h

end Native

namespace Callee

variable {callee : Callee}

@[simp] lemma mayEmit_typeBarrier (callee : Callee) (kind : Barrier) :
    callee.mayEmit (.typeBarrier kind) = false := by
  cases callee with
  | function f => cases h : f.native? <;> simp [mayEmit, h]
  | descriptor d => rfl

@[simp] lemma mayEmit_forkJoinContext (callee : Callee) :
    callee.mayEmit .forkJoinContext = false := by
  cases callee with
  | function f => cases h : f.native? <;> simp [mayEmit, h]
  | descriptor d => rfl

end Callee

/-! ## The registry -/

namespace Specializer

/-- **Every plan of the specializer adds nodes of a kind only**, whatever the call. -/
def Emits (S : Op → Prop) (p : Specializer) : Prop := ∀ f s, (p.decide f s).Yields (Plan.Emits S)

end Specializer

namespace Registry

lemma forall_mem_some_emits {S : Op → Prop} {p : Specializer} :
    (∀ q ∈ some p, q.Emits S) ↔ ∀ f s, (p.decide f s).Yields (Plan.Emits S) := by
  simp [Specializer.Emits]

open Specializer in
/-- The specializers for calls keep to the table. -/
lemma call?_emits (native : Native) : ∀ p ∈ call? native, p.Emits (native.mayEmit · = true) := by
  fun_cases call? native <;>
    simp only [forall_mem_some_emits, decide_plain, decide_mathFunction, decide_rounding,
      decide_minMax, decide_remove, decide_atomicUpdate, decide_hasClass, decide_boundFunction,
      implies_true, Native.mayEmit, BoundCall.specialize_emits,
      Arithmetic.mathFunction_emits, Arithmetic.abs_emits, Arithmetic.clz32_emits,
      Arithmetic.sqrt_emits, Arithmetic.atan2_emits, Arithmetic.hypot_emits,
      Arithmetic.random_emits, Arithmetic.imul_emits, Arithmetic.fround_emits,
      Arithmetic.power_emits, Arithmetic.minMax_emits, ArrayCreation.construct_emits,
      ArrayCreation.concat_emits, ArrayCreation.newDense_emits, ArrayUpdate.push_emits,
      ArrayUpdate.remove_emits, ArrayUpdate.splice_emits, ArrayUpdate.join_emits,
      Objects.hasClass_emits, Objects.isTypeDescr_emits,
      Objects.isCallable_emits, Objects.haveSameClass_emits, Objects.toObject_emits,
      Objects.isObject_emits, Objects.toInteger_emits, Objects.setReservedSlot_emits,
      Objects.getReservedSlot_emits, RegExps.exec_emits, RegExps.test_emits,
      Strings.charCodeAt_emits, Strings.charAt_emits, Strings.fromCharCode_emits,
      Strings.toString_emits, Strings.replace_emits, Strings.construct_emits, Strings.split_emits,
      Surroundings.inParallelSection_emits, Surroundings.forkJoinSlice_emits,
      Surroundings.isConstructing_emits, Surroundings.bailout_emits,
      Surroundings.assertFloat32_emits, TypedMemory.setOffset_emits,
      TypedMemory.compareExchange_emits, TypedMemory.load_emits, TypedMemory.store_emits,
      TypedMemory.update_emits, TypedMemory.fence_emits, Option.not_mem_none, IsEmpty.forall_iff]
  · exact fun _ s => Arithmetic.rounding_emits s rfl rfl rfl
  · exact fun _ s => Arithmetic.rounding_emits s rfl rfl rfl
  · exact fun _ s => Arithmetic.rounding_emits s rfl rfl rfl
  · intro _ s
    exact ElementStore.putElements_emits s (fun _ => Bool.or_true _) (Bool.or_true _)
      fun op hop => Bool.or_eq_true_iff.2 (.inl hop)

lemma getter?_emits (native : Native) :
    ∀ p ∈ getter? native, p.Emits (native.mayEmit · = true) := by
  fun_cases getter? native
  · exact forall_mem_some_emits.2 fun _ s => TypedMemory.length_emits s _ _ rfl
  · exact forall_mem_some_emits.2 fun _ s => TypedMemory.length_emits s _ _ rfl
  · intro p hp
    cases hp

/-- **The plans of the registry keep to the table.** -/
theorem find?_emits {kind : CallKind} {native : Native} {p : Specializer}
    (h : find? kind native = some p) : p.Emits (native.mayEmit · = true) := by
  cases kind with
  | call => exact call?_emits native p h
  | getter => exact getter?_emits native p h

end Registry

/-! ## Decisions about a call -/

namespace Inliner

/-- **Where a plan can come from**: the registry, for the native that the callee dispatches on, or
the construct hook of a descriptor. -/
inductive Origin (s : Site) (p : Plan) : Callee → Prop where
  | native {f : FunctionObject} {native : Native} {specializer : Specializer}
      (hnative : f.native? = some native)
      (hfind : Registry.find? s.call.kind native = some specializer)
      (hdecide : specializer.decide f s = .ok p) : Origin s p (.function f)
  | descriptor {d : DescriptorObject} (hdecide : TypedMemory.construct d s = .ok p) :
      Origin s p (.descriptor d)

lemma origin_of_decide {i : Inliner} {call : Call Operand} {callee : Callee} {log : List Event}
    {p : Plan} (h : i.decide call callee = (log, .ok p)) : Origin (i.site call) p callee := by
  rw [Inliner.decide.eq_def] at h
  dsimp only at h
  split_ifs at h
  · cases h
  · cases h
  · cases callee with
    | descriptor d => exact .descriptor (congrArg Prod.snd h)
    | function f =>
      dsimp only at h
      rw [decideFunction] at h
      split at h
      · cases h
      · next native hnative =>
        split at h
        · cases h
        · next specializer hfind => exact .native hnative hfind (congrArg Prod.snd h)

/-- **A plan keeps to the table** for its callee. -/
theorem Origin.emits {s : Site} {p : Plan} {callee : Callee} (h : Origin s p callee) :
    p.Emits (callee.mayEmit · = true) := by
  cases h with
  | @native f native specializer hnative hfind hdecide =>
    intro op hop
    rw [Callee.mayEmit, hnative]
    exact Registry.find?_emits hfind f s p hdecide op hop
  | @descriptor d hdecide =>
    exact TypedMemory.construct_emits s d (fun _ => rfl) (fun _ => rfl) p hdecide

/-- **A plan that is not quiet** is one of a native that may emit what is not; the construct hook
of a descriptor gives a constant and an object. -/
theorem Origin.emits_or_exists_native {s : Site} {p : Plan} {callee : Callee}
    (h : Origin s p callee) (quiet : Op → Prop) (constant : ∀ c, quiet (.constant c))
    (allocate : ∀ heap, quiet (.newTypedObject heap)) :
    p.Emits quiet ∨ ∃ f native specializer op,
      Registry.find? s.call.kind native = some specializer ∧ specializer.decide f s = .ok p ∧
      native.mayEmit op = true ∧ ¬quiet op := by
  by_cases hquiet : p.Emits quiet
  · exact .inl hquiet
  cases h with
  | @descriptor d hdecide =>
    exact absurd (TypedMemory.construct_emits s d constant allocate p hdecide) hquiet
  | @native f native specializer hnative hfind hdecide =>
    simp only [Plan.Emits, not_forall] at hquiet
    obtain ⟨op, hop, hnot⟩ := hquiet
    have hemits := Registry.find?_emits hfind f s p hdecide op hop
    exact .inr ⟨f, native, specializer, op, hfind, hdecide, hemits, hnot⟩

/-- The steps of a plan add no guards by themselves. -/
lemma Origin.emits_no_barrier {s : Site} {p : Plan} {callee : Callee} (h : Origin s p callee) :
    p.Emits fun op => ∀ kind, op ≠ .typeBarrier kind := by
  rintro op hop kind rfl
  have hemits := h.emits _ hop
  simp at hemits

end Inliner

end CallSite
