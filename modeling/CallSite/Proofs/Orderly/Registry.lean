import CallSite.Proofs.Orderly.Arithmetic
import CallSite.Proofs.Orderly.Memory
import CallSite.Proofs.Orderly.Strings
import CallSite.Specialize.Attempt

/-!
# Every plan is orderly

The last plan is that of a call through a bound function, which adds as many constants as there are
bound arguments.  With it every decision of the registry ends in an orderly plan, if it ends in a
plan at all, and so does the decision about a call, whoever the callee is.
-/

namespace CallSite

open Draft (Prepares prepares_add)
open Plan (orderly_relyingOn)
open Progress (open_start)
open Site (arg_available)

/-! ## Bound functions -/

namespace BoundCall

variable {scope : List Ref} {σ : Progress}

/-- Adding constants gives values that can be mentioned. -/
lemma reaches_constants (cs : List Constant) {holds : List Operand → Progress → Prop}
    (hσ : σ.guarded = false)
    (h : ∀ vs n, (∀ v ∈ vs, v.ref.Available scope (σ.grow n).added) → holds vs (σ.grow n)) :
    (constants cs).Reaches scope σ holds := by
  induction cs generalizing σ holds with
  | nil => exact Draft.reaches_pure (h [] 0 (by simp))
  | cons c cs ih =>
    refine Prepares.then (prepares_add (by simp) hσ rfl) fun v m hv => Draft.reaches_bind ?_
    refine ih hσ fun vs n hvs => Draft.reaches_pure ?_
    have hv' := hv.grow n
    rw [Progress.grow_grow] at hv' hvs ⊢
    exact h (v :: vs) (m + n) (by simpa [hv'] using hvs)

lemma forward_orderly (s : Site) (target : FunctionObject) (receiver : Constant)
    (bound : List Constant) : (Plan.of (forward s target receiver bound)).Orderly s := by
  refine orderly_relyingOn ?_
  refine Prepares.then (prepares_add (by simp) rfl rfl) fun callee l hcallee => ?_
  refine Prepares.then (prepares_add (by simp) rfl rfl) fun receiver m hreceiver => ?_
  refine Draft.reaches_bind (reaches_constants bound rfl fun bound n hbound => ?_)
  refine Draft.completes_effectfulResult (((open_start.grow l).grow m).grow n) ?_
  have hcallee' := (hcallee.grow m).grow n
  have hreceiver' := hreceiver.grow n
  simp only [List.mem_cons, List.mem_append]
  rintro x (rfl | rfl | hx | hx)
  · exact hcallee'
  · exact hreceiver'
  · exact hbound x hx
  · exact arg_available hx

lemma specialize_orderly (f : FunctionObject) (s : Site) :
    (specialize f s).Ensures (Plan.Orderly s) := by
  rw [specialize]
  simp only [Decide.ensures_bind, Site.ensures_classify]
  intro _
  split
  · split_ifs
    · simp only [Decide.ensures_bind, Decide.ensures_require, Decide.ensures_pure]
      exact fun _ _ _ _ _ => forward_orderly ..
    · simp only [Decide.ensures_bind, Decide.ensures_require, Decide.ensures_pure]
      exact fun _ _ _ _ => forward_orderly ..
  · trivial
  · trivial
  · trivial

end BoundCall

/-! ## The registry -/

namespace Specializer

/-- **Every plan of the specializer is orderly**, whatever the call. -/
def Orderly (p : Specializer) : Prop := ∀ f s, (p.decide f s).Ensures (Plan.Orderly s)

lemma decide_plain (d : Site → Decide Plan) (run : Inliner → Call NodeId → Routine Status) :
    (plain d run).decide = fun _ => d := rfl

lemma decide_mathFunction (f : MathFunction) :
    (mathFunction f).decide = fun _ => Arithmetic.mathFunction f := rfl

lemma decide_rounding (r : Arithmetic.Rounding) :
    (rounding r).decide = fun _ => Arithmetic.rounding r := rfl

lemma decide_minMax (isMax : Bool) : (minMax isMax).decide = fun _ => Arithmetic.minMax isMax := rfl

lemma decide_remove (side : RemovalSide) :
    (remove side).decide = fun _ => ArrayUpdate.remove side := rfl

lemma decide_atomicUpdate (operator : AtomicOperator) :
    (atomicUpdate operator).decide = fun _ => TypedMemory.update operator := rfl

lemma decide_hasClass (candidates : List ObjectClass) :
    (hasClass candidates).decide = fun _ => Objects.hasClass candidates := rfl

lemma decide_boundFunction : boundFunction.decide = BoundCall.specialize := rfl

end Specializer

namespace Registry

lemma forall_mem_some {p : Specializer} :
    (∀ q ∈ some p, q.Orderly) ↔ ∀ f s, (p.decide f s).Ensures (Plan.Orderly s) := by
  simp [Specializer.Orderly]

open Specializer in
lemma call?_orderly (native : Native) : ∀ p ∈ call? native, p.Orderly := by
  fun_cases call? native <;>
    simp only [forall_mem_some, decide_plain, decide_mathFunction, decide_rounding, decide_minMax,
      decide_remove, decide_atomicUpdate, decide_hasClass, decide_boundFunction, implies_true,
      BoundCall.specialize_orderly,
      Arithmetic.mathFunction_orderly, Arithmetic.abs_orderly, Arithmetic.rounding_orderly,
      Arithmetic.clz32_orderly, Arithmetic.sqrt_orderly, Arithmetic.atan2_orderly, Arithmetic.hypot_orderly,
      Arithmetic.random_orderly, Arithmetic.imul_orderly,
      Arithmetic.fround_orderly, Arithmetic.power_orderly, Arithmetic.minMax_orderly,
      ArrayCreation.construct_orderly, ArrayCreation.concat_orderly,
      ArrayCreation.newDense_orderly, ArrayUpdate.push_orderly, ArrayUpdate.remove_orderly,
      ArrayUpdate.splice_orderly, ArrayUpdate.join_orderly, ElementStore.putElements_orderly,
      Objects.hasClass_orderly, Objects.isTypeDescr_orderly, Objects.isCallable_orderly,
      Objects.haveSameClass_orderly, Objects.toObject_orderly, Objects.isObject_orderly,
      Objects.toInteger_orderly, Objects.setReservedSlot_orderly,
      Objects.getReservedSlot_orderly, RegExps.exec_orderly, RegExps.test_orderly,
      Strings.charCodeAt_orderly, Strings.charAt_orderly, Strings.fromCharCode_orderly,
      Strings.toString_orderly, Strings.replace_orderly, Strings.construct_orderly,
      Strings.split_orderly, Surroundings.inParallelSection_orderly,
      Surroundings.forkJoinSlice_orderly, Surroundings.isConstructing_orderly,
      Surroundings.bailout_orderly, Surroundings.assertFloat32_orderly,
      TypedMemory.setOffset_orderly, TypedMemory.compareExchange_orderly,
      TypedMemory.load_orderly, TypedMemory.store_orderly, TypedMemory.update_orderly,
      TypedMemory.fence_orderly, Option.not_mem_none, IsEmpty.forall_iff]

lemma getter?_orderly (native : Native) : ∀ p ∈ getter? native, p.Orderly := by
  fun_cases getter? native
  · exact forall_mem_some.2 fun _ => TypedMemory.length_orderly _ _
  · exact forall_mem_some.2 fun _ => TypedMemory.length_orderly _ _
  · intro p hp
    cases hp

/-- **Every plan of the registry is orderly.** -/
theorem find?_orderly {kind : CallKind} {native : Native} {p : Specializer}
    (h : find? kind native = some p) : p.Orderly := by
  cases kind with
  | call => exact call?_orderly native p h
  | getter => exact getter?_orderly native p h

end Registry

/-! ## Decisions about a call -/

namespace Inliner

variable {i : Inliner} {call : Call Operand} {callee : Callee}

lemma decide_of_disabled (hdisabled : i.config.inlineNatives = false) :
    i.decide call callee = ([], Decide.decline .disabled) := by
  rw [decide.eq_def]
  dsimp only
  rw [hdisabled, Bool.not_false, if_pos rfl]

lemma decide_of_lt_argc (henabled : i.config.inlineNatives = true)
    (hargc : i.config.maxCallArgs.toNat < call.argc) :
    i.decide call callee =
      ([], Decide.decline (.tooManyArguments i.config.maxCallArgs call.argc)) := by
  rw [decide.eq_def]
  dsimp only
  rw [henabled, Bool.not_true, if_neg Bool.false_ne_true, if_pos hargc]

/-- What passes the guards is decided by its callee. -/
lemma decide_of_argc_le (henabled : i.config.inlineNatives = true)
    (hargc : call.argc ≤ i.config.maxCallArgs.toNat) :
    (∀ f, i.decide call (.function f) = decideFunction (i.site call) f) ∧
      ∀ d, i.decide call (.descriptor d) = ([], TypedMemory.construct d (i.site call)) := by
  constructor <;> intro x <;> rw [decide.eq_def] <;> dsimp only <;>
    rw [henabled, Bool.not_true, if_neg Bool.false_ne_true, if_neg (Nat.not_lt.2 hargc)]

end Inliner

/-- **Every decision about a call** declines it or gives an orderly plan; it never asks for an
argument that the call does not have. -/
theorem Inliner.decide_orderly (i : Inliner) (call : Call Operand) (callee : Callee) :
    (i.decide call callee).2.Ensures (Plan.Orderly (i.site call)) := by
  rw [Inliner.decide.eq_def]
  dsimp only
  split_ifs
  · trivial
  · trivial
  · cases callee with
    | function f =>
      dsimp only
      rw [decideFunction]
      split
      · trivial
      · split
        · trivial
        · next p hp => exact Registry.find?_orderly hp f (i.site call)
    | descriptor d => exact TypedMemory.construct_orderly d (i.site call)

end CallSite
