import CallSite.Proofs.Drafts
import CallSite.Specialize.Objects
import CallSite.Specialize.Surroundings

/-!
# Plans for object intrinsics and for the surroundings of a call are orderly

A class predicate is a constant or one node; the stores and loads of reserved slots keep the order
of effect, result and guard.
-/

namespace CallSite

open Draft (Prepares Completes prepares_add)
open Plan (orderly_of_completes orderly_relyingOn orderly_result orderly_effectfulResult orderly_pushConstant)
open Progress (open_start)
open Site (arg_available)

namespace Objects

/-! ## Class predicates -/

/-- An answer that is known is a constant, any other a node. -/
lemma orderly_foldOr {s : Site} {known : Option Bool} {op : Op} {inputs : List Operand}
    (available : ∀ x ∈ inputs, x.ref.Available (s.scope false) 0) (quiet : op.isEffectful = false) :
    (Plan.of (foldOr known op inputs)).Orderly s := by
  cases known with
  | none => exact orderly_result available quiet
  | some answer => exact orderly_pushConstant

lemma hasClass_orderly (candidates : List ObjectClass) (s : Site) :
    (hasClass candidates s).Ensures (Plan.Orderly s) := by
  refine Site.ensures_one rfl fun x hx _ => ?_
  exact orderly_foldOr (by simp [arg_available, hx]) rfl

lemma isTypeDescr_orderly (s : Site) : (isTypeDescr s).Ensures (Plan.Orderly s) := by
  refine Site.ensures_one rfl fun x hx _ => ?_
  simp only [Decide.ensures_bind, Decide.ensures_need]
  intro types _
  split
  · exact orderly_pushConstant
  · exact orderly_pushConstant
  · exact orderly_pushConstant
  · trivial

lemma isCallable_orderly (s : Site) : (isCallable s).Ensures (Plan.Orderly s) := by
  refine Site.ensures_one rfl fun x hx _ => ?_
  exact orderly_foldOr (by simp [arg_available, hx]) rfl

lemma haveSameClass_orderly (s : Site) : (haveSameClass s).Ensures (Plan.Orderly s) := by
  refine Site.ensures_two rfl fun x y hxy _ => ?_
  exact orderly_foldOr (by simp [arg_available, hxy]) rfl

/-! ## Conversions -/

lemma toObject_orderly (s : Site) : (toObject s).Ensures (Plan.Orderly s) := by
  refine Site.ensures_one rfl fun x hx _ => orderly_relyingOn ?_
  exact Draft.completes_push open_start (arg_available (by simp [hx]))

lemma isObject_orderly (s : Site) : (isObject s).Ensures (Plan.Orderly s) := by
  refine Site.ensures_one rfl fun x hx _ => ?_
  exact orderly_result (by simp [arg_available, hx]) rfl

lemma toInteger_orderly (s : Site) : (toInteger s).Ensures (Plan.Orderly s) := by
  refine Site.ensures_one rfl fun x hx _ => ?_
  simp only [Decide.ensures_bind, Decide.ensures_require]
  intro _
  split_ifs
  · trivial
  · exact orderly_result (by simp [arg_available, hx]) rfl

/-! ## Reserved slots -/

/-- The slot is a constant, or the call is declined. -/
lemma constantSlot_ensures (x : Operand) : (constantSlot x).Ensures fun _ => True := by
  rw [constantSlot]
  split
  · split_ifs <;> trivial
  · trivial

/-- A barrier adds at most one node, without an effect. -/
lemma reaches_postBarrier {scope : List Ref} {σ : Progress} {object value : Operand}
    {holds : Unit → Progress → Prop} (hobject : object.ref.Available scope σ.added)
    (hvalue : value.ref.Available scope σ.added) (hσ : σ.guarded = false)
    (h : ∀ n, holds () (σ.grow n)) :
    (ArrayUpdate.postBarrier object value).Reaches scope σ holds := by
  rw [ArrayUpdate.postBarrier]
  split_ifs
  · refine (prepares_add (by simpa using ⟨hobject, hvalue⟩) hσ rfl).then fun _ n _ => ?_
    exact Draft.reaches_pure (h n)
  · exact Draft.reaches_pure (h 0)

lemma setReservedSlot_orderly (s : Site) : (setReservedSlot s).Ensures (Plan.Orderly s) := by
  rw [setReservedSlot]
  simp only [Decide.ensures_bind, Site.ensures_classify, Site.ensures_arg, Decide.ensures_pure]
  intro h
  obtain ⟨object, index, value, hargs⟩ := h.args_eq_three rfl
  refine ⟨index, by simp [hargs], (constantSlot_ensures index).imp fun slot _ => ?_⟩
  refine ⟨object, by simp [hargs], value, by simp [hargs], orderly_relyingOn ?_⟩
  have hobject : object ∈ s.args := by simp [hargs]
  have hvalue : value ∈ s.args := by simp [hargs]
  refine Draft.reaches_bind ?_
  refine reaches_postBarrier (arg_available hobject) (arg_available hvalue) rfl fun n => ?_
  exact Draft.completes_effect (open_start.grow n) (by simp [arg_available, hobject, hvalue])

lemma getReservedSlot_orderly (s : Site) : (getReservedSlot s).Ensures (Plan.Orderly s) := by
  rw [getReservedSlot]
  simp only [Decide.ensures_bind, Site.ensures_classify, Site.ensures_arg, Decide.ensures_pure]
  intro h
  obtain ⟨object, index, hargs⟩ := h.args_eq_two rfl
  refine ⟨index, by simp [hargs], (constantSlot_ensures index).imp fun slot _ => ?_⟩
  refine ⟨object, by simp [hargs], orderly_relyingOn ?_⟩
  have hobject : object ∈ s.args := by simp [hargs]
  refine Draft.reaches_bind (Draft.reaches_add (by simp [arg_available, hobject]) rfl (fun _ => rfl)
    ?_)
  refine Draft.reaches_bind (Draft.reaches_push (.inr ⟨0, Nat.lt_succ_self _, rfl⟩) rfl ?_)
  exact Draft.reaches_guardTop rfl rfl rfl (fun _ => ⟨rfl, rfl⟩) fun _ => ⟨rfl, rfl⟩

end Objects

/-! ## Surroundings -/

namespace ArrayCreation

/-- Outside a parallel section the call is declined. -/
lemma requireParallel_ensures (s : Site) {holds : Unit → Prop} (h : holds ()) :
    (requireParallel s).Ensures holds := by
  rw [requireParallel]
  split
  · exact h
  · trivial

end ArrayCreation

namespace Surroundings

open ArrayCreation (requireParallel_ensures)

lemma inParallelSection_orderly (s : Site) :
    (inParallelSection s).Ensures (Plan.Orderly s) := by
  rw [inParallelSection]
  simp only [Decide.ensures_bind, Site.ensures_classify, Decide.ensures_pure]
  intro _
  exact requireParallel_ensures s orderly_pushConstant

lemma forkJoinSlice_orderly (s : Site) : (forkJoinSlice s).Ensures (Plan.Orderly s) := by
  rw [forkJoinSlice]
  simp only [Decide.ensures_bind, Site.ensures_classify]
  refine requireParallel_ensures s fun _ => ?_
  split_ifs
  · trivial
  · refine orderly_of_completes rfl ?_
    exact Draft.completes_result open_start (by simp) rfl

lemma isConstructing_orderly (s : Site) : (isConstructing s).Ensures (Plan.Orderly s) := by
  rw [isConstructing]
  simp only [Decide.ensures_bind, Site.ensures_classify]
  intro _
  split
  · exact orderly_pushConstant
  · exact orderly_result (by simp) rfl

/-- A node without a result, and a constant as the result of the call. -/
lemma orderly_noteThenConstant {s : Site} {op : Op} {inputs : List Operand} {c : Constant}
    (available : ∀ x ∈ inputs, x.ref.Available (s.scope false) 0) (quiet : op.isEffectful = false) :
    (Plan.of do
      let _ ← Draft.add op inputs .noValue
      Draft.pushConstant c).Orderly s := by
  refine orderly_relyingOn ?_
  refine (prepares_add available rfl quiet).then fun _ n _ => ?_
  exact Draft.completes_pushConstant (open_start.grow n)

lemma bailout_orderly (s : Site) : (bailout s).Ensures (Plan.Orderly s) :=
  orderly_noteThenConstant (by simp) rfl

lemma assertFloat32_orderly (s : Site) : (assertFloat32 s).Ensures (Plan.Orderly s) := by
  unfold assertFloat32
  simp only [Decide.ensures_bind, Site.ensures_classify, Site.ensures_arg, Decide.ensures_need,
    Decide.ensures_pure]
  intro h
  obtain ⟨value, expectation, hargs⟩ := h.args_eq_two rfl
  refine ⟨expectation, by simp [hargs], fun mustBe _ => ⟨value, by simp [hargs], ?_⟩⟩
  exact orderly_noteThenConstant (by simp [arg_available, hargs]) rfl

end Surroundings

end CallSite
