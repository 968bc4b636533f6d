import CallSite.Proofs.Drafts
import CallSite.Specialize.RegExps
import CallSite.Specialize.Strings

/-!
# Plans for strings and regular expressions are orderly

A code unit is loaded by a chain of nodes without effects; a replacement by a regular expression,
`exec` and `test` have effects and are resumed after.
-/

namespace CallSite

open Draft (Prepares prepares_add prepares_bind)
open Plan (orderly_of_completes orderly_relyingOn orderly_result orderly_effectfulResult orderly_pushConstant)
open Progress (open_start)
open Site (arg_available)

namespace Strings

/-! ## Code units -/

/-- Index, length, bounds check and load, each over what came before it. -/
lemma prepares_loadUnit {scope : List Ref} {σ : Progress} {string index : Operand}
    (hstring : string.ref.Available scope σ.added) (hindex : index.ref.Available scope σ.added)
    (hσ : σ.guarded = false) : Prepares scope σ (loadUnit string index) := by
  refine prepares_bind (prepares_add (by simpa using hindex) hσ rfl) fun i k hi => ?_
  have hstring' := hstring.grow k
  refine prepares_bind (prepares_add (by simpa using hstring') hσ rfl) fun len m hlen => ?_
  refine prepares_bind (Draft.prepares_boundsCheck (hi.grow m) hlen hσ) fun checked n hchecked => ?_
  have hstring'' := (hstring'.grow m).grow n
  exact prepares_add (by simp [hstring'', hchecked]) hσ rfl

lemma charCodeAt_orderly (s : Site) : (charCodeAt s).Ensures (Plan.Orderly s) := by
  refine Site.ensures_one rfl fun x hx _ => ?_
  split
  · exact orderly_pushConstant
  · refine orderly_relyingOn (Prepares.completes ?_ open_start)
    exact prepares_loadUnit Site.receiver_available (arg_available (by simp [hx])) rfl

lemma charAt_orderly (s : Site) : (charAt s).Ensures (Plan.Orderly s) := by
  refine Site.ensures_one rfl fun x hx _ => ?_
  split
  · exact orderly_pushConstant
  · refine orderly_relyingOn (Prepares.then ?_ fun unit n hunit => ?_)
    · exact prepares_loadUnit Site.receiver_available (arg_available (by simp [hx])) rfl
    · exact Draft.completes_result (open_start.grow n) (by simpa using hunit) rfl

lemma fromCharCode_orderly (s : Site) : (fromCharCode s).Ensures (Plan.Orderly s) := by
  refine Site.ensures_one rfl fun x hx _ => ?_
  refine orderly_relyingOn (Prepares.then ?_ fun unit n hunit => ?_)
  · exact prepares_add (by simp [arg_available, hx]) rfl rfl
  · exact Draft.completes_result (open_start.grow n) (by simpa using hunit) rfl

/-! ## Whole strings -/

lemma toString_orderly (s : Site) : (toString s).Ensures (Plan.Orderly s) := by
  refine Site.ensures_one rfl fun x hx _ => ?_
  exact orderly_result (by simp [arg_available, hx]) rfl

lemma replace_orderly (s : Site) : (replace s).Ensures (Plan.Orderly s) := by
  refine Site.ensures_two rfl fun x y hxy _ => ?_
  have available : ∀ z ∈ [s.receiver, x, y], z.ref.Available (s.scope false) 0 := by
    simp [arg_available, hxy]
  dsimp only
  split_ifs
  · exact orderly_result available rfl
  · exact orderly_effectfulResult available
  · trivial

/-- A template constant, and then one node over it. -/
lemma orderly_fromTemplate {s : Site} {facts : List Dependency} {c : Constant}
    {f : Operand → Draft Unit}
    (h : ∀ (v : Operand) (n : Nat), v.ref.Available (s.scope false) n →
      (f v).Completes (s.scope false) (Progress.grow {} n)) :
    (Plan.relyingOn facts (Draft.constant c >>= f)).Orderly s := by
  refine orderly_relyingOn (Prepares.then ?_ fun v n hv => ?_)
  · exact prepares_add (by simp) rfl rfl
  · exact h v n (hv.mono (by simp [Progress.grow]))

lemma construct_orderly (s : Site) : (construct s).Ensures (Plan.Orderly s) := by
  rw [construct]
  simp only [Decide.ensures_bind, Site.ensures_classify, Site.ensures_template, Site.ensures_arg,
    Decide.ensures_pure]
  intro h t _
  obtain ⟨x, hx⟩ := h.args_eq_one rfl
  refine ⟨x, by simp [hx], orderly_fromTemplate fun v n hv => ?_⟩
  refine Draft.completes_effectfulResult (open_start.grow n) ?_
  simpa [Progress.grow, arg_available, hx] using hv

lemma split_orderly (s : Site) : (split s).Ensures (Plan.Orderly s) := by
  rw [split]
  simp only [Decide.ensures_bind, Site.ensures_classify, Site.ensures_template, Site.ensures_arg,
    Decide.ensures_pure, Decide.ensures_require]
  intro h t _ _ _
  obtain ⟨x, hx⟩ := h.args_eq_one rfl
  refine ⟨x, by simp [hx], orderly_fromTemplate fun v n hv => ?_⟩
  refine Draft.completes_result (open_start.grow n) ?_ rfl
  simpa [Progress.grow, arg_available, hx] using hv

end Strings

/-! ## Regular expressions -/

namespace RegExps

lemma test_orderly (s : Site) : (test s).Ensures (Plan.Orderly s) := by
  rw [test]
  simp only [Decide.ensures_bind, Site.ensures_classify]
  intro h
  obtain ⟨x, hx⟩ := h.args_eq_one rfl
  split_ifs
  · trivial
  · simp only [Decide.ensures_bind, Decide.ensures_require, Site.ensures_arg, Decide.ensures_pure]
    intro _
    refine ⟨x, by simp [hx], orderly_of_completes rfl ?_⟩
    exact Draft.completes_effectfulResult open_start (by simp [arg_available, hx])

lemma exec_orderly (s : Site) : (exec s).Ensures (Plan.Orderly s) := by
  rw [exec]
  split_ifs
  · simp only [Decide.ensures_bind, Site.ensures_classify, Decide.ensures_require,
      Site.ensures_arg, Decide.ensures_pure]
    intro h _
    obtain ⟨x, hx⟩ := h.args_eq_one rfl
    refine ⟨x, by simp [hx], orderly_of_completes rfl ?_⟩
    exact Draft.completes_guarded open_start (by simp [arg_available, hx])
  · exact test_orderly s

end RegExps

end CallSite
