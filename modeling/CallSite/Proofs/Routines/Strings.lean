import CallSite.Proofs.Routines.Arrays
import CallSite.Routine.Strings

/-!
# The routines of strings and regular expressions

* `Routine.charCodeAt_refines`, `Routine.replace_refines` and the rest — strings.
* `Routine.test_refines`, `Routine.exec_refines` — regular expressions, whose stub is there before
  the call is committed; `exec` hands over to `test`.
-/

namespace CallSite

namespace Writing

variable {w : Writing} {Γ : Ledger} {x y : Operand} {id j : NodeId}

/-- The code unit at an index, loaded behind a bounds check. -/
lemma yields_loadUnit (hx : Γ.Mentions w.context x id) (hy : Γ.Mentions w.context y j) :
    w.Yields Γ (Strings.loadUnit x y) (w.emitter.loadUnit id j) := by
  refine yields_bind (gives_add _ _ _ (by simp [hy])) fun index k => ?_
  refine yields_bind (gives_add _ _ _ (by simp [hx])) fun length l => ?_
  refine yields_bind (gives_add _ _ _ (by simp)) fun checked m => ?_
  exact (gives_add _ _ _ (by simp [hx])).yields

end Writing

namespace Routine

open Writing

variable {s : Session} {call : Call NodeId} {r : Call Operand}

/-! ## Code units -/

@[simp] lemma charCodeAt_refines (h : s.Attends call r) (i : Inliner) :
    Refines i call s (inlineStrCharCodeAt i call) (Strings.charCodeAt (i.site r)) := by
  have hr := call.pairs_receiver i r
  refine refines_one h rfl fun id x hids hxs hx => ?_
  simp only [arg, Site.arg, hids, hxs, List.getElem?_cons_zero, pure_bind, ok_bind]
  refine refines_observe h hr (refines_observe h hx ?_)
  cases Strings.constantUnit? (i.site r).receiver x with
  | some unit => exact refines_commit h fun w => (does_pushConstant _).completes
  | none =>
    refine refines_commit h fun w => ?_
    refine (yields_loadUnit (hr.mentions _) (hx.mentions _)).then ?_
    rintro v k Γ ⟨hv, -⟩
    exact (does_push (.inl hv)).completes

@[simp] lemma charAt_refines (h : s.Attends call r) (i : Inliner) :
    Refines i call s (inlineStrCharAt i call) (Strings.charAt (i.site r)) := by
  have hr := call.pairs_receiver i r
  refine refines_one h rfl fun id x hids hxs hx => ?_
  simp only [arg, Site.arg, hids, hxs, List.getElem?_cons_zero, pure_bind, ok_bind]
  refine refines_observe h hr (refines_observe h hx ?_)
  cases (Strings.constantUnit? (i.site r).receiver x).bind Strings.unitChar? with
  | some c => exact refines_commit h fun w => (does_pushConstant _).completes
  | none =>
    refine refines_commit h fun w => ?_
    refine (yields_loadUnit (hr.mentions _) (hx.mentions _)).then ?_
    rintro v k Γ ⟨hv, -⟩
    exact completes_result _ _ _ (.cons (.inl hv) .nil)

@[simp] lemma fromCharCode_refines (h : s.Attends call r) (i : Inliner) :
    Refines i call s (inlineStrFromCharCode i call) (Strings.fromCharCode (i.site r)) := by
  refine refines_one h rfl fun id x hids hxs hx => ?_
  simp only [arg, Site.arg, hids, hxs, List.getElem?_cons_zero, pure_bind, ok_bind]
  refine refines_commit h fun w => (gives_add _ _ _ (by simp [hx.mentions])).then ?_
  rintro v k _ rfl
  exact completes_result _ _ _ (by simp)

/-! ## Whole strings -/

@[simp] lemma toString_refines (h : s.Attends call r) (i : Inliner) :
    Refines i call s (inlineToString i call) (Strings.toString (i.site r)) := by
  refine refines_one h rfl fun id x hids hxs hx => ?_
  simp only [arg, Site.arg, hids, hxs, List.getElem?_cons_zero, pure_bind, ok_bind]
  exact refines_commit h fun w => completes_result _ _ _ (by simp [hx.mentions])

/-- The routine asks first whether one of the two patterns is there, and then which. -/
@[simp] lemma replace_refines (h : s.Attends call r) (i : Inliner) :
    Refines i call s (inlineStrReplace i call) (Strings.replace (i.site r)) := by
  have hr := call.pairs_receiver i r
  refine refines_two h rfl fun id j x y hids hxs hx hy => ?_
  simp only [arg, Site.arg, hids, hxs, List.getElem?_cons_zero, List.getElem?_cons_succ, pure_bind,
    ok_bind]
  refine refines_observe h hx ?_
  split_ifs with hstring hregExp
  · refine refines_of_ok (b := ()) (by rw [decide_eq_true hstring]; rfl) ?_
    exact refines_commit h fun w =>
      completes_result _ _ _ (by simp [hr.mentions, hx.mentions, hy.mentions])
  · refine refines_of_ok (b := ()) (by rw [decide_eq_true hregExp, Bool.or_true]; rfl) ?_
    exact refines_commit h fun w =>
      completes_effectfulResult _ _ _ (by simp [hr.mentions, hx.mentions, hy.mentions])
  · rw [decide_eq_false hstring, decide_eq_false hregExp]
    exact refines_refuse _

@[simp] lemma stringObject_refines (h : s.Attends call r) (i : Inliner) :
    Refines i call s (inlineStringObject i call) (Strings.construct (i.site r)) := by
  refine refines_one h rfl fun id x hids hxs hx => ?_
  simp only [arg, Site.arg, hids, hxs, List.getElem?_cons_zero, pure_bind, ok_bind]
  refine refines_bind (decides_template h i _) ?_
  rintro t _ - rfl
  refine refines_commit h fun w => (gives_constant _).then ?_
  rintro v k _ rfl
  exact completes_effectfulResult _ _ _ (by simp [hx.mentions])

@[simp] lemma split_refines (h : s.Attends call r) (i : Inliner) :
    Refines i call s (inlineStringSplit i call) (Strings.split (i.site r)) := by
  have hr := call.pairs_receiver i r
  refine refines_one h rfl fun id x hids hxs hx => ?_
  simp only [arg, Site.arg, hids, hxs, List.getElem?_cons_zero, pure_bind, ok_bind]
  refine refines_bind (decides_template h i _) ?_
  rintro t _ - rfl
  refine refines_require fun _ => refines_require fun _ => ?_
  refine refines_commit h fun w => (gives_constant _).then ?_
  rintro v k _ rfl
  exact completes_result _ _ _ (by simp [hr.mentions, hx.mentions])

/-! ## Regular expressions -/

lemma decides_requireRegExp (h : s.Attends call r) (i : Inliner) :
    Decides s Eq (requireRegExp call)
      (Decide.require ((i.site r).receiver.knownClass? = some .regExp) .receiverNotRegExp) :=
  decides_of_ok (observe_of_operand? h.resolved.operand?_receiver) (decides_require _ _)

@[simp] lemma test_refines (h : s.Attends call r) (i : Inliner) :
    Refines i call s (inlineRegExpTest i call) (RegExps.test (i.site r)) := by
  have hr := call.pairs_receiver i r
  refine refines_one h rfl fun id x hids hxs hx => ?_
  simp only [arg, Site.arg, hids, hxs, List.getElem?_cons_zero, pure_bind, ok_bind,
    h.returnType_eq i, show (i.site r).call.resultEscapes = call.resultEscapes from
      h.resolved.resultEscapes_eq]
  refine refines_expect_of (fun hfits => ?_) fun hfits => ?_
  · rw [if_pos (by simpa using hfits)]
    rfl
  · rw [if_neg (by simpa [imp_iff_not_or] using hfits)]
    refine refines_bind (decides_requireRegExp h i) fun _ _ _ _ => ?_
    refine refines_ensureStub fun s' hs' => ?_
    exact refines_commit (h.of_builder_eq hs') fun w =>
      completes_effectfulResult _ _ _ (by simp [hr.mentions, hx.mentions])

@[simp] lemma exec_refines (h : s.Attends call r) (i : Inliner) :
    Refines i call s (inlineRegExpExec i call) (RegExps.exec (i.site r)) := by
  have hr := call.pairs_receiver i r
  rw [inlineRegExpExec, RegExps.exec, show (i.site r).call.resultEscapes = call.resultEscapes from
      h.resolved.resultEscapes_eq]
  cases call.resultEscapes with
  | false => exact test_refines h i
  | true =>
    refine refines_one h rfl fun id x hids hxs hx => ?_
    simp only [arg, Site.arg, hids, hxs, List.getElem?_cons_zero, pure_bind, ok_bind,
      h.resultTypes_eq i]
    refine refines_bind (decides_requireRegExp h i) fun _ _ _ _ => ?_
    refine refines_ensureStub fun s' hs' => ?_
    refine refines_commit (h.of_builder_eq hs') fun w => ?_
    refine (gives_add _ _ _ (by simp [hr.mentions, hx.mentions])).then ?_
    rintro v k _ rfl
    refine (does_push (Ledger.mentions_name ..)).then ?_
    rintro _ _ _ rfl
    refine (does_resumeAfter (by simp)).then ?_
    rintro _ _ _ rfl
    exact (does_guardTop (by simp) rfl _ _).completes

end Routine

end CallSite
