import CallSite.Proofs.Routines.Arrays
import CallSite.Routine.Objects

/-!
# The routines of intrinsics

The routines of class predicates, conversions, reserved slots and questions about the surroundings
of a call do what was decided.

* `Routine.foldOr_refines` — a known answer, or a node that finds it out.
* `Routine.decides_constantSlot` — the number of a slot.
* `Routine.hasClass_refines`, `Routine.setReservedSlot_refines` and the rest — one for each native.
-/

namespace CallSite.Routine

open Writing

variable {s : Session} {call : Call NodeId} {r : Call Operand}

/-! ## Class predicates -/

/-- **A known answer as a constant, else a node.** -/
lemma foldOr_refines (h : s.Attends call r) {i : Inliner} (known : Option Bool) (op : Op)
    {xs : List Operand} {ids : List NodeId}
    (hxs : List.Forall₂ (fun x id => call.Pairs r id x) xs ids) :
    Refines i call s (foldOr call known op ids) (.ok (.of (Objects.foldOr known op xs))) := by
  refine refines_commit h fun w => ?_
  cases known with
  | some answer => exact (does_pushConstant _).completes
  | none => exact completes_result _ _ _ (hxs.imp fun _ _ hx => hx.mentions _)

@[simp] lemma hasClass_refines (h : s.Attends call r) (candidates : List ObjectClass) (i : Inliner) :
    Refines i call s (inlineHasClass candidates i call)
      (Objects.hasClass candidates (i.site r)) := by
  refine refines_one h rfl fun id x hids hxs hx => ?_
  simp only [arg, Site.arg, hids, hxs, List.getElem?_cons_zero, pure_bind, ok_bind]
  exact refines_observe h hx (foldOr_refines h _ _ (by simp [hx]))

/-- A constant that the call gives. -/
lemma pushConstant_refines (h : s.Attends call r) {i : Inliner} (c : Constant) :
    Refines i call s (commit call [] >>= fun e => e.pushConstant c >>= fun _ => e.finish)
      (.ok (.of (Draft.pushConstant c))) :=
  refines_commit h fun _ => (does_pushConstant c).completes

@[simp] lemma isTypeDescr_refines (h : s.Attends call r) (i : Inliner) :
    Refines i call s (inlineObjectIsTypeDescr i call) (Objects.isTypeDescr (i.site r)) := by
  refine refines_one h rfl fun id x hids hxs hx => ?_
  simp only [arg, Site.arg, hids, hxs, List.getElem?_cons_zero, pure_bind, ok_bind]
  refine refines_observe h hx (refines_need fun types _ => ?_)
  cases types.forAllClasses ObjectClass.isTypeDescr with
  | allTrue => exact pushConstant_refines h _
  | allFalse => exact pushConstant_refines h _
  | empty => exact pushConstant_refines h _
  | mixed => exact refines_refuse _

@[simp] lemma isCallable_refines (h : s.Attends call r) (i : Inliner) :
    Refines i call s (inlineIsCallable i call) (Objects.isCallable (i.site r)) := by
  refine refines_one h rfl fun id x hids hxs hx => ?_
  simp only [arg, Site.arg, hids, hxs, List.getElem?_cons_zero, pure_bind, ok_bind]
  exact refines_observe h hx (foldOr_refines h _ _ (by simp [hx]))

@[simp] lemma haveSameClass_refines (h : s.Attends call r) (i : Inliner) :
    Refines i call s (inlineHaveSameClass i call) (Objects.haveSameClass (i.site r)) := by
  refine refines_two h rfl fun id j x y hids hxs hx hy => ?_
  simp only [arg, Site.arg, hids, hxs, List.getElem?_cons_zero, List.getElem?_cons_succ, pure_bind,
    ok_bind]
  exact refines_observe h hx (refines_observe h hy (foldOr_refines h _ _ (by simp [hx, hy])))

/-! ## Conversions -/

@[simp] lemma toObject_refines (h : s.Attends call r) (i : Inliner) :
    Refines i call s (inlineToObject i call) (Objects.toObject (i.site r)) := by
  refine refines_one h rfl fun id x hids hxs hx => ?_
  simp only [arg, Site.arg, hids, hxs, List.getElem?_cons_zero, pure_bind, ok_bind]
  exact refines_commit h fun w => (does_push (hx.mentions _)).completes

@[simp] lemma isObject_refines (h : s.Attends call r) (i : Inliner) :
    Refines i call s (inlineIsObject i call) (Objects.isObject (i.site r)) := by
  refine refines_one h rfl fun id x hids hxs hx => ?_
  simp only [arg, Site.arg, hids, hxs, List.getElem?_cons_zero, pure_bind, ok_bind]
  exact refines_commit h fun w => completes_result _ _ _ (by simp [hx.mentions])

@[simp] lemma toInteger_refines (h : s.Attends call r) (i : Inliner) :
    Refines i call s (inlineToInteger i call) (Objects.toInteger (i.site r)) := by
  refine refines_one h rfl fun id x hids hxs hx => ?_
  simp only [arg, Site.arg, hids, hxs, List.getElem?_cons_zero, pure_bind, ok_bind,
    h.returnType_eq i]
  refine refines_observe h hx (refines_require fun _ => ?_)
  refine refines_expect_of (fun hty => ?_) fun hty => ?_
  · rw [if_pos (of_decide_eq_false hty)]
    rfl
  · rw [if_neg (not_not.2 (of_decide_eq_true hty))]
    exact refines_commit h fun w => completes_result _ _ _ (by simp [hx.mentions])

/-! ## Reserved slots -/

/-- **The number of a slot**, when it is a constant. -/
lemma decides_constantSlot (h : s.Attends call r) {id : NodeId} {x : Operand}
    (hx : call.Pairs r id x) : Decides s Eq (constantSlot id) (Objects.constantSlot x) := by
  refine decides_of_ok (observe_of_operand? (h.operand?_eq hx)) ?_
  rw [Objects.constantSlot]
  cases x.int32? with
  | none => exact decides_refuse _
  | some n =>
    refine decides_of_ok rfl ?_
    dsimp only
    split_ifs with hn
    · rw [decide_eq_true hn]
      exact decides_pure rfl
    · rw [decide_eq_false hn]
      exact decides_refuse _

@[simp] lemma setReservedSlot_refines (h : s.Attends call r) (i : Inliner) :
    Refines i call s (inlineUnsafeSetReservedSlot i call)
      (Objects.setReservedSlot (i.site r)) := by
  refine refines_three h rfl fun id j k x y z hids hxs hx hy hz => ?_
  simp only [arg, Site.arg, hids, hxs, List.getElem?_cons_zero, List.getElem?_cons_succ, pure_bind,
    ok_bind]
  refine refines_bind (decides_constantSlot h hy) ?_
  rintro slot _ - rfl
  refine refines_commit h fun w => ?_
  refine (does_postBarrier (hx.mentions _) hz).then ?_
  rintro _ _ _ rfl
  exact completes_effect _ _ _ _ (by simp [hx.mentions, hz.mentions])

@[simp] lemma getReservedSlot_refines (h : s.Attends call r) (i : Inliner) :
    Refines i call s (inlineUnsafeGetReservedSlot i call)
      (Objects.getReservedSlot (i.site r)) := by
  refine refines_two h rfl fun id j x y hids hxs hx hy => ?_
  simp only [arg, Site.arg, hids, hxs, List.getElem?_cons_zero, List.getElem?_cons_succ, pure_bind,
    ok_bind, h.resultTypes_eq i]
  refine refines_bind (decides_constantSlot h hy) ?_
  rintro slot _ - rfl
  refine refines_commit h fun w => ?_
  refine (gives_add _ _ _ (by simp [hx.mentions])).then ?_
  rintro v k _ rfl
  refine (does_push (Ledger.mentions_name ..)).then ?_
  rintro _ _ _ rfl
  exact (does_guardTop (by simp) rfl _ _).completes

/-! ## The surroundings of a call -/

@[simp] lemma inParallelSection_refines (h : s.Attends call r) (i : Inliner) :
    Refines i call s (inlineInParallelSection i call)
      (Surroundings.inParallelSection (i.site r)) := by
  refine refines_classify h fun _ => ?_
  exact refines_bind (decides_requireParallel i r) fun _ _ _ _ => pushConstant_refines h _

/-- The mode is looked at before the shape of the call. -/
@[simp] lemma forkJoinSlice_refines (h : s.Attends call r) (i : Inliner) :
    Refines i call s (inlineForkJoinGetSlice i call) (Surroundings.forkJoinSlice (i.site r)) := by
  refine refines_bind (decides_requireParallel i r) fun _ _ _ _ => ?_
  refine refines_classify h fun _ => refines_expect fun _ => ?_
  refine refines_commit_context h fun w => completes_result _ _ _ ?_
  simp [Ledger.mentions_context]

@[simp] lemma isConstructing_refines (h : s.Attends call r) (i : Inliner) :
    Refines i call s (inlineIsConstructing i call) (Surroundings.isConstructing (i.site r)) := by
  refine refines_classify h fun _ => ?_
  rw [show (i.site r).frame = i.frame from rfl]
  cases i.frame.filter fun f => 0 < f.depth with
  | some f => exact foldOr_refines h (some f.constructing) _ .nil
  | none => exact foldOr_refines h none _ .nil

@[simp] lemma bailout_refines (h : s.Attends call r) (i : Inliner) :
    Refines i call s (inlineBailout i call) (Surroundings.bailout (i.site r)) := by
  refine refines_commit h fun w => (gives_add _ _ _ .nil).then ?_
  rintro v k _ rfl
  exact (does_pushConstant _).completes

@[simp] lemma assertFloat32_refines (h : s.Attends call r) (i : Inliner) :
    Refines i call s (inlineAssertFloat32 i call) (Surroundings.assertFloat32 (i.site r)) := by
  refine refines_two h rfl fun id j x y hids hxs hx hy => ?_
  simp only [arg, Site.arg, hids, hxs, List.getElem?_cons_zero, List.getElem?_cons_succ, pure_bind,
    ok_bind]
  refine refines_observe h hy (refines_need fun mustBe _ => refines_commit h fun w => ?_)
  refine (gives_add _ _ _ (by simp [hx.mentions])).then ?_
  rintro v k _ rfl
  exact (does_pushConstant _).completes

end CallSite.Routine
