import CallSite.Proofs.Routines.Refinement
import CallSite.Routine.Arithmetic

/-!
# Arithmetic routines

The arithmetic routines do what was decided.

* `Routine.emitUnary_refines` — a single node per call.
* `Routine.power_refines` — the node of a power is looked at once more, for its cast.
* `Routine.minMax_refines` — one pass over the arguments against the three of the decision.
-/

namespace CallSite.Routine

open Arithmetic (Rounding SimpleExponent dominated)
open Writing

variable {s : Session} {call : Call NodeId} {r : Call Operand}

/-! ## One node per call -/

/-- **A single node over operands of the call.** -/
lemma emitUnary_refines (h : s.Attends call r) {i : Inliner} (op : Op) (ty : ValueType)
    {xs : List Operand} {ids : List NodeId}
    (hxs : List.Forall₂ (fun x id => call.Pairs r id x) xs ids) :
    Refines i call s (emitUnary call op ids ty) (.ok (.of (Draft.result op xs ty))) :=
  refines_commit h fun _ => completes_result _ _ _ (hxs.imp fun _ _ hx => hx.mentions _)

@[simp] lemma mathFunction_refines (h : s.Attends call r) (f : MathFunction) (i : Inliner) :
    Refines i call s (inlineMathFunction f i call) (Arithmetic.mathFunction f (i.site r)) := by
  refine refines_one h rfl fun id x hids hxs hx => ?_
  simp only [arg, Site.arg, hids, hxs, List.getElem?_cons_zero, pure_bind, ok_bind]
  exact emitUnary_refines h _ _ (by simp [hx])

@[simp] lemma abs_refines (h : s.Attends call r) (i : Inliner) :
    Refines i call s (inlineMathAbs i call) (Arithmetic.abs (i.site r)) := by
  refine refines_one h rfl fun id x hids hxs hx => ?_
  simp only [arg, Site.arg, hids, hxs, List.getElem?_cons_zero, pure_bind, ok_bind,
    h.returnType_eq i]
  refine refines_observe h hx (refines_expect fun _ => ?_)
  exact emitUnary_refines h _ _ (by simp [hx])

@[simp] lemma rounding_refines (h : s.Attends call r) (ρ : Rounding) (i : Inliner) :
    Refines i call s (inlineMathRounding ρ i call) (Arithmetic.rounding ρ (i.site r)) := by
  refine refines_one h rfl fun id x hids hxs hx => ?_
  simp only [arg, Site.arg, hids, hxs, List.getElem?_cons_zero, pure_bind, ok_bind,
    h.returnType_eq i]
  refine refines_observe h hx ?_
  have hpair : List.Forall₂ (fun x id => call.Pairs r id x) [x] [id] := by simp [hx]
  split_ifs
  · exact emitUnary_refines h _ _ hpair
  · exact emitUnary_refines h _ _ hpair
  · exact emitUnary_refines h _ _ hpair
  · exact refines_decline _

@[simp] lemma clz32_refines (h : s.Attends call r) (i : Inliner) :
    Refines i call s (inlineMathClz32 i call) (Arithmetic.clz32 (i.site r)) := by
  refine refines_one h rfl fun id x hids hxs hx => ?_
  simp only [arg, Site.arg, hids, hxs, List.getElem?_cons_zero, pure_bind, ok_bind]
  exact emitUnary_refines h _ _ (by simp [hx])

@[simp] lemma sqrt_refines (h : s.Attends call r) (i : Inliner) :
    Refines i call s (inlineMathSqrt i call) (Arithmetic.sqrt (i.site r)) := by
  refine refines_one h rfl fun id x hids hxs hx => ?_
  simp only [arg, Site.arg, hids, hxs, List.getElem?_cons_zero, pure_bind, ok_bind]
  exact emitUnary_refines h _ _ (by simp [hx])

lemma binary_refines (h : s.Attends call r) (op : Op) (i : Inliner) :
    Refines i call s (inlineMathBinary op i call) (Arithmetic.binary op (i.site r)) := by
  refine refines_two h rfl fun id j x y hids hxs hx hy => ?_
  simp only [arg, Site.arg, hids, hxs, List.getElem?_cons_zero, List.getElem?_cons_succ, pure_bind,
    ok_bind]
  exact emitUnary_refines h _ _ (by simp [hx, hy])

@[simp] lemma atan2_refines (h : s.Attends call r) (i : Inliner) :
    Refines i call s (inlineMathAtan2 i call) (Arithmetic.atan2 (i.site r)) :=
  binary_refines h _ i

@[simp] lemma hypot_refines (h : s.Attends call r) (i : Inliner) :
    Refines i call s (inlineMathHypot i call) (Arithmetic.hypot (i.site r)) :=
  binary_refines h _ i

@[simp] lemma random_refines (h : s.Attends call r) (i : Inliner) :
    Refines i call s (inlineMathRandom i call) (Arithmetic.random (i.site r)) :=
  refines_classify h fun _ => emitUnary_refines h _ _ .nil

@[simp] lemma fround_refines (h : s.Attends call r) (i : Inliner) :
    Refines i call s (inlineMathFround i call) (Arithmetic.fround (i.site r)) := by
  rw [inlineMathFround, Arithmetic.fround, h.resultTypes_eq i]
  refine refines_one h rfl fun id x hids hxs hx => ?_
  simp only [arg, Site.arg, hids, hxs, List.getElem?_cons_zero, pure_bind, ok_bind]
  exact emitUnary_refines h _ _ (by simp [hx])

/-- Both factors are truncated first. -/
@[simp] lemma imul_refines (h : s.Attends call r) (i : Inliner) :
    Refines i call s (inlineMathImul i call) (Arithmetic.imul (i.site r)) := by
  refine refines_two h rfl fun id j x y hids hxs hx hy => ?_
  simp only [arg, Site.arg, hids, hxs, List.getElem?_cons_zero, List.getElem?_cons_succ, pure_bind,
    ok_bind]
  refine refines_commit h fun w => (gives_add _ _ _ (by simp [hx.mentions])).then ?_
  rintro x' id' _ rfl
  refine (gives_add _ _ _ (by simp [hy.mentions])).then ?_
  rintro y' j' _ rfl
  exact completes_result _ _ _ (by simp)

/-! ## Powers -/

section Powers

variable {w : Writing} {Γ : Ledger} {x : Operand} {id : NodeId}

lemma yields_simplePower (hx : (x, id) ∈ Γ.names) (out : ValueType) (exponent : SimpleExponent) :
    w.Yields Γ (Arithmetic.simplePower x out exponent) (w.emitter.simplePower id out exponent) := by
  have hm : Γ.Mentions w.context x id := .inl hx
  cases exponent with
  | half => exact (gives_add _ _ _ (by simp [hm])).yields
  | one => exact yields_pure hx
  | two => exact (gives_add _ _ _ (by simp [hm])).yields
  | three =>
    exact yields_bind (gives_add _ _ _ (by simp [hm])) fun _ _ =>
      (gives_add _ _ _ (by simp [hm])).yields
  | four =>
    exact yields_bind (gives_add _ _ _ (by simp [hm])) fun _ _ =>
      (gives_add _ _ _ (by simp)).yields
  | minusHalf =>
    exact yields_bind (gives_add _ _ _ (by simp [hm])) fun _ _ =>
      yields_bind (gives_constant _) fun _ _ => (gives_add _ _ _ (by simp)).yields

/-- The cast depends on the type of the node that is cast. -/
lemma gives_castNumber (hx : (x, id) ∈ Γ.names) (out : ValueType) :
    w.Gives Γ (Arithmetic.castNumber x out) (w.emitter.castNumber id out) := by
  have hm : Γ.Mentions w.context x id := .inl hx
  let cast (ty : ValueType) : Draft Operand :=
    if out = .int32 ∧ ty ≠ .int32 then Draft.add .toInt32 [x] .int32
    else if out = .double ∧ ty ≠ .double then Draft.add .toDouble [x] .double
    else pure x
  refine gives_observe hx (fun y => cast y.ty) (fun y hy => ?_) fun y => ?_
  · rw [show y.ty = x.ty from congrArg Facts.ty hy]
    rfl
  · dsimp only [cast]
    split_ifs
    · exact gives_add _ _ _ (by simp [hm])
    · exact gives_add _ _ _ (by simp [hm])
    · exact gives_pure hx

end Powers

@[simp] lemma power_refines (h : s.Attends call r) (i : Inliner) :
    Refines i call s (inlineMathPow i call) (Arithmetic.power (i.site r)) := by
  refine refines_two h rfl fun id j x y hids hxs hx hy => ?_
  simp only [arg, Site.arg, hids, hxs, List.getElem?_cons_zero, List.getElem?_cons_succ, pure_bind,
    ok_bind, h.returnType_eq i]
  refine refines_observe h hy (refines_commit h fun w => ?_)
  have hcast : ∀ v k Γ, (v, k) ∈ Γ.names → w.Completes Γ
      (Arithmetic.castNumber v call.returnType >>= Draft.push)
      (w.emitter.castNumber k call.returnType >>= fun l =>
        w.emitter.push l >>= fun _ => w.emitter.finish) := by
    intro v k Γ hv
    refine (gives_castNumber hv _).then ?_
    rintro c l _ rfl
    exact (does_push (Ledger.mentions_name ..)).completes
  rw [Arithmetic.rawPower]
  cases y.number?.bind SimpleExponent.of? with
  | some exponent =>
    exact (yields_simplePower hx _ exponent).then fun v k Γ hv => hcast v k Γ hv.1
  | none =>
    refine (gives_add .pow .double none (by simp [hx.mentions, hy.mentions])).then ?_
    rintro v k _ rfl
    exact hcast v k _ (List.mem_cons_self ..)

/-! ## Least and greatest -/

/-- The type of a least or greatest value as far as the operands other than int32s leave it. -/
def openType (isMax : Bool) (ty : ValueType) (xs : List Operand) : ValueType :=
  if xs.all fun x => x.ty = .int32 || dominated isMax x then ty else .double

/-- **One pass over the arguments** collects the int32 ones and finds the type of the result. -/
lemma decides_gatherNumbers (h : s.Attends call r) (isMax : Bool) {xs : List Operand}
    {ids : List NodeId} (hxs : List.Forall₂ (fun x id => call.Pairs r id x) xs ids) (index : Nat)
    (int32s : List NodeId) (ty : ValueType) :
    Decides s
      (fun _ found => ∃ more, found = (int32s ++ more, openType isMax ty xs) ∧
        List.Forall₂ (fun x id => call.Pairs r id x) (xs.filter (·.ty = .int32)) more)
      (gatherNumbers isMax index int32s ty ids) (Arithmetic.checkNumbers index xs) := by
  induction hxs generalizing index int32s ty with
  | nil => exact decides_pure ⟨[], by rw [List.append_nil]; rfl, .nil⟩
  | @cons x id xs ids hx _ ih =>
    refine decides_of_ok (observe_of_operand? (h.operand?_eq hx)) ?_
    rw [Arithmetic.checkNumbers]
    by_cases hint : x.ty = .int32
    · rw [if_pos hint, if_pos (by rw [hint]; rfl)]
      refine (ih (index + 1) (int32s ++ [id]) ty).imp fun _ found hfound => ?_
      obtain ⟨more, rfl, hmore⟩ := hfound
      refine ⟨id :: more, ?_, ?_⟩
      · simp [openType, hint]
      · rw [List.filter_cons_of_pos (by simp [hint])]
        exact .cons hx hmore
    · rw [if_neg hint]
      cases hfloat : x.ty.isFloatingPoint with
      | false =>
        have hnumber : ¬x.ty.isNumber = true := by
          cases hty : x.ty <;> simp_all [ValueType.isNumber, ValueType.isFloatingPoint]
        rw [if_neg Bool.false_ne_true, if_neg hnumber]
        exact decides_refuse _
      | true =>
        have hnumber : x.ty.isNumber = true := by
          cases hty : x.ty <;> simp_all [ValueType.isNumber, ValueType.isFloatingPoint]
        rw [if_pos rfl, if_pos hnumber]
        refine (ih (index + 1) int32s _).imp fun _ found hfound => ?_
        obtain ⟨more, rfl, hmore⟩ := hfound
        refine ⟨more, ?_, ?_⟩
        · cases hdominated : dominated isMax x <;> simp [openType, hint, hdominated]
        · rwa [List.filter_cons_of_neg (by simp [hint])]

section Chains

variable {w : Writing} {Γ : Ledger}

lemma yields_chain (op : Op) (ty : ValueType) {x : Operand} {id : NodeId} (hx : (x, id) ∈ Γ.names)
    {xs : List Operand} {ids : List NodeId}
    (hxs : List.Forall₂ (fun x id => (x, id) ∈ Γ.names) xs ids) :
    w.Yields Γ (Arithmetic.chain op ty x xs) (w.emitter.chain op ty id ids) := by
  -- the induction is on the operands, with every link named in the ledger before the next
  induction xs generalizing Γ x id ids with
  | nil =>
    cases hxs
    exact yields_pure hx
  | cons y ys ih =>
    cases hxs with
    | cons hy hys =>
      refine yields_bind (gives_add _ _ _ (.cons (.inl hx) (.cons (.inl hy) .nil))) fun v k => ?_
      exact ih (List.mem_cons_self ..) (hys.imp fun _ _ hz => List.mem_cons_of_mem _ hz)

end Chains

/-- The type of the result is that of the decision. -/
lemma minMaxType_eq (isMax : Bool) (observed : ValueType) {xs : List Operand} {int32s : List NodeId}
    (h : List.Forall₂ (fun x id => call.Pairs r id x) (xs.filter (·.ty = .int32)) int32s) :
    Arithmetic.minMaxType isMax observed xs =
      if int32s.isEmpty then .double else openType isMax observed xs := by
  have hany : xs.any (·.ty = .int32) = !int32s.isEmpty := by
    rw [Bool.eq_iff_iff, List.any_eq_true, Bool.not_eq_true', List.isEmpty_eq_false_iff,
      ← List.length_pos_iff, ← h.length_eq, List.length_pos_iff_exists_mem]
    simp only [List.mem_filter]
  rw [Arithmetic.minMaxType, openType, hany]
  cases int32s.isEmpty <;> simp

/-- **The least or the greatest of the arguments.** -/
@[simp] lemma minMax_refines (h : s.Attends call r) (isMax : Bool) (i : Inliner) :
    Refines i call s (inlineMathMinMax isMax i call) (Arithmetic.minMax isMax (i.site r)) := by
  refine refines_classify h fun _ => ?_
  refine refines_bind (decides_gatherNumbers h isMax h.forall₂_pairs 0 [] _) ?_
  rintro _ _ - ⟨int32s, rfl, hint32s⟩
  rw [List.nil_append, h.returnType_eq i, show (i.site r).args = r.args from rfl]
  dsimp only
  rw [← minMaxType_eq isMax call.returnType hint32s]
  generalize Arithmetic.minMaxType isMax call.returnType r.args = ty
  have hcases : List.Forall₂ (fun x id => call.Pairs r id x)
      (if ty = .int32 then r.args.filter (·.ty = .int32) else r.args)
      (if ty = .int32 then int32s else call.args) := by
    split_ifs
    · exact hint32s
    · exact h.forall₂_pairs
  generalize (if ty = .int32 then r.args.filter (·.ty = .int32) else r.args) = xs at hcases ⊢
  generalize (if ty = .int32 then int32s else call.args) = ids at hcases ⊢
  rcases hcases with _ | ⟨hx, _ | ⟨hy, hrest⟩⟩
  · exact congrArg Prod.fst (body_bind_of_ok (commit_run h []) _)
  · exact refines_commit h fun w => completes_result _ _ _ (by simp [hx.mentions])
  · refine refines_commit h fun w => ?_
    refine (yields_chain _ ty hx (.cons hy hrest)).then ?_
    rintro v k Γ ⟨hv, -⟩
    exact (does_push (.inl hv)).completes

end CallSite.Routine
