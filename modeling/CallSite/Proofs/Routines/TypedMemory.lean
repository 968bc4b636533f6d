import CallSite.Proofs.Routines.Arrays
import CallSite.Routine.TypedMemory

/-!
# The routines of typed arrays and typed objects

* `Writing.follows_checkedAccess`, `Writing.gives_truncated` — what the atomics share.
* `Routine.decides_atomicTarget` — the element type that an atomic works on.
* `Routine.load_refines`, `Routine.setOffset_refines` and the rest — one for each native.
-/

namespace CallSite

namespace Writing

variable {w : Writing} {Γ : Ledger} {x a i : Operand} {id aId iId : NodeId}

/-- **The way to the elements of a typed array.** -/
lemma follows_checkedAccess (ha : Γ.Mentions w.context a aId) (hi : Γ.Mentions w.context i iId) :
    w.Follows Γ
      (fun access handles Γ' => Γ.Within Γ' ∧ (access.1, handles.1) ∈ Γ'.names ∧
        (access.2, handles.2) ∈ Γ'.names)
      (TypedMemory.checkedAccess a i) (w.emitter.checkedAccess aId iId) := by
  refine follows_bind (gives_add _ _ _ (by simp [ha])) ?_
  rintro length j _ rfl
  refine follows_bind (gives_add _ _ _ (by simp [hi])) ?_
  rintro index k _ rfl
  refine follows_bind (gives_add _ _ _ (by simp [ha])) ?_
  rintro elements l _ rfl
  refine follows_pure ⟨?_, List.mem_cons_self .., List.mem_cons_of_mem _ (List.mem_cons_self ..)⟩
    (Ledger.within_refl _)
  exact ((Ledger.within_name ..).trans (Ledger.within_name ..)).trans (Ledger.within_name ..)

lemma gives_truncated (hx : (x, id) ∈ Γ.names) :
    w.Gives Γ (TypedMemory.truncated x) (w.emitter.truncated id) := by
  let value (ty : ValueType) : Draft Operand :=
    if ty = .double then Draft.add .truncateToInt32 [x] .int32 else pure x
  refine gives_observe hx (fun y => value y.ty) (fun y hy => ?_) fun y => ?_
  · rw [show y.ty = x.ty from congrArg Facts.ty hy]
    rfl
  · dsimp only [value]
    split_ifs
    · exact gives_add _ _ _ (.cons (.inl hx) .nil)
    · exact gives_pure hx

end Writing

namespace Routine

open Writing

variable {s : Session} {call : Call NodeId} {r : Call Operand}

/-! ## Typed arrays -/

@[simp] lemma typedArrayLength_refines (h : s.Attends call r) (isShared : Bool) (element : Scalar)
    (i : Inliner) :
    Refines i call s (inlineTypedArrayLength isShared element i call)
      (TypedMemory.length isShared element (i.site r)) := by
  have hr := call.pairs_receiver i r
  refine refines_classify h fun _ => refines_observe h hr (refines_require fun _ => ?_)
  exact refines_commit h fun w => completes_result _ _ _ (by simp [hr.mentions])

/-! ## Typed objects -/

@[simp] lemma setOffset_refines (h : s.Attends call r) (i : Inliner) :
    Refines i call s (inlineSetTypedObjectOffset i call) (TypedMemory.setOffset (i.site r)) := by
  refine refines_two h rfl fun id j x y hids hxs hx hy => ?_
  simp only [arg, Site.arg, hids, hxs, List.getElem?_cons_zero, List.getElem?_cons_succ, pure_bind,
    ok_bind]
  refine refines_observe h hx (refines_require fun _ => ?_)
  exact refines_commit h fun w => completes_effect _ _ _ _ (by simp [hx.mentions, hy.mentions])

/-- **The construction of a typed object**, which is decided by its descriptor. -/
@[simp] lemma nonFunctionCall_refines (h : s.Attends call r) (d : DescriptorObject) (i : Inliner) :
    Refines i call s (inlineNonFunctionCall d i call) (TypedMemory.construct d (i.site r)) := by
  refine refines_classify h fun _ => ?_
  rw [show (i.site r).call.site = call.site from h.resolved.site_eq]
  refine refines_need fun size _ => refines_require fun _ => refines_need fun t _ => ?_
  refine refines_require fun _ => refines_require fun _ => refines_commit h fun w => ?_
  refine (gives_constant _).then ?_
  rintro v k _ rfl
  exact completes_result _ _ _ (by simp)

/-! ## Atomics -/

/-- **The element type that an atomic works on.** -/
lemma decides_atomicTarget (h : s.Attends call r) (i : Inliner) {id : NodeId} {x : Operand}
    (harg : arg call 0 = pure id) (hx : call.Pairs r id x) :
    Decides s Eq (atomicTarget call) (TypedMemory.atomicTarget (i.site r) x) := by
  rw [atomicTarget, TypedMemory.atomicTarget, harg, pure_bind, h.returnType_eq i]
  refine decides_of_ok (observe_of_operand? (h.operand?_eq hx)) ?_
  refine decides_bind (decides_need _ _) ?_
  rintro element _ - rfl
  by_cases hty : element.atomicResult? = some call.returnType
  · rw [if_neg (not_not.2 hty), decide_eq_true hty]
    exact decides_of_ok rfl (decides_pure rfl)
  · rw [if_pos hty, decide_eq_false hty]
    exact decides_refuse _

@[simp] lemma load_refines (h : s.Attends call r) (i : Inliner) :
    Refines i call s (inlineAtomicsLoad i call) (TypedMemory.load (i.site r)) := by
  refine refines_two h rfl fun id j x y hids hxs hx hy => ?_
  have harg : arg call 0 = pure id := arg_eq_pure (by rw [hids]; rfl)
  simp only [arg, Site.arg, hids, hxs, List.getElem?_cons_zero, List.getElem?_cons_succ, pure_bind,
    ok_bind, h.returnType_eq i]
  refine refines_bind (decides_atomicTarget h i harg hx) ?_
  rintro element _ - rfl
  refine refines_commit h fun w => ?_
  refine (follows_checkedAccess (hx.mentions _) (hy.mentions _)).then ?_
  rintro ⟨elements, index⟩ ⟨k, l⟩ Γ ⟨-, helements, hindex⟩
  exact completes_effectfulResult _ _ _ (.cons (.inl helements) (.cons (.inl hindex) .nil))

@[simp] lemma store_refines (h : s.Attends call r) (i : Inliner) :
    Refines i call s (inlineAtomicsStore i call) (TypedMemory.store (i.site r)) := by
  refine refines_three h rfl fun id j k x y z hids hxs hx hy hz => ?_
  have harg : arg call 0 = pure id := arg_eq_pure (by rw [hids]; rfl)
  simp only [arg, Site.arg, hids, hxs, List.getElem?_cons_zero, List.getElem?_cons_succ, pure_bind,
    ok_bind]
  refine refines_bind (decides_atomicTarget h i harg hx) ?_
  rintro element _ - rfl
  refine refines_commit h fun w => ?_
  refine (follows_checkedAccess (hx.mentions _) (hy.mentions _)).then ?_
  rintro ⟨elements, index⟩ ⟨l, m⟩ Γ ⟨hin, helements, hindex⟩
  refine (gives_truncated (hin.names hz)).then ?_
  rintro v n _ rfl
  refine (gives_add _ _ _ (by simp [Ledger.Mentions, Ledger.name, helements, hindex])).then ?_
  rintro stored o _ rfl
  refine (does_push (.inl (List.mem_cons_of_mem _ (List.mem_cons_of_mem _ (hin.names hz))))).then ?_
  rintro _ _ _ rfl
  exact (does_resumeAfter (by simp)).completes

@[simp] lemma update_refines (h : s.Attends call r) (operator : AtomicOperator) (i : Inliner) :
    Refines i call s (inlineAtomicsBinop operator i call)
      (TypedMemory.update operator (i.site r)) := by
  refine refines_three h rfl fun id j k x y z hids hxs hx hy hz => ?_
  have harg : arg call 0 = pure id := arg_eq_pure (by rw [hids]; rfl)
  simp only [arg, Site.arg, hids, hxs, List.getElem?_cons_zero, List.getElem?_cons_succ, pure_bind,
    ok_bind, h.returnType_eq i]
  refine refines_bind (decides_atomicTarget h i harg hx) ?_
  rintro element _ - rfl
  refine refines_commit h fun w => ?_
  refine (follows_checkedAccess (hx.mentions _) (hy.mentions _)).then ?_
  rintro ⟨elements, index⟩ ⟨l, m⟩ Γ ⟨hin, helements, hindex⟩
  refine (gives_truncated (hin.names hz)).then ?_
  rintro v n _ rfl
  exact completes_effectfulResult _ _ _ (by simp [Ledger.Mentions, Ledger.name, helements, hindex])

@[simp] lemma compareExchange_refines (h : s.Attends call r) (i : Inliner) :
    Refines i call s (inlineAtomicsCompareExchange i call)
      (TypedMemory.compareExchange (i.site r)) := by
  refine refines_four h rfl fun id j k l x y z u hids hxs hx hy hz hu => ?_
  have harg : arg call 0 = pure id := arg_eq_pure (by rw [hids]; rfl)
  simp only [arg, Site.arg, hids, hxs, List.getElem?_cons_zero, List.getElem?_cons_succ, pure_bind,
    ok_bind, h.returnType_eq i]
  refine refines_bind (decides_atomicTarget h i harg hx) ?_
  rintro element _ - rfl
  refine refines_commit h fun w => ?_
  refine (follows_checkedAccess (hx.mentions _) (hy.mentions _)).then ?_
  rintro ⟨elements, index⟩ ⟨m, n⟩ Γ ⟨hin, helements, hindex⟩
  refine (gives_truncated (hin.names hz)).then ?_
  rintro old o _ rfl
  refine (gives_truncated (List.mem_cons_of_mem _ (hin.names hu))).then ?_
  rintro new p _ rfl
  exact completes_effectfulResult _ _ _ (by simp [Ledger.Mentions, Ledger.name, helements, hindex])

@[simp] lemma fence_refines (h : s.Attends call r) (i : Inliner) :
    Refines i call s (inlineAtomicsFence i call) (TypedMemory.fence (i.site r)) :=
  refines_classify h fun _ => refines_commit h fun _ => completes_effect _ _ _ _ .nil

end Routine

end CallSite
