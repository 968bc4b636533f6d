import CallSite.Proofs.Routines.Refinement
import CallSite.Routine.Arrays

/-!
# Array routines

The array routines do what was decided.

* `Routine.decides_denseArrayTypes`, `Routine.decides_checkArrayPrototype`,
  `Routine.decides_template` — the conditions that several of them share.
* `Writing.does_postBarrier`, `Writing.follows_fill` — telling the collector, and the loop that
  stores
  initial elements.
* `Routine.push_refines`, `Routine.construct_refines` and the rest — one for each native.
-/

namespace CallSite

open ArrayCreation (Start)

/-! ## Storing values -/

namespace Writing

variable {w : Writing} {Γ : Ledger} {x y : Operand} {id j : NodeId}

/-- A node that is added for its effect alone. -/
lemma does_effect {xs : List Operand} {ids : List NodeId} (op : Op) (ty : ValueType)
    (h : List.Forall₂ (Γ.Mentions w.context) xs ids) :
    w.Does Γ Γ (Draft.add op xs ty >>= fun _ => pure ())
      (w.emitter.add op ids ty >>= fun _ => pure ()) := by
  refine follows_bind (gives_add op ty none h) ?_
  rintro v k _ rfl
  exact follows_pure rfl (Ledger.within_name ..)

/-- Whether the collector is told depends on the value that is stored. -/
lemma does_postBarrier (hobject : Γ.Mentions w.context y j) (hx : (x, id) ∈ Γ.names) :
    w.Does Γ Γ (ArrayUpdate.postBarrier y x) (w.emitter.postBarrier j id) := by
  let barrier (needed : Bool) : Draft Unit :=
    if needed then Draft.add .postWriteBarrier [y, x] .noValue >>= fun _ => pure () else pure ()
  refine does_observe hx (fun z => barrier z.needsPostBarrier) (fun z hz => ?_) fun z => ?_
  · rw [show z.needsPostBarrier = x.needsPostBarrier from congrArg Facts.needsPostBarrier hz]
    rfl
  · dsimp only [barrier]
    split_ifs
    · exact does_effect _ _ (.cons hobject (.cons (.inl hx) .nil))
    · exact follows_pure rfl (Ledger.within_refl Γ)

lemma gives_stored (hx : (x, id) ∈ Γ.names) (conversion : DoubleConversion) :
    w.Gives Γ (ArrayUpdate.stored conversion x) (w.emitter.stored conversion id) := by
  rw [ArrayUpdate.stored, Emitter.stored]
  split_ifs
  · exact gives_add _ _ _ (.cons (.inl hx) .nil)
  · exact gives_pure hx

/-! ### Initial elements -/

lemma gives_initialValue (hx : (x, id) ∈ Γ.names) (convert : Bool) :
    w.Gives Γ (ArrayCreation.initialValue convert x) (w.emitter.initialValue convert id) := by
  rw [ArrayCreation.initialValue, Emitter.initialValue]
  split_ifs
  · exact gives_add _ _ _ (.cons (.inl hx) .nil)
  · exact gives_pure hx

lemma does_initialBarrier (hobject : Γ.Mentions w.context y j) (hx : Γ.Mentions w.context x id)
    (heap : Heap) :
    w.Does Γ Γ (ArrayCreation.initialBarrier heap y x) (w.emitter.initialBarrier heap j id) := by
  rw [ArrayCreation.initialBarrier, Emitter.initialBarrier]
  split_ifs
  · exact does_effect _ _ (.cons hobject (.cons hx .nil))
  · exact follows_pure rfl (Ledger.within_refl Γ)

/-- **The loop that stores initial elements.**  The index of the last one stays in the ledger. -/
lemma follows_storeInitial {elements array : Operand} {elementsId arrayId : NodeId}
    (helements : Γ.Mentions w.context elements elementsId)
    (harray : Γ.Mentions w.context array arrayId) (convert : Bool) (heap : Heap) (n : Nat)
    {last : Option Operand} {lastId : Option NodeId}
    (hlast : Option.Rel (Γ.Mentions w.context) last lastId) {xs : List Operand} {ids : List NodeId}
    (hxs : List.Forall₂ (fun x id => (x, id) ∈ Γ.names) xs ids) :
    w.Follows Γ
      (fun last lastId Γ' => Γ.Within Γ' ∧ Option.Rel (Γ'.Mentions w.context) last lastId)
      (ArrayCreation.storeInitial elements array convert heap n last xs)
      (w.emitter.storeInitial elementsId arrayId convert heap n lastId ids) := by
  induction xs generalizing Γ n last lastId ids with
  | nil =>
    cases hxs
    exact follows_pure ⟨Ledger.within_refl Γ, hlast⟩ (Ledger.within_refl Γ)
  | cons x xs ih =>
    cases hxs with
    | @cons _ id _ ids hx hxs =>
      refine follows_bind (gives_constant _) ?_
      rintro index k _ rfl
      refine follows_bind (gives_initialValue (List.mem_cons_of_mem _ hx) convert) ?_
      rintro value l _ rfl
      refine follows_bind (does_initialBarrier (by simp [harray]) (by simp) heap) ?_
      rintro _ _ _ rfl
      refine follows_bind (gives_add _ _ _ (by simp [helements])) ?_
      rintro stored m _ rfl
      refine (ih (by simp [helements]) (by simp [harray]) (n + 1) (.some (by simp)) ?_).weaken ?_
      · exact hxs.imp fun _ _ hy => by simp [Ledger.name, hy]
      · rintro last' lastId' Γ' ⟨hin, hlast'⟩
        refine ⟨Γ', ⟨?_, hlast'⟩, Ledger.within_refl Γ'⟩
        exact (((Ledger.within_name ..).trans (Ledger.within_name ..)).trans
          (Ledger.within_name ..)).trans hin

/-- **Initial elements are stored, and the length is set.** -/
lemma follows_fill {array : Operand} {arrayId : NodeId}
    (harray : Γ.Mentions w.context array arrayId) (convert : Bool) (heap : Heap)
    {xs : List Operand} {ids : List NodeId}
    (hxs : List.Forall₂ (fun x id => (x, id) ∈ Γ.names) xs ids) :
    w.Follows Γ (fun _ _ _ => True) (ArrayCreation.fill array convert heap xs)
      (w.emitter.fill arrayId convert heap ids) := by
  refine follows_bind (gives_add _ _ _ (by simp [harray])) ?_
  rintro elements k _ rfl
  refine follows_bind (follows_storeInitial (Ledger.mentions_name ..) (by simp [harray]) convert heap
    0 .none (hxs.imp fun _ _ hx => List.mem_cons_of_mem _ hx)) ?_
  rintro last lastId Γ' ⟨hin, hlast⟩
  cases hlast with
  | none => exact follows_pure trivial (Ledger.within_refl Γ')
  | some hindex =>
    have helements := (Ledger.mentions_name Γ w.context elements k).within hin
    refine follows_bind (gives_add _ _ _ (.cons helements (.cons hindex .nil))) ?_
    rintro length l _ rfl
    exact (does_resumeAfter (Ledger.mentions_name ..)).weaken fun _ _ Γ'' _ =>
      ⟨Γ'', trivial, Ledger.within_refl Γ''⟩

end Writing

namespace Routine

open Writing

variable {s : Session} {i : Inliner} {call : Call NodeId} {r : Call Operand}

/-! ## Conditions -/

/-- **An operand is an array whose elements all lie in its element vector.** -/
lemma decides_denseArrayTypes (h : s.Attends call r) {id : NodeId} {x : Operand}
    (hx : call.Pairs r id x) (flags : ObjectFlags) :
    Decides s Eq (denseArrayTypes id flags) (DenseArray.types x flags) := by
  refine decides_of_ok (observe_of_operand? (h.operand?_eq hx)) ?_
  refine decides_bind (decides_need x.types .arrayTypesUnobserved) ?_
  rintro types _ - rfl
  by_cases hclass : types.knownClass? = some .array
  · rw [if_neg (not_not.2 hclass), decide_eq_true hclass]
    refine decides_of_ok rfl ?_
    dsimp only
    cases (types.hasFlags flags).value with
    | false => exact decides_pure rfl
    | true => exact decides_refuse _
  · rw [if_pos hclass, decide_eq_false hclass]
    rfl

lemma decides_checkArrayPrototype (i : Inliner) (r : Call Operand) :
    Decides s Eq (checkArrayPrototype i) (DenseArray.prototype (i.site r)) := by
  rw [DenseArray.prototype, checkArrayPrototype, show (i.site r).env = i.env from rfl]
  cases i.env.indexedArrayPrototype with
  | false => exact ⟨_, rfl, rfl⟩
  | true => rfl

lemma decides_template (h : s.Attends call r) (i : Inliner) (native : Native) :
    Decides s Eq (template i call native) ((i.site r).template native) := by
  rw [Site.template, show (i.site r).call.site = call.site from h.resolved.site_eq]
  exact decides_need _ _

/-! ## Updates -/

@[simp] lemma push_refines (h : s.Attends call r) (i : Inliner) :
    Refines i call s (inlineArrayPush i call) (ArrayUpdate.push (i.site r)) := by
  have hr := call.pairs_receiver i r
  refine refines_one h rfl fun id x hids hxs hx => ?_
  simp only [arg, Site.arg, hids, hxs, List.getElem?_cons_zero, pure_bind, ok_bind]
  refine refines_bind (decides_denseArrayTypes h hr _) ?_
  rintro array _ - rfl
  refine refines_observe h hx (refines_require fun _ => ?_)
  refine refines_bind (decides_checkArrayPrototype i r) ?_
  rintro prototype _ - rfl
  refine refines_require fun _ => refines_commit h fun w => ?_
  refine (gives_stored hx _).then ?_
  rintro v k _ rfl
  refine (gives_add _ _ _ (by simp [hr.mentions])).then ?_
  rintro o l _ rfl
  refine (does_postBarrier (Ledger.mentions_name ..)
    (List.mem_cons_of_mem _ (List.mem_cons_self ..))).then ?_
  rintro _ _ _ rfl
  exact completes_effectfulResult _ _ _ (by simp)

@[simp] lemma remove_refines (h : s.Attends call r) (side : RemovalSide) (i : Inliner) :
    Refines i call s (inlineArrayPopShift side i call) (ArrayUpdate.remove side (i.site r)) := by
  have hr := call.pairs_receiver i r
  refine refines_classify h fun _ => ?_
  refine refines_bind (decides_denseArrayTypes h hr _) ?_
  rintro array _ - rfl
  refine refines_bind (decides_checkArrayPrototype i r) ?_
  rintro prototype _ - rfl
  rw [h.resultTypes_eq i, h.returnType_eq i]
  refine refines_commit h fun w => ?_
  refine (gives_add _ _ _ (by simp [hr.mentions])).then ?_
  rintro o k _ rfl
  refine (gives_add _ _ _ (by simp)).then ?_
  rintro v l _ rfl
  refine (does_push (Ledger.mentions_name ..)).then ?_
  rintro _ _ _ rfl
  refine (does_resumeAfter (by simp)).then ?_
  rintro _ _ _ rfl
  exact (does_guardTop (by simp) rfl _ _).completes

@[simp] lemma splice_refines (h : s.Attends call r) (i : Inliner) :
    Refines i call s (inlineArraySplice i call) (ArrayUpdate.splice (i.site r)) := by
  have hr := call.pairs_receiver i r
  refine refines_two h rfl fun id j x y hids hxs hx hy => ?_
  simp only [arg, Site.arg, hids, hxs, List.getElem?_cons_zero, List.getElem?_cons_succ, pure_bind,
    ok_bind, show (i.site r).call.resultPopped = call.resultPopped from h.resolved.resultPopped_eq]
  refine refines_require fun _ => ?_
  refine refines_bind (decides_denseArrayTypes h hr _) ?_
  rintro array _ - rfl
  refine refines_bind (decides_checkArrayPrototype i r) ?_
  rintro prototype _ - rfl
  refine refines_commit h fun w => completes_effect _ _ _ _ ?_
  simp [hr.mentions, hx.mentions, hy.mentions]

@[simp] lemma join_refines (h : s.Attends call r) (i : Inliner) :
    Refines i call s (inlineArrayJoin i call) (ArrayUpdate.join (i.site r)) := by
  have hr := call.pairs_receiver i r
  refine refines_one h rfl fun id x hids hxs hx => ?_
  simp only [arg, Site.arg, hids, hxs, List.getElem?_cons_zero, pure_bind, ok_bind]
  refine refines_bind (decides_denseArrayTypes h hr _) ?_
  rintro array _ - rfl
  refine refines_commit h fun w => completes_effectfulResult _ _ _ ?_
  simp [hr.mentions, hx.mentions]

/-! ## Concatenation -/

@[simp] lemma concat_refines (h : s.Attends call r) (i : Inliner) :
    Refines i call s (inlineArrayConcat i call) (ArrayCreation.concat (i.site r)) := by
  have hr := call.pairs_receiver i r
  refine refines_one h rfl fun id x hids hxs hx => ?_
  simp only [arg, Site.arg, hids, hxs, List.getElem?_cons_zero, pure_bind, ok_bind,
    h.resultTypes_eq i]
  refine refines_bind (decides_denseArrayTypes h hr _) ?_
  rintro receiver _ - rfl
  refine refines_bind (decides_denseArrayTypes h hx _) ?_
  rintro argument _ - rfl
  refine refines_bind (decides_checkArrayPrototype i r) ?_
  rintro prototype _ - rfl
  refine refines_need fun key _ => refines_require fun _ => refines_require fun _ => ?_
  refine refines_require fun _ => refines_need fun elements _ => ?_
  refine refines_bind (decides_check _) ?_
  rintro tracked _ - rfl
  refine refines_bind (decides_template h i _) ?_
  rintro t _ - rfl
  refine refines_require fun _ => refines_commit h fun w => ?_
  refine (gives_constant _).then ?_
  rintro v k _ rfl
  exact completes_effectfulResult _ _ _ (by simp [hr.mentions, hx.mentions])

/-! ## Parallel sections -/

lemma decides_requireParallel (i : Inliner) (r : Call Operand) :
    Decides s Eq (requireParallel i) (ArrayCreation.requireParallel (i.site r)) := by
  rw [ArrayCreation.requireParallel, requireParallel, show (i.site r).config = i.config from rfl]
  cases i.config.executionMode <;> first | rfl | exact ⟨(), rfl, rfl⟩

@[simp] lemma newDense_refines (h : s.Attends call r) (i : Inliner) :
    Refines i call s (inlineNewDenseArray i call) (ArrayCreation.newDense (i.site r)) := by
  refine refines_one h rfl fun id x hids hxs hx => ?_
  simp only [arg, Site.arg, hids, hxs, List.getElem?_cons_zero, pure_bind, ok_bind,
    h.resultTypes_eq i]
  refine refines_bind (decides_requireParallel i r) fun _ _ _ _ => ?_
  refine refines_need fun observed _ => ?_
  refine refines_bind (decides_template h i _) ?_
  rintro t _ - rfl
  refine refines_require fun _ => refines_commit_context h fun w => ?_
  refine (gives_constant _).then ?_
  rintro v k _ rfl
  refine completes_effectfulResult _ _ _ ?_
  simp [hx.mentions, Ledger.mentions_context]

/-! ## The constructor -/

section Constructor

variable {xs : List Operand} {ids : List NodeId}

/-- The initial elements are looked at one after the other, and the first that does not fit declines
the call. -/
lemma decides_checkElements (h : s.Attends call r) (t : Template)
    (hxs : List.Forall₂ (fun x id => call.Pairs r id x) xs ids) :
    Decides s Eq (checkElements t ids)
      (Decide.require (xs.all fun x => t.typeObject.elementTypes.any (·.includes x.ty x.types))
        .elementOutsideTemplate) := by
  induction hxs with
  | nil => exact ⟨(), rfl, rfl⟩
  | @cons x id xs ids hx _ ih =>
    refine decides_of_ok (observe_of_operand? (h.operand?_eq hx)) ?_
    rw [List.all_cons]
    cases t.typeObject.elementTypes.any (·.includes x.ty x.types) with
    | false => exact decides_refuse _
    | true => exact decides_of_ok rfl ih

lemma decides_startOfElements (h : s.Attends call r) (i : Inliner) (t : Template) :
    Decides s Eq (startOfElements call t) (ArrayCreation.startOfElements (i.site r) t) := by
  rw [startOfElements, ArrayCreation.startOfElements,
    show (i.site r).argc = call.argc from h.resolved.argc_eq]
  dsimp only
  cases t.typeObject.unknownProperties with
  | true => exact decides_pure rfl
  | false =>
    refine decides_bind (decides_checkElements h t h.forall₂_pairs) fun _ _ _ _ => ?_
    exact decides_pure rfl

lemma decides_startOfLength (h : s.Attends call r) (i : Inliner) (t : Template)
    (hargc : call.argc = 1) :
    Decides s Eq (startOfLength i call t) (ArrayCreation.startOfLength (i.site r) t) := by
  obtain ⟨id, hids⟩ := List.length_eq_one_iff.1 hargc
  obtain ⟨x, hxs⟩ := List.length_eq_one_iff.1 (h.resolved.argc_eq.trans hargc)
  have hx : call.Pairs r id x := Call.pairs_of_mem_zip (by
    rw [hxs, hids]
    exact List.mem_cons_self ..)
  simp only [startOfLength, ArrayCreation.startOfLength, arg, Site.arg, hids,
    show (i.site r).args = [x] from hxs, List.getElem?_cons_zero, pure_bind, ok_bind]
  refine decides_of_ok (observe_of_operand? (h.operand?_eq hx)) ?_
  refine decides_bind (decides_need _ _) ?_
  rintro n _ - rfl
  refine decides_bind (decides_require _ _) fun _ _ _ _ => ?_
  refine decides_bind (decides_require _ _) fun _ _ _ _ => ?_
  refine decides_bind (decides_require _ _) fun _ _ _ _ => ?_
  refine decides_bind (decides_require _ _) fun _ _ _ _ => ?_
  exact decides_pure rfl

lemma decides_start (h : s.Attends call r) (i : Inliner) (t : Template) :
    Decides s Eq (start i call t) (ArrayCreation.start (i.site r) t) := by
  rw [start, ArrayCreation.start, show (i.site r).argc = call.argc from h.resolved.argc_eq]
  split_ifs with hzero hone
  · exact decides_pure rfl
  · exact decides_startOfLength h i t hone
  · exact decides_startOfElements h i t

end Constructor

/-- **An array from the template of the site.** -/
@[simp] lemma construct_refines (h : s.Attends call r) (i : Inliner) :
    Refines i call s (inlineArray i call) (ArrayCreation.construct (i.site r)) := by
  refine refines_classify h fun _ => ?_
  refine refines_bind (decides_template h i _) ?_
  rintro t _ - rfl
  refine refines_bind (decides_start h i t) ?_
  rintro ⟨start, facts⟩ _ - rfl
  rw [h.resultTypes_eq i, show (i.site r).argc = call.argc from h.resolved.argc_eq]
  refine refines_commit h fun w => ?_
  refine (gives_constant _).then ?_
  rintro v k _ rfl
  refine (gives_add _ _ _ (by simp)).then ?_
  rintro array l _ rfl
  refine (does_push (Ledger.mentions_name ..)).then ?_
  rintro _ _ _ rfl
  split_ifs
  · exact (follows_fill (by simp) _ _ (h.forall₂_pairs.imp fun _ _ hx =>
      List.mem_cons_of_mem _ (List.mem_cons_of_mem _ hx))).completes
  · exact completes_finish

end Routine

end CallSite
