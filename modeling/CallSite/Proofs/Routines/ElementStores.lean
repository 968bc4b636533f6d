import CallSite.Proofs.Routines.Arrays
import CallSite.Routine.ElementStores

/-!
# The routine of bulk element stores

A loop over the handles classifies the groups, and a second one stores them; the decision works on
the operands in the same order.

* `Routine.decides_classifyGroups` — the first loop.
* `Writing.does_writeElements` — the second one.
* `Routine.putElements_refines` — both, with the commit of the call in between.
-/

namespace CallSite

open ElementStore (classify? classifyAll groups)

/-! ## Stores -/

namespace Writing

variable {w : Writing} {Γ : Ledger} {x o i v : Operand} {id oId iId vId : NodeId}

lemma gives_int32Index (hx : (x, id) ∈ Γ.names) :
    w.Gives Γ (ElementStore.int32Index x) (w.emitter.int32Index id) := by
  let index (ty : ValueType) : Draft Operand :=
    if ty = .int32 then pure x else Draft.add .toInt32 [x] .int32
  refine gives_observe hx (fun y => index y.ty) (fun y hy => ?_) fun y => ?_
  · rw [show y.ty = x.ty from congrArg Facts.ty hy]
    rfl
  · dsimp only [index]
    split_ifs
    · exact gives_pure hx
    · exact gives_add _ _ _ (.cons (.inl hx) .nil)

lemma gives_scalarValue (hx : (x, id) ∈ Γ.names) (element : Scalar) :
    w.Gives Γ (ElementStore.scalarValue element x) (w.emitter.scalarValue element id) := by
  let value (ty : ValueType) : Draft Operand :=
    if element = .uint8Clamped then Draft.add .clampToUint8 [x] .int32
    else if !element.isFloatingPoint ∧ ty ≠ .int32 then Draft.add .truncateToInt32 [x] .int32
    else pure x
  refine gives_observe hx (fun y => value y.ty) (fun y hy => ?_) fun y => ?_
  · rw [show y.ty = x.ty from congrArg Facts.ty hy]
    rfl
  · dsimp only [value]
    split_ifs
    · exact gives_add _ _ _ (.cons (.inl hx) .nil)
    · exact gives_add _ _ _ (.cons (.inl hx) .nil)
    · exact gives_pure hx

/-- **The store of a value**, by the way in which it is stored. -/
lemma yields_storeNode (ho : (o, oId) ∈ Γ.names) (hi : (i, iId) ∈ Γ.names)
    (hv : (v, vId) ∈ Γ.names) (write : ElementWrite) :
    w.Yields Γ (ElementStore.storeNode o i v write) (w.emitter.storeNode oId iId vId write) := by
  have hom : Γ.Mentions w.context o oId := .inl ho
  have him : Γ.Mentions w.context i iId := .inl hi
  cases write with
  | dense conversion =>
    refine yields_bind (gives_stored hv conversion) fun x id => ?_
    refine yields_bind (gives_add _ _ _ (by simp [hom])) fun elements j => ?_
    refine follows_bind (does_postBarrier (by simp [hom])
      (List.mem_cons_of_mem _ (List.mem_cons_self ..))) ?_
    rintro _ _ _ rfl
    exact (gives_add _ _ _ (by simp [him])).yields
  | typedArray element =>
    refine yields_bind (gives_scalarValue hv element) fun x id => ?_
    refine yields_bind (gives_add _ _ _ (by simp [hom])) fun elements j => ?_
    exact (gives_add _ _ _ (by simp [him])).yields
  | typedObject element =>
    refine yields_bind (gives_scalarValue hv element) fun x id => ?_
    exact (gives_add _ _ _ (by simp [hom, him])).yields

/-- The store of one group. -/
lemma does_writeElement (ho : (o, oId) ∈ Γ.names) (hi : (i, iId) ∈ Γ.names)
    (hv : (v, vId) ∈ Γ.names) (write : ElementWrite) :
    w.Does Γ Γ (ElementStore.store write ⟨o, i, v⟩)
      (w.emitter.writeElement write oId iId vId) := by
  refine follows_bind (gives_int32Index hi) ?_
  rintro index j _ rfl
  refine follows_bind (yields_storeNode (List.mem_cons_of_mem _ ho) (List.mem_cons_self ..)
    (List.mem_cons_of_mem _ hv) write) ?_
  rintro stored k Γ' ⟨hstored, hin⟩
  refine (does_resumeAfter (.inl hstored)).weaken ?_
  rintro _ _ _ rfl
  exact ⟨Γ, rfl, (Ledger.within_name ..).trans hin⟩

/-- The handles of a group are those of its operands. -/
structure Targets (names : List (Operand × NodeId)) (g : ElementWrite × ElementStore.Group)
    (t : ElementWrite.Target) : Prop where
  write : t.write = g.1
  object : (g.2.object, t.object) ∈ names
  index : (g.2.index, t.index) ∈ names
  value : (g.2.value, t.value) ∈ names

/-- **The loop that stores the groups.** -/
lemma does_writeElements {gs : List (ElementWrite × ElementStore.Group)}
    {ts : List ElementWrite.Target} (h : List.Forall₂ (Targets Γ.names) gs ts) :
    w.Does Γ Γ (ElementStore.storeAll gs) (w.emitter.writeElements ts) := by
  induction h with
  | nil => exact follows_pure rfl (Ledger.within_refl Γ)
  | @cons g t _ _ hg _ ih =>
    obtain ⟨write, object, index, value⟩ := t
    obtain ⟨rfl, ho, hi, hv⟩ := hg
    refine follows_bind (does_writeElement ho hi hv _) ?_
    rintro _ _ _ rfl
    exact ih

end Writing

namespace Routine

open Writing

variable {s : Session} {call : Call NodeId} {r : Call Operand}

/-! ## Groups -/

/-- **The loop that classifies the groups**, group by group. -/
lemma decides_classifyGroups (h : s.Attends call r) : ∀ {xs : List Operand} {ids : List NodeId},
    List.Forall₂ (fun x id => call.Pairs r id x) xs ids →
    Decides s
      (fun found targets => targets.2 = found.2 ∧
        List.Forall₂ (Targets (Ledger.ofCall r call).names) found.1 targets.1)
      (classifyGroups ids) (classifyAll (groups xs))
  | [], [], .nil => decides_pure ⟨rfl, .nil⟩
  | [_], [_], .cons _ .nil => decides_pure ⟨rfl, .nil⟩
  | [_, _], [_, _], .cons _ (.cons _ .nil) => decides_pure ⟨rfl, .nil⟩
  | object :: index :: value :: _, _ :: _ :: _ :: _, .cons ho (.cons hi (.cons hv hrest)) => by
    refine decides_of_ok (observe_of_operand? (h.operand?_eq ho)) ?_
    refine decides_of_ok (observe_of_operand? (h.operand?_eq hi)) ?_
    refine decides_of_ok (observe_of_operand? (h.operand?_eq hv)) ?_
    refine decides_bind (decides_need (classify? ⟨object, index, value⟩) _) ?_
    rintro write _ - rfl
    refine decides_bind (decides_classifyGroups h hrest) ?_
    rintro ⟨writes, facts⟩ ⟨targets, _⟩ - ⟨rfl, htargets⟩
    exact decides_pure ⟨rfl, .cons ⟨rfl, ho, hi, hv⟩ htargets⟩

@[simp] lemma putElements_refines (h : s.Attends call r) (i : Inliner) :
    Refines i call s (inlineUnsafePutElements i call) (ElementStore.putElements (i.site r)) := by
  refine refines_classify h fun _ => ?_
  refine refines_bind (decides_classifyGroups h h.forall₂_pairs) ?_
  rintro ⟨writes, facts⟩ ⟨targets, _⟩ - ⟨rfl, htargets⟩
  refine refines_commit h fun w => (does_pushConstant _).then ?_
  rintro _ _ _ ⟨x, id, rfl⟩
  refine (does_writeElements (htargets.imp fun _ _ ht => ?_)).completes
  exact ⟨ht.write, List.mem_cons_of_mem _ ht.object, List.mem_cons_of_mem _ ht.index,
    List.mem_cons_of_mem _ ht.value⟩

end Routine

end CallSite
