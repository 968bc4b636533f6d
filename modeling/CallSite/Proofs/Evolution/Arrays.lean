import CallSite.Proofs.Evolution.Lasting
import CallSite.Proofs.Evolution.Objects
import CallSite.Specialize.ArrayCreation

/-!
# Decisions about arrays last

The array specializations ask for flags, for element types and for the prototype of arrays, and
record every answer that could turn.  So a decision is opened into its conditions, each of which
holds again after the change, and the drafts of the two plans are compared step by step.

* `DenseArray.types_grows`, `DenseArray.prototype_grows` — **a dense array stays dense**.
* `ArrayUpdate.push_lasts`, `ArrayUpdate.remove_lasts`, `ArrayCreation.concat_lasts` and their
  companions — the decisions.
-/

namespace CallSite

open Decide (Lasts bind_eq_ok pure_eq_ok require_eq_ok need_eq_ok)
open Draft (core_bind core_bind_congr core_add_congr core_push core_resumeAfter core_guardTop
  core_effectfulResult_congr)

variable {facts : List Dependency} {s s' : Site} {x x' : Operand}

/-! ## Dense arrays -/

namespace DenseArray

lemma types_eq_ok {flags : ObjectFlags} {a : Answer TypeSet} :
    types x flags = .ok a ↔ ∃ t, x.types = some t ∧ t.knownClass? = some .array ∧
      (t.hasFlags flags).value = false ∧ a = ⟨t, (t.hasFlags flags).dependencies⟩ := by
  rw [types]
  simp only [bind_eq_ok, need_eq_ok]
  refine exists_congr fun t => and_congr_right fun _ => ?_
  by_cases hclass : t.knownClass? = some .array
  · rw [if_neg (not_not.2 hclass)]
    cases hflags : (t.hasFlags flags).value with
    | true => exact ⟨nofun, nofun⟩
    | false =>
      refine ⟨fun h => ⟨hclass, rfl, (Except.ok.inj h).symm⟩, ?_⟩
      rintro ⟨-, -, rfl⟩
      rfl
  · rw [if_pos hclass]
    exact ⟨nofun, fun h => absurd h.1 hclass⟩

lemma prototype_eq_ok {ds : List Dependency} :
    prototype s = .ok ds ↔ s.env.indexedArrayPrototype = false ∧ ds = [.noIndexedPrototype] := by
  rw [prototype]
  split_ifs with hindexed
  · simp [hindexed, Decide.refuse, Decide.decline]
  · simp [hindexed, eq_comm]

/-- **An operand that was known to be a dense array** is known to be one again. -/
theorem types_grows (h : x.Grows facts x') {flags : ObjectFlags} {a : Answer TypeSet}
    (ha : types x flags = .ok a) (hfacts : a.dependencies ⊆ facts) :
    ∃ t', types x' flags = .ok ⟨t', a.dependencies⟩ ∧ a.value.Grows facts t' := by
  obtain ⟨t, ht, hclass, hflags, rfl⟩ := types_eq_ok.1 ha
  obtain ⟨t', ht', hgrows⟩ := h.exists_types ht
  have hclass' : t'.knownClass? = some .array := by
    rw [← t'.knownClass?_core, hgrows.core, TypeSet.knownClass?_core, hclass]
  have heq := hgrows.hasFlags_eq hfacts
  exact ⟨t', types_eq_ok.2 ⟨t', ht', hclass', by rw [heq, hflags], by rw [heq]⟩, hgrows⟩

/-- And nothing fills holes from its prototype. -/
lemma prototype_grows (h : s.Grows facts s') {ds : List Dependency} (hds : prototype s = .ok ds)
    (hfacts : ds ⊆ facts) : prototype s' = .ok ds := by
  obtain ⟨-, rfl⟩ := prototype_eq_ok.1 hds
  exact prototype_eq_ok.2 ⟨h.env.prototype (hfacts (List.mem_singleton_self _)), rfl⟩

end DenseArray

/-! ## Updates -/

namespace ArrayUpdate

lemma stored_core (conversion : DoubleConversion) (value : Operand) :
    stored conversion value.core = (stored conversion value).core Operand.core := by
  rw [stored, stored, apply_ite (Draft.core _)]
  rfl

lemma push_lasts : Lasts push := by
  intro facts s s' p _ h hp hfacts
  rw [push] at hp ⊢
  simp only [bind_eq_ok, pure_eq_ok, require_eq_ok] at hp ⊢
  obtain ⟨_, hshape, array, harray, value, hvalue, _, houtside, prototype, hprototype, _,
    hconversion, rfl⟩ := hp
  simp only [Plan.relyingOn, List.append_subset] at hfacts
  obtain ⟨⟨⟨hflags, -⟩, hclear⟩, hdoubles⟩ := hfacts
  obtain ⟨types', harray', hgrows⟩ := DenseArray.types_grows h.receiver harray hflags
  obtain ⟨value', hvalue', hv⟩ := h.exists_arg hvalue
  have houtside' : types'.writeNeedsBarrier value'.ty value'.types =
      array.value.writeNeedsBarrier value.ty value.types := by
    rw [hv.ty_eq]
    exact hgrows.writeNeedsBarrier_eq hv.types_core_eq (by simpa using houtside)
  have hconversion' := hgrows.convertDoubles_eq hdoubles
  refine ⟨_, ⟨(), (h.classify_eq _).trans hshape, _, harray', value', hvalue', (), ?_, prototype,
    DenseArray.prototype_grows h hprototype hclear, (), ?_, rfl⟩, ?_⟩
  · rw [houtside']
    exact houtside
  · rw [hconversion']
    exact hconversion
  rw [houtside', hconversion']
  refine Plan.core_relyingOn_congr _ (core_bind_congr (f := Operand.core) ?_ fun v v' hstored => ?_)
  · rw [← stored_core, hv.core, stored_core]
  refine core_bind_congr (core_add_congr _ ?_ _ rfl) fun object object' hobject => ?_
  · rw [List.map_singleton, h.receiver.core, List.map_singleton]
  refine core_bind_congr (f := id) ?_ fun _ _ _ => core_effectfulResult_congr _ ?_ _ rfl
  · rw [← Objects.postBarrier_core, hobject, hstored, Objects.postBarrier_core]
  · simp only [List.map_cons, List.map_nil, hobject, hstored]

lemma remove_lasts (side : RemovalSide) : Lasts (remove side) := by
  intro facts s s' p _ h hp hfacts
  rw [remove] at hp ⊢
  simp only [bind_eq_ok, pure_eq_ok] at hp ⊢
  obtain ⟨_, hshape, array, harray, prototype, hprototype, rfl⟩ := hp
  simp only [Plan.relyingOn, List.append_subset] at hfacts
  obtain ⟨⟨⟨hflags, hclear⟩, hpacked⟩, hkept⟩ := hfacts
  obtain ⟨types', harray', hgrows⟩ := DenseArray.types_grows h.receiver harray hflags
  refine ⟨_, ⟨(), (h.classify_eq _).trans hshape, _, harray', prototype,
    DenseArray.prototype_grows h hprototype hclear, rfl⟩, ?_⟩
  have hundefined : s'.call.resultTypes.hasPrimitives .undefined =
      s.call.resultTypes.hasPrimitives .undefined := by
    rw [← TypeSet.hasPrimitives_core, h.resultTypes.core, TypeSet.hasPrimitives_core]
  rw [hgrows.hasFlags_eq hpacked, hgrows.readBarrier_eq h.resultTypes.core hkept, h.returnType_eq,
    hundefined]
  refine Plan.core_relyingOn_congr _ (core_bind_congr (core_add_congr _ ?_ _ rfl) fun o o' ho => ?_)
  · rw [List.map_singleton, h.receiver.core, List.map_singleton]
  refine core_bind_congr (core_add_congr _ ?_ _ rfl) fun element element' helement => ?_
  · rw [List.map_singleton, ho, List.map_singleton]
  refine core_bind_congr (f := id) ?_ fun _ _ _ => core_bind_congr (f := id) ?_ fun _ _ _ => ?_
  · rw [core_push, core_push, helement]
  · rw [core_resumeAfter, core_resumeAfter, helement]
  · rw [core_guardTop, core_guardTop, helement, h.resultTypes.core]

lemma splice_lasts : Lasts splice := by
  intro facts s s' p _ h hp hfacts
  rw [splice] at hp ⊢
  simp only [bind_eq_ok, pure_eq_ok, require_eq_ok] at hp ⊢
  obtain ⟨_, hshape, _, hpopped, array, harray, prototype, hprototype, start, hstart, count,
    hcount, rfl⟩ := hp
  simp only [Plan.relyingOn, List.append_subset] at hfacts
  obtain ⟨hflags, hclear⟩ := hfacts
  obtain ⟨types', harray', hgrows⟩ := DenseArray.types_grows h.receiver harray hflags
  obtain ⟨start', hstart', hs⟩ := h.exists_arg hstart
  obtain ⟨count', hcount', hc⟩ := h.exists_arg hcount
  refine ⟨_, ⟨(), (h.classify_eq _).trans hshape, (), h.resultPopped_eq.trans hpopped, _, harray',
    prototype, DenseArray.prototype_grows h hprototype hclear, start', hstart', count', hcount',
    rfl⟩, ?_⟩
  refine Plan.core_relyingOn_congr _ (core_bind_congr (core_add_congr _ ?_ _ rfl) fun o o' ho => ?_)
  · simp only [List.map_cons, List.map_nil, h.receiver.core, hs.core, hc.core]
  refine core_bind_congr (f := id) rfl fun _ _ _ => ?_
  rw [core_resumeAfter, core_resumeAfter, ho]

lemma join_lasts : Lasts join := by
  intro facts s s' p _ h hp hfacts
  rw [join] at hp ⊢
  simp only [bind_eq_ok, pure_eq_ok] at hp ⊢
  obtain ⟨_, hshape, array, harray, separator, hseparator, rfl⟩ := hp
  obtain ⟨types', harray', hgrows⟩ := DenseArray.types_grows h.receiver harray hfacts
  obtain ⟨separator', hseparator', hs⟩ := h.exists_arg hseparator
  refine ⟨_, ⟨(), (h.classify_eq _).trans hshape, _, harray', separator', hseparator', rfl⟩, ?_⟩
  refine Plan.core_relyingOn_congr _ (core_effectfulResult_congr _ ?_ _ rfl)
  simp only [List.map_cons, List.map_nil, h.receiver.core, hs.core]

end ArrayUpdate

/-! ## Creation -/

namespace ArrayCreation

/-! ### The constructor -/

variable {t t' : Template} {r : Start × List Dependency}

lemma startOfLength_grows (h : s.Grows facts s') (ht : t.Grows facts t')
    (hr : startOfLength s t = .ok r) : startOfLength s' t' = .ok r := by
  rw [startOfLength] at hr ⊢
  obtain ⟨x, hx, hrest⟩ := bind_eq_ok.1 hr
  obtain ⟨x', hx', hgrows⟩ := h.exists_arg hx
  refine bind_eq_ok.2 ⟨x', hx', ?_⟩
  rw [hgrows.int32?_eq, h.config_eq, ht.length_eq]
  exact hrest

/-- Initial elements that the template included are included again. -/
lemma startOfElements_grows (h : s.Grows facts s') (ht : t.Grows facts t')
    (hr : startOfElements s t = .ok r) : startOfElements s' t' = .ok r := by
  rw [startOfElements] at hr ⊢
  rw [h.argc_eq, ht.typeObject.unknownProperties_eq, ht.typeObject.id_eq]
  dsimp only at hr ⊢
  split_ifs at hr ⊢
  · exact hr
  · simp only [bind_eq_ok, require_eq_ok] at hr ⊢
    obtain ⟨_, hfits, hrest⟩ := hr
    refine ⟨(), all_of_forall₂ (h.args.imp fun x x' hx hfit => ?_) hfits, hrest⟩
    refine any_of_rel ht.typeObject.elementTypes (fun u u' hsub hu => ?_) hfit
    rw [hx.ty_eq, ← TypeSet.includes_core, hx.types_core_eq, TypeSet.includes_core]
    exact TypeSet.includes_mono hsub hu

lemma start_grows (h : s.Grows facts s') (ht : t.Grows facts t') (hr : start s t = .ok r) :
    start s' t' = .ok r := by
  rw [start] at hr ⊢
  rw [h.argc_eq]
  split_ifs at hr ⊢
  · exact hr
  · exact startOfLength_grows h ht hr
  · exact startOfElements_grows h ht hr

lemma initialValue_core (convert : Bool) (x : Operand) :
    initialValue convert x.core = (initialValue convert x).core Operand.core := by
  rw [initialValue, initialValue, apply_ite (Draft.core _)]
  rfl

lemma initialBarrier_core (heap : Heap) (array value : Operand) :
    initialBarrier heap array.core value.core = (initialBarrier heap array value).core id := by
  rw [initialBarrier, initialBarrier, apply_ite (Draft.core _)]
  rfl

/-- **The loop over the initial elements** commutes with taking cores. -/
theorem storeInitial_core (elements array : Operand) (convert : Bool) (heap : Heap) (i : Nat)
    (last : Option Operand) (xs : List Operand) :
    storeInitial elements.core array.core convert heap i (last.map Operand.core)
        (xs.map Operand.core) =
      (storeInitial elements array convert heap i last xs).core (Option.map Operand.core) := by
  induction xs generalizing i last with
  | nil => rfl
  | cons x xs ih =>
    rw [List.map_cons, storeInitial, storeInitial]
    refine Eq.symm (core_bind (f := Operand.core) fun index => ?_)
    rw [initialValue_core]
    refine core_bind (f := Operand.core) fun value => ?_
    rw [initialBarrier_core]
    refine core_bind (f := id) fun _ => core_bind (f := Operand.core) fun _ => ?_
    exact (ih (i + 1) (some index)).symm

lemma fill_core (array : Operand) (convert : Bool) (heap : Heap) (xs : List Operand) :
    fill array.core convert heap (xs.map Operand.core) =
      (fill array convert heap xs).core id := by
  rw [fill, fill]
  refine Eq.symm (core_bind (f := Operand.core) fun elements => ?_)
  have hstore := storeInitial_core elements array convert heap 0 none xs
  rw [Option.map_none] at hstore
  rw [hstore]
  refine core_bind (f := Option.map Operand.core) fun last => ?_
  cases last with
  | none => rfl
  | some last => exact core_bind (f := Operand.core) fun _ => rfl

lemma construct_lasts : Lasts construct := by
  intro facts s s' p _ h hp hfacts
  rw [construct] at hp ⊢
  simp only [bind_eq_ok, pure_eq_ok] at hp ⊢
  obtain ⟨_, hshape, t, ht, ⟨first, tracked⟩, hstart, rfl⟩ := hp
  simp only [Plan.relyingOn, List.append_subset] at hfacts
  obtain ⟨t', ht', hgrows⟩ := h.exists_template ht
  refine ⟨_, ⟨(), (h.classify_eq _).trans hshape, t', ht', _, start_grows h hgrows hstart, rfl⟩, ?_⟩
  dsimp only
  rw [h.resultTypes.convertDoubles_eq hfacts.2, hgrows.constant_eq, hgrows.initialHeap_eq, h.argc_eq]
  refine Plan.core_relyingOn_congr _ (core_bind_congr (f := Operand.core) rfl fun v v' hv => ?_)
  refine core_bind_congr (core_add_congr _ ?_ _ ?_) fun array array' harray => ?_
  · rw [List.map_singleton, hv, List.map_singleton]
  · rw [Option.map_some, TypeSet.core_singleton, hgrows.typeObject.core]
    rfl
  refine core_bind_congr (f := id) ?_ fun _ _ _ => ?_
  · rw [core_push, core_push, harray]
  · split_ifs
    · rw [← fill_core, harray, h.args_core_eq, fill_core]
    · rfl

/-! ### Concatenation -/

/-- Elements that belonged to those of the receiver belong to them again. -/
lemma elementsFit_grows {receiver receiver' : TypeSet} (hsub : receiver.subset receiver' = true)
    {os os' : List TypeObject} (hos : List.Forall₂ (TypeObject.Grows facts) os os')
    {ds : List Dependency} (hds : elementsFit receiver os = .ok ds) (hfacts : ds ⊆ facts) :
    elementsFit receiver' os' = .ok ds := by
  induction hos generalizing ds with
  | nil => exact hds
  | @cons o o' os os' ho _ ih =>
    rw [elementsFit] at hds ⊢
    simp only [bind_eq_ok, require_eq_ok, pure_eq_ok] at hds ⊢
    obtain ⟨_, htracked, _, hfit, rest, hrest, rfl⟩ := hds
    obtain ⟨hkept, hfacts⟩ := List.cons_subset.1 hfacts
    rw [ho.unknownProperties_eq, ho.id_eq]
    refine ⟨(), htracked, (), any_of_rel (ho.elementsKept hkept) (fun u u' hu hfit => ?_) hfit,
      rest, ih hrest hfacts, rfl⟩
    exact TypeSet.subset_trans hu (TypeSet.subset_trans hfit hsub)

lemma concat_lasts : Lasts concat := by
  intro facts s s' p _ h hp hfacts
  rw [concat] at hp ⊢
  simp only [bind_eq_ok, pure_eq_ok, require_eq_ok, need_eq_ok] at hp ⊢
  obtain ⟨_, hshape, receiver, hreceiver, other, hother, argument, hargument, prototype,
    hprototype, key, hkey, _, htracked, _, hholes, _, hresult, elements, helements, rest, hrest, t,
    ht, _, htemplate, rfl⟩ := hp
  simp only [Plan.relyingOn, List.append_subset] at hfacts
  obtain ⟨⟨⟨⟨⟨⟨hflags, hflags'⟩, hclear⟩, hpacked⟩, hpacked'⟩, hfit⟩, hkept⟩ := hfacts
  obtain ⟨types, hreceiver', hgrows⟩ := DenseArray.types_grows h.receiver hreceiver hflags
  obtain ⟨other', hother', ho⟩ := h.exists_arg hother
  obtain ⟨types', hargument', hgrows'⟩ := DenseArray.types_grows ho hargument hflags'
  obtain ⟨key', hkey', hk⟩ := hgrows.exists_singleObject hkey
  obtain ⟨t', ht', htgrows⟩ := h.exists_template ht
  obtain ⟨elements', helements', hsub⟩ :
      ∃ elements', key'.elementTypes = some elements' ∧ elements.subset elements' = true :=
    exists_of_rel hk.elementTypes helements
  have hreceiverHoles := hgrows.hasFlags_eq hpacked
  have hargumentHoles := hgrows'.hasFlags_eq hpacked'
  have hresult' : s'.call.resultTypes.hasObject key.id = s.call.resultTypes.hasObject key.id := by
    rw [← TypeSet.hasObject_core, h.resultTypes.core, TypeSet.hasObject_core]
  refine ⟨_, ⟨(), (h.classify_eq _).trans hshape, _, hreceiver', other', hother', _, hargument',
    prototype, DenseArray.prototype_grows h hprototype hclear, key', hkey', (), ?_, (), ?_, (), ?_,
    elements', helements', rest, elementsFit_grows hsub hgrows'.objects hrest hfit, t', ht', (),
    ?_, rfl⟩, ?_⟩
  · rw [hk.unknownProperties_eq]
    exact htracked
  · rw [hreceiverHoles, hargumentHoles]
    exact hholes
  · rw [hk.id_eq, hresult']
    exact hresult
  · rw [hk.id_eq, htgrows.typeObject.id_eq]
    exact htemplate
  rw [hreceiverHoles, hargumentHoles, hk.id_eq, htgrows.constant_eq, htgrows.initialHeap_eq]
  refine Plan.core_relyingOn_congr _ (core_bind_congr (f := Operand.core) rfl fun v v' hv => ?_)
  refine core_effectfulResult_congr _ ?_ _ ?_
  · simp only [List.map_cons, List.map_nil, h.receiver.core, ho.core, hv]
  · rw [Option.map_some, h.resultTypes.core]
    rfl

end ArrayCreation

end CallSite
