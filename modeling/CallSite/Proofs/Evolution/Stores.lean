import CallSite.Proofs.Evolution.Arrays
import CallSite.Proofs.Orderly.Memory
import CallSite.Specialize.ElementStore

/-!
# Decisions about bulk stores last

A group that is stored into a dense vector records what that rests on.  A group that is stored into
typed memory records nothing, and it lasts for another reason: its objects are of a class that keeps
no dense vector, so that no change makes a dense store of it.  This is where native classes have to
be without layouts.

* `ElementStore.isNative_eq_false_of_typed?` — **typed memory is not native**.
* `ElementStore.classify?_grows` — a group is stored in the same way.
* `ElementStore.putElements_lasts`, `Strings.split_lasts` — the decisions.
-/

namespace CallSite

open Decide (Lasts bind_eq_ok pure_eq_ok require_eq_ok need_eq_ok)
open Draft (core_bind core_bind_congr core_add core_add_congr core_push)

variable {facts : List Dependency}

namespace ElementStore

/-! ## Groups -/

/-- A group whose operands have changed. -/
structure Group.Grows (facts : List Dependency) (g g' : Group) : Prop where
  object : g.object.Grows facts g'.object
  index : g.index.Grows facts g'.index
  value : g.value.Grows facts g'.value

def Group.core (g : Group) : Group := ⟨g.object.core, g.index.core, g.value.core⟩

lemma Group.Grows.core_eq {g g' : Group} (h : g.Grows facts g') : g'.core = g.core := by
  rw [Group.core, Group.core, h.object.core, h.index.core, h.value.core]

/-- Arguments that have changed are grouped as before. -/
lemma groups_grows : ∀ (xs xs' : List Operand), List.Forall₂ (Operand.Grows facts) xs xs' →
    List.Forall₂ (Group.Grows facts) (groups xs) (groups xs')
  | object :: index :: value :: rest, _, h => by
      obtain ⟨object', _, hobject, h₁, rfl⟩ := List.forall₂_cons_left_iff.1 h
      obtain ⟨index', _, hindex, h₂, rfl⟩ := List.forall₂_cons_left_iff.1 h₁
      obtain ⟨value', rest', hvalue, hrest, rfl⟩ := List.forall₂_cons_left_iff.1 h₂
      exact .cons ⟨hobject, hindex, hvalue⟩ (groups_grows rest rest' hrest)
  | [], _, h => by
      obtain rfl := List.forall₂_nil_left_iff.1 h
      exact .nil
  | [_], _, h => by
      obtain ⟨_, _, _, h₁, rfl⟩ := List.forall₂_cons_left_iff.1 h
      obtain rfl := List.forall₂_nil_left_iff.1 h₁
      exact .nil
  | [_, _], _, h => by
      obtain ⟨_, _, _, h₁, rfl⟩ := List.forall₂_cons_left_iff.1 h
      obtain ⟨_, _, _, h₂, rfl⟩ := List.forall₂_cons_left_iff.1 h₁
      obtain rfl := List.forall₂_nil_left_iff.1 h₂
      exact .nil

/-! ## Classification -/

variable {types types' : TypeSet} {c : ObjectClass} {value value' : Operand}
  {a : Answer ElementWrite} {g g' : Group}

lemma dense?_eq_some : dense? types c value = some a ↔ c.isNative = true ∧
    (types.writeNeedsBarrier value.ty value.types).value = false ∧
    a = ⟨.dense types.convertDoubles.value,
      (types.writeNeedsBarrier value.ty value.types).dependencies ++
        types.convertDoubles.dependencies⟩ := by
  rw [dense?]
  dsimp only
  cases c.isNative with
  | false => exact ⟨nofun, nofun⟩
  | true =>
    cases (types.writeNeedsBarrier value.ty value.types).value with
    | true => exact ⟨nofun, nofun⟩
    | false => exact ⟨fun h => ⟨rfl, rfl, (Option.some.inj h).symm⟩, fun h => by rw [h.2.2]; rfl⟩

/-- A dense store records what it rests on. -/
lemma dense?_grows (h : types.Grows facts types') (hv : value.Grows facts value')
    (ha : dense? types c value = some a) (hfacts : a.dependencies ⊆ facts) :
    dense? types' c value' = some a := by
  obtain ⟨hc, houtside, rfl⟩ := dense?_eq_some.1 ha
  have houtside' : types'.writeNeedsBarrier value'.ty value'.types =
      types.writeNeedsBarrier value.ty value.types := by
    rw [hv.ty_eq]
    exact h.writeNeedsBarrier_eq hv.types_core_eq houtside
  have hconversion := h.convertDoubles_eq (List.append_subset.1 hfacts).2
  refine dense?_eq_some.2 ⟨hc, ?_, ?_⟩
  · rw [houtside', houtside]
  · rw [houtside', hconversion]

lemma typed?_core (types : TypeSet) : typed? types.core = typed? types := by
  rw [typed?, typed?, TypeSet.typedArray?_core, TypeSet.sharedTypedArray?_core,
    TypeSet.typedLayout?_core]

/-- **Typed memory is not native**, when no native object is laid out as a typed object. -/
theorem isNative_eq_false_of_typed? (h : types.NativesWithoutLayout)
    (hc : types.knownClass? = some c) {w : ElementWrite} (hw : typed? types = some w) :
    c.isNative = false := by
  by_contra hnative
  rw [Bool.not_eq_false] at hnative
  have hlayout : types.typedLayout? = none := by
    rw [TypeSet.knownClass?] at hc
    rw [TypeSet.typedLayout?]
    split_ifs at hc ⊢
    cases hobjects : types.objects with
    | nil => rfl
    | cons o os =>
      rw [hobjects] at hc
      dsimp only at hc ⊢
      split_ifs at hc
      obtain rfl := Option.some.inj hc
      rw [h o (hobjects ▸ List.mem_cons_self ..) hnative]
      rfl
  rw [typed?, TypeSet.typedArray?, TypeSet.sharedTypedArray?, hc, hlayout] at hw
  cases c <;> cases hw <;> cases hnative

/-- **A group is stored in the same way.** -/
theorem classify?_grows (h : g.Grows facts g')
    (hnative : ∀ types ∈ g.object.types, types.NativesWithoutLayout) (ha : classify? g = some a)
    (hfacts : a.dependencies ⊆ facts) : classify? g' = some a := by
  rw [classify?] at ha ⊢
  rw [h.object.ty_eq, h.index.ty_eq]
  split_ifs at ha ⊢
  obtain ⟨types, htypes, ha⟩ := Option.bind_eq_some_iff.1 ha
  obtain ⟨c, hc, ha⟩ := Option.bind_eq_some_iff.1 ha
  obtain ⟨types', htypes', hgrows⟩ := h.object.exists_types htypes
  have hc' : types'.knownClass? = some c := by
    rw [← types'.knownClass?_core, hgrows.core, TypeSet.knownClass?_core, hc]
  refine Option.bind_eq_some_iff.2 ⟨types', htypes', Option.bind_eq_some_iff.2 ⟨c, hc', ?_⟩⟩
  cases hdense : dense? types c g.value with
  | some dense =>
    rw [hdense] at ha
    obtain rfl : dense = a := Option.some.inj ha
    rw [dense?_grows hgrows h.value hdense hfacts]
    rfl
  | none =>
    rw [hdense] at ha
    have htyped : (typed? types).map Answer.stable = some a := ha
    obtain ⟨w, hw, rfl⟩ := Option.map_eq_some_iff.1 htyped
    have hforeign := isNative_eq_false_of_typed? (hnative types htypes) hc hw
    have hdense' : dense? types' c g'.value = none := by
      rw [dense?, hforeign]
      rfl
    rw [hdense', ← typed?_core, hgrows.core, typed?_core, hw]
    rfl

lemma classifyAll_grows {gs gs' : List Group} (h : List.Forall₂ (Group.Grows facts) gs gs')
    (hnative : ∀ g ∈ gs, ∀ types ∈ g.object.types, types.NativesWithoutLayout)
    {writes : List (ElementWrite × Group)} {ds : List Dependency}
    (hr : classifyAll gs = .ok (writes, ds)) (hfacts : ds ⊆ facts) :
    ∃ writes', classifyAll gs' = .ok (writes', ds) ∧
      writes'.map (Prod.map id Group.core) = writes.map (Prod.map id Group.core) := by
  induction h generalizing writes ds with
  | nil => exact ⟨writes, hr, rfl⟩
  | @cons g g' gs gs' hg _ ih =>
    rw [classifyAll] at hr ⊢
    simp only [bind_eq_ok, need_eq_ok, pure_eq_ok] at hr ⊢
    obtain ⟨write, hwrite, ⟨rest, tracked⟩, hrest, hpair⟩ := hr
    obtain ⟨rfl, rfl⟩ := Prod.mk.inj hpair
    obtain ⟨hwriteFacts, hrestFacts⟩ := List.append_subset.1 hfacts
    obtain ⟨rest', hrest', hcore⟩ :=
      ih (fun g hg => hnative g (List.mem_cons_of_mem _ hg)) hrest hrestFacts
    have hwrite' := classify?_grows hg (hnative g (List.mem_cons_self ..)) hwrite hwriteFacts
    refine ⟨_, ⟨write, hwrite', _, hrest', rfl⟩, ?_⟩
    rw [List.map_cons, List.map_cons, hcore, Prod.map, Prod.map, hg.core_eq]

/-! ## Emission -/

lemma int32Index_core (index : Operand) :
    int32Index index.core = (int32Index index).core Operand.core := by
  rw [int32Index, int32Index, apply_ite (Draft.core _)]
  rfl

lemma scalarValue_core (element : Scalar) (value : Operand) :
    scalarValue element value.core = (scalarValue element value).core Operand.core := by
  rw [scalarValue, scalarValue, apply_ite (Draft.core _), apply_ite (Draft.core _)]
  rfl

lemma storeNode_core (object index value : Operand) (write : ElementWrite) :
    storeNode object.core index.core value.core write =
      (storeNode object index value write).core Operand.core := by
  cases write with
  | dense conversion =>
    rw [storeNode, storeNode, ArrayUpdate.stored_core]
    refine Eq.symm (core_bind (f := Operand.core) fun v => ?_)
    refine core_bind (f := Operand.core) fun elements => ?_
    rw [Objects.postBarrier_core]
    exact core_bind (f := id) fun _ => rfl
  | typedArray element =>
    rw [storeNode, storeNode, scalarValue_core]
    exact Eq.symm (core_bind (f := Operand.core) fun _ => core_bind (f := Operand.core) fun _ => rfl)
  | typedObject element =>
    rw [storeNode, storeNode, scalarValue_core]
    exact Eq.symm (core_bind (f := Operand.core) fun _ => rfl)

lemma store_core (write : ElementWrite) (g : Group) :
    store write g.core = (store write g).core id := by
  rw [store, store, Group.core]
  dsimp only
  rw [int32Index_core]
  refine Eq.symm (core_bind (f := Operand.core) fun index => ?_)
  rw [storeNode_core]
  exact core_bind (f := Operand.core) fun _ => rfl

/-- **The stores of all groups** commute with taking cores. -/
theorem storeAll_core (writes : List (ElementWrite × Group)) :
    storeAll (writes.map (Prod.map id Group.core)) = (storeAll writes).core id := by
  induction writes with
  | nil => rfl
  | cons w writes ih =>
    rw [List.map_cons, Prod.map, storeAll, storeAll, id, store_core]
    exact Eq.symm (core_bind (f := id) fun _ => ih.symm)

lemma putElements_lasts : Lasts putElements := by
  intro facts s s' p hnative h hp hfacts
  rw [putElements] at hp ⊢
  simp only [bind_eq_ok, pure_eq_ok] at hp ⊢
  obtain ⟨_, hshape, ⟨writes, tracked⟩, hwrites, rfl⟩ := hp
  have hobjects : ∀ g ∈ groups s.args, ∀ types ∈ g.object.types, types.NativesWithoutLayout :=
    fun g hg => hnative g.object (mem_of_mem_groups s.args g hg).1
  obtain ⟨writes', hwrites', hcore⟩ :=
    classifyAll_grows (groups_grows s.args s'.args h.args) hobjects hwrites hfacts
  refine ⟨_, ⟨(), (h.classify_eq _).trans hshape, _, hwrites', rfl⟩, ?_⟩
  refine Plan.core_relyingOn_congr _ (core_bind_congr (f := id) rfl fun _ _ _ => ?_)
  rw [← storeAll_core, hcore, storeAll_core]

end ElementStore

namespace Strings

lemma split_lasts : Lasts split := by
  intro facts s s' p _ h hp hfacts
  rw [split] at hp ⊢
  simp only [bind_eq_ok, pure_eq_ok, require_eq_ok] at hp ⊢
  obtain ⟨_, hshape, t, ht, _, htracked, _, hstrings, separator, hseparator, rfl⟩ := hp
  obtain ⟨t', ht', htgrows⟩ := h.exists_template ht
  obtain ⟨separator', hseparator', hs⟩ := h.exists_arg hseparator
  refine ⟨_, ⟨(), (h.classify_eq _).trans hshape, t', ht', (), ?_, (), ?_, separator', hseparator',
    rfl⟩, ?_⟩
  · rw [htgrows.typeObject.unknownProperties_eq]
    exact htracked
  · refine any_of_rel htgrows.typeObject.elementTypes (fun u u' hsub hu => ?_) hstrings
    exact TypeSet.hasPrimitives_mono hsub hu
  rw [htgrows.typeObject.id_eq, htgrows.constant_eq]
  refine Plan.core_relyingOn_congr _ (core_bind_congr (f := Operand.core) rfl fun v v' hv => ?_)
  refine core_bind_congr (core_add_congr _ ?_ _ ?_) fun array array' harray => ?_
  · simp only [List.map_cons, List.map_nil, h.receiver.core, hs.core, hv]
  · rw [Option.map_some, TypeSet.core_singleton, htgrows.typeObject.core]
    rfl
  · rw [core_push, core_push, harray]

end Strings

end CallSite
