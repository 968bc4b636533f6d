import CallSite.Proofs.Orderly.Arrays
import CallSite.Specialize.ElementStore
import CallSite.Specialize.TypedMemory

/-!
# Plans for element stores, typed arrays and typed objects are orderly

Every atomic access goes through a bounds check that adds three nodes without effects.  A call that
stores groups of elements is the one plan with many effects: each store is settled by its own resume
point before the steps of the next group begin, which is the invariant of the induction over the
groups.
-/

namespace CallSite

open Draft (Prepares Completes prepares_pure prepares_add prepares_bind)
open Plan (orderly_of_completes orderly_relyingOn orderly_result orderly_effectfulResult orderly_pushConstant)
open Progress (open_start)
open Site (arg_available)

variable {s : Site} {scope : List Ref} {σ : Progress}

namespace TypedMemory

lemma length_orderly (isShared : Bool) (element : Scalar) (s : Site) :
    (length isShared element s).Ensures (Plan.Orderly s) := by
  rw [length]
  simp only [Decide.ensures_bind, Site.ensures_classify, Decide.ensures_require,
    Decide.ensures_pure]
  intro _ _
  exact orderly_result (by simp) rfl

lemma setOffset_orderly (s : Site) : (setOffset s).Ensures (Plan.Orderly s) := by
  refine Site.ensures_two rfl fun object offset hargs _ => ?_
  simp only [Decide.ensures_bind, Decide.ensures_require, Decide.ensures_pure]
  intro _
  refine orderly_relyingOn ?_
  exact Draft.completes_effect open_start (by simp [arg_available, hargs])

lemma construct_orderly (d : DescriptorObject) (s : Site) :
    (construct d s).Ensures (Plan.Orderly s) := by
  rw [construct]
  simp only [Decide.ensures_bind, Site.ensures_classify, Decide.ensures_require,
    Decide.ensures_need, Decide.ensures_pure]
  intro _ size _ _ t _ _ _
  refine orderly_relyingOn (Prepares.then (prepares_add (by simp) rfl rfl) ?_)
  intro v n hv
  exact Draft.completes_result (open_start.grow n) (by simpa using hv) rfl

/-! ## Atomics -/

/-- The element type is atomic and fits the result, or the call is declined. -/
lemma atomicTarget_ensures (s : Site) (array : Operand) :
    (atomicTarget s array).Ensures fun element => element.atomicResult? = some s.returnType := by
  rw [atomicTarget]
  simp only [Decide.ensures_bind, Decide.ensures_need]
  intro element _
  split_ifs with h
  · trivial
  · exact not_not.1 h

/-- Length, bounds check and elements. -/
lemma reaches_checkedAccess {array index : Operand}
    {holds : Operand × Operand → Progress → Prop} (harray : array.ref.Available scope σ.added)
    (hindex : index.ref.Available scope σ.added) (hσ : σ.guarded = false)
    (h : ∀ elements index n, elements.ref.Available scope (σ.grow n).added →
      index.ref.Available scope (σ.grow n).added → holds (elements, index) (σ.grow n)) :
    (checkedAccess array index).Reaches scope σ holds := by
  refine (prepares_add (by simpa using harray) hσ rfl).then fun len l hlen => ?_
  refine (Draft.prepares_boundsCheck (hindex.grow l) hlen hσ).then fun checked m hchecked => ?_
  have harray' := (harray.grow l).grow m
  refine Prepares.then (prepares_add (by simpa using harray') hσ rfl) fun elements n he => ?_
  have hchecked' := hchecked.grow n
  rw [Progress.grow_grow, Progress.grow_grow] at he hchecked' ⊢
  exact Draft.reaches_pure (h elements checked (l + (m + n)) he hchecked')

lemma prepares_truncated {value : Operand} (hvalue : value.ref.Available scope σ.added)
    (hσ : σ.guarded = false) : Prepares scope σ (truncated value) := by
  rw [truncated]
  split_ifs
  · exact prepares_add (by simpa using hvalue) hσ rfl
  · exact prepares_pure hvalue

lemma compareExchange_orderly (s : Site) : (compareExchange s).Ensures (Plan.Orderly s) := by
  rw [compareExchange]
  simp only [Decide.ensures_bind, Site.ensures_classify, Site.ensures_arg, Decide.ensures_pure]
  intro h
  obtain ⟨array, index, old, new, hargs⟩ := h.args_eq_four rfl
  refine ⟨array, by simp [hargs], (atomicTarget_ensures s array).imp fun element _ => ?_⟩
  refine ⟨index, by simp [hargs], old, by simp [hargs], new, by simp [hargs], ?_⟩
  have available : ∀ x ∈ s.args, ∀ n, x.ref.Available (s.scope false) n :=
    fun x hx n => arg_available hx
  simp only [hargs, List.mem_cons, List.not_mem_nil, or_false, forall_eq_or_imp, forall_eq]
    at available
  obtain ⟨harray, hindex, hold, hnew⟩ := available
  refine orderly_relyingOn (Draft.reaches_bind ?_)
  refine reaches_checkedAccess (harray _) (hindex _) rfl fun elements checked l he hc => ?_
  refine (prepares_truncated (hold _) rfl).then fun old' m ho => ?_
  refine (prepares_truncated (hnew _) rfl).then fun new' n hn => ?_
  refine Draft.completes_effectfulResult (((open_start.grow l).grow m).grow n) ?_
  have he' := (he.grow m).grow n
  have hc' := (hc.grow m).grow n
  have ho' := ho.grow n
  simp [he', hc', ho', hn]

lemma load_orderly (s : Site) : (load s).Ensures (Plan.Orderly s) := by
  rw [load]
  simp only [Decide.ensures_bind, Site.ensures_classify, Site.ensures_arg, Decide.ensures_pure]
  intro h
  obtain ⟨array, index, hargs⟩ := h.args_eq_two rfl
  refine ⟨array, by simp [hargs], (atomicTarget_ensures s array).imp fun element _ => ?_⟩
  refine ⟨index, by simp [hargs], orderly_relyingOn (Draft.reaches_bind ?_)⟩
  refine reaches_checkedAccess (arg_available (by simp [hargs])) (arg_available (by simp [hargs]))
    rfl fun elements checked n he hc => ?_
  exact Draft.completes_effectfulResult (open_start.grow n) (by simp [he, hc])

lemma store_orderly (s : Site) : (store s).Ensures (Plan.Orderly s) := by
  rw [store]
  simp only [Decide.ensures_bind, Site.ensures_classify, Site.ensures_arg, Decide.ensures_pure]
  intro h
  obtain ⟨array, index, value, hargs⟩ := h.args_eq_three rfl
  refine ⟨array, by simp [hargs], (atomicTarget_ensures s array).imp fun element _ => ?_⟩
  refine ⟨index, by simp [hargs], value, by simp [hargs], orderly_relyingOn ?_⟩
  refine Draft.reaches_bind ?_
  refine reaches_checkedAccess (arg_available (by simp [hargs])) (arg_available (by simp [hargs]))
    rfl fun elements checked m he hc => ?_
  refine (prepares_truncated (arg_available (by simp [hargs])) rfl).then fun written n hw => ?_
  have hσ := (open_start.grow m).grow n
  have he' := he.grow n
  have hc' := hc.grow n
  refine Draft.reaches_bind (Draft.reaches_add (by simp [he', hc', hw]) rfl (fun _ => rfl) ?_)
  refine Draft.reaches_bind (Draft.reaches_push (arg_available (by simp [hargs])) rfl ?_)
  exact Draft.reaches_resumeAfter rfl (Nat.zero_le _) (Nat.lt_succ_self _) rfl rfl
    (fun _ hj => Progress.waiting_add hσ.pending (.storeTypedElement element .seqCst) hj)
    ⟨rfl, rfl⟩

lemma update_orderly (operator : AtomicOperator) (s : Site) :
    (update operator s).Ensures (Plan.Orderly s) := by
  rw [update]
  simp only [Decide.ensures_bind, Site.ensures_classify, Site.ensures_arg, Decide.ensures_pure]
  intro h
  obtain ⟨array, index, value, hargs⟩ := h.args_eq_three rfl
  refine ⟨array, by simp [hargs], (atomicTarget_ensures s array).imp fun element _ => ?_⟩
  refine ⟨index, by simp [hargs], value, by simp [hargs], orderly_relyingOn ?_⟩
  refine Draft.reaches_bind ?_
  refine reaches_checkedAccess (arg_available (by simp [hargs])) (arg_available (by simp [hargs]))
    rfl fun elements checked m he hc => ?_
  refine (prepares_truncated (arg_available (by simp [hargs])) rfl).then fun value' n hv => ?_
  have he' := he.grow n
  have hc' := hc.grow n
  exact Draft.completes_effectfulResult ((open_start.grow m).grow n) (by simp [he', hc', hv])

lemma fence_orderly (s : Site) : (fence s).Ensures (Plan.Orderly s) := by
  rw [fence]
  simp only [Decide.ensures_bind, Site.ensures_classify, Decide.ensures_pure]
  intro _
  exact orderly_relyingOn (Draft.completes_effect open_start (by simp))

end TypedMemory

/-! ## Bulk element stores -/

namespace ElementStore

/-- Every operand of a group is an argument. -/
lemma mem_of_mem_groups : ∀ (args : List Operand) (g : Group), g ∈ groups args →
    g.object ∈ args ∧ g.index ∈ args ∧ g.value ∈ args
  | object :: index :: value :: rest, g, h => by
      rcases List.mem_cons.1 h with rfl | h
      · simp
      · obtain ⟨ho, hi, hv⟩ := mem_of_mem_groups rest g h
        simp [ho, hi, hv]
  | [], _, h => by cases h
  | [_], _, h => by cases h
  | [_, _], _, h => by cases h

/-- The classified groups are the given ones, in order. -/
lemma classifyAll_ensures (gs : List Group) :
    (classifyAll gs).Ensures fun r => r.1.map (·.2) = gs := by
  induction gs with
  | nil => rfl
  | cons g gs ih =>
    rw [classifyAll]
    simp only [Decide.ensures_bind, Decide.ensures_need]
    intro write _
    refine ih.imp fun r hr => ?_
    show g :: r.1.map (·.2) = g :: gs
    rw [hr]

/-- The operands of the classified groups are arguments. -/
lemma mem_args_of_classifyAll {args : List Operand}
    {r : List (ElementWrite × Group) × List Dependency} (hr : classifyAll (groups args) = .ok r)
    {w : ElementWrite × Group} (hw : w ∈ r.1) :
    w.2.object ∈ args ∧ w.2.index ∈ args ∧ w.2.value ∈ args := by
  have hmap : r.1.map (·.2) = groups args := (classifyAll_ensures _).of_eq_ok hr
  exact mem_of_mem_groups args w.2 (hmap ▸ List.mem_map_of_mem hw)

lemma prepares_int32Index {index : Operand} (hindex : index.ref.Available scope σ.added)
    (hσ : σ.guarded = false) : Prepares scope σ (int32Index index) := by
  rw [int32Index]
  split_ifs
  · exact prepares_pure hindex
  · exact prepares_add (by simpa using hindex) hσ rfl

lemma prepares_scalarValue (element : Scalar) {value : Operand}
    (hvalue : value.ref.Available scope σ.added) (hσ : σ.guarded = false) :
    Prepares scope σ (scalarValue element value) := by
  rw [scalarValue]
  split_ifs
  · exact prepares_add (by simpa using hvalue) hσ rfl
  · exact prepares_add (by simpa using hvalue) hσ rfl
  · exact prepares_pure hvalue

/-- The store of one group settles its own node, whichever way it is stored. -/
lemma reaches_storeNode (object index value : Operand) (write : ElementWrite)
    {holds : Unit → Progress → Prop} (h : σ.Settled)
    (hobject : object.ref.Available scope σ.added) (hindex : index.ref.Available scope σ.added)
    (hvalue : value.ref.Available scope σ.added) (hend : ∀ σ', σ'.Settled → holds () σ') :
    (storeNode object index value write >>= Draft.resumeAfter).Reaches scope σ holds := by
  cases write with
  | dense conversion =>
    refine Draft.reaches_bind (Draft.reaches_bind ?_)
    refine (ArrayUpdate.prepares_stored conversion hvalue h.unguarded).imp ?_
    rintro value' _ ⟨hvalue', l, rfl⟩
    refine Draft.reaches_bind ?_
    refine Draft.Reaches.imp (prepares_add (by simpa using hobject.grow l) h.unguarded rfl) ?_
    rintro elements _ ⟨helements, m, rfl⟩
    refine Draft.reaches_bind ?_
    refine Objects.reaches_postBarrier ((hobject.grow l).grow m) (hvalue'.grow m) h.unguarded
      fun n => ?_
    have hindex' := ((hindex.grow l).grow m).grow n
    have hvalue'' := (hvalue'.grow m).grow n
    have helements' := helements.grow n
    have hσ := ((h.grow l).grow m).grow n
    exact Draft.reaches_resumed hσ (by simp [helements', hindex', hvalue'']) hend
  | typedArray element =>
    refine Draft.reaches_bind (Draft.reaches_bind ?_)
    refine (prepares_scalarValue element hvalue h.unguarded).imp ?_
    rintro value' _ ⟨hvalue', l, rfl⟩
    refine Draft.reaches_bind ?_
    refine Draft.Reaches.imp (prepares_add (by simpa using hobject.grow l) h.unguarded rfl) ?_
    rintro elements _ ⟨helements, m, rfl⟩
    have hindex' := (hindex.grow l).grow m
    have hvalue'' := hvalue'.grow m
    exact Draft.reaches_resumed ((h.grow l).grow m) (by simp [helements, hindex', hvalue'']) hend
  | typedObject element =>
    refine Draft.reaches_bind (Draft.reaches_bind ?_)
    refine (prepares_scalarValue element hvalue h.unguarded).imp ?_
    rintro value' _ ⟨hvalue', l, rfl⟩
    have hobject' := hobject.grow l
    have hindex' := hindex.grow l
    exact Draft.reaches_resumed (h.grow l) (by simp [hobject', hindex', hvalue']) hend

lemma reaches_store (write : ElementWrite) {g : Group} {holds : Unit → Progress → Prop}
    (h : σ.Settled) (hobject : g.object.ref.Available scope σ.added)
    (hindex : g.index.ref.Available scope σ.added) (hvalue : g.value.ref.Available scope σ.added)
    (hend : ∀ σ', σ'.Settled → holds () σ') : (store write g).Reaches scope σ holds :=
  (prepares_int32Index hindex h.unguarded).then fun _ n hindex' =>
    reaches_storeNode _ _ _ write (h.grow n) (hobject.grow n) hindex' (hvalue.grow n) hend

/-- **All stores are settled**, by induction over the groups: after each of them the next one starts
from a settled progress. -/
theorem storeAll_completes (writes : List (ElementWrite × Group)) (h : σ.Settled)
    (available : ∀ w ∈ writes, ∀ n, w.2.object.ref.Available scope n ∧
      w.2.index.ref.Available scope n ∧ w.2.value.ref.Available scope n) :
    Completes scope σ (storeAll writes) := by
  induction writes generalizing σ with
  | nil => exact Draft.reaches_pure ⟨h.pushed, h.pending⟩
  | cons w writes ih =>
    obtain ⟨write, g⟩ := w
    obtain ⟨hobject, hindex, hvalue⟩ := available (write, g) (List.mem_cons_self ..) σ.added
    refine Draft.reaches_bind (reaches_store write h hobject hindex hvalue fun σ' hσ' => ?_)
    exact ih hσ' fun w hw => available w (List.mem_cons_of_mem _ hw)

lemma putElements_orderly (s : Site) : (putElements s).Ensures (Plan.Orderly s) := by
  rw [putElements]
  simp only [Decide.ensures_bind, Site.ensures_classify]
  intro _
  refine (classifyAll_ensures (groups s.args)).imp fun r hr => orderly_relyingOn ?_
  have available : ∀ w ∈ r.1, ∀ n, w.2.object.ref.Available (s.scope false) n ∧
      w.2.index.ref.Available (s.scope false) n ∧
      w.2.value.ref.Available (s.scope false) n := by
    intro w hw n
    have hg : w.2 ∈ groups s.args := hr ▸ List.mem_map_of_mem hw
    obtain ⟨hobject, hindex, hvalue⟩ := mem_of_mem_groups s.args w.2 hg
    exact ⟨arg_available hobject, arg_available hindex, arg_available hvalue⟩
  refine Draft.reaches_bind (Draft.reaches_bind ?_)
  refine Draft.reaches_add (by simp) rfl (fun _ => rfl) ?_
  refine Draft.reaches_push (.inr ⟨0, Nat.lt_succ_self _, rfl⟩) rfl ?_
  exact storeAll_completes r.1 ⟨rfl, rfl, rfl, Nat.zero_le _⟩ available

end ElementStore

end CallSite
