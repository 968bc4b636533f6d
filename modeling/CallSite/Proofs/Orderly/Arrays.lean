import CallSite.Proofs.Orderly.Objects
import CallSite.Specialize.ArrayCreation

/-!
# Plans for arrays are orderly

The methods that update an array end in one of the usual ways, after the conditions on the receiver
are opened by `DenseArray.ensures_types`.  The array constructor is the one plan here with a loop:
it stores its arguments by nodes without effects, whatever their number, so the progress after the
loop is that before it with nodes added.
-/

namespace CallSite

open Draft (Prepares Completes prepares_pure prepares_add)
open Plan (orderly_of_completes orderly_relyingOn orderly_effectfulResult)
open Progress (open_start)
open Site (arg_available)

/-! ## Dense arrays -/

namespace DenseArray

/-- **When an operand is a dense array**: its types are observed, all of them are arrays, and none
has one of the flags. -/
theorem ensures_types (x : Operand) (flags : ObjectFlags) (holds : Answer TypeSet → Prop) :
    (types x flags).Ensures holds ↔
      ∀ t, x.types = some t → t.knownClass? = some .array → (t.hasFlags flags).value = false →
        holds ⟨t, (t.hasFlags flags).dependencies⟩ := by
  rw [types, Decide.ensures_bind, Decide.ensures_need]
  refine forall_congr' fun t => forall_congr' fun _ => ?_
  by_cases hclass : t.knownClass? = some .array
  · cases hflags : (t.hasFlags flags).value <;> simp [hclass, hflags]
  · simp [hclass]

lemma ensures_prototype (s : Site) (holds : List Dependency → Prop) :
    (prototype s).Ensures holds ↔
      (s.env.indexedArrayPrototype = false → holds [.noIndexedPrototype]) := by
  rw [prototype]
  cases s.env.indexedArrayPrototype <;> simp

end DenseArray

/-! ## Updates -/

namespace ArrayUpdate

open DenseArray (ensures_types ensures_prototype)

variable {scope : List Ref} {σ : Progress}

lemma prepares_stored (conversion : DoubleConversion) {value : Operand}
    (hvalue : value.ref.Available scope σ.added) (hσ : σ.guarded = false) :
    Prepares scope σ (stored conversion value) := by
  rw [stored]
  split_ifs
  · exact prepares_add (by simpa using hvalue) hσ rfl
  · exact prepares_pure hvalue

lemma push_orderly (s : Site) : (push s).Ensures (Plan.Orderly s) := by
  rw [push]
  simp only [Decide.ensures_bind, Site.ensures_classify, Site.ensures_arg, ensures_types,
    ensures_prototype, Decide.ensures_require, Decide.ensures_pure]
  intro h types _ _ _
  obtain ⟨value, hargs⟩ := h.args_eq_one rfl
  have hvalue : value ∈ s.args := by simp [hargs]
  refine ⟨value, by simp [hargs], fun _ _ _ => orderly_relyingOn ?_⟩
  refine (prepares_stored types.convertDoubles.value (arg_available hvalue) rfl).then
    fun stored l hstored => ?_
  refine Prepares.then (prepares_add (by simp) rfl rfl) fun object m hobject => ?_
  refine Draft.reaches_bind ?_
  refine Objects.reaches_postBarrier hobject (hstored.grow m) rfl fun n => ?_
  have hobject' := hobject.grow n
  have hstored' := (hstored.grow m).grow n
  exact Draft.completes_effectfulResult (((open_start.grow l).grow m).grow n)
    (by simp [hobject', hstored'])

lemma remove_orderly (side : RemovalSide) (s : Site) :
    (remove side s).Ensures (Plan.Orderly s) := by
  rw [remove]
  simp only [Decide.ensures_bind, Site.ensures_classify, ensures_types, ensures_prototype,
    Decide.ensures_pure]
  intro _ types _ _ _ _
  refine orderly_relyingOn ?_
  refine Prepares.then (prepares_add (by simp) rfl rfl) fun object n hobject => ?_
  exact Draft.completes_guarded (open_start.grow n) (by simpa using hobject)

lemma splice_orderly (s : Site) : (splice s).Ensures (Plan.Orderly s) := by
  rw [splice]
  simp only [Decide.ensures_bind, Site.ensures_classify, Site.ensures_arg, ensures_types,
    ensures_prototype, Decide.ensures_require, Decide.ensures_pure]
  intro h _ types _ _ _ _
  obtain ⟨start, count, hargs⟩ := h.args_eq_two rfl
  refine ⟨start, by simp [hargs], count, by simp [hargs], orderly_relyingOn ?_⟩
  exact Draft.completes_effect open_start (by simp [arg_available, hargs])

lemma join_orderly (s : Site) : (join s).Ensures (Plan.Orderly s) := by
  rw [join]
  simp only [Decide.ensures_bind, Site.ensures_classify, Site.ensures_arg, ensures_types,
    Decide.ensures_pure]
  intro h types _ _ _
  obtain ⟨separator, hargs⟩ := h.args_eq_one rfl
  refine ⟨separator, by simp [hargs], ?_⟩
  exact orderly_effectfulResult (by simp [arg_available, hargs])

end ArrayUpdate

/-! ## Creation -/

namespace ArrayCreation

open DenseArray (ensures_types ensures_prototype)

variable {scope : List Ref} {σ : Progress}

/-- A constant length asks for the one argument that there is. -/
lemma startOfLength_ensures {s : Site} (t : Template) (h : s.argc = 1) :
    (startOfLength s t).Ensures fun _ => True := by
  obtain ⟨x, hx⟩ := List.length_eq_one_iff.1 (show s.args.length = 1 from h)
  rw [startOfLength]
  simp only [Decide.ensures_bind, Site.ensures_arg, Decide.ensures_need, Decide.ensures_require,
    Decide.ensures_pure]
  exact ⟨x, by simp [hx], by simp⟩

lemma startOfElements_ensures (s : Site) (t : Template) :
    (startOfElements s t).Ensures fun _ => True := by
  rw [startOfElements]
  split_ifs <;> simp

lemma prepares_initialValue (convert : Bool) {x : Operand}
    (hx : x.ref.Available scope σ.added) (hσ : σ.guarded = false) :
    Prepares scope σ (initialValue convert x) := by
  rw [initialValue]
  split_ifs
  · exact prepares_add (by simpa using hx) hσ rfl
  · exact prepares_pure hx

lemma reaches_initialBarrier (heap : Heap) {array value : Operand}
    {holds : Unit → Progress → Prop} (harray : array.ref.Available scope σ.added)
    (hvalue : value.ref.Available scope σ.added) (hσ : σ.guarded = false)
    (h : ∀ n, holds () (σ.grow n)) :
    (initialBarrier heap array value).Reaches scope σ holds := by
  rw [initialBarrier]
  split_ifs
  · refine (prepares_add (by simpa using ⟨harray, hvalue⟩) hσ rfl).then fun _ n _ => ?_
    exact Draft.reaches_pure (h n)
  · exact Draft.reaches_pure (h 0)

/-- **The loop over the initial elements** only adds nodes without effects, and its value is one of
them or the value that it started with. -/
theorem reaches_storeInitial {elements array : Operand} (convert : Bool) (heap : Heap)
    (xs : List Operand) (i : Nat) (last : Option Operand)
    {holds : Option Operand → Progress → Prop}
    (helements : elements.ref.Available scope σ.added) (harray : array.ref.Available scope σ.added)
    (hxs : ∀ x ∈ xs, x.ref.Available scope σ.added)
    (hlast : ∀ v ∈ last, v.ref.Available scope σ.added) (hσ : σ.guarded = false)
    (hend : ∀ r n, (∀ v ∈ r, v.ref.Available scope (σ.grow n).added) → holds r (σ.grow n)) :
    (storeInitial elements array convert heap i last xs).Reaches scope σ holds := by
  induction xs generalizing i last σ with
  | nil => exact Draft.reaches_pure (hend last 0 hlast)
  | cons x xs ih =>
    have hx := hxs x (List.mem_cons_self ..)
    refine Prepares.then (prepares_add (by simp) hσ rfl) fun index k hindex => ?_
    refine (prepares_initialValue convert (hx.grow k) hσ).then fun value l hvalue => ?_
    refine Draft.reaches_bind ?_
    refine reaches_initialBarrier heap ((harray.grow k).grow l) hvalue hσ fun m => ?_
    have helements' := ((helements.grow k).grow l).grow m
    have hindex' := (hindex.grow l).grow m
    have hvalue' := hvalue.grow m
    refine Prepares.then (prepares_add (by simp [helements', hindex', hvalue']) hσ rfl)
      fun _ n _ => ?_
    have added : (((σ.grow k).grow l).grow m).grow n = σ.grow (k + (l + (m + n))) := by
      rw [Progress.grow_grow, Progress.grow_grow, Progress.grow_grow]
    have hindex'' := hindex'.grow n
    rw [added] at hindex'' ⊢
    refine ih _ _ (helements.grow _) (harray.grow _) ?_ (by simpa using hindex'') hσ ?_
    · exact fun y hy => (hxs y (List.mem_cons_of_mem _ hy)).grow _
    · intro r j hr
      rw [Progress.grow_grow] at hr ⊢
      exact hend r _ hr

/-- Filling a new array leaves nothing open once it is pushed. -/
lemma fill_completes {array : Operand} (convert : Bool) (heap : Heap) {xs : List Operand}
    (h : σ.Settled) (harray : array.ref.Available scope σ.added)
    (hxs : ∀ x ∈ xs, x.ref.Available scope σ.added) :
    Completes scope σ (fill array convert heap xs) := by
  refine Prepares.then (prepares_add (by simpa using harray) h.unguarded rfl)
    fun elements m helements => Draft.reaches_bind ?_
  refine reaches_storeInitial convert heap xs 0 none helements (harray.grow m)
    (fun x hx => (hxs x hx).grow m) (by simp) h.unguarded fun r n hr => ?_
  have hσ := (h.grow m).grow n
  cases r with
  | none => exact Draft.reaches_pure hσ.finished
  | some last =>
    have helements' := helements.grow n
    have hlast := hr last rfl
    refine Draft.reaches_bind (Draft.reaches_resumed hσ (by simp [helements', hlast]) ?_)
    exact fun _ h => h.finished

lemma start_ensures (s : Site) (t : Template) : (start s t).Ensures fun _ => True := by
  rw [start]
  split_ifs with h0 h1
  · trivial
  · exact startOfLength_ensures t h1
  · exact startOfElements_ensures s t

lemma construct_orderly (s : Site) : (construct s).Ensures (Plan.Orderly s) := by
  rw [construct]
  simp only [Decide.ensures_bind, Site.ensures_classify, Site.ensures_template,
    Decide.ensures_pure]
  intro _ t _
  refine (start_ensures s t).imp fun _ _ => orderly_relyingOn ?_
  refine Prepares.then (prepares_add (by simp) rfl rfl) fun template m htemplate => ?_
  refine Prepares.then (prepares_add (by simpa using htemplate) rfl rfl) fun array n harray => ?_
  have hσ := (open_start.grow m).grow n
  refine Draft.reaches_bind (Draft.reaches_push harray hσ.result ?_)
  split_ifs
  · exact fill_completes _ _ ⟨rfl, rfl, rfl, Nat.zero_le _⟩ harray fun x hx => arg_available hx
  · exact Draft.reaches_pure ⟨rfl, rfl⟩

/-! ## Concatenation and parallel allocation -/

lemma elementsFit_ensures (receiver : TypeSet) (objects : List TypeObject) :
    (elementsFit receiver objects).Ensures fun _ => True := by
  induction objects with
  | nil => trivial
  | cons o os ih =>
    rw [elementsFit]
    simp only [Decide.ensures_bind, Decide.ensures_require, Decide.ensures_pure]
    exact fun _ _ => ih

lemma concat_orderly (s : Site) : (concat s).Ensures (Plan.Orderly s) := by
  rw [concat]
  simp only [Decide.ensures_bind, Site.ensures_classify, Site.ensures_arg, Site.ensures_template,
    ensures_types, ensures_prototype, Decide.ensures_require, Decide.ensures_need,
    Decide.ensures_pure]
  intro h receiver _ _ _
  obtain ⟨other, hargs⟩ := h.args_eq_one rfl
  refine ⟨other, by simp [hargs], fun argument _ _ _ _ key _ _ _ _ elements _ => ?_⟩
  refine (elementsFit_ensures elements argument.objects).imp fun tracked _ t _ _ => ?_
  refine orderly_relyingOn ?_
  refine Prepares.then (prepares_add (by simp) rfl rfl) fun template n htemplate => ?_
  exact Draft.completes_effectfulResult (open_start.grow n)
    (by simp [arg_available, hargs, htemplate])

lemma newDense_orderly (s : Site) : (newDense s).Ensures (Plan.Orderly s) := by
  rw [newDense]
  simp only [Decide.ensures_bind, Site.ensures_classify, Site.ensures_arg, Site.ensures_template,
    Decide.ensures_require, Decide.ensures_need, Decide.ensures_pure]
  intro h
  refine requireParallel_ensures s fun observed _ t _ _ => ?_
  obtain ⟨length, hargs⟩ := h.args_eq_one rfl
  refine ⟨length, by simp [hargs], orderly_of_completes rfl ?_⟩
  refine Prepares.then (prepares_add (by simp) rfl rfl) fun template n htemplate => ?_
  exact Draft.completes_effectfulResult (open_start.grow n)
    (by simp [arg_available, hargs, htemplate])

end ArrayCreation

end CallSite
