import CallSite.Proofs.Denotation
import CallSite.Proofs.Documents.Types

/-!
# Type sets that can be built

A type set is grown from the empty one, or read from a document; there is no other way to come by
one.  Each of the ways keeps the normal form, in the set and in the element types inside.  On sets
in normal form growing is the least that it can be: what contains the set and what was added
contains the grown set.  For primitive kinds that rests on the normal form of the larger set, since
int32 comes along with doubles unasked.

* `TypeSet.Obtainable` — **the type sets that can be built**.
* `TypeSet.Within` — a set or the element types inside it, however deep.
* `TypeSet.mem_insert_iff` and its companions — what a grown set stands for.
* `TypeSet.insert_subset_iff` and its companions — **a grown set is a least upper bound**.
* `TypeSet.Obtainable.inserts_least` — both, of all sets that can be built.
-/

namespace CallSite

/-! ## Ways to build a type set -/

/-- **The type sets that can be built**, by growing and by reading.  The element types of a type
object that is added are built in the same ways. -/
inductive TypeSet.Obtainable : TypeSet → Prop where
  | empty : Obtainable .empty
  | any : Obtainable .any
  | ofType (ty : ValueType) : Obtainable (.ofType ty)
  | insertPrimitives {s : TypeSet} (h : s.Obtainable) (p : Primitives) :
      (s.insertPrimitives p).Obtainable
  | insert {s : TypeSet} {o : TypeObject} (h : s.Obtainable)
      (elements : ∀ t, o.elementTypes = some t → t.Obtainable) : (s.insert o).Obtainable
  | insertUnknownObject {s : TypeSet} (h : s.Obtainable) : s.insertUnknownObject.Obtainable
  | read {j : Json} {s : TypeSet} (real : j.IsReal) (h : TypeSet.ofJson? j = some s) : s.Obtainable

/-- **The set itself, or element types inside it**, however deep. -/
inductive TypeSet.Within (t : TypeSet) : TypeSet → Prop where
  | refl : t.Within t
  | element {s e : TypeSet} {o : TypeObject} (ho : o ∈ s.objects) (he : o.elementTypes = some e)
      (h : t.Within e) : t.Within s

/-! ## Flags -/

namespace Primitives

variable {p q : Primitives} {bit : Fin 16}

lemma mem_union_iff : bit ∈ p ∪ q ↔ bit ∈ p ∨ bit ∈ q := by
  rw [mem_def, getLsbD_union, Bool.or_eq_true]
  rfl

/-- Closing flags adds int32, and only to doubles. -/
lemma mem_closed_iff : bit ∈ p.closed ↔ bit ∈ p ∨ p.contains .double = true ∧ bit ∈ int32 := by
  rw [closed]
  split_ifs with hdouble
  · rw [mem_union_iff, and_iff_right hdouble]
  · rw [or_iff_left fun h => hdouble h.1]

/-- Flags that are closed have int32 if they have doubles. -/
lemma contains_int32_of_closed (h : p.closed = p) (hdouble : p.contains .double = true) :
    p.contains .int32 = true := by
  rw [contains_iff_forall_mem]
  intro bit hbit
  rw [← h, mem_closed_iff]
  exact .inr ⟨hdouble, hbit⟩

end Primitives

/-! ## The normal form -/

namespace TypeSet

variable {s t : TypeSet} {v : Specimen}

/-- **What can be built is in normal form.** -/
theorem Obtainable.normal (h : s.Obtainable) : s.Normal := by
  induction h with
  | empty => exact normal_empty
  | any => exact normal_any
  | ofType ty => exact normal_ofType ty
  | insertPrimitives _ p ih => exact ih.insertPrimitives p
  | insert _ _ ih elements => exact ih.insert elements
  | insertUnknownObject _ ih => exact ih.insertUnknownObject
  | read real h => exact gives_ofJson? _ real _ h

/-- So is what is inside. -/
lemma Normal.within (h : s.Normal) (ht : t.Within s) : t.Normal := by
  induction ht with
  | refl => exact h
  | element ho he _ ih =>
    obtain ⟨-, -, elements⟩ := h
    exact ih (elements _ ho _ he)

lemma Normal.contains_int32 (h : s.Normal) (hdouble : s.primitives.contains .double = true) :
    s.primitives.contains .int32 = true := by
  obtain ⟨closed, -, -⟩ := h
  exact Primitives.contains_int32_of_closed closed hdouble

lemma Normal.nodup (h : s.Normal) : (s.objects.map TypeObject.id).Nodup := by
  obtain ⟨-, nodup, -⟩ := h
  exact nodup

/-- **A set in normal form that has doubles has int32.** -/
theorem Normal.hasPrimitives_int32 (h : s.Normal) (hdouble : s.hasPrimitives .double = true) :
    s.hasPrimitives .int32 = true :=
  Bool.or_eq_true_iff.2 ((Bool.or_eq_true_iff.1 hdouble).imp_right h.contains_int32)

/-! ## What a grown set stands for -/

lemma mem_insertPrimitives_iff {p : Primitives} : v ∈ s.insertPrimitives p ↔
    v ∈ s ∨ ∃ bit ∈ (s.primitives ∪ p).closed, v = .primitive bit := by
  cases v with
  | primitive bit =>
    constructor
    · rintro (hunknown | hbit)
      · exact .inl (.inl hunknown)
      · exact .inr ⟨bit, hbit, rfl⟩
    · rintro ((hunknown | hbit) | ⟨_, hbit, ⟨⟩⟩)
      · exact .inl hunknown
      · exact .inr (Primitives.mem_closed_iff.2 (.inl (Primitives.mem_union_iff.2 (.inl hbit))))
      · exact .inr hbit
  | _ => exact (or_iff_left (by rintro ⟨_, -, ⟨⟩⟩)).symm

lemma mem_insert_iff {o : TypeObject} : v ∈ s.insert o ↔ v ∈ s ∨ v = .object o.id := by
  rw [insert]
  split_ifs with hlisted
  · obtain ⟨x, hx, hid⟩ := List.any_eq_true.1 hlisted
    refine (or_iff_left_of_imp ?_).symm
    rintro rfl
    rw [← of_decide_eq_true hid]
    exact mem_of_mem_objects hx
  · cases v with
    | object id =>
      show _ ∨ _ ∨ (∃ x ∈ s.objects ++ [o], x.id = id) ↔ (_ ∨ _ ∨ ∃ x ∈ s.objects, x.id = id) ∨ _
      simp only [List.mem_append, List.mem_singleton, or_and_right, exists_or, exists_eq_left,
        Specimen.object.injEq, or_assoc, @eq_comm _ id]
    | _ => exact (or_iff_left (by rintro ⟨⟩)).symm

lemma mem_insertUnknownObject_iff :
    v ∈ s.insertUnknownObject ↔ v ∈ s ∨ v.kind = some .object := by
  cases v with
  | primitive bit => exact (or_iff_left (Specimen.kind_primitive_ne_object bit)).symm
  | object id => exact iff_of_true (.inr (.inl rfl)) (.inr rfl)
  | unlistedObject => exact iff_of_true (.inr rfl) (.inr rfl)
  | unlisted => exact (or_iff_left nofun).symm

/-! ## Least upper bounds -/

/-- **Adding primitive kinds**: int32 that comes along is in the larger set with the doubles. -/
theorem insertPrimitives_subset_iff (ht : t.Normal) {p : Primitives} :
    (s.insertPrimitives p).subset t = true ↔ s.subset t = true ∧ t.hasPrimitives p = true := by
  simp only [subset_iff_forall_mem, mem_insertPrimitives_iff, or_imp, forall_and]
  refine and_congr_right fun hs => ?_
  rw [hasPrimitives_iff_forall_mem]
  constructor
  · intro h bit hbit
    refine h _ ⟨bit, ?_, rfl⟩
    exact Primitives.mem_closed_iff.2 (.inl (Primitives.mem_union_iff.2 (.inr hbit)))
  · rintro hp _ ⟨bit, hbit, rfl⟩
    have hunion : ∀ b ∈ s.primitives ∪ p, Specimen.primitive b ∈ t := fun b hb =>
      (Primitives.mem_union_iff.1 hb).elim (fun hb => hs _ (.inr hb)) (hp b)
    rcases Primitives.mem_closed_iff.1 hbit with hbit | ⟨hdouble, hint⟩
    · exact hunion bit hbit
    · have hdouble' : t.hasPrimitives .double = true := hasPrimitives_iff_forall_mem.2 fun b hb =>
        hunion b (Primitives.contains_iff_forall_mem.1 hdouble b hb)
      exact hasPrimitives_iff_forall_mem.1 (ht.hasPrimitives_int32 hdouble') bit hint

/-- **Adding a type object.** -/
theorem insert_subset_iff {o : TypeObject} :
    (s.insert o).subset t = true ↔ s.subset t = true ∧ t.hasObject o.id = true := by
  simp only [subset_iff_forall_mem, mem_insert_iff, or_imp, forall_and, forall_eq, object_mem_iff]

/-- **Admitting every object.** -/
theorem insertUnknownObject_subset_iff :
    s.insertUnknownObject.subset t = true ↔ s.subset t = true ∧ t.anyObject = true := by
  simp only [subset_iff_forall_mem, mem_insertUnknownObject_iff, or_imp, forall_and]
  refine and_congr_right fun _ => ?_
  exact ⟨fun h => unlistedObject_mem_iff.1 (h .unlistedObject rfl), fun h _ => mem_of_anyObject h⟩

/-- **Every type set that can be built** has int32 wherever it has doubles and no two type objects
of one identity, itself and inside; and growing it gives the least set that can be built with what
was there and what was added. -/
theorem Obtainable.inserts_least (h : s.Obtainable) :
    (∀ u : TypeSet, u.Within s →
      (u.primitives.contains .double = true → u.primitives.contains .int32 = true) ∧
      (u.objects.map TypeObject.id).Nodup) ∧
    ∀ t : TypeSet, t.Obtainable →
      (∀ p, (s.insertPrimitives p).subset t = true ↔
        s.subset t = true ∧ t.hasPrimitives p = true) ∧
      (∀ o, (s.insert o).subset t = true ↔ s.subset t = true ∧ t.hasObject o.id = true) ∧
      (s.insertUnknownObject.subset t = true ↔ s.subset t = true ∧ t.anyObject = true) := by
  refine ⟨fun u hu => ?_, fun t ht => ?_⟩
  · have hnormal := h.normal.within hu
    exact ⟨hnormal.contains_int32, hnormal.nodup⟩
  · exact ⟨fun _ => insertPrimitives_subset_iff ht.normal, fun _ => insert_subset_iff,
      insertUnknownObject_subset_iff⟩

/-- A type object whose elements are doubles, added to the set of string values: inside there is
int32, and every set that can be built with strings and the type object contains the result. -/
theorem inserts_least_doubleElements :
    let o : TypeObject :=
      { id := ⟨1⟩, objectClass := .array, elementTypes := some (ofType .double) }
    (ofType .double).primitives.contains .int32 = true ∧
    ((ofType .string).insert o).subset (((ofType .object).insertPrimitives .string).insert o) =
      true := by
  intro o
  have helements : ∀ t, o.elementTypes = some t → t.Obtainable := by
    rintro _ ⟨⟩
    exact .ofType .double
  have hs : ((ofType .string).insert o).Obtainable := .insert (.ofType .string) helements
  have ht : (((ofType .object).insertPrimitives .string).insert o).Obtainable :=
    .insert (.insertPrimitives (.ofType .object) .string) helements
  refine ⟨?_, ?_⟩
  · exact (hs.inserts_least.1 _ (.element (List.mem_singleton_self o) rfl .refl)).1 (by decide)
  · exact (((Obtainable.ofType .string).inserts_least.2 _ ht).2.1 o).2 ⟨by decide, by decide⟩

end TypeSet

end CallSite
