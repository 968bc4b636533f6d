import CallSite.Proofs.Denotation
import CallSite.Types.Feasibility

/-!
# Arrays that conform to their type objects

A type object promises something of its arrays: their values are of the types that it has seen in
elements, and none of them has a hole unless it says so.  The questions about a set of arrays answer
for all of its type objects at once, and the facts that an answer rests on keep it true of each.

* `TypeObject.Conforms` — **the promise**, for the values and holes of one array.
* `TypeObject.Conforms.mono` — what conforms to a type object conforms to a wider one.
* `TypeSet.Lacks` — no array of the set has a flag, and that is relied on.
* `TypeSet.HoldsWithin` — the elements of all arrays of the set are of observed types.
* `TypeSet.lacks_of_hasFlags`, `TypeSet.holdsWithin_of_readBarrier` — **what answers are worth**.
-/

namespace CallSite

/-! ## Conforming arrays -/

/-- **The array conforms to the type object**: its values are of the types that are tracked, and it
has holes only where some array may have them.  An element is a value or, where there is none, a
hole. -/
structure TypeObject.Conforms (o : TypeObject) (elements : List (Option Specimen)) : Prop where
  values : o.unknownProperties = false →
    ∀ types ∈ o.elementTypes, ∀ v : Specimen, some v ∈ elements → v ∈ types
  holes : o.unknownProperties = false → none ∈ elements → o.flags.intersects .nonPacked = true

namespace TypeObject

variable {o o' : TypeObject} {xs ys : List (Option Specimen)}

/-- Arrays that conform can be put one behind the other. -/
lemma conforms_append_iff : o.Conforms (xs ++ ys) ↔ o.Conforms xs ∧ o.Conforms ys := by
  constructor
  · rintro ⟨hvalues, hholes⟩
    constructor
    · exact ⟨fun h types ht v hv => hvalues h types ht v (List.mem_append_left ys hv),
        fun h hnone => hholes h (List.mem_append_left ys hnone)⟩
    · exact ⟨fun h types ht v hv => hvalues h types ht v (List.mem_append_right xs hv),
        fun h hnone => hholes h (List.mem_append_right xs hnone)⟩
  · rintro ⟨hxs, hys⟩
    refine ⟨fun h types ht v hv => ?_, fun h hnone => ?_⟩
    · rcases List.mem_append.1 hv with hv | hv
      · exact hxs.values h types ht v hv
      · exact hys.values h types ht v hv
    · rcases List.mem_append.1 hnone with hnone | hnone
      · exact hxs.holes h hnone
      · exact hys.holes h hnone

/-- **What conforms to a type object conforms to a wider one.** -/
theorem Conforms.mono (h : o.Conforms xs) (htracked : o.unknownProperties = false)
    (htypes : ∀ types' ∈ o'.elementTypes, ∃ types ∈ o.elementTypes, types.subset types' = true)
    (hholes : o.flags.intersects .nonPacked = true → o'.flags.intersects .nonPacked = true) :
    o'.Conforms xs := by
  constructor
  · intro _ types' ht' v hv
    obtain ⟨types, ht, hsubset⟩ := htypes types' ht'
    exact TypeSet.subset_iff_forall_mem.1 hsubset v (h.values htracked types ht v hv)
  · exact fun _ hnone => hholes (h.holes htracked hnone)

end TypeObject

namespace TypeSet

variable {s observed : TypeSet} {flags : ObjectFlags} {facts : List Dependency}

/-! ## Flags -/

/-- **No object of the set has any of the flags**, and that none gets one is relied on. -/
structure Lacks (s : TypeSet) (flags : ObjectFlags) (facts : List Dependency) : Prop where
  /-- The set lists the type objects of all of its objects. -/
  listed : s.anyObject = false
  tracked : ∀ o ∈ s.objects, o.unknownProperties = false
  clear : ∀ o ∈ s.objects, o.flags.intersects flags = false
  relied : ∀ o ∈ s.objects, .flagsClear o.id flags ∈ facts

/-- **The answer that no object has a flag** is worth this, where its facts are relied on. -/
theorem lacks_of_hasFlags (h : (s.hasFlags flags).value = false)
    (hfacts : (s.hasFlags flags).dependencies ⊆ facts) : s.Lacks flags facts := by
  rw [hasFlags] at h hfacts
  split_ifs at h hfacts with hlisted hflagged
  · cases h
  · cases h
  · simp only [List.any_eq_true, Bool.or_eq_true, not_exists, not_and, not_or,
      Bool.not_eq_true] at hflagged
    refine ⟨Bool.eq_false_iff.2 hlisted, fun o ho => (hflagged o ho).1,
      fun o ho => (hflagged o ho).2, fun o ho => hfacts (List.mem_map_of_mem ho)⟩

/-- An object that is tracked and has the flag is why the answer is yes. -/
lemma hasFlags_eq_true (h : s.anyObject = false) (htracked : ∀ o ∈ s.objects,
    o.unknownProperties = false) (hflags : (s.hasFlags flags).value = true) :
    ∃ o ∈ s.objects, o.flags.intersects flags = true := by
  rw [hasFlags, h, if_neg Bool.false_ne_true] at hflags
  split_ifs at hflags with hflagged
  · obtain ⟨o, ho, hor⟩ := List.any_eq_true.1 hflagged
    exact ⟨o, ho, by simpa [htracked o ho] using hor⟩

/-! ## Elements -/

/-- **The elements of all objects of the set are of the observed types**, and that they stay so is
relied on.  Where nothing is known to be observed, nothing has to be. -/
structure HoldsWithin (s observed : TypeSet) (facts : List Dependency) : Prop where
  values : ∀ o ∈ s.objects, ∀ types ∈ o.elementTypes, ∀ v ∈ types, v ∈ observed
  tracked : observed.unknown = false → ∀ o ∈ s.objects,
    o.unknownProperties = false ∧ o.elementTypes.isSome = true
  relied : observed.unknown = false → ∀ o ∈ s.objects, .elementTypes o.id ∈ facts

/-- **Whatever array conforms to a type object of the set**, what it holds is observed. -/
theorem HoldsWithin.mem_of_conforms (h : s.HoldsWithin observed facts) {o : TypeObject}
    (ho : o ∈ s.objects) {xs : List (Option Specimen)} (hxs : o.Conforms xs) {v : Specimen}
    (hv : some v ∈ xs) : v ∈ observed := by
  cases hunknown : observed.unknown with
  | true => exact mem_of_unknown hunknown v
  | false =>
    obtain ⟨htracked, htypes⟩ := h.tracked hunknown o ho
    obtain ⟨types, ht⟩ := Option.isSome_iff_exists.1 htypes
    exact h.values o ho types ht v (hxs.values htracked types ht v hv)

/-- **The answer that a load needs no barrier** is worth this, where its facts are relied on. -/
theorem holdsWithin_of_readBarrier (h : (s.readBarrier observed).value = .noBarrier)
    (hfacts : (s.readBarrier observed).dependencies ⊆ facts) : s.HoldsWithin observed facts := by
  rw [readBarrier] at h hfacts
  split_ifs at h hfacts with hunknown hlisted hwithin
  · exact ⟨fun _ _ _ _ v _ => mem_of_unknown hunknown v, fun h => by simp [hunknown] at h,
      fun h => by simp [hunknown] at h⟩
  · cases h
  · simp only [List.all_eq_true, Bool.and_eq_true, Bool.not_eq_true', Option.any_eq_true] at hwithin
    refine ⟨fun o ho types ht v hv => ?_, fun _ o ho => ?_,
      fun _ o ho => hfacts (List.mem_map_of_mem ho)⟩
    · obtain ⟨-, types', ht', hsubset⟩ := hwithin o ho
      obtain rfl := Option.some.inj (ht'.symm.trans ht)
      exact subset_iff_forall_mem.1 hsubset v hv
    · obtain ⟨htracked, types, ht, -⟩ := hwithin o ho
      exact ⟨htracked, by rw [ht]; rfl⟩
  · cases h

/-! ## Undefined -/

/-- Undefined may be observed iff some observed value is undefined. -/
lemma hasPrimitives_undefined_iff :
    s.hasPrimitives .undefined = true ↔ ∃ v ∈ s, v.kind = some .undefined := by
  rw [show Primitives.undefined = Primitives.ofType .undefined from rfl,
    hasPrimitives_ofType_iff rfl (by decide)]
  constructor
  · exact fun h => ⟨.primitive 0, h _ rfl, rfl⟩
  · rintro ⟨v, hv, hkind⟩ w hw
    obtain ⟨bit, rfl⟩ := Specimen.exists_primitive_of_kind hkind (by decide)
    obtain ⟨bit', rfl⟩ := Specimen.exists_primitive_of_kind hw (by decide)
    rwa [Specimen.kind_primitive_inj hw hkind]

end TypeSet

end CallSite
