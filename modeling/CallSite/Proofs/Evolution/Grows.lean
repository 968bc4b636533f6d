import CallSite.Proofs.Evolution.Core
import CallSite.Proofs.Evolution.Drifts

/-!
# How observed types change

Of what was observed about types only the flags and the tracked element types change while code is
compiled; all else stays as it is, heaps and layouts included.  Such a change is a drift, so that
answers keep their meaning under every change that respects the facts that they came with.

* `TypeObject.Grows`, `TypeSet.Grows` — **what was observed has changed**, respecting some facts.
* `TypeSet.Grows.drifts` — such a change is a drift.
* `TypeSet.Grows.hasFlags_eq`, `TypeSet.Grows.convertDoubles_eq`,
  `TypeSet.Grows.writeNeedsBarrier_eq`, `TypeSet.Grows.readBarrier_eq` — **answers survive**.
-/

namespace CallSite

/-! ## Changes -/

/-- **A type object has changed** by gaining flags and element types, and what the facts mention is
as before: the flags are clear, the element types admit the same values. -/
structure TypeObject.Grows (facts : List Dependency) (o o' : TypeObject) : Prop where
  core : o'.core = o.core
  flags : o'.flags.contains o.flags = true
  elementTypes : Option.Rel (fun t t' => t.subset t' = true) o.elementTypes o'.elementTypes
  flagsClear : ∀ flags, .flagsClear o.id flags ∈ facts → o'.flags.intersects flags = false
  elementsKept : .elementTypes o.id ∈ facts →
    Option.Rel (fun t t' => t'.subset t = true) o.elementTypes o'.elementTypes

/-- **A set has changed** in its type objects alone, each of which has grown. -/
structure TypeSet.Grows (facts : List Dependency) (s s' : TypeSet) : Prop where
  core : s'.core = s.core
  objects : List.Forall₂ (TypeObject.Grows facts) s.objects s'.objects

namespace TypeObject.Grows

variable {facts : List Dependency} {o o' : TypeObject}

lemma id_eq (h : Grows facts o o') : o'.id = o.id := by
  rw [← o'.id_core, h.core, id_core]

lemma objectClass_eq (h : Grows facts o o') : o'.objectClass = o.objectClass := by
  rw [← o'.objectClass_core, h.core, objectClass_core]

lemma unknownProperties_eq (h : Grows facts o o') :
    o'.unknownProperties = o.unknownProperties := by
  rw [← o'.unknownProperties_core, h.core, unknownProperties_core]

lemma drifts (h : Grows facts o o') : o.Drifts facts o' where
  id_eq := h.id_eq
  objectClass_eq := h.objectClass_eq
  unknownProperties_eq := h.unknownProperties_eq
  flags := h.flags
  elementTypes := h.elementTypes
  flagsClear := h.flagsClear
  elementsKept := h.elementsKept

end TypeObject.Grows

/-! ## Questions about the core -/

namespace TypeSet

variable (s t : TypeSet)

lemma writeNeedsBarrier_core (ty : ValueType) (types : Option TypeSet) :
    s.writeNeedsBarrier ty (types.map TypeSet.core) = s.writeNeedsBarrier ty types := by
  simp only [writeNeedsBarrier, includes_core]

lemma readBarrier_core : s.readBarrier t.core = s.readBarrier t := by
  simp only [readBarrier, unknown_core, subset_core_right]

end TypeSet

/-! ## Answers survive -/

namespace TypeSet.Grows

variable {facts : List Dependency} {s s' t t' : TypeSet}

lemma drifts (h : s.Grows facts s') : s.Drifts facts s' where
  primitives_eq := by rw [← s'.primitives_core, h.core, primitives_core]
  unknownObject_eq := by rw [← s'.unknownObject_core, h.core, unknownObject_core]
  unknown_eq := by rw [← s'.unknown_core, h.core, unknown_core]
  objects := h.objects.imp fun _ _ ho => ho.drifts

/-- The only type object of a set is the only one again. -/
lemma exists_singleObject (h : s.Grows facts s') {o : TypeObject} (ho : s.singleObject? = some o) :
    ∃ o', s'.singleObject? = some o' ∧ o.Grows facts o' := by
  rw [singleObject?] at ho ⊢
  rw [h.drifts.anyObject_eq]
  by_cases hany : s.anyObject = true
  · rw [if_pos hany] at ho
    cases ho
  rw [if_neg hany] at ho ⊢
  have hobjects := h.objects
  generalize s.objects = os, s'.objects = os' at hobjects ho ⊢
  rcases hobjects with _ | ⟨hgrows, _ | _⟩
  · cases ho
  · cases ho
    exact ⟨_, rfl, hgrows⟩
  · cases ho

/-- **Whether some object has one of the flags** is answered as before. -/
theorem hasFlags_eq (h : s.Grows facts s') {flags : ObjectFlags}
    (hfacts : (s.hasFlags flags).dependencies ⊆ facts) : s'.hasFlags flags = s.hasFlags flags :=
  h.drifts.hasFlags_eq hfacts

/-- **How stores treat int32 values** is answered as before. -/
theorem convertDoubles_eq (h : s.Grows facts s')
    (hfacts : s.convertDoubles.dependencies ⊆ facts) : s'.convertDoubles = s.convertDoubles :=
  h.drifts.convertDoubles_eq hfacts

/-- **That a store needs no barrier** is answered as before, for a value of which the same is
known. -/
theorem writeNeedsBarrier_eq (h : s.Grows facts s') {ty : ValueType} {types types' : Option TypeSet}
    (htypes : types'.map TypeSet.core = types.map TypeSet.core)
    (hvalue : (s.writeNeedsBarrier ty types).value = false) :
    s'.writeNeedsBarrier ty types' = s.writeNeedsBarrier ty types := by
  rw [← writeNeedsBarrier_core, htypes, writeNeedsBarrier_core]
  exact h.drifts.writeNeedsBarrier_eq hvalue

/-- **The barrier that a load needs** is answered as before. -/
theorem readBarrier_eq (h : s.Grows facts s') (ht : t'.core = t.core)
    (hfacts : (s.readBarrier t).dependencies ⊆ facts) : s'.readBarrier t' = s.readBarrier t := by
  rw [← readBarrier_core, ht, readBarrier_core]
  exact h.drifts.readBarrier_eq hfacts

end TypeSet.Grows

end CallSite
