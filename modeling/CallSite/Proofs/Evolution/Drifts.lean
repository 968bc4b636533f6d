import CallSite.Proofs.Evolution.Subset
import CallSite.Proofs.Related
import CallSite.Types.Feasibility

/-!
# Answers that last

Type objects change in one direction: flags become set and tracked element types grow.  A change
respects facts when it leaves alone what the facts mention.  The answer to a question about a set
stays the answer under every change that respects the facts it came with, whatever else happens to
the type objects; an answer that came with no facts stays the answer under every change.

* `TypeObject.Drifts`, `TypeSet.Drifts` — **what was observed has changed**, respecting some facts.
* `TypeSet.Drifts.hasFlags_eq`, `TypeSet.Drifts.convertDoubles_eq`,
  `TypeSet.Drifts.writeNeedsBarrier_eq`, `TypeSet.Drifts.readBarrier_eq` — each question in turn.
* `TypeSet.Drifts.answers_last` — **frozen answers survive every change they do not list**.
-/

namespace CallSite

/-! ## Changes -/

/-- **A type object has changed** by gaining flags and element types, and what the facts mention is
as before: the flags are clear, the element types admit the same values.  Its heap and its layout
are of no concern. -/
structure TypeObject.Drifts (facts : List Dependency) (o o' : TypeObject) : Prop where
  id_eq : o'.id = o.id
  objectClass_eq : o'.objectClass = o.objectClass
  unknownProperties_eq : o'.unknownProperties = o.unknownProperties
  flags : o'.flags.contains o.flags = true
  elementTypes : Option.Rel (fun t t' => t.subset t' = true) o.elementTypes o'.elementTypes
  flagsClear : ∀ flags, .flagsClear o.id flags ∈ facts → o'.flags.intersects flags = false
  elementsKept : .elementTypes o.id ∈ facts →
    Option.Rel (fun t t' => t'.subset t = true) o.elementTypes o'.elementTypes

/-- **A set has changed** in its type objects alone, each of which has drifted. -/
structure TypeSet.Drifts (facts : List Dependency) (s s' : TypeSet) : Prop where
  primitives_eq : s'.primitives = s.primitives
  unknownObject_eq : s'.unknownObject = s.unknownObject
  unknown_eq : s'.unknown = s.unknown
  objects : List.Forall₂ (TypeObject.Drifts facts) s.objects s'.objects

/-! ## Flags -/

namespace TypeSet.Drifts

variable {facts : List Dependency} {s s' : TypeSet}

lemma anyObject_eq (h : s.Drifts facts s') : s'.anyObject = s.anyObject := by
  rw [anyObject, anyObject, h.unknown_eq, h.unknownObject_eq]

lemma isEmpty_objects_eq (h : s.Drifts facts s') : s'.objects.isEmpty = s.objects.isEmpty := by
  have hobjects := h.objects
  generalize s.objects = os, s'.objects = os' at hobjects ⊢
  cases hobjects <;> rfl

/-- **Whether some object has one of the flags** is answered as before. -/
theorem hasFlags_eq (h : s.Drifts facts s') {flags : ObjectFlags}
    (hfacts : (s.hasFlags flags).dependencies ⊆ facts) : s'.hasFlags flags = s.hasFlags flags := by
  rw [hasFlags] at hfacts ⊢
  rw [hasFlags, h.anyObject_eq]
  by_cases hany : s.anyObject = true
  · rw [if_pos hany, if_pos hany]
  rw [if_neg hany] at hfacts ⊢
  rw [if_neg hany]
  by_cases hflags : (s.objects.any fun o => o.unknownProperties || o.flags.intersects flags) = true
  · have hflags' : (s'.objects.any fun o =>
        o.unknownProperties || o.flags.intersects flags) = true := by
      refine any_of_forall₂ (h.objects.imp fun o o' ho hp => ?_) hflags
      rw [Bool.or_eq_true] at hp ⊢
      rw [ho.unknownProperties_eq]
      exact hp.imp_right (ObjectFlags.intersects_mono ho.flags)
    rw [if_pos hflags, if_pos hflags']
  · rw [if_neg hflags] at hfacts ⊢
    have hflags' : ¬(s'.objects.any fun o =>
        o.unknownProperties || o.flags.intersects flags) = true := by
      rw [any_eq_of_forall₂ ((forall₂_mem h.objects).imp fun o o' ho => ?_)]
      · exact hflags
      · have hclear := ho.2.flagsClear flags (hfacts (List.mem_map_of_mem ho.1))
        have hfalse := List.any_eq_false.1 (Bool.not_eq_true _ ▸ hflags) o ho.1
        rw [Bool.not_eq_true, Bool.or_eq_false_iff] at hfalse
        rw [ho.2.unknownProperties_eq, hclear, hfalse.2]
    rw [if_neg hflags']
    have hids : (s'.objects.map fun o => Dependency.flagsClear o.id flags) =
        s.objects.map fun o => Dependency.flagsClear o.id flags :=
      map_eq_of_forall₂ (h.objects.imp fun o o' ho => by rw [ho.id_eq])
    rw [hids]

end TypeSet.Drifts

/-! ## Conversion to doubles -/

namespace TypeSet

namespace ConversionTally

/-- What a tally relies on it relies on when more objects are added. -/
lemma dependencies_subset_add (t : ConversionTally) (o : TypeObject) :
    t.dependencies ⊆ (t.add o).dependencies := by
  rw [add]
  split_ifs
  · exact List.Subset.refl _
  · cases o.elementTypes with
    | none => exact List.subset_append_left _ _
    | some types =>
      dsimp only
      split_ifs
      · exact List.subset_append_left _ _
      · exact List.Subset.trans (List.subset_append_left _ _) (List.subset_append_left _ _)
      · exact List.subset_append_left _ _

lemma dependencies_subset_foldl (t : ConversionTally) (os : List TypeObject) :
    t.dependencies ⊆ (os.foldl add t).dependencies := by
  induction os generalizing t with
  | nil => exact List.Subset.refl _
  | cons o os ih => exact List.Subset.trans (t.dependencies_subset_add o) (ih _)

variable {facts : List Dependency} {o o' : TypeObject}

/-- A type object says the same after a change that respects what it said before. -/
lemma add_drifts (t : ConversionTally) (h : o.Drifts facts o')
    (hfacts : (t.add o).dependencies ⊆ facts) : t.add o' = t.add o := by
  rw [add] at hfacts ⊢
  rw [add, h.id_eq, h.unknownProperties_eq, h.objectClass_eq]
  split_ifs at hfacts ⊢
  · rfl
  have hrel := h.elementTypes
  have hkept : .elementTypes o.id ∈ facts → _ := h.elementsKept
  generalize o.elementTypes = types, o'.elementTypes = types' at hrel hkept hfacts ⊢
  cases hrel with
  | none => rfl
  | @some types types' hsub =>
    dsimp only at hfacts ⊢
    have hsub' : types'.subset types = true := by
      have hmem : .elementTypes o.id ∈ facts := by
        apply hfacts
        split_ifs <;> simp
      cases hkept hmem with
      | some hsub' => exact hsub'
    have hdoubles : types'.hasPrimitives .double = types.hasPrimitives .double :=
      Bool.eq_iff_iff.2 ⟨hasPrimitives_mono hsub', hasPrimitives_mono hsub⟩
    rw [hdoubles, knownType_eq_of_subset hsub' hsub]
    by_cases hnever : (!types.hasPrimitives .double || decide (o.objectClass ≠ .array)) = true
    · rw [if_pos hnever, if_pos hnever]
    rw [if_neg hnever] at hfacts
    rw [if_neg hnever, if_neg hnever]
    by_cases hdouble : types.knownType = .double
    · have hpacked : o'.flags.contains .nonPacked = o.flags.contains .nonPacked := by
        cases hcontains : o.flags.contains .nonPacked with
        | true => exact ObjectFlags.contains_trans h.flags hcontains
        | false =>
          rw [hdouble, hcontains, if_pos (by rfl)] at hfacts
          have hclear := h.flagsClear .nonPacked (hfacts (by simp))
          exact ObjectFlags.contains_eq_false hclear (by decide)
      rw [hpacked]
    · rw [decide_eq_false hdouble, Bool.false_and, Bool.false_and]

/-- And so do several, looked at one after the other. -/
lemma foldl_add_drifts {os os' : List TypeObject}
    (h : List.Forall₂ (TypeObject.Drifts facts) os os') (t : ConversionTally)
    (hfacts : (os.foldl add t).dependencies ⊆ facts) : os'.foldl add t = os.foldl add t := by
  induction h generalizing t with
  | nil => rfl
  | @cons o o' os os' ho _ ih =>
    have hadd : t.add o' = t.add o :=
      t.add_drifts ho (List.Subset.trans (dependencies_subset_foldl _ os) hfacts)
    rw [List.foldl_cons, List.foldl_cons, hadd]
    exact ih _ hfacts

end ConversionTally

end TypeSet

namespace TypeSet.Drifts

variable {facts : List Dependency} {s s' : TypeSet}

/-- **How stores treat int32 values** is answered as before. -/
theorem convertDoubles_eq (h : s.Drifts facts s')
    (hfacts : s.convertDoubles.dependencies ⊆ facts) : s'.convertDoubles = s.convertDoubles := by
  rw [convertDoubles] at hfacts ⊢
  rw [convertDoubles, h.anyObject_eq, h.isEmpty_objects_eq]
  split_ifs at hfacts ⊢
  · rfl
  · dsimp only at hfacts ⊢
    rw [ConversionTally.foldl_add_drifts h.objects {} hfacts]

/-! ## Barriers -/

/-- The tracked type objects are as before. -/
lemma tracked_eq (h : s.Drifts facts s') :
    ((s'.objects.filter (!·.unknownProperties)).map fun o => Dependency.elementTypes o.id) =
      (s.objects.filter (!·.unknownProperties)).map fun o => Dependency.elementTypes o.id := by
  have hfilter : List.Forall₂ (TypeObject.Drifts facts) (s.objects.filter (!·.unknownProperties))
      (s'.objects.filter (!·.unknownProperties)) :=
    List.rel_filter (fun o o' ho => by simp only [ho.unknownProperties_eq]) h.objects
  exact map_eq_of_forall₂ (hfilter.imp fun o o' ho => by rw [ho.id_eq])

/-- **That a store needs no barrier** is answered as before, whatever the facts. -/
theorem writeNeedsBarrier_eq (h : s.Drifts facts s') {ty : ValueType} {types : Option TypeSet}
    (hvalue : (s.writeNeedsBarrier ty types).value = false) :
    s'.writeNeedsBarrier ty types = s.writeNeedsBarrier ty types := by
  rw [writeNeedsBarrier] at hvalue ⊢
  rw [writeNeedsBarrier, h.anyObject_eq]
  by_cases hany : s.anyObject = true
  · rw [if_pos hany, if_pos hany]
  rw [if_neg hany] at hvalue ⊢
  rw [if_neg hany]
  by_cases hall : (s.objects.all fun o =>
      o.unknownProperties || o.elementTypes.any (·.includes ty types)) = true
  · have hall' : (s'.objects.all fun o =>
        o.unknownProperties || o.elementTypes.any (·.includes ty types)) = true := by
      refine all_of_forall₂ (h.objects.imp fun o o' ho hp => ?_) hall
      rw [Bool.or_eq_true] at hp ⊢
      rw [ho.unknownProperties_eq]
      exact hp.imp_right (any_of_rel ho.elementTypes fun u u' hsub hu => includes_mono hsub hu)
    rw [if_pos hall, if_pos hall', h.tracked_eq]
  · rw [if_neg hall] at hvalue
    cases hvalue

/-- **The barrier that a load needs** is answered as before. -/
theorem readBarrier_eq (h : s.Drifts facts s') {t : TypeSet}
    (hfacts : (s.readBarrier t).dependencies ⊆ facts) : s'.readBarrier t = s.readBarrier t := by
  rw [readBarrier] at hfacts ⊢
  rw [readBarrier, h.anyObject_eq]
  by_cases htop : t.unknown = true
  · rw [if_pos htop, if_pos htop]
  rw [if_neg htop] at hfacts ⊢
  rw [if_neg htop]
  by_cases hany : s.anyObject = true
  · rw [if_pos hany, if_pos hany]
  rw [if_neg hany] at hfacts ⊢
  rw [if_neg hany]
  have hids : (s'.objects.map fun o => Dependency.elementTypes o.id) =
      s.objects.map fun o => Dependency.elementTypes o.id :=
    map_eq_of_forall₂ (h.objects.imp fun o o' ho => by rw [ho.id_eq])
  rw [hids]
  by_cases hall : (s.objects.all fun o =>
      !o.unknownProperties && o.elementTypes.any (·.subset t)) = true
  · rw [if_pos hall] at hfacts ⊢
    have hall' : (s'.objects.all fun o =>
        !o.unknownProperties && o.elementTypes.any (·.subset t)) = true := by
      refine all_of_forall₂ ((forall₂_mem h.objects).imp fun o o' ho hp => ?_) hall
      rw [Bool.and_eq_true] at hp ⊢
      rw [ho.2.unknownProperties_eq]
      refine ⟨hp.1, any_of_rel (ho.2.elementsKept (hfacts (List.mem_map_of_mem ho.1))) ?_ hp.2⟩
      exact fun u u' => subset_trans
    rw [if_pos hall']
  · have hall' : ¬(s'.objects.all fun o =>
        !o.unknownProperties && o.elementTypes.any (·.subset t)) = true := by
      refine fun hall' => hall (all_of_forall₂ (h.objects.flip.imp fun o' o ho hp => ?_) hall')
      rw [Bool.and_eq_true] at hp ⊢
      rw [← TypeObject.Drifts.unknownProperties_eq ho]
      refine ⟨hp.1, any_of_rel_symm (TypeObject.Drifts.elementTypes ho) ?_ hp.2⟩
      exact fun u u' => subset_trans
    rw [if_neg hall, if_neg hall']

/-! ## Every question -/

/-- **Frozen answers survive every change they do not list**, and an answer that lists nothing
survives every change.  That a store needs no barrier stays true however element types grow, so
nothing is asked of the facts there. -/
theorem answers_last (h : s.Drifts facts s') :
    (∀ flags, (s.hasFlags flags).dependencies ⊆ facts → s'.hasFlags flags = s.hasFlags flags) ∧
    (s.convertDoubles.dependencies ⊆ facts → s'.convertDoubles = s.convertDoubles) ∧
    (∀ ty types, (s.writeNeedsBarrier ty types).value = false →
      s'.writeNeedsBarrier ty types = s.writeNeedsBarrier ty types) ∧
    ∀ observed, (s.readBarrier observed).dependencies ⊆ facts →
      s'.readBarrier observed = s.readBarrier observed :=
  ⟨fun _ => h.hasFlags_eq, h.convertDoubles_eq, fun _ _ => h.writeNeedsBarrier_eq,
    fun _ => h.readBarrier_eq⟩

end TypeSet.Drifts

/-- Arrays of doubles without holes, next to objects of which nothing is known. -/
def TypeSet.doublesAndOthers (flags : ObjectFlags) (heap : Heap) (others : TypeSet) : TypeSet where
  objects :=
    [{ id := ⟨1⟩, objectClass := .array, flags, elementTypes := some (.ofType .double)
       initialHeap := heap },
     { id := ⟨2⟩, objectClass := .plainObject, unknownProperties := true
       elementTypes := some others }]

/-- Such arrays keep doubles, even when they come to share their elements until the first write, are
moved to another heap, and the other objects are seen to hold doubles. -/
theorem answers_last_doublesAndOthers :
    (TypeSet.doublesAndOthers .none .nursery (.ofType .int32)).convertDoubles.value = .maybe ∧
    (TypeSet.doublesAndOthers .copyOnWrite .tenured (.ofType .double)).convertDoubles =
      (TypeSet.doublesAndOthers .none .nursery (.ofType .int32)).convertDoubles := by
  have hdrifts : (TypeSet.doublesAndOthers .none .nursery (.ofType .int32)).Drifts
      [.elementTypes ⟨1⟩, .flagsClear ⟨1⟩ .nonPacked]
      (TypeSet.doublesAndOthers .copyOnWrite .tenured (.ofType .double)) := by
    refine ⟨rfl, rfl, rfl, .cons ?_ (.cons ?_ .nil)⟩
    · refine ⟨rfl, rfl, rfl, by decide, .some (by decide), fun flags hflags => ?_, fun _ => ?_⟩
      · obtain rfl : flags = .nonPacked := by simpa using hflags
        decide
      · exact .some (by decide)
    · exact ⟨rfl, rfl, rfl, by decide, .some (by decide), by simp, by simp⟩
  exact ⟨by decide, hdrifts.answers_last.2.1 (by decide)⟩

end CallSite
