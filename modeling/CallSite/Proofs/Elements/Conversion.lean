import CallSite.Proofs.Obtainable
import CallSite.Types.Feasibility

/-!
# What arrays demand of the values stored into them

An array in which nothing but int32 and doubles was seen, and which has no holes, keeps all of its
elements as doubles, so an int32 has to be converted before it is stored there.  An object of
another class, or without doubles among its elements, must not be given a double for an int32.  All
other objects take both.  The tally that decides about conversion looks at one object after the
other; what comes out depends only on whether some object demands the one and whether some object
demands the other.

That stored values are among the element types is asked by a loop of its own.  The two answers fit:
where values are converted every tracked object has both int32 and doubles among its element types,
and only numbers are stored.

* `TypeObject.KeepsDoubles`, `TypeObject.RefusesDoubles` — **the two demands**.
* `TypeSet.ConversionTally.knows_foldl` — what a tally knows of the objects that it has looked at.
* `TypeSet.converts_iff`, `TypeSet.convertDoubles_eq_ambiguous_iff` — **when values are converted**,
  and when that cannot be told.
* `TypeSet.TakesAll` — every tracked object has the values of a node among its element types.
* `TypeSet.takesAll_of_writeNeedsBarrier`, `TypeSet.takesAll_of_converts` — **so it has those of a
  stored value**, converted or not.
-/

namespace CallSite

/-! ## Values of numbers -/

namespace TypeSet

variable {s : TypeSet}

/-- Doubles occur iff their flag does. -/
lemma hasPrimitives_double_iff :
    s.hasPrimitives .double = true ↔ ∃ v ∈ s, v.kind = some .double := by
  rw [hasPrimitives_iff_forall_mem]
  constructor
  · exact fun h => ⟨.primitive 4, h 4 (by decide), rfl⟩
  · rintro ⟨v, hv, hkind⟩ bit hbit
    obtain ⟨bit', rfl⟩ := Specimen.exists_primitive_of_kind hkind (by decide)
    obtain rfl := Specimen.kind_primitive_inj (Specimen.mem_double_iff.1 hbit) hkind
    exact hv

/-- **A set in normal form with doubles has all numbers.** -/
theorem Normal.mem_of_number (h : s.Normal) (hdouble : s.hasPrimitives .double = true)
    {v : Specimen} (hv : v.kind = some .int32 ∨ v.kind = some .double) : v ∈ s := by
  rcases hv with hv | hv
  · exact (hasPrimitives_ofType_iff rfl (by decide)).1 (h.hasPrimitives_int32 hdouble) v hv
  · obtain ⟨w, hw, hkind⟩ := hasPrimitives_double_iff.1 hdouble
    obtain ⟨bit, rfl⟩ := Specimen.exists_primitive_of_kind hv (by decide)
    obtain ⟨bit', rfl⟩ := Specimen.exists_primitive_of_kind hkind (by decide)
    obtain rfl := Specimen.kind_primitive_inj hv hkind
    exact hw

/-- **A set in normal form is known to hold doubles** iff it has exactly the numbers. -/
theorem Normal.knownType_eq_double_iff (h : s.Normal) : s.knownType = .double ↔
    ∀ v : Specimen, v ∈ s ↔ v.kind = some .int32 ∨ v.kind = some .double := by
  rw [knownType_eq_iff (by decide)]
  constructor
  · rintro ⟨hdouble, hall⟩ v
    refine ⟨fun hv => (hall v hv).symm.imp_left And.right, ?_⟩
    exact h.mem_of_number (hasPrimitives_double_iff.2 hdouble)
  · intro hall
    refine ⟨⟨.primitive 4, (hall _).2 (.inr rfl), rfl⟩, fun v hv => ?_⟩
    exact ((hall v).1 hv).symm.imp_right fun hint => ⟨rfl, hint⟩

end TypeSet

/-! ## Demands -/

/-- **The elements are kept as doubles**: nothing but int32 and doubles was seen in an array without
holes. -/
structure TypeObject.KeepsDoubles (o : TypeObject) : Prop where
  tracked : o.unknownProperties = false
  array : o.objectClass = .array
  packed : o.flags.contains .nonPacked = false
  elements : ∃ e, o.elementTypes = some e ∧
    ∀ v : Specimen, v ∈ e ↔ v.kind = some .int32 ∨ v.kind = some .double

/-- **The elements must not be made doubles**: the object is no array, or no double was seen in
it. -/
structure TypeObject.RefusesDoubles (o : TypeObject) : Prop where
  tracked : o.unknownProperties = false
  unsuited : o.objectClass = .array →
    ∀ e, o.elementTypes = some e → ∀ v ∈ e, v.kind ≠ some .double

namespace TypeObject

variable {o : TypeObject}

/-- No object demands both. -/
lemma KeepsDoubles.not_refusesDoubles (h : o.KeepsDoubles) : ¬o.RefusesDoubles := by
  intro hrefuses
  obtain ⟨e, he, hnumbers⟩ := h.elements
  exact hrefuses.unsuited h.array e he (.primitive 4) ((hnumbers _).2 (.inr rfl)) rfl

lemma keepsDoubles_iff {e : TypeSet} (he : o.elementTypes = some e) (hnormal : e.Normal)
    (htracked : o.unknownProperties = false) (harray : o.objectClass = .array) :
    o.KeepsDoubles ↔ (decide (e.knownType = .double) && !o.flags.contains .nonPacked) = true := by
  rw [Bool.and_eq_true, decide_eq_true_iff, hnormal.knownType_eq_double_iff, Bool.not_eq_true']
  constructor
  · rintro ⟨-, -, hpacked, e', he', hnumbers⟩
    obtain rfl := Option.some.inj (he.symm.trans he')
    exact ⟨hnumbers, hpacked⟩
  · exact fun ⟨hnumbers, hpacked⟩ => ⟨htracked, harray, hpacked, e, he, hnumbers⟩

lemma refusesDoubles_iff {e : TypeSet} (he : o.elementTypes = some e)
    (htracked : o.unknownProperties = false) :
    o.RefusesDoubles ↔ (!e.hasPrimitives .double || decide (o.objectClass ≠ .array)) = true := by
  rw [Bool.or_eq_true, Bool.not_eq_true', decide_eq_true_iff, ← Bool.not_eq_true,
    TypeSet.hasPrimitives_double_iff]
  constructor
  · rintro ⟨-, hunsuited⟩
    by_cases harray : o.objectClass = .array
    · left
      rintro ⟨v, hv, hkind⟩
      exact hunsuited harray e he v hv hkind
    · exact .inr harray
  · intro h
    refine ⟨htracked, fun harray e' he' v hv hkind => ?_⟩
    obtain rfl := Option.some.inj (he.symm.trans he')
    exact h.elim (fun hnone => hnone ⟨v, hv, hkind⟩) fun hclass => hclass harray

/-- A tracked object of unknown elements must not be given doubles. -/
lemma refusesDoubles_of_none (he : o.elementTypes = none)
    (htracked : o.unknownProperties = false) : o.RefusesDoubles := by
  refine ⟨htracked, fun _ e he' => ?_⟩
  rw [he] at he'
  cases he'

end TypeObject

/-! ## The tally -/

namespace TypeSet

namespace ConversionTally

/-- **What a tally knows** when it has looked at more objects, beside what it knew: that some of
them demands the one, that some demands the other, and that all demand the first. -/
structure Knows (t t' : ConversionTally) (keeps refuses allKeep : Prop) : Prop where
  maybe : t'.maybe = true ↔ t.maybe = true ∨ keeps
  never : t'.never = true ↔ t.never = true ∨ refuses
  always : t'.always = true ↔ t.always = true ∧ allKeep

variable {o : TypeObject}

/-- **One more object** adds its own demand. -/
theorem knows_add (t : ConversionTally) (ho : o.Normal) :
    t.Knows (t.add o) o.KeepsDoubles o.RefusesDoubles o.KeepsDoubles := by
  rw [add]
  split_ifs with hunknown
  · -- an untracked object demands nothing
    have hkeeps : ¬o.KeepsDoubles := fun h => nomatch hunknown.symm.trans h.tracked
    have hrefuses : ¬o.RefusesDoubles := fun h => nomatch hunknown.symm.trans h.tracked
    exact ⟨by simp [hkeeps], by simp [hrefuses], by simp [hkeeps]⟩
  rw [Bool.not_eq_true] at hunknown
  cases he : o.elementTypes with
  | none =>
    have hrefuses := TypeObject.refusesDoubles_of_none he hunknown
    have hkeeps : ¬o.KeepsDoubles := fun h => h.not_refusesDoubles hrefuses
    exact ⟨by simp [hkeeps], by simp [hrefuses], by simp [hkeeps]⟩
  | some e =>
    dsimp only
    have hrefuses_iff := TypeObject.refusesDoubles_iff he hunknown
    split_ifs with hrefuses hkeeps
    · replace hrefuses := hrefuses_iff.2 hrefuses
      have hkeeps : ¬o.KeepsDoubles := fun h => h.not_refusesDoubles hrefuses
      exact ⟨by simp [hkeeps], by simp [hrefuses], by simp [hkeeps]⟩
    all_goals
      have harray : o.objectClass = .array := by
        by_contra hclass
        exact hrefuses (by simp [hclass])
      rw [← TypeObject.keepsDoubles_iff he (ho e he) hunknown harray] at hkeeps
      rw [← hrefuses_iff] at hrefuses
      exact ⟨by simp [hkeeps], by simp [hrefuses], by simp [hkeeps]⟩

/-- **Objects looked at one after the other** add all of their demands. -/
theorem knows_foldl {os : List TypeObject} (hos : ∀ o ∈ os, o.Normal) (t : ConversionTally) :
    t.Knows (os.foldl add t) (∃ o ∈ os, o.KeepsDoubles) (∃ o ∈ os, o.RefusesDoubles)
      (∀ o ∈ os, o.KeepsDoubles) := by
  induction os generalizing t with
  | nil => exact ⟨by simp, by simp, by simp⟩
  | cons o os ih =>
    obtain ⟨ho, hos⟩ := List.forall_mem_cons.1 hos
    have hadd := t.knows_add ho
    have hrest := ih hos (t.add o)
    rw [List.foldl_cons]
    refine ⟨?_, ?_, ?_⟩
    · simp only [hrest.maybe, hadd.maybe, or_assoc, List.mem_cons, exists_eq_or_imp]
    · simp only [hrest.never, hadd.never, or_assoc, List.mem_cons, exists_eq_or_imp]
    · rw [hrest.always, hadd.always, List.forall_mem_cons, and_assoc]

lemma verdict_eq_ambiguous_iff {t : ConversionTally} :
    t.verdict = .ambiguous ↔ t.maybe = true ∧ t.never = true := by
  rw [verdict]
  cases t.always <;> cases t.maybe <;> cases t.never <;> decide

lemma verdict_eq_always_iff {t : ConversionTally} :
    t.verdict = .always ↔ t.always = true ∧ ¬(t.maybe = true ∧ t.never = true) := by
  rw [verdict]
  cases t.always <;> cases t.maybe <;> cases t.never <;> decide

lemma converts_verdict_iff {t : ConversionTally} : t.verdict.converts = true ↔
    (t.always = true ∨ t.maybe = true) ∧ ¬(t.maybe = true ∧ t.never = true) := by
  rw [verdict]
  cases t.always <;> cases t.maybe <;> cases t.never <;> decide

end ConversionTally

variable {s : TypeSet}

lemma Normal.normal_of_mem (h : s.Normal) {o : TypeObject} (ho : o ∈ s.objects) : o.Normal := by
  obtain ⟨-, -, elements⟩ := h
  exact elements o ho

/-- Nothing is told of objects where any may occur or none does. -/
lemma convertDoubles_of_unknown (hnone : s.anyObject = true ∨ s.objects = []) :
    s.convertDoubles.value = .ambiguous := by
  rw [← List.isEmpty_iff, ← Bool.or_eq_true] at hnone
  rw [convertDoubles, if_pos hnone]
  rfl

/-- **Objects that are known** have been looked at by the tally. -/
theorem Normal.exists_tally (h : s.Normal) (hnone : ¬(s.anyObject = true ∨ s.objects = [])) :
    ∃ t : ConversionTally, s.convertDoubles.value = t.verdict ∧
      (t.maybe = true ↔ ∃ o ∈ s.objects, o.KeepsDoubles) ∧
      (t.never = true ↔ ∃ o ∈ s.objects, o.RefusesDoubles) ∧
      (t.always = true ↔ ∀ o ∈ s.objects, o.KeepsDoubles) := by
  have hknows := ConversionTally.knows_foldl (fun _ => h.normal_of_mem) {}
  rw [← List.isEmpty_iff, ← Bool.or_eq_true] at hnone
  rw [convertDoubles, if_neg hnone]
  exact ⟨_, rfl, by simp [hknows.maybe], by simp [hknows.never], by simp [hknows.always]⟩

/-- **It cannot be told whether to convert** when any object may occur, none does, or objects demand
both. -/
theorem convertDoubles_eq_ambiguous_iff (h : s.Normal) :
    s.convertDoubles.value = .ambiguous ↔ s.anyObject = true ∨ s.objects = [] ∨
      (∃ o ∈ s.objects, o.KeepsDoubles) ∧ ∃ o ∈ s.objects, o.RefusesDoubles := by
  rw [← or_assoc]
  by_cases hnone : s.anyObject = true ∨ s.objects = []
  · exact iff_of_true (convertDoubles_of_unknown hnone) (.inl hnone)
  · obtain ⟨t, hverdict, hmaybe, hnever, -⟩ := h.exists_tally hnone
    rw [hverdict, or_iff_right hnone, ConversionTally.verdict_eq_ambiguous_iff, hmaybe, hnever]

/-- **Values are always converted** iff every object demands it, and there is one. -/
theorem convertDoubles_eq_always_iff (h : s.Normal) :
    s.convertDoubles.value = .always ↔
      s.anyObject = false ∧ s.objects ≠ [] ∧ ∀ o ∈ s.objects, o.KeepsDoubles := by
  by_cases hnone : s.anyObject = true ∨ s.objects = []
  · rw [convertDoubles_of_unknown hnone]
    refine iff_of_false nofun ?_
    rintro ⟨hany, hobjects, -⟩
    exact hnone.elim (fun hobject => nomatch hobject.symm.trans hany) hobjects
  · obtain ⟨t, hverdict, hmaybe, hnever, halways⟩ := h.exists_tally hnone
    rw [not_or, Bool.not_eq_true] at hnone
    rw [hverdict, ConversionTally.verdict_eq_always_iff, halways, hmaybe, hnever]
    refine ⟨fun hall => ⟨hnone.1, hnone.2, hall.1⟩, fun ⟨_, _, hall⟩ => ⟨hall, ?_⟩⟩
    rintro ⟨-, o, ho, hrefuses⟩
    exact (hall o ho).not_refusesDoubles hrefuses

/-- **Values are converted** iff some object demands it and none forbids it. -/
theorem converts_iff (h : s.Normal) : s.convertDoubles.value.converts = true ↔
    s.anyObject = false ∧ (∃ o ∈ s.objects, o.KeepsDoubles) ∧
      ∀ o ∈ s.objects, ¬o.RefusesDoubles := by
  by_cases hnone : s.anyObject = true ∨ s.objects = []
  · rw [convertDoubles_of_unknown hnone]
    refine iff_of_false nofun ?_
    rintro ⟨hany, ⟨o, ho, -⟩, -⟩
    exact hnone.elim (fun hobject => nomatch hobject.symm.trans hany) (List.ne_nil_of_mem ho)
  · obtain ⟨t, hverdict, hmaybe, hnever, halways⟩ := h.exists_tally hnone
    rw [not_or, Bool.not_eq_true] at hnone
    obtain ⟨hany, hobjects⟩ := hnone
    -- where all objects demand it, some does
    have hsome : (∀ o ∈ s.objects, o.KeepsDoubles) → ∃ o ∈ s.objects, o.KeepsDoubles := by
      obtain ⟨o, ho⟩ := List.exists_mem_of_ne_nil _ hobjects
      exact fun hall => ⟨o, ho, hall o ho⟩
    rw [hverdict, ConversionTally.converts_verdict_iff, halways, hmaybe, hnever,
      or_iff_right_of_imp hsome]
    simp only [hany, true_and]
    refine and_congr_right fun hkeeps => ?_
    rw [not_and]
    refine ⟨fun hnone o ho hrefuses => hnone hkeeps ⟨o, ho, hrefuses⟩, ?_⟩
    rintro hnone - ⟨o, ho, hrefuses⟩
    exact hnone o ho hrefuses

/-! ## Stored values -/

/-- **Every tracked object takes the values** of a node of this type: they are among its element
types. -/
def TakesAll (s : TypeSet) (ty : ValueType) (types : Option TypeSet) : Prop :=
  ∀ o ∈ s.objects, o.unknownProperties = false →
    ∃ e, o.elementTypes = some e ∧ ∀ v : Specimen, v.HeldBy ty types → v ∈ e

variable {ty : ValueType} {types : Option TypeSet}

lemma writeNeedsBarrier_eq_false_iff : (s.writeNeedsBarrier ty types).value = false ↔
    s.anyObject = false ∧ ∀ o ∈ s.objects, o.unknownProperties = false →
      ∃ e, o.elementTypes = some e ∧ e.includes ty types = true := by
  rw [writeNeedsBarrier]
  split_ifs with hany hall
  · exact iff_of_false nofun fun h => nomatch hany.symm.trans h.1
  · refine iff_of_true rfl ⟨Bool.eq_false_iff.2 hany, fun o ho htracked => ?_⟩
    have hfit := List.all_eq_true.1 hall o ho
    rw [htracked, Bool.false_or, Option.any_eq_true] at hfit
    exact hfit
  · refine iff_of_false nofun fun h => hall (List.all_eq_true.2 fun o ho => ?_)
    cases htracked : o.unknownProperties with
    | true => rfl
    | false => exact (Option.any_eq_true ..).2 (h.2 o ho htracked)

/-- **Where no barrier is needed** the objects take the stored value. -/
theorem takesAll_of_writeNeedsBarrier (h : (s.writeNeedsBarrier ty types).value = false) :
    s.TakesAll ty types := by
  intro o ho htracked
  obtain ⟨e, he, hincludes⟩ := (writeNeedsBarrier_eq_false_iff.1 h).2 o ho htracked
  exact ⟨e, he, fun v => mem_of_includes hincludes⟩

/-- That answer rests on the element types of each of them. -/
lemma mem_dependencies_of_writeNeedsBarrier (h : (s.writeNeedsBarrier ty types).value = false)
    {o : TypeObject} (ho : o ∈ s.objects) (htracked : o.unknownProperties = false) :
    .elementTypes o.id ∈ (s.writeNeedsBarrier ty types).dependencies := by
  rw [writeNeedsBarrier] at h ⊢
  split_ifs at h ⊢
  · cases h
  · exact List.mem_map.2 ⟨o, List.mem_filter.2 ⟨ho, by rw [htracked]; rfl⟩, rfl⟩
  · cases h

/-- **Where values are converted** the objects take any double: each is an array that has doubles,
and int32 along with them. -/
theorem takesAll_of_converts (h : s.Normal) (hconverts : s.convertDoubles.value.converts = true) :
    s.TakesAll .double none := by
  intro o ho htracked
  have hsuited := ((converts_iff h).1 hconverts).2.2 o ho
  by_contra hnone
  refine hsuited ⟨htracked, fun _ e he v hv hkind => hnone ⟨e, he, fun w hw => ?_⟩⟩
  have hnormal := h.normal_of_mem ho e he
  exact hnormal.mem_of_number (hasPrimitives_double_iff.2 ⟨v, hv, hkind⟩) hw

/-- **Only numbers are converted**, since an object that keeps doubles takes nothing else. -/
theorem TakesAll.number_of_converts (h : s.TakesAll ty types) (hnormal : s.Normal)
    (hconverts : s.convertDoubles.value.converts = true) {v : Specimen} (hv : v.HeldBy ty types) :
    v.kind = some .int32 ∨ v.kind = some .double := by
  obtain ⟨-, ⟨o, ho, hkeeps⟩, -⟩ := (converts_iff hnormal).1 hconverts
  obtain ⟨e, he, hnumbers⟩ := hkeeps.elements
  obtain ⟨e', he', htakes⟩ := h o ho hkeeps.tracked
  obtain rfl := Option.some.inj (he.symm.trans he')
  exact (hnumbers v).1 (htakes v hv)

end TypeSet

end CallSite
