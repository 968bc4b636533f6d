import CallSite.Proofs.Elements.Conversion

/-!
# What the objects of a set demand together

A value that is stored goes to one of several objects, and the code for the store is the same for
all of them.  So what they demand of it is put together: one demand for all, one that some of them
have and none speaks against, or none at all.  Where one object demands what another refuses nothing
can be said, and neither where it is not known which objects there are.

* `TypeSet.Undecided`, `TypeSet.Demands` — **what the objects demand together**, without looking at
  one after the other.
* `TypeSet.Normal.demands_convertDoubles` — the tally comes to what they demand.
* `TypeSet.Obtainable.convertDoubles_eq_iff` — **and to nothing else**, in whatever order the
  objects are listed.
-/

namespace CallSite.TypeSet

variable {s : TypeSet} {c d : DoubleConversion}

/-- **Nothing can be said of the objects together**: any may occur, none does, or one demands
doubles and another refuses them. -/
def Undecided (s : TypeSet) : Prop :=
  s.anyObject = true ∨ s.objects = [] ∨
    (∃ o ∈ s.objects, o.KeepsDoubles) ∧ ∃ o ∈ s.objects, o.RefusesDoubles

/-- **What the objects demand together**: doubles, by all of them, by some or by none. -/
def Demands (s : TypeSet) : DoubleConversion → Prop
  | .ambiguous => s.Undecided
  | .always => ¬s.Undecided ∧ ∀ o ∈ s.objects, o.KeepsDoubles
  | .maybe => ¬s.Undecided ∧ (∃ o ∈ s.objects, o.KeepsDoubles) ∧ ∃ o ∈ s.objects, ¬o.KeepsDoubles
  | .never => ¬s.Undecided ∧ ∀ o ∈ s.objects, ¬o.KeepsDoubles

/-- Objects of which something can be said are known, and there is one. -/
lemma exists_mem_of_not_undecided (h : ¬s.Undecided) :
    s.anyObject = false ∧ ∃ o, o ∈ s.objects := by
  rw [Undecided, not_or, not_or] at h
  exact ⟨Bool.eq_false_iff.2 h.1, List.exists_mem_of_ne_nil _ h.2.1⟩

/-- Where nothing can be said, that is all there is to say. -/
lemma Demands.eq_ambiguous (h : s.Demands c) (hundecided : s.Undecided) : c = .ambiguous := by
  cases c with
  | ambiguous => rfl
  | always => exact absurd hundecided h.1
  | maybe => exact absurd hundecided h.1
  | never => exact absurd hundecided h.1

/-- **Objects demand one thing only.** -/
theorem Demands.unique (hc : s.Demands c) (hd : s.Demands d) : c = d := by
  by_cases hundecided : s.Undecided
  · exact (hc.eq_ambiguous hundecided).trans (hd.eq_ambiguous hundecided).symm
  obtain ⟨-, o, ho⟩ := exists_mem_of_not_undecided hundecided
  have halways : ∀ {e}, s.Demands e → (∀ o ∈ s.objects, o.KeepsDoubles) → e = .always := by
    intro e he hall
    cases e with
    | always => rfl
    | ambiguous => exact absurd he hundecided
    | never => exact absurd (hall o ho) (he.2 o ho)
    | maybe =>
      obtain ⟨-, -, q, hq, hnot⟩ := he
      exact absurd (hall q hq) hnot
  have hnever : ∀ {e}, s.Demands e → (∀ o ∈ s.objects, ¬o.KeepsDoubles) → e = .never := by
    intro e he hnone
    cases e with
    | never => rfl
    | ambiguous => exact absurd he hundecided
    | always => exact absurd (he.2 o ho) (hnone o ho)
    | maybe =>
      obtain ⟨-, ⟨q, hq, hkeeps⟩, -⟩ := he
      exact absurd hkeeps (hnone q hq)
  cases c with
  | ambiguous => exact absurd hc hundecided
  | always => exact (halways hd hc.2).symm
  | never => exact (hnever hd hc.2).symm
  | maybe =>
    cases d with
    | maybe => rfl
    | ambiguous => exact absurd hd hundecided
    | always => exact halways hc hd.2
    | never => exact hnever hc hd.2

/-- **The tally comes to what the objects demand.** -/
theorem Normal.demands_convertDoubles (h : s.Normal) : s.Demands s.convertDoubles.value := by
  by_cases hundecided : s.Undecided
  · rw [(convertDoubles_eq_ambiguous_iff h).2 hundecided]
    exact hundecided
  by_cases hall : ∀ o ∈ s.objects, o.KeepsDoubles
  · obtain ⟨hany, o, ho⟩ := exists_mem_of_not_undecided hundecided
    rw [(convertDoubles_eq_always_iff h).2 ⟨hany, List.ne_nil_of_mem ho, hall⟩]
    exact ⟨hundecided, hall⟩
  -- what is left is converted or is not
  have hambiguous := mt (convertDoubles_eq_ambiguous_iff h).1 hundecided
  have halways := mt (convertDoubles_eq_always_iff h).1 fun hkeeps => hall hkeeps.2.2
  cases hvalue : s.convertDoubles.value with
  | ambiguous => exact absurd hvalue hambiguous
  | always => exact absurd hvalue halways
  | maybe =>
    have hconverts := (converts_iff h).1 (by rw [hvalue]; rfl)
    exact ⟨hundecided, hconverts.2.1, by simpa using hall⟩
  | never =>
    have hrefused := mt (converts_iff h).2 (by rw [hvalue]; nofun)
    obtain ⟨hany, -⟩ := exists_mem_of_not_undecided hundecided
    refine ⟨hundecided, fun o ho hkeeps => hrefused ⟨hany, ⟨o, ho, hkeeps⟩, ?_⟩⟩
    intro q hq hrefuses
    exact hundecided (.inr (.inr ⟨⟨o, ho, hkeeps⟩, q, hq, hrefuses⟩))

/-- **The verdict about a set** is what its objects demand together. -/
theorem Normal.convertDoubles_eq (h : s.Normal) : s.convertDoubles.value = c ↔ s.Demands c :=
  ⟨fun hvalue => hvalue ▸ h.demands_convertDoubles, h.demands_convertDoubles.unique⟩

/-! ## The order of the objects -/

/-- What objects demand together does not depend on their order. -/
lemma demands_perm {os : List TypeObject} (h : os.Perm s.objects) :
    ({ s with objects := os } : TypeSet).Demands c ↔ s.Demands c := by
  have hnil : os = [] ↔ s.objects = [] := by rw [← List.length_eq_zero_iff, h.length_eq,
    List.length_eq_zero_iff]
  have hundecided : ({ s with objects := os } : TypeSet).Undecided ↔ s.Undecided := by
    simp only [Undecided, anyObject, hnil, h.mem_iff]
  cases c <;> simp only [Demands, hundecided, h.mem_iff]

/-- The normal form does not depend on the order of the objects. -/
lemma Normal.perm (h : s.Normal) {os : List TypeObject} (hperm : os.Perm s.objects) :
    ({ s with objects := os } : TypeSet).Normal := by
  obtain ⟨hclosed, hnodup, helements⟩ := h
  exact .intro hclosed ((hperm.map _).nodup_iff.2 hnodup) fun o ho =>
    helements o (hperm.mem_iff.1 ho)

/-- **How stores treat int32 values** is what the objects demand together: doubles, by all of them,
by some or by none, or nothing that could be said.  It makes no difference in what order they are
listed. -/
theorem Obtainable.convertDoubles_eq_iff (h : s.Obtainable) :
    (∀ c, s.convertDoubles.value = c ↔ s.Demands c) ∧
    ∀ os : List TypeObject, os.Perm s.objects →
      ({ s with objects := os } : TypeSet).convertDoubles.value = s.convertDoubles.value := by
  refine ⟨fun c => h.normal.convertDoubles_eq, fun os hperm => ?_⟩
  rw [(h.normal.perm hperm).convertDoubles_eq, demands_perm hperm]
  exact h.normal.demands_convertDoubles

/-- Arrays of doubles, some with holes and some without. -/
def doublesAndHoles : TypeSet :=
  (singleton { id := ⟨1⟩, objectClass := .array, elementTypes := some (.ofType .double) }).insert
    { id := ⟨2⟩, objectClass := .array, flags := .nonPacked,
      elementTypes := some (.ofType .double) }

/-- Only those without holes demand doubles, whichever are looked at first. -/
theorem convertDoubles_eq_iff_doublesAndHoles :
    doublesAndHoles.Obtainable ∧ doublesAndHoles.Demands .maybe ∧
    ({ doublesAndHoles with
        objects := doublesAndHoles.objects.reverse } : TypeSet).convertDoubles.value = .maybe := by
  have helements {o : TypeObject} (ho : o.elementTypes = some (.ofType .double)) :
      ∀ t, o.elementTypes = some t → t.Obtainable := by
    intro t ht
    obtain rfl := Option.some.inj (ho.symm.trans ht)
    exact .ofType .double
  have hobtainable : doublesAndHoles.Obtainable :=
    .insert (.insert .empty (helements rfl)) (helements rfl)
  obtain ⟨hverdict, hperm⟩ := hobtainable.convertDoubles_eq_iff
  have hvalue : doublesAndHoles.convertDoubles.value = .maybe := by decide
  exact ⟨hobtainable, (hverdict .maybe).1 hvalue,
    (hperm _ (List.reverse_perm _)).trans hvalue⟩

end CallSite.TypeSet
