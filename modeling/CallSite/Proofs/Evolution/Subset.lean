import CallSite.Types.TypeSet
import Mathlib.Logic.Basic

/-!
# Larger sets

A type set is compared with another by the primitive kinds and by the identities of its type
objects.  That order is transitive, and the questions about a set whose answer can only turn from no
to yes when the set grows are monotone in it.

* `ObjectFlags.intersects_mono` — flags that were shared stay shared.
* `TypeSet.subset_iff`, `TypeSet.subset_trans` — the order.
* `TypeSet.includes_mono` — **a larger set includes every value that a smaller one includes**.
* `TypeSet.knownType_eq_of_subset` — sets with the same members imply the same static type.
-/

namespace CallSite

/-! ## Flags -/

lemma Primitives.contains_antisymm {p q : Primitives} (hpq : p.contains q = true)
    (hqp : q.contains p = true) : p = q := by
  have hq : p.bits &&& q.bits = q.bits := of_decide_eq_true hpq
  have hp : q.bits &&& p.bits = p.bits := of_decide_eq_true hqp
  have hbits : p.bits = q.bits := by rw [← hp, BitVec.and_comm, hq]
  cases p
  cases q
  exact congrArg Primitives.mk hbits

namespace ObjectFlags

lemma contains_trans {f g h : ObjectFlags} (hfg : f.contains g = true)
    (hgh : g.contains h = true) : f.contains h = true := by
  have hg : f.bits &&& g.bits = g.bits := of_decide_eq_true hfg
  have hh : g.bits &&& h.bits = h.bits := of_decide_eq_true hgh
  refine decide_eq_true ?_
  rw [← hh, ← BitVec.and_assoc, hg]

/-- A flag that two sets share is shared by larger ones. -/
lemma intersects_mono {f g h : ObjectFlags} (hfg : f.contains g = true)
    (hgh : g.intersects h = true) : f.intersects h = true := by
  have hg : f.bits &&& g.bits = g.bits := of_decide_eq_true hfg
  have hne : g.bits &&& h.bits ≠ 0 := of_decide_eq_true hgh
  refine decide_eq_true fun hzero => hne ?_
  have hswap : g.bits &&& h.bits = g.bits &&& (f.bits &&& h.bits) := by
    rw [← BitVec.and_assoc, BitVec.and_comm g.bits f.bits, hg]
  rw [hswap, hzero]
  exact BitVec.and_zero

/-- A set that shares no flag with another does not contain it, unless that one is empty. -/
lemma contains_eq_false {f g : ObjectFlags} (h : f.intersects g = false) (hg : g.bits ≠ 0) :
    f.contains g = false := by
  have hzero : f.bits &&& g.bits = 0 := not_not.1 (of_decide_eq_false h)
  refine decide_eq_false fun hcontains => hg ?_
  rw [← hcontains, hzero]

end ObjectFlags

/-! ## Subsets -/

namespace TypeSet

variable {s t u : TypeSet}

/-- **What it is to be a subset**, condition by condition. -/
theorem subset_iff : s.subset t = true ↔
    t.unknown = true ∨ s.unknown = false ∧ t.primitives.contains s.primitives = true ∧
      (t.unknownObject = true ∨
        s.unknownObject = false ∧ ∀ o ∈ s.objects, t.hasObject o.id = true) := by
  rw [subset]
  cases t.unknown <;> cases s.unknown <;> cases t.primitives.contains s.primitives <;>
    cases t.unknownObject <;> cases s.unknownObject <;> simp

/-- A larger set has every type object that a smaller one has. -/
lemma hasObject_mono (h : s.subset t = true) {id : TypeObjectId} (hid : s.hasObject id = true) :
    t.hasObject id = true := by
  rw [hasObject, Bool.or_eq_true] at hid ⊢
  rw [anyObject, Bool.or_eq_true] at hid ⊢
  rcases subset_iff.1 h with hunknown | ⟨hunknown, -, hobject | ⟨hobject, hobjects⟩⟩
  · exact .inl (.inl hunknown)
  · exact .inl (.inr hobject)
  · rcases hid with (hs | hs) | hs
    · rw [hunknown] at hs
      cases hs
    · rw [hobject] at hs
      cases hs
    · obtain ⟨o, ho, heq⟩ := List.any_eq_true.1 hs
      obtain rfl := of_decide_eq_true heq
      have hmem := hobjects o ho
      rwa [hasObject, Bool.or_eq_true, anyObject, Bool.or_eq_true] at hmem

lemma subset_trans (hst : s.subset t = true) (htu : t.subset u = true) : s.subset u = true := by
  rw [subset_iff]
  rcases subset_iff.1 htu with hu | ⟨ht, hprims, hobjects⟩
  · exact .inl hu
  rcases subset_iff.1 hst with ht' | ⟨hs, hprims', hobjects'⟩
  · rw [ht] at ht'
    cases ht'
  refine .inr ⟨hs, ?_, ?_⟩
  · rw [Primitives.contains_iff] at hprims hprims' ⊢
    exact fun i hi => hprims i (hprims' i hi)
  · rcases hobjects with hu | ⟨ht', -⟩
    · exact .inl hu
    · rcases hobjects' with ht'' | ⟨hs', hmem⟩
      · rw [ht'] at ht''
        cases ht''
      · exact .inr ⟨hs', fun o ho => hasObject_mono htu (hmem o ho)⟩

lemma unknown_mono (h : s.subset t = true) (hs : s.unknown = true) : t.unknown = true := by
  rcases subset_iff.1 h with ht | ⟨hs', -⟩
  · exact ht
  · rw [hs] at hs'
    cases hs'

lemma anyObject_mono (h : s.subset t = true) (hs : s.anyObject = true) : t.anyObject = true := by
  rw [anyObject, Bool.or_eq_true] at hs ⊢
  rcases subset_iff.1 h with ht | ⟨hs', -, ht | ⟨hs'', -⟩⟩
  · exact .inl ht
  · exact .inr ht
  · rcases hs with hs | hs
    · rw [hs] at hs'
      cases hs'
    · rw [hs] at hs''
      cases hs''

lemma hasPrimitives_mono (h : s.subset t = true) {p : Primitives}
    (hp : s.hasPrimitives p = true) : t.hasPrimitives p = true := by
  rw [hasPrimitives, Bool.or_eq_true] at hp ⊢
  rcases subset_iff.1 h with ht | ⟨hs, hprims, -⟩
  · exact .inl ht
  · rcases hp with hp | hp
    · rw [hs] at hp
      cases hp
    · rw [Primitives.contains_iff] at hprims hp ⊢
      exact .inr fun i hi => hprims i (hp i hi)

/-- A larger set may be an object whenever a smaller one may. -/
lemma mightBe_object_mono (h : s.subset t = true) (hs : s.mightBe .object = true) :
    t.mightBe .object = true := by
  rw [mightBe, Bool.or_eq_true, Bool.or_eq_true] at hs ⊢
  rcases hs with hs | hs | hs
  · exact .inl (unknown_mono h hs)
  · have hany := anyObject_mono h (Bool.or_eq_true _ _ ▸ .inr hs)
    rw [anyObject, Bool.or_eq_true] at hany
    exact hany.imp_right .inl
  · obtain ⟨o, ho⟩ : ∃ o, o ∈ s.objects := by
      cases hobjects : s.objects with
      | nil => rw [hobjects] at hs; cases hs
      | cons o os => exact ⟨o, List.mem_cons_self ..⟩
    have hmem : s.hasObject o.id = true := by
      rw [hasObject, Bool.or_eq_true, List.any_eq_true]
      exact .inr ⟨o, ho, decide_eq_true rfl⟩
    have hmem' := hasObject_mono h hmem
    rw [hasObject, Bool.or_eq_true, anyObject, Bool.or_eq_true, or_assoc] at hmem'
    refine hmem'.imp_right (Or.imp_right fun hany => ?_)
    cases hobjects : t.objects with
    | nil => rw [hobjects] at hany; cases hany
    | cons q qs => rfl

/-- **Sets with the same members** imply the same static type. -/
theorem knownType_eq_of_subset (hst : s.subset t = true) (hts : t.subset s = true) :
    s.knownType = t.knownType := by
  have hunknown : s.unknown = t.unknown :=
    Bool.eq_iff_iff.2 ⟨unknown_mono hst, unknown_mono hts⟩
  have hobject : s.mightBe .object = t.mightBe .object :=
    Bool.eq_iff_iff.2 ⟨mightBe_object_mono hst, mightBe_object_mono hts⟩
  rw [mightBe, mightBe] at hobject
  rw [knownType, knownType]
  cases ht : t.unknown with
  | true =>
    rw [hunknown.trans ht]
    rfl
  | false =>
    have hs := hunknown.trans ht
    rw [hs, ht, Bool.false_or, Bool.false_or] at hobject
    have hprims : s.primitives = t.primitives := by
      rcases subset_iff.1 hst with ht' | ⟨-, hst', -⟩
      · rw [ht] at ht'
        cases ht'
      rcases subset_iff.1 hts with hs' | ⟨-, hts', -⟩
      · rw [hs] at hs'
        cases hs'
      exact Primitives.contains_antisymm hts' hst'
    rw [hs, hobject, hprims]

/-- **A larger set includes every value that a smaller one includes.** -/
theorem includes_mono (h : s.subset t = true) {ty : ValueType} {types : Option TypeSet}
    (hs : s.includes ty types = true) : t.includes ty types = true := by
  have hany : types.any (·.subset s) = true → types.any (·.subset t) = true := by
    intro hsub
    cases types with
    | none => cases hsub
    | some observed => exact subset_trans hsub h
  cases ty with
  | boxed =>
    rw [includes, Bool.or_eq_true] at hs ⊢
    exact hs.imp (unknown_mono h) hany
  | object =>
    rw [includes, Bool.or_eq_true] at hs ⊢
    exact hs.imp (anyObject_mono h) hany
  | elements => exact hs
  | noValue => exact hs
  | _ => exact hasPrimitives_mono h hs

end TypeSet

end CallSite
