import CallSite.Proofs.Evolution.Subset
import Mathlib.Tactic.ByContra
import Mathlib.Tactic.SplitIfs

/-!
# What type sets stand for

A type set stands for the values that may occur where it was observed.  Values that no type set can
tell apart are represented by one *specimen*: there is one for each primitive flag, one for each
identity of a type object, one for the objects of none of these and one for all that is left.  The
questions about a set are answered separately, with case distinctions of their own, yet all of them
agree with this one meaning.

* `Specimen`, `TypeSet.Denotes` — **the values that a set stands for**, written `v ∈ s`.
* `Specimen.kind`, `Specimen.HasType`, `Specimen.HeldBy` — static types: that of a value, those
  that a question may name, and the values that a node of such a type can hold.
* `TypeSet.subset_iff_forall_mem`, `TypeSet.mightBe_iff`, `TypeSet.knownType_eq_iff`,
  `TypeSet.mem_of_includes` — each question in turn.
* `TypeSet.queries_exact` — **the questions about a set are exact**.
-/

namespace CallSite

/-! ## Primitive flags as a set of bits -/

namespace Primitives

variable {p q : Primitives}

/-- A bit is a member when it is set, whether or not a name is declared for it. -/
instance : Membership (Fin 16) Primitives := ⟨fun p bit => p.bits.getLsbD bit = true⟩

instance (bit : Fin 16) (p : Primitives) : Decidable (bit ∈ p) :=
  inferInstanceAs (Decidable (p.bits.getLsbD bit = true))

lemma mem_def {bit : Fin 16} : bit ∈ p ↔ p.bits.getLsbD bit = true := Iff.rfl

lemma contains_iff_forall_mem : p.contains q = true ↔ ∀ bit ∈ q, bit ∈ p := by
  rw [contains_iff]
  constructor
  · exact fun h bit => h bit
  · intro h i hi
    exact h ⟨i, BitVec.lt_of_getLsbD hi⟩ hi

/-- Flags with the same bits are equal. -/
lemma eq_of_forall_mem_iff (h : ∀ bit, bit ∈ p ↔ bit ∈ q) : p = q :=
  contains_antisymm (contains_iff_forall_mem.2 fun bit => (h bit).2)
    (contains_iff_forall_mem.2 fun bit => (h bit).1)

lemma intersects_iff_exists_mem : p.intersects q = true ↔ ∃ bit ∈ p, bit ∈ q := by
  constructor
  · intro h
    by_contra hnone
    refine of_decide_eq_true h (BitVec.eq_of_getLsbD_eq fun i hi => ?_)
    rw [BitVec.getLsbD_and, BitVec.ofNat_eq_ofNat, BitVec.getLsbD_zero, Bool.and_eq_false_iff]
    by_contra hboth
    simp only [not_or, Bool.not_eq_false] at hboth
    exact hnone ⟨⟨i, hi⟩, hboth⟩
  · rintro ⟨bit, hp, hq⟩
    refine decide_eq_true fun hzero => ?_
    have hbit : (p.bits &&& q.bits).getLsbD bit = true := by
      rw [BitVec.getLsbD_and, mem_def.1 hp, mem_def.1 hq]
      rfl
    rw [hzero, BitVec.ofNat_eq_ofNat, BitVec.getLsbD_zero] at hbit
    cases hbit

lemma isEmpty_iff_forall_not_mem : p.isEmpty = true ↔ ∀ bit, bit ∉ p := by
  constructor
  · intro h bit hmem
    rw [mem_def, of_decide_eq_true h] at hmem
    simp at hmem
  · intro h
    have hnone : ∀ bit, bit ∉ none := by decide
    obtain rfl : p = none := eq_of_forall_mem_iff fun bit =>
      iff_of_false (h bit) (hnone bit)
    rfl

end Primitives

/-! ## Values -/

/-- **One value of each sort that a type set can tell apart.** -/
inductive Specimen where
  /-- A value of the primitive kind of a flag. -/
  | primitive (bit : Fin 16)
  /-- An object of a type object. -/
  | object (id : TypeObjectId)
  /-- An object of no type object that is listed. -/
  | unlistedObject
  /-- A value of no kind that is listed. -/
  | unlisted
  deriving DecidableEq, Repr

namespace Specimen

/-- The static types of primitive values, in the order of their flags.  The flag for engine markers
comes after these and has none. -/
def primitiveKinds : List ValueType :=
  [.undefined, .null, .boolean, .int32, .double, .string, .symbol]

/-- **The static type of a value**, if it has one of its own. -/
def kind : Specimen → Option ValueType
  | primitive bit => primitiveKinds[bit.val]?
  | object _ | unlistedObject => some .object
  | unlisted => none

/-- **The value has a type that a question names.**  Any value is a boxed one, both representations
of fractions are asked about by way of the flag for doubles, and what the two internal kinds of type
describe is no value that is listed. -/
def HasType (v : Specimen) : ValueType → Prop
  | .boxed => True
  | .double | .float32 => v.kind = some .double
  | .elements | .noValue => v = unlisted
  | ty => v.kind = some ty

end Specimen

/-- **The values that a set stands for.** -/
def TypeSet.Denotes (s : TypeSet) : Specimen → Prop
  | .primitive bit => s.unknown = true ∨ bit ∈ s.primitives
  | .object id => s.unknown = true ∨ s.unknownObject = true ∨ ∃ o ∈ s.objects, o.id = id
  | .unlistedObject => s.unknown = true ∨ s.unknownObject = true
  | .unlisted => s.unknown = true

instance : Membership Specimen TypeSet := ⟨TypeSet.Denotes⟩

/-- **A node of static type `ty` and observed types `types` can hold the value.**  A floating-point
node may hold an int32, and only of boxed values and objects more is known by observation. -/
def Specimen.HeldBy (v : Specimen) (ty : ValueType) (types : Option TypeSet) : Prop :=
  match ty with
  | .boxed => ∀ s ∈ types, v ∈ s
  | .object => v.kind = some .object ∧ ∀ s ∈ types, v ∈ s
  | .double | .float32 => v.kind = some .int32 ∨ v.kind = some .double
  | .elements | .noValue => v = .unlisted
  | ty => v.kind = some ty

/-- **The type is the one kind that all values of the set have**, where int32 values count as
doubles next to a double. -/
def TypeSet.SharesKind (s : TypeSet) (ty : ValueType) : Prop :=
  (∃ v ∈ s, v.kind = some ty) ∧ ∀ v ∈ s, v.kind = some ty ∨ ty = .double ∧ v.kind = some .int32

/-- A type of values: all but the two internal kinds. -/
def ValueType.IsValue (ty : ValueType) : Prop := ty ≠ .elements ∧ ty ≠ .noValue

namespace Specimen

/-! ## Kinds of values -/

/-- Some value has the type that is asked about. -/
lemma exists_hasType (ty : ValueType) : ∃ v : Specimen, v.HasType ty := by
  cases ty
  case undefined => exact ⟨.primitive 0, rfl⟩
  case null => exact ⟨.primitive 1, rfl⟩
  case boolean => exact ⟨.primitive 2, rfl⟩
  case int32 => exact ⟨.primitive 3, rfl⟩
  case double => exact ⟨.primitive 4, rfl⟩
  case float32 => exact ⟨.primitive 4, rfl⟩
  case string => exact ⟨.primitive 5, rfl⟩
  case symbol => exact ⟨.primitive 6, rfl⟩
  case object => exact ⟨.unlistedObject, rfl⟩
  case boxed => exact ⟨.unlisted, trivial⟩
  case elements => exact ⟨.unlisted, rfl⟩
  case noValue => exact ⟨.unlisted, rfl⟩

/-- A value of a kind other than objects is primitive. -/
lemma exists_primitive_of_kind {v : Specimen} {ty : ValueType} (h : v.kind = some ty)
    (hty : ty ≠ .object) : ∃ bit, v = primitive bit := by
  cases v with
  | primitive bit => exact ⟨bit, rfl⟩
  | object id => exact absurd (Option.some.inj h).symm hty
  | unlistedObject => exact absurd (Option.some.inj h).symm hty
  | unlisted => cases h

lemma mem_primitiveKinds {bit : Fin 16} {ty : ValueType} (h : (primitive bit).kind = some ty) :
    ty ∈ primitiveKinds := List.mem_of_getElem? h

lemma kind_primitive_ne_object (bit : Fin 16) : (primitive bit).kind ≠ some .object :=
  fun h => absurd (mem_primitiveKinds h) (by decide)

/-- No two flags have the same static type. -/
lemma kind_primitive_inj {bit bit' : Fin 16} {ty : ValueType} (h : (primitive bit).kind = some ty)
    (h' : (primitive bit').kind = some ty) : bit = bit' := by
  have hinj : ∀ b b' : Fin 16, (primitive b).kind = (primitive b').kind →
      (primitive b).kind ≠ none → b = b' := by
    decide
  exact hinj bit bit' (h.trans h'.symm) (by simp [h])

/-- The one flag of a static type; for doubles there are two. -/
lemma mem_ofType_iff {ty : ValueType} (hty : ty.isFloatingPoint = false) {bit : Fin 16} :
    bit ∈ Primitives.ofType ty ↔ (primitive bit).kind = some ty := by
  revert hty
  cases ty <;> decide +revert

lemma mem_double_iff {bit : Fin 16} :
    bit ∈ Primitives.double ↔ (primitive bit).kind = some .double := by
  decide +revert

lemma mem_ofType_iff_of_isFloatingPoint {ty : ValueType} (hty : ty.isFloatingPoint = true)
    {bit : Fin 16} : bit ∈ Primitives.ofType ty ↔
      (primitive bit).kind = some .int32 ∨ (primitive bit).kind = some .double := by
  revert hty
  cases ty <;> decide +revert

end Specimen

/-! ## Members of a set -/

namespace TypeSet

variable {s t : TypeSet} {v : Specimen} {ty : ValueType}

lemma unlistedObject_mem_iff : Specimen.unlistedObject ∈ s ↔ s.anyObject = true :=
  Bool.or_eq_true_iff.symm

lemma object_mem_iff {id : TypeObjectId} : Specimen.object id ∈ s ↔ s.hasObject id = true := by
  rw [hasObject, Bool.or_eq_true, ← unlistedObject_mem_iff, List.any_eq_true]
  simp only [decide_eq_true_eq]
  exact or_assoc.symm

/-- Anything may occur in an unknown set. -/
lemma mem_of_unknown (h : s.unknown = true) (v : Specimen) : v ∈ s := by
  cases v with
  | unlisted => exact h
  | _ => exact .inl h

/-- Any object may occur in a set that admits objects of no listed type object. -/
lemma mem_of_anyObject (h : s.anyObject = true) (hv : v.kind = some .object) : v ∈ s := by
  have hunlisted := unlistedObject_mem_iff.2 h
  cases v with
  | primitive bit => exact absurd hv (Specimen.kind_primitive_ne_object bit)
  | object id => exact hunlisted.imp_right .inl
  | unlistedObject => exact hunlisted
  | unlisted => cases hv

/-- The objects of a type object that is listed may occur. -/
lemma mem_of_mem_objects {o : TypeObject} (h : o ∈ s.objects) : Specimen.object o.id ∈ s :=
  .inr (.inr ⟨o, h, rfl⟩)

lemma primitive_mem_iff (h : s.unknown = false) {bit : Fin 16} :
    .primitive bit ∈ s ↔ bit ∈ s.primitives :=
  or_iff_right (by simp [h])

/-- Objects occur when any may, or some type object is listed. -/
lemma exists_object_mem_iff :
    (∃ v ∈ s, v.kind = some .object) ↔ s.anyObject = true ∨ s.objects ≠ [] := by
  rw [← unlistedObject_mem_iff]
  constructor
  · rintro ⟨v, hv, hkind⟩
    cases v with
    | primitive bit => exact absurd hkind (Specimen.kind_primitive_ne_object bit)
    | object id =>
      rcases hv with hunknown | hobject | ⟨o, ho, -⟩
      · exact .inl (.inl hunknown)
      · exact .inl (.inr hobject)
      · exact .inr (List.ne_nil_of_mem ho)
    | unlistedObject => exact .inl hv
    | unlisted => cases hkind
  · rintro (hany | hlisted)
    · exact ⟨.unlistedObject, hany, rfl⟩
    · obtain ⟨o, ho⟩ := List.exists_mem_of_ne_nil _ hlisted
      exact ⟨.object o.id, mem_of_mem_objects ho, rfl⟩

lemma exists_object_mem_iff_of_known (hunknown : s.unknown = false) :
    (∃ v ∈ s, v.kind = some .object) ↔ (s.unknownObject || !s.objects.isEmpty) = true := by
  rw [exists_object_mem_iff, anyObject, hunknown]
  simp

/-- In a set of primitive values alone, the members are told by the flags. -/
lemma mem_iff_of_no_object (hunknown : s.unknown = false)
    (hnone : ¬∃ v ∈ s, v.kind = some .object) :
    v ∈ s ↔ ∃ bit ∈ s.primitives, v = .primitive bit := by
  constructor
  · intro hv
    cases v with
    | primitive bit => exact ⟨bit, (primitive_mem_iff hunknown).1 hv, rfl⟩
    | object id => exact absurd ⟨_, hv, rfl⟩ hnone
    | unlistedObject => exact absurd ⟨_, hv, rfl⟩ hnone
    | unlisted => exact nomatch hunknown.symm.trans hv
  · rintro ⟨bit, hbit, rfl⟩
    exact .inr hbit

/-! ## Subsets -/

/-- **A set is a subset of another** iff each of its values is one of the other. -/
theorem subset_iff_forall_mem : s.subset t = true ↔ ∀ v ∈ s, v ∈ t := by
  constructor
  · intro h v hv
    cases v with
    | primitive bit =>
      rcases hv with hv | hv
      · exact .inl (unknown_mono h hv)
      · rcases subset_iff.1 h with ht | ⟨-, hprims, -⟩
        · exact .inl ht
        · exact .inr (Primitives.contains_iff_forall_mem.1 hprims bit hv)
    | object id => exact object_mem_iff.2 (hasObject_mono h (object_mem_iff.1 hv))
    | unlistedObject =>
      exact unlistedObject_mem_iff.2 (anyObject_mono h (unlistedObject_mem_iff.1 hv))
    | unlisted => exact unknown_mono h hv
  · intro h
    rw [subset_iff]
    by_cases ht : t.unknown = true
    · exact .inl ht
    have hs : s.unknown = false := by
      by_contra hs
      exact ht (h .unlisted (eq_true_of_ne_false hs))
    refine .inr ⟨hs, ?_, ?_⟩
    · refine Primitives.contains_iff_forall_mem.2 fun bit hbit => ?_
      exact (h (.primitive bit) (.inr hbit)).resolve_left ht
    · by_cases hobject : t.unknownObject = true
      · exact .inl hobject
      refine .inr ⟨?_, fun o ho => object_mem_iff.1 (h _ (mem_of_mem_objects ho))⟩
      by_contra hs'
      exact (h .unlistedObject (.inr (eq_true_of_ne_false hs'))).elim ht hobject

lemma subset_refl (s : TypeSet) : s.subset s = true := subset_iff_forall_mem.2 fun _ => id

/-! ## Whether a type may occur -/

/-- **A set is empty** iff it stands for no value. -/
theorem isEmpty_iff_forall_not_mem : s.isEmpty = true ↔ ∀ v : Specimen, v ∉ s := by
  simp only [isEmpty, Bool.and_eq_true, Bool.not_eq_true', Primitives.isEmpty_iff_forall_not_mem,
    List.isEmpty_iff]
  constructor
  · rintro ⟨⟨⟨hunknown, hobject⟩, hprims⟩, hobjects⟩ v hv
    have hnone : ¬∃ v ∈ s, v.kind = some .object := by
      rw [exists_object_mem_iff, anyObject, hunknown, hobject, hobjects]
      simp
    obtain ⟨bit, hbit, -⟩ := (mem_iff_of_no_object hunknown hnone).1 hv
    exact hprims bit hbit
  · intro h
    have hobject : ¬(s.anyObject = true ∨ s.objects ≠ []) := by
      rw [← exists_object_mem_iff]
      rintro ⟨v, hv, -⟩
      exact h v hv
    rw [anyObject, Bool.or_eq_true, not_or, not_or, Bool.not_eq_true, Bool.not_eq_true,
      not_not] at hobject
    exact ⟨⟨hobject.1, fun bit hbit => h (.primitive bit) (.inr hbit)⟩, hobject.2⟩

lemma intersects_ofType_iff (hunknown : s.unknown = false) (hty : ty.isFloatingPoint = false)
    (hobject : ty ≠ .object) :
    s.primitives.intersects (Primitives.ofType ty) = true ↔ ∃ v ∈ s, v.kind = some ty := by
  rw [Primitives.intersects_iff_exists_mem]
  constructor
  · rintro ⟨bit, hbit, hflag⟩
    exact ⟨.primitive bit, .inr hbit, (Specimen.mem_ofType_iff hty).1 hflag⟩
  · rintro ⟨v, hv, hkind⟩
    obtain ⟨bit, rfl⟩ := Specimen.exists_primitive_of_kind hkind hobject
    exact ⟨bit, (primitive_mem_iff hunknown).1 hv, (Specimen.mem_ofType_iff hty).2 hkind⟩

lemma contains_double_iff (hunknown : s.unknown = false) :
    s.primitives.contains .double = true ↔ ∃ v ∈ s, v.kind = some .double := by
  rw [Primitives.contains_iff_forall_mem]
  constructor
  · exact fun h => ⟨.primitive 4, .inr (h 4 (by decide)), rfl⟩
  · rintro ⟨v, hv, hkind⟩ bit hbit
    obtain ⟨bit', rfl⟩ := Specimen.exists_primitive_of_kind hkind (by decide)
    obtain rfl := Specimen.kind_primitive_inj (Specimen.mem_double_iff.1 hbit) hkind
    exact (primitive_mem_iff hunknown).1 hv

/-- **A type may occur** iff some value of the set has it. -/
theorem mightBe_iff : s.mightBe ty = true ↔ ∃ v ∈ s, v.HasType ty := by
  cases hunknown : s.unknown with
  | true =>
    obtain ⟨v, hv⟩ := Specimen.exists_hasType ty
    exact iff_of_true (by rw [mightBe.eq_def, hunknown, Bool.true_or])
      ⟨v, mem_of_unknown hunknown v, hv⟩
  | false =>
    have hunlisted : Specimen.unlisted ∉ s := fun h => nomatch hunknown.symm.trans h
    rw [mightBe.eq_def, hunknown, Bool.false_or]
    cases ty with
    | object => exact (exists_object_mem_iff_of_known hunknown).symm
    | boxed =>
      dsimp only
      rw [Bool.not_eq_true', ← Bool.not_eq_true, isEmpty_iff_forall_not_mem]
      simp [Specimen.HasType]
    | double => exact contains_double_iff hunknown
    | float32 => exact contains_double_iff hunknown
    | elements => exact iff_of_false nofun fun ⟨_, hv, hty⟩ => hunlisted (hty ▸ hv)
    | noValue => exact iff_of_false nofun fun ⟨_, hv, hty⟩ => hunlisted (hty ▸ hv)
    | _ => exact intersects_ofType_iff hunknown rfl nofun

/-! ## The known type -/

/-- A set of primitive values that share a kind has the flag of that kind alone, or the two for
doubles. -/
lemma primitives_eq_of_sharesKind (hunknown : s.unknown = false)
    (hnone : ¬∃ v ∈ s, v.kind = some .object) (h : s.SharesKind ty) :
    s.primitives = Primitives.ofType ty ∨ ty = .double ∧ s.primitives = .double := by
  obtain ⟨⟨v, hv, hkind⟩, hall⟩ := h
  obtain ⟨bit, hbit, rfl⟩ := (mem_iff_of_no_object hunknown hnone).1 hv
  -- no two flags have one kind, so the flag of this kind is the one that was found
  have hmem : ∀ b : Fin 16, (Specimen.primitive b).kind = some ty → b ∈ s.primitives :=
    fun b hb => Specimen.kind_primitive_inj hkind hb ▸ hbit
  have hshared : ∀ b ∈ s.primitives, (Specimen.primitive b).kind = some ty ∨
      ty = .double ∧ (Specimen.primitive b).kind = some .int32 := fun b hb => hall _ (.inr hb)
  cases hfloat : ty.isFloatingPoint with
  | false =>
    refine .inl (Primitives.eq_of_forall_mem_iff fun b => ?_)
    rw [Specimen.mem_ofType_iff hfloat]
    refine ⟨fun hb => (hshared b hb).resolve_right ?_, hmem b⟩
    rintro ⟨rfl, -⟩
    cases hfloat
  | true =>
    obtain rfl : ty = .double := by
      have hkinds := Specimen.mem_primitiveKinds hkind
      cases ty <;> first | rfl | exact absurd hkinds (by decide) | cases hfloat
    have hthree : (Specimen.primitive 3).kind = some .int32 := rfl
    by_cases hint : (3 : Fin 16) ∈ s.primitives
    · refine .inl (Primitives.eq_of_forall_mem_iff fun b => ?_)
      rw [Specimen.mem_ofType_iff_of_isFloatingPoint hfloat]
      constructor
      · exact fun hb => (hshared b hb).symm.imp_left And.right
      · rintro (hb | hb)
        · exact Specimen.kind_primitive_inj hthree hb ▸ hint
        · exact hmem b hb
    · refine .inr ⟨rfl, Primitives.eq_of_forall_mem_iff fun b => ?_⟩
      rw [Specimen.mem_double_iff]
      refine ⟨fun hb => (hshared b hb).resolve_right ?_, hmem b⟩
      rintro ⟨-, hb'⟩
      exact hint (Specimen.kind_primitive_inj hb' hthree ▸ hb)

/-- A set with objects shares a kind iff it has no primitive value. -/
lemma sharesKind_iff_of_object (hunknown : s.unknown = false)
    (hobject : ∃ v ∈ s, v.kind = some .object) :
    s.SharesKind ty ↔ s.primitives.isEmpty = true ∧ ty = .object := by
  obtain ⟨v, hv, hkind⟩ := hobject
  rw [Primitives.isEmpty_iff_forall_not_mem]
  constructor
  · intro h
    have hty : ty = .object := by
      rcases h.2 v hv with heq | ⟨-, heq⟩ <;> rw [hkind] at heq <;> cases heq
      rfl
    subst hty
    refine ⟨fun bit hbit => ?_, rfl⟩
    rcases h.2 (.primitive bit) (.inr hbit) with heq | ⟨heq, -⟩
    · exact Specimen.kind_primitive_ne_object bit heq
    · cases heq
  · rintro ⟨hempty, rfl⟩
    refine ⟨⟨v, hv, hkind⟩, fun w hw => .inl ?_⟩
    cases w with
    | primitive bit => exact absurd ((primitive_mem_iff hunknown).1 hw) (hempty bit)
    | object id => rfl
    | unlistedObject => rfl
    | unlisted => exact nomatch hunknown.symm.trans hw

/-- A set without objects shares a kind as its flags do. -/
lemma sharesKind_of_flags (hunknown : s.unknown = false) (hnone : ¬∃ v ∈ s, v.kind = some .object)
    {p : Primitives} (hp : s.primitives = p)
    (hsome : ∃ bit ∈ p, (Specimen.primitive bit).kind = some ty)
    (hall : ∀ bit ∈ p, (Specimen.primitive bit).kind = some ty ∨
      ty = .double ∧ (Specimen.primitive bit).kind = some .int32) : s.SharesKind ty := by
  subst hp
  obtain ⟨bit, hbit, hkind⟩ := hsome
  refine ⟨⟨.primitive bit, .inr hbit, hkind⟩, fun v hv => ?_⟩
  obtain ⟨b, hb, rfl⟩ := (mem_iff_of_no_object hunknown hnone).1 hv
  exact hall b hb

/-- **The known type** is the one kind that all values have. -/
theorem knownType_eq_iff (hty : ty ≠ .boxed) : s.knownType = ty ↔ s.SharesKind ty := by
  rw [knownType]
  cases hunknown : s.unknown with
  | true =>
    refine iff_of_false hty.symm fun h => ?_
    rcases h.2 .unlisted hunknown with hkind | ⟨-, hkind⟩ <;> cases hkind
  | false =>
    by_cases hobject : ∃ v ∈ s, v.kind = some .object
    · rw [if_neg Bool.false_ne_true, if_pos ((exists_object_mem_iff_of_known hunknown).1 hobject),
        sharesKind_iff_of_object hunknown hobject]
      split_ifs with hempty
      · exact ⟨fun h => ⟨hempty, h.symm⟩, fun h => h.2.symm⟩
      · exact iff_of_false hty.symm fun h => hempty h.1
    · have hlisted : ¬(s.unknownObject || !s.objects.isEmpty) = true :=
        fun h => hobject ((exists_object_mem_iff_of_known hunknown).2 h)
      rw [if_neg Bool.false_ne_true, if_neg hlisted]
      constructor
      · intro h
        dsimp only at h
        have hflags := @sharesKind_of_flags s ty hunknown hobject
        split_ifs at h with hundefined hnull hboolean hint32 hdouble hstring hsymbol <;> subst h
        · exact hflags hundefined (by decide) (by decide)
        · exact hflags hnull (by decide) (by decide)
        · exact hflags hboolean (by decide) (by decide)
        · exact hflags hint32 (by decide) (by decide)
        · rcases hdouble with hboth | hdouble
          · exact hflags hboth (by decide) (by decide)
          · exact hflags hdouble (by decide) (by decide)
        · exact hflags hstring (by decide) (by decide)
        · exact hflags hsymbol (by decide) (by decide)
        · exact absurd rfl hty
      · intro h
        obtain ⟨v, hv, hkind⟩ := h.1
        obtain ⟨bit, -, rfl⟩ := (mem_iff_of_no_object hunknown hobject).1 hv
        rcases primitives_eq_of_sharesKind hunknown hobject h with hflags | ⟨rfl, hflags⟩
        · have hkinds := Specimen.mem_primitiveKinds hkind
          rw [hflags]
          cases ty <;> first | rfl | exact absurd hkinds (by decide)
        · rw [hflags]
          rfl

/-! ## Inclusion -/

lemma hasPrimitives_iff_forall_mem {p : Primitives} :
    s.hasPrimitives p = true ↔ ∀ bit ∈ p, Specimen.primitive bit ∈ s := by
  rw [hasPrimitives, Bool.or_eq_true, Primitives.contains_iff_forall_mem]
  constructor
  · rintro (hunknown | hall) bit hbit
    · exact .inl hunknown
    · exact .inr (hall bit hbit)
  · intro h
    by_cases hunknown : s.unknown = true
    · exact .inl hunknown
    · exact .inr fun bit hbit => (h bit hbit).resolve_left hunknown

/-- All values of a primitive type occur iff its flag does. -/
lemma hasPrimitives_ofType_iff (hfloat : ty.isFloatingPoint = false) (hobject : ty ≠ .object) :
    s.hasPrimitives (Primitives.ofType ty) = true ↔ ∀ v : Specimen, v.kind = some ty → v ∈ s := by
  rw [hasPrimitives_iff_forall_mem]
  constructor
  · intro h v hv
    obtain ⟨bit, rfl⟩ := Specimen.exists_primitive_of_kind hv hobject
    exact h bit ((Specimen.mem_ofType_iff hfloat).2 hv)
  · exact fun h bit hbit => h _ ((Specimen.mem_ofType_iff hfloat).1 hbit)

/-- All values of a floating-point type occur iff both of its flags do. -/
lemma hasPrimitives_ofType_iff_of_isFloatingPoint (hfloat : ty.isFloatingPoint = true) :
    s.hasPrimitives (Primitives.ofType ty) = true ↔
      ∀ v : Specimen, v.kind = some .int32 ∨ v.kind = some .double → v ∈ s := by
  rw [hasPrimitives_iff_forall_mem]
  constructor
  · intro h v hv
    obtain ⟨bit, rfl⟩ : ∃ bit, v = .primitive bit :=
      hv.elim (Specimen.exists_primitive_of_kind · (by decide))
        (Specimen.exists_primitive_of_kind · (by decide))
    exact h bit ((Specimen.mem_ofType_iff_of_isFloatingPoint hfloat).2 hv)
  · exact fun h bit hbit => h _ ((Specimen.mem_ofType_iff_of_isFloatingPoint hfloat).1 hbit)

/-- Observed types that are a subset bring only values of the set. -/
lemma mem_of_any_subset {types : Option TypeSet} (h : types.any (·.subset s) = true)
    (hv : ∀ o ∈ types, v ∈ o) : v ∈ s := by
  cases types with
  | none => cases h
  | some observed => exact subset_iff_forall_mem.1 h v (hv observed rfl)

/-- **Whatever a node can hold is a value of a set that includes its type.** -/
theorem mem_of_includes {types : Option TypeSet} (h : s.includes ty types = true)
    (hv : v.HeldBy ty types) : v ∈ s := by
  cases ty with
  | boxed =>
    rcases Bool.or_eq_true_iff.1 h with hunknown | hsub
    · exact mem_of_unknown hunknown v
    · exact mem_of_any_subset hsub hv
  | object =>
    rcases Bool.or_eq_true_iff.1 h with hany | hsub
    · exact mem_of_anyObject hany hv.1
    · exact mem_of_any_subset hsub hv.2
  | elements => cases h
  | noValue => cases h
  | double => exact (hasPrimitives_ofType_iff_of_isFloatingPoint rfl).1 h v hv
  | float32 => exact (hasPrimitives_ofType_iff_of_isFloatingPoint rfl).1 h v hv
  | _ => exact (hasPrimitives_ofType_iff rfl (by decide)).1 h v hv

/-- **A set includes a type**, of which nothing was observed, iff it has every value of the type. -/
theorem includes_none_iff (hty : ty.IsValue) :
    s.includes ty none = true ↔ ∀ v : Specimen, v.HeldBy ty none → v ∈ s := by
  refine ⟨fun h v hv => mem_of_includes h hv, fun h => ?_⟩
  cases ty with
  | boxed => exact Bool.or_eq_true_iff.2 (.inl (h .unlisted nofun))
  | object =>
    have hany : Specimen.unlistedObject ∈ s := h .unlistedObject ⟨rfl, nofun⟩
    exact Bool.or_eq_true_iff.2 (.inl (unlistedObject_mem_iff.1 hany))
  | elements => exact absurd rfl hty.1
  | noValue => exact absurd rfl hty.2
  | double => exact (hasPrimitives_ofType_iff_of_isFloatingPoint rfl).2 h
  | float32 => exact (hasPrimitives_ofType_iff_of_isFloatingPoint rfl).2 h
  | _ => exact (hasPrimitives_ofType_iff rfl (by decide)).2 h

/-! ## All questions -/

/-- **The questions about a set are exact** for the values that it stands for. -/
theorem queries_exact (a b : TypeSet) :
    (a.subset b = true ↔ ∀ v ∈ a, v ∈ b) ∧ a.subset a = true ∧
    (∀ c, a.subset b = true → b.subset c = true → a.subset c = true) ∧
    (∀ ty, a.mightBe ty = true ↔ ∃ v ∈ a, v.HasType ty) ∧
    (∀ ty, ty ≠ .boxed → (a.knownType = ty ↔ a.SharesKind ty)) ∧
    (∀ ty types, a.includes ty types = true → ∀ v : Specimen, v.HeldBy ty types → v ∈ a) ∧
    ∀ ty : ValueType, ty.IsValue →
      (a.includes ty none = true ↔ ∀ v : Specimen, v.HeldBy ty none → v ∈ a) :=
  ⟨subset_iff_forall_mem, subset_refl a, fun _ => subset_trans, fun _ => mightBe_iff,
    fun _ => knownType_eq_iff, fun _ _ h _ => mem_of_includes h, fun _ => includes_none_iff⟩

/-- The set of int32 values lies within the one of anything.  It includes the values of an int32
node, which are its only kind, and not those of a double node, although each int32 is a double. -/
theorem queries_exact_int32 :
    (ofType .int32).subset any = true ∧ (ofType .int32).SharesKind .int32 ∧
    (∀ v : Specimen, v.HeldBy .int32 none → v ∈ ofType .int32) ∧
    ¬∀ v : Specimen, v.HeldBy .double none → v ∈ ofType .int32 :=
  have ⟨_, _, htrans, _, hknown, hincludes, hnone⟩ := queries_exact (ofType .int32) (ofType .double)
  ⟨htrans any (by decide) (by decide), (hknown .int32 (by decide)).1 (by decide),
    hincludes .int32 none (by decide),
    fun hall => absurd ((hnone .double ⟨by decide, by decide⟩).2 hall) (by decide)⟩

end TypeSet

end CallSite
