import CallSite.Proofs.Classes.Basic
import CallSite.Proofs.Evolution.Stores

/-!
# Groups of a bulk store

A bulk store is decided group by group, before anything is written down.  What becomes of a group
depends on nothing but what is known of its own object, index and value.  Three kinds of stores are
tried in turn, and only the first of them rests on facts; one that is tried in vain leaves none
behind.

* `StoreGroup` — a group of object, index and value, however these are named.
* `TypeSet.Takes`, `StoreGroup.Classified` — **where the value of a group goes**, and the facts that
  this rests on.
* `ElementStore.classify?_eq_some_iff`, `ElementStore.classifyAll_eq_ok_iff` — so it is decided, for
  one group and for all.
* `ElementStore.bulk`, `ElementStore.putElements_eq_ok_iff` — **all groups are stored, or none**.
-/

namespace CallSite

open Decide (bind_eq_ok need_eq_ok pure_eq_ok)

/-! ## Groups -/

/-- **A group of a bulk store**: a value goes to an index of an object. -/
structure StoreGroup (ν : Type) where
  object : ν
  index : ν
  value : ν

namespace StoreGroup

variable {ν μ : Type}

/-- Arguments in groups of three; what is left over is no group. -/
def ofArgs : List ν → List (StoreGroup ν)
  | object :: index :: value :: rest => ⟨object, index, value⟩ :: ofArgs rest
  | _ => []

def map (f : ν → μ) (g : StoreGroup ν) : StoreGroup μ := ⟨f g.object, f g.index, f g.value⟩

/-- As many groups as the arguments make up. -/
lemma length_ofArgs {n : Nat} {args : List ν} (h : args.length = 3 * n) :
    (ofArgs args).length = n := by
  induction n generalizing args with
  | zero =>
    obtain rfl := List.length_eq_zero_iff.1 h
    rfl
  | succ n ih =>
    match args with
    | object :: index :: value :: rest =>
      simp only [List.length_cons] at h
      exact congrArg Nat.succ (ih (by omega))
    | [] | [_] | [_, _] => simp at h <;> omega

end StoreGroup

/-- The group with its operands named otherwise. -/
def ElementStore.Group.map {ν : Type} (f : Operand → ν) (g : Group) : StoreGroup ν :=
  ⟨f g.object, f g.index, f g.value⟩

lemma ElementStore.map_groups {ν : Type} (f : Operand → ν) : ∀ xs : List Operand,
    (groups xs).map (·.map f) = StoreGroup.ofArgs (xs.map f)
  | object :: index :: value :: rest =>
    congrArg (StoreGroup.mk (f object) (f index) (f value) :: ·) (map_groups f rest)
  | [] | [_] | [_, _] => rfl

/-! ## Classification -/

/-- **The layout of all objects** is the one that each has. -/
theorem TypeSet.ObjectsAre.typedLayout?_eq_some_iff {t : TypeSet} {holds : ObjectClass → Prop}
    (h : t.ObjectsAre holds) {l : TypedLayout} :
    t.typedLayout? = some l ↔ ∀ o ∈ t.objects, o.layout = some l := by
  obtain ⟨hknown, hnonempty, -⟩ := h
  rw [typedLayout?, hknown, if_neg Bool.false_ne_true]
  cases hobjects : t.objects with
  | nil => exact absurd hobjects hnonempty
  | cons o os =>
    dsimp only
    rw [Option.bind_eq_some_iff, List.forall_mem_cons]
    constructor
    · rintro ⟨l', hl', hall⟩
      split_ifs at hall with hsame
      obtain rfl := Option.some.inj hall
      exact ⟨hl', fun o' ho' => of_decide_eq_true (List.all_eq_true.1 hsame o' ho')⟩
    · rintro ⟨hl, hall⟩
      refine ⟨l, hl, if_pos (List.all_eq_true.2 fun o' ho' => ?_)⟩
      exact decide_eq_true (hall o' ho')

/-- A store into a dense element vector. -/
def ElementWrite.isDense : ElementWrite → Bool
  | dense _ => true
  | _ => false

/-- **Where a value goes that is stored into an object of the observed types**, and the facts that
this rests on: into a dense vector whose types include it, else into the elements of a typed array,
else into a typed object that is an array of scalars.  All objects are of one class. -/
inductive TypeSet.Takes (t : TypeSet) (value : Facts) : Answer ElementWrite → Prop where
  | dense {c : ObjectClass} (hclass : t.ObjectsAre (· = c)) (hnative : c.isNative = true)
      (hinside : (t.writeNeedsBarrier value.ty value.types).value = false) :
      Takes t value ⟨.dense t.convertDoubles.value,
        (t.writeNeedsBarrier value.ty value.types).dependencies ++ t.convertDoubles.dependencies⟩
  | typedArray {element : Scalar} (hclass : t.ObjectsAre (· = .typedArray element) ∨
      t.ObjectsAre (· = .sharedTypedArray element)) :
      Takes t value (.stable (.typedArray element))
  | typedObject {c : ObjectClass} {l : TypedLayout} {element : Scalar}
      (hclass : t.ObjectsAre (· = c))
      (houtside : c.isNative = true → (t.writeNeedsBarrier value.ty value.types).value = true)
      (harray : c.isTypedArray = false ∧ c.isSharedTypedArray = false)
      (hlayout : ∀ o ∈ t.objects, o.layout = some l) (helement : l.scalarElement? = some element) :
      Takes t value (.stable (.typedObject element))

/-- **The group is classified** by what is known of its object, its index and its value. -/
structure StoreGroup.Classified (g : StoreGroup Facts) (a : Answer ElementWrite) : Prop where
  object : g.object.ty = .object
  index : g.index.ty.isIntOrDouble = true
  takes : ∃ t, g.object.types = some t ∧ t.Takes g.value a

/-- Only dense stores rest on facts. -/
lemma StoreGroup.Classified.dependencies_eq_nil {g : StoreGroup Facts} {a : Answer ElementWrite}
    (h : g.Classified a) (hdense : a.value.isDense = false) : a.dependencies = [] := by
  obtain ⟨t, -, htakes⟩ := h.takes
  cases htakes with
  | dense => cases hdense
  | typedArray => rfl
  | typedObject => rfl

namespace ElementStore

variable {t : TypeSet} {c : ObjectClass} {a : Answer ElementWrite} {g : Group}

/-- Typed arrays of one element type, shared or not. -/
lemma typed?_of_array {element : Scalar} (h : t.ObjectsAre (· = .typedArray element) ∨
    t.ObjectsAre (· = .sharedTypedArray element)) : typed? t = some (.typedArray element) := by
  rcases h with h | h
  · rw [typed?, TypeSet.typedArray?_eq_some_iff.2 h]
    rfl
  · have hunshared : t.typedArray? = none := by
      rw [TypeSet.typedArray?, TypeSet.knownClass?_eq_some_iff.2 h]
    rw [typed?, hunshared, TypeSet.sharedTypedArray?_eq_some_iff.2 h]
    rfl

/-- Objects that are no typed arrays. -/
lemma typed?_of_no_array (hclass : t.ObjectsAre (· = c))
    (harray : c.isTypedArray = false ∧ c.isSharedTypedArray = false) :
    typed? t = (t.typedLayout?.bind TypedLayout.scalarElement?).map .typedObject := by
  obtain ⟨hunshared, hshared⟩ := harray
  rw [typed?, TypeSet.typedArray?, TypeSet.sharedTypedArray?,
    TypeSet.knownClass?_eq_some_iff.2 hclass]
  cases c with
  | typedArray element => cases hunshared
  | sharedTypedArray element => cases hshared
  | _ => rfl

lemma dense?_eq_none {value : Operand} : dense? t c value = none ↔
    (c.isNative = true → (t.writeNeedsBarrier value.ty value.types).value = true) := by
  rw [dense?]
  cases c.isNative <;> cases (t.writeNeedsBarrier value.ty value.types).value <;> simp

/-- **A value that goes to no dense vector** may go to a typed array or a typed object. -/
theorem takes_of_typed? {value : Facts} {write : ElementWrite} (hclass : t.ObjectsAre (· = c))
    (houtside : c.isNative = true → (t.writeNeedsBarrier value.ty value.types).value = true)
    (hwrite : typed? t = some write) : t.Takes value (.stable write) := by
  have hobject (harray : c.isTypedArray = false ∧ c.isSharedTypedArray = false) :
      t.Takes value (.stable write) := by
    rw [typed?_of_no_array hclass harray] at hwrite
    obtain ⟨element, hlayout, rfl⟩ := Option.map_eq_some_iff.1 hwrite
    obtain ⟨l, hl, helement⟩ := Option.bind_eq_some_iff.1 hlayout
    exact .typedObject hclass houtside harray (hclass.typedLayout?_eq_some_iff.1 hl) helement
  have harray {element : Scalar} (harray : t.ObjectsAre (· = .typedArray element) ∨
      t.ObjectsAre (· = .sharedTypedArray element)) : t.Takes value (.stable write) := by
    obtain rfl := Option.some.inj ((typed?_of_array harray).symm.trans hwrite)
    exact .typedArray harray
  cases c with
  | typedArray element => exact harray (.inl hclass)
  | sharedTypedArray element => exact harray (.inr hclass)
  | _ => exact hobject ⟨rfl, rfl⟩

/-- A decision for typed memory is taken where a dense store is not. -/
lemma decided_of_typed? {value : Operand} {write : ElementWrite} (hclass : t.ObjectsAre (· = c))
    (houtside : c.isNative = true → (t.writeNeedsBarrier value.ty value.types).value = true)
    (hwrite : typed? t = some write) :
    (do let c ← t.knownClass?; dense? t c value <|> (typed? t).map Answer.stable) =
      some (.stable write) := by
  refine Option.bind_eq_some_iff.2 ⟨c, TypeSet.knownClass?_eq_some_iff.2 hclass, ?_⟩
  rw [dense?_eq_none.2 houtside, hwrite]
  rfl

/-- **What becomes of a value** is decided in this order. -/
theorem takes_iff {value : Operand} :
    (do let c ← t.knownClass?; dense? t c value <|> (typed? t).map Answer.stable) = some a ↔
      t.Takes value.toFacts a := by
  constructor
  · intro h
    obtain ⟨c, hc, h⟩ := Option.bind_eq_some_iff.1 h
    have hclass := TypeSet.knownClass?_eq_some_iff.1 hc
    cases hdense : dense? t c value with
    | some found =>
      rw [hdense] at h
      obtain rfl := Option.some.inj h
      obtain ⟨hnative, hinside, rfl⟩ := dense?_eq_some.1 hdense
      exact .dense hclass hnative hinside
    | none =>
      rw [hdense] at h
      obtain ⟨write, hwrite, rfl⟩ := Option.map_eq_some_iff.1 h
      exact takes_of_typed? hclass (dense?_eq_none.1 hdense) hwrite
  · intro h
    cases h with
    | @dense c hclass hnative hinside =>
      refine Option.bind_eq_some_iff.2 ⟨c, TypeSet.knownClass?_eq_some_iff.2 hclass, ?_⟩
      rw [dense?_eq_some.2 ⟨hnative, hinside, rfl⟩]
      rfl
    | typedArray hclass =>
      rcases hclass with hclass | hclass
      · exact decided_of_typed? hclass nofun (typed?_of_array (.inl hclass))
      · exact decided_of_typed? hclass nofun (typed?_of_array (.inr hclass))
    | typedObject hclass houtside harray hlayout helement =>
      refine decided_of_typed? hclass houtside ?_
      rw [typed?_of_no_array hclass harray, hclass.typedLayout?_eq_some_iff.2 hlayout,
        Option.bind_some, helement]
      rfl

/-- **A group is decided** as it is classified. -/
theorem classify?_eq_some_iff :
    classify? g = some a ↔ (g.map (·.toFacts)).Classified a := by
  have hshape : (decide (g.object.ty ≠ .object) || !g.index.ty.isIntOrDouble) = true ↔
      ¬(g.object.ty = .object ∧ g.index.ty.isIntOrDouble = true) := by
    simp only [Bool.or_eq_true, decide_eq_true_iff, Bool.not_eq_true', not_and_or,
      Bool.not_eq_true]
  rw [classify?]
  constructor
  · intro h
    split_ifs at h with hno
    obtain ⟨hobject, hindex⟩ := not_not.1 (hshape.not.1 hno)
    obtain ⟨t, ht, h⟩ := Option.bind_eq_some_iff.1 h
    exact ⟨hobject, hindex, t, ht, takes_iff.1 h⟩
  · rintro ⟨hobject, hindex, t, ht, htakes⟩
    rw [if_neg (hshape.not.2 (not_not.2 ⟨hobject, hindex⟩))]
    exact Option.bind_eq_some_iff.2 ⟨t, ht, takes_iff.2 htakes⟩

/-- **All groups are decided, or none**: each as it would be by itself, and together they rest on
what each of them rests on. -/
theorem classifyAll_eq_ok_iff {gs : List Group}
    {r : List (ElementWrite × Group) × List Dependency} :
    classifyAll gs = .ok r ↔ ∃ ds : List (Group × Answer ElementWrite), ds.map (·.1) = gs ∧
      (∀ d ∈ ds, classify? d.1 = some d.2) ∧
      r = (ds.map fun d => (d.2.value, d.1), ds.flatMap (·.2.dependencies)) := by
  induction gs generalizing r with
  | nil =>
    rw [classifyAll]
    constructor
    · intro h
      exact ⟨[], rfl, List.forall_mem_nil _, (Except.ok.inj h).symm⟩
    · rintro ⟨ds, hds, -, rfl⟩
      obtain rfl := List.map_eq_nil_iff.1 hds
      rfl
  | cons g gs ih =>
    rw [classifyAll]
    simp only [bind_eq_ok, need_eq_ok, pure_eq_ok, ih]
    constructor
    · rintro ⟨write, hwrite, rest, ⟨ds, rfl, hds, rfl⟩, rfl⟩
      exact ⟨(g, write) :: ds, rfl, List.forall_mem_cons.2 ⟨hwrite, hds⟩, rfl⟩
    · rintro ⟨ds, hgs, hds, rfl⟩
      obtain ⟨d, ds, rfl, rfl, rfl⟩ := List.map_eq_cons_iff.1 hgs
      obtain ⟨hwrite, hds⟩ := List.forall_mem_cons.1 hds
      exact ⟨d.2, hwrite, _, ⟨ds, rfl, hds, rfl⟩, rfl⟩

/-- The result, and then the stores of groups as they were decided. -/
def bulkDraft (ds : List (Group × Answer ElementWrite)) : Draft Unit := do
  Draft.pushConstant .undefined
  storeAll (ds.map fun d => (d.2.value, d.1))

/-- The plan that stores groups as they were decided. -/
def bulk (ds : List (Group × Answer ElementWrite)) : Plan :=
  .relyingOn (ds.flatMap (·.2.dependencies)) (bulkDraft ds)

/-- **A bulk store** is specialized iff each of its groups is, and to the stores of all of them. -/
theorem putElements_eq_ok_iff {s : Site} {p : Plan} : putElements s = .ok p ↔
    s.Admits { arity := .grouped 3 } ∧ ∃ ds : List (Group × Answer ElementWrite),
      ds.map (·.1) = groups s.args ∧ (∀ d ∈ ds, classify? d.1 = some d.2) ∧ p = bulk ds := by
  rw [putElements]
  simp only [bind_eq_ok, pure_eq_ok, classifyAll_eq_ok_iff]
  constructor
  · rintro ⟨_, hclassify, r, ⟨ds, hgroups, hds, rfl⟩, rfl⟩
    exact ⟨Site.admits_of_classify hclassify, ds, hgroups, hds, rfl⟩
  · rintro ⟨hadmits, ds, hgroups, hds, rfl⟩
    exact ⟨(), Site.classify_eq_ok hadmits, _, ⟨ds, hgroups, hds, rfl⟩, rfl⟩

end ElementStore

end CallSite
