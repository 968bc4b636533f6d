import CallSite.Json.Decoder
import Mathlib.Tactic.Lemma

/-!
# What decoders do

Two kinds of facts about the pieces that decoders are made of.  What was written is read back:
`d (write a) = some a`.  And what is read has a property, whatever was written, as long as the
numbers in the document are numbers that a text can give.

* `Json.IsReal` — **the numbers in a document are real**: integers of 64 bits and finite doubles.
* `Decoder.Gives` — all values that a decoder gives have a property.
* `Decoder.record_object`, `Decoder.choice_object`, `Decoder.list_ofList`, … — reading back.
* `Decoder.gives_record`, `Decoder.gives_choice`, `Decoder.gives_list`, … — what is given.
-/

namespace CallSite

/-! ## Documents -/

namespace Json

/-- **The numbers in a document are real**: integers of 64 bits, signed or not, and finite
doubles. -/
inductive IsReal : Json → Prop where
  | null : IsReal .null
  | bool (b : Bool) : IsReal (.bool b)
  | int {n : Int} (lower : -Int.pow 2 63 ≤ n) (upper : n < Int.pow 2 64) : IsReal (.int n)
  | double {d : Double} (finite : d.isFinite = true) : IsReal (.double d)
  | string (s : String) : IsReal (.string s)
  | array {items : List Json} (h : ∀ j ∈ items, j.IsReal) : IsReal (.array items)
  | object {members : List (String × Json)} (h : ∀ m ∈ members, m.2.IsReal) :
    IsReal (.object members)
  | unreadable : IsReal .unreadable

/-- An item nests less deeply than its array. -/
lemma depth_lt_of_mem_items {items : List Json} {j : Json} (h : j ∈ items) :
    j.depth < (array items).depth := by
  rw [depth, Nat.lt_succ_iff]
  induction items with
  | nil => cases h
  | cons x xs ih =>
    rw [depthItems]
    rcases List.mem_cons.1 h with rfl | h
    · exact Nat.le_max_left ..
    · exact Nat.le_trans (ih h) (Nat.le_max_right ..)

/-- The value of a member nests less deeply than its object. -/
lemma depth_lt_of_mem_members {members : List (String × Json)} {key : String} {j : Json}
    (h : (key, j) ∈ members) : j.depth < (object members).depth := by
  rw [depth, Nat.lt_succ_iff]
  induction members with
  | nil => cases h
  | cons x xs ih =>
    rw [depthMembers]
    rcases List.mem_cons.1 h with rfl | h
    · exact Nat.le_max_left ..
    · exact Nat.le_trans (ih h) (Nat.le_max_right ..)

/-- An object with just the members that are asked for has all of them. -/
lemma members?_object {names : List String} {members : List (String × Json)}
    (hnames : members.map (·.1) = names) (hnodup : names.Nodup) :
    (object members).members? names = some members := by
  have hall : members.filter (·.1 ∈ names) = members := by
    refine List.filter_eq_self.2 fun m hm => decide_eq_true ?_
    exact hnames ▸ List.mem_map_of_mem hm
  rw [members?, hall, hnames, if_pos hnodup]

end Json

/-! ## Reading back -/

namespace Decoder

variable {α β : Type} {d : Decoder α}

lemma natBelow_int {n bound : Nat} (h : n < bound) : natBelow bound (.int n) = some n := by
  rw [natBelow, intIn, if_pos (by omega)]
  rfl

@[simp] lemma uint32_int (n : UInt32) : uint32 (.int n.toNat) = some n := by
  rw [uint32, natBelow_int (show n.toNat < Nat.pow 2 32 from n.toNat_lt)]
  simp

@[simp] lemma uint64_int (n : UInt64) : uint64 (.int n.toNat) = some n := by
  rw [uint64, natBelow_int (show n.toNat < Nat.pow 2 64 from n.toNat_lt)]
  simp

@[simp] lemma int32_int (n : Int32) : int32 (.int n.toInt) = some n := by
  have hlower := n.le_toInt
  have hupper := n.toInt_lt
  rw [int32, intIn, if_pos ⟨hlower, hupper⟩]
  simp

lemma option_of_ne_null {j : Json} (h : j ≠ .null) : d.option j = (d j).map some := by
  cases j <;> first | rfl | exact absurd rfl h

/-- An optional value is read back if its values are, none of which is written as null. -/
lemma option_ofOption {write : α → Json} {o : Option α}
    (h : ∀ a ∈ o, write a ≠ .null ∧ d (write a) = some a) :
    d.option (.ofOption write o) = some o := by
  cases o with
  | none => rfl
  | some a =>
    obtain ⟨hne, ha⟩ := h a rfl
    rw [Json.ofOption, option_of_ne_null hne, ha]
    rfl

/-- A list is read back if its items are. -/
lemma list_ofList {write : α → Json} {xs : List α} (h : ∀ x ∈ xs, d (write x) = some x) :
    d.list (.ofList write xs) = some xs := by
  rw [Json.ofList, list]
  induction xs with
  | nil => rfl
  | cons x xs ih =>
    obtain ⟨hx, hxs⟩ := List.forall_mem_cons.1 h
    simp [hx, ih hxs]

/-! ### Records -/

/-- **A record with all of its fields written** has just these. -/
@[simp] theorem record_object {names : List String} {read : Fields → Option α}
    {members : List (String × Json)} (hnames : members.map (·.1) = names) (hnodup : names.Nodup) :
    Decoder.record names read (.object members) = read members := by
  rw [record, Json.fields?, Json.members?_object hnames hnodup]
  · rfl
  · nofun

end Decoder

namespace Fields

variable {α : Type} {fs : Fields} {name key : String} {j : Json} {d : Decoder α}

@[simp] lemma required_cons_self : Fields.required ((name, j) :: fs) name d = d j := by
  simp [required]

@[simp] lemma required_cons_of_ne (h : name ≠ key) :
    Fields.required ((key, j) :: fs) name d = fs.required name d := by
  simp [required, List.lookup_cons, beq_false_of_ne h]

@[simp] lemma withDefault_cons_self {a : α} :
    Fields.withDefault ((name, j) :: fs) name d a = d j := by
  simp [withDefault]

@[simp] lemma withDefault_cons_of_ne {a : α} (h : name ≠ key) :
    Fields.withDefault ((key, j) :: fs) name d a = fs.withDefault name d a := by
  simp [withDefault, List.lookup_cons, beq_false_of_ne h]

@[simp] lemma optional_cons_self :
    Fields.optional ((name, j) :: fs) name d = d.option j :=
  withDefault_cons_self

@[simp] lemma optional_cons_of_ne (h : name ≠ key) :
    Fields.optional ((key, j) :: fs) name d = fs.optional name d :=
  withDefault_cons_of_ne h

end Fields

/-! ### Choices -/

namespace Variant

variable {α β : Type} (name : String)

@[simp] lemma fst_bare (a : α) : (Variant.bare name a).1 = name := rfl

@[simp] lemma fst_data (f : β → α) (d : Decoder β) : (Variant.data name f d).1 = name := rfl

end Variant

namespace Decoder

variable {α β : Type} {v : Variant α} {vs ws : List (Variant α)} {name : String} {payload : Json}

@[simp] lemma choice_bare_self (a : α) :
    choice (.bare name a :: vs) (.string name) = some a := by
  simp [choice, Json.choice?, List.lookup_cons, Variant.bare]

@[simp] lemma choice_data_self (f : β → α) (d : Decoder β) :
    choice (.data name f d :: vs) (.object [(name, payload)]) = (d payload).map f := by
  simp [choice, Json.choice?, List.lookup_cons, Variant.data]

@[simp] lemma choice_string_of_ne (h : ¬name = v.1) :
    choice (v :: vs) (.string name) = choice vs (.string name) := by
  obtain ⟨key, read⟩ := v
  simp [choice, Json.choice?, List.lookup_cons, beq_false_of_ne h]

@[simp] lemma choice_object_of_ne (h : ¬name = v.1) :
    choice (v :: vs) (.object [(name, payload)]) = choice vs (.object [(name, payload)]) := by
  obtain ⟨key, read⟩ := v
  simp [choice, Json.choice?, List.lookup_cons, beq_false_of_ne h]

/-- The variants in front do not matter to a word that names none of them. -/
lemma choice_append_string (h : name ∉ vs.map (·.1)) :
    choice (vs ++ ws) (.string name) = choice ws (.string name) := by
  induction vs with
  | nil => rfl
  | cons v vs ih =>
    rw [List.map_cons, List.mem_cons, not_or] at h
    rw [List.cons_append, choice_string_of_ne h.1, ih h.2]

/-- **A word is read back** if different values have different words. -/
theorem word_string {all : List α} {key : α → String} (hnodup : (all.map key).Nodup) {a : α}
    (h : a ∈ all) : word all key (.string (key a)) = some a := by
  rw [word]
  induction all with
  | nil => cases h
  | cons x xs ih =>
    rw [List.map_cons, List.nodup_cons] at hnodup
    rcases List.mem_cons.1 h with rfl | h
    · exact choice_bare_self a
    · have hne : key a ≠ key x := fun heq => hnodup.1 (heq ▸ List.mem_map_of_mem h)
      rw [List.map_cons, choice_string_of_ne hne, ih hnodup.2 h]

end Decoder

/-! ## What is given -/

/-- **All values that the decoder gives have the property.** -/
def Decoder.Gives {α : Type} (d : Decoder α) (P : α → Prop) : Prop :=
  ∀ j : Json, j.IsReal → ∀ a, d j = some a → P a

/-- The numbers in the fields are real. -/
def Fields.AreReal (fs : Fields) : Prop := ∀ m ∈ fs, m.2.IsReal

lemma Json.IsReal.members? {j : Json} (h : j.IsReal) {names : List String} {fs : Fields}
    (hfs : j.members? names = some fs) : fs.AreReal := by
  cases h with
  | object hmembers =>
    rw [Json.members?] at hfs
    split at hfs
    · obtain rfl := Option.some.inj hfs
      exact fun m hm => hmembers m (List.mem_filter.1 hm).1
    · cases hfs
  | _ => cases hfs

namespace Fields

variable {α : Type} {fs : Fields} {name : String} {d : Decoder α} {P : α → Prop} {a : α}

lemma AreReal.lookup (h : fs.AreReal) {j : Json} (hj : fs.lookup name = some j) : j.IsReal := by
  obtain ⟨front, back, rfl, -⟩ := List.lookup_eq_some_iff.1 hj
  exact h (name, j) (List.mem_append_right _ (List.mem_cons_self ..))

lemma AreReal.required (h : fs.AreReal) (hd : d.Gives P) (ha : fs.required name d = some a) :
    P a := by
  obtain ⟨j, hj, ha⟩ := Option.bind_eq_some_iff.1 ha
  exact hd j (h.lookup hj) a ha

lemma AreReal.withDefault (h : fs.AreReal) (hd : d.Gives P) {value : α} (hvalue : P value)
    (ha : fs.withDefault name d value = some a) : P a := by
  rw [Fields.withDefault] at ha
  split at ha
  · rename_i j hj
    exact hd j (h.lookup hj) a ha
  · obtain rfl := Option.some.inj ha
    exact hvalue

end Fields

namespace Decoder

variable {α : Type} {d : Decoder α} {P : α → Prop}

lemma gives_option (h : d.Gives P) : d.option.Gives fun o => ∀ a ∈ o, P a := by
  intro j hj o ho a ha
  obtain rfl := ha
  by_cases hnull : j = .null
  · rw [hnull] at ho
    cases ho
  · rw [option_of_ne_null hnull, Option.map_eq_some_iff] at ho
    obtain ⟨b, hb, heq⟩ := ho
    obtain rfl := Option.some.inj heq
    exact h j hj b hb

lemma gives_list (h : d.Gives P) : d.list.Gives fun xs => ∀ x ∈ xs, P x := by
  intro j hj xs hxs
  cases hj with
  | @array items hitems =>
    rw [list] at hxs
    induction items generalizing xs with
    | nil =>
      obtain rfl := Option.some.inj hxs
      nofun
    | cons i is ih =>
      obtain ⟨hi, his⟩ := List.forall_mem_cons.1 hitems
      simp only [List.mapM_cons, Option.bind_eq_bind, Option.bind_eq_some_iff, Option.pure_def,
        Option.some.injEq] at hxs
      obtain ⟨x, hx, ys, hys, rfl⟩ := hxs
      exact List.forall_mem_cons.2 ⟨h i hi x hx, ih ys his hys⟩
  | _ => cases hxs

end Decoder

namespace Fields.AreReal

variable {α : Type} {fs : Fields} {name : String} {d : Decoder α} {P : α → Prop}

lemma optional (h : fs.AreReal) (hd : d.Gives P) {o : Option α}
    (ho : fs.optional name d = some o) : ∀ a ∈ o, P a := by
  refine h.withDefault (Decoder.gives_option hd) ?_ ho
  simp

/-- A list that is empty when it is absent. -/
lemma items (h : fs.AreReal) (hd : d.Gives P) {xs : List α}
    (hxs : fs.withDefault name d.list [] = some xs) : ∀ x ∈ xs, P x := by
  refine h.withDefault (Decoder.gives_list hd) ?_ hxs
  simp

end Fields.AreReal

namespace Decoder

variable {α : Type} {P : α → Prop}

/-- **A record has what its real fields give.** -/
theorem gives_record {names : List String} {read : Fields → Option α}
    (h : ∀ fs : Fields, fs.AreReal → ∀ a, read fs = some a → P a) :
    (Decoder.record names read).Gives P := by
  intro j hj a ha
  obtain ⟨fs, hfs, ha⟩ := Option.bind_eq_some_iff.1 ha
  refine h fs ?_ a ha
  rw [Json.fields?.eq_def] at hfs
  split at hfs
  · split at hfs
    · obtain rfl := Option.some.inj hfs
      cases hj with
      | array hitems => exact fun m hm => hitems m.2 (List.of_mem_zip hm).2
    · cases hfs
  · exact hj.members? hfs

end Decoder

/-- **All values of the variant have the property.** -/
def Variant.Gives {α : Type} (v : Variant α) (P : α → Prop) : Prop :=
  ∀ payload : Option Json, (∀ j ∈ payload, j.IsReal) → ∀ a, v.2 payload = some a → P a

namespace Variant

variable {α β : Type} {P : α → Prop} {name : String}

lemma gives_bare {a : α} (h : P a) : (Variant.bare name a).Gives P := by
  intro payload _ b hb
  dsimp only [bare] at hb
  split at hb
  · exact Option.some.inj hb ▸ h
  · exact Option.some.inj hb ▸ h
  · cases hb

lemma gives_data {f : β → α} {d : Decoder β} {Q : β → Prop} (hd : d.Gives Q)
    (hf : ∀ b, Q b → P (f b)) : (Variant.data name f d).Gives P := by
  intro payload hpayload a ha
  obtain ⟨b, hb, rfl⟩ := Option.map_eq_some_iff.1 ha
  obtain ⟨j, rfl, hj⟩ := Option.bind_eq_some_iff.1 hb
  exact hf b (hd j (hpayload j rfl) b hj)

/-- A variant whose values all have the property, whatever comes with them. -/
lemma gives_of_forall {f : β → α} {d : Decoder β} (hf : ∀ b, P (f b)) :
    (Variant.data name f d).Gives P :=
  gives_data (Q := fun _ => True) (fun _ _ _ _ => trivial) fun b _ => hf b

end Variant

/-- **A choice has what its variants give.** -/
theorem Decoder.gives_choice {α : Type} {P : α → Prop} {variants : List (Variant α)}
    (h : ∀ v ∈ variants, v.Gives P) : (choice variants).Gives P := by
  intro j hj a ha
  obtain ⟨⟨name, payload⟩, hchoice, hvariant⟩ := Option.bind_eq_some_iff.1 ha
  obtain ⟨read, hread, hpayload⟩ := Option.bind_eq_some_iff.1 hvariant
  obtain ⟨front, back, rfl, -⟩ := List.lookup_eq_some_iff.1 hread
  refine h (name, read) (List.mem_append_right _ (List.mem_cons_self ..)) payload ?_ a hpayload
  rw [Json.choice?.eq_def] at hchoice
  split at hchoice
  · cases hchoice
    nofun
  · cases hchoice
    cases hj with
    | object hmembers =>
      rintro _ ⟨⟩
      exact hmembers _ (List.mem_singleton_self _)
  · cases hchoice

end CallSite
