import Mathlib.Data.List.Forall2
import Mathlib.Data.Option.Basic

/-!
# Lists and options related member by member

When two lists are related in order, or two options are both there and related, what is known of
one side carries over to the other.

* `exists_mem_of_forall₂`, `forall₂_of_common` — partners of members.
* `any_of_forall₂`, `all_of_forall₂`, `map_eq_of_forall₂` — properties of the whole list.
* `any_of_rel`, `exists_of_rel` — the same for options.
-/

namespace CallSite

variable {α β γ : Type}

/-! ## Lists -/

section Lists

variable {xs : List α} {ys : List β}

/-- What stands on one side of related lists has a partner on the other. -/
lemma exists_mem_of_forall₂ {R : α → β → Prop} (h : List.Forall₂ R xs ys) {x : α} (hx : x ∈ xs) :
    ∃ y ∈ ys, R x y := by
  induction h with
  | nil => cases hx
  | cons hR _ ih =>
    rcases List.mem_cons.1 hx with rfl | hx
    · exact ⟨_, List.mem_cons_self .., hR⟩
    · obtain ⟨y, hy, hR'⟩ := ih hx
      exact ⟨y, List.mem_cons_of_mem _ hy, hR'⟩

/-- Related members may be taken to be members. -/
lemma forall₂_mem {R : α → β → Prop} (h : List.Forall₂ R xs ys) :
    List.Forall₂ (fun x y => x ∈ xs ∧ R x y) xs ys :=
  (List.forall₂_and_left _ _).2 ⟨fun _ hx => hx, h⟩

/-- Two lists related to the same one are related. -/
lemma forall₂_of_common {R : α → β → Prop} {S : α → γ → Prop} {T : β → γ → Prop} {zs : List γ}
    (hR : List.Forall₂ R xs ys) (hS : List.Forall₂ S xs zs)
    (h : ∀ x y z, R x y → S x z → T y z) : List.Forall₂ T ys zs := by
  induction hR generalizing zs with
  | nil =>
    obtain rfl := List.forall₂_nil_left_iff.1 hS
    exact .nil
  | cons hxy _ ih =>
    obtain ⟨z, zs, hxz, hrest, rfl⟩ := List.forall₂_cons_left_iff.1 hS
    exact .cons (h _ _ _ hxy hxz) (ih hrest)

lemma map_eq_of_forall₂ {f : α → γ} {g : β → γ}
    (h : List.Forall₂ (fun x y => f x = g y) xs ys) : ys.map g = xs.map f := by
  induction h with
  | nil => rfl
  | cons hxy _ ih => rw [List.map_cons, List.map_cons, hxy, ih]

lemma any_eq_of_forall₂ {p : α → Bool} {q : β → Bool}
    (h : List.Forall₂ (fun x y => p x = q y) xs ys) : ys.any q = xs.any p := by
  induction h with
  | nil => rfl
  | cons hxy _ ih => rw [List.any_cons, List.any_cons, hxy, ih]

lemma any_of_forall₂ {p : α → Bool} {q : β → Bool}
    (h : List.Forall₂ (fun x y => p x = true → q y = true) xs ys) (hp : xs.any p = true) :
    ys.any q = true := by
  induction h with
  | nil => cases hp
  | cons hxy _ ih =>
    rw [List.any_cons, Bool.or_eq_true] at hp ⊢
    exact hp.imp hxy ih

lemma all_of_forall₂ {p : α → Bool} {q : β → Bool}
    (h : List.Forall₂ (fun x y => p x = true → q y = true) xs ys) (hp : xs.all p = true) :
    ys.all q = true := by
  induction h with
  | nil => rfl
  | cons hxy _ ih =>
    rw [List.all_cons, Bool.and_eq_true] at hp ⊢
    exact ⟨hxy hp.1, ih hp.2⟩

end Lists

/-! ## Options -/

section Options

variable {R : α → β → Prop} {x : Option α} {y : Option β} {p : α → Bool} {q : β → Bool}

/-- A value that is there has a related one. -/
lemma exists_of_rel (h : Option.Rel R x y) {a : α} (ha : x = some a) : ∃ b, y = some b ∧ R a b := by
  cases h with
  | none => cases ha
  | some hR =>
    cases ha
    exact ⟨_, rfl, hR⟩

lemma any_of_rel (h : Option.Rel R x y) (hpq : ∀ a b, R a b → p a = true → q b = true)
    (hp : x.any p = true) : y.any q = true := by
  cases h with
  | none => cases hp
  | some hR => exact hpq _ _ hR hp

lemma any_of_rel_symm (h : Option.Rel R x y) (hqp : ∀ a b, R a b → q b = true → p a = true)
    (hq : y.any q = true) : x.any p = true := by
  cases h with
  | none => cases hq
  | some hR => exact hqp _ _ hR hq

end Options

end CallSite
