import CallSite.Graph.Node
import Mathlib.Data.Int.Cast.Lemmas
import Mathlib.Data.Prod.Lex
import Mathlib.Tactic.NormNum

/-!
# Numbers at run time

A constant is compared without the sign of a zero, but a program that runs tells the two zeros
apart: the negative one is the lesser of both.  Here are the numbers as a program has them, and the
least and the greatest of several.

* `Number`, `Number.rank` — the numbers, and where each of them stands among the others.
* `Number.minMax`, `Number.extreme` — **the lesser or greater of two, the least or greatest of
  many**; a NaN among them is the result.
* `Number.IsExtreme` — the same by a property, which only one number has.
* `Facts.CanBe` — the numbers that a value can be, by what is known of it.
-/

namespace CallSite

/-! ## Numbers -/

/-- **A number at run time**; `finite 0` is the positive zero. -/
inductive Number where
  | nan
  | infinite (negative : Bool)
  | finite (value : Rat)
  | negativeZero
  deriving DecidableEq, Repr

namespace Number

/-- The number without the sign of a zero. -/
def numeric : Number → Numeric
  | nan => .nan
  | infinite negative => .infinite negative
  | finite value => .finite value
  | negativeZero => .finite 0

/-- The number of an encoding. -/
def ofDouble (d : Double) : Number :=
  match d.value with
  | .nan => nan
  | .infinite negative => infinite negative
  | .finite value => if value = 0 ∧ d.isNegative = true then negativeZero else finite value

/-- **Where a number stands** among the others: the infinities on either side, the finite ones by
their values, and the negative zero just below the positive one.  NaN is never compared; it has a
place so that no two numbers share one. -/
def rank : Number → Int ×ₗ Rat ×ₗ Bool
  | infinite true => toLex (-1, toLex (0, false))
  | finite value => toLex (0, toLex (value, true))
  | negativeZero => toLex (0, toLex (0, false))
  | infinite false => toLex (1, toLex (0, false))
  | nan => toLex (2, toLex (0, false))

/-- The number is strictly greater than another or, where the least is sought, strictly less. -/
def Beats (isMax : Bool) (x y : Number) : Prop := if isMax then y.rank < x.rank else x.rank < y.rank

instance (isMax : Bool) (x y : Number) : Decidable (Beats isMax x y) :=
  inferInstanceAs (Decidable (if isMax = true then y.rank < x.rank else x.rank < y.rank))

/-- **The lesser or the greater of two numbers**, NaN if one of them is. -/
def minMax (isMax : Bool) (x y : Number) : Number :=
  if x = nan ∨ y = nan then nan else if y.Beats isMax x then y else x

/-- **The least or the greatest of many numbers**, NaN if one of them is.  The search starts at the
infinity that every other number beats. -/
def extreme (isMax : Bool) (xs : List Number) : Number :=
  if nan ∈ xs then nan
  else xs.foldl (fun best x => if x.Beats isMax best then x else best) (infinite isMax)

/-- **The number is the least or the greatest of a list.** -/
structure IsExtreme (isMax : Bool) (xs : List Number) (r : Number) : Prop where
  of_nan : nan ∈ xs → r = nan
  of_not_nan : nan ∉ xs → r ∈ xs ∧ ∀ x ∈ xs, ¬x.Beats isMax r

variable {isMax : Bool} {x y z r r' : Number} {xs : List Number}

/-! ## Order -/

lemma rank_injective : Function.Injective rank := by
  rintro (_ | (_ | _) | p | _) (_ | (_ | _) | q | _) h <;> simp_all [rank]

lemma rank_finite_le {p q : Rat} : (finite p).rank ≤ (finite q).rank ↔ p ≤ q := by
  simp [rank, Prod.Lex.toLex_le_toLex, ← le_iff_lt_or_eq]

/-- The infinities stand on either side of all other numbers. -/
lemma rank_infinite_le {x : Number} (hx : x ≠ nan) :
    (infinite true).rank ≤ x.rank ∧ x.rank ≤ (infinite false).rank := by
  rcases x with _ | (_ | _) | q | _ <;> simp_all [rank, Prod.Lex.toLex_le_toLex]

lemma not_beats_iff : ¬x.Beats isMax y ↔ if isMax then x.rank ≤ y.rank else y.rank ≤ x.rank := by
  cases isMax <;> simp [Beats]

lemma not_beats_self (x : Number) : ¬x.Beats isMax x := by
  cases isMax <;> simp [not_beats_iff]

lemma not_beats_trans (h : ¬x.Beats isMax y) (h' : ¬y.Beats isMax z) : ¬x.Beats isMax z := by
  rw [not_beats_iff] at *
  cases isMax
  · exact le_trans h' h
  · exact le_trans h h'

/-- What beats another is not beaten by it. -/
lemma Beats.not_beats (h : x.Beats isMax y) : ¬y.Beats isMax x := by
  rw [not_beats_iff]
  cases isMax
  · exact le_of_lt h
  · exact le_of_lt h

/-- Of two numbers one beats the other. -/
lemma eq_of_not_beats (h : ¬x.Beats isMax y) (h' : ¬y.Beats isMax x) : x = y := by
  rw [not_beats_iff] at h h'
  cases isMax
  · exact rank_injective (le_antisymm h' h)
  · exact rank_injective (le_antisymm h h')

/-- The infinity from which a search starts beats nothing. -/
lemma eq_infinite_of_not_beats (hx : x ≠ nan) (h : ¬x.Beats isMax (infinite isMax)) :
    x = infinite isMax := by
  refine eq_of_not_beats h ?_
  rw [not_beats_iff]
  cases isMax
  · exact (rank_infinite_le hx).2
  · exact (rank_infinite_le hx).1

/-! ## Least and greatest -/

namespace IsExtreme

lemma singleton (x : Number) : IsExtreme isMax [x] x where
  of_nan h := (List.mem_singleton.1 h).symm
  of_not_nan _ := ⟨List.mem_singleton_self x, fun y hy => by
    rw [List.mem_singleton.1 hy]
    exact not_beats_self x⟩

/-- **Only one number is the least or the greatest** of a list. -/
theorem unique (h : IsExtreme isMax xs r) (h' : IsExtreme isMax xs r') : r = r' := by
  by_cases hnan : nan ∈ xs
  · rw [h.of_nan hnan, h'.of_nan hnan]
  · obtain ⟨hr, hbeaten⟩ := h.of_not_nan hnan
    obtain ⟨hr', hbeaten'⟩ := h'.of_not_nan hnan
    exact eq_of_not_beats (hbeaten' r hr) (hbeaten r' hr')

/-- One more number. -/
lemma concat (h : IsExtreme isMax xs r) (x : Number) :
    IsExtreme isMax (xs ++ [x]) (minMax isMax r x) where
  of_nan hnan := by
    refine if_pos ?_
    rcases List.mem_append.1 hnan with hnan | hnan
    · exact .inl (h.of_nan hnan)
    · exact .inr (List.mem_singleton.1 hnan).symm
  of_not_nan hnan := by
    rw [List.mem_append, not_or, List.mem_singleton] at hnan
    obtain ⟨hr, hbeaten⟩ := h.of_not_nan hnan.1
    have hne : ¬(r = nan ∨ x = nan) := by
      rintro (rfl | rfl)
      · exact hnan.1 hr
      · exact hnan.2 rfl
    rw [minMax, if_neg hne]
    split
    · next hx =>
      refine ⟨by simp, fun y hy => ?_⟩
      rcases List.mem_append.1 hy with hy | hy
      · exact not_beats_trans (hbeaten y hy) hx.not_beats
      · rw [List.mem_singleton.1 hy]
        exact not_beats_self x
    · next hx =>
      refine ⟨by simp [hr], fun y hy => ?_⟩
      rcases List.mem_append.1 hy with hy | hy
      · exact hbeaten y hy
      · rwa [List.mem_singleton.1 hy]

/-- Numbers that are no NaN and do not beat the result change nothing. -/
lemma of_subset {all : List Number} (h : IsExtreme isMax xs r) (hsubset : xs ⊆ all)
    (hrest : ∀ x ∈ all, x ∈ xs ∨ x ≠ nan ∧ ¬x.Beats isMax r) : IsExtreme isMax all r where
  of_nan hnan := h.of_nan ((hrest nan hnan).resolve_right fun hne => hne.1 rfl)
  of_not_nan hnan := by
    obtain ⟨hr, hbeaten⟩ := h.of_not_nan fun hmem => hnan (hsubset hmem)
    refine ⟨hsubset hr, fun x hx => ?_⟩
    rcases hrest x hx with hkept | ⟨-, hdropped⟩
    · exact hbeaten x hkept
    · exact hdropped

end IsExtreme

/-- **Taking numbers two at a time** gives the least or the greatest of all. -/
theorem isExtreme_foldl (x : Number) (xs : List Number) :
    IsExtreme isMax (x :: xs) (xs.foldl (minMax isMax) x) := by
  have hfrom : ∀ (before : List Number) (r : Number), IsExtreme isMax before r →
      IsExtreme isMax (before ++ xs) (xs.foldl (minMax isMax) r) := by
    induction xs with
    | nil =>
      intro before r h
      rwa [List.append_nil]
    | cons y ys ih =>
      intro before r h
      have hnext := ih (before ++ [y]) (minMax isMax r y) (h.concat y)
      rwa [List.append_assoc, List.singleton_append] at hnext
  exact hfrom [x] x (.singleton x)

/-- Without a NaN, the search takes numbers two at a time. -/
lemma foldl_eq_minMax (hr : r ≠ nan) (hnan : nan ∉ xs) :
    xs.foldl (fun best x => if x.Beats isMax best then x else best) r =
      xs.foldl (minMax isMax) r := by
  induction xs generalizing r with
  | nil => rfl
  | cons x xs ih =>
    rw [List.mem_cons, not_or] at hnan
    have hstep : minMax isMax r x = if x.Beats isMax r then x else r :=
      if_neg (not_or.2 ⟨hr, Ne.symm hnan.1⟩)
    rw [List.foldl_cons, List.foldl_cons, hstep]
    refine ih ?_ hnan.2
    split
    · exact Ne.symm hnan.1
    · exact hr

/-- **The search finds the least or the greatest.** -/
theorem isExtreme_extreme (h : xs ≠ []) : IsExtreme isMax xs (extreme isMax xs) := by
  obtain ⟨x, xs, rfl⟩ := List.exists_cons_of_ne_nil h
  rw [extreme]
  split
  · next hnan => exact ⟨fun _ => rfl, fun hnone => absurd hnan hnone⟩
  · next hnan =>
    have hx : x ≠ nan := fun hx => hnan (hx ▸ List.mem_cons_self ..)
    have hstart : (if x.Beats isMax (infinite isMax) then x else infinite isMax) = x := by
      split
      · rfl
      · next hbeaten => exact (eq_infinite_of_not_beats hx hbeaten).symm
    rw [List.foldl_cons, hstart, foldl_eq_minMax hx fun hmem => hnan (List.mem_cons_of_mem x hmem)]
    exact isExtreme_foldl x xs

/-! ## Int32 numbers -/

/-- A number no greater than the least int32 is greater than none of them. -/
lemma not_beats_of_le (h : x.numeric.le (.finite (-2147483648)) = true) (k : Int32) :
    x ≠ nan ∧ ¬x.Beats true (finite k.toInt) := by
  have hk : (-2147483648 : Rat) ≤ k.toInt := by exact_mod_cast k.le_toInt
  rw [not_beats_iff, if_pos rfl]
  cases x with
  | nan => cases h
  | infinite negative =>
    obtain rfl : negative = true := h
    exact ⟨nofun, (@rank_infinite_le (finite k.toInt) nofun).1⟩
  | finite value =>
    have hvalue : value ≤ -2147483648 := of_decide_eq_true h
    exact ⟨nofun, rank_finite_le.2 (hvalue.trans hk)⟩
  | negativeZero =>
    have hzero : (0 : Rat) ≤ -2147483648 := of_decide_eq_true h
    norm_num at hzero

/-- A number no less than the greatest int32 is less than none of them. -/
lemma not_beats_of_ge (h : Numeric.le (.finite 2147483647) x.numeric = true) (k : Int32) :
    x ≠ nan ∧ ¬x.Beats false (finite k.toInt) := by
  have hk : (k.toInt : Rat) ≤ 2147483647 := by exact_mod_cast Int.le_of_lt_add_one k.toInt_lt
  rw [not_beats_iff, if_neg nofun]
  cases x with
  | nan => cases h
  | infinite negative =>
    obtain rfl : negative = false := by simpa [numeric, Numeric.le] using h
    exact ⟨nofun, (@rank_infinite_le (finite k.toInt) nofun).2⟩
  | finite value =>
    have hvalue : (2147483647 : Rat) ≤ value := of_decide_eq_true h
    exact ⟨nofun, rank_finite_le.2 (hk.trans hvalue)⟩
  | negativeZero =>
    have hzero : (2147483647 : Rat) ≤ 0 := of_decide_eq_true h
    norm_num at hzero

end Number

/-! ## What a value can be -/

/-- The number that a numeric constant is; unlike `Constant.number?` it has the sign of a zero. -/
def Constant.runtime? : Constant → Option Number
  | int32 n => some (.finite n.toInt)
  | double d => some (.ofDouble d)
  | _ => none

lemma Number.numeric_ofDouble (d : Double) : (ofDouble d).numeric = d.value := by
  rw [ofDouble]
  split
  · next h => rw [h]; rfl
  · next h => rw [h]; rfl
  · next value h =>
    rw [h]
    split
    · next hzero => rw [hzero.1]; rfl
    · rfl

/-- The number that a constant is compared as. -/
lemma Constant.number?_eq (c : Constant) : c.number? = c.runtime?.map Number.numeric := by
  cases c with
  | double d => exact congrArg some (Number.numeric_ofDouble d).symm
  | _ => rfl

/-- **A number that the value can be** at run time: an int32 if that is its type, and the constant
if it is known; a floating-point value may be any number. -/
structure Facts.CanBe (f : Facts) (x : Number) : Prop where
  int32 : f.ty = .int32 → ∃ k : Int32, x = .finite k.toInt
  constant : ∀ c ∈ f.constant, c.runtime? = some x

lemma Facts.CanBe.numeric {f : Facts} {x : Number} (h : f.CanBe x) {n : Numeric}
    (hn : f.number? = some n) : x.numeric = n := by
  obtain ⟨c, hc, hnumber⟩ := Option.bind_eq_some_iff.1 hn
  rw [c.number?_eq, h.constant c hc] at hnumber
  exact Option.some.inj hnumber

end CallSite
