import CallSite.Text.CodeUnits
import Mathlib.Data.List.Basic

/-!
# The encoding of a text by UTF-16 units

What the units of a text are is said here without computing them: a unit stands for the character of
the same number, and a high surrogate followed by a low one stands for a character beyond the basic
plane, to which they contribute ten bits each.  `Text.codeUnits` computes just these units.

* `Text.IsPair`, `Text.Utf16` — **the encoding**, as a relation between texts and units.
* `Text.utf16_iff` — a text is encoded by its code units and by nothing else.
* `Text.Utf16.injective` — no two texts have the same units.
* `Text.exists_utf16_singleton` — a unit encodes a text by itself iff it is no surrogate.
-/

namespace CallSite.Text

/-! ## The encoding -/

/-- **A pair of surrogates** and the character that it stands for. -/
structure IsPair (high low : UInt16) (c : Char) : Prop where
  isHigh : 0xD800 ≤ high.toNat ∧ high.toNat ≤ 0xDBFF
  isLow : 0xDC00 ≤ low.toNat ∧ low.toNat ≤ 0xDFFF
  value : c.toNat = 0x10000 + (high.toNat - 0xD800) * 0x400 + (low.toNat - 0xDC00)

/-- **A text is encoded by units.** -/
inductive Utf16 : List Char → List UInt16 → Prop where
  | nil : Utf16 [] []
  | basic {c : Char} {u : UInt16} {cs : List Char} {us : List UInt16} (hc : u.toNat = c.toNat)
      (rest : Utf16 cs us) : Utf16 (c :: cs) (u :: us)
  | pair {c : Char} {high low : UInt16} {cs : List Char} {us : List UInt16}
      (hc : IsPair high low c) (rest : Utf16 cs us) : Utf16 (c :: cs) (high :: low :: us)

/-- No character has the number of a surrogate, and there is a greatest one. -/
lemma toNat_of_char (c : Char) : c.toNat < 0xD800 ∨ 0xDFFF < c.toNat ∧ c.toNat < 0x110000 :=
  c.valid

lemma isSurrogate_iff (u : UInt16) :
    isSurrogate u = true ↔ 0xD800 ≤ u.toNat ∧ u.toNat ≤ 0xDFFF := by
  simp [isSurrogate, UInt16.le_iff_toNat_le]

/-! ## The units of one character -/

lemma charUnits_of_basic {c : Char} {u : UInt16} (hc : u.toNat = c.toNat) :
    charUnits c = [u] := by
  have hu := u.toNat_lt
  rw [charUnits, if_pos (by omega), ← hc, UInt16.ofNat_toNat]

lemma charUnits_of_isPair {c : Char} {high low : UInt16} (hc : IsPair high low c) :
    charUnits c = [high, low] := by
  obtain ⟨hhigh, hlow, hvalue⟩ := hc
  have hquotient : 0xD800 + (c.toNat - 0x10000) / 0x400 = high.toNat := by omega
  have hremainder : 0xDC00 + (c.toNat - 0x10000) % 0x400 = low.toNat := by omega
  rw [charUnits, if_neg (by omega)]
  simp only [hquotient, hremainder, UInt16.ofNat_toNat]

/-- A character beyond the basic plane is a pair of surrogates. -/
lemma isPair_of_le {c : Char} (hc : 0x10000 ≤ c.toNat) :
    IsPair (UInt16.ofNat (0xD800 + (c.toNat - 0x10000) / 0x400))
      (UInt16.ofNat (0xDC00 + (c.toNat - 0x10000) % 0x400)) c := by
  have hvalid := toNat_of_char c
  refine ⟨?_, ?_, ?_⟩ <;> simp only [UInt16.toNat_ofNat'] <;> omega

/-! ## The units of a text -/

lemma utf16_codeUnits (cs : List Char) : Utf16 cs (codeUnits cs) := by
  induction cs with
  | nil => exact .nil
  | cons c cs ih =>
    rw [codeUnits, List.flatMap_cons]
    by_cases hc : c.toNat < 0x10000
    · rw [charUnits, if_pos hc]
      exact .basic (UInt16.toNat_ofNat_of_lt' hc) ih
    · rw [charUnits, if_neg hc]
      exact .pair (isPair_of_le (Nat.le_of_not_lt hc)) ih

/-- **A text is encoded by its code units** and by nothing else. -/
theorem utf16_iff {cs : List Char} {us : List UInt16} : Utf16 cs us ↔ us = codeUnits cs := by
  constructor
  · intro h
    induction h with
    | nil => rfl
    | basic hc _ ih => rw [codeUnits, List.flatMap_cons, charUnits_of_basic hc, ih]; rfl
    | pair hc _ ih => rw [codeUnits, List.flatMap_cons, charUnits_of_isPair hc, ih]; rfl
  · rintro rfl
    exact utf16_codeUnits cs

/-- A character of the basic plane does not begin like a pair. -/
lemma not_basic_of_isPair {c d : Char} {high low : UInt16} (hd : IsPair high low d) :
    high.toNat ≠ c.toNat := by
  have hvalid := toNat_of_char c
  have hhigh := hd.isHigh
  omega

/-- **No two texts have the same units.** -/
theorem Utf16.injective {cs ds : List Char} {us : List UInt16} (hcs : Utf16 cs us)
    (hds : Utf16 ds us) : cs = ds := by
  induction hcs generalizing ds with
  | nil =>
    cases hds
    rfl
  | @basic c u cs us hc _ ih =>
    cases hds with
    | basic hd rest => rw [Char.toNat_inj.1 (hc.symm.trans hd), ih rest]
    | pair hd _ => exact absurd hc (not_basic_of_isPair hd)
  | @pair c high low cs us hc _ ih =>
    cases hds with
    | basic hd _ => exact absurd hd (not_basic_of_isPair hc)
    | pair hd rest => rw [Char.toNat_inj.1 (hc.value.trans hd.value.symm), ih rest]

/-! ## A single unit -/

lemma utf16_singleton_iff {cs : List Char} {u : UInt16} :
    Utf16 cs [u] ↔ ∃ c, cs = [c] ∧ u.toNat = c.toNat := by
  constructor
  · intro h
    cases h with
    | basic hc rest =>
      cases rest
      exact ⟨_, rfl, hc⟩
  · rintro ⟨c, rfl, hc⟩
    exact .basic hc .nil

/-- The character of a unit that is no surrogate. -/
lemma toNat_ofNat_of_not_isSurrogate {u : UInt16} (h : isSurrogate u = false) :
    (Char.ofNat u.toNat).toNat = u.toNat := by
  have hu := u.toNat_lt
  rw [← Bool.not_eq_true, isSurrogate_iff] at h
  have hvalid : u.toNat.isValidChar := by
    rw [Nat.isValidChar]
    omega
  rw [Char.ofNat, dif_pos hvalid]
  rfl

/-- **A unit encodes a text by itself** iff it is no surrogate. -/
theorem exists_utf16_singleton {u : UInt16} : (∃ cs, Utf16 cs [u]) ↔ isSurrogate u = false := by
  constructor
  · rintro ⟨cs, h⟩
    obtain ⟨c, -, hc⟩ := utf16_singleton_iff.1 h
    have hvalid := toNat_of_char c
    rw [← Bool.not_eq_true, isSurrogate_iff]
    omega
  · intro h
    exact ⟨_, utf16_singleton_iff.2 ⟨_, rfl, (toNat_ofNat_of_not_isSurrogate h).symm⟩⟩

end CallSite.Text
