import CallSite.Json.Number
import Mathlib.Algebra.Order.Field.Power
import Mathlib.Tactic.Linarith
import Mathlib.Tactic.Positivity
import Mathlib.Tactic.Ring
import Mathlib.Data.Rat.Cast.Order

/-!
# Numbers that are read are finite

A number is read as the double nearest to it, or as a significand of 64 bits that is multiplied or
divided by powers of ten.  Only a multiplication can overflow, and its result is looked at.

* `Double.nearest_bound` — **the double nearest to a fraction** below a power of two is not much
  greater than that power.
* `Double.isFinite_ofInt` — integers of 64 bits are finite doubles.
* `Json.isFinite_of_scale` — so is a significand that was scaled.
-/

namespace CallSite

namespace Double

/-! ## Encodings -/

lemma magnitude_ofMagnitude (negative : Bool) {m : Nat} (h : m < signPlace) :
    (ofMagnitude negative m).magnitude = m := by
  have hplace : signPlace = 2 ^ 63 := rfl
  rw [hplace] at h
  rw [magnitude, ofMagnitude, hplace]
  cases negative with
  | false =>
    rw [if_neg nofun, UInt64.toNat_ofNat']
    omega
  | true =>
    rw [if_pos rfl, UInt64.toNat_ofNat']
    omega

lemma isFinite_ofMagnitude (negative : Bool) {m : Nat} (h : m < infinityBits) :
    (ofMagnitude negative m).isFinite = true := by
  have hbits : infinityBits < signPlace := by decide
  rw [isFinite, magnitude_ofMagnitude negative (h.trans hbits)]
  exact decide_eq_true h

/-! ## Rounding -/

lemma le_roundHalfEven (num den : Nat) : num / den ≤ roundHalfEven num den := by
  rw [roundHalfEven]
  split_ifs <;> omega

lemma roundHalfEven_le (num den : Nat) : roundHalfEven num den ≤ num / den + 1 := by
  rw [roundHalfEven]
  split_ifs <;> omega

lemma leadingExponent_le {num den bound : Nat} (hnum : num ≠ 0) (h : num < 2 ^ bound * den) :
    leadingExponent num den ≤ bound := by
  have hlog : num.log2 < bound + (den.log2 + 1) := by
    rw [Nat.log2_lt hnum, pow_add]
    exact h.trans_le (Nat.mul_le_mul_left _ Nat.lt_log2_self.le)
  rw [leadingExponent]
  split_ifs <;> omega

/-- A fraction is below the power of two that follows its leading digit. -/
lemma lt_leadingExponent {num den : Nat} (hden : den ≠ 0) :
    (num : ℚ) < den * 2 ^ (leadingExponent num den + 1) := by
  have hlog : (num : ℚ) < den * 2 ^ ((num.log2 : ℤ) - den.log2 + 1) := by
    have hnum : (num : ℚ) < 2 ^ ((num.log2 : ℤ) + 1) := by
      exact_mod_cast @Nat.lt_log2_self num
    have hden : (2 : ℚ) ^ (den.log2 : ℤ) ≤ den := by
      exact_mod_cast Nat.log2_self_le hden
    calc (num : ℚ) < 2 ^ ((num.log2 : ℤ) + 1) := hnum
      _ = 2 ^ (den.log2 : ℤ) * 2 ^ ((num.log2 : ℤ) - den.log2 + 1) := by
        rw [← zpow_add₀ two_ne_zero]
        congr 1
        ring
      _ ≤ _ := mul_le_mul_of_nonneg_right hden (by positivity)
  rw [leadingExponent]
  generalize (num.log2 : ℤ) - den.log2 = k at hlog ⊢
  split_ifs with hk hbelow hbelow
  · obtain ⟨n, rfl⟩ := Int.eq_ofNat_of_zero_le hk
    have hlt : num < den * 2 ^ n := of_decide_eq_true hbelow
    rw [sub_add_cancel, zpow_natCast]
    exact_mod_cast hlt
  · exact hlog
  · obtain ⟨n, hn⟩ := Int.eq_ofNat_of_zero_le (a := -k) (by omega)
    obtain rfl : k = -n := by omega
    have hlt : num * 2 ^ n < den := by simpa using of_decide_eq_true hbelow
    rw [sub_add_cancel, zpow_neg, zpow_natCast, ← div_eq_mul_inv, lt_div_iff₀ (by positivity)]
    exact_mod_cast hlt
  · exact hlog

/-- Counted in units of the last place, a fraction has at most 53 binary digits. -/
lemma lt_of_leadingExponent_le {num den : Nat} (hden : den ≠ 0) {e : Int}
    (h : leadingExponent num den ≤ e + 52) :
    num * 2 ^ (-e).toNat < den * 2 ^ e.toNat * 2 ^ 53 := by
  have hlt : (num : ℚ) < den * 2 ^ (e + 53) := by
    refine (lt_leadingExponent hden).trans_le ?_
    refine mul_le_mul_of_nonneg_left (zpow_le_zpow_right₀ one_le_two ?_) (by positivity)
    omega
  rcases le_or_gt 0 e with he | he
  · obtain ⟨n, rfl⟩ := Int.eq_ofNat_of_zero_le he
    rw [zpow_add₀ two_ne_zero, ← mul_assoc, zpow_natCast] at hlt
    have hnonneg : (-(n : Int)).toNat = 0 := by omega
    rw [hnonneg, pow_zero, mul_one, Int.toNat_natCast]
    exact_mod_cast hlt
  · obtain ⟨n, hn⟩ := Int.eq_ofNat_of_zero_le (a := -e) (by omega)
    obtain rfl : e = -n := by omega
    have hneg : (-(n : Int)).toNat = 0 := by omega
    rw [zpow_add₀ two_ne_zero, zpow_neg, zpow_natCast, mul_comm _ ((2 : ℚ) ^ (53 : ℤ)), ← mul_assoc,
      ← div_eq_mul_inv, lt_div_iff₀ (by positivity)] at hlt
    rw [hneg, pow_zero, mul_one, neg_neg, Int.toNat_natCast]
    exact_mod_cast hlt

/-- **The double nearest to a fraction** below a power of two is not much greater than it. -/
theorem nearest_bound (negative : Bool) {num den bound : Nat} (h : num < 2 ^ bound * den) :
    (nearest negative num den).magnitude ≤ (bound + 1024) * fractionSize := by
  have hden : den ≠ 0 := by
    rintro rfl
    omega
  have hplace : infinityBits < signPlace := by decide
  have hsize : fractionSize = 2 ^ 52 := rfl
  rw [nearest]
  split_ifs with hzero
  · rw [magnitude_ofMagnitude negative (by decide)]
    exact Nat.zero_le _
  rw [magnitude_ofMagnitude negative ((Nat.min_le_left ..).trans_lt hplace)]
  refine (Nat.min_le_right ..).trans ?_
  have hle := leadingExponent_le hzero h
  have hlast := @lt_of_leadingExponent_le num den hden
    (max (leadingExponent num den - 52) (-1074)) (by omega)
  have hexponent : max (leadingExponent num den - 52) (-1074) + 1074 ≤ bound + 1022 := by omega
  generalize max (leadingExponent num den - 52) (-1074) = e at hlast hexponent ⊢
  have hsignificand : (if 0 ≤ e then roundHalfEven num (den * Nat.pow 2 e.toNat)
      else roundHalfEven (num * Nat.pow 2 (-e).toNat) den) ≤ 2 ^ 53 := by
    split_ifs with he
    · have hnonneg : (-e).toNat = 0 := by omega
      rw [hnonneg, pow_zero, mul_one] at hlast
      refine (roundHalfEven_le ..).trans (Nat.succ_le_of_lt ?_)
      exact Nat.div_lt_of_lt_mul hlast
    · have hneg : e.toNat = 0 := by omega
      rw [hneg, pow_zero, mul_one] at hlast
      refine (roundHalfEven_le ..).trans (Nat.succ_le_of_lt ?_)
      exact Nat.div_lt_of_lt_mul hlast
  generalize (if 0 ≤ e then roundHalfEven num (den * Nat.pow 2 e.toNat)
      else roundHalfEven (num * Nat.pow 2 (-e).toNat) den) = m at hsignificand ⊢
  have hplaces : (e + 1074).toNat ≤ bound + 1022 := by omega
  calc (e + 1074).toNat * fractionSize + m
      ≤ (bound + 1022) * fractionSize + 2 ^ 53 :=
        Nat.add_le_add (Nat.mul_le_mul_right _ hplaces) hsignificand
    _ = (bound + 1024) * fractionSize := by rw [hsize]; ring

lemma isFinite_of_magnitude_le {d : Double} {bound : Nat}
    (h : d.magnitude ≤ (bound + 1024) * fractionSize) (hbound : bound < 1023) :
    d.isFinite = true :=
  decide_eq_true (h.trans_lt (Nat.mul_lt_mul_of_pos_right (by omega) (by decide)))

/-- **Integers of 64 bits are finite doubles.** -/
theorem isFinite_ofInt {n : Int} (lower : -Int.pow 2 63 ≤ n) (upper : n < Int.pow 2 64) :
    (ofInt n).isFinite = true := by
  have hlower : Int.pow 2 63 = 2 ^ 63 := rfl
  have hupper : Int.pow 2 64 = 2 ^ 64 := rfl
  have hn : n.natAbs < 2 ^ 64 * 1 := by omega
  exact isFinite_of_magnitude_le (nearest_bound _ hn) (by decide)

end Double

/-! ## Numbers -/

namespace Double

variable {d : Double}

lemma significand_lt (d : Double) : d.significand < 2 ^ 53 := by
  have hfraction : d.fractionField < 2 ^ 52 := Nat.mod_lt _ (by decide)
  have hsize : fractionSize = 2 ^ 52 := rfl
  rw [significand, hsize]
  split_ifs <;> omega

/-- The double nearest to a positive integer is at least one. -/
lemma le_nearest {n : Nat} (h : n ≠ 0) : 1023 * fractionSize ≤ (nearest false n 1).magnitude := by
  have hplace : infinityBits < signPlace := by decide
  have hleading : leadingExponent n 1 = n.log2 := by
    have hone : Nat.log2 1 = 0 := by decide
    have hself : ¬n < 1 * Nat.pow 2 n.log2 := by
      rw [one_mul, not_lt]
      exact Nat.log2_self_le h
    rw [leadingExponent, hone, Nat.cast_zero, sub_zero, if_pos (Int.natCast_nonneg _),
      Int.toNat_natCast, decide_eq_false hself, if_neg nofun]
  rw [nearest, if_neg h, magnitude_ofMagnitude false ((Nat.min_le_left ..).trans_lt hplace),
    hleading, max_eq_left (by omega)]
  refine le_min (by decide) ?_
  have hsignificand : 2 ^ 52 ≤
      (if (0 : Int) ≤ n.log2 - 52 then roundHalfEven n (1 * Nat.pow 2 (n.log2 - 52 : Int).toNat)
        else roundHalfEven (n * Nat.pow 2 (-(n.log2 - 52 : Int)).toNat) 1) := by
    have hself := Nat.log2_self_le h
    split_ifs with he
    · refine le_trans ?_ (le_roundHalfEven ..)
      rw [one_mul]
      refine (Nat.le_div_iff_mul_le (Nat.pow_pos (by decide))).2 (le_trans (le_of_eq ?_) hself)
      rw [← pow_add]
      congr 1
      omega
    · refine le_trans ?_ (le_roundHalfEven ..)
      rw [Nat.div_one]
      refine le_trans (le_of_eq ?_) (Nat.mul_le_mul_right _ hself)
      rw [show Nat.pow 2 _ = 2 ^ (-(n.log2 - 52 : Int)).toNat from rfl, ← pow_add]
      congr 1
      omega
  have hsize : fractionSize = 2 ^ 52 := rfl
  have hplaces : 1022 ≤ ((n.log2 : Int) - 52 + 1074).toNat := by omega
  calc 1023 * fractionSize = 1022 * fractionSize + 2 ^ 52 := by rw [hsize]; ring
    _ ≤ _ := Nat.add_le_add (Nat.mul_le_mul_right _ hplaces) hsignificand

end Double

namespace Json

open Double (fractionSize)

variable {d : Double}

lemma fractionOf_lt {bound : Nat} (h : d.magnitude ≤ (bound + 1024) * fractionSize) :
    (fractionOf d).1 < 2 ^ (bound + 53) := by
  have hfield : d.exponentField ≤ bound + 1024 := by
    rw [Double.exponentField]
    exact Nat.div_le_of_le_mul (h.trans_eq (Nat.mul_comm ..))
  have hexponent : d.exponent.toNat ≤ bound := by
    rw [Double.exponent]
    split_ifs <;> omega
  calc d.significand * 2 ^ d.exponent.toNat
      < 2 ^ 53 * 2 ^ d.exponent.toNat := Nat.mul_lt_mul_of_pos_right d.significand_lt (by positivity)
    _ ≤ 2 ^ 53 * 2 ^ bound := Nat.mul_le_mul_left _ (Nat.pow_le_pow_right two_pos hexponent)
    _ = 2 ^ (bound + 53) := by rw [← pow_add, Nat.add_comm]

lemma fractionOf_pos (d : Double) : 0 < (fractionOf d).2 := Nat.pow_pos (by decide)

/-- A power of ten is at least one. -/
lemma fractionOf_tenTo (k : Nat) : (fractionOf (tenTo k)).2 ≤ (fractionOf (tenTo k)).1 := by
  have hone : 1023 * fractionSize ≤ (tenTo k).magnitude :=
    Double.le_nearest (Nat.pow_pos (by decide)).ne'
  have hfield : 1023 ≤ (tenTo k).exponentField := by
    rw [Double.exponentField, Nat.le_div_iff_mul_le (by decide)]
    exact hone
  have hexponent : (-(tenTo k).exponent).toNat ≤ 52 := by
    rw [Double.exponent]
    split_ifs <;> omega
  have hsignificand : 2 ^ 52 ≤ (tenTo k).significand := by
    rw [Double.significand, if_neg (by omega)]
    exact Nat.le_add_right ..
  calc 2 ^ (-(tenTo k).exponent).toNat
      ≤ 2 ^ 52 := Nat.pow_le_pow_right two_pos hexponent
    _ ≤ (tenTo k).significand := hsignificand
    _ ≤ (tenTo k).significand * 2 ^ (tenTo k).exponent.toNat :=
      Nat.le_mul_of_pos_right _ (by positivity)

/-- **Division by a power of ten does not overflow.** -/
theorem overTenTo_bound {bound : Nat} (h : d.magnitude ≤ (bound + 1024) * fractionSize) (k : Nat) :
    (overTenTo d k).magnitude ≤ (bound + 53 + 1024) * fractionSize := by
  have hpos : 0 < (fractionOf (tenTo k)).1 := (fractionOf_pos _).trans_le (fractionOf_tenTo k)
  refine Double.nearest_bound false ?_
  calc (fractionOf d).1 * (fractionOf (tenTo k)).2
      ≤ (fractionOf d).1 * (fractionOf (tenTo k)).1 := Nat.mul_le_mul_left _ (fractionOf_tenTo k)
    _ < 2 ^ (bound + 53) * (fractionOf (tenTo k)).1 :=
      Nat.mul_lt_mul_of_pos_right (fractionOf_lt h) hpos
    _ ≤ 2 ^ (bound + 53) * ((fractionOf d).2 * (fractionOf (tenTo k)).1) :=
      Nat.mul_le_mul_left _ (Nat.le_mul_of_pos_left _ (fractionOf_pos d))

/-- **A significand of 64 bits stays finite** when it is scaled. -/
theorem isFinite_of_scale {significand : Nat} (h : significand < 2 ^ 64) {exponent : Int}
    (hd : scale significand exponent = some d) : d.isFinite = true := by
  have hnearest : (Double.nearest false significand 1).magnitude ≤ (64 + 1024) * fractionSize :=
    Double.nearest_bound false (by omega)
  rw [scale] at hd
  dsimp only at hd
  split_ifs at hd with hzero hgreat hpositive htimes hfew hsome
  · obtain rfl := Option.some.inj hd
    decide
  · obtain rfl := Option.some.inj hd
    exact htimes
  · obtain rfl := Option.some.inj hd
    exact Double.isFinite_of_magnitude_le (overTenTo_bound hnearest _) (by decide)
  · obtain rfl := Option.some.inj hd
    exact Double.isFinite_of_magnitude_le (overTenTo_bound (overTenTo_bound hnearest _) _)
      (by decide)
  · obtain rfl := Option.some.inj hd
    decide

end Json

end CallSite
