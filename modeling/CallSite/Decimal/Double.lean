/-!
# Double-precision numbers

A double is its 64-bit encoding, so two doubles are the same constant exactly when their bits are;
the number it stands for is an exact rational, an infinity or no number at all.

* `Double.value` — the number that an encoding stands for.
* `Double.nearest` — the encoding nearest to a fraction, a half going to the even neighbour.
* `Numeric.eq`, `Numeric.le` — comparison of numbers, under which nothing compares with NaN and
  the two zeros are one number.
-/

namespace CallSite

/-! ## Numbers -/

/-- **The number that a numeric constant stands for.**  The sign of a zero is not part of it. -/
inductive Numeric where
  | nan
  | infinite (negative : Bool)
  | finite (value : Rat)
  deriving DecidableEq, Repr, Inhabited

namespace Numeric

/-- Equality of numbers; NaN equals nothing. -/
def eq : Numeric → Numeric → Bool
  | nan, _ | _, nan => false
  | infinite m, infinite n => m = n
  | finite x, finite y => x = y
  | infinite _, finite _ | finite _, infinite _ => false

/-- Order of numbers; NaN is not comparable. -/
def le : Numeric → Numeric → Bool
  | nan, _ | _, nan => false
  | infinite m, infinite n => m || !n
  | infinite m, finite _ => m
  | finite _, infinite n => !n
  | finite x, finite y => x ≤ y

end Numeric

/-! ## Encodings -/

/-- **A double-precision number**, as its encoding. -/
structure Double where
  bits : UInt64
  deriving DecidableEq, Repr, Inhabited

namespace Double

/-- The fraction field has 52 bits. -/
def fractionSize : Nat := Nat.pow 2 52

/-- The encodings of magnitude below this one are finite. -/
def infinityBits : Nat := 2047 * fractionSize

/-- The encodings from here on are negative. -/
def signPlace : Nat := Nat.pow 2 63

def isNegative (d : Double) : Bool := signPlace ≤ d.bits.toNat

/-- The encoding without its sign. -/
def magnitude (d : Double) : Nat := d.bits.toNat % signPlace

def exponentField (d : Double) : Nat := d.magnitude / fractionSize

def fractionField (d : Double) : Nat := d.magnitude % fractionSize

def isFinite (d : Double) : Bool := d.magnitude < infinityBits

def isNaN (d : Double) : Bool := infinityBits < d.magnitude

/-- The integer significand of a finite double. -/
def significand (d : Double) : Nat :=
  if d.exponentField = 0 then d.fractionField else fractionSize + d.fractionField

/-- The power of two that a finite double's significand counts. -/
def exponent (d : Double) : Int :=
  if d.exponentField = 0 then -1074 else d.exponentField - 1075

/-- Two to an integer power. -/
def twoPow (e : Int) : Rat :=
  if 0 ≤ e then (Nat.pow 2 e.toNat : Rat) else mkRat 1 (Nat.pow 2 (-e).toNat)

/-- **The number that an encoding stands for.** -/
def value (d : Double) : Numeric :=
  if d.isNaN then .nan
  else if d.isFinite then
    let m : Rat := d.significand * twoPow d.exponent
    .finite (if d.isNegative then -m else m)
  else .infinite d.isNegative

/-! ## Rounding -/

/-- The encoding of a magnitude under a sign. -/
def ofMagnitude (negative : Bool) (magnitude : Nat) : Double :=
  ⟨UInt64.ofNat (if negative then signPlace + magnitude else magnitude)⟩

/-- The integer nearest to `num / den`, a half going to the even one. -/
def roundHalfEven (num den : Nat) : Nat :=
  let q := num / den
  let r := num % den
  if 2 * r < den then q
  else if den < 2 * r then q + 1
  else if q % 2 = 0 then q else q + 1

/-- The exponent of the leading binary digit of `num / den`. -/
def leadingExponent (num den : Nat) : Int :=
  let k : Int := (num.log2 : Int) - den.log2
  let below : Bool := if 0 ≤ k then num < den * Nat.pow 2 k.toNat else num * Nat.pow 2 (-k).toNat < den
  if below then k - 1 else k

/-- **The double nearest to `num / den`** under the given sign; what is too large becomes an
infinity.  Counting in units of the last place makes the encodings of neighbours neighbours, so a
carry out of the significand needs no case of its own. -/
def nearest (negative : Bool) (num den : Nat) : Double :=
  if num = 0 then ofMagnitude negative 0
  else
    let e := max (leadingExponent num den - 52) (-1074)
    let m := if 0 ≤ e then roundHalfEven num (den * Nat.pow 2 e.toNat)
      else roundHalfEven (num * Nat.pow 2 (-e).toNat) den
    ofMagnitude negative (min infinityBits ((e + 1074).toNat * fractionSize + m))

/-- The double nearest to an integer. -/
def ofInt (n : Int) : Double := nearest (n < 0) n.natAbs 1

def zero : Double := ⟨0⟩
def one : Double := ofInt 1
def nan : Double := ⟨0x7FF8000000000000⟩

def infinity (negative : Bool) : Double := ofMagnitude negative infinityBits

end Double

end CallSite
