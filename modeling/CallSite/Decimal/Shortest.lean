import CallSite.Decimal.Double

/-!
# The shortest decimal of a double

Of all decimals that read back as a given double, the ones with fewest digits are candidates, and
of these the one nearest to the double is its text.

* `Decimal.shortest` — that decimal, found by trying the grids of 1, 2, … 17 digits in turn: if a
  point of a grid reads back, so does one of the double's two neighbours on the grid.
* `Decimal.Layout` — how digits and exponent become text.
* `Double.text` — the text of a double in dumps and in documents.
-/

namespace CallSite

/-- The decimal `digits * 10 ^ exponent`. -/
structure Decimal where
  digits : Nat
  exponent : Int
  deriving DecidableEq, Repr, Inhabited

namespace Decimal

/-! ## The digits -/

/-- A positive number with the limits between which every decimal reads back as it, all three as
numerators over one denominator. -/
structure Interval where
  low : Nat
  value : Nat
  high : Nat
  den : Nat
  /-- The limits themselves read back. -/
  closed : Bool

/-- The interval of a finite double of significand `m` and exponent `q`.  Below a power of two the
neighbour is half as far away as above. -/
def Interval.of (m : Nat) (q : Int) (powerOfTwo : Bool) : Interval :=
  let e := q - 2
  let scale := Nat.pow 2 e.toNat
  { low := (4 * m - if powerOfTwo then 1 else 2) * scale
    value := 4 * m * scale
    high := (4 * m + 2) * scale
    den := Nat.pow 2 (-e).toNat
    closed := m % 2 = 0 }

/-- The least `k` for which `num / den < 10 ^ k`. -/
def magnitude (num den : Nat) : Int :=
  if den ≤ num then (Nat.toDigits 10 (num / den)).length
  else
    let j := (Nat.toDigits 10 (den / num)).length - 1
    if num * Nat.pow 10 j < den then -(j : Int) else 1 - j

/-- The two neighbours of the number on the grid of step `10 ^ t` that read back, nearest first;
of two equally near ones the upper is first. -/
def Interval.gridPoint? (i : Interval) (t : Int) : Option Nat :=
  let up := Nat.pow 10 t.toNat
  let down := Nat.pow 10 (-t).toNat
  -- a point `c` of the grid is the fraction `c * step / (down * den)`
  let step := up * i.den
  let value := i.value * down
  let c := value / step
  let within (c : Nat) : Bool :=
    if i.closed then i.low * down ≤ c * step && c * step ≤ i.high * down
    else i.low * down < c * step && c * step < i.high * down
  let lower := value - c * step
  let upper := (c + 1) * step - value
  match within c, within (c + 1) with
  | true, true => some (if lower < upper then c else c + 1)
  | true, false => some c
  | false, true => some (c + 1)
  | false, false => none

/-- Trailing zeros go into the exponent; `fuel` bounds their number. -/
def strip : (fuel : Nat) → Nat → Int → Decimal
  | 0, c, t => ⟨c, t⟩
  | fuel + 1, c, t => if c ≠ 0 ∧ c % 10 = 0 then strip fuel (c / 10) (t + 1) else ⟨c, t⟩

/-- The first grid with a point that reads back, from `n` digits on. -/
def search (i : Interval) (k : Int) : (remaining n : Nat) → Decimal
  | 0, n => strip 20 (i.value * Nat.pow 10 (n - k).toNat / (i.den * Nat.pow 10 (k - n).toNat)) (k - n)
  | remaining + 1, n =>
    match i.gridPoint? (k - n) with
    | some c => strip 20 c (k - n)
    | none => search i k remaining (n + 1)

/-- **The shortest decimal** of a finite double other than zero, without its sign. -/
def shortest (d : Double) : Decimal :=
  let i := Interval.of d.significand d.exponent
    (d.fractionField = 0 && d.exponentField ≠ 0)
  search i (magnitude i.value i.den) 17 1

/-! ## The text -/

/-- The decisions that turn digits and exponent into text. -/
structure Layout where
  /-- Numbers whose leading digit has its place in this range are written positionally. -/
  leastPlace : Int
  greatestPlace : Int

/-- The text of a decimal: positional with at least one digit on either side of the point, else
one digit before the point and an exponent. -/
def Layout.text (l : Layout) (d : Decimal) : String :=
  let digits := Nat.toDigits 10 d.digits
  let n := digits.length
  -- the power of ten of the leading digit
  let place := d.exponent + n - 1
  if l.leastPlace ≤ place ∧ place ≤ l.greatestPlace then
    if 0 ≤ d.exponent then
      String.ofList (digits ++ List.replicate d.exponent.toNat '0') ++ ".0"
    else if 0 ≤ place then
      String.ofList (digits.take (place.toNat + 1)) ++ "." ++
        String.ofList (digits.drop (place.toNat + 1))
    else
      "0." ++ String.ofList (List.replicate (-place - 1).toNat '0' ++ digits)
  else
    let tail := digits.drop 1
    String.ofList (digits.take 1) ++ (if tail.isEmpty then "" else "." ++ String.ofList tail) ++
      "e" ++ toString place

/-- Dumps and documents write numbers from a ten-thousandth up to ten to the sixteenth
positionally. -/
def dumpLayout : Layout := ⟨-4, 15⟩

end Decimal

/-- **The text of a double**: the shortest decimal that reads back, with a point or an exponent
so that it never looks like an integer. -/
def Double.text (d : Double) : String :=
  if d.isNaN then "NaN"
  else
    let sign := if d.isNegative then "-" else ""
    if !d.isFinite then sign ++ "inf"
    else if d.magnitude = 0 then sign ++ "0.0"
    else sign ++ Decimal.dumpLayout.text (Decimal.shortest d)

end CallSite
