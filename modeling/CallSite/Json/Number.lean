import CallSite.Json.Basic

/-!
# Reading numbers

The form of a number is an optional minus sign, an integer without superfluous zeros, optional
fraction digits and an optional exponent.  An integer of 64 bits is read as such.  For all other
numbers the leading digits are gathered into a 64-bit significand as long as they fit, and the
significand, taken as a double, is scaled by the power of ten that is left.

* `Json.number?` — the value of a number's text; one too large to hold is unreadable.
-/

namespace CallSite.Json

/-! ## The form -/

/-- The parts of a number's text. -/
structure NumberText where
  negative : Bool
  integer : List Nat
  fraction : List Nat
  exponent : Option Int
  deriving DecidableEq, Repr

/-- The value of a decimal digit. -/
def digit? (c : Char) : Option Nat := if c.isDigit then some (c.toNat - '0'.toNat) else none

/-- A row of digits and what follows it. -/
def digits (cs : List Char) : List Nat × List Char :=
  ((cs.takeWhile Char.isDigit).filterMap digit?, cs.dropWhile Char.isDigit)

/-- The value of a row of digits. -/
def digitsValue (ds : List Nat) : Nat := ds.foldl (fun n d => 10 * n + d) 0

/-- The exponent after its letter: a sign and at least one digit, up to the end. -/
def exponent? (cs : List Char) : Option Int :=
  let (negative, cs) := match cs with
    | '-' :: rest => (true, rest)
    | '+' :: rest => (false, rest)
    | _ => (false, cs)
  let (ds, rest) := digits cs
  if ds.isEmpty || !rest.isEmpty then none
  else some (if negative then -(digitsValue ds : Int) else digitsValue ds)

/-- What follows the integer and fraction digits. -/
def tail? (negative : Bool) (integer fraction : List Nat) : List Char → Option NumberText
  | [] => some ⟨negative, integer, fraction, none⟩
  | c :: cs =>
    if c = 'e' ∨ c = 'E' then (exponent? cs).map fun e => ⟨negative, integer, fraction, some e⟩
    else none

/-- The parts of a text that has the form of a number. -/
def numberText? (cs : List Char) : Option NumberText :=
  let (negative, cs) := match cs with
    | '-' :: rest => (true, rest)
    | _ => (false, cs)
  let (integer, rest) := digits cs
  if integer.isEmpty || (integer.head? = some 0 && 1 < integer.length) then none
  else
    match rest with
    | '.' :: cs =>
      let (fraction, rest) := digits cs
      if fraction.isEmpty then none else tail? negative integer fraction rest
    | _ => tail? negative integer [] rest

/-! ## The value -/

/-- The greatest significand. -/
def significandLimit : Nat := Nat.pow 2 64 - 1

/-- Gathers integer digits; those that do not fit count as powers of ten. -/
def gatherInteger (significand : Nat) (exponent : Int) : List Nat → Nat × Int
  | [] => (significand, exponent)
  | d :: ds =>
    if 10 * significand + d ≤ significandLimit then
      gatherInteger (10 * significand + d) exponent ds
    else (significand, exponent + (d :: ds).length)

/-- Gathers fraction digits; those that do not fit are dropped. -/
def gatherFraction (significand : Nat) (exponent : Int) : List Nat → Nat × Int
  | [] => (significand, exponent)
  | d :: ds =>
    if 10 * significand + d ≤ significandLimit then
      gatherFraction (10 * significand + d) (exponent - 1) ds
    else (significand, exponent)

/-- Numerator and denominator of the magnitude of a finite double. -/
def fractionOf (d : Double) : Nat × Nat :=
  (d.significand * Nat.pow 2 d.exponent.toNat, Nat.pow 2 (-d.exponent).toNat)

/-- The double nearest to a power of ten. -/
def tenTo (k : Nat) : Double := .nearest false (Nat.pow 10 k) 1

/-- The rounded product of a double with a power of ten. -/
def timesTenTo (d : Double) (k : Nat) : Double :=
  let (n, m) := fractionOf d
  let (p, q) := fractionOf (tenTo k)
  .nearest false (n * p) (m * q)

/-- The rounded quotient of a double by a power of ten. -/
def overTenTo (d : Double) (k : Nat) : Double :=
  let (n, m) := fractionOf d
  let (p, q) := fractionOf (tenTo k)
  .nearest false (n * q) (m * p)

/-- The greatest power of ten that is a double. -/
def greatestTen : Nat := 308

/-- The magnitude of a significand scaled by a power of ten, if it is no infinity.  Below the
least power the scaling takes several rounds, each rounded; three suffice to reach zero. -/
def scale (significand : Nat) (exponent : Int) : Option Double :=
  let d := Double.nearest false significand 1
  if significand = 0 then some .zero
  else if (greatestTen : Int) < exponent then none
  else if 0 ≤ exponent then
    let d := timesTenTo d exponent.toNat
    if d.isFinite then some d else none
  else
    let k := (-exponent).toNat
    if k ≤ greatestTen then some (overTenTo d k)
    else
      let d := overTenTo d greatestTen
      if k ≤ 2 * greatestTen then some (overTenTo d (k - greatestTen)) else some .zero

/-- The double of a number's parts; one that would be infinite is unreadable. -/
def doubleOf (t : NumberText) : Json :=
  let (significand, e) := gatherInteger 0 0 t.integer
  let (significand, e) := gatherFraction significand e t.fraction
  match scale significand (e + t.exponent.getD 0) with
  | some d => double (.ofMagnitude t.negative d.magnitude)
  | none => unreadable

/-- **The value of a number's text.**  A negative zero is a double, since no integer has that
sign. -/
def number? (cs : List Char) : Option Json := do
  let t ← numberText? cs
  let n := digitsValue t.integer
  if t.fraction.isEmpty && t.exponent.isNone then
    if !t.negative && n ≤ significandLimit then return int n
    if t.negative && n ≠ 0 && n ≤ Nat.pow 2 63 then return int (-n)
  return doubleOf t

end CallSite.Json
