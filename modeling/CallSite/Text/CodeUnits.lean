/-!
# UTF-16 code units

Scripts index a string by its UTF-16 code units: a character of the basic plane is one unit, any
other is a pair of surrogates.

* `Text.codeUnits` — the units of a text.
* `Text.codeUnit?` — the unit at an index, found without writing down the others.
-/

namespace CallSite.Text

/-- The UTF-16 code units of one character. -/
def charUnits (c : Char) : List UInt16 :=
  let n := c.toNat
  if n < 0x10000 then [UInt16.ofNat n]
  else
    let m := n - 0x10000
    [UInt16.ofNat (0xD800 + m / 0x400), UInt16.ofNat (0xDC00 + m % 0x400)]

/-- **The UTF-16 code units of a text.** -/
def codeUnits (cs : List Char) : List UInt16 := cs.flatMap charUnits

/-- The code unit at an index. -/
def codeUnit? : List Char → Nat → Option UInt16
  | [], _ => none
  | c :: cs, i =>
    let units := charUnits c
    if i < units.length then units[i]? else codeUnit? cs (i - units.length)

/-- A unit that is half of a pair. -/
def isSurrogate (u : UInt16) : Bool := 0xD800 ≤ u && u ≤ 0xDFFF

/-- The index counts code units. -/
theorem codeUnit?_eq_getElem? (cs : List Char) (i : Nat) : codeUnit? cs i = (codeUnits cs)[i]? := by
  induction cs generalizing i with
  | nil => simp [codeUnit?, codeUnits]
  | cons c cs ih =>
    rw [codeUnit?, codeUnits, List.flatMap_cons, List.getElem?_append]
    split
    · rfl
    · exact ih _

end CallSite.Text
