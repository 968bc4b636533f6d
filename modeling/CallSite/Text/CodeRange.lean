/-!
# Ranges of code points

Character properties are kept as ascending lists of ranges, both ends included.
-/

namespace CallSite.Text

/-- The first and the last code point of a range. -/
abbrev CodeRange := Nat × Nat

/-- The code point lies in one of the ranges. -/
def inRanges (ranges : List CodeRange) (c : Char) : Bool :=
  ranges.any fun r => r.1 ≤ c.toNat && c.toNat ≤ r.2

/-- Each range starts after the end of the one before it. -/
def Ascending : List CodeRange → Bool
  | [] => true
  | [r] => r.1 ≤ r.2
  | r :: s :: rest => r.1 ≤ r.2 && r.2 < s.1 && Ascending (s :: rest)

end CallSite.Text
