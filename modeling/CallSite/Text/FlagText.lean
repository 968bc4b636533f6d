import CallSite.Text.Blank

/-!
# Flag sets as text

A set of named bits is written as the names of its bits joined by bars, in the order in which the
names are declared; bits without a name follow as one hexadecimal number.  Reading accepts the
names in any order and any number of hexadecimal parts, with blanks around each.

* `FlagText.render` — the text of a set.
* `FlagText.parse?` — the set of a text; an unknown name, an empty part or a number that does not
  fit the width is refused.
-/

namespace CallSite.FlagText

variable {w : Nat}

/-- The declared names, each with the position of its bit. -/
abbrev Names := List (String × Nat)

/-- The bits that have a name. -/
def Names.mask (w : Nat) (names : Names) : BitVec w :=
  names.foldr (fun n m => BitVec.twoPow w n.2 ||| m) 0

/-! ## Writing -/

/-- The parts of the text of `bits`: the names of its bits, then what has no name. -/
def parts (names : Names) (bits : BitVec w) : List String :=
  let unnamed := bits &&& ~~~ names.mask w
  (names.filter fun n => bits.getLsbD n.2).map (·.1) ++
    if unnamed = 0 then [] else ["0x" ++ String.ofList (Nat.toDigits 16 unnamed.toNat)]

/-- The text of a flag set; the empty set has the empty text. -/
def render (names : Names) (bits : BitVec w) : String :=
  String.intercalate " | " (parts names bits)

/-- The text of a flag set under the name of its type; here the empty set shows as zero. -/
def renderTyped (typeName : String) (names : Names) (bits : BitVec w) : String :=
  typeName ++ "(" ++ (if bits = 0 then "0x0" else render names bits) ++ ")"

/-! ## Reading -/

/-- The parts between bars; there is always at least one. -/
def splitBars : List Char → List (List Char)
  | [] => [[]]
  | c :: cs =>
    if c = '|' then [] :: splitBars cs
    else match splitBars cs with
      | [] => [[c]]
      | p :: ps => (c :: p) :: ps

/-- The value of a hexadecimal digit of either case. -/
def hexDigit? (c : Char) : Option Nat :=
  if '0' ≤ c ∧ c ≤ '9' then some (c.toNat - '0'.toNat)
  else if 'a' ≤ c ∧ c ≤ 'f' then some (c.toNat - 'a'.toNat + 10)
  else if 'A' ≤ c ∧ c ≤ 'F' then some (c.toNat - 'A'.toNat + 10)
  else none

/-- The value of a row of hexadecimal digits that follow the value `acc`. -/
def hexValue? (acc : Nat) : List Char → Option Nat
  | [] => some acc
  | c :: cs => (hexDigit? c).bind fun d => hexValue? (16 * acc + d) cs

/-- The bits of a hexadecimal number, which may carry a plus sign and has to fit the width. -/
def hexBits? (w : Nat) (digits : List Char) : Option (BitVec w) := do
  let digits := match digits with
    | '+' :: rest => rest
    | _ => digits
  if digits.isEmpty then none
  let n ← hexValue? 0 digits
  if n < Nat.pow 2 w then some (BitVec.ofNat w n) else none

/-- The bits of one part: a number after `0x`, else a declared name. -/
def part? (names : Names) (w : Nat) (part : List Char) : Option (BitVec w) :=
  match part with
  | '0' :: 'x' :: digits => hexBits? w digits
  | _ => (names.find? fun n => n.1.toList == part).map fun n => BitVec.twoPow w n.2

/-- The flag set that a text denotes; a blank text denotes the empty set. -/
def parse? (names : Names) (w : Nat) (text : String) : Option (BitVec w) :=
  if (Text.trimBlank text.toList).isEmpty then some 0
  else (splitBars text.toList).foldl
    (fun acc part => acc.bind fun bits => (part? names w (Text.trimBlank part)).map (bits ||| ·))
    (some 0)

/-- Nothing is lost between bars: there are as many cuts as bars. -/
theorem length_splitBars (cs : List Char) :
    (splitBars cs).length = cs.count '|' + 1 := by
  induction cs with
  | nil => rfl
  | cons c cs ih =>
    by_cases h : c = '|'
    · subst h; simp [splitBars, ih]
    · cases hs : splitBars cs with
      | nil => simp [hs] at ih
      | cons p ps => simp_all [splitBars]

end CallSite.FlagText
