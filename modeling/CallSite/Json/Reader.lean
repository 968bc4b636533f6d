import CallSite.Json.Number

/-!
# Reading documents

A text is cut into tokens, and a machine that keeps the open containers builds the value from them.
A value nested too deeply, a number out of range, or a string with half of a surrogate pair has the
right form but cannot be held; it stands in the tree as `Json.unreadable`, so that a record which
does not ask for it can still be read.

* `Json.tokens?` — the tokens of a text.
* `Json.parse?` — the value of a text; nothing may follow it but blanks.
-/

namespace CallSite.Json

/-! ## Strings -/

/-- A piece of a string: a character, or a code unit written by its number. -/
inductive Piece where
  | char (c : Char)
  | unit (n : Nat)
  deriving DecidableEq, Repr

/-- The value of a hexadecimal digit. -/
def hexDigit? (c : Char) : Option Nat :=
  if c.isDigit then some (c.toNat - '0'.toNat)
  else if 'a' ≤ c ∧ c ≤ 'f' then some (c.toNat - 'a'.toNat + 10)
  else if 'A' ≤ c ∧ c ≤ 'F' then some (c.toNat - 'A'.toNat + 10)
  else none

/-- The value of four hexadecimal digits. -/
def hexUnit? (a b c d : Char) : Option Nat := do
  let a ← hexDigit? a
  let b ← hexDigit? b
  let c ← hexDigit? c
  let d ← hexDigit? d
  return ((a * 16 + b) * 16 + c) * 16 + d

/-- The character that a letter after a backslash stands for. -/
def escape? : Char → Option Char
  | '"' => some '"'
  | '\\' => some '\\'
  | '/' => some '/'
  | 'b' => some '\x08'
  | 'f' => some '\x0c'
  | 'n' => some '\n'
  | 'r' => some '\r'
  | 't' => some '\t'
  | _ => none

/-- The pieces of a string up to its closing quote, after pieces in reverse, and what follows the
quote. -/
def pieces? (acc : List Piece) : List Char → Option (List Piece × List Char)
  | [] => none
  | '"' :: rest => some (acc.reverse, rest)
  | '\\' :: 'u' :: a :: b :: c :: d :: rest =>
    match hexUnit? a b c d with
    | some n => pieces? (.unit n :: acc) rest
    | none => none
  | '\\' :: e :: rest =>
    match escape? e with
    | some c => pieces? (.char c :: acc) rest
    | none => none
  | c :: rest => if c < ' ' then none else pieces? (.char c :: acc) rest

/-- What follows a string is shorter than the text it starts in. -/
theorem length_of_pieces? {acc : List Piece} {cs : List Char} {ps rest}
    (h : pieces? acc cs = some (ps, rest)) : rest.length < cs.length := by
  fun_induction pieces? acc cs with
  | case1 => simp at h
  | case2 => simp_all
  | case3 _ _ _ _ _ _ _ _ ih => have := ih h; simp only [List.length_cons]; omega
  | case4 => simp at h
  | case5 _ _ _ _ _ _ ih => have := ih h; have := ih h; simp only [List.length_cons]; omega
  | case6 => simp at h
  | case7 => simp at h
  | case8 _ _ _ _ _ _ _ ih => have := ih h; simp only [List.length_cons]; omega

/-- The character of a surrogate pair. -/
def pairChar (high low : Nat) : Char :=
  Char.ofNat (0x10000 + (high - 0xD800) * 0x400 + (low - 0xDC00))

/-- The characters that pieces stand for, unless half of a surrogate pair stands alone. -/
def join? : List Piece → Option (List Char)
  | [] => some []
  | .char c :: rest => (join? rest).map (c :: ·)
  | .unit n :: rest =>
    if n < 0xD800 ∨ 0xE000 ≤ n then (join? rest).map (Char.ofNat n :: ·)
    else
      match rest with
      | .unit m :: rest =>
        if n < 0xDC00 ∧ 0xDC00 ≤ m ∧ m < 0xE000 then (join? rest).map (pairChar n m :: ·)
        else none
      | _ => none

/-! ## Tokens -/

/-- **A token**; a string without a value holds half of a surrogate pair. -/
inductive Token where
  | openObject
  | closeObject
  | openArray
  | closeArray
  | comma
  | colon
  | string (s : Option String)
  | scalar (j : Json)

def isBlank (c : Char) : Bool := c = ' ' || c = '\t' || c = '\n' || c = '\r'

/-- The characters that numbers and words consist of. -/
def isWordChar (c : Char) : Bool := c.isAlphanum || c = '+' || c = '-' || c = '.'

/-- The value of a word. -/
def word? (cs : List Char) : Option Json :=
  if cs = "null".toList then some null
  else if cs = "true".toList then some (bool true)
  else if cs = "false".toList then some (bool false)
  else number? cs

/-- The tokens of the rest of a text, after some tokens in reverse. -/
def tokens? (acc : List Token) (cs : List Char) : Option (List Token) :=
  match cs with
  | [] => some acc.reverse
  | c :: rest =>
    if isBlank c then tokens? acc rest
    else if c = '\x7b' then tokens? (.openObject :: acc) rest
    else if c = '\x7d' then tokens? (.closeObject :: acc) rest
    else if c = '[' then tokens? (.openArray :: acc) rest
    else if c = ']' then tokens? (.closeArray :: acc) rest
    else if c = ',' then tokens? (.comma :: acc) rest
    else if c = ':' then tokens? (.colon :: acc) rest
    else if c = '"' then
      match h : pieces? [] rest with
      | some (ps, after) =>
        have := length_of_pieces? h
        tokens? (.string ((join? ps).map String.ofList) :: acc) after
      | none => none
    else
      have : (rest.dropWhile isWordChar).length ≤ rest.length :=
        (List.dropWhile_sublist _).length_le
      match word? (c :: rest.takeWhile isWordChar) with
      | some j => tokens? (.scalar j :: acc) (rest.dropWhile isWordChar)
      | none => none
termination_by cs.length
decreasing_by all_goals simp only [List.length_cons]; omega

/-! ## Values -/

/-- Containers nested deeper than this are not held. -/
def depthLimit : Nat := 127

/-- An open container with what it holds so far, in reverse. -/
inductive Container where
  | array (items : List Json)
  /-- `key` is the key whose value is being read; `readable` tells whether all keys can be held. -/
  | object (members : List (String × Json)) (key : String) (readable : Bool)

/-- What may come next. -/
inductive Expectation where
  | value
  | valueOrClose
  | keyOrClose
  | key
  | colon
  | separator
  deriving DecidableEq, Repr

/-- The state of the machine: the open containers, innermost first, and what may come next.  Once
the outermost value is complete, it is `result`. -/
structure Machine where
  containers : List Container := []
  expected : Expectation := .value
  result : Option Json := none

namespace Machine

/-- A value is complete. -/
def complete (m : Machine) (j : Json) : Machine :=
  let m := { m with expected := .separator }
  match m.containers with
  | [] => { m with result := some j }
  | .array items :: containers => { m with containers := .array (j :: items) :: containers }
  | .object members key readable :: containers =>
    { m with containers := .object ((key, j) :: members) key readable :: containers }

/-- A container opens. -/
def enter (m : Machine) (f : Container) (e : Expectation) : Machine :=
  { m with containers := f :: m.containers, expected := e }

/-- The value of a container that closes with `outer` containers around it. -/
def closed (outer : Nat) : Container → Json
  | .array items => if outer < depthLimit then .array items.reverse else .unreadable
  | .object members _ readable =>
    if outer < depthLimit ∧ readable then .object members.reverse else .unreadable

/-- The innermost container closes. -/
def leave (m : Machine) (f : Container) (containers : List Container) : Machine :=
  { m with containers }.complete (closed containers.length f)

/-- A key is complete. -/
def startMember (m : Machine) (key : Option String) : Option Machine :=
  match m.containers with
  | .object members _ readable :: containers =>
    some { m with
      containers := .object members (key.getD "") (readable && key.isSome) :: containers
      expected := .colon }
  | _ => none

/-- **Takes one token.** -/
def step (m : Machine) (t : Token) : Option Machine :=
  match m.expected, t, m.containers with
  | .value, .openObject, _ | .valueOrClose, .openObject, _ =>
    some (m.enter (.object [] "" true) .keyOrClose)
  | .value, .openArray, _ | .valueOrClose, .openArray, _ =>
    some (m.enter (.array []) .valueOrClose)
  | .value, .scalar j, _ | .valueOrClose, .scalar j, _ => some (m.complete j)
  | .value, .string s, _ | .valueOrClose, .string s, _ =>
    some (m.complete (s.elim .unreadable .string))
  | .valueOrClose, .closeArray, f :: containers => some (m.leave f containers)
  | .keyOrClose, .closeObject, f :: containers => some (m.leave f containers)
  | .keyOrClose, .string key, _ | .key, .string key, _ => m.startMember key
  | .colon, .colon, _ => some { m with expected := .value }
  | .separator, .comma, .array _ :: _ => some { m with expected := .value }
  | .separator, .comma, .object .. :: _ => some { m with expected := .key }
  | .separator, .closeArray, .array items :: containers => some (m.leave (.array items) containers)
  | .separator, .closeObject, .object members key readable :: containers =>
    some (m.leave (.object members key readable) containers)
  | _, _, _ => none

/-- Takes all tokens. -/
def run (m : Machine) : List Token → Option Machine
  | [] => some m
  | t :: ts => (m.step t).bind fun m => m.run ts

end Machine

/-- **The value of a text.** -/
def parse? (text : String) : Option Json := do
  let ts ← tokens? [] text.toList
  let m ← ({} : Machine).run ts
  m.result

end CallSite.Json
