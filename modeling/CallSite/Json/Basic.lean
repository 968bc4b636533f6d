import CallSite.Decimal.Double

/-!
# Document values

A document is a tree of values.  An object keeps its members in the order of the text, repeated
keys included, since a reader of a record has to be able to refuse them.

* `Json` — the values.
* `Json.depth` — how deep a value nests.
* `Json.isReadable` — nothing in the value had to be skipped.
-/

namespace CallSite

/-- **A document value.**  Integers are those of 64 bits, signed or unsigned; any other number is
a double. -/
inductive Json where
  | null
  | bool (value : Bool)
  | int (value : Int)
  | double (value : Double)
  | string (value : String)
  | array (items : List Json)
  | object (members : List (String × Json))
  /-- A value of correct form that cannot be held, such as a number out of range. -/
  | unreadable
  deriving Inhabited

namespace Json

mutual

/-- The number of containers around the innermost value. -/
def depth : Json → Nat
  | array items => depthItems items + 1
  | object members => depthMembers members + 1
  | _ => 0
termination_by structural j => j

/-- The greatest depth among items. -/
def depthItems : List Json → Nat
  | [] => 0
  | j :: js => max j.depth (depthItems js)
termination_by structural js => js

/-- The greatest depth among members. -/
def depthMembers : List (String × Json) → Nat
  | [] => 0
  | m :: ms => max (depthMember m) (depthMembers ms)
termination_by structural ms => ms

/-- The depth of a member's value. -/
def depthMember : String × Json → Nat
  | (_, j) => j.depth
termination_by structural m => m

end

mutual

/-- The value holds nothing unreadable. -/
def isReadable : Json → Bool
  | array items => isReadableItems items
  | object members => isReadableMembers members
  | unreadable => false
  | _ => true
termination_by structural j => j

/-- All items are readable. -/
def isReadableItems : List Json → Bool
  | [] => true
  | j :: js => j.isReadable && isReadableItems js
termination_by structural js => js

/-- All members are readable. -/
def isReadableMembers : List (String × Json) → Bool
  | [] => true
  | m :: ms => isReadableMember m && isReadableMembers ms
termination_by structural ms => ms

/-- The value of a member is readable. -/
def isReadableMember : String × Json → Bool
  | (_, j) => j.isReadable
termination_by structural m => m

end

/-- The value of a member by its key; the last one counts. -/
def member? (key : String) : Json → Option Json
  | object members => (members.reverse.find? (·.1 = key)).map (·.2)
  | _ => none

/-- An optional value, null when absent. -/
def ofOption {α : Type} (f : α → Json) : Option α → Json
  | some a => f a
  | none => null

/-- A list of values. -/
def ofList {α : Type} (f : α → Json) (xs : List α) : Json := array (xs.map f)

end Json

end CallSite
