import CallSite.Json.Basic

/-!
# Decoding documents

A decoder turns a document value into a value of another type, or refuses it; what is wrong with a
refused document is not told.

* `Decoder` — decoders, with those for numbers, words, lists and optional values.
* `Fields` — the fields of a record.  A record is written as an object, in which a field may not be
  repeated and other members are ignored, or as an array of its leading fields.
* `Variant`, `Decoder.choice` — a choice, written as the name of a variant alone or as an object
  whose single member has that name.
-/

namespace CallSite

/-- **A decoder** of values of type `α`. -/
abbrev Decoder (α : Type) : Type := Json → Option α

namespace Decoder

variable {α β : Type}

/-! ## Simple values -/

def bool : Decoder Bool
  | .bool b => some b
  | _ => none

def string : Decoder String
  | .string s => some s
  | _ => none

/-- An integer with `lo ≤ n < hi`; a double is none, even if it is a whole number. -/
def intIn (lo hi : Int) : Decoder Int
  | .int n => if lo ≤ n ∧ n < hi then some n else none
  | _ => none

/-- A natural number below a bound. -/
def natBelow (bound : Nat) : Decoder Nat := fun j => (intIn 0 bound j).map Int.toNat

def uint16 : Decoder UInt16 := fun j => (natBelow (Nat.pow 2 16) j).map UInt16.ofNat

def uint32 : Decoder UInt32 := fun j => (natBelow (Nat.pow 2 32) j).map UInt32.ofNat

def uint64 : Decoder UInt64 := fun j => (natBelow (Nat.pow 2 64) j).map UInt64.ofNat

def int32 : Decoder Int32 := fun j => (intIn (-Int.pow 2 31) (Int.pow 2 31) j).map Int32.ofInt

/-- A double, which may be written as an integer and is then rounded. -/
def double : Decoder Double
  | .double d => some d
  | .int n => some (.ofInt n)
  | _ => none

/-- A value that may be null. -/
def option (d : Decoder α) : Decoder (Option α)
  | .null => some none
  | j => (d j).map some

/-- A list of values. -/
def list (d : Decoder α) : Decoder (List α)
  | .array items => items.mapM d
  | _ => none

/-- The values of a decoder, changed by a function. -/
def map (f : α → β) (d : Decoder α) : Decoder β := fun j => (d j).map f

/-- A value that the first of two decoders accepts, or else the second. -/
def orElse (d e : Decoder α) : Decoder α := fun j => (d j).or (e j)

end Decoder

/-! ## Records -/

/-- **The fields of a record** that are there, by name. -/
abbrev Fields : Type := List (String × Json)

namespace Fields

variable {α : Type}

/-- A field that has to be there. -/
def required (fs : Fields) (name : String) (d : Decoder α) : Option α :=
  (fs.lookup name).bind d

/-- A field with a value to take when it is absent. -/
def withDefault (fs : Fields) (name : String) (d : Decoder α) (value : α) : Option α :=
  match fs.lookup name with
  | some j => d j
  | none => some value

/-- A field that may be absent or null. -/
def optional (fs : Fields) (name : String) (d : Decoder α) : Option (Option α) :=
  fs.withDefault name d.option none

end Fields

/-- The members of an object that are among `names`, none of them repeated. -/
def Json.members? (names : List String) : Json → Option Fields
  | .object members =>
    let known := members.filter (·.1 ∈ names)
    if (known.map (·.1)).Nodup then some known else none
  | _ => none

/-- **The fields of a record**, given the names of all of them in order. -/
def Json.fields? (names : List String) : Json → Option Fields
  | .array items => if items.length ≤ names.length then some (names.zip items) else none
  | j => j.members? names

/-- A record with the given names of fields. -/
def Decoder.record {α : Type} (names : List String) (d : Fields → Option α) : Decoder α :=
  fun j => (j.fields? names).bind d

/-! ## Choices -/

/-- A choice written down: the name of the variant and what comes with it. -/
def Json.choice? : Json → Option (String × Option Json)
  | .string name => some (name, none)
  | .object [(name, payload)] => some (name, some payload)
  | _ => none

/-- **A variant** of values of type `α`: its name and how what comes with it is decoded. -/
abbrev Variant (α : Type) : Type := String × (Option Json → Option α)

namespace Variant

variable {α β : Type}

/-- A variant without data; null may come with it. -/
def bare (name : String) (a : α) : Variant α :=
  (name, fun
    | none | some .null => some a
    | some _ => none)

/-- A variant with data. -/
def data (name : String) (f : β → α) (d : Decoder β) : Variant α :=
  (name, fun payload => (payload.bind d).map f)

end Variant

namespace Decoder

variable {α : Type}

/-- A choice between variants. -/
def choice (variants : List (Variant α)) : Decoder α := fun j => do
  let (name, payload) ← j.choice?
  let read ← variants.lookup name
  read payload

/-- A choice between values that are known by their keys. -/
def word (all : List α) (key : α → String) : Decoder α :=
  choice (all.map fun a => .bare (key a) a)

end Decoder

end CallSite
