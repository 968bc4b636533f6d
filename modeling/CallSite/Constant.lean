import CallSite.Decimal.Shortest
import CallSite.Text.Quoted
import CallSite.Types.TypeSet

/-!
# Values known while compiling

* `ObjectRef` — a particular heap object.
* `Constant` — a value known while compiling.
* `Constant.number?` — the number that a numeric constant stands for.
-/

namespace CallSite

/-! ## Objects -/

/-- The identity of a heap object. -/
structure ObjectId where
  index : UInt64
  deriving DecidableEq, Repr, Inhabited

instance : ToString ObjectId := ⟨fun o => s!"#{o.index}"⟩

/-- A reference to a particular heap object. -/
structure ObjectRef where
  id : ObjectId
  objectClass : ObjectClass
  typeObject : Option TypeObjectId := none
  deriving DecidableEq, Repr, Inhabited

/-! ## Constants -/

/-- **A value known while compiling.**  Doubles are told apart by their encodings. -/
inductive Constant where
  | undefined
  | null
  | boolean (value : Bool)
  | int32 (value : Int32)
  | double (value : Double)
  | string (value : String)
  | object (value : ObjectRef)
  deriving DecidableEq, Inhabited

namespace Constant

/-- The static type of the value. -/
def valueType : Constant → ValueType
  | undefined => .undefined
  | null => .null
  | boolean _ => .boolean
  | int32 _ => .int32
  | double _ => .double
  | string _ => .string
  | object _ => .object

/-- The double that a numeric constant converts to without loss. -/
def double? : Constant → Option Double
  | int32 n => some (Double.ofInt n.toInt)
  | double d => some d
  | _ => none

/-- The number that a numeric constant stands for, in either representation. -/
def number? : Constant → Option Numeric
  | int32 n => some (.finite n.toInt)
  | double d => some d.value
  | _ => none

def int32? : Constant → Option Int32
  | int32 n => some n
  | _ => none

def boolean? : Constant → Option Bool
  | boolean b => some b
  | _ => none

def string? : Constant → Option String
  | string s => some s
  | _ => none

def object? : Constant → Option ObjectRef
  | object o => some o
  | _ => none

/-- Equality as a program sees it: doubles compare as numbers, so that NaN differs from itself. -/
def sameValue : Constant → Constant → Bool
  | double d, double e => d.value.eq e.value
  | c, d => c = d

/-- The text of a constant in a dump. -/
def text : Constant → String
  | undefined => "undefined"
  | null => "null"
  | boolean b => if b then "true" else "false"
  | int32 n => toString n.toInt
  | double d => d.text
  | string s => Text.quote s
  | object o => s!"{o.objectClass}{o.id}"

instance : ToString Constant := ⟨text⟩

end Constant

end CallSite
