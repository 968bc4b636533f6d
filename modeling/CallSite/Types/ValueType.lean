/-!
# Static types of graph values

The type that the graph records for each of its values, and the element types that typed arrays
and scalar layouts are made of.

* `ValueType` — the static type of a value: one primitive kind, an object, a boxed value of which
  nothing is known, or one of the two internal kinds that are no script value at all.
* `Scalar` — the element type of a typed array.
* `Scalar.atomicResult?` — the type an atomic access on such an element evaluates to.
-/

namespace CallSite

/-! ## Values -/

/-- **The static type of a value.**  `boxed` is a value known only at run time; `elements` is a
pointer to an object's element vector, and `noValue` marks an operation that produces nothing. -/
inductive ValueType where
  | undefined
  | null
  | boolean
  | int32
  | double
  | float32
  | string
  | symbol
  | object
  | boxed
  | elements
  | noValue
  deriving DecidableEq, Repr, Inhabited

namespace ValueType

/-- Every static type, in declaration order. -/
def all : List ValueType :=
  [undefined, null, boolean, int32, double, float32, string, symbol, object, boxed, elements,
    noValue]

/-- The three numeric representations. -/
def isNumber : ValueType → Bool
  | int32 | double | float32 => true
  | _ => false

/-- The two representations that can hold a fraction. -/
def isFloatingPoint : ValueType → Bool
  | double | float32 => true
  | _ => false

/-- The two representations that an index operand may have. -/
def isIntOrDouble : ValueType → Bool
  | int32 | double => true
  | _ => false

/-- The name under which dumps and messages show the type. -/
def name : ValueType → String
  | undefined => "undefined"
  | null => "null"
  | boolean => "bool"
  | int32 => "int32"
  | double => "double"
  | float32 => "float32"
  | string => "string"
  | symbol => "symbol"
  | object => "object"
  | boxed => "value"
  | elements => "elements"
  | noValue => "none"

instance : ToString ValueType := ⟨name⟩

/-- The list has every type. -/
theorem mem_all (t : ValueType) : t ∈ all := by cases t <;> decide

end ValueType

/-! ## Elements -/

/-- **The element type of a typed array** or of a scalar layout. -/
inductive Scalar where
  | int8
  | uint8
  | int16
  | uint16
  | int32
  | uint32
  | float32
  | float64
  | uint8Clamped
  deriving DecidableEq, Repr, Inhabited

namespace Scalar

/-- Every element type, in declaration order. -/
def all : List Scalar :=
  [int8, uint8, int16, uint16, int32, uint32, float32, float64, uint8Clamped]

/-- The bytes that one element occupies. -/
def byteSize : Scalar → Nat
  | int8 | uint8 | uint8Clamped => 1
  | int16 | uint16 => 2
  | int32 | uint32 | float32 => 4
  | float64 => 8

/-- Elements that can hold a fraction. -/
def isFloatingPoint : Scalar → Bool
  | float32 | float64 => true
  | _ => false

/-- The type that an atomic access on such an element evaluates to, if atomics support it.  A
`uint32` element needs a double, since half of its values are no int32. -/
def atomicResult? : Scalar → Option ValueType
  | int8 | uint8 | int16 | uint16 | int32 => some .int32
  | uint32 => some .double
  | float32 | float64 | uint8Clamped => none

/-- The name under which dumps and messages show the element type. -/
def name : Scalar → String
  | int8 => "int8"
  | uint8 => "uint8"
  | int16 => "int16"
  | uint16 => "uint16"
  | int32 => "int32"
  | uint32 => "uint32"
  | float32 => "float32"
  | float64 => "float64"
  | uint8Clamped => "uint8_clamped"

instance : ToString Scalar := ⟨name⟩

/-- The list has every scalar type. -/
theorem mem_all (s : Scalar) : s ∈ all := by cases s <;> decide

end Scalar

end CallSite
