import CallSite.Specialize.Signature

/-!
# Arithmetic natives

Calls of the math functions become one node each, or a short chain of nodes, over their arguments.
None of them relies on a fact that could change.

* `Arithmetic.rounding` — floor, ceil and round, by the types of operand and result.
* `Arithmetic.power` — powers with a small constant exponent become products and roots.
* `Arithmetic.minMax` — a chain over the arguments; where the result was always an int32, constant
  bounds outside the int32 range are dropped.
-/

namespace CallSite.Arithmetic

open Draft (add constant push result)

/-! ## One node per call -/

/-- A routine that is called out of line. -/
def mathFunction (f : MathFunction) (s : Site) : Decide Plan := do
  s.classify { arity := .exactly 1, args := [.number], result := .number }
  let x ← s.arg 0
  return .of (result (.mathFunction f) [x] .double)

/-- The absolute value, in the type of the operand; the observed result may be that type, an int32
that a fraction was rounded to, or the double that a float32 widens to. -/
def abs (s : Site) : Decide Plan := do
  s.classify { arity := .exactly 1, args := [.number] }
  let x ← s.arg 0
  let fits := x.ty = s.returnType ||
    (x.ty.isFloatingPoint && s.returnType = .int32) ||
    (x.ty = .float32 && s.returnType = .double)
  if !fits then Decide.decline (.returnType s.returnType)
  return .of (result .abs [x] (if x.ty = .float32 then .double else x.ty))

/-- The directions in which a number is rounded to an integer. -/
inductive Rounding where
  | floor
  | ceil
  | round
  deriving DecidableEq, Repr, Inhabited

namespace Rounding

def name : Rounding → String
  | floor => "Floor"
  | ceil => "Ceil"
  | round => "Round"

/-- The operation whose result is an int32. -/
def toInt32Op : Rounding → Op
  | floor => .floor
  | ceil => .ceil
  | round => .round

/-- The routine whose result is a double. -/
def routine : Rounding → MathFunction
  | floor => .floor
  | ceil => .ceil
  | round => .round

end Rounding

/-- **Rounding.**  On an int32 it is the identity, kept as a node so that the overflow checks of the
operand survive a truncation of the result. -/
def rounding (r : Rounding) (s : Site) : Decide Plan := do
  s.classify { arity := .exactly 1 }
  let x ← s.arg 0
  if x.ty = .int32 ∧ s.returnType = .int32 then
    return .of (result (.limitedTruncate .indirectTruncate) [x] .int32)
  else if x.ty.isFloatingPoint ∧ s.returnType = .int32 then
    return .of (result r.toInt32Op [x] .int32)
  else if x.ty.isFloatingPoint ∧ s.returnType = .double then
    return .of (result (.mathFunction r.routine) [x] .double)
  else Decide.decline (.argumentType 0 x.ty)

/-- The number of leading zero bits. -/
def clz32 (s : Site) : Decide Plan := do
  s.classify { arity := .exactly 1, args := [.number], result := .exactly .int32 }
  let x ← s.arg 0
  return .of (result .clz32 [x] .int32)

def sqrt (s : Site) : Decide Plan := do
  s.classify { arity := .exactly 1, args := [.number], result := .exactly .double }
  let x ← s.arg 0
  return .of (result .sqrt [x] .double)

/-- A function of two numbers with a double as its result. -/
def binary (op : Op) (s : Site) : Decide Plan := do
  s.classify { arity := .exactly 2, args := [.number, .number], result := .exactly .double }
  let x ← s.arg 0
  let y ← s.arg 1
  return .of (result op [x, y] .double)

def atan2 : Site → Decide Plan := binary .atan2

def hypot : Site → Decide Plan := binary .hypot

/-- A random number; arguments are ignored. -/
def random (s : Site) : Decide Plan := do
  s.classify { arity := .atLeast 0, result := .exactly .double }
  return .of (result .random [] .double)

/-- The product of two numbers, both truncated to int32. -/
def imul (s : Site) : Decide Plan := do
  s.classify { arity := .exactly 2, args := [.number, .number], result := .exactly .int32 }
  let x ← s.arg 0
  let y ← s.arg 1
  return .of do
    let x ← add .truncateToInt32 [x] .int32
    let y ← add .truncateToInt32 [y] .int32
    result .mul [x, y] .int32

/-- The nearest float32; while nothing was observed the result is taken for a number. -/
def fround (s : Site) : Decide Plan := do
  let results : ResultClass := if s.call.resultTypes.isEmpty then .any else .number
  s.classify { arity := .exactly 1, args := [.number], result := results }
  let x ← s.arg 0
  return .of (result .toFloat32 [x] .float32)

/-! ## Powers -/

/-- The exponents whose powers are no call. -/
inductive SimpleExponent where
  | half
  | minusHalf
  | one
  | two
  | three
  | four
  deriving DecidableEq, Repr, Inhabited

/-- The simple exponent that a number is. -/
def SimpleExponent.of? : Numeric → Option SimpleExponent
  | .finite q =>
    if q = 1 / 2 then some .half
    else if q = -1 / 2 then some .minusHalf
    else if q = 1 then some .one
    else if q = 2 then some .two
    else if q = 3 then some .three
    else if q = 4 then some .four
    else none
  | .nan | .infinite _ => none

/-- The power of `base` by a simple exponent; products are computed in the observed type. -/
def simplePower (base : Operand) (out : ValueType) : SimpleExponent → Draft Operand
  | .half => add .powHalf [base] .double
  | .minusHalf => do
    let half ← add .powHalf [base] .double
    let one ← constant (.double .one)
    add .div [one, half] .double
  | .one => pure base
  | .two => add .mul [base, base] out
  | .three => do
    let square ← add .mul [base, base] out
    add .mul [base, square] out
  | .four => do
    let square ← add .mul [base, base] out
    add .mul [square, square] out

/-- The power of `base` by `exponent`. -/
def rawPower (base exponent : Operand) (out : ValueType) : Draft Operand :=
  match exponent.number?.bind SimpleExponent.of? with
  | some e => simplePower base out e
  | none => add .pow [base, exponent] .double

/-- The value in the observed type, int32 or double. -/
def castNumber (v : Operand) (out : ValueType) : Draft Operand :=
  if out = .int32 ∧ v.ty ≠ .int32 then add .toInt32 [v] .int32
  else if out = .double ∧ v.ty ≠ .double then add .toDouble [v] .double
  else pure v

/-- **Powers.** -/
def power (s : Site) : Decide Plan := do
  s.classify { arity := .exactly 2, args := [.number, .number], result := .intOrDouble }
  let base ← s.arg 0
  let exponent ← s.arg 1
  return .of do
    let v ← rawPower base exponent s.returnType
    push (← castNumber v s.returnType)

/-! ## Least and greatest -/

/-- The operand is a constant that lies outside the int32 range, or at its edge, on the side that
cannot decide a result within the range. -/
def dominated (isMax : Bool) (x : Operand) : Bool :=
  match x.number? with
  | some n =>
    if isMax then n.le (.finite (-2147483648)) else Numeric.le (.finite 2147483647) n
  | none => false

/-- The first argument that is no number, counting from `index`. -/
def checkNumbers (index : Nat) : List Operand → Decide Unit
  | [] => .ok ()
  | x :: xs =>
    if x.ty.isNumber then checkNumbers (index + 1) xs
    else Decide.decline (.argumentType index x.ty)

/-- The type of a least or greatest value: int32 only if that was observed, some argument is an
int32 and no other can decide the result. -/
def minMaxType (isMax : Bool) (observed : ValueType) (args : List Operand) : ValueType :=
  if args.any (·.ty = .int32) && args.all fun x => x.ty = .int32 || dominated isMax x then observed
  else .double

/-- A chain of two-operand nodes over the operands, each taking the result of the one before. -/
def chain (op : Op) (ty : ValueType) (last : Operand) : List Operand → Draft Operand
  | [] => pure last
  | x :: xs => do chain op ty (← add op [last, x] ty) xs

/-- **The least or the greatest of the arguments.**  A single operand is kept as an identity
node. -/
def minMax (isMax : Bool) (s : Site) : Decide Plan := do
  s.classify { arity := .atLeast 1, result := .number }
  checkNumbers 0 s.args
  let ty := minMaxType isMax s.returnType s.args
  let cases := if ty = .int32 then s.args.filter (·.ty = .int32) else s.args
  match cases with
  | [] => .error (.missingArgument 0)
  | [x] => return .of (result (.limitedTruncate .noTruncate) [x] ty)
  | x :: xs => return .of do push (← chain (.minMax isMax) ty x xs)

end CallSite.Arithmetic
