import CallSite.Routine.Emitter
import CallSite.Specialize.Arithmetic

/-!
# Arithmetic natives at work

The routines behind the decisions of `CallSite.Arithmetic`.

* `Routine.emitUnary` — a single node over arguments of the call.
* `Routine.inlineMathPow` — what a power becomes is cast by the type of the node that was emitted
  for it.
* `Routine.inlineMathMinMax` — one pass over the arguments collects the operands that count.
-/

namespace CallSite

open Arithmetic (Rounding SimpleExponent dominated)

namespace Routine

/-! ## One node per call -/

/-- Emits a single node over arguments of the call and pushes it. -/
def emitUnary (call : Call NodeId) (op : Op) (inputs : List NodeId) (ty : ValueType) :
    Routine Status := do
  let e ← commit call []
  e.push (← e.add op inputs ty)
  e.finish

def inlineMathFunction (f : MathFunction) (_ : Inliner) (call : Call NodeId) : Routine Status := do
  classify call { arity := .exactly 1, args := [.number], result := .number }
  emitUnary call (.mathFunction f) [← arg call 0] .double

/-- The absolute value, in the type of the operand. -/
def inlineMathAbs (_ : Inliner) (call : Call NodeId) : Routine Status := do
  classify call { arity := .exactly 1, args := [.number] }
  let id ← arg call 0
  let ty := (← observe id).ty
  let fits := ty = call.returnType || (ty.isFloatingPoint && call.returnType = .int32) ||
    (ty = .float32 && call.returnType = .double)
  expect fits (.returnType call.returnType)
  emitUnary call .abs [id] (if ty = .float32 then .double else ty)

def inlineMathRounding (r : Rounding) (_ : Inliner) (call : Call NodeId) : Routine Status := do
  classify call { arity := .exactly 1 }
  let id ← arg call 0
  let ty := (← observe id).ty
  if ty = .int32 ∧ call.returnType = .int32 then
    emitUnary call (.limitedTruncate .indirectTruncate) [id] .int32
  else if ty.isFloatingPoint ∧ call.returnType = .int32 then
    emitUnary call r.toInt32Op [id] .int32
  else if ty.isFloatingPoint ∧ call.returnType = .double then
    emitUnary call (.mathFunction r.routine) [id] .double
  else decline (.argumentType 0 ty)

def inlineMathClz32 (_ : Inliner) (call : Call NodeId) : Routine Status := do
  classify call { arity := .exactly 1, args := [.number], result := .exactly .int32 }
  emitUnary call .clz32 [← arg call 0] .int32

def inlineMathSqrt (_ : Inliner) (call : Call NodeId) : Routine Status := do
  classify call { arity := .exactly 1, args := [.number], result := .exactly .double }
  emitUnary call .sqrt [← arg call 0] .double

/-- A function of two numbers with a double as its result. -/
def inlineMathBinary (op : Op) (_ : Inliner) (call : Call NodeId) : Routine Status := do
  classify call { arity := .exactly 2, args := [.number, .number], result := .exactly .double }
  emitUnary call op [← arg call 0, ← arg call 1] .double

def inlineMathAtan2 : Inliner → Call NodeId → Routine Status := inlineMathBinary .atan2

def inlineMathHypot : Inliner → Call NodeId → Routine Status := inlineMathBinary .hypot

def inlineMathRandom (_ : Inliner) (call : Call NodeId) : Routine Status := do
  classify call { arity := .atLeast 0, result := .exactly .double }
  emitUnary call .random [] .double

def inlineMathImul (_ : Inliner) (call : Call NodeId) : Routine Status := do
  classify call { arity := .exactly 2, args := [.number, .number], result := .exactly .int32 }
  let e ← commit call []
  let lhs ← e.add .truncateToInt32 [← arg call 0] .int32
  let rhs ← e.add .truncateToInt32 [← arg call 1] .int32
  e.push (← e.add .mul [lhs, rhs] .int32)
  e.finish

def inlineMathFround (_ : Inliner) (call : Call NodeId) : Routine Status := do
  let results : ResultClass := if call.resultTypes.isEmpty then .any else .number
  classify call { arity := .exactly 1, args := [.number], result := results }
  emitUnary call .toFloat32 [← arg call 0] .float32

end Routine

/-! ## Powers -/

namespace Emitter

open Routine (observe)

/-- The power of `base` by a simple exponent. -/
def simplePower (e : Emitter) (base : NodeId) (out : ValueType) : SimpleExponent → Routine NodeId
  | .half => e.add .powHalf [base] .double
  | .minusHalf => do
    let half ← e.add .powHalf [base] .double
    let one ← e.constant (.double .one)
    e.add .div [one, half] .double
  | .one => pure base
  | .two => e.add .mul [base, base] out
  | .three => do
    let square ← e.add .mul [base, base] out
    e.add .mul [base, square] out
  | .four => do
    let square ← e.add .mul [base, base] out
    e.add .mul [square, square] out

/-- The value of a node in the observed type, int32 or double. -/
def castNumber (e : Emitter) (id : NodeId) (out : ValueType) : Routine NodeId := do
  let ty := (← observe id).ty
  if out = .int32 ∧ ty ≠ .int32 then e.add .toInt32 [id] .int32
  else if out = .double ∧ ty ≠ .double then e.add .toDouble [id] .double
  else pure id

/-- A chain of two-operand nodes, each taking the result of the one before. -/
def chain (e : Emitter) (op : Op) (ty : ValueType) (last : NodeId) :
    List NodeId → Routine NodeId
  | [] => pure last
  | id :: ids => do e.chain op ty (← e.add op [last, id] ty) ids

end Emitter

namespace Routine

def inlineMathPow (_ : Inliner) (call : Call NodeId) : Routine Status := do
  classify call { arity := .exactly 2, args := [.number, .number], result := .intOrDouble }
  let base ← arg call 0
  let power ← arg call 1
  let constantPower := (← observe power).number?
  let e ← commit call []
  let output ←
    match constantPower.bind SimpleExponent.of? with
    | some exponent => e.simplePower base call.returnType exponent
    | none => e.add .pow [base, power] .double
  e.push (← e.castNumber output call.returnType)
  e.finish

/-! ## Least and greatest -/

/-- One pass over the arguments, counting from `index`: the int32 ones, and the type of the result
as far as the others leave it. -/
def gatherNumbers (isMax : Bool) (index : Nat) (int32s : List NodeId) (ty : ValueType) :
    List NodeId → Routine (List NodeId × ValueType)
  | [] => pure (int32s, ty)
  | id :: ids => do
    let x ← observe id
    if x.ty = .int32 then gatherNumbers isMax (index + 1) (int32s ++ [id]) ty ids
    else if x.ty.isFloatingPoint then
      gatherNumbers isMax (index + 1) int32s (if dominated isMax x then ty else .double) ids
    else refuse (.argumentType index x.ty)

def inlineMathMinMax (isMax : Bool) (_ : Inliner) (call : Call NodeId) : Routine Status := do
  classify call { arity := .atLeast 1, result := .number }
  let (int32s, ty) ← gatherNumbers isMax 0 [] call.returnType call.args
  let ty := if int32s.isEmpty then .double else ty
  let cases := if ty = .int32 then int32s else call.args
  let e ← commit call []
  let result ←
    match cases with
    | [] => exit .panicked
    | [single] => e.add (.limitedTruncate .noTruncate) [single] ty
    | first :: rest => e.chain (.minMax isMax) ty first rest
  e.push result
  e.finish

end Routine

end CallSite
