import CallSite.Specialize.Signature

/-!
# Calls through bound functions

A call of a bound function becomes a direct call of its target, with the bound receiver and
arguments as constants, provided that none of them can move.
-/

namespace CallSite.BoundCall

open Draft (constant effectfulResult)

/-- The constant is an object that may still move. -/
def mayMove (s : Site) (c : Constant) : Bool := c.object?.any s.env.isShortLived

/-- Adds constants in order. -/
def constants : List Constant → Draft (List Operand)
  | [] => pure []
  | c :: cs => do
    let v ← constant c
    let vs ← constants cs
    return v :: vs

/-- **The call of the target** with bound and actual arguments. -/
def forward (s : Site) (target : FunctionObject) (receiver : Constant) (bound : List Constant) :
    Draft Unit := do
  let callee ← constant (.object target.object)
  let receiver ← constant receiver
  let bound ← constants bound
  let args := bound ++ s.args
  let op := Op.call target.object.id (UInt32.ofNat args.length) s.call.constructing
  effectfulResult op (callee :: receiver :: args) s.returnType (some s.call.resultTypes)

/-- **A call through a bound function.** -/
def specialize (f : FunctionObject) (s : Site) : Decide Plan := do
  s.classify { arity := .atLeast 0, constructing := .either }
  match f.kind with
  | .bound (.function target) receiver bound =>
    if s.call.constructing then
      Decide.require target.isConstructor .boundTargetNotConstructor
    Decide.require (!s.env.isShortLived target.object) .boundTargetMayMove
    Decide.require (!mayMove s receiver) .boundReceiverMayMove
    Decide.require (!bound.any (mayMove s)) .boundArgumentMayMove
    Decide.require (bound.length + s.argc ≤ s.config.maxCallArgs.toNat) .tooManyBoundArguments
    return .of (forward s target receiver bound)
  | .bound (.object _) _ _ => Decide.refuse .boundTargetNotFunction
  | .native .. | .interpreted _ => Decide.refuse .notBound

end CallSite.BoundCall
