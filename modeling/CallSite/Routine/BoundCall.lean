import CallSite.Routine.Emitter
import CallSite.Specialize.BoundCall

/-!
# Calls through bound functions at work

The routine behind `CallSite.BoundCall`: the constants for the bound values are emitted one by one,
and a call with them in front of the actual arguments goes through `Emitter.call`.
-/

namespace CallSite

/-- Adds constants in order. -/
def Emitter.constants (e : Emitter) : List Constant → Routine (List NodeId)
  | [] => pure []
  | c :: cs => do
    let id ← e.constant c
    let ids ← e.constants cs
    return id :: ids

namespace Routine

/-- The constant is an object that may still move. -/
def mayMove (i : Inliner) (c : Constant) : Bool := c.object?.any i.env.isShortLived

/-- A call through a bound function. -/
def inlineBoundFunction (i : Inliner) (call : Call NodeId) (callee : FunctionObject) :
    Routine Status := do
  classify call { arity := .atLeast 0, constructing := .either }
  match callee.kind with
  | .bound (.function target) receiver bound =>
    expect (!call.constructing || target.isConstructor) (.obstacle .boundTargetNotConstructor)
    require (!i.env.isShortLived target.object) .boundTargetMayMove
    require (!mayMove i receiver) .boundReceiverMayMove
    require (!bound.any (mayMove i)) .boundArgumentMayMove
    require (bound.length + call.argc ≤ i.config.maxCallArgs.toNat) .tooManyBoundArguments
    let e ← commit call []
    let callee ← e.constant (.object target.object)
    let receiver ← e.constant receiver
    let args := (← e.constants bound) ++ call.args
    let _ ← e.call target { call with callee, receiver, args }
    e.finish
  | .bound (.object _) _ _ => decline (.obstacle .boundTargetNotFunction)
  | .native .. | .interpreted _ => decline (.obstacle .notBound)

end Routine

end CallSite
