import CallSite.Specialize.Registry

/-!
# Specializing a call

The way from a call with its callee to the routine that specializes it.

* `Inliner.inlineFunctionCall` — the dispatch on the native identity of a function.
* `Routine.conclude` — how a specialization ended is reported once it has; one that declined has
  reported that itself.
* `Inliner.specialize` — **the whole attempt**.
-/

namespace CallSite

open Routine

/-- Reports how a routine ended, unless it left the call generic. -/
def Routine.conclude (site : SiteId) (x : Routine Status) : Routine Status := fun s =>
  match x s with
  | (.ok .inlined, s) => (report (.inlined site s.builder.graph.size) >>= fun _ => pure .inlined) s
  | (.error (.failed e), s) => (report (.failed site e) >>= fun _ => fail e) s
  | r => r

namespace Inliner

/-- The specialization of a call of a function, by its native identity. -/
def inlineFunctionCall (i : Inliner) (call : Call NodeId) (f : FunctionObject) :
    Routine Status := do
  match f.native? with
  | none => decline .notNative
  | some native =>
    match Registry.find? call.kind native with
    | none => decline (.noSpecializer native)
    | some specializer =>
      report (.dispatch native specializer.label)
      (specializer.run f i call).body

/-- The specialization of a call, by its callee. -/
def inlineCall (i : Inliner) (call : Call NodeId) : Callee → Routine Status
  | .function f => i.inlineFunctionCall call f
  | .descriptor d => (inlineNonFunctionCall d i call).body

/-- **Tries to specialize a call.** -/
def specialize (i : Inliner) (call : Call NodeId) (callee : Callee) : Routine Status := do
  if (← read).builder.isDead call.site then decline .callDead
  else
    checkOperands call.operands
    if !i.config.inlineNatives then decline .disabled
    else if i.config.maxCallArgs.toNat < call.argc then
      decline (.tooManyArguments i.config.maxCallArgs call.argc)
    else conclude call.site (i.inlineCall call callee)

end Inliner

end CallSite
