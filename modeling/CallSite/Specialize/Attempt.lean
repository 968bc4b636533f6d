import CallSite.Specialize.Registry
import CallSite.Specialize.Report

/-!
# Attempts

One attempt to specialize a call either replaces it, leaves it generic, or fails.  Only in the first
case does the graph change.

* `Inliner.decide` — the decision about a call whose operands are looked up.
* `Inliner.attempt` — the attempt: the guards, the decision, the helper stub, the emission.
-/

namespace CallSite

/-- The result of an attempt, with the state that it leaves and the events that it reported. -/
structure Attempt where
  result : Except Failure Status
  builder : Builder
  stubs : StubStore
  log : List Event

namespace Inliner

/-- The decision about a call of a function: dispatched on its native identity. -/
def decideFunction (s : Site) (f : FunctionObject) : List Event × Decide Plan :=
  match f.native? with
  | none => ([], Decide.decline .notNative)
  | some native =>
    match Registry.find? s.call.kind native with
    | none => ([], Decide.decline (.noSpecializer native))
    | some specializer => ([.dispatch native specializer.label], specializer.decide f s)

/-- **The decision about a call**, with the events reported on the way. -/
def decide (i : Inliner) (call : Call Operand) (callee : Callee) : List Event × Decide Plan :=
  let s := i.site call
  if !i.config.inlineNatives then ([], Decide.decline .disabled)
  else if i.config.maxCallArgs.toNat < call.argc then
    ([], Decide.decline (.tooManyArguments i.config.maxCallArgs call.argc))
  else
    match callee with
    | .function f => decideFunction s f
    | .descriptor d => ([], TypedMemory.construct d s)

/-- The store in which the stub that a plan asks for exists, and the event if it is new; or the
kind that cannot be created. -/
def ensureStub (i : Inliner) (stubs : StubStore) (kind : Option StubKind) :
    Except StubKind (StubStore × List Event) :=
  match kind with
  | none => .ok (stubs, [])
  | some kind =>
    match stubs.ensure kind i.env with
    | none => .error kind
    | some (stub, isNew, stubs) => .ok (stubs, if isNew then [.stubCreated ⟨kind, stub.id⟩] else [])

/-- The call with the facts about its operands; the first handle that belongs to no node decides
otherwise. -/
def resolveOperands (b : Builder) (call : Call NodeId) : Except NodeId (Call Operand) :=
  call.resolve fun id =>
    match b.operand? id with
    | some x => .ok x
    | none => .error id

/-- **One attempt to specialize a call.** -/
def attempt (i : Inliner) (stubs : StubStore) (b : Builder) (call : Call NodeId)
    (callee : Callee) : Attempt :=
  let declined (reason : Refusal) (log : List Event) : Attempt :=
    ⟨.ok .notInlined, b, stubs, log ++ [.notInlined reason]⟩
  let failed (b : Builder) (stubs : StubStore) (e : Failure) (log : List Event) : Attempt :=
    ⟨.error e, b, stubs, log ++ [.failed call.site e]⟩
  if b.isDead call.site then declined .callDead []
  else
    match resolveOperands b call with
    | .error id => ⟨.error (.graph (.unknownNode id .setup)), b, stubs, []⟩
    | .ok resolved =>
      match i.decide resolved callee with
      | (log, .error (.declined reason)) => declined reason log
      | (log, .error (.missingArgument index)) => failed b stubs (.missingArgument index) log
      | (log, .ok plan) =>
        match i.ensureStub stubs plan.stub with
        | .error kind => failed b stubs (.stubUnavailable kind) log
        | .ok (stubs, created) =>
          let log := log ++ created
          match plan.emit b call with
          | .error (e, b) => failed b stubs (.graph e) log
          | .ok b => ⟨.ok .inlined, b, stubs, log ++ [.inlined call.site b.graph.size]⟩

end Inliner

end CallSite
