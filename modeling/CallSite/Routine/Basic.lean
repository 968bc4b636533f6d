import CallSite.Specialize.Report
import CallSite.Specialize.Signature

/-!
# Routines

A specialization at work: it looks at nodes of the graph, leaves the call generic where a condition
fails and reports that on the spot, and goes on to change the builder and the shared stubs when all
of them hold.  A `Routine` is a program of this kind.  Nothing in its type keeps it from doing
things in another order, from reporting twice, or from looking at a node that is not there.

* `Session` — what a routine acts on: the builder, the stubs, and the events reported so far.
* `Exit` — the ways in which a routine stops before its end.
* `Routine` — programs on a session.
* `Routine.decline`, `Routine.refuse` — reporting that the call stays generic, without and with
  returning at once.
* `Routine.classify` — the shape of the call, read off the graph.
* `Routine.ensureStub` — the shared stub of a kind.
-/

namespace CallSite

/-- **What a routine acts on.** -/
structure Session where
  builder : Builder := {}
  stubs : StubStore := {}
  /-- The events reported so far. -/
  log : List Event := []

/-- **Why a routine stops before its end.** -/
inductive Exit where
  /-- The specialization returns at once. -/
  | returned (status : Status)
  | failed (e : Failure)
  /-- An index was out of range. -/
  | panicked
  deriving DecidableEq, Repr, Inhabited

/-- **A program on a session**, which gives a value or stops. -/
def Routine (α : Type) : Type := Session → Except Exit α × Session

namespace Routine

variable {α β : Type}

protected def pure (a : α) : Routine α := fun s => (.ok a, s)

/-- One routine after another, unless the first stops. -/
protected def bind (x : Routine α) (f : α → Routine β) : Routine β := fun s =>
  match x s with
  | (.ok a, s) => f a s
  | (.error e, s) => (.error e, s)

instance : Monad Routine where
  pure := Routine.pure
  bind := Routine.bind

/-! ## The session -/

/-- The session as it is. -/
def read : Routine Session := fun s => (.ok s, s)

/-- Changes the session. -/
def update (f : Session → Session) : Routine Unit := fun s => (.ok (), f s)

/-- Changes the builder. -/
def updateBuilder (f : Builder → Builder) : Routine Unit :=
  update fun s => { s with builder := f s.builder }

/-- Reports an event. -/
def report (e : Event) : Routine Unit := update fun s => { s with log := s.log ++ [e] }

/-- Stops. -/
def exit (e : Exit) : Routine α := fun s => (.error e, s)

/-- Fails. -/
def fail (e : Failure) : Routine α := exit (.failed e)

/-! ## Leaving the call generic -/

/-- **Reports that the call stays generic**; that is the result, but nothing ends here. -/
def decline (reason : Refusal) : Routine Status := do
  report (.notInlined reason)
  return .notInlined

/-- **Declines and returns.** -/
def refuse (reason : Refusal) : Routine α := do
  exit (.returned (← decline reason))

/-- Goes on with the value that was decided on, or returns. -/
def check : Decide α → Routine α
  | .ok a => pure a
  | .error (.declined reason) => refuse reason
  | .error (.missingArgument _) => exit .panicked

/-- Returns unless a condition holds. -/
def expect (condition : Bool) (reason : Refusal) : Routine Unit :=
  if condition then pure () else refuse reason

/-- Returns because of an obstacle unless a condition holds. -/
def require (condition : Bool) (o : Obstacle) : Routine Unit := expect condition (.obstacle o)

/-- Takes a value that has to be there. -/
def need (value : Option α) (o : Obstacle) : Routine α :=
  match value with
  | some a => pure a
  | none => refuse (.obstacle o)

/-- The body of a function: to return from it is to give its result. -/
def body (x : Routine Status) : Routine Status := fun s =>
  match x s with
  | (.error (.returned status), s) => (.ok status, s)
  | r => r

/-! ## Looking at operands -/

/-- **The node behind a handle**, which has to be there, with what is known of its value. -/
def observe (id : NodeId) : Routine Operand := do
  match (← read).builder.operand? id with
  | some x => return x
  | none => exit .panicked

/-- The argument at a position, which has to be there. -/
def arg (call : Call NodeId) (index : Nat) : Routine NodeId :=
  match call.args[index]? with
  | some id => pure id
  | none => exit .panicked

/-- Returns at the first argument that is not of its class, counting from `index`. -/
def classifyArgs (index : Nat) : List OperandClass → List NodeId → Routine Unit
  | c :: cs, id :: ids => do
    let x ← observe id
    expect (c.accepts x.toFacts) (.argumentType index x.ty)
    classifyArgs (index + 1) cs ids
  | _, _ => pure ()

/-- Returns unless the call is, or is not, a construct as required. -/
def checkConstructing (rule : ConstructRule) (constructing : Bool) : Routine Unit :=
  match rule, constructing with
  | .never, true => refuse (.constructing false)
  | .required, false => refuse (.constructing true)
  | _, _ => pure ()

/-- **Returns unless the call has the shape of the signature.** -/
def classify (call : Call NodeId) (sig : Signature) : Routine Unit := do
  checkConstructing sig.constructing call.constructing
  expect (sig.arity.accepts call.argc) (.arity sig.arity call.argc)
  expect (sig.result.accepts call.returnType) (.returnType call.returnType)
  let receiver ← observe call.receiver
  expect (sig.receiver.accepts receiver.toFacts) (.receiverType receiver.ty)
  classifyArgs 0 sig.args call.args

/-- Fails at the first handle that belongs to no node. -/
def checkOperands : List NodeId → Routine Unit
  | [] => pure ()
  | id :: ids => do
    match (← read).builder.graph.node? id with
    | some _ => checkOperands ids
    | none => fail (.graph (.unknownNode id .setup))

/-! ## Shared stubs -/

/-- **The shared stub of a kind**: it is there already, or it is generated, which is reported. -/
def ensureStub (i : Inliner) (kind : StubKind) : Routine Unit := do
  match (← read).stubs.get? kind with
  | some _ => pure ()
  | none =>
    match i.env.createStub kind with
    | none => fail (.stubUnavailable kind)
    | some stub =>
      report (.stubCreated ⟨kind, stub.id⟩)
      update fun s => { s with stubs := s.stubs.set kind stub }

end Routine

end CallSite
