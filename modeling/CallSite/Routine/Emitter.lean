import CallSite.Graph.Builder
import CallSite.Routine.Basic

/-!
# Emitting nodes

The handles of nodes and resume points have 32 bits, and the position of a new one is cast to that
width.  A routine gets an `Emitter` by committing its call; everything that it emits goes through
it.

* `NodeId.ofPosition`, `ResumePointId.ofPosition` — the handle that a position is cast to.
* `Routine.addNode` — a new node.
* `Routine.commit` — the emitter for a call.
* `Emitter.add`, `Emitter.push`, `Emitter.resumeAfter`, `Emitter.guardTop` and the rest — emitting.
* `Emitter.finish` — the end of an emission.
-/

namespace CallSite

/-! ## Handles -/

/-- **The handle of the node at a position**, which is cast to 32 bits. -/
def NodeId.ofPosition (n : Nat) : NodeId := ⟨(UInt32.ofNat n).toNat⟩

/-- **The handle of the resume point at a position**, which is cast to 32 bits. -/
def ResumePointId.ofPosition (n : Nat) : ResumePointId := ⟨(UInt32.ofNat n).toNat⟩

namespace Routine

/-- **Adds a node** and gives its handle. -/
def addNode (op : Op) (inputs : List NodeId) (ty : ValueType) (types : Option TypeSet := none) :
    Routine NodeId := do
  let id := NodeId.ofPosition (← read).builder.graph.size
  updateBuilder fun b => { b with graph := b.graph.addAs id op inputs ty types }
  return id

/-- Adds an incoming value. -/
def addParameter (index : UInt16) (ty : ValueType) (types : Option TypeSet := none) :
    Routine NodeId := addNode (.parameter index) [] ty types

/-- Adds a constant. -/
def addConstant (c : Constant) : Routine NodeId := addNode (.constant c) [] c.valueType

end Routine

/-! ## Emitters -/

/-- **The right to emit** for one committed call. -/
structure Emitter where
  site : SiteId
  /-- The depth of the stack when the call was committed. -/
  baseDepth : Nat
  /-- The number of nodes when the call was committed. -/
  firstNode : Nat
  deriving DecidableEq, Repr, Inhabited

/-- The emission with a builder. -/
def Emitter.on (e : Emitter) (b : Builder) : Emission :=
  { builder := b, site := e.site, baseDepth := e.baseDepth, firstNode := e.firstNode }

def Emission.emitter (e : Emission) : Emitter :=
  { site := e.site, baseDepth := e.baseDepth, firstNode := e.firstNode }

open Routine

/-- **Commits a call**; a failure comes half way through. -/
def Routine.commit (call : Call NodeId) (facts : List Dependency) : Routine Emitter := do
  match (← read).builder.commit call facts with
  | .ok e =>
    updateBuilder fun _ => e.builder
    return e.emitter
  | .error (err, b) =>
    updateBuilder fun _ => b
    fail (.graph err)

namespace Emitter

/-- Adds a node and gives its handle. -/
def add (_ : Emitter) (op : Op) (inputs : List NodeId) (ty : ValueType)
    (types : Option TypeSet := none) : Routine NodeId := addNode op inputs ty types

/-- Adds a constant and gives its handle. -/
def constant (e : Emitter) (c : Constant) : Routine NodeId := e.add (.constant c) [] c.valueType

/-- Pushes a value onto the operand stack. -/
def push (_ : Emitter) (id : NodeId) : Routine Unit := updateBuilder fun b => b.push id

/-- Adds a constant and pushes it. -/
def pushConstant (e : Emitter) (c : Constant) : Routine Unit := do e.push (← e.constant c)

/-- **Attaches a resume point** with the current stack and locals to a node that has none. -/
def resumeAfter (_ : Emitter) (id : NodeId) : Routine Unit := do
  match (← read).builder.graph.node? id with
  | none => fail (.graph (.unknownNode id .emission))
  | some node =>
    match node.resumePoint with
    | some existing => fail (.graph (.resumePointAttached id existing))
    | none =>
      updateBuilder fun b =>
        let point := ResumePointId.ofPosition b.graph.resumePoints.size
        { b with graph := b.graph.addResumePointAs point id b.pc b.stack b.locals }

/-- **Guards the value on top of the stack** by its observed types and puts the guarded value in
its place.  Without a barrier nothing changes. -/
def guardTop (e : Emitter) (id : NodeId) (observed : TypeSet) (kind : Barrier) : Routine Unit := do
  let top := (← read).builder.peek
  if top ≠ some id then fail (.graph (.stackMismatch id top))
  else
    match kind with
    | .noBarrier => pure ()
    | .typeSet =>
      let barrier ← e.add (.typeBarrier kind) [id] observed.knownType observed
      updateBuilder fun b => b.pop.push barrier

/-- Adds a guard `index < length` and gives the checked index. -/
def boundsCheck (e : Emitter) (index length : NodeId) : Routine NodeId :=
  e.add .boundsCheck [index, length] .int32

/-- The fork-join context, added on first use. -/
def forkJoinContext (e : Emitter) : Routine NodeId := do
  match (← read).builder.context with
  | some id => return id
  | none =>
    let id ← e.add .forkJoinContext [] .object
    updateBuilder fun b => { b with context := some id }
    return id

/-- **Emits a call** of a known function and pushes its result. -/
def call (e : Emitter) (target : FunctionObject) (c : Call NodeId) : Routine NodeId := do
  let op := Op.call target.object.id (UInt32.ofNat c.argc) c.constructing
  let id ← e.add op c.operands c.returnType c.resultTypes
  e.push id
  e.resumeAfter id
  return id

/-- **Ends the emission**: every effectful node added has a resume point, and there is exactly one
value more on the stack. -/
def finish (e : Emitter) : Routine Status := do
  match (e.on (← read).builder).finish with
  | .ok _ => return .inlined
  | .error err => fail (.graph err)

end Emitter

end CallSite
