import CallSite.Graph.Basic
import CallSite.Graph.Error

/-!
# Building a graph

The builder of one compilation follows the state of the interpreter (operand stack, locals, program
counter) beside the graph.  Looking at operands leaves it alone; nodes for a call site are added
only through an `Emission`, which `Builder.commit` hands out after marking the site dead.  So
nothing can be emitted for a call that has not been committed, and no call is committed twice.

* `Builder` — the state, with its interpreter-side operations.
* `Builder.commit` — opens an emission for a call.
* `Emission` — adding nodes, results, resume points and barriers for that call.
* `Emission.finish` — checks that every effectful node can be resumed after and that the call left
  exactly one result.
-/

namespace CallSite

/-- **The state of a graph under construction.** -/
structure Builder where
  graph : Graph := {}
  /-- The operand stack, bottom first. -/
  stack : List NodeId := []
  locals : List NodeId := []
  pc : UInt32 := 0
  /-- The sites of committed calls. -/
  deadSites : List SiteId := []
  /-- The fork-join context, once some call has needed it. -/
  context : Option NodeId := none
  deriving DecidableEq

namespace Builder

instance : Inhabited Builder := ⟨{}⟩

/-! ## Interpreter state -/

def push (b : Builder) (id : NodeId) : Builder := { b with stack := b.stack ++ [id] }

/-- The value on top of the stack. -/
def peek (b : Builder) : Option NodeId := b.stack.getLast?

/-- Removes the value on top of the stack; an empty stack stays as it is. -/
def pop (b : Builder) : Builder := { b with stack := b.stack.dropLast }

def defineLocal (b : Builder) (id : NodeId) : Builder := { b with locals := b.locals ++ [id] }

def setPc (b : Builder) (pc : UInt32) : Builder := { b with pc }

def isDead (b : Builder) (site : SiteId) : Bool := site ∈ b.deadSites

/-! ## Operands -/

/-- Adds an incoming value; its handle is the graph's next one. -/
def addParameter (b : Builder) (index : UInt16) (ty : ValueType)
    (types : Option TypeSet := none) : Builder :=
  { b with graph := b.graph.add (.parameter index) [] ty types }

/-- Adds a constant; its handle is the graph's next one. -/
def addConstant (b : Builder) (c : Constant) : Builder :=
  { b with graph := b.graph.add (.constant c) [] c.valueType }

/-- The facts about the value behind a handle. -/
def facts? (b : Builder) (id : NodeId) : Option Facts := (b.graph.node? id).map Node.facts

end Builder

/-! ## Emission -/

/-- **The right to emit** for one committed call. -/
structure Emission where
  builder : Builder
  site : SiteId
  /-- The depth of the stack when the call was committed. -/
  baseDepth : Nat
  /-- The number of nodes when the call was committed. -/
  firstNode : Nat
  deriving DecidableEq

/-- Marks values as implicitly used, up to the first handle that belongs to no node. -/
def Graph.markOperands (g : Graph) : List NodeId → Graph × Option NodeId
  | [] => (g, none)
  | id :: ids =>
    match g.node? id with
    | some _ => (g.markImplicitlyUsed id).markOperands ids
    | none => (g, some id)

/-- **Commits a call**: marks its site dead and its operands implicitly used, and commits the facts
that its specialization relies on.  A failure comes with the state that it leaves. -/
def Builder.commit (b : Builder) (call : Call NodeId) (facts : List Dependency) :
    Except (GraphError × Builder) Emission :=
  if b.isDead call.site then .error (.callAlreadyDead call.site, b)
  else
    let b := { b with deadSites := b.deadSites ++ [call.site] }
    match b.graph.markOperands call.operands with
    | (graph, some missing) => .error (.unknownNode missing .emission, { b with graph })
    | (graph, none) =>
      let b := { b with graph := graph.commitDependencies facts }
      .ok {
        builder := b
        site := call.site
        baseDepth := b.stack.length
        firstNode := b.graph.size }

namespace Emission

/-- The handle that the next node will get. -/
def nextId (e : Emission) : NodeId := e.builder.graph.nextId

/-- Adds a node; its handle is `e.nextId`. -/
def add (e : Emission) (op : Op) (inputs : List NodeId) (ty : ValueType)
    (types : Option TypeSet := none) : Emission :=
  { e with builder.graph := e.builder.graph.add op inputs ty types }

/-- Adds a constant; its handle is `e.nextId`. -/
def addConstant (e : Emission) (c : Constant) : Emission := e.add (.constant c) [] c.valueType

/-- Pushes a value onto the operand stack. -/
def push (e : Emission) (id : NodeId) : Emission := { e with builder := e.builder.push id }

/-- Adds a constant and pushes it. -/
def pushConstant (e : Emission) (c : Constant) : Emission := (e.addConstant c).push e.nextId

/-- **Attaches a resume point** with the current stack and locals to a node that has none; its
handle is the graph's next one. -/
def resumeAfter (e : Emission) (id : NodeId) : Except GraphError Emission :=
  match e.builder.graph.node? id with
  | none => .error (.unknownNode id .emission)
  | some node =>
    match node.resumePoint with
    | some existing => .error (.resumePointAttached id existing)
    | none =>
      let b := e.builder
      .ok { e with builder.graph := b.graph.addResumePoint id b.pc b.stack b.locals }

/-- **Guards the value on top of the stack** by its observed types and puts the guarded value in
its place.  Without a barrier nothing changes. -/
def guardTop (e : Emission) (id : NodeId) (observed : TypeSet) (kind : Barrier) :
    Except GraphError Emission :=
  if e.builder.peek ≠ some id then .error (.stackMismatch id e.builder.peek)
  else
    match kind with
    | .noBarrier => .ok e
    | .typeSet =>
      let barrier := e.nextId
      let e := e.add (.typeBarrier kind) [id] observed.knownType observed
      .ok { e with builder := e.builder.pop.push barrier }

/-- Adds a guard `index < length`; its value is the checked index. -/
def addBoundsCheck (e : Emission) (index length : NodeId) : Emission :=
  e.add .boundsCheck [index, length] .int32

/-- The fork-join context, added on first use. -/
def forkJoinContext (e : Emission) : NodeId × Emission :=
  match e.builder.context with
  | some id => (id, e)
  | none =>
    let id := e.nextId
    let e := e.add .forkJoinContext [] .object
    (id, { e with builder.context := some id })

/-- **Emits a call** of a known function and pushes its result; its handle is `e.nextId`. -/
def call (e : Emission) (target : FunctionObject) (c : Call NodeId) : Except GraphError Emission :=
  let id := e.nextId
  let op := Op.call target.object.id (UInt32.ofNat c.argc) c.constructing
  ((e.add op c.operands c.returnType c.resultTypes).push id).resumeAfter id

/-- **Ends the emission**: every effectful node added has a resume point, and there is exactly one
value more on the stack. -/
def finish (e : Emission) : Except GraphError Builder :=
  let added := e.builder.graph.nodes.toList.drop e.firstNode
  match added.find? fun n => n.op.isEffectful && n.resumePoint.isNone with
  | some n => .error (.missingResumePoint n.id)
  | none =>
    let depth := e.builder.stack.length
    if depth = e.baseDepth + 1 then .ok e.builder
    else .error (.stackDepth e.site (e.baseDepth + 1) depth)

end Emission

end CallSite
