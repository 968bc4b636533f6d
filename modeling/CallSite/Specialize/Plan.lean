import CallSite.Environment
import CallSite.Graph.Builder

/-!
# Plans

Deciding whether a call can be specialized and changing the graph are kept apart.  A decision looks
at the operands and their facts and ends in a `Plan`: the steps to take, in terms of the operands
and of the nodes that the plan itself adds.  One engine then commits the call and takes the steps,
so whatever a plan is for, the builder changes in the same few ways.

* `Ref` — a value that a plan mentions: a node that is there, or the `k`-th node that it adds.
* `Step`, `Plan` — adding nodes, pushing the result, attaching resume points, guarding the result.
* `Draft` — writing down steps while numbering the nodes they add.
* `Plan.emit` — committing a call and taking the steps of its plan.
-/

namespace CallSite

/-! ## Values -/

/-- **A value that a plan mentions.** -/
inductive Ref where
  /-- A node of the graph before the call is committed. -/
  | node (id : NodeId)
  /-- The node that the plan adds as its `index`-th. -/
  | added (index : Nat)
  /-- The fork-join context of the compilation. -/
  | context
  deriving DecidableEq, Repr, Inhabited

/-- A value that a plan mentions together with what is known of it. -/
structure Operand extends Facts where
  ref : Ref
  deriving DecidableEq

/-- The operand behind a handle. -/
def Builder.operand? (b : Builder) (id : NodeId) : Option Operand :=
  (b.facts? id).map fun f => { toFacts := f, ref := .node id }

/-! ## Steps -/

/-- **One step of a plan.** -/
inductive Step where
  /-- Adds a node. -/
  | add (op : Op) (inputs : List Ref) (ty : ValueType) (types : Option TypeSet)
  /-- Pushes the result of the call. -/
  | push (value : Ref)
  /-- Attaches a resume point with the stack as it then is. -/
  | resume (node : Ref)
  /-- Guards the value on top of the stack by its observed types. -/
  | guardTop (value : Ref) (observed : TypeSet)
  deriving DecidableEq

/-- The step adds a node. -/
def Step.addsNode : Step → Bool
  | .add .. | .guardTop .. => true
  | .push _ | .resume _ => false

/-- **What specializing a call amounts to.** -/
structure Plan where
  /-- The facts that the specialization relies on. -/
  facts : List Dependency := []
  /-- The helper stub that the emitted code calls. -/
  stub : Option StubKind := none
  /-- The steps mention the fork-join context. -/
  usesContext : Bool := false
  steps : List Step
  deriving DecidableEq

/-! ## Drafts -/

/-- **Steps being written down.**  A draft is told how many nodes the steps before it add; it gives
its value, the number of nodes after it, and its steps. -/
def Draft (α : Type) : Type := Nat → α × Nat × List Step

namespace Draft

variable {α β : Type}

/-- No step. -/
protected def pure (a : α) : Draft α := fun n => (a, n, [])

/-- The steps of a draft and then those of the next. -/
protected def bind (x : Draft α) (f : α → Draft β) : Draft β := fun n =>
  let (a, n, steps) := x n
  let (b, n, more) := f a n
  (b, n, steps ++ more)

instance : Monad Draft where
  pure := Draft.pure
  bind := Draft.bind

/-- A single step that adds no node. -/
def step (s : Step) : Draft Unit := fun n => ((), n, [s])

/-- Adds a node and gives the operand that it is. -/
def add (op : Op) (inputs : List Operand) (ty : ValueType) (types : Option TypeSet := none) :
    Draft Operand := fun n =>
  ({ ref := .added n, ty, types, constant := op.constant? }, n + 1,
    [.add op (inputs.map (·.ref)) ty types])

/-- Adds a constant. -/
def constant (c : Constant) : Draft Operand := add (.constant c) [] c.valueType

/-- Pushes the result of the call. -/
def push (v : Operand) : Draft Unit := step (.push v.ref)

/-- Pushes a constant as the result of the call. -/
def pushConstant (c : Constant) : Draft Unit := do push (← constant c)

/-- Lets execution resume after the node `v`. -/
def resumeAfter (v : Operand) : Draft Unit := step (.resume v.ref)

/-- Guards the result by its observed types, if a barrier is needed. -/
def guardTop (v : Operand) (observed : TypeSet) : Barrier → Draft Unit
  | .noBarrier => pure ()
  | .typeSet => fun n => ((), n + 1, [.guardTop v.ref observed])

/-- Adds a node and makes it the result of the call. -/
def result (op : Op) (inputs : List Operand) (ty : ValueType) (types : Option TypeSet := none) :
    Draft Unit := do push (← add op inputs ty types)

/-- Adds an effectful node, makes it the result of the call and lets execution resume after it. -/
def effectfulResult (op : Op) (inputs : List Operand) (ty : ValueType)
    (types : Option TypeSet := none) : Draft Unit := do
  let v ← add op inputs ty types
  push v
  resumeAfter v

/-- Adds a guard `index < length` and gives the checked index. -/
def boundsCheck (index length : Operand) : Draft Operand := add .boundsCheck [index, length] .int32

/-- The fork-join context as an operand. -/
def context : Operand := { ref := .context, ty := .object }

/-- The steps of a whole draft. -/
def steps (d : Draft Unit) : List Step := (d 0).2.2

end Draft

/-- The plan whose steps are written down in a draft, relying on some facts. -/
def Plan.relyingOn (facts : List Dependency) (d : Draft Unit) : Plan := { facts, steps := d.steps }

/-- The plan whose steps are written down in a draft, whatever may change. -/
def Plan.of (d : Draft Unit) : Plan := .relyingOn [] d

/-! ## Taking the steps -/

/-- The handle of a value, when the nodes that the plan adds are numbered from `base` on. -/
def Ref.resolve (base : Nat) (context : NodeId) : Ref → NodeId
  | .node id => id
  | .added k => ⟨base + k⟩
  | .context => context

/-- Takes one step. -/
def Step.take (base : Nat) (context : NodeId) (e : Emission) : Step → Except GraphError Emission
  | .add op inputs ty types => .ok (e.add op (inputs.map (·.resolve base context)) ty types)
  | .push v => .ok (e.push (v.resolve base context))
  | .resume v => e.resumeAfter (v.resolve base context)
  | .guardTop v observed => e.guardTop (v.resolve base context) observed .typeSet

/-- Takes steps one after the other; a failure comes with the state that it leaves. -/
def Step.takeAll (base : Nat) (context : NodeId) (e : Emission) :
    List Step → Except (GraphError × Builder) Emission
  | [] => .ok e
  | s :: rest =>
    match s.take base context e with
    | .error err => .error (err, e.builder)
    | .ok e => takeAll base context e rest

/-- **Commits a call and takes the steps of its plan.** -/
def Plan.emit (p : Plan) (b : Builder) (call : Call NodeId) :
    Except (GraphError × Builder) Builder :=
  match b.commit call p.facts with
  | .error err => .error err
  | .ok e =>
    let (context, e) := if p.usesContext then e.forkJoinContext else (e.nextId, e)
    match Step.takeAll e.builder.graph.size context e p.steps with
    | .error err => .error err
    | .ok e =>
      match e.finish with
      | .error err => .error (err, e.builder)
      | .ok b => .ok b

end CallSite
