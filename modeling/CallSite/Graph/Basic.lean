import CallSite.Graph.Node

/-!
# The instruction graph

The graph of one compilation is a single straight-line block of nodes.  It only ever grows: nodes
are added at its end, and of a node that is there only the resume point and the mark of implicit
use can still change.

* `Graph` — nodes, the block that orders them, resume points, and the facts that compiled code
  relies on.
* `Graph.add`, `Graph.addResumePoint` — growing it by nodes and resume points under the next
  handles.
* `Graph.lines` — its dump.
-/

namespace CallSite

/-- **The instruction graph.** -/
structure Graph where
  nodes : Array Node := #[]
  /-- The entry block: its nodes in order of execution. -/
  block : Array NodeId := #[]
  resumePoints : Array ResumePoint := #[]
  dependencies : Dependencies := {}
  deriving DecidableEq

namespace Graph

instance : Inhabited Graph := ⟨{}⟩

/-- The number of nodes. -/
def size (g : Graph) : Nat := g.nodes.size

/-- The node behind a handle. -/
def node? (g : Graph) (id : NodeId) : Option Node := g.nodes[id.index]?

/-- The handle that the next node will get. -/
def nextId (g : Graph) : NodeId := ⟨g.size⟩

/-- Adds a node under a handle, at the end of the block. -/
def addAs (g : Graph) (id : NodeId) (op : Op) (inputs : List NodeId) (ty : ValueType)
    (types : Option TypeSet := none) : Graph :=
  { g with nodes := g.nodes.push { id, op, inputs, ty, types }, block := g.block.push id }

/-- **Adds a node** at the end of the block; its handle is `g.nextId`. -/
def add (g : Graph) (op : Op) (inputs : List NodeId) (ty : ValueType)
    (types : Option TypeSet := none) : Graph :=
  g.addAs g.nextId op inputs ty types

/-- Applies `f` to the node behind a handle. -/
def modify (g : Graph) (id : NodeId) (f : Node → Node) : Graph :=
  { g with nodes := g.nodes.modify id.index f }

/-- Keeps a node alive for resume points. -/
def markImplicitlyUsed (g : Graph) (id : NodeId) : Graph :=
  g.modify id fun n => { n with implicitlyUsed := true }

/-- The handle that the next resume point will get. -/
def nextResumePoint (g : Graph) : ResumePointId := ⟨g.resumePoints.size⟩

/-- Adds a resume point under a handle and attaches it to its instruction. -/
def addResumePointAs (g : Graph) (id : ResumePointId) (instruction : NodeId) (pc : UInt32)
    (stack locals : List NodeId) : Graph :=
  { g with resumePoints := g.resumePoints.push { id, instruction, pc, stack, locals } }.modify
    instruction fun n => { n with resumePoint := some id }

/-- **Adds a resume point** and attaches it to its instruction; its handle is
`g.nextResumePoint`. -/
def addResumePoint (g : Graph) (instruction : NodeId) (pc : UInt32)
    (stack locals : List NodeId) : Graph :=
  g.addResumePointAs g.nextResumePoint instruction pc stack locals

/-- Commits facts that compiled code relies on. -/
def commitDependencies (g : Graph) (ds : List Dependency) : Graph :=
  { g with dependencies := g.dependencies.extend ds }

/-- The number of nodes whose operation satisfies `holds`. -/
def countOps (g : Graph) (holds : Op → Bool) : Nat := g.nodes.countP fun n => holds n.op

/-- The lines of the dump: the block, the resume points, then the facts relied on. -/
def lines (g : Graph) : List String :=
  let nodes := g.block.toList.filterMap fun id => (g.node? id).map fun n => "  " ++ n.text
  "block0:" :: nodes ++ g.resumePoints.toList.map ResumePoint.text ++
    g.dependencies.items.map fun d => s!"depends on {d}"

/-! ## How the graph grows -/

/-- There is one node more. -/
@[simp] theorem size_add (g : Graph) (op inputs ty types) :
    (g.add op inputs ty types).size = g.size + 1 := by simp [size, add, addAs]

/-- No node is added or removed. -/
@[simp] theorem size_modify (g : Graph) (id f) : (g.modify id f).size = g.size := by
  simp [size, modify]

/-- Resume points are no nodes. -/
@[simp] theorem size_addResumePoint (g : Graph) (i pc stack locals) :
    (g.addResumePoint i pc stack locals).size = g.size := by
  simp [addResumePoint, addResumePointAs, size, modify]

/-- The new node is behind the next handle. -/
theorem node?_add_self (g : Graph) (op inputs ty types) :
    (g.add op inputs ty types).node? g.nextId =
      some { id := g.nextId, op, inputs, ty, types } := by
  simp [node?, add, addAs, nextId, size]

/-- Old nodes stay as they are. -/
theorem node?_add_of_lt {g : Graph} {id : NodeId} (h : id.index < g.size) (op inputs ty types) :
    (g.add op inputs ty types).node? id = g.node? id := by
  have h' : id.index < g.nodes.size := h
  have : id.index ≠ g.nodes.size := Nat.ne_of_lt h'
  simp [node?, add, addAs, Array.getElem?_push, this]

end Graph

end CallSite
