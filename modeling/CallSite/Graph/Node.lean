import CallSite.Graph.Op

/-!
# Nodes and resume points

* `Node` — an operation with its inputs and the type of its value.
* `ResumePoint` — the interpreter state after an effectful node, from which execution goes on when
  compiled code bails out.
* `Facts` — what the graph knows of the value of a node; all decisions about a call rest on these.
-/

namespace CallSite

/-- The handle of a node. -/
structure NodeId where
  index : Nat
  deriving DecidableEq, Repr, Inhabited

instance : ToString NodeId := ⟨fun n => s!"v{n.index}"⟩

/-- The handle of a resume point. -/
structure ResumePointId where
  index : Nat
  deriving DecidableEq, Repr, Inhabited

instance : ToString ResumePointId := ⟨fun r => s!"rp{r.index}"⟩

/-- **A node of the graph.** -/
structure Node where
  id : NodeId
  op : Op
  inputs : List NodeId
  ty : ValueType
  /-- Observed types that refine `ty`. -/
  types : Option TypeSet := none
  resumePoint : Option ResumePointId := none
  /-- Kept alive for a resume point even without consumers. -/
  implicitlyUsed : Bool := false
  deriving DecidableEq

/-- **The state to resume from** after an effectful instruction: the interpreter continues behind
the call with exactly this operand stack. -/
structure ResumePoint where
  id : ResumePointId
  instruction : NodeId
  pc : UInt32
  stack : List NodeId
  locals : List NodeId
  deriving DecidableEq, Repr, Inhabited

/-- The text of a resume point in a dump. -/
def ResumePoint.text (r : ResumePoint) : String :=
  let list (ids : List NodeId) := "[" ++ String.intercalate " " (ids.map toString) ++ "]"
  s!"{r.id} after {r.instruction} pc={r.pc} stack=" ++ list r.stack ++ " locals=" ++ list r.locals

/-! ## Facts -/

/-- **What is known of a value**: its static type, the types observed for it, and its constant. -/
structure Facts where
  ty : ValueType
  types : Option TypeSet := none
  constant : Option Constant := none
  deriving DecidableEq

instance : Inhabited Facts := ⟨{ ty := .noValue }⟩

namespace Facts

/-- The value may have static type `ty` at run time; a boxed value may have any type that was
observed for it. -/
def mightBe (f : Facts) (ty : ValueType) : Bool :=
  match f.ty with
  | .boxed => f.types.all (·.mightBe ty)
  | known => known = ty

/-- Storing the value into a tenured object has to tell the collector, since it may be a young
object. -/
def needsPostBarrier (f : Facts) : Bool := f.mightBe .object

/-- The class that all objects observed for the value share. -/
def knownClass? (f : Facts) : Option ObjectClass := f.types.bind TypeSet.knownClass?

def int32? (f : Facts) : Option Int32 := f.constant.bind Constant.int32?

def number? (f : Facts) : Option Numeric := f.constant.bind Constant.number?

end Facts

/-- The facts that a node records about its value. -/
def Node.facts (n : Node) : Facts := { ty := n.ty, types := n.types, constant := n.op.constant? }

/-- The text of a node in a dump. -/
def Node.text (n : Node) : String :=
  let inputs := if n.inputs.isEmpty then ""
    else " " ++ String.intercalate ", " (n.inputs.map toString)
  let types := match n.types with
    | some types => s!" {types}"
    | none => ""
  let resume := match n.resumePoint with
    | some r => s!" [{r}]"
    | none => ""
  s!"{n.id} = {n.op}" ++ inputs ++ s!" : {n.ty}" ++ types ++ resume

end CallSite
