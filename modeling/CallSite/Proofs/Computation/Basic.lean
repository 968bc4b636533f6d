import CallSite.Proofs.Outcome
import Mathlib.Logic.Function.Basic

/-!
# What new nodes compute

The nodes that a call is replaced by stand in one straight line, so running them is one pass: each
takes the values of its inputs and is bound to what its operation makes of them.  What operations
make of values is left open; a call can be run on the numbers of its operands, or just to see which
operands a value is computed from.

* `Meaning` — what operations compute.
* `Blueprint.run`, `Graph.run` — **running nodes**.
* `Sketch.RunsTo`, `Draft.writes_add_runs` — the same for nodes that are written down, one at a
  time.
* `Builder.Pushes`, `Inliner.Emits.pushes` — **a call whose result is a value that is written
  down**: where the value is left, and what running the new nodes is.
-/

namespace CallSite

open Draft (push)

/-! ## Running nodes -/

/-- **What operations compute** from the values of their inputs, where they do. -/
abbrev Meaning (V : Type) := Op → List V → Option V

/-- Which operands a value is computed from, in order. -/
def Meaning.leaves : Meaning (List NodeId) := fun _ ids => some ids.flatten

variable {V : Type} {m : Meaning V}

/-- **Running nodes** that are numbered from `next` on: each takes the values of its inputs. -/
def Blueprint.run (m : Meaning V) (next : Nat) (ν : NodeId → V) :
    List Blueprint → Option (NodeId → V)
  | [] => some ν
  | x :: xs => (m x.op (x.inputs.map ν)).bind fun v =>
    run m (next + 1) (Function.update ν ⟨next⟩ v) xs

/-- **The values after the nodes from `first` on were run**, where those before have values. -/
def Graph.run (m : Meaning V) (g : Graph) (first : Nat) (ν : NodeId → V) : Option (NodeId → V) :=
  Blueprint.run m first ν ((g.since first).map Node.blueprint)

namespace Blueprint

variable {next : Nat} {ν ν' : NodeId → V}

lemma run_append (xs ys : List Blueprint) : run m next ν (xs ++ ys) =
    (run m next ν xs).bind fun ν' => run m (next + xs.length) ν' ys := by
  induction xs generalizing next ν with
  | nil => rfl
  | cons x xs ih =>
    rw [List.cons_append, run, run]
    cases m x.op (x.inputs.map ν) with
    | none => rfl
    | some v =>
      rw [Option.bind_some, Option.bind_some, ih, List.length_cons, Nat.add_assoc, Nat.add_comm 1]

/-- **What was there keeps its value.** -/
theorem run_of_lt {xs : List Blueprint} (h : run m next ν xs = some ν') {id : NodeId}
    (hid : id.index < next) : ν' id = ν id := by
  induction xs generalizing next ν with
  | nil =>
    obtain rfl := Option.some.inj h
    rfl
  | cons x xs ih =>
    obtain ⟨v, -, hrest⟩ := Option.bind_eq_some_iff.1 h
    have hne : id ≠ ⟨next⟩ := by
      rintro rfl
      exact Nat.lt_irrefl next hid
    rw [ih hrest (Nat.lt_succ_of_lt hid), Function.update_of_ne hne]

end Blueprint

/-! ## Writing nodes down -/

section Writing

variable {base : Nat} {context : NodeId} {ν ν' : NodeId → V}

/-- **Running nodes that are written down**, when they are numbered from `base` on. -/
def Sketch.RunsTo (m : Meaning V) (base : Nat) (context : NodeId) (ν : NodeId → V)
    (xs : List Sketch) (ν' : NodeId → V) : Prop :=
  Blueprint.run m base ν (xs.map (·.resolve base context)) = some ν'

/-- The node that an operand is. -/
def Operand.resolve (base : Nat) (context : NodeId) (x : Operand) : NodeId :=
  x.ref.resolve base context

namespace Sketch.RunsTo

lemma nil : RunsTo m base context ν [] ν := rfl

/-- Running one node more. -/
lemma concat {xs : List Sketch} (h : RunsTo m base context ν xs ν') {x : Sketch} {v : V}
    (hv : m x.op (x.inputs.map fun r => ν' (r.resolve base context)) = some v) :
    RunsTo m base context ν (xs ++ [x]) (Function.update ν' ⟨base + xs.length⟩ v) := by
  have hv' : m (x.resolve base context).op ((x.resolve base context).inputs.map ν') = some v := by
    rw [Sketch.resolve, List.map_map]
    exact hv
  have hlength : base + xs.length = base + (xs.map (·.resolve base context)).length := by
    rw [List.length_map]
  rw [RunsTo, List.map_append, Blueprint.run_append, h, hlength, Option.bind_some,
    List.map_singleton, Blueprint.run, hv']
  rfl

/-- What was there keeps its value. -/
lemma of_lt {xs : List Sketch} (h : RunsTo m base context ν xs ν') {id : NodeId}
    (hid : id.index < base) : ν' id = ν id :=
  Blueprint.run_of_lt h hid

end Sketch.RunsTo

namespace Draft

variable {α : Type} {law : List Sketch → Sketch → Prop} {before : List Sketch}

/-- A node is written down, and computes a value. -/
lemma writes_add_runs {op : Op} {inputs : List Operand} {ty : ValueType} {types : Option TypeSet}
    {holds : Operand → List Sketch → Prop} {v : V}
    (obeys : law before ⟨op, inputs.map (·.ref), ty, types⟩)
    (h : Sketch.RunsTo m base context ν before ν')
    (hv : m op (inputs.map fun x => ν' (x.resolve base context)) = some v)
    (hholds : ∀ x after, x.resolve base context = ⟨base + before.length⟩ →
      Sketch.RunsTo m base context ν after (Function.update ν' (x.resolve base context) v) →
      holds x after) :
    (add op inputs ty types).Writes law before holds := by
  refine writes_add obeys (hholds _ _ rfl (h.concat ?_))
  rw [List.map_map]
  exact hv

end Draft

end Writing

/-! ## Values that are pushed -/

variable {x : Draft Operand} {b b' : Builder} {call : Call NodeId}

/-- **What holds of a value that is written down** holds of it with the nodes of the plan. -/
theorem Draft.holds_of_writes {law : List Sketch → Sketch → Prop}
    {holds : Operand → List Sketch → Prop} (h : x.Writes law [] holds) :
    holds (x 0).1 (Plan.of (x >>= push)).sketches := by
  obtain ⟨new, hnew, -, -, hholds⟩ := h
  have hsketches : (Plan.of (x >>= push)).sketches = new := by
    have hsteps : (Plan.of (x >>= push)).steps = (x 0).2.2 ++ [.push (x 0).1.ref] := rfl
    rw [Plan.sketches, hsteps, List.filterMap_append]
    exact (List.append_nil _).trans hnew
  rw [hsketches]
  exact hholds

/-- **The value of a draft is the result of the call**: `nodes` are written down for it and added to
the graph, and it is left on the stack. -/
structure Builder.Pushes (b b' : Builder) (x : Draft Operand) (context : NodeId)
    (nodes : List Sketch) : Prop where
  written : ∀ {law : List Sketch → Sketch → Prop} {holds : Operand → List Sketch → Prop},
    x.Writes law [] holds → holds (x 0).1 nodes
  stack : b'.stack = b.stack ++ [(x 0).1.resolve b.graph.size context]
  added : ∀ {k : Nat} {node : Sketch}, nodes[k]? = some node →
    ∃ n, b'.graph.node? ⟨b.graph.size + k⟩ = some n ∧
      n.blueprint = node.resolve b.graph.size context
  run : ∀ {V : Type} {m : Meaning V} {ν ν' : NodeId → V},
    Sketch.RunsTo m b.graph.size context ν nodes ν' → b'.graph.run m b.graph.size ν = some ν'

namespace Inliner

variable {i : Inliner} {callee : Callee} {r : Call Operand}

/-- **A plan that pushes the value of a draft** does so in the graph. -/
theorem Emits.pushes (h : i.Emits b call callee r (.of (x >>= push)) b') :
    ∃ context nodes, b.Pushes b' x context nodes := by
  have hsteps : (Plan.of (x >>= push)).steps = (x 0).2.2 ++ [.push (x 0).1.ref] := rfl
  obtain ⟨context, hbecomes⟩ := h.becomes_of_push (v := (x 0).1.ref) rfl
    (by rw [hsteps]; exact List.mem_append_right _ (List.mem_singleton_self _))
    (by rw [hsteps, List.getLast?_concat]; rfl)
  refine ⟨context, (Plan.of (x >>= push)).sketches, Draft.holds_of_writes, hbecomes.stack,
    fun {k node} hnode => ?_, fun hruns => ?_⟩
  · have hk := hbecomes.node? k
    rwa [List.getElem?_map, hnode, Option.map_some, Option.map_eq_some_iff] at hk
  · rw [Graph.run, hbecomes.added]
    exact hruns

/-! ## Values of the arguments -/

namespace Resolved

variable (h : Resolved b call r)
include h

/-- The arguments that are looked up have the values of the arguments. -/
lemma map_args (ν : NodeId → V) (base : Nat) (context : NodeId) :
    (r.args.map fun x => ν (x.resolve base context)) = call.args.map ν := by
  have hargs := h.forall₂_args
  generalize call.args = ids, r.args = xs at hargs ⊢
  induction hargs with
  | nil => rfl
  | @cons id x ids xs hx _ ih =>
    have href : x.ref = .node id := (Resolved.of_operand? hx).1
    rw [List.map_cons, List.map_cons, ih, Operand.resolve, href]
    rfl

/-- **What holds of each argument** holds of each that is looked up. -/
theorem forall_args {P : Operand → Prop}
    (hP : ∀ id ∈ call.args, ∀ x, b.operand? id = some x → P x) : ∀ x ∈ r.args, P x := by
  intro x hx
  obtain ⟨id, hid, hoperand⟩ := exists_mem_of_forall₂ h.forall₂_args.flip hx
  exact hP id hid x hoperand

end Resolved

end Inliner

end CallSite
