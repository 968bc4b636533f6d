import CallSite.Proofs.Classes.Attempt
import CallSite.Proofs.Elsewhere

/-!
# What is known of the inputs of a node

A node that a plan describes takes operands of the call and nodes that the plan describes before it.
A law about its inputs says which of these they are and what is known of their values, and in the
graph both are found again.

* `Ref.Names`, `Ref.IsNode` — an input is a node that is written down.
* `Operand.Is`, `Operand.Known` — what is known of a value is what its node records.
* `Draft.writes_add_known` — **a node that is written down is known to what follows**.
* `Plan.handle`, `Plan.Places` — where a plan puts its nodes.
* `Inliner.Emits.exists_places`, `Inliner.Emits.places_of_names` — **new nodes are those that are
  written down**, and the inputs that they name are in front of them.
* `Inliner.Emits.isNew_of_isNode`, `Inliner.Emits.node_of_known` — so are their inputs, and what is
  known of a value is recorded by its node.
-/

namespace CallSite

/-! ## Naming nodes -/

/-- **The value is a node that is written down**, among the nodes before. -/
def Ref.Names (before : List Sketch) (r : Ref) (x : Sketch) : Prop :=
  ∃ k, r = .added k ∧ before[k]? = some x

/-- A node added later changes nothing. -/
lemma Ref.Names.mono {before after : List Sketch} {r : Ref} {x : Sketch} (h : r.Names before x)
    (hafter : before <+: after) : r.Names after x := by
  obtain ⟨k, rfl, hx⟩ := h
  obtain ⟨more, rfl⟩ := hafter
  obtain ⟨hk, -⟩ := List.getElem?_eq_some_iff.1 hx
  exact ⟨k, rfl, (List.getElem?_append_left hk).trans hx⟩

/-- **The value is a node of this operation and these inputs**, among the nodes before. -/
def Ref.IsNode (before : List Sketch) (r : Ref) (op : Op) (inputs : List Ref) : Prop :=
  ∃ x, r.Names before x ∧ x.op = op ∧ x.inputs = inputs

lemma Ref.IsNode.mono {before after : List Sketch} {r : Ref} {op : Op} {inputs : List Ref}
    (h : r.IsNode before op inputs) (hafter : before <+: after) : r.IsNode after op inputs := by
  obtain ⟨x, hx, hop, hinputs⟩ := h
  exact ⟨x, hx.mono hafter, hop, hinputs⟩

/-- What a node records of its value. -/
def Sketch.facts (x : Sketch) : Facts :=
  { ty := x.ty, types := x.types, constant := x.op.constant? }

/-- **The operand is a node that is written down**, with what that records. -/
structure Operand.Is (before : List Sketch) (v : Operand) (x : Sketch) : Prop where
  names : v.ref.Names before x
  facts : v.toFacts = x.facts

lemma Operand.Is.mono {before after : List Sketch} {v : Operand} {x : Sketch}
    (h : v.Is before x) (hafter : before <+: after) : v.Is after x :=
  ⟨h.names.mono hafter, h.facts⟩

lemma Operand.Is.isNode {before : List Sketch} {v : Operand} {x : Sketch} (h : v.Is before x) :
    v.ref.IsNode before x.op x.inputs :=
  ⟨x, h.names, rfl, rfl⟩

/-- **The operand is one of the call, or a node that is written down.** -/
def Operand.Known (s : Site) (before : List Sketch) (v : Operand) : Prop :=
  v ∈ s.call.operands ∨ ∃ x, v.Is before x

lemma Operand.Known.mono {s : Site} {before after : List Sketch} {v : Operand}
    (h : v.Known s before) (hafter : before <+: after) : v.Known s after :=
  h.imp_right fun ⟨x, hx⟩ => ⟨x, hx.mono hafter⟩

/-- **A node that is written down is known to what follows.** -/
theorem Draft.writes_add_known {law : List Sketch → Sketch → Prop} {before : List Sketch} {op : Op}
    {inputs : List Operand} {ty : ValueType} {types : Option TypeSet}
    {holds : Operand → List Sketch → Prop}
    (obeys : law before ⟨op, inputs.map (·.ref), ty, types⟩)
    (h : ∀ v, v.toFacts = { ty, types, constant := op.constant? } →
      v.Is (before ++ [⟨op, inputs.map (·.ref), ty, types⟩])
        ⟨op, inputs.map (·.ref), ty, types⟩ →
      holds v (before ++ [⟨op, inputs.map (·.ref), ty, types⟩])) :
    (add op inputs ty types).Writes law before holds :=
  writes_add obeys (h _ rfl ⟨⟨before.length, rfl, List.getElem?_concat_length⟩, rfl⟩)

/-! ## Placing nodes -/

/-- **A node of this operation and these inputs** stands at `first` or later. -/
def Graph.IsNew (g : Graph) (first : Nat) (id : NodeId) (op : Op) (inputs : List NodeId) : Prop :=
  first ≤ id.index ∧ ∃ n, g.node? id = some n ∧ n.op = op ∧ n.inputs = inputs

/-- What a node is it is for certain. -/
lemma Graph.IsNew.unique {g : Graph} {first : Nat} {id : NodeId} {op op' : Op}
    {inputs inputs' : List NodeId} (h : g.IsNew first id op inputs)
    (h' : g.IsNew first id op' inputs') : op = op' ∧ inputs = inputs' := by
  obtain ⟨-, n, hn, rfl, rfl⟩ := h
  obtain ⟨-, m, hm, rfl, rfl⟩ := h'
  obtain rfl := Option.some.inj (hn.symm.trans hm)
  exact ⟨rfl, rfl⟩

/-- An operand that is looked up is what is known of a node. -/
lemma Builder.exists_node_of_operand? {b : Builder} {id : NodeId} {x : Operand}
    (h : b.operand? id = some x) :
    ∃ n, b.graph.node? id = some n ∧ x.toFacts = n.facts ∧ x.ref = .node id := by
  obtain ⟨f, hf, rfl⟩ := Option.map_eq_some_iff.1 h
  obtain ⟨n, hn, rfl⟩ := Option.map_eq_some_iff.1 hf
  exact ⟨n, hn, rfl, rfl⟩

/-- A plan fixes what its nodes record. -/
lemma Node.facts_of_blueprint {n m : Node} (h : n.blueprint = m.blueprint) : n.facts = m.facts :=
  congrArg (fun bp : Blueprint => Facts.mk bp.ty bp.types bp.op.constant?) h

namespace Plan

/-- The handle of a value that the plan mentions, when the plan is emitted for a call. -/
def handle (p : Plan) (b : Builder) (call : Call NodeId) (r : Ref) : NodeId :=
  r.resolve (p.opened b call).2.builder.graph.size (p.opened b call).1

/-- **A node that is written down is in the graph.** -/
structure Places (p : Plan) (b : Builder) (call : Call NodeId) (b' : Builder) (x : Sketch)
    (id : NodeId) (n : Node) : Prop where
  fresh : b.graph.size ≤ id.index
  node : b'.graph.node? id = some n
  op : n.op = x.op
  inputs : n.inputs = x.inputs.map (p.handle b call)
  ty : n.ty = x.ty
  types : n.types = x.types

variable {p : Plan} {b b' : Builder} {call : Call NodeId} {x : Sketch} {id : NodeId} {n : Node}

lemma Places.facts (h : p.Places b call b' x id n) : n.facts = x.facts := by
  rw [Node.facts, Sketch.facts, h.op, h.ty, h.types]

/-- The node at a position of the plan, by what it is. -/
lemma places_of_blueprint {k : Nat}
    (hn : b'.graph.node? ⟨(p.opened b call).2.builder.graph.size + k⟩ = some n)
    (h : n.blueprint = x.resolve (p.opened b call).2.builder.graph.size (p.opened b call).1) :
    p.Places b call b' x ⟨(p.opened b call).2.builder.graph.size + k⟩ n := by
  have hsize := p.size_opened b call
  refine ⟨?_, hn, congrArg Blueprint.op h, congrArg Blueprint.inputs h, congrArg Blueprint.ty h,
    congrArg Blueprint.types h⟩
  show _ ≤ _ + k
  omega

end Plan

namespace Inliner.Emits

variable {i : Inliner} {b b' : Builder} {call : Call NodeId} {callee : Callee} {r : Call Operand}
  {p : Plan} {x : Sketch} {id : NodeId} {n : Node} {k : Nat}

/-- **A new node** is the fork-join context or one that is written down. -/
theorem exists_places (h : i.Emits b call callee r p b') (hid : b.graph.size ≤ id.index)
    (hn : b'.graph.node? id = some n) :
    n.op = .forkJoinContext ∨ ∃ k x, id = p.handle b call (.added k) ∧
      p.sketches[k]? = some x ∧ p.Places b call b' x id n := by
  have hops := h.resolved.lt_size
  rcases Plan.sketch_of_new h.live hops h.emit hid hn with hcontext | ⟨k, x, rfl, hx, hn'⟩
  · exact .inl hcontext
  · exact .inr ⟨k, x, rfl, hx, Plan.places_of_blueprint hn hn'⟩

/-- **A node that is written down** is in the graph. -/
theorem places (h : i.Emits b call callee r p b') (hx : p.sketches[k]? = some x) :
    ∃ n, p.Places b call b' x (p.handle b call (.added k)) n := by
  obtain ⟨n, hn, hblueprint⟩ := Plan.node_of_sketch h.live h.resolved.lt_size h.emit hx
  exact ⟨n, Plan.places_of_blueprint hn hblueprint⟩

/-- **A node that an input names** stands in front of the node that takes the input. -/
theorem places_of_names (h : i.Emits b call callee r p b') {ref : Ref}
    (href : ref.Names (p.sketches.take k) x) :
    (p.handle b call ref).index < (p.handle b call (.added k)).index ∧
      ∃ n, p.Places b call b' x (p.handle b call ref) n := by
  obtain ⟨j, rfl, hx⟩ := href
  rw [List.getElem?_take] at hx
  split at hx
  · next hj => exact ⟨Nat.add_lt_add_left hj _, h.places hx⟩
  · cases hx

/-- An input that is written down is a new node. -/
lemma isNew_of_isNode (h : i.Emits b call callee r p b') {ref : Ref} {op : Op}
    {inputs : List Ref} (href : ref.IsNode (p.sketches.take k) op inputs) :
    b'.graph.IsNew b.graph.size (p.handle b call ref) op (inputs.map (p.handle b call)) := by
  obtain ⟨y, hy, rfl, rfl⟩ := href
  obtain ⟨-, m, hm⟩ := h.places_of_names hy
  exact ⟨hm.fresh, m, hm.node, hm.op, hm.inputs⟩

/-- It stands in front of the node that takes it. -/
lemma lt_of_isNode (h : i.Emits b call callee r p b') {ref : Ref} {op : Op}
    {inputs : List Ref} (href : ref.IsNode (p.sketches.take k) op inputs) :
    (p.handle b call ref).index < (p.handle b call (.added k)).index := by
  obtain ⟨y, hy, -, -⟩ := href
  exact (h.places_of_names hy).1

/-- **What is known of an operand of the call** its node records, before and after. -/
theorem node_of_operand (h : i.Emits b call callee r p b') {v : Operand} (hv : v ∈ r.operands) :
    p.handle b call v.ref ∈ call.operands ∧
      (∃ m, b.graph.node? (p.handle b call v.ref) = some m ∧ m.facts = v.toFacts) ∧
      ∃ n, b'.graph.node? (p.handle b call v.ref) = some n ∧ n.facts = v.toFacts := by
  obtain ⟨id, hid, m, hm, href, hfacts⟩ := h.resolved.exists_facts hv
  have hhandle : p.handle b call v.ref = id := by
    rw [href]
    rfl
  have hextends := h.orderly.extends h.live h.resolved.lt_size h.emit
  have hkept := hextends.node? (h.resolved.lt_size id hid)
  rw [hm, Option.map_some, Option.map_eq_some_iff] at hkept
  obtain ⟨n, hn, hblueprint⟩ := hkept
  rw [hhandle]
  refine ⟨hid, ⟨m, hm, hfacts⟩, n, hn, ?_⟩
  exact (Node.facts_of_blueprint hblueprint).trans hfacts

/-- **What is known of a value is recorded by its node.** -/
theorem node_of_known (h : i.Emits b call callee r p b') {v : Operand}
    (hv : v.Known (i.site r) (p.sketches.take k)) :
    ∃ n, b'.graph.node? (p.handle b call v.ref) = some n ∧ n.facts = v.toFacts := by
  rcases hv with hv | ⟨x, hnames, hfacts⟩
  · exact (h.node_of_operand hv).2.2
  · obtain ⟨-, n, hplaces⟩ := h.places_of_names hnames
    exact ⟨n, hplaces.node, hplaces.facts.trans hfacts.symm⟩

end Inliner.Emits

end CallSite
