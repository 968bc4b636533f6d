import CallSite.Proofs.Replaced

/-!
# The nodes of a plan, one after the other

What a node of a specialized call may be depends on the nodes in front of it: an access is guarded
by a check that comes first, a store works on a vector that was made writable.  Such a property is a
*law* that each node of a plan obeys, given the nodes that the plan describes before it.  There is
one rule for each way of writing steps down, and what is shown of the nodes of a plan holds of the
nodes of the graph.

* `Sketch`, `Plan.sketches` — the nodes that a plan describes, in terms of what it can mention.
* `Sketch.Lawful`, `Plan.Lawful` — **each node obeys a law**.
* `Draft.Writes` — what writing down a draft describes, with one rule for each way of writing steps.
* `Draft.Appends` — the same of a draft of which nothing else matters.
* `Plan.sketch_of_new`, `Plan.node_of_sketch` — the new nodes are those that the plan describes.
-/

namespace CallSite

/-! ## Sketches -/

/-- **A node as a plan describes it.** -/
structure Sketch where
  op : Op
  inputs : List Ref
  ty : ValueType
  types : Option TypeSet

/-- The node that a step describes. -/
def Step.sketch? : Step → Option Sketch
  | .add op inputs ty types => some ⟨op, inputs, ty, types⟩
  | .guardTop v observed =>
    some ⟨.typeBarrier .typeSet, [v], observed.knownType, some observed⟩
  | .push _ | .resume _ => none

/-- **The nodes that a plan describes**, in order. -/
def Plan.sketches (p : Plan) : List Sketch := p.steps.filterMap Step.sketch?

/-- The node in the graph, when the nodes of the plan are numbered from `base` on. -/
def Sketch.resolve (base : Nat) (context : NodeId) (x : Sketch) : Blueprint :=
  ⟨x.op, x.inputs.map (·.resolve base context), x.ty, x.types⟩

lemma Step.blueprint?_eq (base : Nat) (context : NodeId) (s : Step) :
    s.blueprint? base context = s.sketch?.map (·.resolve base context) := by
  cases s <;> rfl

/-! ## Laws -/

namespace Sketch

variable {law : List Sketch → Sketch → Prop}

/-- **Each of the nodes obeys the law**, given the nodes before it. -/
def Lawful (law : List Sketch → Sketch → Prop) (before : List Sketch) : List Sketch → Prop
  | [] => True
  | x :: xs => law before x ∧ Lawful law (before ++ [x]) xs

lemma lawful_append {before xs ys : List Sketch} (hxs : Lawful law before xs)
    (hys : Lawful law (before ++ xs) ys) : Lawful law before (xs ++ ys) := by
  induction xs generalizing before with
  | nil => rwa [List.append_nil] at hys
  | cons x xs ih =>
    refine ⟨hxs.1, ih hxs.2 ?_⟩
    rwa [List.append_assoc, List.singleton_append]

/-- The node at a position obeys the law, given those up to there. -/
lemma Lawful.getElem? {before xs : List Sketch} (h : Lawful law before xs) {k : Nat} {x : Sketch}
    (hx : xs[k]? = some x) : law (before ++ xs.take k) x := by
  induction xs generalizing before k with
  | nil => cases hx
  | cons y xs ih =>
    cases k with
    | zero =>
      obtain rfl := Option.some.inj hx
      rw [List.take_zero, List.append_nil]
      exact h.1
    | succ k =>
      have hlaw := ih h.2 hx
      rwa [List.append_assoc, List.singleton_append] at hlaw

lemma Lawful.mono {law' : List Sketch → Sketch → Prop} {before xs : List Sketch}
    (h : Lawful law before xs) (weaken : ∀ before x, law before x → law' before x) :
    Lawful law' before xs := by
  induction xs generalizing before with
  | nil => trivial
  | cons x xs ih => exact ⟨weaken before x h.1, ih h.2⟩

lemma lawful_of_forall {before xs : List Sketch} (h : ∀ before, ∀ x ∈ xs, law before x) :
    Lawful law before xs := by
  induction xs generalizing before with
  | nil => trivial
  | cons x xs ih =>
    refine ⟨h before x (List.mem_cons_self ..), ih fun before' y hy => ?_⟩
    exact h before' y (List.mem_cons_of_mem x hy)

end Sketch

namespace Plan

/-- **Each node of the plan obeys the law**, given the nodes before it. -/
def Lawful (law : List Sketch → Sketch → Prop) (p : Plan) : Prop := Sketch.Lawful law [] p.sketches

lemma Lawful.mono {law law' : List Sketch → Sketch → Prop} {p : Plan} (h : p.Lawful law)
    (weaken : ∀ before x, law before x → law' before x) : p.Lawful law' :=
  Sketch.Lawful.mono h weaken

/-- The `k`-th node obeys the law, given those before it. -/
lemma Lawful.getElem? {law : List Sketch → Sketch → Prop} {p : Plan} (h : p.Lawful law) {k : Nat}
    {x : Sketch} (hx : p.sketches[k]? = some x) : law (p.sketches.take k) x :=
  Sketch.Lawful.getElem? h hx

/-- A node is a guard of the result, or has an operation of the plan. -/
lemma op_of_mem_sketches {p : Plan} {x : Sketch} (hx : x ∈ p.sketches) :
    x.op = .typeBarrier .typeSet ∨ x.op ∈ p.ops := by
  obtain ⟨s, hs, hsketch⟩ := List.mem_filterMap.1 hx
  cases s with
  | add op inputs ty types =>
    cases hsketch
    exact .inr (List.mem_filterMap.2 ⟨_, hs, rfl⟩)
  | guardTop v observed =>
    cases hsketch
    exact .inl rfl
  | _ => cases hsketch

/-- An operation of the nodes that is no guard is one of the plan. -/
lemma mem_ops_of_sketch {p : Plan} {k : Nat} {x : Sketch} (hx : p.sketches[k]? = some x)
    (hop : x.op ≠ .typeBarrier .typeSet) : x.op ∈ p.ops :=
  (op_of_mem_sketches (List.mem_of_getElem? hx)).resolve_left hop

/-- A law about operations that the plan does not have. -/
lemma lawful_of_emits {law : List Sketch → Sketch → Prop} {S : Op → Prop} {p : Plan}
    (h : p.Emits S) (hS : ∀ before x, S x.op → law before x)
    (hguard : ∀ before x, x.op = .typeBarrier .typeSet → law before x) : p.Lawful law := by
  refine Sketch.lawful_of_forall fun before x hx => ?_
  rcases op_of_mem_sketches hx with hop | hop
  · exact hguard before x hop
  · exact hS before x (h _ hop)

end Plan

/-! ## Drafts -/

namespace Draft

variable {α β : Type} {law : List Sketch → Sketch → Prop} {before : List Sketch}

/-- **Written down after the nodes `before`**, the draft describes nodes that obey the law; of its
value and all nodes together `holds` is true. -/
def Writes (law : List Sketch → Sketch → Prop) (before : List Sketch) (d : Draft α)
    (holds : α → List Sketch → Prop) : Prop :=
  ∃ new, (d before.length).2.2.filterMap Step.sketch? = new ∧
    (d before.length).2.1 = (before ++ new).length ∧ Sketch.Lawful law before new ∧
    holds (d before.length).1 (before ++ new)

lemma writes_pure {a : α} {holds : α → List Sketch → Prop} (h : holds a before) :
    (pure a : Draft α).Writes law before holds := by
  refine ⟨[], rfl, ?_, trivial, ?_⟩
  · rw [List.append_nil]
    rfl
  · rwa [List.append_nil]

/-- The draft that follows starts after the nodes of the first one. -/
lemma writes_bind {x : Draft α} {f : α → Draft β} {holds : β → List Sketch → Prop}
    (h : x.Writes law before fun a after => (f a).Writes law after holds) :
    (x >>= f).Writes law before holds := by
  obtain ⟨xs, hxs, hcount, hlaw, ys, hys, hcount', hlaw', hholds⟩ := h
  rw [← hcount] at hys hcount' hholds
  refine ⟨xs ++ ys, ?_, ?_, Sketch.lawful_append hlaw hlaw', ?_⟩
  · rw [← hxs, ← hys]
    exact List.filterMap_append
  · rw [← List.append_assoc]
    exact hcount'
  · rw [← List.append_assoc]
    exact hholds

/-- What is known of a draft may be weakened. -/
lemma Writes.imp {d : Draft α} {holds holds' : α → List Sketch → Prop}
    (h : d.Writes law before holds) (weaken : ∀ a after, holds a after → holds' a after) :
    d.Writes law before holds' := by
  obtain ⟨new, hnew, hcount, hlaw, hholds⟩ := h
  exact ⟨new, hnew, hcount, hlaw, weaken _ _ hholds⟩

/-- The law may be weakened. -/
lemma Writes.mono {law' : List Sketch → Sketch → Prop} {d : Draft α}
    {holds : α → List Sketch → Prop} (h : d.Writes law before holds)
    (weaken : ∀ before x, law before x → law' before x) : d.Writes law' before holds := by
  obtain ⟨new, hnew, hcount, hlaw, hholds⟩ := h
  exact ⟨new, hnew, hcount, hlaw.mono weaken, hholds⟩

lemma writes_add {op : Op} {inputs : List Operand} {ty : ValueType} {types : Option TypeSet}
    {holds : Operand → List Sketch → Prop}
    (obeys : law before ⟨op, inputs.map (·.ref), ty, types⟩)
    (h : holds { ref := .added before.length, ty, types, constant := op.constant? }
      (before ++ [⟨op, inputs.map (·.ref), ty, types⟩])) :
    (add op inputs ty types).Writes law before holds := by
  refine ⟨[_], rfl, ?_, ⟨obeys, trivial⟩, h⟩
  rw [List.length_append]
  rfl

lemma writes_push {v : Operand} {holds : Unit → List Sketch → Prop} (h : holds () before) :
    (push v).Writes law before holds :=
  writes_pure (a := ()) h

lemma writes_resumeAfter {v : Operand} {holds : Unit → List Sketch → Prop}
    (h : holds () before) : (resumeAfter v).Writes law before holds :=
  writes_pure (a := ()) h

/-- A result that needs no guard adds no node. -/
lemma writes_guardTop {v : Operand} {observed : TypeSet} {barrier : Barrier}
    {holds : Unit → List Sketch → Prop}
    (obeys : law before ⟨.typeBarrier .typeSet, [v.ref], observed.knownType, some observed⟩)
    (h : barrier = .noBarrier → holds () before)
    (h' : barrier = .typeSet → holds ()
      (before ++ [⟨.typeBarrier .typeSet, [v.ref], observed.knownType, some observed⟩])) :
    (guardTop v observed barrier).Writes law before holds := by
  cases barrier with
  | noBarrier => exact writes_pure (h rfl)
  | typeSet =>
    refine ⟨[_], rfl, ?_, ⟨obeys, trivial⟩, h' rfl⟩
    rw [List.length_append]
    rfl

/-- A node that is the result. -/
lemma writes_result {op : Op} {inputs : List Operand} {ty : ValueType} {types : Option TypeSet}
    {holds : Unit → List Sketch → Prop} (obeys : law before ⟨op, inputs.map (·.ref), ty, types⟩)
    (h : holds () (before ++ [⟨op, inputs.map (·.ref), ty, types⟩])) :
    (result op inputs ty types).Writes law before holds :=
  writes_bind (writes_add obeys (writes_push h))

lemma writes_pushConstant {c : Constant} {holds : Unit → List Sketch → Prop}
    (obeys : law before ⟨.constant c, [], c.valueType, none⟩)
    (h : holds () (before ++ [⟨.constant c, [], c.valueType, none⟩])) :
    (pushConstant c).Writes law before holds :=
  writes_result obeys h

/-- A node that is the result and that execution can be resumed after. -/
lemma writes_effectfulResult {op : Op} {inputs : List Operand} {ty : ValueType}
    {types : Option TypeSet} {holds : Unit → List Sketch → Prop}
    (obeys : law before ⟨op, inputs.map (·.ref), ty, types⟩)
    (h : holds () (before ++ [⟨op, inputs.map (·.ref), ty, types⟩])) :
    (effectfulResult op inputs ty types).Writes law before holds :=
  writes_bind (writes_add obeys (writes_bind (writes_push (writes_resumeAfter h))))

/-- **The draft describes lawful nodes** behind the ones before. -/
def Appends (law : List Sketch → Sketch → Prop) (before : List Sketch) (d : Draft α) : Prop :=
  d.Writes law before fun _ after => before <+: after

lemma appends_pure (a : α) : (pure a : Draft α).Appends law before :=
  writes_pure (List.prefix_refl _)

lemma appends_add {op : Op} {inputs : List Operand} {ty : ValueType} {types : Option TypeSet}
    (obeys : law before ⟨op, inputs.map (·.ref), ty, types⟩) :
    (add op inputs ty types).Appends law before :=
  writes_add obeys (List.prefix_append _ _)

/-- Going on behind such a draft. -/
lemma Appends.then {x : Draft α} {f : α → Draft β} {holds : β → List Sketch → Prop}
    (hx : x.Appends law before)
    (h : ∀ a after, before <+: after → (f a).Writes law after holds) :
    (x >>= f).Writes law before holds :=
  writes_bind (hx.imp fun a after hafter => h a after hafter)

end Draft

/-- **A plan is lawful if its draft is.** -/
theorem Plan.lawful_of_writes {law : List Sketch → Sketch → Prop} {p : Plan} {d : Draft Unit}
    (hsteps : p.steps = d.steps) (h : d.Writes law [] fun _ _ => True) : p.Lawful law := by
  obtain ⟨new, hnew, -, hlaw, -⟩ := h
  have hsketches : p.sketches = new := by
    rw [Plan.sketches, hsteps, ← hnew]
    rfl
  rw [Plan.Lawful, hsketches]
  exact hlaw

/-! ## Nodes of the graph -/

namespace Plan

variable {p : Plan} {b b' : Builder} {call : Call NodeId}

lemma blueprints_eq_map (p : Plan) (b : Builder) (call : Call NodeId) :
    p.blueprints b call =
      p.sketches.map (·.resolve (p.opened b call).2.builder.graph.size (p.opened b call).1) := by
  rw [blueprints, sketches, List.map_filterMap]
  exact congrArg (List.filterMap · p.steps) (funext fun s => s.blueprint?_eq _ _)

/-- **A new node** is the fork-join context or one that the plan describes. -/
theorem sketch_of_new (hlive : b.isDead call.site = false)
    (hops : ∀ id ∈ call.operands, id.index < b.graph.size) (h : p.emit b call = .ok b')
    {id : NodeId} {n : Node} (hid : b.graph.size ≤ id.index) (hn : b'.graph.node? id = some n) :
    n.op = .forkJoinContext ∨ ∃ k x, id = ⟨(p.opened b call).2.builder.graph.size + k⟩ ∧
      p.sketches[k]? = some x ∧
      n.blueprint = x.resolve (p.opened b call).2.builder.graph.size (p.opened b call).1 := by
  rcases blueprint_of_new hlive hops h hid hn with hcontext | ⟨k, hk, hblueprint⟩
  · exact .inl hcontext
  · rw [blueprints_eq_map, List.getElem?_map, Option.map_eq_some_iff] at hblueprint
    obtain ⟨x, hx, hresolve⟩ := hblueprint
    exact .inr ⟨k, x, hk, hx, hresolve.symm⟩

/-- **A node that the plan describes** is there. -/
theorem node_of_sketch (hlive : b.isDead call.site = false)
    (hops : ∀ id ∈ call.operands, id.index < b.graph.size) (h : p.emit b call = .ok b') {k : Nat}
    {x : Sketch} (hx : p.sketches[k]? = some x) :
    ∃ n, b'.graph.node? ⟨(p.opened b call).2.builder.graph.size + k⟩ = some n ∧
      n.blueprint = x.resolve (p.opened b call).2.builder.graph.size (p.opened b call).1 := by
  have hadded := blueprint_added hlive hops h k
  rw [blueprints_eq_map, List.getElem?_map, hx, Option.map_some, Option.map_eq_some_iff] at hadded
  exact hadded

end Plan

end CallSite
