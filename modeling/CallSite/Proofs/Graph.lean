import CallSite.Graph.Builder
import Mathlib.Data.List.Basic

/-!
# What the operations of a graph leave alone

Adding a node or a resume point, or marking a node, changes one node at most.  The lemmas say what
is behind a handle afterwards, so that no later proof looks into the arrays.

* `Graph.node?_modify`, `Graph.node?_add`, `Graph.node?_addResumePoint` — the nodes after one
  operation.
* `Graph.marked` — the graph with some nodes marked as implicitly used, which is what marking the
  operands of a call comes to when all of them are there.
-/

namespace CallSite

lemma NodeId.index_inj {i j : NodeId} : i.index = j.index ↔ i = j := by
  cases i
  cases j
  simp

namespace Graph

/-! ## Handles -/

lemma lt_size_of_node? {g : Graph} {id : NodeId} {n : Node} (h : g.node? id = some n) :
    id.index < g.size := by
  rw [node?] at h
  exact (Array.getElem?_eq_some_iff.1 h).1

lemma exists_node? {g : Graph} {id : NodeId} (h : id.index < g.size) :
    ∃ n, g.node? id = some n := by
  have hlt : id.index < g.nodes.size := h
  exact ⟨g.nodes[id.index], Array.getElem?_eq_getElem hlt⟩

lemma node?_of_size_le {g : Graph} {id : NodeId} (h : g.size ≤ id.index) : g.node? id = none :=
  Array.getElem?_eq_none h

/-! ## Nodes after an operation -/

lemma node?_modify (g : Graph) (id j : NodeId) (f : Node → Node) :
    (g.modify id f).node? j = if j = id then (g.node? j).map f else g.node? j := by
  rw [node?, modify, Array.getElem?_modify]
  by_cases h : j = id
  · subst h
    rw [if_pos rfl, if_pos rfl]
    rfl
  · rw [if_neg h, if_neg fun h' => h (NodeId.index_inj.1 h').symm]
    rfl

lemma node?_add (g : Graph) (op : Op) (inputs : List NodeId) (ty : ValueType)
    (types : Option TypeSet) (j : NodeId) :
    (g.add op inputs ty types).node? j =
      if j = g.nextId then some { id := g.nextId, op, inputs, ty, types } else g.node? j := by
  rw [node?, add, addAs, Array.getElem?_push]
  by_cases h : j = g.nextId
  · subst h
    exact (if_pos rfl).trans (if_pos rfl).symm
  · have hj : j.index ≠ g.nodes.size := fun h' => h (NodeId.index_inj.1 h')
    rw [if_neg h, if_neg hj]
    rfl

lemma node?_addResumePoint (g : Graph) (id j : NodeId) (pc : UInt32) (stack locals : List NodeId) :
    (g.addResumePoint id pc stack locals).node? j =
      if j = id then (g.node? j).map fun n => { n with resumePoint := some g.nextResumePoint }
      else g.node? j :=
  node?_modify _ id j _

/-! ## Marking operands -/

/-- **The graph with nodes marked** as implicitly used. -/
def marked (g : Graph) (ids : List NodeId) : Graph := ids.foldl markImplicitlyUsed g

/-- When all operands are there, marking them fails at none. -/
lemma markOperands_of_forall {g : Graph} {ids : List NodeId} (h : ∀ id ∈ ids, id.index < g.size) :
    g.markOperands ids = (g.marked ids, none) := by
  induction ids generalizing g with
  | nil => rfl
  | cons id ids ih =>
    obtain ⟨n, hn⟩ := exists_node? (h id (List.mem_cons_self ..))
    rw [markOperands, hn]
    refine ih fun j hj => ?_
    rw [markImplicitlyUsed, size_modify]
    exact h j (List.mem_cons_of_mem _ hj)

@[simp] lemma size_marked (g : Graph) (ids : List NodeId) : (g.marked ids).size = g.size := by
  induction ids generalizing g with
  | nil => rfl
  | cons id ids ih => exact (ih _).trans (size_modify g id _)

@[simp] lemma block_marked (g : Graph) (ids : List NodeId) : (g.marked ids).block = g.block := by
  induction ids generalizing g with
  | nil => rfl
  | cons id ids ih => exact ih _

@[simp] lemma resumePoints_marked (g : Graph) (ids : List NodeId) :
    (g.marked ids).resumePoints = g.resumePoints := by
  induction ids generalizing g with
  | nil => rfl
  | cons id ids ih => exact ih _

@[simp] lemma dependencies_marked (g : Graph) (ids : List NodeId) :
    (g.marked ids).dependencies = g.dependencies := by
  induction ids generalizing g with
  | nil => rfl
  | cons id ids ih => exact ih _

/-- **Marking changes the marks alone**, and those of the given nodes only. -/
theorem node?_marked (g : Graph) (ids : List NodeId) (j : NodeId) :
    (g.marked ids).node? j =
      (g.node? j).map fun n => { n with implicitlyUsed := n.implicitlyUsed || decide (j ∈ ids) } := by
  induction ids generalizing g with
  | nil => simp [marked]
  | cons id ids ih =>
    show ((g.markImplicitlyUsed id).marked ids).node? j = _
    rw [ih, markImplicitlyUsed, node?_modify]
    by_cases h : j = id
    · subst h
      simp [Function.comp_def]
    · simp [h]

end Graph

end CallSite
