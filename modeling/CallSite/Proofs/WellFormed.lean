import CallSite.Proofs.Linked
import CallSite.Proofs.Run

/-!
# The graph is well formed

Nodes, the block that orders them and resume points refer to each other by position, and each of
the three is written by an operation of its own.  In every state of a builder the references are
right, also where an operation failed half way.

* `Builder.WellFormed` — **the references of a graph are right**.
* `Graph.Arranged` — the part of it that does not concern resume points, with one lemma for each way
  in which a graph changes.
* `Builder.Reachable.wellFormed` — **in every state the graph is well formed**.
-/

namespace CallSite

/-! ## The invariant -/

/-- **The references of a graph are right.** -/
structure Builder.WellFormed (b : Builder) : Prop where
  /-- A node is behind its own handle. -/
  node : ∀ id n, b.graph.node? id = some n → n.id = id
  /-- The block has all nodes, in the order in which they were added. -/
  block : b.graph.block.toList = (List.range b.graph.size).map NodeId.mk
  /-- A resume point is behind its own handle. -/
  resumePoint : ∀ k r, b.graph.resumePoint? k = some r → r.id = k
  /-- A node carries exactly the resume point that names it. -/
  resumed : ∀ id k, b.graph.resumed? id = some k ↔
    ∃ r, b.graph.resumePoint? k = some r ∧ r.instruction = id
  /-- A fork-join context that is remembered is one. -/
  context : ∀ id ∈ b.context, ∃ n, b.graph.node? id = some n ∧ n.op = .forkJoinContext
  dependencies : b.graph.dependencies.items.Nodup

namespace Graph

/-- **Nodes, block, fork-join context and facts are as they should be.** -/
structure Arranged (g : Graph) (context : Option NodeId) : Prop where
  node : ∀ id n, g.node? id = some n → n.id = id
  block : g.block.toList = (List.range g.size).map NodeId.mk
  context : ∀ id ∈ context, ∃ n, g.node? id = some n ∧ n.op = .forkJoinContext
  dependencies : g.dependencies.items.Nodup

variable {g : Graph} {context : Option NodeId}

lemma arranged_empty : Arranged {} none where
  node _ _ h := nomatch h
  block := rfl
  context _ h := nomatch h
  dependencies := .nil

/-! ## Ways in which a graph changes -/

namespace Arranged

/-- A node may change in everything but its handle and its operation. -/
lemma modify (h : g.Arranged context) (id : NodeId) {f : Node → Node}
    (hid : ∀ n, (f n).id = n.id) (hop : ∀ n, (f n).op = n.op) :
    (g.modify id f).Arranged context := by
  -- each node afterwards comes from one before, with the same handle and the same operation
  have hback : ∀ j n, (g.modify id f).node? j = some n →
      ∃ m, g.node? j = some m ∧ n.id = m.id := by
    intro j n hn
    rw [node?_modify] at hn
    split_ifs at hn
    · obtain ⟨m, hm, rfl⟩ := Option.map_eq_some_iff.1 hn
      exact ⟨m, hm, hid m⟩
    · exact ⟨n, hn, rfl⟩
  refine ⟨fun j n hn => ?_, ?_, fun j hj => ?_, h.dependencies⟩
  · obtain ⟨m, hm, hnid⟩ := hback j n hn
    exact hnid.trans (h.node j m hm)
  · rw [size_modify]
    exact h.block
  · obtain ⟨n, hn, hcontext⟩ := h.context j hj
    rw [node?_modify]
    split_ifs
    · exact ⟨f n, by rw [hn]; rfl, (hop n).trans hcontext⟩
    · exact ⟨n, hn, hcontext⟩

/-- A new node is behind the next handle and at the end of the block. -/
lemma add (h : g.Arranged context) (op : Op) (inputs : List NodeId) (ty : ValueType)
    (types : Option TypeSet) : (g.add op inputs ty types).Arranged context := by
  refine ⟨fun j n hn => ?_, ?_, fun j hj => ?_, h.dependencies⟩
  · rw [node?_add] at hn
    split_ifs at hn with hnext
    · rw [← Option.some.inj hn, hnext]
    · exact h.node j n hn
  · show (g.block.push g.nextId).toList = _
    rw [Array.toList_push, h.block, size_add, List.range_succ, List.map_append]
    rfl
  · obtain ⟨n, hn, hcontext⟩ := h.context j hj
    rw [node?_add_of_lt (lt_size_of_node? hn)]
    exact ⟨n, hn, hcontext⟩

/-- A fork-join context that is added may be remembered. -/
lemma addContext (h : g.Arranged context) :
    (g.add .forkJoinContext [] .object).Arranged (some g.nextId) := by
  obtain ⟨hnode, hblock, -, hdependencies⟩ := h.add .forkJoinContext [] .object none
  refine ⟨hnode, hblock, fun j hj => ?_, hdependencies⟩
  obtain rfl := Option.some.inj hj
  exact ⟨_, node?_add_self .., rfl⟩

lemma addResumePoint (h : g.Arranged context) (id : NodeId) (pc : UInt32)
    (stack locals : List NodeId) : (g.addResumePoint id pc stack locals).Arranged context := by
  have hpoints : ({ g with
      resumePoints := g.resumePoints.push ⟨g.nextResumePoint, id, pc, stack, locals⟩ } :
      Graph).Arranged context := ⟨h.node, h.block, h.context, h.dependencies⟩
  exact hpoints.modify id (f := fun n => { n with resumePoint := some g.nextResumePoint })
    (fun _ => rfl) fun _ => rfl

/-- Marking operands may stop half way. -/
lemma markOperands (h : g.Arranged context) (ids : List NodeId) :
    (g.markOperands ids).1.Arranged context := by
  induction ids generalizing g with
  | nil => exact h
  | cons id ids ih =>
    rw [Graph.markOperands]
    split
    · exact ih (h.modify id (fun _ => rfl) fun _ => rfl)
    · exact h

lemma commitDependencies (h : g.Arranged context) (facts : List Dependency) :
    (g.commitDependencies facts).Arranged context :=
  ⟨h.node, h.block, h.context, Dependencies.nodup_extend h.dependencies⟩

end Arranged

end Graph

namespace Builder

/-- **A commit, whether or not it fails, leaves the graph arranged.** -/
theorem commit_arranged {b : Builder} (h : b.graph.Arranged b.context) (call : Call NodeId)
    (facts : List Dependency) :
    match b.commit call facts with
    | .ok e => e.builder.graph.Arranged e.builder.context
    | .error (_, b') => b'.graph.Arranged b'.context := by
  have hmarked := h.markOperands call.operands
  rw [commit]
  split_ifs
  · exact h
  · dsimp only
    rcases hmark : b.graph.markOperands call.operands with ⟨g, _ | missing⟩ <;>
      rw [hmark] at hmarked
    · exact hmarked.commitDependencies facts
    · exact hmarked

namespace Reachable

/-- In every state the graph is arranged. -/
lemma arranged {b : Builder} (h : b.Reachable) : b.graph.Arranged b.context := by
  induction h with
  | new => exact Graph.arranged_empty
  | push _ _ ih => exact ih
  | pop _ ih => exact ih
  | defineLocal _ _ ih => exact ih
  | setPc _ _ ih => exact ih
  | addParameter _ _ _ _ ih => exact ih.add ..
  | addConstant _ _ ih => exact ih.add ..
  | @commit b call facts e _ hcommit ih =>
    have harranged := commit_arranged ih call facts
    rwa [hcommit] at harranged
  | @commitFailed b b' call facts err _ hcommit ih =>
    have harranged := commit_arranged ih call facts
    rwa [hcommit] at harranged
  | emitNode _ _ _ _ _ ih => exact ih.add ..
  | emitPush _ _ ih => exact ih
  | @emitResumePoint e e' id _ hresume ih =>
    rw [Emission.resumeAfter] at hresume
    split at hresume
    · cases hresume
    · split at hresume
      · cases hresume
      · cases hresume
        exact ih.addResumePoint ..
  | @emitGuard e e' id observed kind _ hguard ih =>
    rw [Emission.guardTop.eq_def] at hguard
    split at hguard
    · cases hguard
    · split at hguard
      · cases hguard
        exact ih
      · cases hguard
        exact ih.add ..
  | @emitContext e _ ih =>
    rw [Emission.forkJoinContext]
    split
    · exact ih
    · exact ih.addContext

/-- **In every state the graph is well formed.** -/
theorem wellFormed {b : Builder} (h : b.Reachable) : b.WellFormed where
  node := h.arranged.node
  block := h.arranged.block
  resumePoint := h.linked.id
  resumed _ _ := h.linked.resumed_iff
  context := h.arranged.context
  dependencies := h.arranged.dependencies

end Reachable

end Builder

end CallSite
