import CallSite.Proofs.Reachable

/-!
# Nodes and their resume points

A resume point names the node that it is attached to, and the node carries the handle of the resume
point.  The two sides are written by separate operations; that they never disagree is an invariant
of every state that a builder can be in.

* `Graph.Linked` — **the two sides agree**.
* `Builder.Reachable.linked` — in every state they do.
* `Graph.Linked.resumed_iff` — so a node is resumed after at one resume point at most.
-/

namespace CallSite

/-- The resume point behind a handle. -/
def Graph.resumePoint? (g : Graph) (k : ResumePointId) : Option ResumePoint :=
  g.resumePoints[k.index]?

/-- The resume point that a node carries. -/
def Graph.resumed? (g : Graph) (id : NodeId) : Option ResumePointId :=
  (g.node? id).bind Node.resumePoint

namespace Graph

/-- **Resume points and nodes agree on each other.** -/
structure Linked (g : Graph) : Prop where
  /-- A resume point stands at the position of its handle. -/
  id : ∀ k r, g.resumePoint? k = some r → r.id = k
  /-- The node that a resume point names carries it. -/
  carried : ∀ k r, g.resumePoint? k = some r → g.resumed? r.instruction = some k
  /-- What a node carries names it. -/
  named : ∀ id k, g.resumed? id = some k → ∃ r, g.resumePoint? k = some r ∧ r.instruction = id

variable {g g' : Graph}

lemma resumed?_eq_some {id : NodeId} {k : ResumePointId} :
    g.resumed? id = some k ↔ ∃ n, g.node? id = some n ∧ n.resumePoint = some k := by
  rw [resumed?, Option.bind_eq_some_iff]

/-- A node that carries a resume point is there. -/
lemma lt_size_of_resumed? {id : NodeId} {k : ResumePointId} (h : g.resumed? id = some k) :
    id.index < g.size := by
  obtain ⟨n, hn, -⟩ := resumed?_eq_some.1 h
  exact lt_size_of_node? hn

lemma linked_empty : Linked {} := ⟨nofun, nofun, nofun⟩

/-- What touches neither side keeps them in agreement. -/
lemma Linked.congr (h : g.Linked) (hpoints : g'.resumePoints = g.resumePoints)
    (hnodes : ∀ id, g'.resumed? id = g.resumed? id) : g'.Linked := by
  have hpoint : ∀ k, g'.resumePoint? k = g.resumePoint? k := by
    intro k
    rw [resumePoint?, hpoints]
    rfl
  refine ⟨fun k r hk => ?_, fun k r hk => ?_, fun id k hk => ?_⟩
  · exact h.id k r (hpoint k ▸ hk)
  · rw [hnodes]
    exact h.carried k r (hpoint k ▸ hk)
  · rw [hnodes] at hk
    rw [hpoint]
    exact h.named id k hk

/-! ## Operations that add no resume point -/

lemma resumed?_add (g : Graph) (op : Op) (inputs : List NodeId) (ty : ValueType)
    (types : Option TypeSet) (id : NodeId) :
    (g.add op inputs ty types).resumed? id = g.resumed? id := by
  rw [resumed?, resumed?, node?_add]
  split_ifs with h
  · have hnone : g.node? id = none := by
      rw [h, node?, nextId]
      exact Array.getElem?_eq_none (Nat.le_refl _)
    rw [hnone]
    rfl
  · rfl

lemma resumed?_modify (g : Graph) (id : NodeId) {f : Node → Node}
    (hf : ∀ n, (f n).resumePoint = n.resumePoint) (j : NodeId) :
    (g.modify id f).resumed? j = g.resumed? j := by
  rw [resumed?, resumed?, node?_modify]
  split_ifs
  · cases g.node? j with
    | none => rfl
    | some n => exact hf n
  · rfl

/-- Marking operands, whether or not it fails, adds no resume point. -/
lemma markOperands_resumed (g : Graph) (ids : List NodeId) :
    (g.markOperands ids).1.resumePoints = g.resumePoints ∧
      ∀ id, (g.markOperands ids).1.resumed? id = g.resumed? id := by
  induction ids generalizing g with
  | nil => exact ⟨rfl, fun _ => rfl⟩
  | cons id ids ih =>
    rw [markOperands]
    split
    · obtain ⟨hpoints, hnodes⟩ := ih (g.markImplicitlyUsed id)
      refine ⟨hpoints, fun j => ?_⟩
      rw [hnodes j, markImplicitlyUsed]
      exact resumed?_modify g id (by simp) j
    · exact ⟨rfl, fun _ => rfl⟩

lemma Linked.add (h : g.Linked) (op : Op) (inputs : List NodeId) (ty : ValueType)
    (types : Option TypeSet) : (g.add op inputs ty types).Linked :=
  h.congr rfl (resumed?_add g op inputs ty types)

/-! ## Adding a resume point -/

lemma resumePoint?_addResumePoint (g : Graph) (id : NodeId) (pc : UInt32)
    (stack locals : List NodeId) (k : ResumePointId) :
    (g.addResumePoint id pc stack locals).resumePoint? k =
      if k = g.nextResumePoint then some ⟨g.nextResumePoint, id, pc, stack, locals⟩
      else g.resumePoint? k := by
  show (g.resumePoints.push _)[k.index]? = _
  rw [Array.getElem?_push]
  by_cases h : k = g.nextResumePoint
  · subst h
    exact (if_pos rfl).trans (if_pos rfl).symm
  · have hk : k.index ≠ g.resumePoints.size := by
      rintro hk
      refine h ?_
      cases k
      exact congrArg ResumePointId.mk hk
    rw [if_neg h, if_neg hk]
    rfl

lemma resumed?_addResumePoint (g : Graph) (id : NodeId) (pc : UInt32)
    (stack locals : List NodeId) {n : Node} (hn : g.node? id = some n) (j : NodeId) :
    (g.addResumePoint id pc stack locals).resumed? j =
      if j = id then some g.nextResumePoint else g.resumed? j := by
  rw [resumed?, node?_addResumePoint]
  split_ifs with h
  · rw [h, hn]
    rfl
  · rfl

/-- **A resume point attached to a node that has none** keeps the two sides in agreement. -/
theorem Linked.addResumePoint (h : g.Linked) {id : NodeId} {n : Node} (hn : g.node? id = some n)
    (hnone : n.resumePoint = none) (pc : UInt32) (stack locals : List NodeId) :
    (g.addResumePoint id pc stack locals).Linked := by
  have hid : g.resumed? id = none := by
    rw [resumed?, hn]
    exact hnone
  have hnext : g.resumePoint? g.nextResumePoint = none :=
    Array.getElem?_eq_none (Nat.le_refl _)
  refine ⟨fun k r hk => ?_, fun k r hk => ?_, fun j k hk => ?_⟩
  · rw [resumePoint?_addResumePoint] at hk
    split_ifs at hk with hnew
    · rw [hnew, ← Option.some.inj hk]
    · exact h.id k r hk
  · rw [resumePoint?_addResumePoint] at hk
    rw [resumed?_addResumePoint g id pc stack locals hn]
    split_ifs at hk with hnew
    · rw [← Option.some.inj hk, if_pos rfl, hnew]
    · have hcarried := h.carried k r hk
      rw [if_neg, hcarried]
      intro heq
      rw [heq, hid] at hcarried
      cases hcarried
  · rw [resumed?_addResumePoint g id pc stack locals hn] at hk
    rw [resumePoint?_addResumePoint]
    split_ifs at hk with hj
    · rw [← Option.some.inj hk, if_pos rfl]
      exact ⟨_, rfl, hj.symm⟩
    · obtain ⟨r, hr, hinstruction⟩ := h.named j k hk
      rw [if_neg, hr]
      · exact ⟨r, rfl, hinstruction⟩
      · intro heq
        rw [heq, hnext] at hr
        cases hr

/-! ## Consequences -/

/-- **Exactly the resume point that a node carries names it.** -/
theorem Linked.resumed_iff (h : g.Linked) {id : NodeId} {k : ResumePointId} :
    g.resumed? id = some k ↔ ∃ r, g.resumePoint? k = some r ∧ r.instruction = id := by
  refine ⟨h.named id k, ?_⟩
  rintro ⟨r, hr, rfl⟩
  exact h.carried k r hr

/-- A resume point is behind its handle. -/
lemma resumePoint?_of_mem (h : g.Linked) {r : ResumePoint} (hr : r ∈ g.resumePoints) :
    g.resumePoint? r.id = some r := by
  obtain ⟨j, hj⟩ := Array.mem_iff_getElem?.1 hr
  have hpoint : g.resumePoint? ⟨j⟩ = some r := hj
  rw [h.id ⟨j⟩ r hpoint]
  exact hpoint

/-- A resume point names a node of the graph. -/
lemma Linked.instruction_lt (h : g.Linked) {r : ResumePoint} (hr : r ∈ g.resumePoints) :
    r.instruction.index < g.size :=
  lt_size_of_resumed? (h.carried _ r (resumePoint?_of_mem h hr))

end Graph

/-! ## Reachable states -/

/-- A commit, whether or not it fails, adds no resume point. -/
lemma Builder.commit_resumed (b : Builder) (call : Call NodeId) (facts : List Dependency) :
    match b.commit call facts with
    | .ok e => e.builder.graph.resumePoints = b.graph.resumePoints ∧
        ∀ id, e.builder.graph.resumed? id = b.graph.resumed? id
    | .error (_, b') => b'.graph.resumePoints = b.graph.resumePoints ∧
        ∀ id, b'.graph.resumed? id = b.graph.resumed? id := by
  have hmarked := b.graph.markOperands_resumed call.operands
  rw [commit]
  split_ifs
  · exact ⟨rfl, fun _ => rfl⟩
  · dsimp only
    rcases hmark : b.graph.markOperands call.operands with ⟨g, _ | missing⟩ <;>
      rw [hmark] at hmarked
    · exact hmarked
    · exact hmarked

/-- **In every state nodes and resume points agree on each other.** -/
theorem Builder.Reachable.linked {b : Builder} (h : b.Reachable) : b.graph.Linked := by
  induction h with
  | new => exact Graph.linked_empty
  | push _ _ ih => exact ih
  | pop _ ih => exact ih
  | defineLocal _ _ ih => exact ih
  | setPc _ _ ih => exact ih
  | addParameter _ _ _ _ ih => exact ih.add ..
  | addConstant _ _ ih => exact ih.add ..
  | @commit b call facts e _ hcommit ih =>
    have hframe := b.commit_resumed call facts
    rw [hcommit] at hframe
    exact ih.congr hframe.1 hframe.2
  | @commitFailed b b' call facts err _ hcommit ih =>
    have hframe := b.commit_resumed call facts
    rw [hcommit] at hframe
    exact ih.congr hframe.1 hframe.2
  | emitNode _ _ _ _ _ ih => exact ih.add ..
  | emitPush _ _ ih => exact ih
  | @emitResumePoint e e' id _ hresume ih =>
    rw [Emission.resumeAfter] at hresume
    split at hresume
    · cases hresume
    · next n hn =>
      split at hresume
      · cases hresume
      · next hnone =>
        cases hresume
        exact ih.addResumePoint hn hnone ..
  | @emitGuard e e' id observed kind _ hguard ih =>
    rw [Emission.guardTop.eq_def] at hguard
    split at hguard
    · cases hguard
    · split at hguard
      · cases hguard
        exact ih
      · cases hguard
        exact ih.add ..
  | @emitContext e _ ih =>
    rw [Emission.forkJoinContext]
    split
    · exact ih
    · exact ih.add ..

end CallSite
