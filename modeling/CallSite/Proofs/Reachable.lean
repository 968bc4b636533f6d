import CallSite.Proofs.Attempt

/-!
# The states of a builder

A builder starts empty and is changed by its own operations, by emissions, and by attempts, which
are made of the two.  Any handle may be passed to any operation, and an operation that fails may
leave a changed state behind.

* `Builder.Reachable` — the states that this leads to.
* `Builder.Reachable.context_lt` — a fork-join context that is remembered is in the graph.
* `Builder.Reachable.attempt` — attempts lead to no other states.
-/

namespace CallSite

/-! ## Reachable states -/

/-- **A state that operations of builders and emissions lead to.** -/
inductive Builder.Reachable : Builder → Prop where
  | new : Reachable {}
  | push {b : Builder} (h : Reachable b) (id : NodeId) : Reachable (b.push id)
  | pop {b : Builder} (h : Reachable b) : Reachable b.pop
  | defineLocal {b : Builder} (h : Reachable b) (id : NodeId) : Reachable (b.defineLocal id)
  | setPc {b : Builder} (h : Reachable b) (pc : UInt32) : Reachable (b.setPc pc)
  | addParameter {b : Builder} (h : Reachable b) (index : UInt16) (ty : ValueType)
      (types : Option TypeSet) : Reachable (b.addParameter index ty types)
  | addConstant {b : Builder} (h : Reachable b) (c : Constant) : Reachable (b.addConstant c)
  | commit {b : Builder} {call : Call NodeId} {facts : List Dependency} {e : Emission}
      (h : Reachable b) (hcommit : b.commit call facts = .ok e) : Reachable e.builder
  | commitFailed {b b' : Builder} {call : Call NodeId} {facts : List Dependency} {err : GraphError}
      (h : Reachable b) (hcommit : b.commit call facts = .error (err, b')) : Reachable b'
  | emitNode {e : Emission} (h : Reachable e.builder) (op : Op) (inputs : List NodeId)
      (ty : ValueType) (types : Option TypeSet) : Reachable (e.add op inputs ty types).builder
  | emitPush {e : Emission} (h : Reachable e.builder) (id : NodeId) : Reachable (e.push id).builder
  | emitResumePoint {e e' : Emission} {id : NodeId} (h : Reachable e.builder)
      (hresume : e.resumeAfter id = .ok e') : Reachable e'.builder
  | emitGuard {e e' : Emission} {id : NodeId} {observed : TypeSet} {kind : Barrier}
      (h : Reachable e.builder) (hguard : e.guardTop id observed kind = .ok e') :
      Reachable e'.builder
  | emitContext {e : Emission} (h : Reachable e.builder) : Reachable e.forkJoinContext.2.builder

/-! ## The fork-join context -/

/-- Marking operands adds no node, whether or not it fails. -/
lemma Graph.size_markOperands (g : Graph) (ids : List NodeId) :
    (g.markOperands ids).1.size = g.size := by
  induction ids generalizing g with
  | nil => rfl
  | cons id ids ih =>
    rw [markOperands]
    split
    · exact (ih _).trans (size_modify g id _)
    · rfl

namespace Builder

/-- The fork-join context, if it is remembered, is in the graph. -/
def ContextPlaced (b : Builder) : Prop := ∀ id ∈ b.context, id.index < b.graph.size

/-- What leaves the context alone and takes no node away keeps the context in the graph. -/
lemma ContextPlaced.mono {b b' : Builder} (h : b.ContextPlaced) (hcontext : b'.context = b.context)
    (hsize : b.graph.size ≤ b'.graph.size) : b'.ContextPlaced := by
  intro id hid
  rw [hcontext] at hid
  exact Nat.lt_of_lt_of_le (h id hid) hsize

/-- A commit leaves the context alone and adds no node, whether or not it fails. -/
lemma commit_frame (b : Builder) (call : Call NodeId) (facts : List Dependency) :
    match b.commit call facts with
    | .ok e => e.builder.context = b.context ∧ e.builder.graph.size = b.graph.size
    | .error (_, b') => b'.context = b.context ∧ b'.graph.size = b.graph.size := by
  have hsize := b.graph.size_markOperands call.operands
  rw [commit]
  split_ifs
  · exact ⟨rfl, rfl⟩
  · dsimp only
    rcases hmark : b.graph.markOperands call.operands with ⟨g, _ | missing⟩ <;> rw [hmark] at hsize
    · exact ⟨rfl, hsize⟩
    · exact ⟨rfl, hsize⟩

namespace Reachable

/-- **A remembered fork-join context is in the graph.** -/
theorem contextPlaced {b : Builder} (h : b.Reachable) : b.ContextPlaced := by
  induction h with
  | new => nofun
  | push _ _ ih => exact ih.mono rfl (Nat.le_refl _)
  | pop _ ih => exact ih.mono rfl (Nat.le_refl _)
  | defineLocal _ _ ih => exact ih.mono rfl (Nat.le_refl _)
  | setPc _ _ ih => exact ih.mono rfl (Nat.le_refl _)
  | addParameter _ _ _ _ ih => exact ih.mono rfl (by rw [Builder.addParameter, Graph.size_add]; omega)
  | addConstant _ _ ih => exact ih.mono rfl (by rw [Builder.addConstant, Graph.size_add]; omega)
  | @commit b call facts e _ hcommit ih =>
    have hframe := b.commit_frame call facts
    rw [hcommit] at hframe
    exact ih.mono hframe.1 (Nat.le_of_eq hframe.2.symm)
  | @commitFailed b b' call facts err _ hcommit ih =>
    have hframe := b.commit_frame call facts
    rw [hcommit] at hframe
    exact ih.mono hframe.1 (Nat.le_of_eq hframe.2.symm)
  | emitNode _ _ _ _ _ ih => exact ih.mono rfl (by rw [Emission.graph_add, Graph.size_add]; omega)
  | emitPush _ _ ih => exact ih.mono rfl (Nat.le_refl _)
  | @emitResumePoint e e' id _ hresume ih =>
    rw [Emission.resumeAfter] at hresume
    split at hresume
    · cases hresume
    · split at hresume
      · cases hresume
      · cases hresume
        exact ih.mono rfl (Nat.le_of_eq (Graph.size_addResumePoint ..).symm)
  | @emitGuard e e' id observed kind _ hguard ih =>
    rw [Emission.guardTop.eq_def] at hguard
    split at hguard
    · cases hguard
    · split at hguard
      · cases hguard
        exact ih
      · cases hguard
        refine ih.mono rfl ?_
        show _ ≤ (e.builder.graph.add _ _ _ _).size
        rw [Graph.size_add]
        omega
  | @emitContext e _ ih =>
    rw [Emission.forkJoinContext]
    split
    · exact ih
    · intro id hid
      obtain rfl := Option.some.inj hid
      show e.builder.graph.size < (e.builder.graph.add _ _ _ _).size
      rw [Graph.size_add]
      omega

/-! ## Attempts -/

/-- The steps of a plan lead to no other states. -/
lemma takeAll {base : Nat} {context : NodeId} {steps : List Step} {e e' : Emission}
    (h : e.builder.Reachable) (htake : Step.takeAll base context e steps = .ok e') :
    e'.builder.Reachable := by
  induction steps generalizing e with
  | nil =>
    cases htake
    exact h
  | cons s steps ih =>
    rw [Step.takeAll] at htake
    cases hs : s.take base context e with
    | error err => rw [hs] at htake; cases htake
    | ok e₁ =>
      rw [hs] at htake
      refine ih ?_ htake
      cases s with
      | add op inputs ty types =>
        cases hs
        exact h.emitNode ..
      | push v =>
        cases hs
        exact h.emitPush _
      | resume v =>
        rw [Step.take] at hs
        exact h.emitResumePoint hs
      | guardTop v observed =>
        rw [Step.take] at hs
        exact h.emitGuard hs

/-- Emitting a plan leads to no other states. -/
lemma emit {b b' : Builder} {p : Plan} {call : Call NodeId} (h : b.Reachable)
    (hemit : p.emit b call = .ok b') : b'.Reachable := by
  cases hcommit : b.commit call p.facts with
  | error err =>
    rw [Plan.emit, hcommit] at hemit
    cases hemit
  | ok e =>
    have hopened : (e.withContext p.usesContext).2.builder.Reachable := by
      rw [Emission.withContext]
      split_ifs
      · exact (h.commit hcommit).emitContext
      · exact h.commit hcommit
    rw [Plan.emit_of_commit hcommit] at hemit
    split at hemit
    · cases hemit
    · next e' htake =>
      have he' := hopened.takeAll htake
      split at hemit
      · cases hemit
      · next b'' hfinish =>
        cases hemit
        rw [Emission.eq_of_finish hfinish]
        exact he'

/-- **Attempts lead to no other states.** -/
theorem attempt {b : Builder} (h : b.Reachable) (i : Inliner) (stubs : StubStore)
    (call : Call NodeId) (callee : Callee) : (i.attempt stubs b call callee).builder.Reachable := by
  have hends := i.attempt_ends stubs b call callee
  generalize i.attempt stubs b call callee = a at hends ⊢
  cases hends with
  | dead => exact h
  | unknownOperand => exact h
  | declined => exact h
  | stubUnavailable => exact h
  | inlined _ _ _ _ _ hemit => exact h.emit hemit

end Reachable

end Builder

/-- **The graph of a scenario** is reachable. -/
theorem Scenario.reachable_builder (s : Scenario) : s.builder.Reachable := by
  have hfoldl (gs : List Given) {c : Builder × UInt16} (hc : c.1.Reachable) :
      (gs.foldl addOperand c).1.Reachable := by
    induction gs generalizing c with
    | nil => exact hc
    | cons g gs ih =>
      cases g with
      | constant value => exact ih (hc.addConstant value)
      | typed ty types => exact ih (hc.addParameter c.2 ty types)
  exact hfoldl s.operands .new

end CallSite
