import CallSite.Proofs.Emission

/-!
# From a commit to the end of an emission

Committing a call cannot fail when its site is live and its operands are in the graph, and ending
the emission cannot fail when the steps of the plan leave nothing open.  Between the two stand the
fork-join context, which may have to be added first, and the steps themselves.

* `Builder.committed` — the emission that a commit opens.
* `Plan.opened` — the same with the fork-join context, where the plan asks for it.
* `Emission.Opens` — what that emission has in common with the builder before the commit.
* `Plan.Orderly.emit` — **an orderly plan is emitted without failure**.
* `Plan.Orderly.facts_subset` — and the facts that it relies on are committed.
-/

namespace CallSite

/-! ## Committing -/

/-- **The emission that a commit opens.** -/
def Builder.committed (b : Builder) (call : Call NodeId) (facts : List Dependency) : Emission where
  builder := { b with
    deadSites := b.deadSites ++ [call.site]
    graph := (b.graph.marked call.operands).commitDependencies facts }
  site := call.site
  baseDepth := b.stack.length
  firstNode := b.graph.size

lemma Builder.commit_eq_committed {b : Builder} {call : Call NodeId}
    (hlive : b.isDead call.site = false)
    (hops : ∀ id ∈ call.operands, id.index < b.graph.size) (facts : List Dependency) :
    b.commit call facts = .ok (b.committed call facts) := by
  have hsize : ((b.graph.marked call.operands).commitDependencies facts).size = b.graph.size :=
    b.graph.size_marked call.operands
  rw [commit, hlive, if_neg nofun]
  dsimp only
  rw [Graph.markOperands_of_forall hops]
  dsimp only
  rw [hsize]
  rfl

/-- The emission with the fork-join context, where it is asked for, and the handle of it. -/
def Emission.withContext (usesContext : Bool) (e : Emission) : NodeId × Emission :=
  if usesContext then e.forkJoinContext else (e.nextId, e)

/-- **The emission of a plan** before its first step, with the handle of the fork-join context. -/
def Plan.opened (p : Plan) (b : Builder) (call : Call NodeId) : NodeId × Emission :=
  (b.committed call p.facts).withContext p.usesContext

/-- After the commit the steps are taken and the emission is ended. -/
lemma Plan.emit_of_commit {p : Plan} {b : Builder} {call : Call NodeId} {e : Emission}
    (hcommit : b.commit call p.facts = .ok e) :
    p.emit b call =
      match Step.takeAll (e.withContext p.usesContext).2.builder.graph.size
        (e.withContext p.usesContext).1 (e.withContext p.usesContext).2 p.steps with
      | .error err => .error err
      | .ok e =>
        match e.finish with
        | .error err => .error (err, e.builder)
        | .ok b => .ok b := by
  rw [emit, hcommit]
  rfl

namespace Emission

/-- **What an emission has in common with the builder before the commit**: it has the same nodes,
with the operands marked, and after them at most nodes without inputs and effects. -/
structure Opens (b : Builder) (call : Call NodeId) (facts : List Dependency) (e : Emission) :
    Prop where
  baseDepth : e.baseDepth = b.stack.length
  firstNode : e.firstNode = b.graph.size
  stack : e.builder.stack = b.stack
  locals : e.builder.locals = b.locals
  pc : e.builder.pc = b.pc
  deadSites : e.builder.deadSites = b.deadSites ++ [call.site]
  dependencies : e.builder.graph.dependencies = b.graph.dependencies.extend facts
  resumePoints : e.builder.graph.resumePoints = b.graph.resumePoints
  size_le : b.graph.size ≤ e.builder.graph.size
  old : ∀ id : NodeId, id.index < b.graph.size → e.builder.graph.node? id =
    (b.graph.node? id).map fun n =>
      { n with implicitlyUsed := n.implicitlyUsed || decide (id ∈ call.operands) }
  new : ∀ (id : NodeId) (n : Node), b.graph.size ≤ id.index → e.builder.graph.node? id = some n →
    n.id = id ∧ n.inputs = [] ∧ n.op.isEffectful = false
  block : e.builder.graph.block.toList = b.graph.block.toList ++
    (List.range' b.graph.size (e.builder.graph.size - b.graph.size)).map NodeId.mk

lemma opens_committed (b : Builder) (call : Call NodeId) (facts : List Dependency) :
    Opens b call facts (b.committed call facts) := by
  have hsize : (b.committed call facts).builder.graph.size = b.graph.size :=
    b.graph.size_marked call.operands
  refine ⟨rfl, rfl, rfl, rfl, rfl, rfl, ?_, ?_, Nat.le_of_eq hsize.symm, ?_, ?_, ?_⟩
  · show ((b.graph.marked call.operands).dependencies).extend facts = _
    rw [Graph.dependencies_marked]
  · exact Graph.resumePoints_marked ..
  · intro id _
    exact b.graph.node?_marked call.operands id
  · intro id n hid hn
    have := Graph.lt_size_of_node? hn
    omega
  · rw [hsize, Nat.sub_self]
    show (b.graph.marked call.operands).block.toList = _
    rw [Graph.block_marked]
    simp

/-- The fork-join context adds at most one node, which has no inputs and no effect. -/
lemma Opens.forkJoinContext {b : Builder} {call : Call NodeId} {facts : List Dependency}
    {e : Emission} (h : Opens b call facts e) : Opens b call facts e.forkJoinContext.2 := by
  rw [Emission.forkJoinContext]
  split
  · exact h
  · have hle := h.size_le
    refine ⟨h.baseDepth, h.firstNode, h.stack, h.locals, h.pc, h.deadSites, h.dependencies,
      h.resumePoints, ?_, ?_, ?_, ?_⟩
    · dsimp only
      rw [graph_add, Graph.size_add]
      omega
    · intro id hid
      dsimp only
      rw [graph_add, Graph.node?_add_of_lt (by omega)]
      exact h.old id hid
    · intro id n hid hn
      dsimp only at hn
      rw [graph_add, Graph.node?_add] at hn
      split at hn
      · next hnext =>
        obtain rfl := Option.some.inj hn
        exact ⟨hnext.symm, rfl, rfl⟩
      · exact h.new id n hid hn
    · dsimp only
      rw [graph_add, Graph.size_add, Nat.sub_add_comm hle, List.range'_concat, List.map_append,
        ← List.append_assoc, ← h.block]
      show (e.builder.graph.block.push e.builder.graph.nextId).toList = _
      rw [Array.toList_push, Graph.nextId, Nat.one_mul, Nat.add_sub_cancel' hle]
      rfl

lemma opens_opened (p : Plan) (b : Builder) (call : Call NodeId) :
    Opens b call p.facts (p.opened b call).2 := by
  have h := opens_committed b call p.facts
  rw [Plan.opened, Emission.withContext]
  split_ifs
  · exact h.forkJoinContext
  · exact h

/-! ## Ending -/

/-- A node that stands at or after a position has a handle. -/
private lemma exists_node?_of_mem_drop {g : Graph} {k : Nat} {n : Node}
    (h : n ∈ g.nodes.toList.drop k) : ∃ id : NodeId, k ≤ id.index ∧ g.node? id = some n := by
  obtain ⟨i, hi⟩ := List.mem_iff_getElem?.1 h
  rw [List.getElem?_drop, Array.getElem?_toList] at hi
  exact ⟨⟨k + i⟩, Nat.le_add_right k i, hi⟩

/-- Ending an emission changes nothing. -/
lemma eq_of_finish {e : Emission} {b : Builder} (h : e.finish = .ok b) : b = e.builder := by
  rw [finish] at h
  split at h
  · cases h
  · dsimp only at h
    split at h
    · exact (Except.ok.inj h).symm
    · cases h

variable {scope : List Ref} {context : NodeId} {e₀ e : Emission} {σ : Progress}

/-- **When nothing is left open, the emission can be ended**: the effectful nodes of the plan have
their resume points, and the stack has the result on top. -/
theorem Tracks.finish (h : Tracks scope context e₀ e σ) (hσ : σ.Finished)
    (hdepth : e₀.baseDepth = e₀.builder.stack.length)
    (hquiet : ∀ (id : NodeId) (n : Node), e₀.firstNode ≤ id.index →
      e₀.builder.graph.node? id = some n → n.op.isEffectful = false) :
    e.finish = .ok e.builder := by
  have hfirst : e.firstNode = e₀.firstNode := congrArg Fixed.firstNode h.fixed
  have hbase : e.baseDepth = e₀.baseDepth := congrArg Fixed.baseDepth h.fixed
  have resumed : (e.builder.graph.nodes.toList.drop e.firstNode).find?
      (fun n => n.op.isEffectful && n.resumePoint.isNone) = none := by
    rw [List.find?_eq_none]
    intro n hn hopen
    obtain ⟨heffectful, hnone⟩ := Bool.and_eq_true_iff.1 hopen
    obtain ⟨id, hid, hnode⟩ := exists_node?_of_mem_drop hn
    rw [hfirst] at hid
    by_cases hlt : id.index < e₀.builder.graph.size
    · rw [h.old id hlt] at hnode
      rw [hquiet id n hid hnode] at heffectful
      cases heffectful
    · obtain ⟨_, -, -, hplaced⟩ := h.exists_placed (Nat.le_of_not_lt hlt) hnode
      have hpending := hplaced.waiting heffectful (Option.isNone_iff_eq_none.1 hnone)
      rw [hσ.2] at hpending
      cases hpending
  have depth : e.builder.stack.length = e.baseDepth + 1 := by
    obtain ⟨v, hv⟩ := Option.isSome_iff_exists.1 hσ.1
    rw [h.stack, hv, hbase, hdepth]
    simp
  rw [Emission.finish]
  dsimp only
  rw [resumed]
  dsimp only
  rw [if_pos depth]

end Emission

/-- The facts of a plan are committed behind those that were there. -/
lemma Emission.Tracks.dependencies_eq {scope : List Ref} {p : Plan} {b : Builder}
    {call : Call NodeId} {e : Emission} {σ : Progress}
    (h : Tracks scope (p.opened b call).1 (p.opened b call).2 e σ) :
    e.builder.graph.dependencies = b.graph.dependencies.extend p.facts :=
  (congrArg Fixed.dependencies h.fixed).trans (opens_opened p b call).dependencies

/-! ## The whole plan -/

/-- **An orderly plan is emitted without failure**, when the site is live and the operands are in
the graph; and the builder has come as far as a finished progress says. -/
theorem Plan.Orderly.emit {s : Site} {p : Plan} (h : p.Orderly s) {b : Builder}
    {call : Call NodeId} (hlive : b.isDead call.site = false)
    (hops : ∀ id ∈ call.operands, id.index < b.graph.size) :
    ∃ e σ, p.emit b call = .ok e.builder ∧ σ.Finished ∧
      Emission.Tracks (s.scope p.usesContext) (p.opened b call).1 (p.opened b call).2 e σ := by
  obtain ⟨σ, hsteps, hσ⟩ := h
  obtain ⟨e, htake, htracks⟩ :=
    (Emission.tracks_start (s.scope p.usesContext) (p.opened b call).1
      (p.opened b call).2).run hsteps
  have hopens := Emission.opens_opened p b call
  have hfinish : e.finish = .ok e.builder := by
    refine htracks.finish hσ (by rw [hopens.baseDepth, hopens.stack]) fun id n hid hn => ?_
    rw [hopens.firstNode] at hid
    exact (hopens.new id n hid hn).2.2
  refine ⟨e, σ, ?_, hσ, htracks⟩
  rw [Plan.emit_of_commit (Builder.commit_eq_committed hlive hops p.facts)]
  rw [Plan.opened] at htake
  rw [htake]
  dsimp only
  rw [hfinish]

/-- **The facts that a plan relies on are committed**, behind those that were there. -/
theorem Plan.Orderly.dependencies_eq {s : Site} {p : Plan} (h : p.Orderly s) {b b' : Builder}
    {call : Call NodeId} (hlive : b.isDead call.site = false)
    (hops : ∀ id ∈ call.operands, id.index < b.graph.size) (hemit : p.emit b call = .ok b') :
    b'.graph.dependencies = b.graph.dependencies.extend p.facts := by
  obtain ⟨e, σ, hemit', -, htracks⟩ := h.emit hlive hops
  obtain rfl := Except.ok.inj (hemit.symm.trans hemit')
  exact htracks.dependencies_eq

/-- So each of them is a dependency. -/
lemma Plan.Orderly.facts_subset {s : Site} {p : Plan} (h : p.Orderly s) {b b' : Builder}
    {call : Call NodeId} (hlive : b.isDead call.site = false)
    (hops : ∀ id ∈ call.operands, id.index < b.graph.size) (hemit : p.emit b call = .ok b') :
    p.facts ⊆ b'.graph.dependencies.items := by
  intro d hd
  rw [h.dependencies_eq hlive hops hemit, Dependencies.mem_extend]
  exact .inr hd

end CallSite
