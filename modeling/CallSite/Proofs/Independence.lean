import CallSite.Proofs.Renumbering
import CallSite.Proofs.Resumption

/-!
# Calls are specialized independently of each other

The decision about a call rests on what is known of its operands, and that never changes.  So it
does not matter what is done between two moments at which the call could be attempted, and calls at
different sites can be attempted in either order.  The stubs and the fork-join context are the only
things that attempts share, and neither shows in a result.

* `Builder.Takes` — what an attempt adds up to, apart from the nodes themselves.
* `Compilation.Continues.takes` — it adds up to the same at both moments.
* `Builder.SameOutline` — what two orders of attempts have in common.
* `Compilation.attempt_independent` — **attempts at different sites are independent**.
-/

namespace CallSite

/-- The node is marked as implicitly used. -/
def Graph.isUsed (g : Graph) (id : NodeId) : Prop :=
  ∃ n, g.node? id = some n ∧ n.implicitlyUsed = true

/-- The number of nodes that the steps of a plan add. -/
def Plan.nodeCount (p : Plan) : Nat := p.steps.countP Step.addsNode

/-- As many nodes are described as added. -/
lemma Step.length_blueprints (steps : List Step) (base : Nat) (context : NodeId) :
    (steps.filterMap (blueprint? base context)).length = steps.countP addsNode := by
  rw [List.length_filterMap_eq_countP]
  refine List.countP_congr fun s _ => ?_
  cases s <;> simp [blueprint?, addsNode]

/-- **What an attempt adds up to** that replaces the call by a plan, or leaves it generic: the
number of nodes, whether there is a fork-join context, the dead sites, the marks, and the facts. -/
structure Builder.Takes (b : Builder) (call : Call NodeId) (p : Option Plan) (a : Builder) :
    Prop where
  size : a.graph.size = b.graph.size +
    (p.any Plan.usesContext && b.context.isNone).toNat + p.elim 0 Plan.nodeCount
  context : a.context.isNone = (b.context.isNone && !p.any Plan.usesContext)
  dead : ∀ site, a.isDead site = true ↔ b.isDead site = true ∨ (p.isSome ∧ site = call.site)
  used : ∀ id, a.graph.isUsed id ↔ b.graph.isUsed id ∨ (p.isSome ∧ id ∈ call.operands)
  facts : ∀ d, d ∈ a.graph.dependencies.items ↔
    d ∈ b.graph.dependencies.items ∨ ∃ q ∈ p, d ∈ q.facts

/-- **The same outline**: as many nodes, the same dead sites, implicitly used nodes and facts. -/
structure Builder.SameOutline (b b' : Builder) : Prop where
  size : b.graph.size = b'.graph.size
  dead : ∀ site, b.isDead site = true ↔ b'.isDead site = true
  used : ∀ id, b.graph.isUsed id ↔ b'.graph.isUsed id
  facts : ∀ d, d ∈ b.graph.dependencies.items ↔ d ∈ b'.graph.dependencies.items

namespace Builder

variable {b : Builder} {call call₁ call₂ : Call NodeId}

/-- A call that is left generic adds up to nothing. -/
lemma takes_none (b : Builder) (call : Call NodeId) : b.Takes call none b := by
  refine ⟨by simp, by simp, by simp, by simp, by simp⟩

/-- **Two changes add up to the same in either order.** -/
theorem Takes.sameOutline {p₁ p₂ : Option Plan} {a₁ a₂ a₁₂ a₂₁ : Builder}
    (h₁ : b.Takes call₁ p₁ a₁) (h₁₂ : a₁.Takes call₂ p₂ a₁₂) (h₂ : b.Takes call₂ p₂ a₂)
    (h₂₁ : a₂.Takes call₁ p₁ a₂₁) : a₁₂.SameOutline a₂₁ := by
  constructor
  · rw [h₁₂.size, h₂₁.size, h₁.context, h₂.context, h₁.size, h₂.size]
    -- the fork-join context is added once, by the first that asks for it
    cases p₁.any Plan.usesContext <;> cases p₂.any Plan.usesContext <;>
      cases b.context.isNone <;> simp <;> omega
  · intro site
    rw [h₁₂.dead, h₂₁.dead, h₁.dead, h₂.dead, or_right_comm]
  · intro id
    rw [h₁₂.used, h₂₁.used, h₁.used, h₂.used, or_right_comm]
  · intro d
    rw [h₁₂.facts, h₂₁.facts, h₁.facts, h₂.facts, or_right_comm]

end Builder

namespace Inliner.Emits

variable {i : Inliner} {b a : Builder} {call : Call NodeId} {callee : Callee} {r : Call Operand}
  {p : Plan}

/-- A new node is not marked. -/
lemma unused_of_mem_since (h : i.Emits b call callee r p a) {n : Node}
    (hn : n ∈ a.graph.since b.graph.size) : n.implicitlyUsed = false := by
  rw [h.since_eq, List.mem_append] at hn
  rcases hn with hn | hn
  · rw [Plan.contextNodes] at hn
    split_ifs at hn
    · rw [List.mem_singleton.1 hn]
    · cases hn
  · obtain ⟨k, hk⟩ := List.mem_iff_getElem?.1 hn
    rw [Graph.getElem?_since] at hk
    obtain ⟨σ, hsteps, -⟩ := h.orderly
    obtain ⟨e, rfl, htracks⟩ := Plan.tracks_of_emit h.live h.resolved.lt_size h.emit hsteps
    obtain ⟨_, -, -, hplaced⟩ := htracks.exists_placed (Nat.le_add_right _ k) hk
    exact hplaced.unused

/-- **The operands of the call get marked**, and nothing else does. -/
theorem isUsed_iff (h : i.Emits b call callee r p a) (id : NodeId) :
    a.graph.isUsed id ↔ b.graph.isUsed id ∨ id ∈ call.operands := by
  have hops := h.resolved.lt_size
  by_cases hid : id.index < b.graph.size
  · obtain ⟨n, hn⟩ := Graph.exists_node? hid
    obtain ⟨σ, hsteps, -⟩ := h.orderly
    obtain ⟨e, rfl, htracks⟩ := Plan.tracks_of_emit h.live hops h.emit hsteps
    have hopens := Emission.opens_opened p b call
    have hlt := Nat.lt_of_lt_of_le hid hopens.size_le
    have hnode := (htracks.old id hlt).trans (hopens.old id hid)
    simp [Graph.isUsed, hnode, hn]
  · constructor
    · rintro ⟨n, hn, hused⟩
      obtain ⟨k, hk⟩ := Nat.exists_eq_add_of_le (Nat.le_of_not_lt hid)
      obtain rfl : id = ⟨b.graph.size + k⟩ := NodeId.index_inj.1 hk
      have hmem := List.mem_of_getElem? ((Graph.getElem?_since ..).trans hn)
      rw [h.unused_of_mem_since hmem] at hused
      cases hused
    · rintro (⟨n, hn, -⟩ | hmem)
      · exact absurd (Graph.lt_size_of_node? hn) hid
      · exact absurd (hops id hmem) hid

/-- **A call that is replaced by a plan** adds up to what the plan says. -/
theorem takes (h : i.Emits b call callee r p a) : b.Takes call (some p) a := by
  have hsize := p.size_opened b call
  obtain ⟨σ, hsteps, -⟩ := h.orderly
  obtain ⟨e, rfl, htracks⟩ := Plan.tracks_of_emit h.live h.resolved.lt_size h.emit hsteps
  constructor
  · have hcontext : (p.contextBlueprints b).length =
        ((some p).any Plan.usesContext && b.context.isNone).toNat := by
      rw [Plan.contextBlueprints]
      cases hp : p.usesContext <;> cases b.context <;> simp [hp]
    have hadded := hsteps.length_blueprints 0 ⟨0⟩
    have hcount : σ.added = p.nodeCount := by
      rw [hadded, Step.length_blueprints]
      exact Nat.zero_add _
    rw [htracks.size, hsize, hcontext, hcount]
    rfl
  · have hcontext : e.builder.context = (p.opened b call).2.builder.context :=
      congrArg Emission.Fixed.context htracks.fixed
    rw [hcontext, Plan.context_opened]
    cases hp : p.usesContext <;> simp [hp]
  · intro site
    have hdead : e.builder.deadSites = b.deadSites ++ [call.site] :=
      (congrArg Emission.Fixed.deadSites htracks.fixed).trans
        (Emission.opens_opened p b call).deadSites
    simp [Builder.isDead, hdead]
  · intro id
    simpa using h.isUsed_iff id
  · intro d
    rw [htracks.dependencies_eq, Dependencies.mem_extend]
    simp

end Inliner.Emits

namespace Compilation

variable {c : Compilation} {i : Inliner} {call : Call NodeId}

/-- **An attempt adds up to the same** at both moments. -/
theorem Continues.takes {c' : Compilation} (h : c.Continues i.env call.site c')
    (hops : ∀ id ∈ call.operands, id.index < c.builder.graph.size) (callee : Callee) :
    ∃ p, c.builder.Takes call p (c.attempt i call callee).builder ∧
      c'.builder.Takes call p (c'.attempt i call callee).builder := by
  obtain ⟨-, ⟨r, p, hemits, hemits'⟩ | ⟨-, hsame, hsame'⟩⟩ := h.agrees hops callee
  · exact ⟨some p, hemits.takes, hemits'.takes⟩
  · rw [hsame, hsame']
    exact ⟨none, c.builder.takes_none call, c'.builder.takes_none call⟩

/-- One attempt at another site is a run elsewhere. -/
lemma continues_attempt (c : Compilation) (i : Inliner) {call : Call NodeId} (callee : Callee)
    {site : SiteId} (h : call.site ≠ site) :
    c.Continues i.env site (c.run [.attempt i call callee]) := by
  refine c.continues_run fun a ha => ?_
  obtain rfl := List.mem_singleton.1 ha
  exact ⟨rfl, h⟩

/-- **Attempts at different sites are independent.**  An attempt has the same outcome after any run
that leaves its site alone, and adds the same nodes up to their numbers.  So two calls can be
attempted in either order: each has the same outcome in both, and both orders end with as many
nodes, and the same dead sites, implicitly used nodes and facts. -/
theorem attempt_independent (hc : c.builder.Reachable) (i : Inliner)
    (hops : ∀ id ∈ call.operands, id.index < c.builder.graph.size) (callee : Callee) :
    (∀ actions : List Action, (∀ a ∈ actions, a.Elsewhere i.env call.site) →
      (c.attempt i call callee).Agrees ((c.run actions).attempt i call callee) ∧
      ((c.attempt i call callee).result = .ok .inlined →
        c.builder.EmitsAlike (c.attempt i call callee).builder
          (c.run actions).builder ((c.run actions).attempt i call callee).builder)) ∧
    ∀ (call' : Call NodeId) (callee' : Callee), call'.site ≠ call.site →
      (∀ id ∈ call'.operands, id.index < c.builder.graph.size) →
      (c.attempt i call callee).Agrees
        ((c.run [.attempt i call' callee']).attempt i call callee) ∧
      (c.attempt i call' callee').Agrees
        ((c.run [.attempt i call callee]).attempt i call' callee') ∧
      (c.run [.attempt i call callee, .attempt i call' callee']).builder.SameOutline
        (c.run [.attempt i call' callee', .attempt i call callee]).builder := by
  constructor
  · intro actions hactions
    have hcontinues := c.continues_run hactions
    obtain ⟨hagrees, ⟨r, p, hemits, hemits'⟩ | ⟨hother, -⟩⟩ := hcontinues.agrees hops callee
    · refine ⟨hagrees, fun _ => ?_⟩
      exact hemits.emitsAlike hemits' hc (reachable_run hc actions) hcontinues.builder
    · exact ⟨hagrees, fun h => absurd h hother⟩
  · intro call' callee' hsite hops'
    have hafter := c.continues_attempt i callee' hsite
    have hafter' := c.continues_attempt i callee hsite.symm
    refine ⟨(hafter.agrees hops callee).1, (hafter'.agrees hops' callee').1, ?_⟩
    obtain ⟨p, htakes, htakes'⟩ := hafter.takes hops callee
    obtain ⟨p', hother, hother'⟩ := hafter'.takes hops' callee'
    exact htakes.sameOutline hother' hother htakes'

end Compilation

/-- A match is specialized in the same way after a parameter was added, the stack has moved, and the
same match was specialized at another site. -/
theorem attempt_independent_exec :
    Scenario.exec.builder.Reachable ∧
    (∀ id ∈ Scenario.exec.call.operands, id.index < Scenario.exec.builder.graph.size) ∧
    ((Compilation.mk Scenario.exec.builder {}).attempt {} Scenario.exec.call
      Scenario.exec.callee).result = .ok .inlined ∧
    Scenario.exec.builder.EmitsAlike
      ((Compilation.mk Scenario.exec.builder {}).attempt {} Scenario.exec.call
        Scenario.exec.callee).builder
      ((Compilation.mk Scenario.exec.builder {}).run [.addParameter 3 .int32 none, .push ⟨3⟩,
        .attempt {} { Scenario.exec.call with site := ⟨8⟩ } Scenario.exec.callee]).builder
      (((Compilation.mk Scenario.exec.builder {}).run [.addParameter 3 .int32 none, .push ⟨3⟩,
        .attempt {} { Scenario.exec.call with site := ⟨8⟩ } Scenario.exec.callee]).attempt {}
          Scenario.exec.call Scenario.exec.callee).builder := by
  have hreachable : Scenario.exec.builder.Reachable :=
    Compilation.reachable_run (c := {}) .new Scenario.execActions
  have hops : ∀ id ∈ Scenario.exec.call.operands,
      id.index < Scenario.exec.builder.graph.size := by
    decide
  have hinlined : ((Compilation.mk Scenario.exec.builder {}).attempt {} Scenario.exec.call
      Scenario.exec.callee).result = .ok .inlined := by
    decide
  refine ⟨hreachable, hops, hinlined, ?_⟩
  refine ((@Compilation.attempt_independent ⟨Scenario.exec.builder, {}⟩ _ hreachable {} hops
    Scenario.exec.callee).1 _ ?_).2 hinlined
  simp [Action.Elsewhere, Scenario.call, Scenario.exec]

end CallSite
