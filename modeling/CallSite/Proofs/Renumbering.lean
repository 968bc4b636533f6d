import CallSite.Proofs.Elsewhere
import CallSite.Proofs.Frame
import CallSite.Proofs.Linked

/-!
# The same nodes under other numbers

A plan mentions operands, the nodes that it adds, and the fork-join context.  Emitted at two moments
of a compilation it adds the same nodes under other numbers: operands keep their handles, the nodes
of the plan are counted from elsewhere, and the fork-join context may be there already.

* `Node.renamed`, `Graph.since` — nodes under other handles, and the nodes added since a moment.
* `Builder.EmitsAlike` — **the same nodes are added**, up to their numbers.
* `Plan.renumber` — where the handles of one emission are in the other.
* `Inliner.Emits.blueprints_renumber` — what the steps describe is renumbered.
* `Emission.Tracks.resumed_added` — which nodes are resumed after is up to the plan alone.
* `Inliner.Emits.emitsAlike` — **a plan adds the same nodes wherever it is emitted**.
-/

namespace CallSite

/-! ## Nodes under other handles -/

/-- The node with its handles renamed, and the handle of its resume point. -/
def Node.renamed (ρ : NodeId → NodeId) (τ : ResumePointId → ResumePointId) (n : Node) : Node :=
  { n with id := ρ n.id, inputs := n.inputs.map ρ, resumePoint := n.resumePoint.map τ }

def Blueprint.renamed (ρ : NodeId → NodeId) (bp : Blueprint) : Blueprint :=
  { bp with inputs := bp.inputs.map ρ }

/-- The nodes that were added since there were `first` of them. -/
def Graph.since (g : Graph) (first : Nat) : List Node := g.nodes.toList.drop first

/-- **The nodes added from `b` to `a`, renumbered, are those added from `b'` to `a'`.** -/
structure Builder.Renumbers (b a b' a' : Builder) (ρ : NodeId → NodeId)
    (τ : ResumePointId → ResumePointId) : Prop where
  /-- Different nodes get different numbers. -/
  injective : Function.Injective ρ
  /-- What was there in `b` keeps its number. -/
  old : ∀ id : NodeId, id.index < b.graph.size → ρ id = id
  /-- A fork-join context that `b'` has is not added again. -/
  nodes : a'.graph.since b'.graph.size = ((a.graph.since b.graph.size).filter fun n =>
    b'.context.isNone || n.op ≠ .forkJoinContext).map (Node.renamed ρ τ)
  /-- A fork-join context that is added is taken to the one that there is then. -/
  context : ∀ n ∈ a.graph.since b.graph.size, n.op = .forkJoinContext → a'.context = some (ρ n.id)
  /-- The value that is left is taken to the one that is left. -/
  left : ∃ v, a.stack = b.stack ++ [v] ∧ a'.stack = b'.stack ++ [ρ v]

/-- **The same nodes are added** from `b` to `a` and from `b'` to `a'`, up to the numbers of nodes
and resume points. -/
def Builder.EmitsAlike (b a b' a' : Builder) : Prop := ∃ ρ τ, b.Renumbers a b' a' ρ τ

lemma Graph.getElem?_since (g : Graph) (first j : Nat) :
    (g.since first)[j]? = g.node? ⟨first + j⟩ := by
  rw [since, List.getElem?_drop, Array.getElem?_toList]
  rfl

lemma Graph.mem_since_iff {g : Graph} {first : Nat} {n : Node} :
    n ∈ g.since first ↔ ∃ id : NodeId, first ≤ id.index ∧ g.node? id = some n := by
  rw [List.mem_iff_getElem?]
  simp only [g.getElem?_since]
  constructor
  · exact fun ⟨j, hj⟩ => ⟨_, Nat.le_add_right first j, hj⟩
  · rintro ⟨⟨k⟩, hid, hn⟩
    obtain ⟨j, rfl⟩ := Nat.exists_eq_add_of_le hid
    exact ⟨j, hn⟩

lemma Graph.since_of_node? {g : Graph} {first : Nat} {n : Node} (h : g.node? ⟨first⟩ = some n) :
    g.since first = n :: g.since (first + 1) := by
  obtain ⟨hlt, hn⟩ := Array.getElem?_eq_some_iff.1 h
  rw [since, since, List.drop_eq_getElem_cons (by simpa using hlt), ← hn, Array.getElem_toList]

/-- A node is made of its handle, what a plan fixes of it, its resume point and its mark. -/
lemma Node.eq_of_blueprint {n m : Node} (hid : n.id = m.id)
    (hblueprint : n.blueprint = m.blueprint) (hresume : n.resumePoint = m.resumePoint)
    (hused : n.implicitlyUsed = m.implicitlyUsed) :
    n = m := by
  cases n
  cases m
  simp only [Node.blueprint, Blueprint.mk.injEq] at hblueprint
  simp_all

/-! ## What the steps describe -/

namespace Step

variable {scope : List Ref} {σ σ' : Progress} {f : NodeId → NodeId} {base base' : Nat}
  {context context' : NodeId}

/-- What is pushed can be mentioned. -/
lemma Advances.available {s : Step} (h : Advances scope σ s σ')
    (hσ : ∀ v ∈ σ.result, ∃ n, v.Available scope n) :
    ∀ v ∈ σ'.result, ∃ n, v.Available scope n := by
  cases h with
  | add _ _ _ => exact hσ
  | push available _ =>
    intro v hv
    obtain rfl := Option.some.inj hv
    exact ⟨_, available⟩
  | resume _ _ _ _ _ => exact hσ
  | guardTop _ _ _ =>
    intro v hv
    obtain rfl := Option.some.inj hv
    exact ⟨σ.added + 1, .inr ⟨σ.added, Nat.lt_succ_self _, rfl⟩⟩

/-- **A step describes the same node** under other handles. -/
theorem Advances.blueprint?_renamed {s : Step} (h : Advances scope σ s σ')
    (hσ : ∀ v ∈ σ.result, ∃ n, v.Available scope n)
    (hf : ∀ (v : Ref) (n : Nat), v.Available scope n →
      f (v.resolve base context) = v.resolve base' context') :
    s.blueprint? base' context' = (s.blueprint? base context).map (Blueprint.renamed f) := by
  cases h with
  | @add op inputs ty types available _ _ =>
    have hinputs : inputs.map (·.resolve base' context') =
        (inputs.map (·.resolve base context)).map f := by
      rw [List.map_map]
      exact List.map_congr_left fun v hv => (hf v _ (available v hv)).symm
    rw [blueprint?, hinputs]
    rfl
  | push _ _ => rfl
  | resume _ _ _ _ _ => rfl
  | @guardTop v observed top _ _ =>
    obtain ⟨n, hv⟩ := hσ v top
    rw [blueprint?, ← hf v n hv]
    rfl

/-- **Steps describe the same nodes** under other handles. -/
theorem AdvancesAll.blueprints_renamed {steps : List Step} (h : AdvancesAll scope σ steps σ')
    (hσ : ∀ v ∈ σ.result, ∃ n, v.Available scope n)
    (hf : ∀ (v : Ref) (n : Nat), v.Available scope n →
      f (v.resolve base context) = v.resolve base' context') :
    steps.filterMap (blueprint? base' context') =
      (steps.filterMap (blueprint? base context)).map (Blueprint.renamed f) := by
  induction h with
  | nil => rfl
  | @cons σ σ₁ σ' s rest first _ ih =>
    have hs := first.blueprint?_renamed hσ hf
    have hrest := ih (first.available hσ)
    cases hbp : s.blueprint? base context with
    | none =>
      rw [hbp, Option.map_none] at hs
      rw [List.filterMap_cons_none hs, List.filterMap_cons_none hbp, hrest]
    | some bp =>
      rw [hbp, Option.map_some] at hs
      rw [List.filterMap_cons_some hs, List.filterMap_cons_some hbp, hrest, List.map_cons]

end Step

/-! ## Resume points -/

namespace Emission

variable {scope : List Ref} {context : NodeId} {e₀ e : Emission} {σ : Progress}

lemma getElem?_snapshots (context : NodeId) (e₀ : Emission) (σ : Progress) (j : Nat) :
    ((snapshots context e₀ σ)[j]?).map ResumePoint.instruction =
      (σ.resumed[j]?).map fun k => ⟨e₀.builder.graph.size + k⟩ := by
  rw [snapshots, List.getElem?_mapIdx, Option.map_map]
  rfl

/-- **The node that a plan adds as its `k`-th is resumed after** at the resume point that the plan
attaches to it, if there is one. -/
theorem Tracks.resumed_added (h : Tracks scope context e₀ e σ) (hlinked : e.builder.graph.Linked)
    (hold : ∀ r ∈ e₀.builder.graph.resumePoints,
      r.instruction.index < e₀.builder.graph.size) (k : Nat) (m : ResumePointId) :
    e.builder.graph.resumed? ⟨e₀.builder.graph.size + k⟩ = some m ↔
      ∃ j, m = ⟨e₀.builder.graph.resumePoints.size + j⟩ ∧ σ.resumed[j]? = some k := by
  have hpoint : e.builder.graph.resumePoint? m =
      (e₀.builder.graph.resumePoints.toList ++ snapshots context e₀ σ)[m.index]? := by
    rw [← h.resumePoints, Array.getElem?_toList]
    rfl
  rw [hlinked.resumed_iff, hpoint]
  constructor
  · rintro ⟨r, hr, hinstruction⟩
    by_cases hlt : m.index < e₀.builder.graph.resumePoints.size
    · rw [List.getElem?_append_left (by simpa using hlt)] at hr
      have hmem := Array.mem_toList_iff.1 (List.mem_of_getElem? hr)
      have hindex := hold r hmem
      rw [hinstruction] at hindex
      exact absurd hindex (Nat.not_lt.2 (Nat.le_add_right _ k))
    · obtain ⟨j, hj⟩ := Nat.exists_eq_add_of_le (Nat.le_of_not_lt hlt)
      rw [List.getElem?_append_right (by simp; omega), Array.length_toList, hj,
        Nat.add_sub_cancel_left] at hr
      have hnode := getElem?_snapshots context e₀ σ j
      rw [hr, Option.map_some, hinstruction] at hnode
      obtain ⟨k', hk', heq⟩ := Option.map_eq_some_iff.1 hnode.symm
      obtain rfl : k' = k := by
        rw [NodeId.mk.injEq] at heq
        omega
      exact ⟨j, by rw [← hj], hk'⟩
  · rintro ⟨j, rfl, hj⟩
    have hnode := getElem?_snapshots context e₀ σ j
    rw [hj, Option.map_some] at hnode
    obtain ⟨r, hr, hinstruction⟩ := Option.map_eq_some_iff.1 hnode
    refine ⟨r, ?_, hinstruction⟩
    rw [List.getElem?_append_right (by simp), Array.length_toList, Nat.add_sub_cancel_left, hr]

end Emission

/-! ## Plans -/

namespace Plan

variable {i : Inliner} {p : Plan} {b b' : Builder} {call : Call NodeId} {r : Call Operand}

/-- The node of the fork-join context, where a plan that asks for it has to add it. -/
def contextNodes (p : Plan) (b : Builder) : List Node :=
  if p.usesContext ∧ b.context = none then
    [{ id := ⟨b.graph.size⟩, op := .forkJoinContext, inputs := [], ty := .object }]
  else []

/-- **Where the handles of one emission are in the other**: nodes that were there stay, the
fork-join context is the one that is used, and those of the plan are counted from elsewhere. -/
def renumber (p : Plan) (call : Call NodeId) (b b' : Builder) (id : NodeId) : NodeId :=
  if id.index < b.graph.size then id
  else if id.index < (p.opened b call).2.builder.graph.size then (p.opened b' call).1
  else ⟨(p.opened b' call).2.builder.graph.size +
    (id.index - (p.opened b call).2.builder.graph.size)⟩

lemma index_renumber (id : NodeId) : (p.renumber call b b' id).index =
    if id.index < b.graph.size then id.index
    else if id.index < (p.opened b call).2.builder.graph.size then (p.opened b' call).1.index
    else (p.opened b' call).2.builder.graph.size +
      (id.index - (p.opened b call).2.builder.graph.size) := by
  rw [renumber]
  split_ifs <;> rfl

lemma renumber_old {id : NodeId} (h : id.index < b.graph.size) :
    p.renumber call b b' id = id := if_pos h

lemma renumber_added (k : Nat) :
    p.renumber call b b' ⟨(p.opened b call).2.builder.graph.size + k⟩ =
      ⟨(p.opened b' call).2.builder.graph.size + k⟩ := by
  have hle := (Emission.opens_opened p b call).size_le
  rw [renumber, if_neg (by dsimp only; omega), if_neg (by dsimp only; omega)]
  simp

/-- The fork-join context that one emission adds is the one that the other uses. -/
lemma renumber_context (hp : p.usesContext = true) (h : b.context = none) :
    p.renumber call b b' ⟨b.graph.size⟩ = (p.opened b' call).1 := by
  have hsize := p.size_opened b call
  have hone : (p.contextBlueprints b).length = 1 := by simp [contextBlueprints, hp, h]
  rw [renumber, if_neg (Nat.lt_irrefl _), if_pos (by dsimp only; omega)]

/-- **Different nodes get different numbers**: first come those that were there, then the fork-join
context, and then those of the plan. -/
theorem renumber_injective (hext : b.Extends b') (hb' : b'.ContextPlaced) :
    Function.Injective (p.renumber call b b') := by
  have hsize := p.size_opened b call
  have hsize' := p.size_opened b' call
  have hle := hext.size_le
  have hcontext : b.graph.size < (p.opened b call).2.builder.graph.size →
      (p.contextBlueprints b).length = 1 ∧ b.graph.size ≤ (p.opened b' call).1.index ∧
      (p.opened b' call).1.index < (p.opened b' call).2.builder.graph.size := by
    intro hlt
    have hpos : (p.contextBlueprints b).length ≠ 0 := by omega
    rw [contextBlueprints] at hpos ⊢
    split_ifs at hpos ⊢ with hadds
    · obtain ⟨hp, hnone⟩ := hadds
      refine ⟨rfl, ?_, context_lt hb' call hp⟩
      cases hcontext' : b'.context with
      | none =>
        rw [(opened_of_no_context hp hcontext').1]
        exact hle
      | some id =>
        rw [opened_of_context hcontext' hp]
        exact hext.fresh hnone id hcontext'
    · exact absurd rfl hpos
  intro x y hxy
  have hindex := NodeId.index_inj.2 hxy
  rw [index_renumber, index_renumber] at hindex
  refine NodeId.index_inj.1 ?_
  split_ifs at hindex <;> omega

/-- **What a plan mentions is renumbered.** -/
theorem renumber_resolve (hr : Inliner.Resolved b call r) (hb : b.ContextPlaced)
    (hext : b.Extends b') {v : Ref} {k : Nat}
    (h : v.Available ((i.site r).scope p.usesContext) k) :
    p.renumber call b b' (v.resolve (p.opened b call).2.builder.graph.size (p.opened b call).1) =
      v.resolve (p.opened b' call).2.builder.graph.size (p.opened b' call).1 := by
  rcases h.cases hr with ⟨rfl, hp⟩ | ⟨id, rfl, hlt⟩ | ⟨j, -, rfl⟩
  · show p.renumber call b b' (p.opened b call).1 = (p.opened b' call).1
    cases hcontext : b.context with
    | none => rw [(opened_of_no_context hp hcontext).1, renumber_context hp hcontext]
    | some id =>
      rw [opened_of_context hcontext hp, opened_of_context (hext.context id hcontext) hp]
      exact renumber_old (hb id hcontext)
  · exact renumber_old hlt
  · exact renumber_added j

end Plan

/-! ## Emitting a plan at two moments -/

/-- The resume points of one emission are counted from elsewhere in the other. -/
def Builder.renumberResume (b b' : Builder) (m : ResumePointId) : ResumePointId :=
  ⟨b'.graph.resumePoints.size + (m.index - b.graph.resumePoints.size)⟩

namespace Inliner.Emits

variable {i : Inliner} {b b' a a' : Builder} {call : Call NodeId} {callee : Callee}
  {r : Call Operand} {p : Plan}

/-- The nodes that the steps describe are renumbered. -/
lemma blueprints_renumber (h : i.Emits b call callee r p a) (hb : b.Reachable)
    (hext : b.Extends b') : p.blueprints b' call =
      (p.blueprints b call).map (Blueprint.renamed (p.renumber call b b')) := by
  obtain ⟨σ, hsteps, -⟩ := h.orderly
  exact hsteps.blueprints_renamed nofun fun v k hv =>
    Plan.renumber_resolve h.resolved hb.contextPlaced hext hv

/-- Which nodes of a plan are resumed after, and in which order, is up to the plan. -/
lemma resumed_added (h : i.Emits b call callee r p a) (hb : b.Reachable) {σ : Progress}
    (hsteps : Step.AdvancesAll ((i.site r).scope p.usesContext) {} p.steps σ) (k : Nat)
    (m : ResumePointId) :
    a.graph.resumed? ⟨(p.opened b call).2.builder.graph.size + k⟩ = some m ↔
      ∃ j, m = ⟨b.graph.resumePoints.size + j⟩ ∧ σ.resumed[j]? = some k := by
  have hlinked := (hb.emit h.emit).linked
  obtain ⟨e, rfl, htracks⟩ := Plan.tracks_of_emit h.live h.resolved.lt_size h.emit hsteps
  have hopens := Emission.opens_opened p b call
  rw [htracks.resumed_added hlinked, hopens.resumePoints]
  intro point hpoint
  rw [hopens.resumePoints] at hpoint
  exact Nat.lt_of_lt_of_le (hb.linked.instruction_lt hpoint) hopens.size_le

/-- **Each node of a plan is renumbered.** -/
theorem node?_renumber (h : i.Emits b call callee r p a) (h' : i.Emits b' call callee r p a')
    (hb : b.Reachable) (hb' : b'.Reachable) (hext : b.Extends b') (k : Nat) :
    a'.graph.node? ⟨(p.opened b' call).2.builder.graph.size + k⟩ =
      (a.graph.node? ⟨(p.opened b call).2.builder.graph.size + k⟩).map
        (Node.renamed (p.renumber call b b') (b.renumberResume b')) := by
  obtain ⟨σ, hsteps, -⟩ := h.orderly
  have hblueprint := Plan.blueprint_added h.live h.resolved.lt_size h.emit k
  have hblueprint' := Plan.blueprint_added h'.live h'.resolved.lt_size h'.emit k
  rw [h.blueprints_renumber hb hext, List.getElem?_map, ← hblueprint, Option.map_map] at hblueprint'
  have hresumed := h.resumed_added hb hsteps k
  have hresumed' := h'.resumed_added hb' hsteps k
  obtain ⟨e, rfl, htracks⟩ := Plan.tracks_of_emit h.live h.resolved.lt_size h.emit hsteps
  obtain ⟨e', rfl, htracks'⟩ := Plan.tracks_of_emit h'.live h'.resolved.lt_size h'.emit hsteps
  by_cases hk : k < σ.added
  · obtain ⟨n, hn, hplaced⟩ := htracks.placed k hk
    obtain ⟨n', hn', hplaced'⟩ := htracks'.placed k hk
    rw [hn, hn', Option.map_some, Option.map_some] at hblueprint'
    rw [hn, hn', Option.map_some, Option.some.injEq]
    refine Node.eq_of_blueprint ?_ (Option.some.inj hblueprint') ?_ ?_
    · show n'.id = p.renumber call b b' n.id
      rw [hplaced'.id, hplaced.id, Plan.renumber_added]
    · show n'.resumePoint = n.resumePoint.map (b.renumberResume b')
      rw [Graph.resumed?, hn', Option.bind_some] at hresumed'
      rw [Graph.resumed?, hn, Option.bind_some] at hresumed
      ext m
      rw [hresumed', Option.map_eq_some_iff]
      constructor
      · rintro ⟨j, rfl, hj⟩
        exact ⟨_, (hresumed _).2 ⟨j, rfl, hj⟩, by simp [Builder.renumberResume]⟩
      · rintro ⟨m', hm', rfl⟩
        obtain ⟨j, rfl, hj⟩ := (hresumed m').1 hm'
        exact ⟨j, by simp [Builder.renumberResume], hj⟩
    · exact hplaced'.unused.trans hplaced.unused.symm
  · have hsize := htracks.size
    have hsize' := htracks'.size
    rw [Graph.node?_of_size_le (by dsimp only; omega),
      Graph.node?_of_size_le (by dsimp only; omega), Option.map_none]

/-- A plan's own nodes are no fork-join contexts. -/
lemma op_ne_of_mem_since (h : i.Emits b call callee r p a) {n : Node}
    (hn : n ∈ a.graph.since (p.opened b call).2.builder.graph.size) :
    n.op ≠ .forkJoinContext := by
  obtain ⟨k, hk⟩ := List.mem_iff_getElem?.1 hn
  rw [Graph.getElem?_since] at hk
  have hblueprint := Plan.blueprint_added h.live h.resolved.lt_size h.emit k
  rw [hk, Option.map_some] at hblueprint
  obtain ⟨step, hstep, hbp⟩ := List.mem_filterMap.1 (List.mem_of_getElem? hblueprint.symm)
  intro hop
  have hop : n.blueprint.op = .forkJoinContext := hop
  rcases Step.op_of_blueprint? hbp with ⟨-, hguard⟩ | hadd
  · simp [hop] at hguard
  · rw [hop] at hadd
    have hemits : callee.mayEmit .forkJoinContext = true :=
      h.origin.emits _ (List.mem_filterMap.2 ⟨step, hstep, hadd⟩)
    simp at hemits

/-- **The new nodes** are the fork-join context, if it has to be added, and those of the plan. -/
theorem since_eq (h : i.Emits b call callee r p a) : a.graph.since b.graph.size =
    p.contextNodes b ++ a.graph.since (p.opened b call).2.builder.graph.size := by
  have hsize := p.size_opened b call
  rw [Plan.contextNodes]
  split_ifs with hcontext
  · obtain ⟨hp, hnone⟩ := hcontext
    have hone : (p.contextBlueprints b).length = 1 := by simp [Plan.contextBlueprints, hp, hnone]
    obtain ⟨σ, hsteps, -⟩ := h.orderly
    obtain ⟨e, rfl, htracks⟩ := Plan.tracks_of_emit h.live h.resolved.lt_size h.emit hsteps
    have hnode := htracks.old ⟨b.graph.size⟩ (by dsimp only; omega)
    rw [(Plan.opened_of_no_context hp hnone).2] at hnode
    rw [Graph.since_of_node? hnode, hsize, hone]
    rfl
  · have hzero : (p.contextBlueprints b).length = 0 := by simp [Plan.contextBlueprints, hcontext]
    rw [hsize, hzero]
    rfl

/-- The nodes of the plan are renumbered. -/
lemma since_renumber (h : i.Emits b call callee r p a) (h' : i.Emits b' call callee r p a')
    (hb : b.Reachable) (hb' : b'.Reachable) (hext : b.Extends b') :
    a'.graph.since (p.opened b' call).2.builder.graph.size =
      (a.graph.since (p.opened b call).2.builder.graph.size).map
        (Node.renamed (p.renumber call b b') (b.renumberResume b')) := by
  refine List.ext_getElem? fun k => ?_
  rw [List.getElem?_map, Graph.getElem?_since, Graph.getElem?_since,
    h.node?_renumber h' hb hb' hext]

/-- A fork-join context that both emissions have to add is renumbered; one that is there already is
not added again. -/
lemma contextNodes_renumber (hext : b.Extends b') : p.contextNodes b' =
    ((p.contextNodes b).filter fun n => b'.context.isNone || n.op ≠ .forkJoinContext).map
      (Node.renamed (p.renumber call b b') (b.renumberResume b')) := by
  cases hcontext' : b'.context with
  | some id =>
    have hnone' : p.contextNodes b' = [] := by simp [Plan.contextNodes, hcontext']
    have hall : ∀ n ∈ p.contextNodes b, n.op = .forkJoinContext := by
      intro n hn
      rw [Plan.contextNodes] at hn
      split_ifs at hn
      · rw [List.mem_singleton.1 hn]
      · cases hn
    rw [hnone', List.filter_eq_nil_iff.2 fun n hn => by simp [hall n hn], List.map_nil]
  | none =>
    have hcontext : b.context = none := by
      rw [Option.eq_none_iff_forall_ne_some]
      intro id hid
      rw [hext.context id hid] at hcontext'
      cases hcontext'
    cases hp : p.usesContext with
    | false => simp [Plan.contextNodes, hp]
    | true =>
      have hnew : p.renumber call b b' ⟨b.graph.size⟩ = (p.opened b' call).1 :=
        Plan.renumber_context hp hcontext
      rw [(Plan.opened_of_no_context hp hcontext').1] at hnew
      simp [Plan.contextNodes, hp, hcontext, hcontext', Node.renamed, hnew]

/-- **A plan adds the same nodes wherever it is emitted**, up to their numbers. -/
theorem emitsAlike (h : i.Emits b call callee r p a) (h' : i.Emits b' call callee r p a')
    (hb : b.Reachable) (hb' : b'.Reachable) (hext : b.Extends b') : b.EmitsAlike a b' a' := by
  refine ⟨p.renumber call b b', b.renumberResume b',
    Plan.renumber_injective hext hb'.contextPlaced, fun _ => Plan.renumber_old, ?_, ?_, ?_⟩
  · have hquiet : (a.graph.since (p.opened b call).2.builder.graph.size).filter
        (fun n => b'.context.isNone || n.op ≠ .forkJoinContext) =
          a.graph.since (p.opened b call).2.builder.graph.size := by
      refine List.filter_eq_self.2 fun n hn => ?_
      simp [h.op_ne_of_mem_since hn]
    rw [h'.since_eq, h.since_eq, List.filter_append, List.map_append, hquiet,
      h.since_renumber h' hb hb' hext, contextNodes_renumber hext]
  · intro n hn hop
    rw [h.since_eq, List.mem_append] at hn
    rcases hn with hn | hn
    · rw [Plan.contextNodes] at hn
      split_ifs at hn with hcontext
      · obtain ⟨hp, hnone⟩ := hcontext
        obtain rfl := List.mem_singleton.1 hn
        obtain ⟨σ, hsteps, -⟩ := h'.orderly
        obtain ⟨e', rfl, htracks'⟩ :=
          Plan.tracks_of_emit h'.live h'.resolved.lt_size h'.emit hsteps
        have hcontext' : e'.builder.context = (p.opened b' call).2.builder.context :=
          congrArg Emission.Fixed.context htracks'.fixed
        rw [hcontext', Plan.context_opened, if_pos hp, Plan.renumber_context hp hnone]
      · cases hn
    · exact absurd hop (h.op_ne_of_mem_since hn)
  · obtain ⟨σ, hsteps, hσ⟩ := h.orderly
    have hemit := h.emit
    have hemit' := h'.emit
    obtain ⟨e, rfl, htracks⟩ := Plan.tracks_of_emit h.live h.resolved.lt_size hemit hsteps
    obtain ⟨e', rfl, htracks'⟩ := Plan.tracks_of_emit h'.live h'.resolved.lt_size hemit' hsteps
    obtain ⟨w, hw⟩ := Option.isSome_iff_exists.1 hσ.1
    have hstack := htracks.stack
    have hstack' := htracks'.stack
    rw [hw, (Emission.opens_opened p b call).stack] at hstack
    rw [hw, (Emission.opens_opened p b' call).stack, Option.map_some,
      ← Plan.renumber_resolve h.resolved hb.contextPlaced hext (htracks.result w hw)] at hstack'
    exact ⟨_, hstack, hstack'⟩

end Inliner.Emits

end CallSite
