import CallSite.Proofs.Commit
import CallSite.Proofs.Operations.Basic

/-!
# What is emitted is what the plan says

Emitting a plan adds the nodes that its steps describe, in order, and nothing else: resume points
and marks of implicit use are attached to nodes without changing what they compute.  So a statement
about the nodes of a specialized call is a statement about the steps of its plan.

* `Blueprint`, `Node.blueprint` — what a plan fixes of a node.
* `Step.blueprint?` — the node that a step describes.
* `Step.takeAll_blueprints` — steps add the nodes that they describe.
* `Plan.emit_blueprints` — **a plan adds the nodes that its steps describe**, after the fork-join
  context if that is missing.
* `Plan.blueprint_added`, `Plan.blueprint_of_new` — the same, node by node.
* `Plan.left_of_emit` — **what a plan leaves** on the stack.
-/

namespace CallSite

/-! ## Blueprints -/

/-- **What a plan fixes of a node**: everything but its handle, its resume point and its mark. -/
structure Blueprint where
  op : Op
  inputs : List NodeId
  ty : ValueType
  types : Option TypeSet

def Node.blueprint (n : Node) : Blueprint := ⟨n.op, n.inputs, n.ty, n.types⟩

/-- The node that a step describes, when the nodes of the plan are numbered from `base` on. -/
def Step.blueprint? (base : Nat) (context : NodeId) : Step → Option Blueprint
  | .add op inputs ty types => some ⟨op, inputs.map (·.resolve base context), ty, types⟩
  | .guardTop v observed =>
    some ⟨.typeBarrier .typeSet, [v.resolve base context], observed.knownType, some observed⟩
  | .push _ | .resume _ => none

/-- A step that describes a node is a guard, or adds a node with an operation of its own. -/
lemma Step.op_of_blueprint? {base : Nat} {context : NodeId} {s : Step} {bp : Blueprint}
    (h : s.blueprint? base context = some bp) :
    s.isGuard = true ∧ bp.op = .typeBarrier .typeSet ∨ s.op? = some bp.op := by
  cases s with
  | add op inputs ty types =>
    obtain rfl := Option.some.inj h
    exact .inr rfl
  | guardTop v observed =>
    obtain rfl := Option.some.inj h
    exact .inl ⟨rfl, rfl⟩
  | _ => cases h

/-! ## Graphs -/

namespace Graph

/-- The blueprints of all nodes, in order. -/
def blueprints (g : Graph) : List Blueprint := g.nodes.toList.map Node.blueprint

@[simp] lemma length_blueprints (g : Graph) : g.blueprints.length = g.size := by
  rw [blueprints, List.length_map, Array.length_toList]
  rfl

lemma blueprints_add (g : Graph) (op : Op) (inputs : List NodeId) (ty : ValueType)
    (types : Option TypeSet) :
    (g.add op inputs ty types).blueprints = g.blueprints ++ [⟨op, inputs, ty, types⟩] := by
  rw [blueprints, add, addAs, Array.toList_push, List.map_append]
  rfl

lemma getElem?_blueprints (g : Graph) (k : Nat) :
    g.blueprints[k]? = (g.node? ⟨k⟩).map Node.blueprint := by
  rw [blueprints, List.getElem?_map, Array.getElem?_toList]
  rfl

/-- Graphs with the same blueprint behind every handle have the same blueprints. -/
lemma blueprints_congr {g g' : Graph}
    (h : ∀ id, (g'.node? id).map Node.blueprint = (g.node? id).map Node.blueprint) :
    g'.blueprints = g.blueprints :=
  List.ext_getElem? fun k => by rw [getElem?_blueprints, getElem?_blueprints, h]

/-- A change that leaves blueprints alone. -/
lemma blueprints_modify (g : Graph) (id : NodeId) {f : Node → Node}
    (hf : ∀ n, (f n).blueprint = n.blueprint) : (g.modify id f).blueprints = g.blueprints := by
  refine blueprints_congr fun j => ?_
  rw [node?_modify]
  split_ifs
  · rw [Option.map_map]
    exact congrArg ((g.node? j).map ·) (funext hf)
  · rfl

lemma blueprints_addResumePoint (g : Graph) (id : NodeId) (pc : UInt32)
    (stack locals : List NodeId) :
    (g.addResumePoint id pc stack locals).blueprints = g.blueprints :=
  blueprints_modify _ id fun _ => rfl

lemma blueprints_marked (g : Graph) (ids : List NodeId) :
    (g.marked ids).blueprints = g.blueprints := by
  refine blueprints_congr fun j => ?_
  rw [node?_marked, Option.map_map]
  rfl

end Graph

/-! ## Emissions -/

lemma Emission.blueprints_resumeAfter {e e' : Emission} {id : NodeId}
    (h : e.resumeAfter id = .ok e') : e'.builder.graph.blueprints = e.builder.graph.blueprints := by
  rw [resumeAfter] at h
  split at h
  · cases h
  · split at h
    · cases h
    · cases h
      exact Graph.blueprints_addResumePoint ..

lemma Emission.blueprints_guardTop {e e' : Emission} {id : NodeId} {observed : TypeSet}
    (h : e.guardTop id observed .typeSet = .ok e') :
    e'.builder.graph.blueprints = e.builder.graph.blueprints ++
      [⟨.typeBarrier .typeSet, [id], observed.knownType, some observed⟩] := by
  rw [guardTop.eq_def] at h
  split_ifs at h
  cases h
  exact Graph.blueprints_add ..

namespace Step

variable {base : Nat} {context : NodeId} {e e' : Emission}

/-- A step adds the node that it describes. -/
lemma take_blueprints {s : Step} (h : s.take base context e = .ok e') :
    e'.builder.graph.blueprints =
      e.builder.graph.blueprints ++ (s.blueprint? base context).toList := by
  cases s with
  | add op inputs ty types =>
    cases h
    exact Graph.blueprints_add ..
  | push v =>
    cases h
    exact (List.append_nil _).symm
  | resume v =>
    rw [Emission.blueprints_resumeAfter h]
    exact (List.append_nil _).symm
  | guardTop v observed => exact Emission.blueprints_guardTop h

/-- **Steps add the nodes that they describe.** -/
theorem takeAll_blueprints {steps : List Step} (h : takeAll base context e steps = .ok e') :
    e'.builder.graph.blueprints =
      e.builder.graph.blueprints ++ steps.filterMap (blueprint? base context) := by
  induction steps generalizing e with
  | nil =>
    cases h
    exact (List.append_nil _).symm
  | cons s steps ih =>
    rw [takeAll] at h
    cases hs : s.take base context e with
    | error err =>
      rw [hs] at h
      cases h
    | ok next =>
      rw [hs] at h
      rw [ih h, take_blueprints hs, List.append_assoc]
      congr 1
      cases hb : s.blueprint? base context with
      | none => rw [List.filterMap_cons_none hb, Option.toList_none, List.nil_append]
      | some bp => rw [List.filterMap_cons_some hb]; rfl

/-- As many nodes are described as the progress counts. -/
lemma AdvancesAll.length_blueprints {scope : List Ref} {σ σ' : Progress} {steps : List Step}
    (h : AdvancesAll scope σ steps σ') (base : Nat) (context : NodeId) :
    σ'.added = σ.added + (steps.filterMap (blueprint? base context)).length := by
  induction h with
  | nil => rfl
  | @cons σ σ₁ σ' s rest first _ ih =>
    rw [ih, List.filterMap_cons]
    cases first with
    | add _ _ _ => simp [blueprint?, Progress.add]; omega
    | push _ _ => rfl
    | resume _ _ _ _ _ => rfl
    | guardTop _ _ _ => simp [blueprint?, Progress.guard]; omega

end Step

/-! ## Plans -/

namespace Plan

/-- The node of the fork-join context, where a plan that asks for it has to add it. -/
def contextBlueprints (p : Plan) (b : Builder) : List Blueprint :=
  if p.usesContext ∧ b.context = none then [⟨.forkJoinContext, [], .object, none⟩] else []

/-- **The nodes that the steps of a plan describe.** -/
def blueprints (p : Plan) (b : Builder) (call : Call NodeId) : List Blueprint :=
  p.steps.filterMap
    (Step.blueprint? (p.opened b call).2.builder.graph.size (p.opened b call).1)

/-- Before the first step there is one new node at most, the fork-join context. -/
lemma opened_blueprints (p : Plan) (b : Builder) (call : Call NodeId) :
    (p.opened b call).2.builder.graph.blueprints = b.graph.blueprints ++ p.contextBlueprints b := by
  have hmarked : (b.committed call p.facts).builder.graph.blueprints = b.graph.blueprints :=
    b.graph.blueprints_marked call.operands
  have hcontext : (b.committed call p.facts).builder.context = b.context := rfl
  rw [opened, Emission.withContext, contextBlueprints, Emission.forkJoinContext, hcontext]
  cases p.usesContext <;> cases b.context
  · simpa using hmarked
  · simpa using hmarked
  · simp only [if_true, and_self]
    rw [← hmarked]
    exact Graph.blueprints_add ..
  · simpa using hmarked

/-- A plan that is emitted has had its steps taken one after the other. -/
lemma exists_takeAll_of_emit {p : Plan} {b b' : Builder} {call : Call NodeId}
    (hlive : b.isDead call.site = false) (hops : ∀ id ∈ call.operands, id.index < b.graph.size)
    (h : p.emit b call = .ok b') :
    ∃ e, Step.takeAll (p.opened b call).2.builder.graph.size (p.opened b call).1
      (p.opened b call).2 p.steps = .ok e ∧ b' = e.builder := by
  rw [emit_of_commit (Builder.commit_eq_committed hlive hops p.facts)] at h
  split at h
  · cases h
  · next e htake =>
    split at h
    · cases h
    · next b'' hfinish =>
      cases h
      exact ⟨e, htake, Emission.eq_of_finish hfinish⟩

/-- **A plan adds the nodes that its steps describe**, after the fork-join context if that is
missing. -/
theorem emit_blueprints {p : Plan} {b b' : Builder} {call : Call NodeId}
    (hlive : b.isDead call.site = false) (hops : ∀ id ∈ call.operands, id.index < b.graph.size)
    (h : p.emit b call = .ok b') :
    b'.graph.blueprints = b.graph.blueprints ++ (p.contextBlueprints b ++ p.blueprints b call) := by
  obtain ⟨e, htake, rfl⟩ := exists_takeAll_of_emit hlive hops h
  rw [Step.takeAll_blueprints htake, opened_blueprints, List.append_assoc]
  rfl

variable {p : Plan} {b b' : Builder} {call : Call NodeId}

/-- **An emission that came to an end has come as far as the steps say.** -/
theorem tracks_of_emit {scope : List Ref} {σ : Progress} (hlive : b.isDead call.site = false)
    (hops : ∀ id ∈ call.operands, id.index < b.graph.size) (h : p.emit b call = .ok b')
    (hsteps : Step.AdvancesAll scope {} p.steps σ) :
    ∃ e, b' = e.builder ∧ Emission.Tracks scope (p.opened b call).1 (p.opened b call).2 e σ := by
  obtain ⟨e, htake, htracks⟩ :=
    (Emission.tracks_start scope (p.opened b call).1 (p.opened b call).2).run hsteps
  obtain ⟨e', htake', rfl⟩ := exists_takeAll_of_emit hlive hops h
  obtain rfl := Except.ok.inj (htake.symm.trans htake')
  exact ⟨e, rfl, htracks⟩

/-- The nodes of a plan are numbered behind the fork-join context. -/
lemma size_opened (p : Plan) (b : Builder) (call : Call NodeId) :
    (p.opened b call).2.builder.graph.size = b.graph.size + (p.contextBlueprints b).length := by
  have hlength := congrArg List.length (p.opened_blueprints b call)
  simpa using hlength

/-- **The `k`-th node of a plan** is the one that its steps describe as the `k`-th. -/
theorem blueprint_added (hlive : b.isDead call.site = false)
    (hops : ∀ id ∈ call.operands, id.index < b.graph.size) (h : p.emit b call = .ok b') (k : Nat) :
    (b'.graph.node? ⟨(p.opened b call).2.builder.graph.size + k⟩).map Node.blueprint =
      (p.blueprints b call)[k]? := by
  have hsize := p.size_opened b call
  rw [← Graph.getElem?_blueprints, emit_blueprints hlive hops h, ← List.append_assoc,
    List.getElem?_append_right (by simp; omega)]
  congr 1
  simp
  omega

/-- **A guard of the result is the last node** of a plan that ends in one. -/
theorem blueprint_guard {scope : List Ref} {σ : Progress} {before : List Step} {v : Ref}
    {observed : TypeSet} (hlive : b.isDead call.site = false)
    (hops : ∀ id ∈ call.operands, id.index < b.graph.size) (h : p.emit b call = .ok b')
    (hall : p.steps = before ++ [.guardTop v observed])
    (hbefore : Step.AdvancesAll scope {} before σ) :
    (b'.graph.node? ⟨(p.opened b call).2.builder.graph.size + σ.added⟩).map Node.blueprint =
      some ⟨.typeBarrier .typeSet,
        [v.resolve (p.opened b call).2.builder.graph.size (p.opened b call).1],
        observed.knownType, some observed⟩ := by
  have hlength := hbefore.length_blueprints (p.opened b call).2.builder.graph.size
    (p.opened b call).1
  rw [blueprint_added hlive hops h, blueprints, hall, List.filterMap_append, hlength,
    List.getElem?_append_right (by simp)]
  simp [Step.blueprint?]

/-- **A new node** is the fork-join context or one of those that the steps describe. -/
theorem blueprint_of_new (hlive : b.isDead call.site = false)
    (hops : ∀ id ∈ call.operands, id.index < b.graph.size) (h : p.emit b call = .ok b')
    {id : NodeId} {n : Node} (hid : b.graph.size ≤ id.index) (hn : b'.graph.node? id = some n) :
    n.op = .forkJoinContext ∨ ∃ k, id = ⟨(p.opened b call).2.builder.graph.size + k⟩ ∧
      (p.blueprints b call)[k]? = some n.blueprint := by
  by_cases hlt : id.index < (p.opened b call).2.builder.graph.size
  · left
    have hget := b'.graph.getElem?_blueprints id.index
    rw [emit_blueprints hlive hops h, ← List.append_assoc, ← opened_blueprints,
      List.getElem?_append_left (by simpa using hlt), opened_blueprints,
      List.getElem?_append_right (by simpa using hid)] at hget
    have hmem := List.mem_of_getElem? (hget.trans (congrArg (Option.map Node.blueprint) hn))
    rw [contextBlueprints] at hmem
    split_ifs at hmem
    · exact congrArg Blueprint.op (List.mem_singleton.1 hmem)
    · cases hmem
  · right
    obtain ⟨k, hk⟩ := Nat.exists_eq_add_of_le (Nat.le_of_not_lt hlt)
    obtain rfl : id = ⟨(p.opened b call).2.builder.graph.size + k⟩ := NodeId.index_inj.1 hk
    exact ⟨k, rfl, by rw [← blueprint_added hlive hops h, hn]; rfl⟩

/-- A new node is the fork-join context, a guard, or one with an operation of the plan. -/
lemma op_of_new (hlive : b.isDead call.site = false)
    (hops : ∀ id ∈ call.operands, id.index < b.graph.size) (h : p.emit b call = .ok b')
    {id : NodeId} {n : Node} (hid : b.graph.size ≤ id.index) (hn : b'.graph.node? id = some n) :
    n.op = .forkJoinContext ∨ n.op = .typeBarrier .typeSet ∨ n.op ∈ p.ops := by
  rcases blueprint_of_new hlive hops h hid hn with hcontext | ⟨k, -, hk⟩
  · exact .inl hcontext
  · obtain ⟨s, hs, hbp⟩ := List.mem_filterMap.1 (List.mem_of_getElem? hk)
    rcases Step.op_of_blueprint? hbp with ⟨-, hguard⟩ | hadd
    · exact .inr (.inl hguard)
    · exact .inr (.inr (List.mem_filterMap.2 ⟨s, hs, hadd⟩))

/-- **What a plan leaves** on the stack is the value that it has pushed or, where its last step
guards that value, the guard. -/
theorem left_of_emit {scope : List Ref} {σ : Progress} (hlive : b.isDead call.site = false)
    (hops : ∀ id ∈ call.operands, id.index < b.graph.size) (h : p.emit b call = .ok b')
    (hsteps : Step.AdvancesAll scope {} p.steps σ) (hσ : σ.Finished) :
    ∃ w, σ.pushed = some w ∧
      ((∀ s ∈ p.steps, s.isGuard = false) ∧
        b'.stack = b.stack ++
          [w.resolve (p.opened b call).2.builder.graph.size (p.opened b call).1] ∨
      ∃ before observed, p.steps = before ++ [.guardTop w observed] ∧
        (∀ s ∈ before, s.isGuard = false) ∧ ∃ σ₁, Step.AdvancesAll scope {} before σ₁ ∧
        b'.stack = b.stack ++ [⟨(p.opened b call).2.builder.graph.size + σ₁.added⟩]) := by
  obtain ⟨e, rfl, htracks⟩ := tracks_of_emit hlive hops h hsteps
  obtain ⟨w, hw⟩ := Option.isSome_iff_exists.1 hσ.1
  have hstack := htracks.stack
  rw [hw, (Emission.opens_opened p b call).stack] at hstack
  rcases hsteps.guard_last rfl with
    ⟨unguarded, hquiet⟩ | ⟨before, v, observed, σ₁, hall, hquiet, hbefore, unguarded, hv, rfl⟩
  · exact ⟨w, (htracks.sound.pushed unguarded).trans hw, .inl ⟨hquiet, hstack⟩⟩
  · obtain rfl : Ref.added σ₁.added = w := Option.some.inj hw
    have hpushed := (hbefore.sound Progress.sound_start).pushed unguarded
    exact ⟨v, hpushed.trans hv, .inr ⟨before, observed, hall, hquiet, σ₁, hbefore, hstack⟩⟩

end Plan

end CallSite
