import CallSite.Proofs.Graph
import CallSite.Proofs.Progress

/-!
# Emitting an orderly plan

The steps of an orderly plan never fail, and what they leave behind is known without looking at the
steps: the nodes that were there stay as they are, those added are numbered in order and mention
what was available when they were added, and the stack has the result on top.

* `Emission.fixed` — what no step of a plan changes.
* `Emission.Tracks` — **the invariant**: an emission has come as far as a progress says.
* `Emission.Tracks.step`, `Emission.Tracks.run` — a step that may be taken is taken, and the
  invariant holds again; and so for all steps.
* `Emission.Tracks.finish` — the emission can be ended when nothing is left open.
-/

namespace CallSite

namespace Emission

/-! ## What no step changes -/

/-- The parts of an emission that the steps of a plan leave alone. -/
structure Fixed where
  site : SiteId
  baseDepth : Nat
  firstNode : Nat
  locals : List NodeId
  pc : UInt32
  deadSites : List SiteId
  context : Option NodeId
  dependencies : Dependencies

/-- **What no step of a plan changes.** -/
def fixed (e : Emission) : Fixed where
  site := e.site
  baseDepth := e.baseDepth
  firstNode := e.firstNode
  locals := e.builder.locals
  pc := e.builder.pc
  deadSites := e.builder.deadSites
  context := e.builder.context
  dependencies := e.builder.graph.dependencies

@[simp] lemma graph_add (e : Emission) (op : Op) (inputs : List NodeId) (ty : ValueType)
    (types : Option TypeSet) :
    (e.add op inputs ty types).builder.graph = e.builder.graph.add op inputs ty types := rfl

/-- A node without a resume point gets one. -/
lemma resumeAfter_of_unresumed {e : Emission} {id : NodeId} {n : Node}
    (hn : e.builder.graph.node? id = some n) (hr : n.resumePoint = none) :
    e.resumeAfter id = .ok { e with
      builder.graph :=
        e.builder.graph.addResumePoint id e.builder.pc e.builder.stack e.builder.locals } := by
  rw [resumeAfter, hn]
  dsimp only
  rw [hr]

/-! ## The invariant -/

/-- **What is known of the `k`-th node of a plan**, when the nodes that the plan adds are numbered
from `base` on. -/
structure Placed (scope : List Ref) (base : Nat) (context : NodeId) (σ : Progress) (k : Nat)
    (n : Node) : Prop where
  id : n.id = ⟨base + k⟩
  inputs : ∀ i ∈ n.inputs, ∃ r : Ref, r.Available scope k ∧ i = r.resolve base context
  unused : n.implicitlyUsed = false
  unresumed : σ.settled ≤ k → n.resumePoint = none
  waiting : n.op.isEffectful = true → n.resumePoint = none → σ.pending = some k

/-- **The resume points that a progress has added** to the emission `e₀`: each is attached to a node
of the plan, and its stack is the one before with the pushed result on top. -/
def snapshots (context : NodeId) (e₀ : Emission) (σ : Progress) : List ResumePoint :=
  σ.resumed.mapIdx fun j k =>
    { id := ⟨e₀.builder.graph.resumePoints.size + j⟩
      instruction := ⟨e₀.builder.graph.size + k⟩
      pc := e₀.builder.pc
      stack := e₀.builder.stack ++
        (σ.pushed.map (·.resolve e₀.builder.graph.size context)).toList
      locals := e₀.builder.locals }

/-- **An emission has come as far as the progress says**, from the emission `e₀` on. -/
structure Tracks (scope : List Ref) (context : NodeId) (e₀ e : Emission) (σ : Progress) : Prop where
  fixed : e.fixed = e₀.fixed
  size : e.builder.graph.size = e₀.builder.graph.size + σ.added
  old : ∀ id : NodeId, id.index < e₀.builder.graph.size →
    e.builder.graph.node? id = e₀.builder.graph.node? id
  placed : ∀ k < σ.added, ∃ n, e.builder.graph.node? ⟨e₀.builder.graph.size + k⟩ = some n ∧
    Placed scope e₀.builder.graph.size context σ k n
  block : e.builder.graph.block.toList = e₀.builder.graph.block.toList ++
    (List.range' e₀.builder.graph.size σ.added).map NodeId.mk
  resumePoints : e.builder.graph.resumePoints.toList =
    e₀.builder.graph.resumePoints.toList ++ snapshots context e₀ σ
  stack : e.builder.stack = e₀.builder.stack ++
    (σ.result.map (·.resolve e₀.builder.graph.size context)).toList
  result : ∀ v ∈ σ.result, v.Available scope σ.added
  sound : σ.Sound

variable {scope : List Ref} {context : NodeId} {e₀ e : Emission} {σ σ' : Progress}

/-- At the start nothing has been added. -/
lemma tracks_start (scope : List Ref) (context : NodeId) (e : Emission) :
    Tracks scope context e e {} where
  fixed := rfl
  size := rfl
  old _ _ := rfl
  placed k hk := absurd hk (Nat.not_lt_zero k)
  block := by simp
  resumePoints := (List.append_nil _).symm
  stack := by simp
  result := nofun
  sound := Progress.sound_start

/-- A node added later changes nothing for the nodes before it. -/
lemma Placed.add {base k : Nat} {n : Node} (h : Placed scope base context σ k n) {op : Op}
    (settled : op.isEffectful = true → σ.pending = none) :
    Placed scope base context (σ.add op) k n where
  id := h.id
  inputs := h.inputs
  unused := h.unused
  unresumed := h.unresumed
  waiting he hn := by
    have hk := h.waiting he hn
    rw [Progress.add]
    dsimp only
    by_cases hop : op.isEffectful = true
    · rw [settled hop] at hk
      cases hk
    · rw [if_neg hop]
      exact hk

namespace Tracks

/-! ## One step -/

/-- The next node is the one that the progress counts next. -/
lemma nextId (h : Tracks scope context e₀ e σ) :
    e.builder.graph.nextId = ⟨e₀.builder.graph.size + σ.added⟩ := by
  rw [Graph.nextId, h.size]

lemma add (h : Tracks scope context e₀ e σ) {op : Op} {inputs : List Ref} (ty : ValueType)
    (types : Option TypeSet) (available : ∀ r ∈ inputs, r.Available scope σ.added)
    (settled : op.isEffectful = true → σ.pending = none) :
    Tracks scope context e₀
      (e.add op (inputs.map (·.resolve e₀.builder.graph.size context)) ty types) (σ.add op) where
  fixed := h.fixed
  size := by
    rw [graph_add, Graph.size_add, h.size]
    rfl
  old id hid := by
    have hlt : id.index < e.builder.graph.size := by
      rw [h.size]
      omega
    rw [graph_add, Graph.node?_add_of_lt hlt]
    exact h.old id hid
  placed k hk := by
    rw [graph_add, Graph.node?_add, h.nextId]
    rcases Nat.lt_succ_iff_lt_or_eq.1 hk with hk | rfl
    · have hne : (⟨e₀.builder.graph.size + k⟩ : NodeId) ≠ ⟨e₀.builder.graph.size + σ.added⟩ := by
        rw [ne_eq, NodeId.mk.injEq]
        omega
      obtain ⟨n, hn, hplaced⟩ := h.placed k hk
      rw [if_neg hne]
      exact ⟨n, hn, hplaced.add settled⟩
    · rw [if_pos rfl]
      refine ⟨_, rfl, rfl, ?_, rfl, fun _ => rfl, fun he _ => if_pos he⟩
      intro i hi
      obtain ⟨r, hr, rfl⟩ := List.mem_map.1 hi
      exact ⟨r, available r hr, rfl⟩
  block := by
    show (e.builder.graph.block.push e.builder.graph.nextId).toList = _
    rw [Array.toList_push, h.block, h.nextId]
    show _ = _ ++ (List.range' _ (σ.added + 1)).map NodeId.mk
    rw [List.range'_concat, List.map_append, List.append_assoc, Nat.one_mul]
    rfl
  resumePoints := h.resumePoints
  stack := h.stack
  result v hv := (h.result v hv).mono (Nat.le_succ _)
  sound := ⟨h.sound.pushed, h.sound.resumed⟩

lemma push (h : Tracks scope context e₀ e σ) {v : Ref} (available : v.Available scope σ.added)
    (first : σ.result = none) :
    Tracks scope context e₀ (e.push (v.resolve e₀.builder.graph.size context)) (σ.push v) where
  fixed := h.fixed
  size := h.size
  old := h.old
  placed := fun k hk => (h.placed k hk).imp fun _ hn => ⟨hn.1, hn.2.id, hn.2.inputs, hn.2.unused,
    hn.2.unresumed, hn.2.waiting⟩
  block := h.block
  resumePoints := by
    have hresumed := h.sound.resumed first
    refine h.resumePoints.trans ?_
    simp [snapshots, Progress.push, hresumed]
  stack := by
    show e.builder.stack ++ [_] = _
    rw [h.stack, first]
    simp [Progress.push]
  result _ hv := Option.mem_some_iff.1 hv ▸ available
  sound := ⟨fun _ => rfl, nofun⟩

/-- The next resume point is the one that the progress counts next. -/
lemma nextResumePoint (h : Tracks scope context e₀ e σ) :
    e.builder.graph.nextResumePoint =
      ⟨e₀.builder.graph.resumePoints.size + σ.resumed.length⟩ := by
  have hlength := congrArg List.length h.resumePoints
  simp only [snapshots, List.length_append, Array.length_toList, List.length_mapIdx] at hlength
  rw [Graph.nextResumePoint, hlength]

lemma resume (h : Tracks scope context e₀ e σ) {k : Nat} (fresh : σ.settled ≤ k)
    (there : k < σ.added) (pushed : σ.result.isSome = true) (unguarded : σ.guarded = false)
    (waiting : ∀ j, σ.pending = some j → j = k) :
    ∃ e', e.resumeAfter ⟨e₀.builder.graph.size + k⟩ = .ok e' ∧
      Tracks scope context e₀ e' (σ.resume k) := by
  obtain ⟨n, hn, hplaced⟩ := h.placed k there
  rw [resumeAfter_of_unresumed hn (hplaced.unresumed fresh)]
  refine ⟨_, rfl, h.fixed, ?_, ?_, ?_, h.block, ?_, h.stack, h.result, h.sound.pushed, ?_⟩
  · exact (Graph.size_addResumePoint ..).trans h.size
  · intro id hid
    have hne : id ≠ ⟨e₀.builder.graph.size + k⟩ := by
      rintro rfl
      exact absurd hid (by simp)
    dsimp only
    rw [Graph.node?_addResumePoint, if_neg hne]
    exact h.old id hid
  · intro j hj
    obtain ⟨m, hm, hplaced'⟩ := h.placed j hj
    dsimp only
    rw [Graph.node?_addResumePoint, hm]
    by_cases hjk : j = k
    · subst hjk
      rw [if_pos rfl]
      refine ⟨_, rfl, hplaced'.id, hplaced'.inputs, hplaced'.unused, ?_, nofun⟩
      intro hle
      exact absurd hle (Nat.not_succ_le_self j)
    · rw [if_neg (by rw [NodeId.mk.injEq]; omega)]
      refine ⟨m, rfl, hplaced'.id, hplaced'.inputs, hplaced'.unused, ?_, ?_⟩
      · intro hle
        exact hplaced'.unresumed (by have : k + 1 ≤ j := hle; omega)
      · intro he hr
        exact absurd (waiting j (hplaced'.waiting he hr)) hjk
  · show (e.builder.graph.resumePoints.push _).toList = _
    have hpc : e.builder.pc = e₀.builder.pc := congrArg Fixed.pc h.fixed
    have hlocals : e.builder.locals = e₀.builder.locals := congrArg Fixed.locals h.fixed
    have hpushed := h.sound.pushed unguarded
    rw [Array.toList_push, h.resumePoints, h.nextResumePoint, h.stack, hpc, hlocals, ← hpushed,
      List.append_assoc]
    simp [snapshots, Progress.resume, List.mapIdx_append]
  · intro hnone
    have hresult : σ.result = none := hnone
    rw [hresult] at pushed
    cases pushed

/-- The result is replaced by another value. -/
lemma replaceTop (h : Tracks scope context e₀ e σ) {v w : Ref} (top : σ.result = some v)
    (available : w.Available scope σ.added) :
    Tracks scope context e₀
      { e with builder := e.builder.pop.push (w.resolve e₀.builder.graph.size context) }
      { σ with result := some w, guarded := true } where
  fixed := h.fixed
  size := h.size
  old := h.old
  placed := fun k hk => (h.placed k hk).imp fun _ hn => ⟨hn.1, hn.2.id, hn.2.inputs, hn.2.unused,
    hn.2.unresumed, hn.2.waiting⟩
  block := h.block
  resumePoints := h.resumePoints
  stack := by
    show e.builder.stack.dropLast ++ [_] = _
    rw [h.stack, top]
    simp
  result _ hv := Option.mem_some_iff.1 hv ▸ available
  sound := ⟨nofun, nofun⟩

lemma guardTop (h : Tracks scope context e₀ e σ) {v : Ref} (observed : TypeSet)
    (top : σ.result = some v) :
    ∃ e', e.guardTop (v.resolve e₀.builder.graph.size context) observed .typeSet = .ok e' ∧
      Tracks scope context e₀ e' σ.guard := by
  have hpeek : e.builder.peek = some (v.resolve e₀.builder.graph.size context) := by
    rw [Builder.peek, h.stack, top]
    simp
  rw [Emission.guardTop, hpeek, if_neg (not_not.2 rfl)]
  refine ⟨_, rfl, ?_⟩
  have available : ∀ r ∈ [v], r.Available scope σ.added := by simpa using h.result v top
  have hadd : Tracks scope context e₀ (e.add (.typeBarrier .typeSet)
      [v.resolve e₀.builder.graph.size context] observed.knownType observed)
      (σ.add (.typeBarrier .typeSet)) := h.add observed.knownType observed available nofun
  have hguard := hadd.replaceTop top (.inr ⟨σ.added, Nat.lt_succ_self _, rfl⟩)
  rw [Emission.nextId, h.nextId]
  exact hguard

/-- **A step that may be taken is taken**, and the emission has come as far as the progress says
again. -/
theorem step {s : Step} (h : Tracks scope context e₀ e σ) (hs : Step.Advances scope σ s σ') :
    ∃ e', s.take e₀.builder.graph.size context e = .ok e' ∧ Tracks scope context e₀ e' σ' := by
  cases hs with
  | add available unguarded settled => exact ⟨_, rfl, h.add _ _ available settled⟩
  | push available first => exact ⟨_, rfl, h.push available first⟩
  | resume fresh there pushed unguarded waiting =>
    exact h.resume fresh there pushed unguarded waiting
  | guardTop top unguarded settled => exact h.guardTop _ top

/-! ## All steps -/

/-- **Steps in order are all taken.** -/
theorem run {steps : List Step} (h : Tracks scope context e₀ e σ)
    (hs : Step.AdvancesAll scope σ steps σ') :
    ∃ e', Step.takeAll e₀.builder.graph.size context e steps = .ok e' ∧
      Tracks scope context e₀ e' σ' := by
  induction hs generalizing e with
  | nil => exact ⟨e, rfl, h⟩
  | cons first others ih =>
    obtain ⟨e₁, htake, h₁⟩ := h.step first
    obtain ⟨e₂, htakeAll, h₂⟩ := ih h₁
    refine ⟨e₂, ?_, h₂⟩
    rw [Step.takeAll, htake]
    exact htakeAll

/-! ## New nodes -/

/-- **A node that was not there at the start** is one of those that the progress counts. -/
theorem exists_placed (h : Tracks scope context e₀ e σ) {id : NodeId} {n : Node}
    (hid : e₀.builder.graph.size ≤ id.index) (hn : e.builder.graph.node? id = some n) :
    ∃ k < σ.added, id = ⟨e₀.builder.graph.size + k⟩ ∧
      Placed scope e₀.builder.graph.size context σ k n := by
  have hlt := Graph.lt_size_of_node? hn
  rw [h.size] at hlt
  have hindex : id = ⟨e₀.builder.graph.size + (id.index - e₀.builder.graph.size)⟩ :=
    NodeId.index_inj.1 (Nat.add_sub_cancel' hid).symm
  obtain ⟨m, hm, hplaced⟩ := h.placed (id.index - e₀.builder.graph.size) (by omega)
  rw [← hindex, hn] at hm
  obtain rfl := Option.some.inj hm
  exact ⟨_, by omega, hindex, hplaced⟩

end Tracks

end Emission

end CallSite
