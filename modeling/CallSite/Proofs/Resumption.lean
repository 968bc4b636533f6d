import CallSite.Proofs.Frame
import CallSite.Proofs.Linked
import CallSite.Proofs.Replaced
import CallSite.Proofs.Run

/-!
# Resuming after a specialized call

When compiled code bails out after an effect, the interpreter goes on behind the call, so the state
recorded for it has to be the one that the call leaves: the stack before the call with its result on
top.  Where the result is guarded, the guard has not run yet, and it is the guarded value that the
interpreter finds.

* `Graph.behind` — the value behind a guard that the call has added.
* `Builder.Snapshot` — what a resume point of a call records.
* `Plan.exists_behind_of_emit` — the value behind the guard is the one that the plan has pushed.
* `Compilation.run_resumable` — **in every run each effect has one resume point, and every resume
  point records what its call leaves**.
-/

namespace CallSite

/-- A regular expression is run on a string, where objects were seen to come out. -/
def Scenario.exec : Scenario where
  site := ⟨7⟩
  callee := .function (.ofNative ⟨1⟩ .regExpExec)
  receiver := some (.typed .object (some (.singleton { id := ⟨1⟩, objectClass := .regExp })))
  args := [.typed .string none]
  resultTypes := some (.singleton { id := ⟨2⟩, objectClass := .array })

/-- The operands of that call are added one after the other. -/
def Scenario.execActions : List Action :=
  [.addParameter 0 .object none,
    .addParameter 1 .object (some (.singleton { id := ⟨1⟩, objectClass := .regExp })),
    .addParameter 2 .string none]

/-! ## Snapshots -/

/-- **The value behind a guard** that stands at `first` or later; any other value is its own. -/
def Graph.behind (g : Graph) (first : Nat) (id : NodeId) : NodeId :=
  match (g.node? id).map Node.blueprint with
  | some ⟨.typeBarrier _, [value], _, _⟩ => if first ≤ id.index then value else id
  | _ => id

/-- **What a resume point records** of a call that takes the builder from `b` to `b'` and leaves `v`
on the stack. -/
structure Builder.Snapshot (b b' : Builder) (v : NodeId) (r : ResumePoint) : Prop where
  instruction : b.graph.size ≤ r.instruction.index ∧ r.instruction.index < b'.graph.size
  pc : r.pc = b.pc
  locals : r.locals = b.locals
  stack : r.stack = b.stack ++ [b'.graph.behind b.graph.size v]

/-- **The call leaves one value**, and each resume point that it adds records so. -/
def Builder.Resumes (b b' : Builder) : Prop :=
  ∃ v, b'.stack = b.stack ++ [v] ∧
    ∀ r ∈ b'.graph.resumePoints.toList.drop b.graph.resumePoints.size, b.Snapshot b' v r

/-- **Each effect of the graph has exactly one resume point.** -/
def Graph.EffectsResumed (g : Graph) : Prop :=
  ∀ id n, g.node? id = some n → n.op.isEffectful = true →
    ∃ r ∈ g.resumePoints, n.resumePoint = some r.id ∧ r.instruction = id ∧
      ∀ r' ∈ g.resumePoints, r'.instruction = id → r' = r

namespace Graph

variable {g : Graph} {first : Nat} {id value : NodeId}

lemma behind_of_barrier {kind : Barrier} {ty : ValueType} {types : Option TypeSet}
    (h : (g.node? id).map Node.blueprint = some ⟨.typeBarrier kind, [value], ty, types⟩)
    (hid : first ≤ id.index) : g.behind first id = value := by
  rw [behind, h]
  exact if_pos hid

lemma behind_of_no_barrier
    (h : ∀ n, g.node? id = some n → first ≤ id.index → ∀ kind, n.op ≠ .typeBarrier kind) :
    g.behind first id = id := by
  rw [behind]
  split
  · next kind value ty types hblueprint =>
    obtain ⟨n, hn, hop⟩ := Option.map_eq_some_iff.1 hblueprint
    refine if_neg fun hid => h n hn hid kind ?_
    exact congrArg Blueprint.op hop
  · rfl

end Graph

/-! ## The value that a plan pushes -/

namespace Plan

variable {p : Plan} {b b' : Builder} {call : Call NodeId} {scope : List Ref} {σ : Progress}

/-- **The value behind the guard is the one that was pushed**: a plan that guards its result does so
in its last step, and no other node of a plan is a guard. -/
theorem exists_behind_of_emit (hlive : b.isDead call.site = false)
    (hops : ∀ id ∈ call.operands, id.index < b.graph.size) (h : p.emit b call = .ok b')
    (hsteps : Step.AdvancesAll scope {} p.steps σ) (hσ : σ.Finished)
    (hbarrier : p.Emits fun op => ∀ kind, op ≠ .typeBarrier kind) :
    ∃ v w, b'.stack = b.stack ++ [v] ∧ σ.pushed = some w ∧
      b'.graph.behind b.graph.size v =
        w.resolve (p.opened b call).2.builder.graph.size (p.opened b call).1 := by
  have hle := (Emission.opens_opened p b call).size_le
  obtain ⟨w, hw, ⟨hquiet, hstack⟩ | ⟨before, observed, hall, -, σ₁, hbefore, hstack⟩⟩ :=
    left_of_emit hlive hops h hsteps hσ
  · refine ⟨_, w, hstack, hw, Graph.behind_of_no_barrier fun n hn hid kind hop => ?_⟩
    rcases blueprint_of_new hlive hops h hid hn with hcontext | ⟨k, -, hk⟩
    · simp [hop] at hcontext
    · obtain ⟨s, hs, hbp⟩ := List.mem_filterMap.1 (List.mem_of_getElem? hk)
      rcases Step.op_of_blueprint? hbp with ⟨hguard, -⟩ | hadd
      · simp [hquiet s hs] at hguard
      · exact hbarrier _ (List.mem_filterMap.2 ⟨s, hs, hadd⟩) kind hop
  · refine ⟨_, w, hstack, hw, ?_⟩
    refine Graph.behind_of_barrier (blueprint_guard hlive hops h hall hbefore) ?_
    exact Nat.le_trans hle (Nat.le_add_right _ _)

end Plan

/-! ## One attempt -/

namespace Plan

variable {s : Site} {p : Plan} {b b' : Builder} {call : Call NodeId}

/-- **Every resume point of a plan records what the call leaves.** -/
theorem Orderly.snapshots (horderly : p.Orderly s) (hlive : b.isDead call.site = false)
    (hops : ∀ id ∈ call.operands, id.index < b.graph.size) (h : p.emit b call = .ok b')
    (hlinked : b'.graph.Linked) (hbarrier : p.Emits fun op => ∀ kind, op ≠ .typeBarrier kind) :
    b.Resumes b' := by
  obtain ⟨σ, hsteps, hσ⟩ := horderly
  obtain ⟨v, w, hstack, hpushed, hbehind⟩ := exists_behind_of_emit hlive hops h hsteps hσ hbarrier
  obtain ⟨e, rfl, htracks⟩ := tracks_of_emit hlive hops h hsteps
  have hopens := Emission.opens_opened p b call
  refine ⟨v, hstack, fun r hr => ?_⟩
  have hlt : r.instruction.index < e.builder.graph.size := by
    have hmem : r ∈ e.builder.graph.resumePoints := Array.mem_toList_iff.1 (List.mem_of_mem_drop hr)
    exact hlinked.instruction_lt hmem
  rw [htracks.resumePoints, hopens.resumePoints, ← Array.length_toList, List.drop_left] at hr
  obtain ⟨j, hj, rfl⟩ := List.mem_mapIdx.1 hr
  refine ⟨⟨Nat.le_trans hopens.size_le (Nat.le_add_right _ _), hlt⟩, hopens.pc, hopens.locals, ?_⟩
  rw [hbehind, hpushed, hopens.stack]
  rfl

/-- **Every effect of a plan can be resumed after.** -/
theorem Orderly.resumed (horderly : p.Orderly s) (hlive : b.isDead call.site = false)
    (hops : ∀ id ∈ call.operands, id.index < b.graph.size) (h : p.emit b call = .ok b')
    {id : NodeId} {n : Node} (hid : b.graph.size ≤ id.index) (hn : b'.graph.node? id = some n)
    (heffectful : n.op.isEffectful = true) : n.resumePoint.isSome = true := by
  obtain ⟨σ, hsteps, hσ⟩ := horderly
  obtain ⟨e, rfl, htracks⟩ := tracks_of_emit hlive hops h hsteps
  have hopens := Emission.opens_opened p b call
  by_cases hlt : id.index < (p.opened b call).2.builder.graph.size
  · rw [htracks.old id hlt] at hn
    rw [(hopens.new id n hid hn).2.2] at heffectful
    cases heffectful
  · obtain ⟨k, -, -, hplaced⟩ := htracks.exists_placed (Nat.le_of_not_lt hlt) hn
    rw [Option.isSome_iff_ne_none]
    intro hnone
    have hpending := hplaced.waiting heffectful hnone
    rw [hσ.2] at hpending
    cases hpending

end Plan

/-! ## Every run -/

/-- Every node with an effect carries a resume point. -/
def Graph.EffectsCovered (g : Graph) : Prop :=
  ∀ id n, g.node? id = some n → n.op.isEffectful = true → n.resumePoint.isSome = true

lemma Graph.effectsCovered_empty : EffectsCovered {} :=
  fun _ _ hn => absurd (lt_size_of_node? hn) (Nat.not_lt_zero _)

/-- A node without an effect needs no resume point. -/
lemma Graph.EffectsCovered.add {g : Graph} (h : g.EffectsCovered) (op : Op)
    (quiet : op.isEffectful = false) (inputs : List NodeId) (ty : ValueType)
    (types : Option TypeSet) : (g.add op inputs ty types).EffectsCovered := by
  intro id n hn heffectful
  rw [node?_add] at hn
  split_ifs at hn
  · obtain rfl := Option.some.inj hn
    simp [quiet] at heffectful
  · exact h id n hn heffectful

/-- **The resume point that a node carries is the only one that names it.** -/
theorem Graph.Linked.exists_resumed {g : Graph} (hg : g.Linked) {id : NodeId} {n : Node}
    (hn : g.node? id = some n) (h : n.resumePoint.isSome = true) :
    ∃ r ∈ g.resumePoints, n.resumePoint = some r.id ∧ r.instruction = id ∧
      ∀ r' ∈ g.resumePoints, r'.instruction = id → r' = r := by
  obtain ⟨k, hk⟩ := Option.isSome_iff_exists.1 h
  have hresumed : g.resumed? id = some k := resumed?_eq_some.2 ⟨n, hn, hk⟩
  obtain ⟨r, hr, hinstruction⟩ := hg.named id k hresumed
  refine ⟨r, Array.mem_of_getElem? hr, ?_, hinstruction, fun r' hr' hinstruction' => ?_⟩
  · rw [hk, hg.id k r hr]
  · have hr'' := resumePoint?_of_mem hg hr'
    have hcarried := hg.carried _ r' hr''
    rw [hinstruction', hresumed] at hcarried
    rw [← Option.some.inj hcarried, hr] at hr''
    exact (Option.some.inj hr'').symm

lemma Graph.EffectsCovered.resumed {g : Graph} (h : g.EffectsCovered) (hg : g.Linked) :
    g.EffectsResumed :=
  fun id n hn heffectful => hg.exists_resumed hn (h id n hn heffectful)

namespace Inliner

variable {b : Builder}

/-- An attempt leaves no effect without a resume point. -/
lemma effectsCovered_attempt (hb : b.Reachable) (h : b.graph.EffectsCovered) (i : Inliner)
    (stubs : StubStore) (call : Call NodeId) (callee : Callee) :
    (i.attempt stubs b call callee).builder.graph.EffectsCovered := by
  have hends := i.attempt_ends stubs b call callee
  generalize i.attempt stubs b call callee = a at hends ⊢
  cases hends with
  | @inlined r log created p stubs' b' hlive hr hdecide horderly hstub hemit =>
    have hresolved := resolved_of_eq_ok hr
    intro id n hn heffectful
    by_cases hid : id.index < b.graph.size
    · obtain ⟨m, hm⟩ := Graph.exists_node? hid
      obtain ⟨e, σ, he, hσ, htracks⟩ := horderly.emit hlive hresolved.lt_size
      obtain rfl := Except.ok.inj (hemit.symm.trans he)
      have hold := (htracks.specializes hσ hb.contextPlaced hresolved).old id m hm
      obtain rfl := Option.some.inj (hn.symm.trans hold)
      exact h id m hm heffectful
    · exact horderly.resumed hlive hresolved.lt_size hemit (Nat.le_of_not_lt hid) hn heffectful
  | _ => exact h

namespace Emits

variable {b' : Builder} {i : Inliner} {call : Call NodeId} {callee : Callee} {r : Call Operand}
  {p : Plan}

/-- A call that is replaced is specialized. -/
lemma specializes (h : i.Emits b call callee r p b') (hb : b.Reachable) :
    b.Specializes call b' := by
  obtain ⟨e, σ, he, hσ, htracks⟩ := h.orderly.emit h.live h.resolved.lt_size
  obtain rfl := Except.ok.inj (h.emit.symm.trans he)
  exact htracks.specializes hσ hb.contextPlaced h.resolved

/-- **A new effect is resumed after with the result on the stack**, where that is no guard. -/
theorem exists_resumed (h : i.Emits b call callee r p b') (hb : b.Reachable) (hb' : b'.Reachable)
    {v : NodeId} (hv : b'.stack = b.stack ++ [v]) (hbehind : b'.graph.behind b.graph.size v = v)
    {id : NodeId} {n : Node} (hid : b.graph.size ≤ id.index) (hn : b'.graph.node? id = some n)
    (heffectful : n.op.isEffectful = true) :
    ∃ r ∈ b'.graph.resumePoints, n.resumePoint = some r.id ∧ r.instruction = id ∧
      r.stack = b.stack ++ [v] ∧
      ∀ r' ∈ b'.graph.resumePoints, r'.instruction = id → r' = r := by
  have hops := h.resolved.lt_size
  obtain ⟨r, hr, hcarried, hinstruction, hunique⟩ := hb'.linked.exists_resumed hn
    (h.orderly.resumed h.live hops h.emit hid hn heffectful)
  refine ⟨r, hr, hcarried, hinstruction, ?_, hunique⟩
  obtain ⟨w, hstack, hsnapshots⟩ :=
    h.orderly.snapshots h.live hops h.emit hb'.linked h.origin.emits_no_barrier
  obtain rfl : w = v := List.singleton_inj.1 (List.append_cancel_left (hstack.symm.trans hv))
  -- the resume point names a new node, so it was not there before
  have hnew : r ∈ b'.graph.resumePoints.toList.drop b.graph.resumePoints.size := by
    obtain ⟨more, hmore⟩ := (h.specializes hb).resumePoints
    rw [← Array.mem_toList_iff, ← hmore, List.mem_append] at hr
    rw [← hmore, ← Array.length_toList, List.drop_left]
    refine hr.resolve_left fun hold => ?_
    have hlt := hb.linked.instruction_lt (Array.mem_toList_iff.1 hold)
    rw [hinstruction] at hlt
    omega
  rw [(hsnapshots r hnew).stack, hbehind]

end Emits

/-- **The resume points of an attempt record what the call leaves.** -/
theorem resumes_attempt (hb : b.Reachable) {i : Inliner} {stubs : StubStore} {call : Call NodeId}
    {callee : Callee} (h : (i.attempt stubs b call callee).result = .ok .inlined) :
    b.Resumes (i.attempt stubs b call callee).builder := by
  have hreachable := hb.attempt i stubs call callee
  obtain ⟨r, p, hlive, hresolved, horderly, horigin, hemit⟩ := exists_emits h
  exact horderly.snapshots hlive hresolved.lt_size hemit hreachable.linked horigin.emits_no_barrier

end Inliner

namespace Compilation

lemma effectsCovered_run (actions : List Action) :
    (run {} actions).builder.graph.EffectsCovered := by
  suffices h : (run {} actions).builder.Reachable ∧
      (run {} actions).builder.graph.EffectsCovered from h.2
  refine run_induction (P := fun c => c.builder.Reachable ∧ c.builder.graph.EffectsCovered)
    ⟨.new, Graph.effectsCovered_empty⟩ actions fun c a _ h => ⟨reachable_run h.1 [a], ?_⟩
  cases a with
  | addParameter index ty types => exact h.2.add (.parameter index) rfl [] ty types
  | addConstant value => exact h.2.add (.constant value) rfl [] value.valueType none
  | attempt i call callee => exact i.effectsCovered_attempt h.1 h.2 c.stubs call callee
  | _ => exact h.2

/-- **In every run each effect has exactly one resume point**, and the resume points of every attempt
that replaces its call record what the call leaves: the program counter and the locals of that
moment, and the stack with the result on top, or with the value that the result guards. -/
theorem run_resumable (actions : List Action) :
    (run {} actions).builder.graph.EffectsResumed ∧
    ∀ (i : Inliner) (stubs : StubStore) (call : Call NodeId) (callee : Callee),
      (i.attempt stubs (run {} actions).builder call callee).result = .ok .inlined →
      (run {} actions).builder.Resumes
        (i.attempt stubs (run {} actions).builder call callee).builder := by
  have hreachable : (run {} actions).builder.Reachable := reachable_run .new actions
  exact ⟨(effectsCovered_run actions).resumed hreachable.linked,
    fun i stubs call callee h => Inliner.resumes_attempt hreachable h⟩

/-- A match that was observed to be an object is left behind a guard; what its resume point records
is the match itself. -/
theorem run_resumable_exec :
    Scenario.exec.builder = (run {} Scenario.execActions).builder ∧
    (Scenario.exec.attempt {} Scenario.exec.builder).result = .ok .inlined ∧
    Scenario.exec.builder.Resumes (Scenario.exec.attempt {} Scenario.exec.builder).builder ∧
    (Scenario.exec.attempt {} Scenario.exec.builder).builder.stack = [⟨4⟩] ∧
    (Scenario.exec.attempt {} Scenario.exec.builder).builder.graph.resumePoints.toList.map
      ResumePoint.stack = [[⟨3⟩]] := by
  have hinlined : (Scenario.exec.attempt {} Scenario.exec.builder).result = .ok .inlined := by
    decide
  refine ⟨rfl, hinlined, ?_, by decide, by decide⟩
  exact (run_resumable Scenario.execActions).2 Scenario.exec.inliner {} Scenario.exec.call
    Scenario.exec.callee hinlined

end Compilation

end CallSite
