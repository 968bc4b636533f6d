import CallSite.Proofs.Commit
import CallSite.Proofs.Lookup
import CallSite.Proofs.Orderly.Registry
import CallSite.Scenario

/-!
# How attempts end

An attempt ends in one of five ways, and in only one of them does anything change.  All other
theorems about attempts start from this.

* `Inliner.Ends` — **the five ways**, each with the state and the events that it leaves.
* `Inliner.attempt_ends` — every attempt ends in one of them: no decision asks for an argument that
  is missing, and no plan fails to be emitted.
* `Inliner.exists_attempt_eq`, `Inliner.attempt_eq_of_unavailable` — an attempt that finds a plan
  ends in one of the last two, as the stub can be made or not.
* `Inliner.attempt_fails` — **when an attempt fails**.
* `Inliner.attempt_unchanged` — **an attempt that does not replace the call changes nothing**.
-/

namespace CallSite

/-- A memory fence at a site of its own: one node with an effect, and a constant as the result. -/
def Scenario.fence : Scenario :=
  { site := ⟨7⟩, callee := .function (.ofNative ⟨1⟩ .atomicsFence) }

namespace Inliner

/-- **How an attempt ends.** -/
inductive Ends (i : Inliner) (stubs : StubStore) (b : Builder) (call : Call NodeId)
    (callee : Callee) : Attempt → Prop where
  /-- The site was committed before. -/
  | dead (hdead : b.isDead call.site = true) :
      Ends i stubs b call callee ⟨.ok .notInlined, b, stubs, [.notInlined .callDead]⟩
  /-- An operand is not in the graph. -/
  | unknownOperand {id : NodeId} (hlive : b.isDead call.site = false)
      (hid : resolveOperands b call = .error id) :
      Ends i stubs b call callee ⟨.error (.graph (.unknownNode id .setup)), b, stubs, []⟩
  /-- The call stays generic. -/
  | declined {r : Call Operand} {log : List Event} {reason : Refusal}
      (hlive : b.isDead call.site = false) (hr : resolveOperands b call = .ok r)
      (hdecide : i.decide r callee = (log, .error (.declined reason))) :
      Ends i stubs b call callee ⟨.ok .notInlined, b, stubs, log ++ [.notInlined reason]⟩
  /-- The stub that the plan asks for cannot be made. -/
  | stubUnavailable {r : Call Operand} {log : List Event} {p : Plan} {kind : StubKind}
      (hlive : b.isDead call.site = false) (hr : resolveOperands b call = .ok r)
      (hdecide : i.decide r callee = (log, .ok p))
      (hstub : i.ensureStub stubs p.stub = .error kind) :
      Ends i stubs b call callee ⟨.error (.stubUnavailable kind), b, stubs,
        log ++ [.failed call.site (.stubUnavailable kind)]⟩
  /-- The call is replaced. -/
  | inlined {r : Call Operand} {log created : List Event} {p : Plan} {stubs' : StubStore}
      {b' : Builder} (hlive : b.isDead call.site = false) (hr : resolveOperands b call = .ok r)
      (hdecide : i.decide r callee = (log, .ok p)) (horderly : p.Orderly (i.site r))
      (hstub : i.ensureStub stubs p.stub = .ok (stubs', created))
      (hemit : p.emit b call = .ok b') :
      Ends i stubs b call callee ⟨.ok .inlined, b', stubs',
        log ++ created ++ [.inlined call.site b'.graph.size]⟩

/-- **Every attempt ends in one of the five ways.** -/
theorem attempt_ends (i : Inliner) (stubs : StubStore) (b : Builder) (call : Call NodeId)
    (callee : Callee) : Ends i stubs b call callee (i.attempt stubs b call callee) := by
  rw [attempt]
  dsimp only
  by_cases hdead : b.isDead call.site = true
  · rw [if_pos hdead]
    exact .dead hdead
  rw [if_neg hdead]
  have hlive : b.isDead call.site = false := Bool.eq_false_iff.2 hdead
  cases hr : resolveOperands b call with
  | error id => exact .unknownOperand hlive hr
  | ok r =>
    have hensures := i.decide_orderly r callee
    dsimp only
    rcases hdecide : i.decide r callee with ⟨log, (reason | index) | p⟩
    · exact .declined hlive hr hdecide
    · rw [hdecide] at hensures
      exact absurd rfl (hensures.ne_missingArgument index)
    · rw [hdecide] at hensures
      have horderly : p.Orderly (i.site r) := hensures
      dsimp only
      cases hstub : i.ensureStub stubs p.stub with
      | error kind => exact .stubUnavailable hlive hr hdecide hstub
      | ok next =>
        obtain ⟨stubs', created⟩ := next
        obtain ⟨e, -, hemit, -⟩ :=
          horderly.emit hlive (resolved_of_eq_ok hr).lt_size
        dsimp only
        rw [hemit]
        exact .inlined hlive hr hdecide horderly hstub hemit

/-- **A call with a plan is replaced**, when the stub that the plan asks for can be made. -/
theorem exists_attempt_eq {i : Inliner} {stubs stubs' : StubStore} {b : Builder}
    {call : Call NodeId} {callee : Callee} {r : Call Operand} {log created : List Event} {p : Plan}
    (hlive : b.isDead call.site = false) (hr : resolveOperands b call = .ok r)
    (hdecide : i.decide r callee = (log, .ok p))
    (hstub : i.ensureStub stubs p.stub = .ok (stubs', created)) :
    ∃ b', p.emit b call = .ok b' ∧ i.attempt stubs b call callee =
      ⟨.ok .inlined, b', stubs', log ++ created ++ [.inlined call.site b'.graph.size]⟩ := by
  have hensures := i.decide_orderly r callee
  rw [hdecide] at hensures
  have horderly : p.Orderly (i.site r) := hensures
  obtain ⟨e, -, hemit, -⟩ := horderly.emit hlive (resolved_of_eq_ok hr).lt_size
  refine ⟨e.builder, hemit, ?_⟩
  rw [attempt]
  dsimp only
  rw [if_neg (Bool.eq_false_iff.1 hlive), hr]
  dsimp only
  rw [hdecide]
  dsimp only
  rw [hstub]
  dsimp only
  rw [hemit]

/-- **A call with a plan fails**, when the stub that the plan asks for cannot be made. -/
theorem attempt_eq_of_unavailable {i : Inliner} {stubs : StubStore} {b : Builder}
    {call : Call NodeId} {callee : Callee} {r : Call Operand} {log : List Event} {p : Plan}
    {kind : StubKind} (hlive : b.isDead call.site = false) (hr : resolveOperands b call = .ok r)
    (hdecide : i.decide r callee = (log, .ok p))
    (hstub : i.ensureStub stubs p.stub = .error kind) :
    i.attempt stubs b call callee = ⟨.error (.stubUnavailable kind), b, stubs,
      log ++ [.failed call.site (.stubUnavailable kind)]⟩ := by
  rw [attempt]
  dsimp only
  rw [if_neg (Bool.eq_false_iff.1 hlive), hr]
  dsimp only
  rw [hdecide]
  dsimp only
  rw [hstub]

/-! ## Failures -/

/-- An attempt at a live site finds an operand that is not in the graph iff there is one. -/
lemma exists_resolveOperands_eq_error {b : Builder} {call : Call NodeId} :
    (∃ id, resolveOperands b call = .error id) ↔
      ∃ id ∈ call.operands, b.graph.node? id = none := by
  simp only [resolveOperands_eq_error_iff]
  rw [← Option.isSome_iff_exists, List.find?_isSome]
  simp only [Option.isNone_iff_eq_none]

/-- The operands of a call are looked up, when they are in the graph. -/
lemma exists_resolved {b : Builder} {call : Call NodeId}
    (hops : ∀ id ∈ call.operands, id.index < b.graph.size) :
    ∃ r, resolveOperands b call = .ok r := by
  cases hr : resolveOperands b call with
  | ok r => exact ⟨r, rfl⟩
  | error id =>
    obtain ⟨id, hmem, hnone⟩ := exists_resolveOperands_eq_error.1 ⟨id, hr⟩
    obtain ⟨n, hn⟩ := Graph.exists_node? (hops id hmem)
    rw [hn] at hnone
    cases hnone

/-- **When an attempt fails.**  It finds an operand that is not in the graph, exactly when the site
is live and there is one, and then it tells the first; or a stub cannot be made.  There is no other
failure: no argument is missing, and no invariant of the graph is violated by the emission. -/
theorem attempt_fails (i : Inliner) (stubs : StubStore) (b : Builder) (call : Call NodeId)
    (callee : Callee) :
    ((∃ id, (i.attempt stubs b call callee).result = .error (.graph (.unknownNode id .setup))) ↔
      b.isDead call.site = false ∧ ∃ id ∈ call.operands, b.graph.node? id = none) ∧
    ∀ e, (i.attempt stubs b call callee).result = .error e →
      (∃ id, e = .graph (.unknownNode id .setup) ∧
        call.operands.find? (fun id => (b.graph.node? id).isNone) = some id) ∨
      ∃ kind, e = .stubUnavailable kind := by
  have hends := i.attempt_ends stubs b call callee
  generalize i.attempt stubs b call callee = a at hends ⊢
  rw [← exists_resolveOperands_eq_error]
  cases hends with
  | dead hdead =>
    refine ⟨⟨nofun, ?_⟩, nofun⟩
    rintro ⟨hlive, -⟩
    rw [hdead] at hlive
    cases hlive
  | @unknownOperand id hlive hid =>
    refine ⟨⟨fun _ => ⟨hlive, id, hid⟩, fun _ => ⟨id, rfl⟩⟩, ?_⟩
    intro e he
    cases he
    exact .inl ⟨id, rfl, resolveOperands_eq_error_iff.1 hid⟩
  | declined hlive hr hdecide =>
    refine ⟨⟨nofun, ?_⟩, nofun⟩
    rintro ⟨-, id, hid⟩
    rw [hr] at hid
    cases hid
  | @stubUnavailable r log p kind hlive hr hdecide hstub =>
    refine ⟨⟨?_, ?_⟩, ?_⟩
    · rintro ⟨id, hid⟩
      cases hid
    · rintro ⟨-, id, hid⟩
      rw [hr] at hid
      cases hid
    · intro e he
      cases he
      exact .inr ⟨kind, rfl⟩
  | inlined hlive hr hdecide horderly hstub hemit =>
    refine ⟨⟨nofun, ?_⟩, nofun⟩
    rintro ⟨-, id, hid⟩
    rw [hr] at hid
    cases hid

/-- A fence at a site whose operands were never added. -/
theorem attempt_fails_without_operands :
    ∃ id, (Scenario.fence.attempt {} {}).result = .error (.graph (.unknownNode id .setup)) :=
  (attempt_fails {} {} {} Scenario.fence.call Scenario.fence.callee).1.2
    ⟨rfl, ⟨0⟩, List.mem_cons_self .., rfl⟩

/-! ## Frames of attempts that do not replace the call -/

/-- **An attempt that does not replace the call changes nothing**, neither the builder nor the stub
store. -/
theorem attempt_unchanged {i : Inliner} {stubs : StubStore} {b : Builder} {call : Call NodeId}
    {callee : Callee} (h : (i.attempt stubs b call callee).result ≠ .ok .inlined) :
    (i.attempt stubs b call callee).builder = b ∧ (i.attempt stubs b call callee).stubs = stubs := by
  have hends := i.attempt_ends stubs b call callee
  generalize i.attempt stubs b call callee = a at h hends ⊢
  cases hends with
  | dead => exact ⟨rfl, rfl⟩
  | unknownOperand => exact ⟨rfl, rfl⟩
  | declined => exact ⟨rfl, rfl⟩
  | stubUnavailable => exact ⟨rfl, rfl⟩
  | inlined => exact absurd rfl h

/-- A fence inside a getter is declined. -/
theorem attempt_unchanged_getter :
    (({} : Inliner).attempt {} Scenario.fence.builder
      { Scenario.fence.call with kind := .getter } Scenario.fence.callee).result ≠ .ok .inlined ∧
    (({} : Inliner).attempt {} Scenario.fence.builder
      { Scenario.fence.call with kind := .getter } Scenario.fence.callee).builder =
        Scenario.fence.builder ∧
    (({} : Inliner).attempt {} Scenario.fence.builder
      { Scenario.fence.call with kind := .getter } Scenario.fence.callee).stubs = {} :=
  ⟨by decide, attempt_unchanged (by decide)⟩

end Inliner

end CallSite
