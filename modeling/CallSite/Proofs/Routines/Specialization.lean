import CallSite.Proofs.Attempt
import CallSite.Proofs.Routines.Arithmetic
import CallSite.Proofs.Routines.BoundCall
import CallSite.Proofs.Routines.ElementStores
import CallSite.Proofs.Routines.Objects
import CallSite.Proofs.Routines.Strings
import CallSite.Proofs.Routines.TypedMemory
import CallSite.Routine.Specialization

/-!
# Specializing a call by its routine

With the routines of all natives the whole way of a call can be followed: the guards, the dispatch,
the routine, and the report of how it ended.  It is the way of an attempt by the engine.

* `Registry.find?_refined` — every routine of the registry does what was decided.
* `Inliner.Runs`, `Inliner.specialize_runs` — **the ways in which specializing a call ends**.
* `Inliner.specialize_ends` — in particular with a status or a failure.
* `Inliner.specialize_eq_attempt` — **specializing a call is an attempt by the engine**, as long as
  the graph does not outgrow its handles.
-/

namespace CallSite

/-! ## The registry -/

namespace Specializer

/-- **The routine of the specializer does what its decision says**, whatever the call. -/
def Refined (q : Specializer) : Prop :=
  ∀ (s : Session) (call : Call NodeId) (r : Call Operand), s.Attends call r →
    ∀ (f : FunctionObject) (i : Inliner),
      Routine.Refines i call s (q.run f i call) (q.decide f (i.site r))

end Specializer

namespace Registry

lemma refined_of_mem_some {p : Specializer} (h : p.Refined) : ∀ q ∈ some p, q.Refined :=
  fun _ hq => Option.some.inj hq ▸ h

lemma refined_of_mem_none : ∀ q ∈ (none : Option Specializer), q.Refined :=
  fun q hq => absurd hq (Option.not_mem_none q)

open Specializer in
/-- **Every routine for calls does what was decided.**  What there is to prove about a native is with
the routines of its family. -/
theorem call?_refined (native : Native) : ∀ q ∈ call? native, q.Refined := by
  fun_cases call? native
  all_goals first
    | apply refined_of_mem_some
      intro s call r h f i
      dsimp only [plain, mathFunction, rounding, minMax, remove, atomicUpdate, hasClass,
        boundFunction]
      simp [h]
    | exact refined_of_mem_none

/-- **Every routine for getters does what was decided.** -/
theorem getter?_refined (native : Native) : ∀ q ∈ getter? native, q.Refined := by
  fun_cases getter? native
  · exact refined_of_mem_some fun s call r h _ i => Routine.typedArrayLength_refines h false _ i
  · exact refined_of_mem_some fun s call r h _ i => Routine.typedArrayLength_refines h true _ i
  · exact refined_of_mem_none

/-- **Every routine of the registry does what was decided.** -/
theorem find?_refined {kind : CallKind} {native : Native} {q : Specializer}
    (h : find? kind native = some q) : q.Refined := by
  cases kind with
  | call => exact call?_refined native q h
  | getter => exact getter?_refined native q h

end Registry

/-! ## The guards -/

namespace Routine

variable {s : Session}

/-- The first handle that belongs to no node is told. -/
lemma checkOperands_run (ids : List NodeId) (s : Session) :
    checkOperands ids s =
      match ids.find? fun id => (s.builder.graph.node? id).isNone with
      | some id => (.error (.failed (.graph (.unknownNode id .setup))), s)
      | none => (.ok (), s) := by
  induction ids with
  | nil => rfl
  | cons id ids ih =>
    rw [checkOperands, read_bind, List.find?_cons]
    cases s.builder.graph.node? id with
    | none => rfl
    | some node => exact ih

end Routine

namespace Inliner

open Routine

variable {i : Inliner} {s : Session} {call : Call NodeId} {r : Call Operand} {callee : Callee}

/-- What an attempt does after its guards: the dispatch is reported, and then a routine does what was
decided. -/
lemma exists_inlineCall_run (callee : Callee) (h : s.Attends call r)
    (henabled : i.config.inlineNatives = true) (hargc : call.argc ≤ i.config.maxCallArgs.toNat) :
    ∃ x : Routine Status,
      i.inlineCall call callee s =
        x.body { s with log := s.log ++ (i.decide r callee).1 } ∧
      Refines i call { s with log := s.log ++ (i.decide r callee).1 } x
        (i.decide r callee).2 := by
  obtain ⟨hfunction, hdescriptor⟩ :=
    decide_of_argc_le henabled (h.resolved.argc_eq ▸ hargc)
  cases callee with
  | descriptor d =>
    rw [hdescriptor, List.append_nil]
    exact ⟨_, rfl, nonFunctionCall_refines h d i⟩
  | function f =>
    rw [hfunction, inlineCall, inlineFunctionCall, decideFunction,
      show (i.site r).call.kind = call.kind from h.resolved.kind_eq]
    cases f.native? with
    | none =>
      dsimp only
      rw [List.append_nil]
      exact ⟨decline .notNative, rfl, refines_decline _⟩
    | some native =>
      dsimp only
      cases hfind : Registry.find? call.kind native with
      | none =>
        dsimp only
        rw [List.append_nil]
        exact ⟨decline (.noSpecializer native), rfl, refines_decline _⟩
      | some q =>
        refine ⟨q.run f i call, rfl, ?_⟩
        refine Registry.find?_refined hfind _ call r ?_ f i
        exact h.of_builder_eq rfl

/-! ## How specializing a call ends -/

/-- **How specializing a call ends**, with what it leaves and what it reported.  The builder that is
left is known of as long as handles of 32 bits reach all of its graph. -/
inductive Runs (i : Inliner) (s : Session) (call : Call NodeId) (callee : Callee) :
    Except Exit Status × Session → Prop where
  /-- The site was committed before. -/
  | dead (hdead : s.builder.isDead call.site = true) :
      Runs i s call callee (.ok .notInlined, s.reporting (.notInlined .callDead))
  /-- An operand is not in the graph. -/
  | unknownOperand {id : NodeId} (hlive : s.builder.isDead call.site = false)
      (hid : resolveOperands s.builder call = .error id) :
      Runs i s call callee (.error (.failed (.graph (.unknownNode id .setup))), s)
  /-- The call stays generic. -/
  | declined {r : Call Operand} {log : List Event} {reason : Refusal}
      (hlive : s.builder.isDead call.site = false) (hr : resolveOperands s.builder call = .ok r)
      (hdecide : i.decide r callee = (log, .error (.declined reason))) :
      Runs i s call callee
        (.ok .notInlined, { s with log := s.log ++ log ++ [.notInlined reason] })
  /-- The stub that the plan asks for cannot be made. -/
  | stubUnavailable {r : Call Operand} {log : List Event} {p : Plan} {kind : StubKind}
      (hlive : s.builder.isDead call.site = false) (hr : resolveOperands s.builder call = .ok r)
      (hdecide : i.decide r callee = (log, .ok p))
      (hstub : i.ensureStub s.stubs p.stub = .error kind) :
      Runs i s call callee (.error (.failed (.stubUnavailable kind)),
        { s with log := s.log ++ log ++ [.failed call.site (.stubUnavailable kind)] })
  /-- The call is replaced. -/
  | inlined {r : Call Operand} {log created : List Event} {p : Plan} {stubs : StubStore}
      {b : Builder} (hlive : s.builder.isDead call.site = false)
      (hr : resolveOperands s.builder call = .ok r) (hdecide : i.decide r callee = (log, .ok p))
      (hstub : i.ensureStub s.stubs p.stub = .ok (stubs, created)) (henlarges : s.builder.Enlarges b)
      (hemit : b.Fits → p.emit s.builder call = .ok b) :
      Runs i s call callee (.ok .inlined,
        ⟨b, stubs, s.log ++ log ++ created ++ [.inlined call.site b.graph.size]⟩)
  /-- An invariant of the graph is violated, which only happens once it does not fit. -/
  | violation {r : Call Operand} {log created : List Event} {p : Plan} {stubs : StubStore}
      {b : Builder} {err : GraphError} (hlive : s.builder.isDead call.site = false)
      (hr : resolveOperands s.builder call = .ok r) (hdecide : i.decide r callee = (log, .ok p))
      (hstub : i.ensureStub s.stubs p.stub = .ok (stubs, created)) (henlarges : s.builder.Enlarges b)
      (hunfit : ¬b.Fits) :
      Runs i s call callee (.error (.failed (.graph err)),
        ⟨b, stubs, s.log ++ log ++ created ++ [.failed call.site (.graph err)]⟩)

/-- How a routine that refines a decision ends, once that is reported. -/
lemma runs_of_refines {x : Routine Status} {log : List Event} {d : Decide Plan}
    (hlive : s.builder.isDead call.site = false) (hr : resolveOperands s.builder call = .ok r)
    (hdecide : i.decide r callee = (log, d))
    (hx : Refines i call { s with log := s.log ++ log } x d) :
    i.Runs s call callee (conclude call.site x.body { s with log := s.log ++ log }) := by
  have hensures := i.decide_orderly r callee
  rw [hdecide] at hensures
  rw [conclude]
  rcases d with (reason | index) | p
  · rw [show x.body _ = _ from hx]
    exact .declined hlive hr hdecide
  · exact absurd rfl (hensures.ne_missingArgument index)
  · rw [Refines.eq_def] at hx
    dsimp only at hx
    cases hstub : i.ensureStub s.stubs p.stub with
    | error kind =>
      rw [hstub] at hx
      rw [hx]
      exact .stubUnavailable hlive hr hdecide hstub
    | ok next =>
      obtain ⟨stubs, created⟩ := next
      rw [hstub] at hx
      dsimp only at hx
      obtain ⟨e, -, hemit, -⟩ := Plan.Orderly.emit hensures hlive (resolved_of_eq_ok hr).lt_size
      generalize x.body _ = out at hx ⊢
      cases hx with
      | @inlined s' extended agrees =>
        obtain ⟨b, stubs', log'⟩ := s'
        obtain ⟨builder, hstubs, hlog⟩ := extended
        dsimp only at hstubs hlog
        subst hstubs hlog
        exact .inlined hlive hr hdecide hstub builder agrees
      | @violation err s' extended agrees =>
        obtain ⟨b, stubs', log'⟩ := s'
        obtain ⟨builder, hstubs, hlog⟩ := extended
        dsimp only at hstubs hlog
        subst hstubs hlog
        refine .violation hlive hr hdecide hstub builder fun hfits => ?_
        rw [agrees hfits] at hemit
        cases hemit

/-- A call that is declined before the dispatch. -/
lemma runs_of_decline {reason : Refusal} (hlive : s.builder.isDead call.site = false)
    (hr : resolveOperands s.builder call = .ok r)
    (hdecide : i.decide r callee = ([], Decide.decline reason)) :
    i.Runs s call callee (decline reason s) := by
  have hruns := Runs.declined hlive hr hdecide
  rw [List.append_nil] at hruns
  exact hruns

/-- **Specializing a call ends in one of these ways**, whatever the session. -/
theorem specialize_runs (i : Inliner) (s : Session) (call : Call NodeId) (callee : Callee) :
    i.Runs s call callee (i.specialize call callee s) := by
  show i.Runs s call callee ((if s.builder.isDead call.site = true then _ else _ : Routine Status) s)
  by_cases hdead : s.builder.isDead call.site = true
  · rw [if_pos hdead]
    exact .dead hdead
  rw [if_neg hdead]
  have hlive : s.builder.isDead call.site = false := Bool.eq_false_iff.2 hdead
  have hcheck := checkOperands_run call.operands s
  cases hr : resolveOperands s.builder call with
  | error id =>
    rw [resolveOperands_eq_error_iff.1 hr] at hcheck
    rw [bind_of_error hcheck]
    exact .unknownOperand hlive hr
  | ok r =>
    have h : s.Attends call r := ⟨hlive, resolved_of_eq_ok hr⟩
    have hfind : call.operands.find? (fun id => (s.builder.graph.node? id).isNone) = none :=
      Option.eq_none_iff_forall_ne_some.2 fun id hid => by
        rw [resolveOperands_eq_error_iff.2 hid] at hr
        cases hr
    rw [hfind] at hcheck
    rw [bind_of_ok hcheck]
    by_cases henabled : i.config.inlineNatives = true
    · by_cases hargc : call.argc ≤ i.config.maxCallArgs.toNat
      · rw [henabled, Bool.not_true, if_neg Bool.false_ne_true, if_neg (Nat.not_lt.2 hargc)]
        obtain ⟨x, hrun, hx⟩ := exists_inlineCall_run callee h henabled hargc
        rw [show conclude call.site (i.inlineCall call callee) s =
          conclude call.site x.body { s with log := s.log ++ (i.decide r callee).1 } by
            rw [conclude, conclude, hrun]]
        exact runs_of_refines hlive hr rfl hx
      · have hlt : i.config.maxCallArgs.toNat < call.argc := Nat.lt_of_not_le hargc
        rw [henabled, Bool.not_true, if_neg Bool.false_ne_true, if_pos hlt,
          ← h.resolved.argc_eq]
        exact runs_of_decline hlive hr (decide_of_lt_argc henabled (h.resolved.argc_eq ▸ hlt))
    · have hdisabled : i.config.inlineNatives = false := Bool.eq_false_iff.2 henabled
      rw [hdisabled, Bool.not_false, if_pos rfl]
      exact runs_of_decline hlive hr (decide_of_disabled hdisabled)

/-- **Every attempt ends with a status or a failure**: no index is out of range, and no routine
returns from more than its own body. -/
theorem specialize_ends (i : Inliner) (s : Session) (call : Call NodeId) (callee : Callee) :
    (∃ status, (i.specialize call callee s).1 = .ok status) ∨
      ∃ e, (i.specialize call callee s).1 = .error (.failed e) := by
  have hruns := i.specialize_runs s call callee
  generalize i.specialize call callee s = out at hruns ⊢
  cases hruns with
  | dead => exact .inl ⟨_, rfl⟩
  | unknownOperand => exact .inr ⟨_, rfl⟩
  | declined => exact .inl ⟨_, rfl⟩
  | stubUnavailable => exact .inr ⟨_, rfl⟩
  | inlined => exact .inl ⟨_, rfl⟩
  | violation => exact .inr ⟨_, rfl⟩

end Inliner

/-! ## Routines and the engine -/

/-- The run of an attempt that the engine makes, after these events. -/
def Attempt.run (a : Attempt) (before : List Event) : Except Exit Status × Session :=
  (a.result.mapError .failed, ⟨a.builder, a.stubs, before ++ a.log⟩)

/-- **Specializing a call is an attempt by the engine**, with the same result, builder, stubs and
events, as long as handles of 32 bits reach all of the graph. -/
theorem Inliner.specialize_eq_attempt (i : Inliner) (s : Session) (call : Call NodeId)
    (callee : Callee) (hfits : (i.specialize call callee s).2.builder.Fits) :
    i.specialize call callee s = (i.attempt s.stubs s.builder call callee).run s.log := by
  have hruns := i.specialize_runs s call callee
  generalize i.specialize call callee s = out at hruns hfits ⊢
  cases hruns with
  | dead hdead =>
    rw [attempt, if_pos hdead]
    rfl
  | unknownOperand hlive hid =>
    rw [attempt, if_neg (Bool.eq_false_iff.1 hlive), hid]
    show _ = (_, (⟨_, _, s.log ++ []⟩ : Session))
    rw [List.append_nil]
    rfl
  | @declined r log reason hlive hr hdecide =>
    rw [attempt, if_neg (Bool.eq_false_iff.1 hlive), hr]
    dsimp only
    rw [hdecide, List.append_assoc]
    rfl
  | @stubUnavailable r log p kind hlive hr hdecide hstub =>
    rw [attempt_eq_of_unavailable hlive hr hdecide hstub, List.append_assoc]
    rfl
  | @inlined r log created p stubs b hlive hr hdecide hstub henlarges hemit =>
    obtain ⟨b', hemit', hattempt⟩ := exists_attempt_eq hlive hr hdecide hstub
    obtain rfl := Except.ok.inj ((hemit hfits).symm.trans hemit')
    rw [hattempt]
    simp only [Attempt.run, List.append_assoc]
    rfl
  | violation hlive hr hdecide hstub henlarges hunfit => exact absurd hfits hunfit

end CallSite
