import CallSite.Proofs.Routines.Specialization

/-!
# What specializing a call reports

The events of an attempt follow one another in a fixed order: that the registry has a specializer,
that helper code was generated, and how the attempt ended.  Each of the three comes at most once,
and the last is missing only when the operands of the call could not be looked up.

Nothing in the way routines are written sees to that.  A routine reports a refusal where a condition
fails, in a helper or at its end, and goes on from there unless it returns; one of them hands its
call over to another; and the stub is reported from within.  It holds because every routine of the
registry does what was decided.

* `Inliner.Dispatches` — **the registry is asked about a call and has a specializer for it**.
* `StubStore.Creates` — a stub is created, as the stores before and after tell.
* `Routine.Tells` — **the event that tells how an attempt ended**.
* `Inliner.specialize_log` — **the events of an attempt**, in their order.
-/

namespace CallSite

/-! ## What there is to report -/

/-- The native identity that a call dispatches on; a descriptor has none. -/
def Callee.native? : Callee → Option Native
  | .function f => f.native?
  | .descriptor _ => none

/-- **The registry is asked about the call and has a specializer for it**: the call passes the
guards, and the callee is a native with an entry for calls of this kind. -/
structure Inliner.Dispatches (i : Inliner) (b : Builder) (call : Call NodeId) (callee : Callee)
    (native : Native) (specializer : Specializer) : Prop where
  live : b.isDead call.site = false
  known : ∀ id ∈ call.operands, b.graph.node? id ≠ none
  enabled : i.config.inlineNatives = true
  argc_le : call.argc ≤ i.config.maxCallArgs.toNat
  identity : callee.native? = some native
  found : Registry.find? call.kind native = some specializer

/-- **The engine creates the stub of a kind**: its slot is empty before and holds the stub
afterwards, and no other slot changes. -/
structure StubStore.Creates (before after : StubStore) (env : Engine) (kind : StubKind)
    (stub : Stub) : Prop where
  empty : before.get? kind = none
  filled : after = before.set kind stub
  generated : env.createStub kind = some stub

/-- The site is live, and an operand of the call is not in the graph. -/
def Builder.MissesOperand (b : Builder) (call : Call NodeId) : Prop :=
  b.isDead call.site = false ∧ ∃ id ∈ call.operands, b.graph.node? id = none

/-- **The event that tells how a run ended.** -/
inductive Routine.Tells (out : Except Exit Status × Session) (site : SiteId) : Event → Prop where
  | notInlined (reason : Refusal) (h : out.1 = .ok .notInlined) :
      Tells out site (.notInlined reason)
  | inlined (h : out.1 = .ok .inlined) :
      Tells out site (.inlined site out.2.builder.graph.size)
  | failed {e : Failure} (h : out.1 = .error (.failed e)) : Tells out site (.failed site e)

/-! ## The dispatch -/

namespace Inliner

variable {i : Inliner} {stubs stubs' : StubStore} {b : Builder} {call : Call NodeId}
  {r : Call Operand} {callee : Callee}

/-- The events tell of a dispatch iff there is one. -/
def ReportsDispatch (i : Inliner) (b : Builder) (call : Call NodeId) (callee : Callee)
    (told : List Event) : Prop :=
  (∃ native specializer, i.Dispatches b call callee native specializer ∧
    told = [.dispatch native specializer.label]) ∨
  told = [] ∧ ∀ native specializer, ¬i.Dispatches b call callee native specializer

/-- The events tell of a stub iff one is created. -/
def ReportsStub (env : Engine) (before after : StubStore) (told : List Event) : Prop :=
  (∃ kind stub, before.Creates after env kind stub ∧ told = [.stubCreated ⟨kind, stub.id⟩]) ∨
  told = [] ∧ after = before

/-- The events tell how a run ended, unless an operand is missing. -/
def ReportsOutcome (b : Builder) (call : Call NodeId) (out : Except Exit Status × Session)
    (told : List Event) : Prop :=
  (∃ e, Routine.Tells out call.site e ∧ told = [e] ∧ ¬b.MissesOperand call) ∨
  told = [] ∧ b.MissesOperand call ∧
    ∃ id, out.1 = .error (.failed (.graph (.unknownNode id .setup)))

namespace Resolved

/-- A call whose operands are found misses none. -/
lemma not_missesOperand (h : Resolved b call r) : ¬b.MissesOperand call := by
  rintro ⟨-, id, hid, hnone⟩
  obtain ⟨n, hn⟩ := Graph.exists_node? (h.lt_size id hid)
  rw [hnone] at hn
  cases hn

end Resolved

/-- **The events of a decision** tell of the dispatch. -/
theorem reportsDispatch_decide (i : Inliner) (callee : Callee) (hlive : b.isDead call.site = false)
    (hr : Resolved b call r) : i.ReportsDispatch b call callee (i.decide r callee).1 := by
  have hknown : ∀ id ∈ call.operands, b.graph.node? id ≠ none := fun id hid hnone =>
    hr.not_missesOperand ⟨hlive, id, hid, hnone⟩
  rw [Inliner.decide.eq_def]
  dsimp only
  rw [hr.argc_eq]
  split_ifs with hoff hmany
  · exact .inr ⟨rfl, fun _ _ h => by simp [h.enabled] at hoff⟩
  · exact .inr ⟨rfl, fun _ _ h => absurd h.argc_le (Nat.not_le_of_lt hmany)⟩
  cases callee with
  | descriptor d =>
    refine .inr ⟨rfl, fun _ _ h => ?_⟩
    cases h.identity
  | function f =>
    dsimp only
    rw [decideFunction]
    cases hnative : f.native? with
    | none =>
      refine .inr ⟨rfl, fun _ _ h => ?_⟩
      cases hnative.symm.trans h.identity
    | some native =>
      have hkind : (i.site r).call.kind = call.kind := hr.kind_eq
      dsimp only
      rw [hkind]
      cases hfound : Registry.find? call.kind native with
      | some specializer =>
        have henabled : i.config.inlineNatives = true := by simpa using hoff
        exact .inl ⟨native, specializer,
          ⟨hlive, hknown, henabled, Nat.not_lt.1 hmany, hnative, hfound⟩, rfl⟩
      | none =>
        refine .inr ⟨rfl, fun native' _ h => ?_⟩
        obtain rfl : native = native' := Option.some.inj (hnative.symm.trans h.identity)
        cases hfound.symm.trans h.found

/-- A live call of which a decision was taken misses no operand, and its dispatch was told. -/
lemma reportsDispatch_of_decide (hlive : b.isDead call.site = false)
    (hr : resolveOperands b call = .ok r) {log : List Event} {decision : Decide Plan}
    (hdecide : i.decide r callee = (log, decision)) :
    i.ReportsDispatch b call callee log ∧ ¬b.MissesOperand call := by
  have hresolved := resolved_of_eq_ok hr
  have hdispatch := i.reportsDispatch_decide callee hlive hresolved
  rw [hdecide] at hdispatch
  exact ⟨hdispatch, hresolved.not_missesOperand⟩

/-! ## The stub -/

/-- **The events of a stub that is there, or is made,** tell whether it is new. -/
theorem reportsStub_ensureStub {kind : Option StubKind} {created : List Event}
    (h : i.ensureStub stubs kind = .ok (stubs', created)) :
    ReportsStub i.env stubs stubs' created := by
  cases kind with
  | none =>
    obtain ⟨rfl, rfl⟩ := Prod.mk.inj (Except.ok.inj h)
    exact .inr ⟨rfl, rfl⟩
  | some kind =>
    rw [ensureStub] at h
    cases hslot : stubs.get? kind with
    | some stub =>
      rw [StubStore.ensure, hslot] at h
      obtain ⟨rfl, rfl⟩ := Prod.mk.inj (Except.ok.inj h)
      exact .inr ⟨rfl, rfl⟩
    | none =>
      rw [StubStore.ensure, hslot] at h
      cases hcreate : i.env.createStub kind with
      | none =>
        rw [hcreate] at h
        cases h
      | some stub =>
        rw [hcreate] at h
        obtain ⟨rfl, rfl⟩ := Prod.mk.inj (Except.ok.inj h)
        exact .inl ⟨kind, stub, ⟨hslot, rfl, hcreate⟩, rfl⟩

/-! ## The events of an attempt -/

/-- **The events of an attempt**: that the registry has a specializer for the call, if it is asked
and has one; that a stub was created, if one was; and how the attempt ended.  Nothing is told of an
attempt at a live site whose operands are not all in the graph. -/
theorem specialize_log (i : Inliner) (s : Session) (call : Call NodeId) (callee : Callee) :
    ∃ dispatched created outcome : List Event,
      (i.specialize call callee s).2.log = s.log ++ (dispatched ++ created ++ outcome) ∧
      i.ReportsDispatch s.builder call callee dispatched ∧
      ReportsStub i.env s.stubs (i.specialize call callee s).2.stubs created ∧
      ReportsOutcome s.builder call (i.specialize call callee s) outcome := by
  have hruns := i.specialize_runs s call callee
  generalize i.specialize call callee s = out at hruns ⊢
  cases hruns with
  | dead hdead =>
    refine ⟨[], [], _, rfl, .inr ⟨rfl, fun _ _ h => ?_⟩, .inr ⟨rfl, rfl⟩,
      .inl ⟨_, .notInlined _ rfl, rfl, fun h => ?_⟩⟩
    · exact Bool.false_ne_true (h.live.symm.trans hdead)
    · exact Bool.false_ne_true (h.1.symm.trans hdead)
  | @unknownOperand id hlive hid =>
    obtain ⟨id', hmem, hnone⟩ := exists_resolveOperands_eq_error.1 ⟨id, hid⟩
    exact ⟨[], [], [], (List.append_nil _).symm, .inr ⟨rfl, fun _ _ h => h.known id' hmem hnone⟩,
      .inr ⟨rfl, rfl⟩, .inr ⟨rfl, ⟨hlive, id', hmem, hnone⟩, id, rfl⟩⟩
  | @declined r log reason hlive hr hdecide =>
    obtain ⟨hdispatch, hoperands⟩ := reportsDispatch_of_decide hlive hr hdecide
    refine ⟨log, [], _, ?_, hdispatch, .inr ⟨rfl, rfl⟩,
      .inl ⟨_, .notInlined reason rfl, rfl, hoperands⟩⟩
    rw [List.append_nil, ← List.append_assoc]
  | @stubUnavailable r log p kind hlive hr hdecide hstub =>
    obtain ⟨hdispatch, hoperands⟩ := reportsDispatch_of_decide hlive hr hdecide
    refine ⟨log, [], _, ?_, hdispatch, .inr ⟨rfl, rfl⟩, .inl ⟨_, .failed rfl, rfl, hoperands⟩⟩
    rw [List.append_nil, ← List.append_assoc]
  | @inlined r log created p stubs b hlive hr hdecide hstub =>
    obtain ⟨hdispatch, hoperands⟩ := reportsDispatch_of_decide hlive hr hdecide
    refine ⟨log, created, _, ?_, hdispatch, reportsStub_ensureStub hstub,
      .inl ⟨_, .inlined rfl, rfl, hoperands⟩⟩
    simp only [List.append_assoc]
  | @violation r log created p stubs b err hlive hr hdecide hstub =>
    obtain ⟨hdispatch, hoperands⟩ := reportsDispatch_of_decide hlive hr hdecide
    refine ⟨log, created, _, ?_, hdispatch, reportsStub_ensureStub hstub,
      .inl ⟨_, .failed rfl, rfl, hoperands⟩⟩
    simp only [List.append_assoc]

end Inliner

end CallSite
