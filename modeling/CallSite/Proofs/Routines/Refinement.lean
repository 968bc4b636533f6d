import CallSite.Proofs.Routines.Emission

/-!
# Routines and decisions

Every specialization is there twice: as a decision, which gives a plan for the engine to carry out,
and as a routine, which does everything itself.  A routine refines a decision when its runs are what
the engine makes of the decision: it declines with that refusal and changes nothing else, or it asks
for the stub of the plan, commits the call and emits the steps of the plan, as long as the graph
does not outgrow the handles.

* `Session.Emitted` — how a routine that has committed its call ends.
* `Routine.Refines` — **the routine does what was decided**.
* `Routine.refines_bind`, `Routine.refines_classify` and the rest — up to the commit.
* `Routine.refines_commit`, `Routine.refines_ensureStub` — from there on.
-/

namespace CallSite

/-! ## The operands of a call -/

/-- The operands of a call with their handles. -/
def Ledger.ofCall (r : Call Operand) (call : Call NodeId) : Ledger :=
  .ofOperands r.operands call.operands

/-- **The operand of a call that is behind a handle.** -/
def Call.Pairs (call : Call NodeId) (r : Call Operand) (id : NodeId) (x : Operand) : Prop :=
  (x, id) ∈ (Ledger.ofCall r call).names

namespace Call

variable {call : Call NodeId} {r : Call Operand} {id : NodeId} {x : Operand}

lemma pairs_receiver (i : Inliner) (call : Call NodeId) (r : Call Operand) :
    call.Pairs r call.receiver (i.site r).receiver :=
  List.mem_cons_of_mem _ (List.mem_cons_self ..)

lemma pairs_of_mem_zip (h : (x, id) ∈ r.args.zip call.args) : call.Pairs r id x :=
  List.mem_cons_of_mem _ (List.mem_cons_of_mem _ h)

lemma Pairs.mentions (h : call.Pairs r id x) (context : NodeId) :
    (Ledger.ofCall r call).Mentions context x id := .inl h

end Call

lemma Session.Attends.operand?_eq {s : Session} {call : Call NodeId} {r : Call Operand}
    (h : s.Attends call r) {id : NodeId} {x : Operand} (hx : call.Pairs r id x) :
    s.builder.operand? id = some x :=
  List.forall₂_zip h.resolved.operands.flip hx

namespace Session.Attends

variable {s : Session} {call : Call NodeId} {r : Call Operand}

/-- Only the builder matters. -/
lemma of_builder_eq {s' : Session} (h : s.Attends call r) (hs : s'.builder = s.builder) :
    s'.Attends call r := ⟨hs ▸ h.live, hs ▸ h.resolved⟩

lemma returnType_eq (h : s.Attends call r) (i : Inliner) :
    (i.site r).returnType = call.returnType := h.resolved.returnType_eq

lemma resultTypes_eq (h : s.Attends call r) (i : Inliner) :
    (i.site r).call.resultTypes = call.resultTypes := h.resolved.resultTypes_eq

end Session.Attends

/-- The arguments are behind their handles, one by one. -/
lemma Session.Attends.forall₂_pairs {s : Session} {call : Call NodeId} {r : Call Operand}
    (h : s.Attends call r) : List.Forall₂ (fun x id => call.Pairs r id x) r.args call.args :=
  List.forall₂_iff_zip.2
    ⟨h.resolved.forall₂_args.length_eq.symm, fun hzip => Call.pairs_of_mem_zip hzip⟩

/-! ## Committed calls -/

/-- **How a routine that has committed its call ends**: the call is inlined, or an invariant of the
graph is violated.  When the graph fits, it is the one that the plan leads to. -/
inductive Session.Emitted (s : Session) (plan : Except (GraphError × Builder) Builder) :
    Except Exit Status × Session → Prop where
  | inlined {s' : Session} (extended : s.Extends s')
      (agrees : s'.builder.Fits → plan = .ok s'.builder) : Emitted s plan (.ok .inlined, s')
  | violation {err : GraphError} {s' : Session} (extended : s.Extends s')
      (agrees : s'.builder.Fits → plan = .error (err, s'.builder)) :
      Emitted s plan (.error (.failed (.graph err)), s')

/-- The emission of a plan as steps that end in an emission. -/
lemma Plan.emit_eq_close {p : Plan} {b : Builder} {call : Call NodeId} {e : Emission}
    {context : NodeId} (hcommit : b.commit call p.facts = .ok e) {e' : Emission}
    (hcontext : e.withContext p.usesContext = (context, e')) :
    p.emit b call =
      (Step.takeAll e'.builder.graph.size context e' p.steps >>= Emission.close).map
        Emission.builder := by
  rw [Plan.emit_of_commit hcommit, hcontext]
  dsimp only
  cases Step.takeAll e'.builder.graph.size context e' p.steps with
  | error err => rfl
  | ok e'' =>
    show _ = (Emission.close e'').map Emission.builder
    dsimp only
    rw [Emission.close]
    cases hfinish : e''.finish with
    | error err => rfl
    | ok b' => exact congrArg Except.ok (Emission.eq_of_finish hfinish)

/-- An emission that completes a draft. -/
lemma Session.Ends.emitted {s s₀ : Session} {e : Emitter}
    {steps : Except (GraphError × Builder) Emission} {out : Except Exit Status × Session}
    {plan : Except (GraphError × Builder) Builder}
    (h : s.Ends e (fun status _ => status = .inlined) steps out) (hs : s₀.Extends s)
    (hplan : s.builder.Fits → plan = steps.map Emission.builder) : s₀.Emitted plan out := by
  cases h with
  | value extended value agrees =>
    subst value
    refine .inlined (hs.trans extended) fun hfits => ?_
    rw [hplan (extended.builder.fits hfits), agrees hfits]
    rfl
  | violation extended agrees =>
    refine .violation (hs.trans extended) fun hfits => ?_
    rw [hplan (extended.builder.fits hfits), agrees hfits]
    rfl

namespace Routine

variable {α β : Type} {s : Session} {i : Inliner} {call : Call NodeId} {r : Call Operand}

/-! ## Bodies -/

lemma body_bind_of_ok {x : Routine α} {a : α} {s' : Session} (h : x s = (.ok a, s'))
    (f : α → Routine Status) : (x >>= f).body s = (f a).body s' := by
  rw [body, bind_of_ok h]
  rfl

lemma body_bind_of_error {x : Routine α} {e : Exit} {s' : Session} (h : x s = (.error e, s'))
    (f : α → Routine Status) : (x >>= f).body s = body (fun s => (.error e, s)) s' := by
  rw [body, bind_of_error h]
  rfl

/-- A run that ends in an emission does not return early. -/
lemma body_of_emitted {s₀ : Session} {plan : Except (GraphError × Builder) Builder}
    {x : Routine Status} (h : s₀.Emitted plan (x s)) : s₀.Emitted plan (x.body s) := by
  rw [body]
  generalize x s = out at h
  cases h with
  | inlined extended agrees => exact .inlined extended agrees
  | violation extended agrees => exact .violation extended agrees

/-! ## Refinement -/

/-- **The routine does what was decided.**  It declines with the refusal of the decision, which is
all that happens; or it makes sure of the stub of the plan and emits the plan. -/
def Refines (i : Inliner) (call : Call NodeId) (s : Session) (x : Routine Status) :
    Decide Plan → Prop
  | .error (.declined reason) => x.body s = (.ok .notInlined, s.reporting (.notInlined reason))
  | .error (.missingArgument _) => (x.body s).1 = .error .panicked
  | .ok p =>
    match i.ensureStub s.stubs p.stub with
    | .error kind => x.body s = (.error (.failed (.stubUnavailable kind)), s)
    | .ok (stubs, created) =>
      { s with stubs, log := s.log ++ created }.Emitted (p.emit s.builder call) (x.body s)

lemma refines_decline (reason : Refusal) :
    Refines i call s (decline reason) (Decide.decline reason) := rfl

lemma refines_refuse (reason : Refusal) :
    Refines i call s (refuse reason) (Decide.decline reason) := rfl

/-- A routine that gives a value without a decision. -/
lemma refines_of_ok {x : Routine β} {b : β} (hx : x s = (.ok b, s)) {f : β → Routine Status}
    {d : Decide Plan} (hf : Refines i call s (f b) d) : Refines i call s (x >>= f) d := by
  rw [Refines.eq_def, body_bind_of_ok hx, ← Refines.eq_def]
  exact hf

/-- **One decision after another.** -/
lemma refines_bind {stands : α → β → Prop} {x : Routine β} {d : Decide α} {f : β → Routine Status}
    {g : α → Decide Plan} (hx : Decides s stands x d)
    (hf : ∀ a b, d = .ok a → stands a b → Refines i call s (f b) (g a)) :
    Refines i call s (x >>= f) (d >>= g) := by
  rcases d with (reason | index) | a
  · exact body_bind_of_error hx f
  · exact congrArg Prod.fst (body_bind_of_error hx f)
  · obtain ⟨b, hb, hab⟩ := hx
    exact refines_of_ok hb (hf a b rfl hab)

/-! ## Up to the commit -/

/-- The decision goes on from a value that it has. -/
lemma ok_bind (a : α) (f : α → Decide β) : (Except.ok a : Decide α) >>= f = f a := rfl

/-- A routine returns unless a condition holds. -/
lemma refines_expect_of {condition : Bool} {reason : Refusal} {f : Unit → Routine Status}
    {d : Decide Plan} (hdecline : condition = false → d = Decide.decline reason)
    (hf : condition = true → Refines i call s (f ()) d) :
    Refines i call s (expect condition reason >>= f) d := by
  cases condition with
  | false => exact hdecline rfl ▸ rfl
  | true => exact refines_of_ok rfl (hf rfl)

/-- A routine returns unless a condition holds, and a decision declines when it does not. -/
lemma refines_expect {condition : Bool} {reason : Refusal} {f : Unit → Routine Status}
    {g : Unit → Decide Plan} {d : Decide Plan}
    (hf : condition = true → Refines i call s (f ()) d) :
    Refines i call s (expect condition reason >>= f)
      (if (!condition) = true then Decide.decline reason >>= g else d) := by
  cases condition with
  | false => rfl
  | true => exact refines_of_ok rfl (hf rfl)

lemma refines_require {condition : Bool} {o : Obstacle} {f : Unit → Routine Status}
    {g : Unit → Decide Plan} (hf : condition = true → Refines i call s (f ()) (g ())) :
    Refines i call s (require condition o >>= f) (Decide.require condition o >>= g) :=
  refines_bind (decides_require condition o) fun _ _ hd _ => hf (Decide.require_eq_ok.1 hd)

lemma refines_need {value : Option α} {o : Obstacle} {f : α → Routine Status}
    {g : α → Decide Plan} (hf : ∀ a, value = some a → Refines i call s (f a) (g a)) :
    Refines i call s (need value o >>= f) (Decide.need value o >>= g) :=
  refines_bind (decides_need value o) fun a _ hd hab => hab ▸ hf a (Decide.need_eq_ok.1 hd)

/-- A routine looks at an operand of the call. -/
lemma refines_observe (h : s.Attends call r) {id : NodeId} {x : Operand} (hx : call.Pairs r id x)
    {f : Operand → Routine Status} {d : Decide Plan} (hf : Refines i call s (f x) d) :
    Refines i call s (observe id >>= f) d :=
  refines_of_ok (observe_of_operand? (h.operand?_eq hx)) hf

section Classify

variable {sig : Signature} {f : Unit → Routine Status} {g : Unit → Decide Plan}

lemma refines_classify (h : s.Attends call r)
    (hf : (i.site r).Admits sig → Refines i call s (f ()) (g ())) :
    Refines i call s (classify call sig >>= f) ((i.site r).classify sig >>= g) :=
  refines_bind (decides_classify h i sig) fun _ _ hd _ => hf (Site.admits_of_classify hd)

/-- The number of arguments is known once the call is of the shape. -/
lemma length_args_eq (h : s.Attends call r) (hs : (i.site r).Admits sig) {n : Nat}
    (ha : sig.arity = .exactly n) : call.args.length = n :=
  h.resolved.forall₂_args.length_eq.trans (hs.length_eq ha)

/-- A call of exactly one argument. -/
lemma refines_one (h : s.Attends call r) (ha : sig.arity = .exactly 1)
    (hf : ∀ id x, call.args = [id] → (i.site r).args = [x] → call.Pairs r id x →
      Refines i call s (f ()) (g ())) :
    Refines i call s (classify call sig >>= f) ((i.site r).classify sig >>= g) := by
  refine refines_classify h fun hs => ?_
  obtain ⟨id, hid⟩ := List.length_eq_one_iff.1 (length_args_eq h hs ha)
  obtain ⟨x, hx⟩ := hs.args_eq_one ha
  refine hf id x hid hx (Call.pairs_of_mem_zip ?_)
  rw [show r.args = [x] from hx, hid]
  exact List.mem_cons_self ..

/-- A call of exactly two arguments. -/
lemma refines_two (h : s.Attends call r) (ha : sig.arity = .exactly 2)
    (hf : ∀ id j x y, call.args = [id, j] → (i.site r).args = [x, y] → call.Pairs r id x →
      call.Pairs r j y → Refines i call s (f ()) (g ())) :
    Refines i call s (classify call sig >>= f) ((i.site r).classify sig >>= g) := by
  refine refines_classify h fun hs => ?_
  obtain ⟨id, j, hid⟩ := List.length_eq_two.1 (length_args_eq h hs ha)
  obtain ⟨x, y, hx⟩ := hs.args_eq_two ha
  have hzip : r.args.zip call.args = [(x, id), (y, j)] := by
    rw [show r.args = [x, y] from hx, hid]
    rfl
  refine hf id j x y hid hx (Call.pairs_of_mem_zip ?_) (Call.pairs_of_mem_zip ?_) <;>
    simp [hzip]

/-- A call of exactly three arguments. -/
lemma refines_three (h : s.Attends call r) (ha : sig.arity = .exactly 3)
    (hf : ∀ id j k x y z, call.args = [id, j, k] → (i.site r).args = [x, y, z] →
      call.Pairs r id x → call.Pairs r j y → call.Pairs r k z →
      Refines i call s (f ()) (g ())) :
    Refines i call s (classify call sig >>= f) ((i.site r).classify sig >>= g) := by
  refine refines_classify h fun hs => ?_
  obtain ⟨id, j, k, hid⟩ := List.length_eq_three.1 (length_args_eq h hs ha)
  obtain ⟨x, y, z, hx⟩ := hs.args_eq_three ha
  have hzip : r.args.zip call.args = [(x, id), (y, j), (z, k)] := by
    rw [show r.args = [x, y, z] from hx, hid]
    rfl
  refine hf id j k x y z hid hx (Call.pairs_of_mem_zip ?_) (Call.pairs_of_mem_zip ?_)
    (Call.pairs_of_mem_zip ?_) <;> simp [hzip]

/-- A call of exactly four arguments. -/
lemma refines_four (h : s.Attends call r) (ha : sig.arity = .exactly 4)
    (hf : ∀ id j k l x y z u, call.args = [id, j, k, l] → (i.site r).args = [x, y, z, u] →
      call.Pairs r id x → call.Pairs r j y → call.Pairs r k z → call.Pairs r l u →
      Refines i call s (f ()) (g ())) :
    Refines i call s (classify call sig >>= f) ((i.site r).classify sig >>= g) := by
  refine refines_classify h fun hs => ?_
  obtain ⟨id, j, k, l, hid⟩ := List.length_eq_four.1 (length_args_eq h hs ha)
  obtain ⟨x, y, z, u, hx⟩ := hs.args_eq_four ha
  have hzip : r.args.zip call.args = [(x, id), (y, j), (z, k), (u, l)] := by
    rw [show r.args = [x, y, z, u] from hx, hid]
    rfl
  refine hf id j k l x y z u hid hx (Call.pairs_of_mem_zip ?_) (Call.pairs_of_mem_zip ?_)
    (Call.pairs_of_mem_zip ?_) (Call.pairs_of_mem_zip ?_) <;> simp [hzip]

end Classify

/-! ## From the commit on -/

/-- The operands of the call are named once it is committed. -/
lemma holds_committed (h : s.Attends call r) (facts : List Dependency) (context : NodeId) :
    (Ledger.ofCall r call).Holds s.builder.graph.size context 0
      (s.builder.committed call facts).builder := by
  have hsize : (s.builder.committed call facts).builder.graph.size = s.builder.graph.size :=
    s.builder.graph.size_marked call.operands
  refine ⟨fun p hp => ?_, nofun, fun _ => hsize, fun _ p hp => ?_⟩
  · exact hsize ▸ (Inliner.Resolved.of_operand? (h.operand?_eq hp)).2
  · obtain ⟨f, hf, hp'⟩ := Option.map_eq_some_iff.1 (h.operand?_eq hp)
    refine ⟨?_, (s.builder.enlarges_committed call facts).facts ?_⟩
    · rw [← hp']
      rfl
    · rw [hf, ← hp']

lemma commit_run (h : s.Attends call r) (facts : List Dependency) :
    commit call facts s = (.ok (s.builder.committed call facts).emitter,
      { s with builder := (s.builder.committed call facts).builder }) := by
  rw [commit, read_bind, Builder.commit_eq_committed h.live h.resolved.lt_size]
  rfl

/-- **A call is committed and a draft is emitted for it.** -/
lemma refines_commit (h : s.Attends call r) {facts : List Dependency} {d : Draft Unit}
    {f : Emitter → Routine Status}
    (hf : ∀ w : Writing, w.Completes (.ofCall r call) d (f w.emitter)) :
    Refines i call s (commit call facts >>= f) (.ok (.relyingOn facts d)) := by
  have henlarges := s.builder.enlarges_committed call facts
  rw [Refines.eq_def, body_bind_of_ok (commit_run h facts)]
  refine body_of_emitted ?_
  let e := s.builder.committed call facts
  refine (hf ⟨s.builder.graph.size, e.nextId, e.emitter⟩ 0 _ (holds_committed h facts _)).emitted
    ⟨henlarges, rfl, (List.append_nil _).symm⟩ fun _ => ?_
  have hsize : e.builder.graph.size = s.builder.graph.size :=
    s.builder.graph.size_marked call.operands
  rw [Plan.emit_eq_close (Builder.commit_eq_committed h.live h.resolved.lt_size facts) rfl]
  rw [← hsize]
  rfl

/-- The fork-join context of a committed call, which is added on first use. -/
lemma forkJoinContext_run (e : Emission) (s : Session) (hs : s.builder = e.builder) :
    ∃ (context : NodeId) (s' : Session), e.emitter.forkJoinContext s = (.ok context, s') ∧
      s.Extends s' ∧ (s'.builder.Fits →
        e.forkJoinContext = (context, e.emitter.on s'.builder)) := by
  rw [Emitter.forkJoinContext, read_bind, Emission.forkJoinContext, ← hs]
  cases s.builder.context with
  | some id => exact ⟨id, s, rfl, .refl s, fun _ => by rw [hs]; rfl⟩
  | none =>
    have henlarges := s.builder.enlarges_addAs .forkJoinContext [] .object none
    let context := NodeId.ofPosition s.builder.graph.size
    let graph := s.builder.graph.addAs context .forkJoinContext [] .object none
    refine ⟨context, { s with builder := { s.builder with graph, context := some context } }, rfl,
      ⟨henlarges.congr_right rfl rfl, rfl, rfl⟩, fun hfits => ?_⟩
    have hlt : s.builder.graph.size < UInt32.size :=
      Builder.lt_of_fits_addAs ⟨hfits.nodes, hfits.resumePoints⟩
    dsimp only [context, graph]
    rw [NodeId.ofPosition_of_lt hlt, hs]
    rfl

/-- **A call is committed, and a draft that mentions the fork-join context is emitted for it.** -/
lemma refines_commit_context (h : s.Attends call r) {d : Draft Unit}
    {f : Emitter → NodeId → Routine Status}
    (hf : ∀ w : Writing, w.Completes (.ofCall r call) d (f w.emitter w.context)) :
    Refines i call s (commit call [] >>= fun e => e.forkJoinContext >>= f e)
      (.ok { usesContext := true, steps := d.steps }) := by
  have henlarges := s.builder.enlarges_committed call []
  rw [Refines.eq_def, body_bind_of_ok (commit_run h [])]
  let e := s.builder.committed call []
  obtain ⟨context, s', hrun, hextends, hcontext⟩ :=
    forkJoinContext_run e { s with builder := e.builder } rfl
  rw [body_bind_of_ok hrun]
  refine body_of_emitted ?_
  have hcommitted : Session.Extends { s with log := s.log ++ [] } { s with builder := e.builder } :=
    ⟨henlarges, rfl, (List.append_nil _).symm⟩
  have hΓ : (Ledger.ofCall r call).Holds s'.builder.graph.size context 0 s'.builder :=
    (holds_committed h [] context).rebase hextends.builder rfl fun _ hp =>
      ⟨_, (Inliner.Resolved.of_operand? (h.operand?_eq hp)).1⟩
  refine (hf ⟨s'.builder.graph.size, context, e.emitter⟩ 0 s' hΓ).emitted
    (hcommitted.trans hextends) fun hfits => ?_
  exact Plan.emit_eq_close (p := { usesContext := true, steps := d.steps })
    (Builder.commit_eq_committed h.live h.resolved.lt_size []) (hcontext hfits)

/-- Making sure of a stub. -/
lemma ensureStub_run (i : Inliner) (kind : StubKind) (s : Session) :
    ensureStub i kind s =
      match i.ensureStub s.stubs (some kind) with
      | .error kind => (.error (.failed (.stubUnavailable kind)), s)
      | .ok (stubs, created) => (.ok (), { s with stubs, log := s.log ++ created }) := by
  rw [Routine.ensureStub, read_bind, Inliner.ensureStub, StubStore.ensure]
  cases s.stubs.get? kind with
  | some stub =>
    show (Except.ok (), s) = (Except.ok (), { s with log := s.log ++ [] })
    rw [List.append_nil]
  | none =>
    dsimp only
    cases i.env.createStub kind <;> rfl

/-- **The stub of a plan is there before the call is committed.** -/
lemma refines_ensureStub {kind : StubKind} {f : Unit → Routine Status} {steps : List Step}
    (hf : ∀ s' : Session, s'.builder = s.builder → Refines i call s' (f ()) (.ok { steps })) :
    Refines i call s (ensureStub i kind >>= f) (.ok { stub := some kind, steps }) := by
  have hrun := ensureStub_run i kind s
  rw [Refines.eq_def]
  dsimp only
  generalize i.ensureStub s.stubs (some kind) = ensured at hrun
  rcases ensured with kind | ⟨stubs, created⟩
  · exact body_bind_of_error hrun f
  · have hemit := hf { s with stubs, log := s.log ++ created } rfl
    rw [body_bind_of_ok hrun]
    rw [Refines.eq_def] at hemit
    dsimp only at hemit
    rw [Inliner.ensureStub] at hemit
    dsimp only at hemit
    rwa [List.append_nil] at hemit

end Routine

end CallSite
