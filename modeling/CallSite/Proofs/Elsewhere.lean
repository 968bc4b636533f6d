import CallSite.Proofs.Replaced
import CallSite.Proofs.Run

/-!
# What happens at other sites

A compilation goes on between the moment a call is looked at and the moment it is attempted: values
are added, the stack moves, and other calls are specialized.  None of that reaches the decision
about the call.  The nodes of its operands keep what is known of their values, its site stays live,
and a helper stub that was to be had is still to be had.

* `Builder.Extends` — a graph that was only added to, and its fork-join context.
* `Inliner.extends_attempt` — every attempt only adds.
* `Action.Elsewhere` — the actions that leave a site alone.
* `Compilation.Continues`, `Compilation.continues_run` — **what a run elsewhere keeps**.
* `Compilation.Continues.agrees` — **the outcome of an attempt is the same**, whatever happened
  elsewhere in between.
-/

namespace CallSite

/-! ## Graphs that are added to -/

/-- **A builder that was added to**: what was there keeps operation, inputs and types.  A fork-join
context that is remembered stays, and one that is remembered since is a new node. -/
structure Builder.Extends (b b' : Builder) : Prop where
  blueprints : b.graph.blueprints <+: b'.graph.blueprints
  context : ∀ id ∈ b.context, b'.context = some id
  fresh : b.context = none → ∀ id ∈ b'.context, b.graph.size ≤ id.index

namespace Builder.Extends

variable {b b' b'' : Builder}

lemma size_le (h : b.Extends b') : b.graph.size ≤ b'.graph.size := by
  have hlength := h.blueprints.length_le
  rwa [Graph.length_blueprints, Graph.length_blueprints] at hlength

/-- A builder with the same nodes and the same fork-join context. -/
lemma of_eq (hgraph : b'.graph = b.graph) (hcontext : b'.context = b.context) : b.Extends b' := by
  refine ⟨hgraph ▸ List.prefix_refl _, fun id hid => hcontext.trans hid, fun hnone id hid => ?_⟩
  rw [hcontext, hnone] at hid
  cases hid

lemma refl (b : Builder) : b.Extends b := of_eq rfl rfl

lemma trans (h : b.Extends b') (h' : b'.Extends b'') : b.Extends b'' := by
  refine ⟨h.blueprints.trans h'.blueprints, fun id hid => h'.context id (h.context id hid),
    fun hnone id hid => ?_⟩
  cases hcontext : b'.context with
  | none => exact Nat.le_trans h.size_le (h'.fresh hcontext id hid)
  | some id' =>
    obtain rfl := Option.some.inj ((h'.context id' hcontext).symm.trans hid)
    exact h.fresh hnone id' hcontext

/-- Adding a node is adding to the graph. -/
lemma add (b : Builder) (op : Op) (inputs : List NodeId) (ty : ValueType)
    (types : Option TypeSet) :
    b.Extends { b with graph := b.graph.add op inputs ty types } := by
  refine ⟨?_, fun _ h => h, fun hnone id hid => ?_⟩
  · rw [Graph.blueprints_add]
    exact List.prefix_append _ _
  · have hsome : b.context = some id := hid
    rw [hnone] at hsome
    cases hsome

/-- What was there is still there. -/
lemma node? (h : b.Extends b') {id : NodeId} (hid : id.index < b.graph.size) :
    (b'.graph.node? id).map Node.blueprint = (b.graph.node? id).map Node.blueprint := by
  obtain ⟨more, hmore⟩ := h.blueprints
  have hlt : id.index < b.graph.blueprints.length := by simpa using hid
  rw [← Graph.getElem?_blueprints b'.graph id.index, ← hmore, List.getElem?_append_left hlt,
    Graph.getElem?_blueprints]

/-- **What is known of a value stays known.** -/
theorem operand? (h : b.Extends b') {id : NodeId} (hid : id.index < b.graph.size) :
    b'.operand? id = b.operand? id := by
  have hfacts : b'.facts? id = b.facts? id := by
    have hnode := congrArg (Option.map fun bp : Blueprint =>
      ({ ty := bp.ty, types := bp.types, constant := bp.op.constant? } : Facts)) (h.node? hid)
    rw [Option.map_map, Option.map_map] at hnode
    exact hnode
  rw [Builder.operand?, hfacts, Builder.operand?]

end Builder.Extends

/-- Computations that agree on all elements agree on the list. -/
lemma mapM_congr {ε α β : Type} {f g : α → Except ε β} {xs : List α}
    (h : ∀ x ∈ xs, f x = g x) : xs.mapM f = xs.mapM g := by
  induction xs with
  | nil => rfl
  | cons x xs ih =>
    obtain ⟨hx, hxs⟩ := List.forall_mem_cons.1 h
    rw [List.mapM_cons, List.mapM_cons, hx, ih hxs]

lemma Call.resolve_congr {ε ν μ : Type} {c : Call ν} {f g : ν → Except ε μ}
    (h : ∀ x ∈ c.operands, f x = g x) : c.resolve f = c.resolve g := by
  obtain ⟨hcallee, hrest⟩ := List.forall_mem_cons.1 h
  obtain ⟨hreceiver, hargs⟩ := List.forall_mem_cons.1 hrest
  rw [resolve, resolve, hcallee, hreceiver, mapM_congr hargs]

/-- **The operands of a call are looked up with the same result.** -/
theorem Builder.Extends.resolveOperands {b b' : Builder} (h : b.Extends b') {call : Call NodeId}
    (hops : ∀ id ∈ call.operands, id.index < b.graph.size) :
    Inliner.resolveOperands b' call = Inliner.resolveOperands b call := by
  refine Call.resolve_congr fun id hid => ?_
  rw [h.operand? (hops id hid)]

/-! ## Attempts only add -/

/-- The fork-join context after the commit of a plan. -/
lemma Plan.context_opened (p : Plan) (b : Builder) (call : Call NodeId) :
    (p.opened b call).2.builder.context =
      if p.usesContext then some (p.opened b call).1 else b.context := by
  have hcontext : (b.committed call p.facts).builder.context = b.context := rfl
  rw [opened, Emission.withContext, Emission.forkJoinContext, hcontext]
  cases p.usesContext <;> cases hb : b.context <;> simp [hb, hcontext]

/-- A fork-join context that is remembered is the one that a plan uses. -/
lemma Plan.opened_of_context {p : Plan} {b : Builder} {id : NodeId} (h : b.context = some id)
    (hp : p.usesContext = true) (call : Call NodeId) : (p.opened b call).1 = id := by
  have hcontext : (b.committed call p.facts).builder.context = some id := h
  rw [opened, Emission.withContext, hp, if_pos rfl, Emission.forkJoinContext, hcontext]

/-- The fork-join context that a plan has to add is the first new node. -/
lemma Plan.opened_of_no_context {p : Plan} {b : Builder} {call : Call NodeId}
    (hp : p.usesContext = true) (h : b.context = none) :
    (p.opened b call).1 = ⟨b.graph.size⟩ ∧
      (p.opened b call).2.builder.graph.node? ⟨b.graph.size⟩ =
        some { id := ⟨b.graph.size⟩, op := .forkJoinContext, inputs := [], ty := .object } := by
  have hcontext : (b.committed call p.facts).builder.context = none := h
  have hnext : (b.committed call p.facts).nextId = ⟨b.graph.size⟩ :=
    NodeId.index_inj.1 (b.graph.size_marked call.operands)
  rw [opened, Emission.withContext, hp, if_pos rfl, Emission.forkJoinContext, hcontext]
  refine ⟨hnext, ?_⟩
  show ((b.committed call p.facts).builder.graph.add _ _ _ _).node? _ = _
  rw [Graph.node?_add, ← hnext]
  exact if_pos rfl

/-- **The fork-join context after a plan is emitted.** -/
theorem Plan.Orderly.context_emit {s : Site} {p : Plan} (horderly : p.Orderly s) {b b' : Builder}
    {call : Call NodeId} (hlive : b.isDead call.site = false)
    (hops : ∀ id ∈ call.operands, id.index < b.graph.size) (h : p.emit b call = .ok b') :
    b'.context = if p.usesContext then some (p.opened b call).1 else b.context := by
  obtain ⟨σ, hsteps, -⟩ := horderly
  obtain ⟨e, rfl, htracks⟩ := tracks_of_emit hlive hops h hsteps
  rw [← context_opened]
  exact congrArg Emission.Fixed.context htracks.fixed

/-- **Emitting a plan only adds.** -/
theorem Plan.Orderly.extends {s : Site} {p : Plan} (horderly : p.Orderly s) {b b' : Builder}
    {call : Call NodeId} (hlive : b.isDead call.site = false)
    (hops : ∀ id ∈ call.operands, id.index < b.graph.size) (h : p.emit b call = .ok b') :
    b.Extends b' := by
  have hblueprints := emit_blueprints hlive hops h
  have hcontext := horderly.context_emit hlive hops h
  refine ⟨?_, fun id hid => ?_, fun hnone id hid => ?_⟩
  · rw [hblueprints]
    exact List.prefix_append _ _
  · rw [hcontext]
    split_ifs with hp
    · rw [opened_of_context hid hp]
    · exact hid
  · rw [hcontext] at hid
    split_ifs at hid with hp
    · have hfirst : (⟨b.graph.size⟩ : NodeId) = id :=
        (opened_of_no_context hp hnone).1.symm.trans (Option.some.inj hid)
      exact Nat.le_of_eq (congrArg NodeId.index hfirst)
    · rw [hnone] at hid
      cases hid

/-- **Every attempt only adds**, however it ends. -/
theorem Inliner.extends_attempt (i : Inliner) (stubs : StubStore) (b : Builder) (call : Call NodeId)
    (callee : Callee) : b.Extends (i.attempt stubs b call callee).builder := by
  have hends := i.attempt_ends stubs b call callee
  generalize i.attempt stubs b call callee = a at hends ⊢
  cases hends with
  | inlined hlive hr hdecide horderly hstub hemit =>
    exact horderly.extends hlive (resolved_of_eq_ok hr).lt_size hemit
  | _ => exact .refl b

/-- **An attempt commits the site of its call**, if it replaces it, and no other. -/
theorem Inliner.isDead_attempt (i : Inliner) (stubs : StubStore) (b : Builder) (call : Call NodeId)
    (callee : Callee) {site : SiteId} (h : site ≠ call.site) :
    (i.attempt stubs b call callee).builder.isDead site = b.isDead site := by
  have hends := i.attempt_ends stubs b call callee
  generalize i.attempt stubs b call callee = a at hends ⊢
  cases hends with
  | @inlined r log created p stubs' b' hlive hr hdecide horderly hstub hemit =>
    obtain ⟨e, σ, he, -, htracks⟩ := horderly.emit hlive (resolved_of_eq_ok hr).lt_size
    obtain rfl := Except.ok.inj (hemit.symm.trans he)
    have hdead : e.builder.deadSites = b.deadSites ++ [call.site] :=
      (congrArg Emission.Fixed.deadSites htracks.fixed).trans
        (Emission.opens_opened p b call).deadSites
    simp [Builder.isDead, hdead, h]
  | _ => rfl

/-! ## Stubs -/

/-- A stub of the kind is there or can be made. -/
def StubStore.provides (s : StubStore) (env : Engine) (kind : StubKind) : Bool :=
  (s.get? kind).isSome || (env.createStub kind).isSome

/-- **A stub is refused** only where it is neither there nor can be made. -/
theorem Inliner.ensureStub_eq_error_iff {i : Inliner} {stubs : StubStore} {kind : Option StubKind}
    {k : StubKind} :
    i.ensureStub stubs kind = .error k ↔ kind = some k ∧ stubs.provides i.env k = false := by
  cases kind with
  | none => simp [ensureStub]
  | some kind =>
    rw [ensureStub, StubStore.ensure, StubStore.provides]
    cases hget : stubs.get? kind with
    | some stub =>
      simp only [reduceCtorEq, Option.some.injEq, false_iff, not_and]
      rintro rfl
      simp [hget]
    | none =>
      cases hcreate : i.env.createStub kind with
      | none =>
        simp only [Option.map_none, Except.error.injEq, Option.some.injEq]
        refine ⟨?_, And.left⟩
        rintro rfl
        simp [hget, hcreate]
      | some stub =>
        simp only [Option.map_some, reduceCtorEq, Option.some.injEq, false_iff, not_and]
        rintro rfl
        simp [hcreate]

/-- Making a stub takes none away and makes none impossible. -/
lemma Inliner.provides_ensureStub {i : Inliner} {stubs stubs' : StubStore}
    {kind : Option StubKind} {created : List Event}
    (h : i.ensureStub stubs kind = .ok (stubs', created)) (k : StubKind) :
    stubs'.provides i.env k = stubs.provides i.env k := by
  cases kind with
  | none =>
    cases h
    rfl
  | some kind =>
    rw [ensureStub, StubStore.ensure] at h
    cases hget : stubs.get? kind with
    | some stub =>
      rw [hget] at h
      cases h
      rfl
    | none =>
      rw [hget] at h
      cases hcreate : i.env.createStub kind with
      | none =>
        rw [hcreate] at h
        cases h
      | some stub =>
        rw [hcreate] at h
        cases h
        by_cases hk : k = kind
        · subst hk
          simp [StubStore.provides, hcreate]
        · rw [StubStore.provides, StubStore.get?_set_of_ne _ _ hk, StubStore.provides]

/-- **An attempt leaves the same stubs to be had.** -/
theorem Inliner.provides_attempt (i : Inliner) (stubs : StubStore) (b : Builder)
    (call : Call NodeId) (callee : Callee) (k : StubKind) :
    (i.attempt stubs b call callee).stubs.provides i.env k = stubs.provides i.env k := by
  have hends := i.attempt_ends stubs b call callee
  generalize i.attempt stubs b call callee = a at hends ⊢
  cases hends with
  | inlined _ _ _ _ hstub _ => exact provides_ensureStub hstub k
  | _ => rfl

/-! ## Runs -/

/-- **Every action only adds.** -/
theorem Action.extends_perform (a : Action) (c : Compilation) :
    c.builder.Extends (a.perform c).builder := by
  cases a with
  | addParameter index ty types => exact .add c.builder _ _ _ _
  | addConstant value => exact .add c.builder _ _ _ _
  | attempt i call callee => exact i.extends_attempt c.stubs c.builder call callee
  | _ => exact .of_eq rfl rfl

/-- **Every run only adds.** -/
theorem Compilation.extends_run (c : Compilation) (actions : List Action) :
    c.builder.Extends (c.run actions).builder :=
  run_induction (P := fun c' => c.builder.Extends c'.builder) (.refl _) actions
    fun c' a _ hc => hc.trans (a.extends_perform c')

/-! ## Runs elsewhere -/

/-- **The action leaves the site alone**: attempts are made for calls at other sites, in the same
environment, and the store of stubs is not exchanged for another. -/
def Action.Elsewhere (env : Engine) (site : SiteId) : Action → Prop
  | attempt i call _ => i.env = env ∧ call.site ≠ site
  | useStubs _ => False
  | _ => True

namespace Compilation

variable {env : Engine} {site : SiteId} {c c' : Compilation}

/-- **What a compilation keeps** that goes on elsewhere, from `c` to `c'`. -/
structure Continues (env : Engine) (site : SiteId) (c c' : Compilation) : Prop where
  builder : c.builder.Extends c'.builder
  isDead : c'.builder.isDead site = c.builder.isDead site
  provides : ∀ k, c'.stubs.provides env k = c.stubs.provides env k

/-- An action elsewhere keeps it. -/
lemma Continues.perform (h : c.Continues env site c') {a : Action} (ha : a.Elsewhere env site) :
    c.Continues env site (a.perform c') := by
  have hextends := h.builder.trans (a.extends_perform c')
  cases a with
  | attempt i call callee =>
    obtain ⟨rfl, hsite⟩ := ha
    refine ⟨hextends, ?_, fun k => ?_⟩
    · exact (i.isDead_attempt c'.stubs c'.builder call callee hsite.symm).trans h.isDead
    · exact (i.provides_attempt c'.stubs c'.builder call callee k).trans (h.provides k)
  | useStubs stubs => cases ha
  | _ => exact ⟨hextends, h.isDead, h.provides⟩

/-- **A run elsewhere keeps it.** -/
theorem continues_run (c : Compilation) {actions : List Action}
    (h : ∀ a ∈ actions, a.Elsewhere env site) : c.Continues env site (c.run actions) :=
  run_induction (P := c.Continues env site) ⟨.refl _, rfl, fun _ => rfl⟩ actions
    fun _ a ha hc => hc.perform (h a ha)

end Compilation

/-! ## The outcome of an attempt -/

/-- The event tells of the decision about a call; the others tell of what was made for it. -/
def Event.isDecision : Event → Bool
  | dispatch .. | notInlined _ | failed .. => true
  | inlined .. | stubCreated _ => false

/-- **The same outcome**: the same result, reported for the same reasons. -/
structure Attempt.Agrees (a a' : Attempt) : Prop where
  result : a'.result = a.result
  decision : a'.log.filter Event.isDecision = a.log.filter Event.isDecision

/-- The attempt at a call that a compilation makes now. -/
def Compilation.attempt (c : Compilation) (i : Inliner) (call : Call NodeId) (callee : Callee) :
    Attempt :=
  i.attempt c.stubs c.builder call callee

/-- What is reported of a stub is not about the decision. -/
lemma Inliner.filter_of_ensureStub {i : Inliner} {stubs stubs' : StubStore}
    {kind : Option StubKind} {created : List Event}
    (h : i.ensureStub stubs kind = .ok (stubs', created)) :
    created.filter Event.isDecision = [] := by
  cases kind with
  | none =>
    cases h
    rfl
  | some kind =>
    rw [ensureStub] at h
    split at h
    · cases h
    · next isNew _ _ =>
      cases h
      cases isNew <;> rfl

namespace Compilation.Continues

variable {i : Inliner} {call : Call NodeId} {c c' : Compilation}

/-- A stub that can be had at the one moment can be had at the other. -/
lemma exists_ensureStub {site : SiteId} (h : c.Continues i.env site c') {kind : Option StubKind}
    {stubs : StubStore} {created : List Event}
    (hstub : i.ensureStub c.stubs kind = .ok (stubs, created)) :
    ∃ stubs' created', i.ensureStub c'.stubs kind = .ok (stubs', created') := by
  cases hstub' : i.ensureStub c'.stubs kind with
  | ok next => exact ⟨_, _, rfl⟩
  | error k =>
    obtain ⟨hkind, hprovides⟩ := Inliner.ensureStub_eq_error_iff.1 hstub'
    rw [h.provides] at hprovides
    rw [Inliner.ensureStub_eq_error_iff.2 ⟨hkind, hprovides⟩] at hstub
    cases hstub

/-- **The outcome is the same**: the call is replaced by the same plan, or nothing changes. -/
theorem agrees (h : c.Continues i.env call.site c')
    (hops : ∀ id ∈ call.operands, id.index < c.builder.graph.size) (callee : Callee) :
    (c.attempt i call callee).Agrees (c'.attempt i call callee) ∧
    ((∃ r p, i.Emits c.builder call callee r p (c.attempt i call callee).builder ∧
      i.Emits c'.builder call callee r p (c'.attempt i call callee).builder) ∨
    (c.attempt i call callee).result ≠ .ok .inlined ∧
      (c.attempt i call callee).builder = c.builder ∧
      (c'.attempt i call callee).builder = c'.builder) := by
  have hends := i.attempt_ends c.stubs c.builder call callee
  rw [attempt, attempt]
  generalize i.attempt c.stubs c.builder call callee = a at hends ⊢
  have hresolve := h.builder.resolveOperands hops
  cases hends with
  | dead hdead =>
    rw [Inliner.attempt, if_pos (h.isDead.trans hdead)]
    exact ⟨⟨rfl, rfl⟩, .inr ⟨by simp, rfl, rfl⟩⟩
  | unknownOperand hlive hid =>
    obtain ⟨r, hr⟩ := Inliner.exists_resolved hops
    rw [hid] at hr
    cases hr
  | declined hlive hr hdecide =>
    have hlive' := Bool.eq_false_iff.1 (h.isDead.trans hlive)
    rw [Inliner.attempt, if_neg hlive', hresolve.trans hr]
    dsimp only
    rw [hdecide]
    exact ⟨⟨rfl, rfl⟩, .inr ⟨by simp, rfl, rfl⟩⟩
  | stubUnavailable hlive hr hdecide hstub =>
    obtain ⟨hkind, hprovides⟩ := Inliner.ensureStub_eq_error_iff.1 hstub
    have hstub' := Inliner.ensureStub_eq_error_iff.2 ⟨hkind, (h.provides _).trans hprovides⟩
    rw [Inliner.attempt_eq_of_unavailable (h.isDead.trans hlive) (hresolve.trans hr) hdecide
      hstub']
    exact ⟨⟨rfl, rfl⟩, .inr ⟨by simp, rfl, rfl⟩⟩
  | @inlined r log created p stubs b hlive hr hdecide horderly hstub hemit =>
    have hlive' := h.isDead.trans hlive
    have hr' := hresolve.trans hr
    obtain ⟨stubs', created', hstub'⟩ := h.exists_ensureStub hstub
    obtain ⟨b', hemit', hattempt⟩ := Inliner.exists_attempt_eq hlive' hr' hdecide hstub'
    have horigin := Inliner.origin_of_decide hdecide
    rw [hattempt]
    refine ⟨⟨rfl, ?_⟩, .inl ⟨r, p, ?_, ?_⟩⟩
    · rw [List.filter_append, List.filter_append, List.filter_append, List.filter_append,
        Inliner.filter_of_ensureStub hstub, Inliner.filter_of_ensureStub hstub']
      rfl
    · exact ⟨hlive, Inliner.resolved_of_eq_ok hr, horderly, horigin, hemit⟩
    · exact ⟨hlive', Inliner.resolved_of_eq_ok hr', horderly, horigin, hemit'⟩

end Compilation.Continues

end CallSite
