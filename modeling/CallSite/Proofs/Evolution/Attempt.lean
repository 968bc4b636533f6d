import CallSite.Proofs.Attempt
import CallSite.Proofs.Evolution.Emission
import CallSite.Proofs.Evolution.Registry

/-!
# The facts committed suffice

Code that was specialized stays valid as long as the facts that the graph relies on are respected.
Whatever else has changed of the types observed, the same attempt would replace the call again, by
the same code.

* `Inliner.Evolves` — **the inputs of an attempt have changed** while some facts are respected.
* `Inliner.attempt_evolves` — **the committed facts suffice**: under every change that respects them
  the attempt comes out the same.
-/

namespace CallSite

variable {facts : List Dependency}

/-! ## Changes -/

/-- **A builder has changed** in the type objects that its nodes record alone. -/
structure Builder.Grows (facts : List Dependency) (b b' : Builder) : Prop where
  core : b'.core = b.core
  types : ∀ (id : NodeId) (n n' : Node), b.graph.node? id = some n → b'.graph.node? id = some n' →
    Option.Rel (TypeSet.Grows facts) n.types n'.types

/-- No object of a native class that a node records is laid out as a typed object. -/
def Builder.NativesWithoutLayout (b : Builder) : Prop :=
  ∀ n ∈ b.graph.nodes, ∀ types ∈ n.types, types.NativesWithoutLayout

instance (b : Builder) : Decidable b.NativesWithoutLayout :=
  inferInstanceAs (Decidable (∀ n ∈ b.graph.nodes, ∀ types ∈ n.types, types.NativesWithoutLayout))

/-- A call has changed in the type objects observed for its result alone. -/
structure Call.Grows {ν : Type} (facts : List Dependency) (c c' : Call ν) : Prop where
  core : c'.core = c.core
  resultTypes : c.resultTypes.Grows facts c'.resultTypes

/-- A compilation whose engine has changed. -/
structure Inliner.Grows (facts : List Dependency) (i i' : Inliner) : Prop where
  config : i'.config = i.config
  frame : i'.frame = i.frame
  env : i.env.Grows facts i'.env

/-- **The inputs of an attempt have changed** in the type objects recorded for operands, for the
result and for templates, and in the prototype of arrays; the facts are respected. -/
structure Inliner.Evolves (facts : List Dependency) (i : Inliner) (b : Builder) (call : Call NodeId)
    (i' : Inliner) (b' : Builder) (call' : Call NodeId) : Prop where
  inliner : i.Grows facts i'
  builder : b.Grows facts b'
  call : call.Grows facts call'

/-- **What never changes of an attempt**: everything but the flags and the element types of the type
objects that the nodes of its builder record. -/
def Attempt.core (a : Attempt) : Attempt := { a with builder := a.builder.core }

namespace Builder.Grows

variable {b b' : Builder}

lemma node?_core_eq (h : b.Grows facts b') (id : NodeId) :
    (b'.graph.node? id).map Node.core = (b.graph.node? id).map Node.core := by
  have hgraph : b'.graph.core = b.graph.core := congrArg Builder.graph h.core
  rw [← Graph.node?_core, hgraph, Graph.node?_core]

/-- An operand behind a handle has changed with its node. -/
lemma operand_grows (h : b.Grows facts b') {id : NodeId} {x x' : Operand}
    (hx : b.operand? id = some x) (hx' : b'.operand? id = some x') : x.Grows facts x' := by
  have hcore := h.node?_core_eq id
  rw [Builder.operand?, Builder.facts?] at hx hx'
  cases hn : b.graph.node? id with
  | none =>
    rw [hn] at hx
    cases hx
  | some n =>
    cases hn' : b'.graph.node? id with
    | none =>
      rw [hn'] at hx'
      cases hx'
    | some n' =>
      rw [hn] at hx hcore
      rw [hn'] at hx' hcore
      obtain rfl := Option.some.inj hx
      obtain rfl := Option.some.inj hx'
      refine ⟨?_, h.types id n n' hn hn'⟩
      have hnode : n'.core = n.core := Option.some.inj hcore
      exact congrArg (fun m : Node => (⟨m.facts, .node id⟩ : Operand)) hnode

end Builder.Grows

/-! ## Looking up the operands -/

namespace Inliner

/-- The core of a resolved call is that of the call with the cores of the operands. -/
lemma Resolved.core_eq {b : Builder} {call : Call NodeId} {r : Call Operand}
    (h : Resolved b call r) :
    (r.map Operand.core).core =
      { call.core with
        callee := r.callee.core
        receiver := r.receiver.core
        args := r.args.map Operand.core } := by
  have hcore := congrArg (fun c : Call Operand => (c.map Operand.core).core) h.same
  exact hcore

lemma Resolved.nativesWithoutLayout {i : Inliner} {b : Builder} {call : Call NodeId}
    {r : Call Operand} (h : Resolved b call r) (hnative : b.NativesWithoutLayout) :
    (i.site r).NativesWithoutLayout := by
  intro x hx types htypes
  have hmem : x ∈ r.operands := List.mem_cons_of_mem _ (List.mem_cons_of_mem _ hx)
  obtain ⟨id, -, hid⟩ := exists_mem_of_forall₂ h.operands.flip hmem
  have hfound : b.operand? id = some x := hid
  rw [Builder.operand?, Builder.facts?] at hfound
  cases hn : b.graph.node? id with
  | none =>
    rw [hn] at hfound
    cases hfound
  | some n =>
    rw [hn] at hfound
    obtain rfl := Option.some.inj hfound
    exact hnative n (Array.mem_of_getElem? hn) types htypes

namespace Evolves

variable {i i' : Inliner} {b b' : Builder} {call call' : Call NodeId} {r r' : Call Operand}

lemma operands_eq (h : Evolves facts i b call i' b' call') : call'.operands = call.operands := by
  show call'.core.operands = call.core.operands
  rw [h.call.core]

lemma site_eq (h : Evolves facts i b call i' b' call') : call'.site = call.site := by
  show call'.core.site = call.core.site
  rw [h.call.core]

lemma isDead_eq (h : Evolves facts i b call i' b' call') :
    b'.isDead call'.site = b.isDead call.site := by
  show b'.core.isDead call'.core.site = b.core.isDead call.core.site
  rw [h.builder.core, h.call.core]

/-- A stub is there, or can be made, as before. -/
lemma ensureStub_eq (h : Evolves facts i b call i' b' call') (stubs : StubStore)
    (kind : Option StubKind) : i'.ensureStub stubs kind = i.ensureStub stubs kind := by
  have hcreate : i'.env.createStub = i.env.createStub := by
    show i'.env.core.createStub = i.env.core.createStub
    rw [h.inliner.env.core]
  cases kind with
  | none => rfl
  | some kind =>
    have hensure : stubs.ensure kind i'.env = stubs.ensure kind i.env := by
      rw [StubStore.ensure, StubStore.ensure, hcreate]
    rw [ensureStub, ensureStub, hensure]

/-- A call whose operands are found finds them again. -/
lemma exists_resolved (h : Evolves facts i b call i' b' call')
    (hr : resolveOperands b call = .ok r) : ∃ r', resolveOperands b' call' = .ok r' := by
  cases hr' : resolveOperands b' call' with
  | ok r' => exact ⟨r', rfl⟩
  | error id =>
    obtain ⟨id, hid, hnone⟩ := exists_resolveOperands_eq_error.1 ⟨id, hr'⟩
    have hcore := h.builder.node?_core_eq id
    rw [hnone] at hcore
    have hmissing : b.graph.node? id = none := Option.map_eq_none_iff.1 hcore.symm
    rw [h.operands_eq] at hid
    obtain ⟨id', hid'⟩ := exists_resolveOperands_eq_error.2 ⟨id, hid, hmissing⟩
    rw [hr] at hid'
    cases hid'

/-- The operands that are looked up have changed. -/
lemma operands_grow (h : Evolves facts i b call i' b' call') (hr : Resolved b call r)
    (hr' : Resolved b' call' r') : List.Forall₂ (Operand.Grows facts) r.operands r'.operands := by
  have hops := hr'.operands
  rw [h.operands_eq] at hops
  exact forall₂_of_common hr.operands hops fun _ _ _ => h.builder.operand_grows

/-- **And so has everything that a specialization may look at.** -/
theorem site_grows (h : Evolves facts i b call i' b' call') (hr : Resolved b call r)
    (hr' : Resolved b' call' r') : (i.site r).Grows facts (i'.site r') := by
  obtain ⟨hcallee, hrest⟩ := List.forall₂_cons.1 (h.operands_grow hr hr')
  obtain ⟨hreceiver, hargs⟩ := List.forall₂_cons.1 hrest
  have hargsCore : r'.args.map Operand.core = r.args.map Operand.core :=
    map_eq_of_forall₂ (hargs.imp fun _ _ hx => hx.core.symm)
  have hcall : (r'.map Operand.core).core = (r.map Operand.core).core := by
    rw [hr.core_eq, hr'.core_eq, h.call.core, hcallee.core, hreceiver.core, hargsCore]
  have hresult : r.resultTypes = call.resultTypes := congrArg Call.resultTypes hr.same
  have hresult' : r'.resultTypes = call'.resultTypes := congrArg Call.resultTypes hr'.same
  refine ⟨?_, hreceiver, hargs, ?_, h.inliner.env⟩
  · show Site.mk (r'.map Operand.core).core i'.config i'.env.core i'.frame =
      Site.mk (r.map Operand.core).core i.config i.env.core i.frame
    rw [hcall, h.inliner.config, h.inliner.env.core, h.inliner.frame]
  · show r.resultTypes.Grows facts r'.resultTypes
    rw [hresult, hresult']
    exact h.call.resultTypes

end Evolves

/-! ## Attempts -/

/-- **The committed facts suffice.**  When a call was replaced, then after every change that
respects the facts that the graph relies on, the same attempt replaces it again by the same code:
the same operations with the same inputs, static types and resume points, relying on the same
facts. -/
theorem attempt_evolves {i i' : Inliner} {stubs : StubStore} {b b' : Builder}
    {call call' : Call NodeId} {callee : Callee}
    (h : (i.attempt stubs b call callee).result = .ok .inlined)
    (hnative : b.NativesWithoutLayout)
    (hevolves : Evolves (i.attempt stubs b call callee).builder.graph.dependencies.items
      i b call i' b' call') :
    (i'.attempt stubs b' call' callee).result = .ok .inlined ∧
      (i'.attempt stubs b' call' callee).core = (i.attempt stubs b call callee).core := by
  have hends := i.attempt_ends stubs b call callee
  generalize i.attempt stubs b call callee = a at h hevolves hends ⊢
  cases hends with
  | dead => cases h
  | unknownOperand => cases h
  | declined => cases h
  | stubUnavailable => cases h
  | @inlined r log created p stubs₁ b₁ hlive hr hdecide horderly hstub hemit =>
    have hresolved := resolved_of_eq_ok hr
    have hfacts := horderly.facts_subset hlive hresolved.lt_size hemit
    obtain ⟨r', hr'⟩ := hevolves.exists_resolved hr
    have hsite := hevolves.site_grows hresolved (resolved_of_eq_ok hr')
    obtain ⟨p', hp', hcore⟩ :=
      decide_lasts (hresolved.nativesWithoutLayout hnative) hsite hdecide hfacts
    have hlive' : b'.isDead call'.site = false := hevolves.isDead_eq.trans hlive
    have hstub' : i'.ensureStub stubs p'.stub = .ok (stubs₁, created) := by
      show i'.ensureStub stubs p'.core.stub = .ok (stubs₁, created)
      rw [hcore, hevolves.ensureStub_eq]
      exact hstub
    obtain ⟨b₂, hemit', hattempt⟩ := exists_attempt_eq hlive' hr' hp' hstub'
    have hbuilder : b₂.core = b₁.core :=
      Plan.core_eq_of_emit hcore hevolves.builder.core hevolves.call.core hemit hemit'
    have hsize : b₂.graph.size = b₁.graph.size := by
      rw [← Graph.size_core, ← Graph.size_core b₁.graph]
      exact congrArg (fun b : Builder => b.graph.size) hbuilder
    rw [hattempt]
    refine ⟨rfl, ?_⟩
    rw [Attempt.core, Attempt.core, hbuilder, hsize, hevolves.site_eq]

end Inliner

/-- The last element of an array is removed where strings were seen. -/
def Scenario.pop (flags : ObjectFlags) (elements : TypeSet) : Scenario where
  site := ⟨7⟩
  callee := .function (.ofNative ⟨1⟩ .arrayPop)
  receiver := some (.typed .object (some (.singleton
    { id := ⟨1⟩, objectClass := .array, flags, elementTypes := some elements })))
  resultTypes := some (.ofType .string)

/-- Elements may be shared until the first write, and doubles may be stored, without the code for
the removal being touched. -/
theorem attempt_evolves_pop :
    ((Scenario.pop .copyOnWrite (.ofType .double)).attempt {}
      (Scenario.pop .copyOnWrite (.ofType .double)).builder).result = .ok .inlined ∧
    ((Scenario.pop .copyOnWrite (.ofType .double)).attempt {}
      (Scenario.pop .copyOnWrite (.ofType .double)).builder).core =
      ((Scenario.pop .none (.ofType .int32)).attempt {}
        (Scenario.pop .none (.ofType .int32)).builder).core := by
  have hfacts : ((Scenario.pop .none (.ofType .int32)).attempt {}
      (Scenario.pop .none (.ofType .int32)).builder).builder.graph.dependencies.items =
      [.flagsClear ⟨1⟩ DenseArray.sparseOrIterated, .noIndexedPrototype,
        .flagsClear ⟨1⟩ .nonPacked] := by
    decide
  have hobject : TypeObject.Grows
      [.flagsClear ⟨1⟩ DenseArray.sparseOrIterated, .noIndexedPrototype, .flagsClear ⟨1⟩ .nonPacked]
      { id := ⟨1⟩, objectClass := .array, elementTypes := some (.ofType .int32) }
      { id := ⟨1⟩, objectClass := .array, flags := .copyOnWrite,
        elementTypes := some (.ofType .double) } := by
    refine ⟨rfl, by decide, .some (by decide), ?_, by simp⟩
    intro flags hflags
    simp only [List.mem_cons, Dependency.flagsClear.injEq, true_and, List.not_mem_nil, or_false,
      reduceCtorEq, false_or] at hflags
    rcases hflags with rfl | rfl <;> decide
  have hnodes : (Scenario.pop .copyOnWrite (.ofType .double)).builder.graph.nodes.map Node.core =
      (Scenario.pop .none (.ofType .int32)).builder.graph.nodes.map Node.core := by
    refine Array.toList_inj.1 ?_
    rw [Array.toList_map, Array.toList_map]
    rfl
  refine Inliner.attempt_evolves (by decide) (by decide) ⟨⟨rfl, rfl, rfl, ?_, fun _ => rfl⟩,
    ⟨?_, ?_⟩, rfl, rfl, .nil⟩
  · exact fun _ _ => .none
  · exact congrArg (fun nodes : Array Node =>
      { (Scenario.pop .none (.ofType .int32)).builder with graph.nodes := nodes }) hnodes
  · rintro ⟨_ | _ | k⟩ n n' hn hn'
    · cases hn
      cases hn'
      exact .none
    · cases hn
      cases hn'
      rw [← hfacts] at hobject
      exact .some ⟨rfl, .cons hobject .nil⟩
    · cases hn

end CallSite
