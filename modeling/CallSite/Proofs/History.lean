import CallSite.Proofs.ForkJoin
import CallSite.Proofs.WellFormed
import Mathlib.Data.List.Nodup

/-!
# What a builder tells of its history

A builder remembers little: which sites are dead, a stack, and a fork-join context.  That is enough,
since each of these is a record of what happened.  A site is dead because exactly one attempt at it
replaced the call, the stack is as deep as the pushes, the pops and the replaced calls make it, and
the graph never takes anything back.

* `Compilation.history` — the actions of a run with the states that they found.
* `Inliner.Emits.deadSites`, `Inliner.Emits.stack_length` — what a replaced call leaves on record.
* `Compilation.Tallies` — dead sites and stack depth agree with the history, action by action.
* `Compilation.Accounts` — **what a run has to show for its history**.
* `Compilation.run_accounts` — every run has it to show.
-/

namespace CallSite

/-! ## Histories -/

/-- The site of the call that the action replaces, if it is an attempt that does. -/
def Action.inlined? (c : Compilation) : Action → Option SiteId
  | attempt i call callee =>
    if (c.attempt i call callee).result = .ok .inlined then some call.site else none
  | _ => none

/-- The action pushes a value. -/
def Action.pushes : Action → Bool
  | push _ => true
  | _ => false

/-- The action takes a value from the stack; there is none to take from an empty one. -/
def Action.pops (c : Compilation) : Action → Bool
  | pop => !c.builder.stack.isEmpty
  | _ => false

/-- **A history**: actions, each with the compilation that it was performed on. -/
abbrev History := List (Compilation × Action)

namespace History

/-- The sites of the calls that were replaced, in order. -/
def inlinedSites (h : History) : List SiteId := h.filterMap fun entry => entry.2.inlined? entry.1

/-- The number of values that were pushed. -/
def pushes (h : History) : Nat := h.countP fun entry => entry.2.pushes

/-- The number of values that were taken from the stack. -/
def pops (h : History) : Nat := h.countP fun entry => entry.2.pops entry.1

lemma inlinedSites_append (h h' : History) :
    (h ++ h').inlinedSites = h.inlinedSites ++ h'.inlinedSites :=
  List.filterMap_append

lemma pushes_append (h h' : History) : (h ++ h').pushes = h.pushes + h'.pushes :=
  List.countP_append

lemma pops_append (h h' : History) : (h ++ h').pops = h.pops + h'.pops :=
  List.countP_append

end History

/-- **The history of a run.** -/
def Compilation.history (c : Compilation) : List Action → History
  | [] => []
  | a :: actions => (c, a) :: (a.perform c).history actions

namespace Compilation

lemma run_append (c : Compilation) (before after : List Action) :
    c.run (before ++ after) = (c.run before).run after :=
  List.foldl_append

end Compilation

/-! ## Replaced calls -/

namespace Inliner.Emits

variable {i : Inliner} {b b' : Builder} {call : Call NodeId} {callee : Callee} {r : Call Operand}
  {p : Plan}

/-- **A replaced call makes its site dead**, and no other. -/
theorem deadSites (h : i.Emits b call callee r p b') :
    b'.deadSites = b.deadSites ++ [call.site] := by
  obtain ⟨σ, hsteps, -⟩ := h.orderly
  obtain ⟨e, rfl, htracks⟩ := Plan.tracks_of_emit h.live h.resolved.lt_size h.emit hsteps
  exact (congrArg Emission.Fixed.deadSites htracks.fixed).trans
    (Emission.opens_opened p b call).deadSites

/-- **A replaced call leaves one value more** on the stack. -/
theorem stack_length (h : i.Emits b call callee r p b') :
    b'.stack.length = b.stack.length + 1 := by
  obtain ⟨σ, hsteps, hσ⟩ := h.orderly
  obtain ⟨e, rfl, htracks⟩ := Plan.tracks_of_emit h.live h.resolved.lt_size h.emit hsteps
  obtain ⟨v, hv⟩ := Option.isSome_iff_exists.1 hσ.1
  rw [htracks.stack, hv, (Emission.opens_opened p b call).stack, Option.map_some,
    Option.toList_some, List.length_append, List.length_singleton]

end Inliner.Emits

/-- An attempt that does not replace the call leaves the builder as it was. -/
lemma Inliner.builder_attempt {i : Inliner} {stubs : StubStore} {b : Builder}
    {call : Call NodeId} {callee : Callee}
    (h : (i.attempt stubs b call callee).result ≠ .ok .inlined) :
    (i.attempt stubs b call callee).builder = b := by
  have hends := i.attempt_ends stubs b call callee
  generalize i.attempt stubs b call callee = a at h hends ⊢
  cases hends with
  | inlined => exact absurd rfl h
  | _ => rfl

/-! ## Dead sites and stack -/

namespace Compilation

/-- **Dead sites and stack agree with a history.** -/
structure Tallies (c : Compilation) (h : History) : Prop where
  deadSites : c.builder.deadSites = h.inlinedSites
  nodup : h.inlinedSites.Nodup
  stack : c.builder.stack.length + h.pops = h.pushes + h.inlinedSites.length

/-- At the start there is nothing on record. -/
lemma tallies_nil : ({} : Compilation).Tallies [] := ⟨rfl, .nil, rfl⟩

variable {c : Compilation} {h : History}

/-- **An action goes on record** with what it changes. -/
theorem Tallies.append (ht : c.Tallies h) {c' : Compilation} {h' : History}
    (hdead : c'.builder.deadSites = c.builder.deadSites ++ h'.inlinedSites)
    (hfresh : ∀ site ∈ h'.inlinedSites, c.builder.isDead site = false)
    (honce : h'.inlinedSites.Nodup)
    (hstack : c'.builder.stack.length + h'.pops =
      c.builder.stack.length + h'.pushes + h'.inlinedSites.length) :
    c'.Tallies (h ++ h') := by
  refine ⟨?_, ?_, ?_⟩
  · rw [hdead, ht.deadSites, History.inlinedSites_append]
  · rw [History.inlinedSites_append, List.nodup_append]
    refine ⟨ht.nodup, honce, ?_⟩
    rintro site hsite _ hnew rfl
    have hlive := hfresh site hnew
    rw [Builder.isDead, ht.deadSites, decide_eq_false_iff_not] at hlive
    exact hlive hsite
  · have hold := ht.stack
    rw [History.pops_append, History.pushes_append, History.inlinedSites_append,
      List.length_append]
    omega

/-- **An attempt** makes one site dead and leaves one value, or goes on no record. -/
theorem Tallies.attempt (ht : c.Tallies h) (i : Inliner) (call : Call NodeId) (callee : Callee) :
    (Action.perform c (.attempt i call callee)).Tallies (h ++ [(c, .attempt i call callee)]) := by
  by_cases hresult : (c.attempt i call callee).result = .ok .inlined
  · obtain ⟨r, p, hemits⟩ := Inliner.exists_emits hresult
    have hsites : History.inlinedSites [(c, .attempt i call callee)] = [call.site] := by
      simp [History.inlinedSites, Action.inlined?, hresult]
    refine ht.append ?_ ?_ ?_ ?_
    · rw [hsites]
      exact hemits.deadSites
    · rw [hsites]
      exact List.forall_mem_singleton.2 hemits.live
    · rw [hsites]
      exact List.nodup_singleton _
    · rw [hsites]
      exact hemits.stack_length
  · have hbuilder : (Action.perform c (.attempt i call callee)).builder = c.builder :=
      Inliner.builder_attempt hresult
    have hsites : History.inlinedSites [(c, .attempt i call callee)] = [] := by
      simp [History.inlinedSites, Action.inlined?, hresult]
    refine ht.append ?_ ?_ ?_ ?_
    · rw [hsites, hbuilder, List.append_nil]
    · rw [hsites]
      exact List.forall_mem_nil _
    · rw [hsites]
      exact .nil
    · rw [hsites, hbuilder]
      rfl

/-- **An action keeps the record.** -/
theorem Tallies.perform (ht : c.Tallies h) (a : Action) :
    (a.perform c).Tallies (h ++ [(c, a)]) := by
  cases a with
  | attempt i call callee => exact ht.attempt i call callee
  | push id =>
    exact ht.append (List.append_nil _).symm (List.forall_mem_nil _) .nil List.length_append
  | pop =>
    refine ht.append (List.append_nil _).symm (List.forall_mem_nil _) .nil ?_
    show c.builder.stack.dropLast.length + _ = _
    have hpops : History.pops [(c, .pop)] = (!c.builder.stack.isEmpty).toNat := by
      cases hempty : c.builder.stack.isEmpty <;> simp [History.pops, Action.pops, hempty]
    rw [hpops]
    show _ = c.builder.stack.length
    cases c.builder.stack <;> simp
  | _ => exact ht.append (List.append_nil _).symm (List.forall_mem_nil _) .nil rfl

/-- **A run keeps the record.** -/
theorem Tallies.run (ht : c.Tallies h) (actions : List Action) :
    (c.run actions).Tallies (h ++ c.history actions) := by
  induction actions generalizing c h with
  | nil =>
    rw [history, List.append_nil]
    exact ht
  | cons a actions ih =>
    have hrest := ih (ht.perform a)
    rwa [List.append_assoc] at hrest

/-! ## The account of a run -/

/-- **What a run has to show for its history.** -/
structure Accounts (c : Compilation) (h : History) : Prop where
  /-- A site is dead iff exactly one attempt replaced a call at it. -/
  dead : ∀ site, c.builder.isDead site = true ↔ h.inlinedSites.count site = 1
  /-- No two attempts replaced calls at the same site. -/
  once : ∀ site, h.inlinedSites.count site ≤ 1
  /-- An attempt at a dead site is declined and changes nothing. -/
  refused : ∀ (i : Inliner) (stubs : StubStore) (call : Call NodeId) (callee : Callee),
    c.builder.isDead call.site = true →
      i.attempt stubs c.builder call callee =
        ⟨.ok .notInlined, c.builder, stubs, [.notInlined .callDead]⟩
  /-- The depth of the stack is what was pushed and what replaced calls left, less what was taken. -/
  stack : c.builder.stack.length + h.pops = h.pushes + h.inlinedSites.length
  /-- There is one fork-join context at most. -/
  unique : ∀ id id' n n', c.builder.graph.node? id = some n → c.builder.graph.node? id' = some n' →
    n.op = .forkJoinContext → n'.op = .forkJoinContext → id = id'
  /-- What works on a fork-join context has it as first input. -/
  first : ∀ id n, c.builder.graph.node? id = some n → n.op.needsContext = true →
    ∃ j m, n.inputs.head? = some j ∧ c.builder.graph.node? j = some m ∧ m.op = .forkJoinContext

/-- **Every run has it to show**, and what it has added to the graph stays as it is in every
continuation of the run: operation, inputs, type and observed types. -/
theorem run_accounts (actions : List Action) :
    (({} : Compilation).run actions).Accounts (history {} actions) ∧
    ∀ more id n, (({} : Compilation).run actions).builder.graph.node? id = some n →
      ∃ n', (({} : Compilation).run (actions ++ more)).builder.graph.node? id = some n' ∧
        n'.op = n.op ∧ n'.inputs = n.inputs ∧ n'.ty = n.ty ∧ n'.types = n.types := by
  have htallies := tallies_nil.run actions
  have hwellFormed := (reachable_run (c := {}) Builder.Reachable.new actions).wellFormed
  have hshared := sharesContext_run (c := {}) .new actions
  rw [List.nil_append] at htallies
  refine ⟨⟨fun site => ?_, fun site => ?_, fun i stubs call callee hdead => ?_, htallies.stack,
    fun id id' n n' hn hn' hop hop' => ?_, fun id n hn hneeds => ?_⟩, fun more id n hn => ?_⟩
  · rw [Builder.isDead, htallies.deadSites, decide_eq_true_iff]
    refine ⟨List.count_eq_one_of_mem htallies.nodup, fun hcount => ?_⟩
    exact List.count_pos_iff.1 (hcount ▸ Nat.one_pos)
  · exact List.nodup_iff_count_le_one.1 htallies.nodup site
  · rw [Inliner.attempt, if_pos hdead]
    rfl
  · have hid := hshared.context_eq hn hop
    have hid' := hshared.context_eq hn' hop'
    exact Option.some.inj (hid.symm.trans hid')
  · obtain ⟨j, hj, hhead⟩ := hshared.exists_head hn hneeds
    obtain ⟨m, hm, hcontext⟩ := hwellFormed.context j hj
    exact ⟨j, m, hhead, hm, hcontext⟩
  · have hsame := (extends_run (run {} actions) more).node? (Graph.lt_size_of_node? hn)
    rw [hn, Option.map_some, Option.map_eq_some_iff] at hsame
    obtain ⟨n', hn', hblueprint⟩ := hsame
    rw [run_append]
    exact ⟨n', hn', congrArg Blueprint.op hblueprint, congrArg Blueprint.inputs hblueprint,
      congrArg Blueprint.ty hblueprint, congrArg Blueprint.types hblueprint⟩

end Compilation

/-- The operands of a fence are added, and the fence is attempted twice. -/
def Scenario.fenceTwice : List Action :=
  [.addParameter 0 .object none, .addConstant .undefined, .attempt {} fence.call fence.callee,
    .attempt {} fence.call fence.callee]

/-- One of the two attempts replaces the call, and the nodes stay as they are when the first operand
is pushed afterwards. -/
theorem Compilation.run_accounts_fenceTwice :
    (history {} Scenario.fenceTwice).inlinedSites = [⟨7⟩] ∧
    (({} : Compilation).run Scenario.fenceTwice).Accounts (history {} Scenario.fenceTwice) ∧
    ∃ n', (({} : Compilation).run (Scenario.fenceTwice ++ [.push ⟨0⟩])).builder.graph.node? ⟨2⟩ =
      some n' ∧ n'.op = .memoryBarrier := by
  have hinlined : (history {} Scenario.fenceTwice).inlinedSites = [⟨7⟩] := by decide
  obtain ⟨haccounts, hkept⟩ := run_accounts Scenario.fenceTwice
  obtain ⟨n', hn', hop, -⟩ := hkept [.push ⟨0⟩] ⟨2⟩ _ rfl
  exact ⟨hinlined, haccounts, n', hn', hop⟩

end CallSite
