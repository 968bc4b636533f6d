import CallSite.Proofs.Operations.Order
import CallSite.Proofs.Replaced

/-!
# Bailouts and the effects of a call

A bailout in front of all effects of a call runs the call again, and one behind all of them goes on
after it.  One in between would lose effects: the resume point of the last effect says that the call
is finished.  The order of the operations of a plan decides which nodes of the graph can do that.

* `Builder.BailsLate` — a node that was added can bail out behind an effect, and is no guard of the
  value that the call leaves.
* `Plan.Orderly.not_bailsLate`, `Plan.Orderly.bailsLate` — that is so iff the plan is not atomic.
* `Inliner.attempt_bailsLate_iff` — **only a call that stores several groups of elements does**, and
  it does iff it converts the index of one after the first.
* `not_forall_atomic` — and such a call is specialized.
-/

namespace CallSite

/-- **A bailout behind an effect.**  Of the nodes that `b'` has beyond `b`, one can bail out behind
another that has an effect, and it is no guard of the value on top of the stack. -/
def Builder.BailsLate (b b' : Builder) : Prop :=
  ∃ (i j : NodeId) (n m : Node), b.graph.size ≤ i.index ∧ i.index < j.index ∧
    b'.graph.node? i = some n ∧ b'.graph.node? j = some m ∧
    n.op.isEffectful = true ∧ m.op.canBail = true ∧
    ¬((∃ kind, m.op = .typeBarrier kind) ∧ b'.peek = some j)

/-- **The call converts an index late**: it stores groups of elements, and the index of one after
the first is no int32. -/
def Builder.ConvertsLate (b : Builder) (call : Call NodeId) (callee : Callee) : Prop :=
  ∃ f, callee = .function f ∧ f.native? = some .unsafePutElements ∧
    ∃ k id n, 1 ≤ k ∧ call.args[3 * k + 1]? = some id ∧ b.graph.node? id = some n ∧ n.ty ≠ .int32

/-! ## The operations of the nodes of a plan -/

/-- Steps that guard nothing describe nodes with their operations. -/
lemma Step.map_op_blueprints {steps : List Step} (h : ∀ s ∈ steps, s.isGuard = false) (base : Nat)
    (context : NodeId) :
    (steps.filterMap (blueprint? base context)).map Blueprint.op = steps.filterMap op? := by
  induction steps with
  | nil => rfl
  | cons s steps ih =>
    obtain ⟨hs, hsteps⟩ := List.forall_mem_cons.1 h
    have ih := ih hsteps
    cases s with
    | add op inputs ty types => simpa [blueprint?, op?] using ih
    | push v => exact ih
    | resume v => exact ih
    | guardTop v observed => cases hs

namespace Plan

variable {s : Site} {p : Plan} {b b' : Builder} {call : Call NodeId}

/-- **The operations of the nodes of a plan** are those of its steps and, where the result is
guarded, the guard, which is on top of the stack. -/
theorem Orderly.ops_added (horderly : p.Orderly s) (hlive : b.isDead call.site = false)
    (hops : ∀ id ∈ call.operands, id.index < b.graph.size) (h : p.emit b call = .ok b') :
    ∃ guard : List Op, (p.blueprints b call).map Blueprint.op = p.ops ++ guard ∧
      ∀ op ∈ guard, guard = [op] ∧ op = .typeBarrier .typeSet ∧
        b'.peek = some ⟨(p.opened b call).2.builder.graph.size + p.ops.length⟩ := by
  obtain ⟨σ, hsteps, hσ⟩ := horderly
  obtain ⟨w, -, ⟨hquiet, -⟩ | ⟨before, observed, hall, hquiet, σ₁, hbefore, hstack⟩⟩ :=
    left_of_emit hlive hops h hsteps hσ
  · refine ⟨[], ?_, List.forall_mem_nil _⟩
    rw [List.append_nil]
    exact Step.map_op_blueprints hquiet _ _
  · have hbeforeOps := Step.map_op_blueprints hquiet (p.opened b call).2.builder.graph.size
      (p.opened b call).1
    have hops' : p.ops = before.filterMap Step.op? := by
      rw [ops, hall, List.filterMap_append]
      exact List.append_nil _
    refine ⟨[.typeBarrier .typeSet], ?_, ?_⟩
    · rw [blueprints, hall, List.filterMap_append, List.map_append, hbeforeOps, hops']
      rfl
    · rintro op hop
      obtain rfl := List.mem_singleton.1 hop
      refine ⟨rfl, rfl, ?_⟩
      have hlength := hbefore.length_blueprints (p.opened b call).2.builder.graph.size
        (p.opened b call).1
      have hcount := congrArg List.length hbeforeOps
      rw [List.length_map] at hcount
      have hadded : σ₁.added = p.ops.length := by
        rw [hlength, hcount, hops']
        exact Nat.zero_add _
      rw [Builder.peek, hstack, ← hadded]
      simp

/-- A new node with an effect is one of those that the steps describe. -/
lemma Orderly.exists_added_of_effectful (horderly : p.Orderly s)
    (hlive : b.isDead call.site = false) (hops : ∀ id ∈ call.operands, id.index < b.graph.size)
    (h : p.emit b call = .ok b') {id : NodeId} {n : Node} (hid : b.graph.size ≤ id.index)
    (hn : b'.graph.node? id = some n) (heffectful : n.op.isEffectful = true) :
    (p.opened b call).2.builder.graph.size ≤ id.index := by
  obtain ⟨σ, hsteps, -⟩ := horderly
  obtain ⟨e, rfl, htracks⟩ := tracks_of_emit hlive hops h hsteps
  by_contra hlt
  rw [htracks.old id (Nat.lt_of_not_le hlt)] at hn
  rw [((Emission.opens_opened p b call).new id n hid hn).2.2] at heffectful
  cases heffectful

/-- The operations of the nodes behind the fork-join context, in order. -/
lemma map_op_added (hlive : b.isDead call.site = false)
    (hops : ∀ id ∈ call.operands, id.index < b.graph.size) (h : p.emit b call = .ok b') (k : Nat) :
    (b'.graph.node? ⟨(p.opened b call).2.builder.graph.size + k⟩).map Node.op =
      ((p.blueprints b call).map Blueprint.op)[k]? := by
  rw [List.getElem?_map, ← blueprint_added hlive hops h k, Option.map_map]
  rfl

/-- **An atomic plan does not bail out late**: behind an effect there is the guard of the result at
most. -/
theorem Orderly.not_bailsLate (horderly : p.Orderly s) (hlive : b.isDead call.site = false)
    (hops : ∀ id ∈ call.operands, id.index < b.graph.size) (h : p.emit b call = .ok b')
    (hatomic : p.Atomic) : ¬b.BailsLate b' := by
  rintro ⟨i, j, n, m, hi, hij, hn, hm, heffectful, hbail, htop⟩
  obtain ⟨guard, hall, hguard⟩ := horderly.ops_added hlive hops h
  have hnode := map_op_added hlive hops h
  have hbase := horderly.exists_added_of_effectful hlive hops h hi hn heffectful
  generalize (p.opened b call).2.builder.graph.size = base at hnode hguard hbase
  obtain ⟨k, hk⟩ := Nat.exists_eq_add_of_le hbase
  obtain ⟨l, hl⟩ := Nat.exists_eq_add_of_le (Nat.le_trans hbase (Nat.le_of_lt hij))
  obtain rfl : i = ⟨base + k⟩ := NodeId.index_inj.1 hk
  obtain rfl : j = ⟨base + l⟩ := NodeId.index_inj.1 hl
  have hkl : k < l := by simpa using hij
  have hopk := hnode k
  have hopl := hnode l
  rw [hn, Option.map_some, hall] at hopk
  rw [hm, Option.map_some, hall] at hopl
  by_cases hlt : l < p.ops.length
  · -- both are operations of the steps
    have hklt : k < p.ops.length := Nat.lt_trans hkl hlt
    rw [List.getElem?_append_left hklt, List.getElem?_eq_getElem hklt] at hopk
    rw [List.getElem?_append_left hlt, List.getElem?_eq_getElem hlt] at hopl
    have hprecede := List.pairwise_iff_getElem.1 hatomic k l hklt hlt hkl
    rw [← Option.some.inj hopk, ← Option.some.inj hopl] at hprecede
    simp [hprecede heffectful] at hbail
  · -- the one that can bail out is the guard of the result
    rw [List.getElem?_append_right (Nat.le_of_not_lt hlt)] at hopl
    obtain ⟨hsingle, hop, hpeek⟩ := hguard m.op (List.mem_of_getElem? hopl.symm)
    rw [hsingle] at hopl
    have hzero : l - p.ops.length = 0 := by
      have := (List.getElem?_eq_some_iff.1 hopl.symm).1
      simpa using this
    refine htop ⟨⟨_, hop⟩, ?_⟩
    rw [hpeek]
    congr 3
    omega

/-- **A plan that is not atomic bails out late**: none of its steps adds a guard. -/
theorem Orderly.bailsLate (horderly : p.Orderly s) (hlive : b.isDead call.site = false)
    (hops : ∀ id ∈ call.operands, id.index < b.graph.size) (h : p.emit b call = .ok b')
    (hbarrier : p.Emits fun op => ∀ kind, op ≠ .typeBarrier kind) (hlate : ¬p.Atomic) :
    b.BailsLate b' := by
  obtain ⟨guard, hall, -⟩ := horderly.ops_added hlive hops h
  have hsize := (Emission.opens_opened p b call).size_le
  rw [Atomic, List.pairwise_iff_getElem] at hlate
  simp only [not_forall] at hlate
  obtain ⟨k, l, hk, hl, hkl, hprecede⟩ := hlate
  obtain ⟨heffectful, hbail⟩ : p.ops[k].isEffectful = true ∧ p.ops[l].canBail = true := by
    simpa [Op.MayPrecede] using hprecede
  have hopk := map_op_added hlive hops h k
  have hopl := map_op_added hlive hops h l
  rw [hall, List.getElem?_append_left hk, List.getElem?_eq_getElem hk] at hopk
  rw [hall, List.getElem?_append_left hl, List.getElem?_eq_getElem hl] at hopl
  obtain ⟨n, hn, hnop⟩ := Option.map_eq_some_iff.1 hopk
  obtain ⟨m, hm, hmop⟩ := Option.map_eq_some_iff.1 hopl
  refine ⟨_, _, n, m, Nat.le_trans hsize (Nat.le_add_right _ k), by simpa using hkl, hn, hm,
    by rw [hnop, heffectful], by rw [hmop, hbail], ?_⟩
  rintro ⟨⟨kind, hkind⟩, -⟩
  exact hbarrier _ (List.getElem_mem hl) kind (hmop.symm.trans hkind)

end Plan

/-! ## Attempts -/

namespace Inliner

/-- The argument at a position is looked up at that position. -/
lemma Resolved.getElem?_args {b : Builder} {call : Call NodeId} {r : Call Operand}
    (h : Resolved b call r) (j : Nat) {x : Operand} : r.args[j]? = some x ↔
      ∃ id, call.args[j]? = some id ∧ b.operand? id = some x := by
  have hargs : List.Forall₂ (fun id x => b.operand? id = some x) call.args r.args := by
    cases h.operands with
    | cons _ htail => cases htail with
      | cons _ hargs => exact hargs
  clear h
  generalize call.args = ids, r.args = xs at hargs ⊢
  induction hargs generalizing j with
  | nil => simp
  | @cons id y ids ys hy _ ih =>
    cases j with
    | zero => simp [hy]
    | succ j => simpa using ih j

/-- **Only a call that stores several groups of elements can bail out behind an effect**, and it can
iff it converts the index of a group after the first. -/
theorem attempt_bailsLate_iff {i : Inliner} {stubs : StubStore} {b : Builder} {call : Call NodeId}
    {callee : Callee} (h : (i.attempt stubs b call callee).result = .ok .inlined) :
    b.BailsLate (i.attempt stubs b call callee).builder ↔ b.ConvertsLate call callee := by
  obtain ⟨r, p, hlive, hresolved, horderly, horigin, hemit⟩ := exists_emits h
  have hlt := hresolved.lt_size
  have hatomic : b.BailsLate (i.attempt stubs b call callee).builder ↔ ¬p.Atomic :=
    ⟨fun hlate hatomic => horderly.not_bailsLate hlive hlt hemit hatomic hlate,
      horderly.bailsLate hlive hlt hemit horigin.emits_no_barrier⟩
  rw [hatomic, horigin.atomic_iff]
  simp only [not_forall, Builder.ConvertsLate]
  constructor
  · rintro ⟨f, hf, hnative, k, x, hk, hx, hty⟩
    obtain ⟨id, hid, hoperand⟩ := (hresolved.getElem?_args _).1 hx
    rw [Builder.operand?, Builder.facts?, Option.map_map, Option.map_eq_some_iff] at hoperand
    obtain ⟨n, hn, rfl⟩ := hoperand
    exact ⟨f, hf, hnative, k, id, n, hk, hid, hn, hty⟩
  · rintro ⟨f, hf, hnative, k, id, n, hk, hid, hn, hty⟩
    refine ⟨f, hf, hnative, k, { toFacts := n.facts, ref := .node id }, hk, ?_, hty⟩
    refine (hresolved.getElem?_args _).2 ⟨id, hid, ?_⟩
    rw [Builder.operand?, Builder.facts?, hn]
    rfl

end Inliner

/-! ## A call that does -/

/-- Two groups are stored into typed arrays of int32; the index of the second is a double. -/
def Scenario.putTwo : Scenario where
  callee := .function (.ofNative ⟨1⟩ .unsafePutElements)
  args := [.typed .object (some (.singleton { id := ⟨1⟩, objectClass := .typedArray .int32 })),
    .typed .int32 none, .typed .int32 none,
    .typed .object (some (.singleton { id := ⟨1⟩, objectClass := .typedArray .int32 })),
    .typed .double none, .typed .int32 none]
  resultTypes := some (.ofType .undefined)

/-- The second index is converted behind the first store. -/
theorem attempt_bailsLate_putTwo :
    (Scenario.putTwo.attempt {} Scenario.putTwo.builder).result = .ok .inlined ∧
    Scenario.putTwo.builder.BailsLate
      (Scenario.putTwo.attempt {} Scenario.putTwo.builder).builder := by
  have hinlined : (Scenario.putTwo.attempt {} Scenario.putTwo.builder).result = .ok .inlined := by
    decide
  refine ⟨hinlined, (Inliner.attempt_bailsLate_iff hinlined).2 ?_⟩
  exact ⟨_, rfl, rfl, 1, ⟨6⟩, _, Nat.le_refl 1, rfl, rfl, by decide⟩

/-- **Not every specialized call keeps its bailouts in front of its effects.** -/
theorem not_forall_atomic : ¬∀ s : Scenario, (s.attempt {} s.builder).result = .ok .inlined →
    ¬s.builder.BailsLate (s.attempt {} s.builder).builder := by
  intro hall
  refine hall Scenario.putTwo (by decide)
    ⟨⟨10⟩, ⟨11⟩, _, _, by decide, by decide, rfl, rfl, rfl, rfl, ?_⟩
  rintro ⟨⟨kind, hkind⟩, -⟩
  cases hkind

end CallSite
