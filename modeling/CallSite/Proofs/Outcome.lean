import CallSite.Proofs.Guards
import CallSite.Proofs.Requests

/-!
# What becomes of a call

A plan that does without the fork-join context puts its nodes at the end of the graph, so what
becomes of its call can be written down in full: the nodes that are new, one after the other, and
which of them is left on the stack.  That is the form in which a specialization is read off the plan
that it rests on.

* `Builder.Becomes` — **the nodes that a call becomes**, and the value that it leaves.
* `Builder.Folds` — the call becomes a constant.
* `Registry.getter?_of_call?` — a native is specialized as a call or as a getter, never as both.
* `Inliner.Emits.decide_eq_ok`, `Inliner.inlined_of_decide` — **a call is specialized as its
  specializer decides**.
* `Inliner.Emits.stack_of_unguarded`, `Inliner.Emits.becomes_of_push`,
  `Inliner.Emits.becomes_of_guard` — the ways in which a plan can end.
-/

namespace CallSite

/-- **What a call becomes** that takes the builder from `b` to `b'`: these nodes are added, in
order, and this value is left on the stack. -/
structure Builder.Becomes (b b' : Builder) (nodes : List Blueprint) (left : NodeId) : Prop where
  added : (b'.graph.since b.graph.size).map Node.blueprint = nodes
  stack : b'.stack = b.stack ++ [left]

namespace Builder.Becomes

variable {b b' : Builder} {nodes : List Blueprint} {left : NodeId}

/-- The `k`-th node. -/
lemma node? (h : b.Becomes b' nodes left) (k : Nat) :
    (b'.graph.node? ⟨b.graph.size + k⟩).map Node.blueprint = nodes[k]? := by
  rw [← h.added, List.getElem?_map, Graph.getElem?_since]

/-- Every new node is one of these. -/
lemma mem (h : b.Becomes b' nodes left) {n : Node} (hn : n ∈ b'.graph.since b.graph.size) :
    n.blueprint ∈ nodes :=
  h.added ▸ List.mem_map_of_mem hn

/-- Each of these is a new node. -/
lemma exists_of_mem (h : b.Becomes b' nodes left) {n : Blueprint} (hn : n ∈ nodes) :
    ∃ m ∈ b'.graph.since b.graph.size, m.blueprint = n := by
  rw [← h.added] at hn
  exact List.mem_map.1 hn

end Builder.Becomes

/-- **The call becomes a constant.** -/
def Builder.Folds (b b' : Builder) (c : Constant) : Prop :=
  b.Becomes b' [⟨.constant c, [], c.valueType, none⟩] ⟨b.graph.size⟩

/-- A call becomes one constant at most. -/
lemma Builder.Folds.unique {b b' : Builder} {c d : Constant} (hc : b.Folds b' c)
    (hd : b.Folds b' d) : c = d := by
  have hadded := hc.added.symm.trans hd.added
  simp only [List.cons.injEq, Blueprint.mk.injEq, Op.constant.injEq] at hadded
  exact hadded.1.1

/-! ## Decisions -/

/-- **A native with a specializer for calls** has none as a getter. -/
theorem Registry.getter?_of_call? {native : Native} {q : Specializer}
    (h : call? native = some q) : getter? native = none := by
  fun_cases getter? native
  · cases h
  · cases h
  · rfl

/-! ## Steps -/

/-- As many nodes are described as the progress counts. -/
lemma Step.AdvancesAll.length_sketches {scope : List Ref} {σ σ' : Progress} {steps : List Step}
    (h : AdvancesAll scope σ steps σ') :
    σ'.added = σ.added + (steps.filterMap Step.sketch?).length := by
  have hblueprints : steps.filterMap (blueprint? 0 ⟨0⟩) =
      (steps.filterMap Step.sketch?).map (·.resolve 0 ⟨0⟩) := by
    rw [List.map_filterMap]
    exact congrArg (List.filterMap · steps) (funext fun s => s.blueprint?_eq _ _)
  rw [h.length_blueprints 0 ⟨0⟩, hblueprints, List.length_map]

namespace Plan

variable {p : Plan} {b : Builder} {call : Call NodeId}

lemma contextBlueprints_of (hcontext : p.usesContext = false) : p.contextBlueprints b = [] := by
  rw [contextBlueprints, hcontext]
  rfl

/-- Without the fork-join context the nodes are numbered from the end of the graph on. -/
lemma size_opened_of (hcontext : p.usesContext = false) :
    (p.opened b call).2.builder.graph.size = b.graph.size := by
  rw [size_opened, contextBlueprints_of hcontext]
  rfl

end Plan

namespace Inliner

variable {i : Inliner} {stubs : StubStore} {b b' : Builder} {call : Call NodeId}
  {f : FunctionObject} {native : Native} {q : Specializer} {r : Call Operand} {p : Plan}

/-- **A call that is replaced** has the plan that its specializer decides on. -/
theorem Emits.decide_eq_ok (h : i.Emits b call (.function f) r p b')
    (hf : f.native? = some native) (hcall : Registry.call? native = some q) :
    q.decide f (i.site r) = .ok p := by
  cases h.origin with
  | native hnative hfind hdecide =>
    obtain rfl := Option.some.inj (hf.symm.trans hnative)
    rw [Registry.find?_call hfind (Registry.getter?_of_call? hcall)] at hfind
    obtain rfl := Option.some.inj (hcall.symm.trans hfind)
    exact hdecide

/-- The decision about an explicit call of a native is that of its specializer. -/
lemma decide_native (hf : f.native? = some native) (hcall : Registry.call? native = some q)
    (hkind : r.kind = .call) (hnatives : i.config.inlineNatives = true)
    (hargc : r.argc ≤ i.config.maxCallArgs.toNat) :
    i.decide r (.function f) = ([.dispatch native q.label], q.decide f (i.site r)) := by
  rw [(decide_of_argc_le hnatives hargc).1, decideFunction, hf]
  dsimp only
  rw [show (i.site r).call.kind = .call from hkind, Registry.find?, hcall]

/-- **An explicit call of a native is specialized** if its specializer comes to a plan. -/
theorem inlined_of_decide (hlive : b.isDead call.site = false) (hr : resolveOperands b call = .ok r)
    (hf : f.native? = some native) (hcall : Registry.call? native = some q)
    (hkind : call.kind = .call) (hnatives : i.config.inlineNatives = true)
    (hargc : call.argc ≤ i.config.maxCallArgs.toNat)
    (hdecide : q.decide f (i.site r) = .ok p) (hstub : p.stub = none) :
    (i.attempt stubs b call (.function f)).result = .ok .inlined := by
  have hresolved := resolved_of_eq_ok hr
  have hdecided := decide_native hf hcall (hresolved.kind_eq.trans hkind) hnatives
    (hresolved.argc_eq ▸ hargc)
  rw [hdecide] at hdecided
  obtain ⟨b', -, hattempt⟩ := exists_attempt_eq hlive hr hdecided (by rw [hstub]; rfl)
  rw [hattempt]

/-! ## Emissions -/

/-- **A plan without guards** leaves what it pushes. -/
theorem Emits.stack_of_unguarded {callee : Callee} (h : i.Emits b call callee r p b') {v : Ref}
    (hpush : .push v ∈ p.steps)
    (hunguarded : ∀ x ∈ p.sketches, ∀ kind, x.op ≠ .typeBarrier kind) :
    b'.stack = b.stack ++
      [v.resolve (p.opened b call).2.builder.graph.size (p.opened b call).1] := by
  obtain ⟨σ, hsteps, hσ⟩ := h.orderly
  obtain ⟨w, hw, ⟨-, hstack⟩ | ⟨before, observed, hguard, -⟩⟩ :=
    Plan.left_of_emit h.live h.resolved.lt_size h.emit hsteps hσ
  · obtain rfl := Option.some.inj ((hsteps.pushed_of_mem hpush).symm.trans hw)
    exact hstack
  · have hmem : (⟨.typeBarrier .typeSet, [w], observed.knownType, some observed⟩ : Sketch) ∈
        p.sketches := by
      refine List.mem_filterMap.2 ⟨.guardTop w observed, ?_, rfl⟩
      rw [hguard]
      exact List.mem_append_right _ (List.mem_singleton_self _)
    exact absurd rfl (hunguarded _ hmem .typeSet)

namespace Emits

variable {callee : Callee} (h : i.Emits b call callee r p b') (hcontext : p.usesContext = false)
include h hcontext

/-- The new nodes are those that the plan describes. -/
lemma blueprints_since : (b'.graph.since b.graph.size).map Node.blueprint =
    p.sketches.map (·.resolve b.graph.size (p.opened b call).1) := by
  rw [Plan.blueprints_since h.live h.resolved.lt_size h.emit, Plan.blueprints_eq_map,
    Plan.contextBlueprints_of hcontext, List.nil_append, Plan.size_opened_of hcontext]

/-- **A plan that does not end in a guard** leaves what it pushes. -/
theorem becomes_of_push {v : Ref} (hpush : .push v ∈ p.steps)
    (hlast : p.steps.getLast?.any Step.isGuard = false) :
    ∃ context, b.Becomes b' (p.sketches.map (·.resolve b.graph.size context))
      (v.resolve b.graph.size context) := by
  refine ⟨(p.opened b call).1, h.blueprints_since hcontext, ?_⟩
  obtain ⟨σ, hsteps, hσ⟩ := h.orderly
  obtain ⟨w, hw, ⟨-, hstack⟩ | ⟨before, observed, hall, -⟩⟩ :=
    Plan.left_of_emit h.live h.resolved.lt_size h.emit hsteps hσ
  · obtain rfl := Option.some.inj ((hsteps.pushed_of_mem hpush).symm.trans hw)
    rw [hstack, Plan.size_opened_of hcontext]
  · rw [hall, List.getLast?_concat] at hlast
    cases hlast

/-- **A plan that ends in a guard** leaves that, its last node. -/
theorem becomes_of_guard {v : Ref} {observed : TypeSet}
    (hguard : p.steps.getLast? = some (.guardTop v observed)) :
    ∃ context, b.Becomes b' (p.sketches.map (·.resolve b.graph.size context))
      ⟨b.graph.size + (p.sketches.length - 1)⟩ := by
  refine ⟨(p.opened b call).1, h.blueprints_since hcontext, ?_⟩
  obtain ⟨σ, hsteps, hσ⟩ := h.orderly
  obtain ⟨w, hw, ⟨hquiet, -⟩ | ⟨before, observed', hall, -, σ₁, hbefore, hstack⟩⟩ :=
    Plan.left_of_emit h.live h.resolved.lt_size h.emit hsteps hσ
  · cases hquiet _ (List.mem_of_getLast? hguard)
  · have hcount : p.sketches.length = σ₁.added + 1 := by
      rw [hbefore.length_sketches, Plan.sketches, hall, List.filterMap_append, List.length_append,
        Nat.zero_add]
      rfl
    rw [hstack, Plan.size_opened_of hcontext, hcount]
    rfl

end Emits

/-- **A plan that pushes a constant** makes the call that constant. -/
theorem Emits.folds {callee : Callee} {c : Constant}
    (h : i.Emits b call callee r (.of (Draft.pushConstant c)) b') : b.Folds b' c := by
  obtain ⟨_, hbecomes⟩ := h.becomes_of_push rfl (List.mem_of_getLast? rfl) rfl
  exact hbecomes

end Inliner

end CallSite
