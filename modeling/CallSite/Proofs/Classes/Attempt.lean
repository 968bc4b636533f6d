import CallSite.Proofs.Classes.Memory
import CallSite.Proofs.Guards
import CallSite.Proofs.Operations.Order

/-!
# Specialized operations see operands of their class only

An operation that is compiled for objects of one class reads them without looking at their class.
So whatever a call is specialized to, such an operation has to work on an operand of the call of
which that class is known.

* `Native.presumes` — the natives whose operations presume something of an operand.
* `Inliner.Origin.suited` — **in every plan the operands suit the operations**.
* `Graph.WorksOn` — an input is an operand of the call, or one of the views of it that were added.
* `Inliner.attempt_suits` — so they do in the graph after an attempt that replaces its call.
-/

namespace CallSite

open Sketch (Suited suited_of_quiet)

/-! ## Plans -/

/-- Calls of the native are specialized to operations that presume something of an operand. -/
def Native.presumes (n : Native) : Bool :=
  n.isAtomicAccess || n matches arrayPop | arrayShift | arrayPush | arrayConcat | arrayJoin
    | arraySplice | regExpExec | regExpTest | unsafePutElements | setTypedObjectOffset
    | typedArrayLengthGetter _ | sharedTypedArrayLengthGetter _

lemma Native.presumes_of_mayEmit {n : Native} {op : Op} (h : n.mayEmit op = true)
    (hop : op.presumedInputs ≠ 0) : n.presumes = true := by
  cases op <;> first
    | exact absurd rfl hop
    | cases n <;> first | rfl | cases h

/-- Only an atomic access both measures an array and accesses it. -/
lemma Native.isAtomicAccess_of_mayEmit {n : Native} {op : Op}
    (hlength : n.mayEmit .typedArrayLength = true) (h : n.mayEmit op = true)
    (hop : op.isTypedAccess = true) : n.isAtomicAccess = true := by
  cases op <;> first
    | (cases hop; done)
    | cases n <;> first | rfl | cases h | cases hlength

namespace Registry

/-- **An atomic access works on one array.** -/
theorem find?_accessesOne {kind : CallKind} {native : Native} {p : Specializer}
    (h : find? kind native = some p) (hatomic : native.isAtomicAccess = true) (f : FunctionObject)
    (s : Site) : (p.decide f s).Yields (TypedMemory.AccessesOne s) := by
  have hgetter : getter? native = none := by
    cases native <;> first | rfl | cases hatomic
  rw [find?_call h hgetter] at h
  cases native
  case atomicsCompareExchange =>
    cases h
    exact TypedMemory.compareExchange_lawful s
  case atomicsLoad =>
    cases h
    exact TypedMemory.load_lawful s
  case atomicsStore =>
    cases h
    exact TypedMemory.store_lawful s
  case atomicsAdd | atomicsSub | atomicsAnd | atomicsOr | atomicsXor =>
    cases h
    exact TypedMemory.update_lawful _ s
  all_goals cases hatomic

/-- **The specializers of the other natives that presume something** check it, too. -/
theorem find?_suited {kind : CallKind} {native : Native} {p : Specializer}
    (h : find? kind native = some p) (hpresumes : native.presumes = true) (f : FunctionObject)
    (s : Site) : (p.decide f s).Yields (Plan.Lawful (Suited s)) := by
  cases hatomic : native.isAtomicAccess with
  | true =>
    refine (find?_accessesOne h hatomic f s).mono fun q hq => ?_
    obtain ⟨array, -, hlawful⟩ := hq
    exact hlawful.mono fun _ _ hx => hx.1
  | false =>
    cases kind with
    | getter =>
      cases native
      case typedArrayLengthGetter element =>
        cases h
        exact TypedMemory.length_suited false element s
      case sharedTypedArrayLengthGetter element =>
        cases h
        exact TypedMemory.length_suited true element s
      all_goals cases h
    | call =>
      cases native
      case arrayPop | arrayShift =>
        cases h
        exact ArrayUpdate.remove_suited _ s
      case arrayPush =>
        cases h
        exact ArrayUpdate.push_suited s
      case arrayConcat =>
        cases h
        exact ArrayCreation.concat_suited s
      case arrayJoin =>
        cases h
        exact ArrayUpdate.join_suited s
      case arraySplice =>
        cases h
        exact ArrayUpdate.splice_suited s
      case regExpExec =>
        cases h
        exact RegExps.exec_suited s
      case regExpTest =>
        cases h
        exact RegExps.test_suited s
      case unsafePutElements =>
        cases h
        exact ElementStore.putElements_suited s
      case setTypedObjectOffset =>
        cases h
        exact TypedMemory.setOffset_suited s
      case typedArrayLengthGetter | sharedTypedArrayLengthGetter => cases h
      all_goals first
        | (cases hpresumes; done)
        | cases hatomic

end Registry

namespace Inliner

/-- **In every plan the operands suit the operations.** -/
theorem Origin.suited {s : Site} {p : Plan} {callee : Callee} (h : Origin s p callee) :
    p.Lawful (Suited s) := by
  rcases h.emits_or_exists_native (Op.presumedInputs · = 0) (fun _ => rfl) (fun _ => rfl) with
    hquiet | ⟨f, native, specializer, op, hfind, hdecide, hemits, hpresumed⟩
  · refine Plan.lawful_of_emits hquiet (fun _ _ => suited_of_quiet) fun _ x hx => ?_
    exact suited_of_quiet (by rw [hx]; rfl)
  · have hpresumes := Native.presumes_of_mayEmit hemits hpresumed
    exact Registry.find?_suited hfind hpresumes f s p hdecide

/-- **A plan that measures an array and accesses one** does both with the same. -/
theorem Origin.accessesOne {s : Site} {p : Plan} {callee : Callee} (h : Origin s p callee) {op : Op}
    (hlength : .typedArrayLength ∈ p.ops) (hop : op ∈ p.ops) (haccess : op.isTypedAccess = true) :
    TypedMemory.AccessesOne s p := by
  cases h with
  | @descriptor d hdecide =>
    have hquiet : op.isTypedAccess = false :=
      TypedMemory.construct_emits (S := (Op.isTypedAccess · = false)) s d (fun _ => rfl)
        (fun _ => rfl) p hdecide op hop
    rw [haccess] at hquiet
    cases hquiet
  | @native f native specializer hnative hfind hdecide =>
    have hemits := Registry.find?_emits hfind f s p hdecide
    have hatomic := Native.isAtomicAccess_of_mayEmit (hemits _ hlength) (hemits _ hop) haccess
    exact Registry.find?_accessesOne hfind hatomic f s p hdecide

end Inliner

/-! ## Graphs -/

/-- **The input is the operand, or a view of it** that stands at `first` or later. -/
def Graph.WorksOn (g : Graph) (first : Nat) (input operand : NodeId) : Prop :=
  input = operand ∨ ∃ n, first ≤ input.index ∧ g.node? input = some n ∧ n.op.isView = true ∧
    n.inputs.head? = some operand

/-- What stands for an operand in the plan works on it in the graph. -/
lemma Plan.worksOn_of_standsFor {p : Plan} {b b' : Builder} {call : Call NodeId}
    (hlive : b.isDead call.site = false) (hops : ∀ id ∈ call.operands, id.index < b.graph.size)
    (h : p.emit b call = .ok b') {k : Nat} {r : Ref} {operand : NodeId}
    (hstands : r.StandsFor (p.sketches.take k) (.node operand)) :
    b'.graph.WorksOn b.graph.size
      (r.resolve (p.opened b call).2.builder.graph.size (p.opened b call).1) operand := by
  rcases hstands with rfl | ⟨j, x, rfl, hx, hview, hhead⟩
  · exact .inl rfl
  · have hsize := p.size_opened b call
    have hx' : p.sketches[j]? = some x := by
      rw [List.getElem?_take] at hx
      split at hx
      · exact hx
      · cases hx
    obtain ⟨n, hn, hblueprint⟩ := node_of_sketch hlive hops h hx'
    have hop : n.op = x.op := congrArg Blueprint.op hblueprint
    have hinputs : n.inputs = x.inputs.map _ := congrArg Blueprint.inputs hblueprint
    refine .inr ⟨n, ?_, hn, hop ▸ hview, ?_⟩
    · show _ ≤ _ + j
      omega
    · rw [hinputs, List.head?_map, hhead]
      rfl

namespace Inliner

/-- An operand that is looked up is what is known of a node. -/
lemma Resolved.exists_facts {b : Builder} {call : Call NodeId} {r : Call Operand}
    (h : Resolved b call r) {o : Operand} (ho : o ∈ r.operands) :
    ∃ id ∈ call.operands, ∃ n, b.graph.node? id = some n ∧ o.ref = .node id ∧
      n.facts = o.toFacts := by
  obtain ⟨id, hid, hoperand⟩ := exists_mem_of_forall₂ h.operands.flip ho
  obtain ⟨f, hf, rfl⟩ := Option.map_eq_some_iff.1 hoperand
  obtain ⟨n, hn, rfl⟩ := Option.map_eq_some_iff.1 hf
  exact ⟨id, hid, n, hn, rfl, rfl⟩

namespace Emits

variable {i : Inliner} {b b' : Builder} {call : Call NodeId} {callee : Callee} {r : Call Operand}
  {p : Plan} {id : NodeId} {n : Node}

/-- An input of which a new node presumes something stands for an operand that suits the node. -/
lemma suits (h : i.Emits b call callee r p b') (hid : b.graph.size ≤ id.index)
    (hn : b'.graph.node? id = some n) {position : Nat} (hlt : position < n.op.presumedInputs) :
    ∃ input operand m, n.inputs[position]? = some input ∧
      b'.graph.WorksOn b.graph.size input operand ∧ operand ∈ call.operands ∧
      b.graph.node? operand = some m ∧ m.facts.Suits n.op := by
  have hops := h.resolved.lt_size
  rcases Plan.sketch_of_new h.live hops h.emit hid hn with hcontext | ⟨k, x, rfl, hx, hblueprint⟩
  · rw [hcontext] at hlt
    cases hlt
  have hop : n.op = x.op := congrArg Blueprint.op hblueprint
  have hinputs : n.inputs = x.inputs.map _ := congrArg Blueprint.inputs hblueprint
  rw [hop] at hlt ⊢
  obtain ⟨input, o, hinput, ho, hstands, hsuits⟩ := h.origin.suited.getElem? hx position hlt
  obtain ⟨operand, hoperand, m, hm, href, hfacts⟩ := h.resolved.exists_facts ho
  rw [href] at hstands
  refine ⟨_, operand, m, ?_, Plan.worksOn_of_standsFor h.live hops h.emit hstands, hoperand, hm, ?_⟩
  · rw [hinputs, List.getElem?_map, hinput]
    rfl
  · rw [hfacts]
    exact hsuits

/-- Where a call measures a typed array, all that it accesses is that array. -/
lemma measures (h : i.Emits b call callee r p b') (hid : b.graph.size ≤ id.index)
    (hn : b'.graph.node? id = some n) (haccess : n.op.isTypedAccess = true) {id' : NodeId}
    {n' : Node} (hid' : b.graph.size ≤ id'.index) (hn' : b'.graph.node? id' = some n')
    (hlength : n'.op = .typedArrayLength) :
    ∃ array ∈ call.operands, ∃ input, n'.inputs = [array] ∧ n.inputs.head? = some input ∧
      b'.graph.WorksOn b.graph.size input array := by
  have hops := h.resolved.lt_size
  rcases Plan.sketch_of_new h.live hops h.emit hid hn with hcontext | ⟨k, x, rfl, hx, hblueprint⟩
  · rw [hcontext] at haccess
    cases haccess
  rcases Plan.sketch_of_new h.live hops h.emit hid' hn' with
    hcontext | ⟨k', x', rfl, hx', hblueprint'⟩
  · rw [hlength] at hcontext
    cases hcontext
  have hop : n.op = x.op := congrArg Blueprint.op hblueprint
  have hinputs : n.inputs = x.inputs.map _ := congrArg Blueprint.inputs hblueprint
  have hop' : n'.op = x'.op := congrArg Blueprint.op hblueprint'
  have hinputs' : n'.inputs = x'.inputs.map _ := congrArg Blueprint.inputs hblueprint'
  rw [hop] at haccess
  rw [hop'] at hlength
  have hmeasures : .typedArrayLength ∈ p.ops :=
    hlength ▸ Plan.mem_ops_of_sketch hx' (by rw [hlength]; nofun)
  have haccesses : x.op ∈ p.ops :=
    Plan.mem_ops_of_sketch hx (by rintro hguard; rw [hguard] at haccess; cases haccess)
  obtain ⟨o, ho, hlawful⟩ := h.origin.accessesOne hmeasures haccesses haccess
  obtain ⟨array, harray, m, -, href, -⟩ := h.resolved.exists_facts ho
  have hmeasured := (hlawful.getElem? hx').2.1 hlength
  obtain ⟨input, hinput, hstands⟩ := (hlawful.getElem? hx).2.2 haccess
  rw [href] at hmeasured hstands
  refine ⟨array, harray, _, ?_, ?_, Plan.worksOn_of_standsFor h.live hops h.emit hstands⟩
  · rw [hinputs', hmeasured]
    rfl
  · rw [hinputs, List.head?_map, hinput]
    rfl

end Emits

/-- **Specialized operations see operands of their class only.**  Every new node whose operation
presumes something of an input works there on an operand of the call that suits it; and where a
typed array is measured and one is accessed, both are the same operand. -/
theorem attempt_suits {i : Inliner} {stubs : StubStore} {b : Builder} {call : Call NodeId}
    {callee : Callee} (h : (i.attempt stubs b call callee).result = .ok .inlined) {id : NodeId}
    {n : Node} (hid : b.graph.size ≤ id.index)
    (hn : (i.attempt stubs b call callee).builder.graph.node? id = some n) :
    (∀ position < n.op.presumedInputs, ∃ input operand m, n.inputs[position]? = some input ∧
      (i.attempt stubs b call callee).builder.graph.WorksOn b.graph.size input operand ∧
      operand ∈ call.operands ∧ b.graph.node? operand = some m ∧ m.facts.Suits n.op) ∧
    (n.op.isTypedAccess = true → ∀ id' n', b.graph.size ≤ id'.index →
      (i.attempt stubs b call callee).builder.graph.node? id' = some n' →
      n'.op = .typedArrayLength → ∃ array ∈ call.operands, ∃ input,
        n'.inputs = [array] ∧ n.inputs.head? = some input ∧
        (i.attempt stubs b call callee).builder.graph.WorksOn b.graph.size input array) := by
  obtain ⟨r, p, hemits⟩ := exists_emits h
  refine ⟨fun position hlt => hemits.suits hid hn hlt, fun haccess id' n' hid' hn' hlength => ?_⟩
  exact hemits.measures hid hn haccess hid' hn' hlength

end Inliner

/-! ## An access to a shared array -/

/-- An element is loaded from a shared array of int32. -/
def Scenario.sharedLoad : Scenario where
  callee := .function (.ofNative ⟨1⟩ .atomicsLoad)
  args := [.typed .object
      (some (.singleton { id := ⟨1⟩, objectClass := .sharedTypedArray .int32 })),
    .typed .int32 none]
  resultTypes := some (.ofType .int32)

/-- The load works on an operand that is known to be such an array, and it is the one whose length
was measured. -/
theorem attempt_suits_sharedLoad :
    (Scenario.sharedLoad.attempt {} Scenario.sharedLoad.builder).result = .ok .inlined ∧
    (∃ input operand m,
      (Scenario.sharedLoad.attempt {} Scenario.sharedLoad.builder).builder.graph.WorksOn 4 input
        operand ∧
      Scenario.sharedLoad.builder.graph.node? operand = some m ∧
      m.facts.Suits (.loadTypedElement .int32 .seqCst)) ∧
    ∃ array ∈ Scenario.sharedLoad.call.operands, ∃ input,
      (Scenario.sharedLoad.attempt {} Scenario.sharedLoad.builder).builder.graph.WorksOn 4 input
        array := by
  have hinlined : (Scenario.sharedLoad.attempt {} Scenario.sharedLoad.builder).result =
      .ok .inlined := by
    decide
  obtain ⟨hsuits, hmeasures⟩ :=
    @Inliner.attempt_suits _ _ _ _ _ hinlined ⟨7⟩ _ (by decide) rfl
  obtain ⟨input, operand, m, -, hworks, -, hm, hm'⟩ := hsuits 0 (by decide)
  obtain ⟨array, harray, input', -, -, hworks'⟩ := hmeasures rfl ⟨4⟩ _ (by decide) rfl rfl
  exact ⟨hinlined, ⟨input, operand, m, hworks, hm, hm'⟩, array, harray, input', hworks'⟩

end CallSite
