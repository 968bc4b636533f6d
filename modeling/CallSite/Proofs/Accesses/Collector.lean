import CallSite.Proofs.Accesses.Barriers
import CallSite.Proofs.Denotation

/-!
# Stores tell the collector

Whether a store has to tell the collector depends on what its value may be, and that is known of the
node that is stored: an operand of the call, or the double that it was converted to.  So what the
plans keep to can be said of the graph alone.

* `Graph.Puts`, `Graph.MayHoldObject`, `Graph.IsBarrier` — stores, values and barriers.
* `Graph.NeedsBarrier` — a store that has to tell the collector.
* `Inliner.Emits.exists_barrier`, `Inliner.Emits.exists_store` — a barrier for each such store, and
  such a store for each barrier.
* `Inliner.attempt_tellsCollector` — **every store that needs a barrier has one**, and there are no
  others.
-/

namespace CallSite

/-! ## Graphs -/

namespace Graph

/-- **The node may hold an object**: by its static type, or as a boxed value for which nothing was
observed, or objects were. -/
def MayHoldObject (g : Graph) (id : NodeId) : Prop :=
  ∃ n, g.node? id = some n ∧ (n.ty = .object ∨
    n.ty = .boxed ∧ ∀ t, n.types = some t → ∃ v ∈ t, v.kind = some .object)

/-- **The node puts the value into the object**; elements are viewed by a node at `first` or
later. -/
def Puts (g : Graph) (first : Nat) (n : Node) (object value : NodeId) : Prop :=
  n.op.Puts n.inputs (g.IsNew first) object value

/-- **The node is a barrier** on the object and the value, and stands at `first` or later. -/
def IsBarrier (g : Graph) (first : Nat) (id object value : NodeId) : Prop :=
  g.IsNew first id .postWriteBarrier [object, value]

/-- **The store has to tell the collector** of the value: it is an element that a tenured array
starts with, or what is stored later may be an object. -/
def NeedsBarrier (g : Graph) (tenured : Bool) (n : Node) (value : NodeId) : Prop :=
  if n.op = .initializeElement then tenured = true else g.MayHoldObject value

end Graph

/-- **When a value may be an object.** -/
theorem Facts.needsPostBarrier_iff (f : Facts) : f.needsPostBarrier = true ↔
    f.ty = .object ∨ f.ty = .boxed ∧ ∀ t, f.types = some t → ∃ v ∈ t, v.kind = some .object := by
  rw [needsPostBarrier, mightBe.eq_def]
  cases hty : f.ty with
  | boxed =>
    simp only [Option.all_eq_true, TypeSet.mightBe_iff, reduceCtorEq, false_or, true_and]
    rfl
  | _ => simp

namespace Inliner.Emits

variable {i : Inliner} {b b' : Builder} {call : Call NodeId} {callee : Callee} {r : Call Operand}
  {p : Plan} {x : Sketch} {id : NodeId} {n : Node} {k : Nat} {value : Operand}

/-- A value that is known may be an object iff its node may hold one. -/
lemma mayHoldObject_iff (h : i.Emits b call callee r p b')
    (hvalue : value.Known (i.site r) (p.sketches.take k)) :
    b'.graph.MayHoldObject (p.handle b call value.ref) ↔ value.needsPostBarrier = true := by
  obtain ⟨m, hm, hfacts⟩ := h.node_of_known hvalue
  rw [← hfacts, Facts.needsPostBarrier_iff]
  constructor
  · rintro ⟨m', hm', hholds⟩
    obtain rfl := Option.some.inj (hm.symm.trans hm')
    exact hholds
  · exact fun hholds => ⟨m, hm, hholds⟩

lemma needsBarrier_iff (h : i.Emits b call callee r p b') (hplaces : p.Places b call b' x id n)
    (hvalue : value.Known (i.site r) (p.sketches.take k)) {tenured : Bool} :
    b'.graph.NeedsBarrier tenured n (p.handle b call value.ref) ↔
      x.op.needsBarrier tenured value.toFacts = true := by
  rw [Graph.NeedsBarrier, hplaces.op, Op.needsBarrier]
  split_ifs
  · rfl
  · exact h.mayHoldObject_iff hvalue

/-- A store that is written down puts its value where the plan says. -/
lemma puts (h : i.Emits b call callee r p b') (hplaces : p.Places b call b' x id n)
    {object value : Ref}
    (hputs : x.op.Puts x.inputs (Ref.IsNode (p.sketches.take k)) object value) :
    b'.graph.Puts b.graph.size n (p.handle b call object) (p.handle b call value) := by
  rw [Graph.Puts, hplaces.op, hplaces.inputs]
  exact hputs.map (p.handle b call) fun _ _ _ hnode => h.isNew_of_isNode hnode

/-- The law of the stores, in terms of the call before its operands are looked up. -/
lemma barriered (h : i.Emits b call callee r p b') :
    p.Barriered (i.site r) (i.env.allocatesTenured call.site) := by
  have hsite : r.site = call.site := congrArg Call.site h.resolved.same
  rw [← hsite]
  exact h.origin.barriered

/-- **A store that needs a barrier** has one in front of it. -/
theorem exists_barrier (h : i.Emits b call callee r p b') (hid : b.graph.size ≤ id.index)
    (hn : b'.graph.node? id = some n) (hstore : n.op.storesReference = true) :
    ∃ object value, b'.graph.Puts b.graph.size n object value ∧
      (b'.graph.NeedsBarrier (i.env.allocatesTenured call.site) n value →
        ∃ barrier, barrier.index < id.index ∧
          b'.graph.IsBarrier b.graph.size barrier object value) := by
  rcases h.exists_places hid hn with hcontext | ⟨k, x, rfl, hx, hplaces⟩
  · rw [hcontext] at hstore
    cases hstore
  obtain ⟨object, value, hputs, hvalue, hpending⟩ :=
    (h.barriered.lawful.getElem? hx).2 (hplaces.op ▸ hstore)
  refine ⟨_, _, h.puts hplaces hputs, fun hneeds => ?_⟩
  rw [if_pos ((h.needsBarrier_iff hplaces hvalue).1 hneeds)] at hpending
  obtain ⟨barrier, hlast⟩ := Sketch.exists_isNode_of_pending hpending
  exact ⟨_, h.lt_of_isNode hlast, h.isNew_of_isNode hlast⟩

/-- **A barrier** is in front of a store that needs it. -/
theorem exists_store (h : i.Emits b call callee r p b') {barrier object value : NodeId}
    (hbarrier : b'.graph.IsBarrier b.graph.size barrier object value) :
    ∃ id n, barrier.index < id.index ∧ b'.graph.node? id = some n ∧ n.op ∈ p.ops ∧
      n.op.storesReference = true ∧ b'.graph.Puts b.graph.size n object value ∧
      b'.graph.NeedsBarrier (i.env.allocatesTenured call.site) n value := by
  obtain ⟨hfresh, m, hm, hop, hinputs⟩ := hbarrier
  rcases h.exists_places hfresh hm with hcontext | ⟨k, y, rfl, hy, hplaces⟩
  · exact absurd (hcontext.symm.trans hop) nofun
  obtain ⟨x, hx, hstore, object', value', hsame, hputs, hvalue, hneeds⟩ :=
    h.barriered.exists_store hy (hplaces.op.symm.trans hop)
  obtain ⟨n, hn⟩ := h.places hx
  have hinputs' : [object, value] = [p.handle b call object'.ref, p.handle b call value'.ref] := by
    rw [← hinputs, hplaces.inputs, hsame]
    rfl
  obtain ⟨rfl, hrest⟩ := List.cons.inj hinputs'
  obtain ⟨rfl, -⟩ := List.cons.inj hrest
  refine ⟨_, n, Nat.add_lt_add_left (Nat.lt_succ_self k) _, hn.node, ?_, hn.op ▸ hstore,
    h.puts hn hputs, (h.needsBarrier_iff hn hvalue).2 hneeds⟩
  rw [hn.op]
  refine Plan.mem_ops_of_sketch hx fun hguard => ?_
  rw [hguard] at hstore
  cases hstore

end Inliner.Emits

/-! ## Attempts -/

/-- **Stores tell the collector** of a call that takes the builder from `b` to `b'`; the arrays that
it constructs may be tenured from the start. -/
structure Builder.TellsCollector (b b' : Builder) (tenured : Bool) : Prop where
  /-- Each store that needs a barrier has one in front of it, on the object that it writes and the
  value as it is stored. -/
  told : ∀ id n, b.graph.size ≤ id.index → b'.graph.node? id = some n →
    n.op.storesReference = true → ∃ object value, b'.graph.Puts b.graph.size n object value ∧
      (b'.graph.NeedsBarrier tenured n value → ∃ barrier, barrier.index < id.index ∧
        b'.graph.IsBarrier b.graph.size barrier object value)
  /-- There is no barrier for a value that cannot be an object, unless an array starts with it. -/
  silent : ∀ id n object value, b.graph.size ≤ id.index → b'.graph.node? id = some n →
    n.op.storesReference = true → n.op ≠ .initializeElement →
    b'.graph.Puts b.graph.size n object value → ¬b'.graph.MayHoldObject value →
    ∀ barrier object', ¬b'.graph.IsBarrier b.graph.size barrier object' value
  /-- Each barrier is in front of a store that needs it. -/
  needed : ∀ barrier object value, b'.graph.IsBarrier b.graph.size barrier object value →
    ∃ id n, barrier.index < id.index ∧ b'.graph.node? id = some n ∧
      n.op.storesReference = true ∧ b'.graph.Puts b.graph.size n object value ∧
      b'.graph.NeedsBarrier tenured n value

/-- **Every call that is specialized tells the collector** of what it stores, and of nothing
else. -/
theorem Inliner.attempt_tellsCollector {i : Inliner} {stubs : StubStore} {b : Builder}
    {call : Call NodeId} {callee : Callee}
    (h : (i.attempt stubs b call callee).result = .ok .inlined) :
    b.TellsCollector (i.attempt stubs b call callee).builder
      (i.env.allocatesTenured call.site) := by
  obtain ⟨r, p, hemits⟩ := exists_emits h
  refine ⟨fun id n => hemits.exists_barrier, ?_, fun barrier object value hbarrier => ?_⟩
  · intro id n object value hid hn hstore hop _ hholds barrier object' hbarrier
    obtain ⟨id', n', -, -, hmem, -, -, hneeds⟩ := hemits.exists_store hbarrier
    rw [Graph.NeedsBarrier] at hneeds
    split_ifs at hneeds with hinitial
    · -- a barrier for an element that an array starts with, where a later store is made
      refine hop (Callee.eq_initializeElement (hinitial ▸ hemits.origin.emits _ hmem) ?_ hstore)
      rcases Plan.op_of_new hemits.live hemits.resolved.lt_size hemits.emit hid hn with
        hcontext | hguard | hmem'
      · rw [hcontext] at hstore
        cases hstore
      · rw [hguard] at hstore
        cases hstore
      · exact hemits.origin.emits _ hmem'
    · exact hholds hneeds
  · obtain ⟨id, n, hlt, hn, -, hrest⟩ := hemits.exists_store hbarrier
    exact ⟨id, n, hlt, hn, hrest⟩

/-- An object is stored into a slot. -/
def Scenario.setSlot : Scenario where
  callee := .function (.ofNative ⟨1⟩ .unsafeSetReservedSlot)
  args := [.typed .object none, .constant (.int32 0), .typed .object none]
  resultTypes := some (.ofType .undefined)

/-- The collector is told of it, and of nothing else. -/
theorem attempt_tellsCollector_setSlot :
    (Scenario.setSlot.attempt {} Scenario.setSlot.builder).result = .ok .inlined ∧
    (∃ barrier, barrier.index < 6 ∧
      (Scenario.setSlot.attempt {} Scenario.setSlot.builder).builder.graph.IsBarrier 5 barrier ⟨2⟩
        ⟨4⟩) ∧
    ∀ barrier object value,
      (Scenario.setSlot.attempt {} Scenario.setSlot.builder).builder.graph.IsBarrier 5 barrier
        object value →
      (Scenario.setSlot.attempt {} Scenario.setSlot.builder).builder.graph.MayHoldObject value := by
  have hinlined : (Scenario.setSlot.attempt {} Scenario.setSlot.builder).result = .ok .inlined := by
    decide
  obtain ⟨htold, -, hneeded⟩ := Inliner.attempt_tellsCollector hinlined
  refine ⟨hinlined, ?_, fun barrier object value hbarrier => ?_⟩
  · obtain ⟨object, value, hputs, hneeds⟩ := htold ⟨6⟩ _ (by decide) rfl rfl
    cases hputs with
    | direct _ hinputs =>
      obtain ⟨rfl, hrest⟩ := List.cons.inj hinputs
      obtain ⟨rfl, -⟩ := List.cons.inj hrest
      exact hneeds ⟨_, rfl, .inl rfl⟩
    | element _ hinputs => cases hinputs
  · obtain ⟨id, n, -, hn, hstore, -, hneeds⟩ := hneeded barrier object value hbarrier
    rw [Graph.NeedsBarrier] at hneeds
    split_ifs at hneeds with hinitial
    · cases hneeds
    · exact hneeds

end CallSite
