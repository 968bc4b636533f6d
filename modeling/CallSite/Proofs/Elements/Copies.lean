import CallSite.Proofs.Elements.AllOrNothing

/-!
# Elements that are written in place

Arrays may share their elements until one of them is written.  Appending to an array and removing
from it therefore go through a node that copies shared elements first.  A bulk store does not: it
takes the elements of the object as they are, so what it writes is written for all arrays that share
them.

* `Sketch.WritesElements` — the law: what the nodes of a plan write elements of.
* `Builder.WritesCopies` — **elements are written on a copy only**.
* `Inliner.attempt_writesCopies_iff` — **this is so unless the call stores in bulk**, into a dense
  vector.
* `not_forall_writesCopies` — and then it is not.
-/

namespace CallSite

/-! ## Operations -/

/-- The operation appends to an array or removes from it. -/
def Op.updatesArray : Op → Bool
  | arrayPush | arrayRemove .. => true
  | _ => false

/-- The operation stores into a vector of elements. -/
def Op.storesElement : Op → Bool
  | storeElement _ => true
  | _ => false

/-- The operation writes the elements of an array that is there already. -/
def Op.writesElements (op : Op) : Bool := op.updatesArray || op.storesElement

lemma Op.writesElements_eq_false {op : Op} (h : op.writesElements = false) :
    op.updatesArray = false ∧ op.storesElement = false :=
  Bool.or_eq_false_iff.1 h

/-! ## Plans -/

/-- **What a node writes elements of**, given the nodes before it: an update works on a copy of the
receiver, a store on the elements of an argument. -/
structure Sketch.WritesElements (s : Site) (before : List Sketch) (x : Sketch) : Prop where
  updates : x.op.updatesArray = true → ∃ copy, x.inputs.head? = some copy ∧
    copy.IsNode before .maybeCopyElementsForWrite [s.receiver.ref]
  stores : x.op.storesElement = true → ∃ elements, x.inputs.head? = some elements ∧
    ∃ a ∈ s.args, elements.IsNode before .elements [a.ref]

namespace Sketch

variable {s : Site} {before : List Sketch} {x : Sketch}

lemma writesElements_of_quiet (h : x.op.writesElements = false) : x.WritesElements s before := by
  obtain ⟨hupdates, hstores⟩ := Op.writesElements_eq_false h
  refine ⟨fun hupdate => ?_, fun hstore => ?_⟩
  · cases hupdate.symm.trans hupdates
  · cases hstore.symm.trans hstores

lemma writesElements_of_update (hop : x.op.storesElement = false) {copy : Ref}
    (hhead : x.inputs.head? = some copy)
    (hcopy : copy.IsNode before .maybeCopyElementsForWrite [s.receiver.ref]) :
    x.WritesElements s before := by
  refine ⟨fun _ => ⟨copy, hhead, hcopy⟩, fun hstore => ?_⟩
  cases hstore.symm.trans hop

end Sketch

namespace ArrayUpdate

open Draft (writes_bind writes_add writes_add_known writes_push writes_resumeAfter writes_guardTop
  writes_effectfulResult)
open Sketch (writesElements_of_quiet writesElements_of_update)

lemma push_writesElements (s : Site) :
    (push s).Yields (Plan.Lawful (Sketch.WritesElements s)) := by
  simp only [push, Decide.yields_bind, Decide.yields_pure]
  intro _ _ array _ value _ _ _ _ _ _ _
  refine Plan.lawful_of_writes rfl ?_
  refine (stored_appends (fun _ _ _ _ => writesElements_of_quiet rfl) _ value).then
    fun stored _ _ => writes_bind ?_
  refine writes_add_known (writesElements_of_quiet rfl) fun object _ hobject => ?_
  refine (postBarrier_appends (fun _ _ _ _ => writesElements_of_quiet rfl) object stored).then
    fun _ after hafter => ?_
  exact writes_effectfulResult
    (writesElements_of_update rfl rfl (hobject.mono hafter).isNode) trivial

lemma remove_writesElements (side : RemovalSide) (s : Site) :
    (remove side s).Yields (Plan.Lawful (Sketch.WritesElements s)) := by
  simp only [remove, Decide.yields_bind, Decide.yields_pure]
  intro _ _ array _ _ _
  refine Plan.lawful_of_writes rfl (writes_bind ?_)
  refine writes_add_known (writesElements_of_quiet rfl) fun object _ hobject => ?_
  refine writes_bind (writes_add (writesElements_of_update rfl rfl hobject.isNode) ?_)
  refine writes_bind (writes_push (writes_bind (writes_resumeAfter ?_)))
  exact writes_guardTop (writesElements_of_quiet rfl) (fun _ => trivial) fun _ => trivial

end ArrayUpdate

/-- **The stores of a bulk store** go through the elements of the objects. -/
theorem ElementStore.putElements_writesElements (s : Site) :
    (putElements s).Yields (Plan.Lawful (Sketch.WritesElements s)) := by
  intro p hp
  obtain ⟨-, ds, hds, -, rfl⟩ := putElements_eq_ok_iff.1 hp
  refine (bulk_lawful ds).mono fun before x hx => ?_
  cases hwrites : x.op.writesElements with
  | false => exact Sketch.writesElements_of_quiet hwrites
  | true =>
    have heffectful : x.op.isEffectful = true := by
      cases hop : x.op <;> rw [hop] at hwrites <;> first | rfl | cases hwrites
    obtain ⟨⟨g, write, facts⟩, hd, index, value, -, -, hstores⟩ := hx.turn heffectful
    have hg : g ∈ groups s.args := hds ▸ List.mem_map_of_mem (List.mem_of_getElem? hd)
    obtain ⟨hobject, -, -⟩ := mem_of_mem_groups s.args g hg
    cases hstores with
    | @dense elements _ hop hinputs helements =>
      refine ⟨fun h => ?_, fun _ => ⟨elements, by rw [hinputs]; rfl, g.object, hobject, helements⟩⟩
      rw [hop] at h
      cases h
    | typedArray hop =>
      rw [hop] at hwrites
      cases hwrites
    | typedObject hop =>
      rw [hop] at hwrites
      cases hwrites

/-! ## All plans -/

/-- Calls of the native are specialized to writes of elements. -/
def Native.writesElements (n : Native) : Bool :=
  n matches arrayPush | arrayPop | arrayShift | unsafePutElements

lemma Native.writesElements_of_mayEmit {n : Native} {op : Op} (h : n.mayEmit op = true)
    (hop : op.writesElements = true) : n.writesElements = true := by
  cases op <;> first
    | (cases hop; done)
    | cases n <;> first | rfl | cases h

lemma Registry.find?_writesElements {kind : CallKind} {native : Native} {p : Specializer}
    (h : find? kind native = some p) (hwrites : native.writesElements = true) (f : FunctionObject)
    (s : Site) : (p.decide f s).Yields (Plan.Lawful (Sketch.WritesElements s)) := by
  cases kind with
  | getter =>
    cases native <;> first
      | (cases hwrites; done)
      | cases h
  | call =>
    cases native
    case arrayPush => cases h; exact ArrayUpdate.push_writesElements s
    case arrayPop | arrayShift => cases h; exact ArrayUpdate.remove_writesElements _ s
    case unsafePutElements => cases h; exact ElementStore.putElements_writesElements s
    all_goals cases hwrites

/-- **What the nodes of every plan write elements of.** -/
theorem Inliner.Origin.writesElements {s : Site} {p : Plan} {callee : Callee}
    (h : Origin s p callee) : p.Lawful (Sketch.WritesElements s) := by
  rcases h.emits_or_exists_native (Op.writesElements · = false) (fun _ => rfl) (fun _ => rfl) with
    hquiet | ⟨f, native, specializer, op, hfind, hdecide, hemits, hwrites⟩
  · refine Plan.lawful_of_emits hquiet (fun _ _ => Sketch.writesElements_of_quiet) fun _ x hop => ?_
    exact Sketch.writesElements_of_quiet (by rw [hop]; rfl)
  · have hnative := Native.writesElements_of_mayEmit hemits (eq_true_of_ne_false hwrites)
    exact Registry.find?_writesElements hfind hnative f s p hdecide

/-- **Only bulk stores store into vectors of elements.** -/
theorem Callee.native?_of_storesElement {callee : Callee} {op : Op}
    (h : callee.mayEmit op = true) (hop : op.storesElement = true) :
    ∃ f, callee = .function f ∧ f.native? = some .unsafePutElements := by
  cases op
  case storeElement =>
    cases callee with
    | descriptor d => cases h
    | function f =>
      obtain ⟨n, hn, h⟩ := (Option.any_eq_true _ _).1 h
      refine ⟨f, rfl, ?_⟩
      cases n <;> first | exact hn | cases h
  all_goals cases hop

/-! ## Attempts -/

namespace Builder

/-- **Elements are written on a copy only** by a call that takes the builder from `b` to `b'`: what
a new node writes is a copy of an operand, or the elements of such a copy. -/
def WritesCopies (b b' : Builder) (call : Call NodeId) : Prop :=
  ∀ id n, b.graph.size ≤ id.index → b'.graph.node? id = some n → n.op.writesElements = true →
    ∃ x ∈ call.operands, ∃ input copy, n.inputs.head? = some input ∧
      (input = copy ∨ b'.graph.IsNew b.graph.size input .elements [copy]) ∧
      b'.graph.IsNew b.graph.size copy .maybeCopyElementsForWrite [x] ∧ copy.index < id.index

/-- **What new nodes write elements of.** -/
structure WritesElements (b b' : Builder) (call : Call NodeId) : Prop where
  /-- Updates work on a copy of the receiver that is made in the same call. -/
  updates : ∀ id n, b.graph.size ≤ id.index → b'.graph.node? id = some n →
    n.op.updatesArray = true → ∃ copy, n.inputs.head? = some copy ∧
      b'.graph.IsNew b.graph.size copy .maybeCopyElementsForWrite [call.receiver] ∧
      copy.index < id.index
  /-- Stores work on the elements of an argument as they are. -/
  stores : ∀ id n, b.graph.size ≤ id.index → b'.graph.node? id = some n →
    n.op.storesElement = true → ∃ elements, n.inputs.head? = some elements ∧
      ∃ x ∈ call.args, b'.graph.IsNew b.graph.size elements .elements [x]

variable {b b' : Builder} {call : Call NodeId}

/-- **Elements are written on a copy only**, unless some are stored. -/
theorem WritesElements.writesCopies_iff (h : b.WritesElements b' call)
    (hlt : ∀ x ∈ call.operands, x.index < b.graph.size) : b.WritesCopies b' call ↔
      ∀ id n, b.graph.size ≤ id.index → b'.graph.node? id = some n →
        n.op.storesElement = false := by
  constructor
  · intro hcopies id n hid hn
    by_contra hstore
    rw [Bool.not_eq_false] at hstore
    obtain ⟨elements, hhead, x, hx, helements⟩ := h.stores id n hid hn hstore
    obtain ⟨y, -, input, copy, hinput, hof, hcopy, -⟩ :=
      hcopies id n hid hn (by rw [Op.writesElements, hstore, Bool.or_true])
    obtain rfl := Option.some.inj (hhead.symm.trans hinput)
    rcases hof with rfl | hof
    · cases (helements.unique hcopy).1
    · -- the copy would be the argument, which was there before
      obtain rfl := List.singleton_inj.1 (helements.unique hof).2
      exact absurd (hlt x (.tail _ (.tail _ hx))) (Nat.not_lt.2 hcopy.1)
  · intro hnone id n hid hn hwrites
    rw [Op.writesElements, hnone id n hid hn, Bool.or_false] at hwrites
    obtain ⟨copy, hhead, hcopy, hbefore⟩ := h.updates id n hid hn hwrites
    exact ⟨call.receiver, .tail _ (.head _), copy, copy, hhead, .inl rfl, hcopy, hbefore⟩

end Builder

namespace Inliner

variable {i : Inliner} {stubs : StubStore} {b b' : Builder} {call : Call NodeId} {callee : Callee}
  {r : Call Operand} {p : Plan}

lemma Emits.writesElements (h : i.Emits b call callee r p b') : b.WritesElements b' call := by
  refine ⟨fun id n hid hn hop => ?_, fun id n hid hn hop => ?_⟩
  · rcases h.exists_places hid hn with hcontext | ⟨k, x, rfl, hx, hplaces⟩
    · rw [hcontext] at hop
      cases hop
    · obtain ⟨copy, hhead, hcopy⟩ :=
        (h.origin.writesElements.getElem? hx).updates (hplaces.op ▸ hop)
      refine ⟨p.handle b call copy, ?_, ?_, h.lt_of_isNode hcopy⟩
      · rw [hplaces.inputs, List.head?_map, hhead]
        rfl
      · rw [← h.resolved.receiver_eq]
        exact h.isNew_of_isNode hcopy
  · rcases h.exists_places hid hn with hcontext | ⟨k, x, rfl, hx, hplaces⟩
    · rw [hcontext] at hop
      cases hop
    · obtain ⟨elements, hhead, a, ha, helements⟩ :=
        (h.origin.writesElements.getElem? hx).stores (hplaces.op ▸ hop)
      refine ⟨p.handle b call elements, ?_, p.handle b call a.ref, ?_, h.isNew_of_isNode helements⟩
      · rw [hplaces.inputs, List.head?_map, hhead]
        rfl
      · exact h.resolved.args_eq _ _ ▸ List.mem_map_of_mem ha

/-- A call that stores into a vector of elements is a bulk store. -/
lemma Emits.native?_of_storesElement (h : i.Emits b call callee r p b') {id : NodeId} {n : Node}
    (hid : b.graph.size ≤ id.index) (hn : b'.graph.node? id = some n)
    (hstores : n.op.storesElement = true) :
    ∃ f, callee = .function f ∧ f.native? = some .unsafePutElements := by
  rcases h.exists_places hid hn with hcontext | ⟨k, x, rfl, hx, hplaces⟩
  · rw [hcontext] at hstores
    cases hstores
  · rw [hplaces.op] at hstores
    have hguard : x.op ≠ .typeBarrier .typeSet := by
      rintro hguard
      rw [hguard] at hstores
      cases hstores
    exact Callee.native?_of_storesElement (h.origin.emits _ (Plan.mem_ops_of_sketch hx hguard))
      hstores

/-- **Elements are written on a copy only, unless a call stores in bulk.**  What is updated is a
copy of the receiver; what is stored goes through the elements of an argument as they are, and no
other call but a bulk store does that. -/
theorem attempt_writesCopies_iff (h : (i.attempt stubs b call callee).result = .ok .inlined) :
    b.WritesElements (i.attempt stubs b call callee).builder call ∧
    (b.WritesCopies (i.attempt stubs b call callee).builder call ↔
      ∀ id n, b.graph.size ≤ id.index →
        (i.attempt stubs b call callee).builder.graph.node? id = some n →
        n.op.storesElement = false) ∧
    ∀ id n, b.graph.size ≤ id.index →
      (i.attempt stubs b call callee).builder.graph.node? id = some n →
      n.op.storesElement = true →
      ∃ f, callee = .function f ∧ f.native? = some .unsafePutElements := by
  obtain ⟨r, p, hemits⟩ := exists_emits h
  exact ⟨hemits.writesElements, hemits.writesElements.writesCopies_iff hemits.resolved.lt_size,
    fun _ _ => hemits.native?_of_storesElement⟩

end Inliner

/-- Arrays of int32 that share their elements. -/
def Scenario.sharing : TypeSet :=
  .singleton { id := ⟨1⟩, objectClass := .array, flags := .copyOnWrite,
               elementTypes := some (.ofType .int32) }

/-- An int32 is appended to such an array. -/
def Scenario.pushShared : Scenario where
  callee := .function (.ofNative ⟨1⟩ .arrayPush)
  receiver := some (.typed .object (some sharing))
  args := [.typed .int32 none]
  resultTypes := some (.ofType .int32)

/-- It is appended to a copy. -/
theorem attempt_writesCopies_pushShared :
    (Scenario.pushShared.attempt {} Scenario.pushShared.builder).result = .ok .inlined ∧
    Scenario.pushShared.builder.WritesCopies
      (Scenario.pushShared.attempt {} Scenario.pushShared.builder).builder
      Scenario.pushShared.call := by
  have hinlined : (Scenario.pushShared.attempt {} Scenario.pushShared.builder).result =
      .ok .inlined := by
    decide +kernel
  have hnone : ∀ n ∈ (Scenario.pushShared.attempt {}
      Scenario.pushShared.builder).builder.graph.since 3, n.op.storesElement = false := by
    decide +kernel
  refine ⟨hinlined, (Inliner.attempt_writesCopies_iff hinlined).2.1.2 fun id n hid hn => ?_⟩
  exact hnone n (Graph.mem_since_iff.2 ⟨id, hid, hn⟩)

/-- An int32 is stored, in bulk, into an array that shares its elements. -/
def Scenario.putShared : Scenario where
  callee := .function (.ofNative ⟨1⟩ .unsafePutElements)
  args := [.typed .object (some sharing), .typed .int32 none, .typed .int32 none]
  resultTypes := some (.ofType .undefined)

/-- **Not every call writes elements on a copy only.** -/
theorem not_forall_writesCopies : ¬∀ s : Scenario,
    (s.attempt {} s.builder).result = .ok .inlined →
    s.builder.WritesCopies (s.attempt {} s.builder).builder s.call := by
  intro hall
  have hstore : ((Scenario.putShared.attempt {} Scenario.putShared.builder).builder.graph.node?
      ⟨7⟩).map (fun n => (n.op, n.inputs)) = some (.storeElement false, [⟨6⟩, ⟨3⟩, ⟨4⟩]) := by
    decide +kernel
  have hview : ((Scenario.putShared.attempt {} Scenario.putShared.builder).builder.graph.node?
      ⟨6⟩).map (fun n => (n.op, n.inputs)) = some (.elements, [⟨2⟩]) := by
    decide +kernel
  obtain ⟨n, hn, hnode⟩ := Option.map_eq_some_iff.1 hstore
  obtain ⟨m, hm, hnode'⟩ := Option.map_eq_some_iff.1 hview
  obtain ⟨hop, hinputs⟩ := Prod.mk.inj hnode
  obtain ⟨hop', hinputs'⟩ := Prod.mk.inj hnode'
  have helements : (Scenario.putShared.attempt {}
      Scenario.putShared.builder).builder.graph.IsNew 5 ⟨6⟩ .elements [⟨2⟩] :=
    ⟨by decide, m, hm, hop', hinputs'⟩
  obtain ⟨x, -, input, copy, hinput, hof, hcopy, -⟩ :=
    hall Scenario.putShared (by decide +kernel) ⟨7⟩ n (by decide) hn (by rw [hop]; rfl)
  rw [hinputs] at hinput
  obtain rfl := Option.some.inj hinput
  rcases hof with rfl | hof
  · cases (hcopy.unique helements).1
  · obtain rfl := List.singleton_inj.1 (hof.unique helements).2
    exact absurd hcopy.1 (by decide)

end CallSite
