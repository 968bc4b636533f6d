import CallSite.Proofs.Elements.Bulk
import CallSite.Proofs.Outcome
import CallSite.Proofs.Resumption

/-!
# A bulk store is carried out as a whole

A call that stores groups of elements is specialized when every group can be stored by itself, and
then it stores them all: one after the other, each with its own resume point, behind the result that
all of them find on the stack.  Of what the groups rest on nothing is lost and nothing added.

* `Builder.Knows`, `Builder.Classifies` — a group is classified by what the graph knows.
* `Builder.StoresGroup` — a node stores the value of a group.
* `Builder.StoresInBulk` — **all groups are stored**.
* `Inliner.attempt_storesInBulk` — **when a bulk store is specialized**, and what becomes of it.
-/

namespace CallSite

open ElementStore (bulk bulk_lawful bulk_serves classify? groups)

/-! ## Graphs -/

namespace Builder

/-- What the graph knows of the object, the index and the value of a group. -/
structure Knows (b : Builder) (g : StoreGroup NodeId) (known : StoreGroup Facts) : Prop where
  object : b.facts? g.object = some known.object
  index : b.facts? g.index = some known.index
  value : b.facts? g.value = some known.value

/-- **The group is classified**, by itself. -/
def Classifies (b : Builder) (g : StoreGroup NodeId) (a : Answer ElementWrite) : Prop :=
  ∃ known, b.Knows g known ∧ known.Classified a

/-- **The node stores the value of a group**, as this was classified. -/
def StoresGroup (b b' : Builder) (n : Node) (d : StoreGroup NodeId × Answer ElementWrite) : Prop :=
  ∃ known, b.Knows d.1 known ∧ known.Classified d.2 ∧
    n.op.StoresGroup n.inputs (b'.graph.IsNew b.graph.size) d.1 known d.2.value

/-- **All groups are stored** by a call that takes the builder from `b` to `b'`; each of them is
given with what it was classified as. -/
structure StoresInBulk (b b' : Builder) (ds : List (StoreGroup NodeId × Answer ElementWrite)) :
    Prop where
  /-- The first new node is undefined, and there is no other constant. -/
  constant : (b'.graph.node? ⟨b.graph.size⟩).map Node.blueprint =
    some ⟨.constant .undefined, [], .undefined, none⟩
  unique : ∀ id n, b.graph.size < id.index → b'.graph.node? id = some n → n.op.constant? = none
  /-- It is left on the stack. -/
  stack : b'.stack = b.stack ++ [⟨b.graph.size⟩]
  /-- The new nodes with an effect are the stores of the groups, in order. -/
  stores : List.Forall₂ (b.StoresGroup b')
    ((b'.graph.since b.graph.size).filter (·.op.isEffectful)) ds
  /-- Nothing is checked. -/
  unchecked : ∀ id n, b.graph.size ≤ id.index → b'.graph.node? id = some n → n.op ≠ .boundsCheck
  /-- Each of the stores has a resume point of its own, at which the result is on the stack. -/
  resumed : ∀ id n, b.graph.size ≤ id.index → b'.graph.node? id = some n →
    n.op.isEffectful = true → ∃ r ∈ b'.graph.resumePoints, n.resumePoint = some r.id ∧
      r.instruction = id ∧ r.stack = b.stack ++ [⟨b.graph.size⟩] ∧
      ∀ r' ∈ b'.graph.resumePoints, r'.instruction = id → r' = r
  /-- What is relied on is what the dense stores rest on. -/
  dependencies : b'.graph.dependencies = b.graph.dependencies.extend
    ((ds.filter (·.2.value.isDense)).flatMap (·.2.dependencies))

/-- What the graph knows it knows for certain. -/
lemma Knows.unique {b : Builder} {g : StoreGroup NodeId} {known known' : StoreGroup Facts}
    (h : b.Knows g known) (h' : b.Knows g known') : known = known' := by
  obtain ⟨object, index, value⟩ := known
  obtain ⟨object', index', value'⟩ := known'
  obtain rfl := Option.some.inj (h.object.symm.trans h'.object)
  obtain rfl := Option.some.inj (h.index.symm.trans h'.index)
  obtain rfl := Option.some.inj (h.value.symm.trans h'.value)
  rfl

end Builder

/-! ## Groups of operands -/

namespace Inliner.Resolved

variable {b : Builder} {call : Call NodeId} {r : Call Operand}

/-- The groups of the call are those of its operands. -/
lemma ofArgs_eq (h : Resolved b call r) (base : Nat) (context : NodeId) :
    (groups r.args).map (·.map (·.ref.resolve base context)) = StoreGroup.ofArgs call.args := by
  rw [ElementStore.map_groups, h.args_eq]

/-- What the graph knows of a group. -/
lemma knows (h : Resolved b call r) (base : Nat) (context : NodeId) {g : ElementStore.Group}
    (hg : g ∈ groups r.args) :
    b.Knows (g.map (·.ref.resolve base context)) (g.map (·.toFacts)) := by
  obtain ⟨hobject, hindex, hvalue⟩ := ElementStore.mem_of_mem_groups r.args g hg
  exact ⟨h.facts?_arg base context hobject, h.facts?_arg base context hindex,
    h.facts?_arg base context hvalue⟩

/-- **A group is classified as it is decided.** -/
theorem classifies_iff (h : Resolved b call r) (base : Nat) (context : NodeId)
    {g : ElementStore.Group} (hg : g ∈ groups r.args) {a : Answer ElementWrite} :
    b.Classifies (g.map (·.ref.resolve base context)) a ↔ classify? g = some a := by
  have hknows := h.knows base context hg
  rw [ElementStore.classify?_eq_some_iff]
  constructor
  · rintro ⟨known, hknown, hclassified⟩
    obtain rfl := hknown.unique hknows
    exact hclassified
  · exact fun hclassified => ⟨_, hknows, hclassified⟩

end Inliner.Resolved

/-! ## Plans -/

/-- Dense stores are all that rest on facts. -/
lemma ElementStore.flatMap_dense {α : Type} {ds : List (α × Answer ElementWrite)}
    (h : ∀ d ∈ ds, d.2.value.isDense = false → d.2.dependencies = []) :
    (ds.filter (·.2.value.isDense)).flatMap (·.2.dependencies) = ds.flatMap (·.2.dependencies) := by
  induction ds with
  | nil => rfl
  | cons d ds ih =>
    obtain ⟨hd, hds⟩ := List.forall_mem_cons.1 h
    cases hdense : d.2.value.isDense with
    | true =>
      rw [List.filter_cons, hdense, if_pos rfl, List.flatMap_cons, List.flatMap_cons, ih hds]
    | false =>
      rw [List.filter_cons, hdense, if_neg nofun, List.flatMap_cons, ih hds, hd hdense]
      rfl

namespace Inliner.Emits

variable {i : Inliner} {b b' : Builder} {call : Call NodeId} {callee : Callee} {r : Call Operand}
  {ds : List (ElementStore.Group × Answer ElementWrite)}

/-- A bulk store asks for no fork-join context, so its nodes are numbered from the end of the graph
on. -/
lemma handle_bulk (k : Nat) : (bulk ds).handle b call (.added k) = ⟨b.graph.size + k⟩ :=
  congrArg (fun size => NodeId.mk (size + k)) (b.graph.size_marked call.operands)

variable (h : i.Emits b call callee r (bulk ds) b')
include h

/-- The result comes first. -/
lemma constant_of_bulk : (b'.graph.node? ⟨b.graph.size⟩).map Node.blueprint =
    some ⟨.constant .undefined, [], .undefined, none⟩ := by
  have hx : (bulk ds).sketches[0]? = some ⟨.constant .undefined, [], .undefined, none⟩ := rfl
  obtain ⟨n, hn, hblueprint⟩ := Plan.node_of_sketch h.live h.resolved.lt_size h.emit hx
  have hhandle : (⟨((bulk ds).opened b call).2.builder.graph.size + 0⟩ : NodeId) =
      ⟨b.graph.size⟩ := handle_bulk 0
  rw [hhandle] at hn
  rw [hn, Option.map_some, hblueprint]
  rfl

/-- **A new node** keeps to the law of a bulk store. -/
theorem law_of_bulk {id : NodeId} {n : Node} (hid : b.graph.size ≤ id.index)
    (hn : b'.graph.node? id = some n) :
    n.op = .forkJoinContext ∨ ∃ (k : Nat) (x : Sketch), id = ⟨b.graph.size + k⟩ ∧ n.op = x.op ∧
      k < (bulk ds).sketches.length ∧ x.StoresInBulk ds ((bulk ds).sketches.take k) := by
  rcases h.exists_places hid hn with hcontext | ⟨k, x, rfl, hx, hplaces⟩
  · exact .inl hcontext
  · obtain ⟨hk, -⟩ := List.getElem?_eq_some_iff.1 hx
    exact .inr ⟨k, x, handle_bulk k, hplaces.op, hk, (bulk_lawful ds).getElem? hx⟩

/-- The result is the only constant. -/
lemma unique_of_bulk {id : NodeId} {n : Node} (hid : b.graph.size < id.index)
    (hn : b'.graph.node? id = some n) : n.op.constant? = none := by
  rcases h.law_of_bulk (Nat.le_of_lt hid) hn with hcontext | ⟨k, x, rfl, hop, hk, hlaw⟩
  · rw [hcontext]
    rfl
  · rw [hop]
    by_contra hsome
    rcases List.take_eq_nil_iff.1 (hlaw.first (Option.isSome_iff_ne_none.2 hsome)) with rfl | hnil
    · exact absurd hid (Nat.lt_irrefl _)
    · rw [hnil] at hk
      exact absurd hk (Nat.not_lt_zero _)

/-- Nothing is checked. -/
lemma unchecked_of_bulk {id : NodeId} {n : Node} (hid : b.graph.size ≤ id.index)
    (hn : b'.graph.node? id = some n) : n.op ≠ .boundsCheck := by
  rcases h.law_of_bulk hid hn with hcontext | ⟨k, x, -, hop, -, hlaw⟩
  · rw [hcontext]
    nofun
  · rw [hop]
    exact hlaw.unchecked

/-- The result is left on the stack. -/
lemma stack_of_bulk : b'.stack = b.stack ++ [⟨b.graph.size⟩] := by
  have hpush : Step.push (.added 0) ∈ (bulk ds).steps :=
    List.mem_cons_of_mem _ (List.mem_cons_self ..)
  have hstack := h.stack_of_unguarded hpush fun x hx => by
    obtain ⟨k, hk⟩ := List.mem_iff_getElem?.1 hx
    exact ((bulk_lawful ds).getElem? hk).unguarded
  exact hstack.trans (congrArg (b.stack ++ [·]) (handle_bulk 0))

/-- **The stores** have their resume points, at which the result is on the stack. -/
theorem resumed_of_bulk (hb : b.Reachable) (hb' : b'.Reachable) {id : NodeId} {n : Node}
    (hid : b.graph.size ≤ id.index) (hn : b'.graph.node? id = some n)
    (heffectful : n.op.isEffectful = true) :
    ∃ r ∈ b'.graph.resumePoints, n.resumePoint = some r.id ∧ r.instruction = id ∧
      r.stack = b.stack ++ [⟨b.graph.size⟩] ∧
      ∀ r' ∈ b'.graph.resumePoints, r'.instruction = id → r' = r := by
  refine h.exists_resumed hb hb' h.stack_of_bulk ?_ hid hn heffectful
  rw [Graph.behind, h.constant_of_bulk]

/-- **The stores** are those of the groups, in order. -/
theorem stores_of_bulk (hds : ds.map (·.1) = groups r.args)
    (hclassified : ∀ d ∈ ds, classify? d.1 = some d.2) :
    List.Forall₂ (b.StoresGroup b') ((b'.graph.since b.graph.size).filter (·.op.isEffectful))
      (ds.map fun d => (d.1.map fun x => (bulk ds).handle b call x.ref, d.2)) := by
  rw [List.forall₂_map_right_iff]
  have hstores : List.Forall₂ (fun n d => n.op.StoresGroup n.inputs
      (b'.graph.IsNew b.graph.size) (d.1.map fun x => (bulk ds).handle b call x.ref)
      (d.1.map (·.toFacts)) d.2.value)
      ((b'.graph.since b.graph.size).filter (·.op.isEffectful)) ds := by
    refine (bulk_serves ds).forall₂ h.live h.resolved.lt_size h.emit rfl ?_
    intro k x d n hx hserves hblueprint
    have hop : n.op = x.op := congrArg Blueprint.op hblueprint
    have hinputs : n.inputs = x.inputs.map ((bulk ds).handle b call) :=
      congrArg Blueprint.inputs hblueprint
    rw [hop, hinputs]
    exact hserves.map _ fun _ _ _ hnode => h.isNew_of_isNode hnode
  refine (forall₂_mem hstores.flip).flip.imp fun n d hd => ?_
  obtain ⟨hmem, hstore⟩ := hd
  have hg : d.1 ∈ groups r.args := hds ▸ List.mem_map_of_mem hmem
  refine ⟨_, h.resolved.knows _ _ hg, ?_, hstore⟩
  exact ElementStore.classify?_eq_some_iff.1 (hclassified d hmem)

/-- **All groups are stored.** -/
theorem storesInBulk (hb : b.Reachable) (hb' : b'.Reachable) (hds : ds.map (·.1) = groups r.args)
    (hclassified : ∀ d ∈ ds, classify? d.1 = some d.2) :
    b.StoresInBulk b' (ds.map fun d => (d.1.map fun x => (bulk ds).handle b call x.ref, d.2)) where
  constant := h.constant_of_bulk
  unique _ _ := h.unique_of_bulk
  stack := h.stack_of_bulk
  stores := h.stores_of_bulk hds hclassified
  unchecked _ _ := h.unchecked_of_bulk
  resumed _ _ := h.resumed_of_bulk hb hb'
  dependencies := by
    have hdense : ∀ d ∈ ds, d.2.value.isDense = false → d.2.dependencies = [] := fun d hd =>
      (ElementStore.classify?_eq_some_iff.1 (hclassified d hd)).dependencies_eq_nil
    rw [h.orderly.dependencies_eq h.live h.resolved.lt_size h.emit, List.filter_map,
      List.flatMap_map]
    exact congrArg _ (ElementStore.flatMap_dense hdense).symm

end Inliner.Emits

/-! ## Attempts -/

namespace ElementStore

/-- What the signature of a bulk store asks for. -/
lemma admits_iff {s : Site} (hconstructing : s.call.constructing = false) :
    s.Admits { arity := .grouped 3 } ↔ ∃ n, 1 ≤ n ∧ s.argc = 3 * n := by
  have haccepts : (Arity.grouped 3).accepts s.argc = true ↔ ∃ n, 1 ≤ n ∧ s.argc = 3 * n := by
    simp only [Arity.accepts, Bool.and_eq_true, decide_eq_true_iff]
    constructor
    · exact fun h => ⟨s.argc / 3, by omega, by omega⟩
    · rintro ⟨n, hn, hargc⟩
      omega
  rw [Site.admits_iff, hconstructing, ← haccepts]
  exact ⟨fun h => h.2.1, fun h => ⟨rfl, h, rfl, rfl, rfl⟩⟩

/-- Groups that are decided one by one. -/
lemma exists_decisions {gs : List Group} (h : ∀ g ∈ gs, ∃ a, classify? g = some a) :
    ∃ ds : List (Group × Answer ElementWrite), ds.map (·.1) = gs ∧
      ∀ d ∈ ds, classify? d.1 = some d.2 := by
  induction gs with
  | nil => exact ⟨[], rfl, List.forall_mem_nil _⟩
  | cons g gs ih =>
    obtain ⟨⟨a, ha⟩, hgs⟩ := List.forall_mem_cons.1 h
    obtain ⟨ds, rfl, hds⟩ := ih hgs
    exact ⟨(g, a) :: ds, rfl, List.forall_mem_cons.2 ⟨ha, hds⟩⟩

end ElementStore

namespace Inliner

variable {i : Inliner} {stubs : StubStore} {b b' : Builder} {call : Call NodeId}
  {f : FunctionObject} {r : Call Operand} {p : Plan}

/-- **A bulk store that is replaced** has had all of its groups decided. -/
theorem Emits.exists_bulk (h : i.Emits b call (.function f) r p b')
    (hf : f.native? = some .unsafePutElements) :
    (i.site r).Admits { arity := .grouped 3 } ∧
      ∃ ds : List (ElementStore.Group × Answer ElementWrite), ds.map (·.1) = groups r.args ∧
        (∀ d ∈ ds, classify? d.1 = some d.2) ∧ p = bulk ds :=
  ElementStore.putElements_eq_ok_iff.1 (h.decide_eq_ok hf rfl)

/-- The signature is asked of the call as it is given. -/
lemma Resolved.admits_grouped_iff (h : Resolved b call r)
    (hconstructing : call.constructing = false) :
    (i.site r).Admits { arity := .grouped 3 } ↔ ∃ n, 1 ≤ n ∧ call.argc = 3 * n := by
  have hplain : (i.site r).call.constructing = false :=
    (congrArg Call.constructing h.same).trans hconstructing
  rw [ElementStore.admits_iff hplain, show (i.site r).argc = call.argc from h.argc_eq]

/-- **A bulk store whose groups are all classified** is specialized. -/
theorem inlined_of_classifies (hlive : b.isDead call.site = false)
    (hops : ∀ id ∈ call.operands, id.index < b.graph.size) (hkind : call.kind = .call)
    (hconstructing : call.constructing = false) (hnatives : i.config.inlineNatives = true)
    (hargc : call.argc ≤ i.config.maxCallArgs.toNat) (hf : f.native? = some .unsafePutElements)
    (hgrouped : ∃ n, 1 ≤ n ∧ call.argc = 3 * n)
    (hgroups : ∀ g ∈ StoreGroup.ofArgs call.args, ∃ a, b.Classifies g a) :
    (i.attempt stubs b call (.function f)).result = .ok .inlined := by
  obtain ⟨r, hr⟩ := exists_resolved hops
  have hresolved := resolved_of_eq_ok hr
  have hclassified : ∀ g ∈ groups r.args, ∃ a, classify? g = some a := by
    intro g hg
    obtain ⟨a, ha⟩ := hgroups _ (hresolved.ofArgs_eq 0 ⟨0⟩ ▸ List.mem_map_of_mem hg)
    exact ⟨a, (hresolved.classifies_iff 0 ⟨0⟩ hg).1 ha⟩
  obtain ⟨ds, hds, hdecided⟩ := ElementStore.exists_decisions hclassified
  have hadmits : (i.site r).Admits { arity := .grouped 3 } :=
    (hresolved.admits_grouped_iff hconstructing).2 hgrouped
  have hput := ElementStore.putElements_eq_ok_iff.2 ⟨hadmits, ds, hds, hdecided, rfl⟩
  exact inlined_of_decide hlive hr hf rfl hkind hnatives hargc hput rfl

/-- **All groups are stored, or none.**  A bulk store is specialized iff its arguments make up at
least one group, with nothing left over, and each group is classified by itself.  Then every group
is stored as it was classified, in order. -/
theorem attempt_storesInBulk (hb : b.Reachable) (hlive : b.isDead call.site = false)
    (hops : ∀ id ∈ call.operands, id.index < b.graph.size) (hkind : call.kind = .call)
    (hconstructing : call.constructing = false) (hnatives : i.config.inlineNatives = true)
    (hargc : call.argc ≤ i.config.maxCallArgs.toNat) (hf : f.native? = some .unsafePutElements) :
    ((i.attempt stubs b call (.function f)).result = .ok .inlined ↔
      (∃ n, 1 ≤ n ∧ call.argc = 3 * n) ∧
        ∀ g ∈ StoreGroup.ofArgs call.args, ∃ a, b.Classifies g a) ∧
    ((i.attempt stubs b call (.function f)).result = .ok .inlined →
      ∃ ds : List (StoreGroup NodeId × Answer ElementWrite),
        ds.map (·.1) = StoreGroup.ofArgs call.args ∧ 3 * ds.length = call.argc ∧
        b.StoresInBulk (i.attempt stubs b call (.function f)).builder ds) := by
  refine ⟨⟨fun h => ?_, fun h => ?_⟩, fun h => ?_⟩
  · obtain ⟨r, p, hemits⟩ := exists_emits h
    obtain ⟨hadmits, ds, hds, hclassified, rfl⟩ := hemits.exists_bulk hf
    refine ⟨(hemits.resolved.admits_grouped_iff hconstructing).1 hadmits, fun g hg => ?_⟩
    rw [← hemits.resolved.ofArgs_eq 0 ⟨0⟩] at hg
    obtain ⟨g, hmem, rfl⟩ := List.mem_map.1 hg
    obtain ⟨d, hd, rfl⟩ := List.mem_map.1 (hds ▸ hmem)
    exact ⟨d.2, (hemits.resolved.classifies_iff 0 ⟨0⟩ hmem).2 (hclassified d hd)⟩
  · exact inlined_of_classifies hlive hops hkind hconstructing hnatives hargc hf h.1 h.2
  · obtain ⟨r, p, hemits⟩ := exists_emits h
    obtain ⟨hadmits, ds, hds, hclassified, rfl⟩ := hemits.exists_bulk hf
    obtain ⟨n, -, hn⟩ := (hemits.resolved.admits_grouped_iff hconstructing).1 hadmits
    have hnamed : (ds.map fun d => (d.1.map fun x => (bulk ds).handle b call x.ref, d.2)).map
        (·.1) = StoreGroup.ofArgs call.args := by
      rw [List.map_map, ← hemits.resolved.ofArgs_eq, ← hds, List.map_map]
      rfl
    refine ⟨_, hnamed, ?_, hemits.storesInBulk hb (hb.attempt i stubs call _) hds hclassified⟩
    rw [← List.length_map (f := (·.1)), hnamed, StoreGroup.length_ofArgs hn, hn]

end Inliner

/-- An int32 is stored into an array of such, and a double, at an index that is one, into a typed
array. -/
def Scenario.putBoth : Scenario where
  callee := .function (.ofNative ⟨1⟩ .unsafePutElements)
  args := [.typed .object (some (.singleton
      { id := ⟨1⟩, objectClass := .array, elementTypes := some (.ofType .int32) })),
    .typed .int32 none, .typed .int32 none,
    .typed .object (some (.singleton { id := ⟨2⟩, objectClass := .typedArray .int32 })),
    .typed .double none, .typed .double none]

/-- Both values are stored, since each of them can be by itself. -/
theorem attempt_storesInBulk_putBoth :
    (Scenario.putBoth.attempt {} Scenario.putBoth.builder).result = .ok .inlined ∧
    ∃ array typedArray, Scenario.putBoth.builder.StoresInBulk
      (Scenario.putBoth.attempt {} Scenario.putBoth.builder).builder
      [(⟨⟨2⟩, ⟨3⟩, ⟨4⟩⟩, array), (⟨⟨5⟩, ⟨6⟩, ⟨7⟩⟩, typedArray)] := by
  obtain ⟨hiff, hstores⟩ := @Inliner.attempt_storesInBulk Scenario.putBoth.inliner {}
    Scenario.putBoth.builder Scenario.putBoth.call (.ofNative ⟨1⟩ .unsafePutElements)
    Scenario.putBoth.reachable_builder rfl (by decide) rfl rfl rfl (by decide) rfl
  have hinlined : (Scenario.putBoth.attempt {} Scenario.putBoth.builder).result =
      .ok .inlined := by
    refine hiff.2 ⟨⟨2, by decide, rfl⟩, List.forall_mem_cons.2 ⟨?_, ?_⟩⟩
    · exact ⟨_, ⟨_, _, _⟩, ⟨rfl, rfl, rfl⟩, rfl, rfl, _, rfl,
        .dense ⟨rfl, nofun, List.forall_mem_singleton.2 rfl⟩ rfl (by decide)⟩
    · exact List.forall_mem_singleton.2 ⟨_, ⟨_, _, _⟩, ⟨rfl, rfl, rfl⟩, rfl, rfl, _, rfl,
        .typedArray (.inl ⟨rfl, nofun, List.forall_mem_singleton.2 rfl⟩)⟩
  obtain ⟨ds, hds, -, hbulk⟩ := hstores hinlined
  obtain ⟨⟨g, array⟩, rest, rfl, rfl, hrest⟩ := List.map_eq_cons_iff.1 hds
  obtain ⟨⟨g', typedArray⟩, none, rfl, rfl, hnone⟩ := List.map_eq_cons_iff.1 hrest
  obtain rfl := List.map_eq_nil_iff.1 hnone
  exact ⟨hinlined, array, typedArray, hbulk⟩

end CallSite
