import CallSite.Proofs.Elements.Conversion
import CallSite.Proofs.Elements.Stores
import CallSite.Proofs.Known

/-!
# Stores keep what is known of elements

A type object records what was seen in its elements, and compiled code relies on it.  A store that a
call is specialized to runs without a check, so whatever it may write has to be recorded already:
the value that is asked for, and the double that it may have been converted to.

Whether a value is converted is decided for all objects together.  Appending declines where objects
demand contrary things; a bulk store goes ahead there, and leaves the value as it is even for arrays
that keep their elements as doubles.

* `Graph.Observes`, `Graph.MayHold` — the observed types of a node, and the values it can hold.
* `Builder.StoresFor` — a new node carries out a store that was asked for.
* `Builder.StoresSoundly`, `Inliner.attempt_storesSoundly` — **stores keep to the element types**,
  and compiled code relies on these.
* `Builder.StoresConverted`, `Inliner.attempt_storesConverted` — **when the value is converted**.
* `not_forall_keepsDoubles` — and an array of doubles may be given an int32.
-/

namespace CallSite

/-! ## Nodes -/

namespace Graph

/-- The types observed for the value of a node. -/
def Observes (g : Graph) (id : NodeId) (t : TypeSet) : Prop :=
  ∃ n, g.node? id = some n ∧ n.types = some t

/-- **The node can hold the value**, by its static type and its observed types. -/
def MayHold (g : Graph) (id : NodeId) (v : Specimen) : Prop :=
  ∃ n, g.node? id = some n ∧ v.HeldBy n.ty n.types

/-- **The node is the double that a value was converted to**, and stands at `first` or later. -/
def IsDoubleOf (g : Graph) (first : Nat) (id value : NodeId) : Prop :=
  first ≤ id.index ∧ ∃ n, g.node? id = some n ∧ n.blueprint = ⟨.toDouble, [value], .double, none⟩

variable {g : Graph} {first : Nat} {id value : NodeId} {v : Specimen}

/-- Such a node holds any number. -/
lemma IsDoubleOf.mayHold_iff (h : g.IsDoubleOf first id value) :
    g.MayHold id v ↔ v.HeldBy .double none := by
  obtain ⟨-, n, hn, hblueprint⟩ := h
  have hty : n.ty = .double := congrArg Blueprint.ty hblueprint
  have htypes : n.types = none := congrArg Blueprint.types hblueprint
  constructor
  · rintro ⟨m, hm, hv⟩
    obtain rfl := Option.some.inj (hn.symm.trans hm)
    rwa [hty, htypes] at hv
  · intro hv
    exact ⟨n, hn, by rwa [hty, htypes]⟩

end Graph

namespace Builder

variable {b : Builder} {id : NodeId} {f : Facts}

/-- What the graph knows of a value is what was observed of its node. -/
lemma observes_iff_of_facts? (hf : b.facts? id = some f) {t : TypeSet} :
    b.graph.Observes id t ↔ f.types = some t := by
  obtain ⟨n, hn, rfl⟩ := Option.map_eq_some_iff.1 hf
  constructor
  · rintro ⟨m, hm, ht⟩
    obtain rfl := Option.some.inj (hn.symm.trans hm)
    exact ht
  · exact fun ht => ⟨n, hn, ht⟩

/-- What a node can hold is told by what the graph knows of it. -/
lemma mayHold_iff_of_facts? (hf : b.facts? id = some f) {v : Specimen} :
    b.graph.MayHold id v ↔ v.HeldBy f.ty f.types := by
  obtain ⟨n, hn, rfl⟩ := Option.map_eq_some_iff.1 hf
  constructor
  · rintro ⟨m, hm, hv⟩
    obtain rfl := Option.some.inj (hn.symm.trans hm)
    exact hv
  · exact fun hv => ⟨n, hn, hv⟩

end Builder

/-- Adding operands adds what is given of them. -/
lemma Scenario.obtainable_foldl {gs : List Given}
    (h : ∀ ty t, .typed ty (some t) ∈ gs → t.Obtainable) {c : Builder × UInt16}
    (hc : ∀ id t, c.1.graph.Observes id t → t.Obtainable) {id : NodeId} {t : TypeSet}
    (ht : (gs.foldl addOperand c).1.graph.Observes id t) : t.Obtainable := by
  induction gs generalizing c with
  | nil => exact hc id t ht
  | cons g gs ih =>
    refine ih (fun ty t hmem => h ty t (List.mem_cons_of_mem g hmem)) ?_ ht
    rintro id t ⟨n, hn, htypes⟩
    have hnew : ∀ op ty types,
        ({ id := c.1.graph.nextId, op, inputs := [], ty, types } : Node) = n → types = some t := by
      rintro op ty types rfl
      exact htypes
    cases g with
    | constant value =>
      have hn : (c.1.graph.add (.constant value) [] value.valueType).node? id = some n := hn
      rw [Graph.node?_add] at hn
      split_ifs at hn
      · cases hnew _ _ _ (Option.some.inj hn)
      · exact hc id t ⟨n, hn, htypes⟩
    | typed ty types =>
      have hn : (c.1.graph.add (.parameter c.2) [] ty types).node? id = some n := hn
      rw [Graph.node?_add] at hn
      split_ifs at hn
      · obtain rfl := hnew _ _ _ (Option.some.inj hn)
        exact h ty t (List.mem_cons_self ..)
      · exact hc id t ⟨n, hn, htypes⟩

/-- **The graph of a scenario observes** what is given of its operands. -/
theorem Scenario.obtainable_of_observes {s : Scenario}
    (h : ∀ ty t, .typed ty (some t) ∈ s.operands → t.Obtainable) :
    ∀ id ∈ s.call.operands, ∀ t, s.builder.graph.Observes id t → t.Obtainable := by
  intro id _ t ht
  refine @obtainable_foldl s.operands h ({}, 0) ?_ id t ht
  rintro id t ⟨n, hn, -⟩
  cases hn

namespace Builder

variable {b b' : Builder} {id : NodeId}

/-- **What a node can hold** it can hold after more nodes were added. -/
theorem Extends.mayHold_iff (h : b.Extends b') (hid : id.index < b.graph.size) {v : Specimen} :
    b'.graph.MayHold id v ↔ b.graph.MayHold id v := by
  have hnode := h.node? hid
  constructor
  · rintro ⟨n', hn', hv⟩
    rw [hn', Option.map_some, eq_comm, Option.map_eq_some_iff] at hnode
    obtain ⟨n, hn, hblueprint⟩ := hnode
    have hty : n.ty = n'.ty := congrArg Blueprint.ty hblueprint
    have htypes : n.types = n'.types := congrArg Blueprint.types hblueprint
    exact ⟨n, hn, by rwa [hty, htypes]⟩
  · rintro ⟨n, hn, hv⟩
    rw [hn, Option.map_some, Option.map_eq_some_iff] at hnode
    obtain ⟨n', hn', hblueprint⟩ := hnode
    have hty : n'.ty = n.ty := congrArg Blueprint.ty hblueprint
    have htypes : n'.types = n.types := congrArg Blueprint.types hblueprint
    exact ⟨n', hn', by rwa [hty, htypes]⟩

/-! ## Stores in the graph -/

/-- **A new node carries out a store** that the call asked for: it works on the object or on a view
of it, and writes the value or what it was converted to. -/
structure StoresFor (b b' : Builder) (n : Node) (w : StoreRequest NodeId) : Prop where
  appends : n.op = .arrayPush ↔ w.appends = true
  object : ∃ input, n.inputs.head? = some input ∧
    b'.graph.WorksOn b.graph.size input w.object
  dense : n.op.isDenseStore = true → ∃ t m stored, b.graph.Observes w.object t ∧
    b.graph.node? w.value = some m ∧ t.AdmitsStore b'.graph.dependencies.items m.facts ∧
    n.inputs.getLast? = some stored ∧
    (t.convertDoubles.value.converts = true → b'.graph.IsDoubleOf b.graph.size stored w.value) ∧
    (t.convertDoubles.value.converts = false → stored = w.value) ∧
    (w.appends = true → t.convertDoubles.value ≠ .ambiguous)

end Builder

/-! ### Requests -/

namespace StoreRequest

variable {ν μ : Type} {R : ν → μ → Prop}

/-- Requests for related objects and values. -/
structure Related (R : ν → μ → Prop) (v : StoreRequest ν) (w : StoreRequest μ) : Prop where
  object : R v.object w.object
  value : R v.value w.value
  appends : v.appends = w.appends

lemma forall₂_ofGroups : ∀ (xs : List ν) (ys : List μ), List.Forall₂ R xs ys →
    List.Forall₂ (Related R) (ofGroups xs) (ofGroups ys)
  | object :: index :: value :: rest, _, h => by
      obtain ⟨object', _, hobject, h₁, rfl⟩ := List.forall₂_cons_left_iff.1 h
      obtain ⟨index', _, -, h₂, rfl⟩ := List.forall₂_cons_left_iff.1 h₁
      obtain ⟨value', rest', hvalue, hrest, rfl⟩ := List.forall₂_cons_left_iff.1 h₂
      exact .cons ⟨hobject, hvalue, rfl⟩ (forall₂_ofGroups rest rest' hrest)
  | [], _, h => by
      obtain rfl := List.forall₂_nil_left_iff.1 h
      exact .nil
  | [_], _, h => by
      obtain ⟨_, _, _, h₁, rfl⟩ := List.forall₂_cons_left_iff.1 h
      obtain rfl := List.forall₂_nil_left_iff.1 h₁
      exact .nil
  | [_, _], _, h => by
      obtain ⟨_, _, _, h₁, rfl⟩ := List.forall₂_cons_left_iff.1 h
      obtain ⟨_, _, _, h₂, rfl⟩ := List.forall₂_cons_left_iff.1 h₁
      obtain rfl := List.forall₂_nil_left_iff.1 h₂
      exact .nil

lemma mem_of_mem_ofGroups : ∀ (xs : List ν), ∀ w ∈ ofGroups xs, w.object ∈ xs ∧ w.value ∈ xs
  | object :: index :: value :: rest, w, h => by
      rcases List.mem_cons.1 h with rfl | h
      · simp
      · obtain ⟨hobject, hvalue⟩ := mem_of_mem_ofGroups rest w h
        simp [hobject, hvalue]
  | [], _, h => by cases h
  | [_], _, h => by cases h
  | [_, _], _, h => by cases h

end StoreRequest

namespace Callee

variable {ν μ : Type} {R : ν → μ → Prop}

/-- **Calls of related operands** ask for related stores. -/
theorem forall₂_stores (callee : Callee) {c : Call ν} {d : Call μ}
    (h : List.Forall₂ R c.operands d.operands) :
    List.Forall₂ (StoreRequest.Related R) (callee.stores c) (callee.stores d) := by
  obtain ⟨hreceiver, hargs⟩ : R c.receiver d.receiver ∧ List.Forall₂ R c.args d.args := by
    cases h with
    | cons _ h => cases h with
      | cons hreceiver hargs => exact ⟨hreceiver, hargs⟩
  cases callee with
  | descriptor _ => exact .nil
  | function f =>
    rw [stores, stores]
    cases f.native? with
    | none => exact .nil
    | some n =>
      cases n
      case arrayPush =>
        refine List.rel_map (fun x y hxy => ?_) hargs
        exact ⟨hreceiver, hxy, rfl⟩
      case unsafePutElements => exact StoreRequest.forall₂_ofGroups _ _ hargs
      all_goals exact .nil

/-- What is stored, and what it is stored into, are operands of the call. -/
lemma mem_operands_of_mem_stores {callee : Callee} {c : Call ν} {w : StoreRequest ν}
    (h : w ∈ callee.stores c) : w.object ∈ c.operands ∧ w.value ∈ c.operands := by
  have harg : ∀ x ∈ c.args, x ∈ c.operands := fun x hx =>
    List.mem_cons_of_mem _ (List.mem_cons_of_mem _ hx)
  cases callee with
  | descriptor _ => cases h
  | function f =>
    rw [stores] at h
    cases hnative : f.native? with
    | none =>
      rw [hnative] at h
      cases h
    | some n =>
      rw [hnative] at h
      cases n
      case arrayPush =>
        obtain ⟨x, hx, rfl⟩ := List.mem_map.1 h
        exact ⟨List.mem_cons_of_mem _ (List.mem_cons_self ..), harg x hx⟩
      case unsafePutElements =>
        exact (StoreRequest.mem_of_mem_ofGroups _ w h).imp (harg _) (harg _)
      all_goals cases h

end Callee

/-! ### Plans in the graph -/

/-- What carries a value in the plan carries it in the graph. -/
lemma Plan.isDoubleOf_of_carries {p : Plan} {b b' : Builder} {call : Call NodeId}
    (hlive : b.isDead call.site = false) (hops : ∀ id ∈ call.operands, id.index < b.graph.size)
    (h : p.emit b call = .ok b') {k : Nat} {r : Ref} {value : NodeId}
    (hcarries : r.Carries (p.sketches.take k) true (.node value)) :
    b'.graph.IsDoubleOf b.graph.size
      (r.resolve (p.opened b call).2.builder.graph.size (p.opened b call).1) value := by
  obtain ⟨j, rfl, hx⟩ := hcarries
  have hsize := p.size_opened b call
  have hx' : p.sketches[j]? = some ⟨.toDouble, [.node value], .double, none⟩ := by
    rw [List.getElem?_take] at hx
    split at hx
    · exact hx
    · cases hx
  obtain ⟨n, hn, hblueprint⟩ := node_of_sketch hlive hops h hx'
  refine ⟨?_, n, hn, hblueprint⟩
  show _ ≤ _ + j
  omega

namespace Inliner

variable {i : Inliner} {b b' : Builder} {call : Call NodeId} {callee : Callee} {r : Call Operand}
  {p : Plan}

/-- **The new stores are those that the call asked for**, in order. -/
theorem Emits.storesFor (h : i.Emits b call callee r p b') :
    List.Forall₂ (b.StoresFor b') ((b'.graph.since b.graph.size).filter (·.op.isElementStore))
      (callee.stores call) := by
  have hops := h.resolved.lt_size
  have hfacts := h.orderly.facts_subset h.live hops h.emit
  have hnodes : List.Forall₂
      (fun n w => ∀ v, StoreRequest.Related (fun id x => b.operand? id = some x) v w →
        b.StoresFor b' n v)
      ((b'.graph.since b.graph.size).filter (·.op.isElementStore)) (callee.stores r) := by
    refine h.origin.stores.forall₂ h.live hops h.emit rfl ?_
    intro k x w n hx hserves hblueprint v hv
    have hop : n.op = x.op := congrArg Blueprint.op hblueprint
    have hinputs : n.inputs = x.inputs.map _ := congrArg Blueprint.inputs hblueprint
    obtain ⟨o, ho, hobserved, href⟩ := Builder.exists_node_of_operand? hv.object
    obtain ⟨m, hm, hvalue, href'⟩ := Builder.exists_node_of_operand? hv.value
    obtain ⟨input, hinput, hstands⟩ := hserves.object
    rw [href] at hstands
    refine ⟨?_, ⟨_, ?_, Plan.worksOn_of_standsFor h.live hops h.emit hstands⟩, fun hdense => ?_⟩
    · rw [hop, hv.appends]
      exact hserves.appends
    · rw [hinputs, List.head?_map, hinput]
      rfl
    rw [hop] at hdense
    obtain ⟨t, stored, ht, hlast, hadmits, hcarries, hambiguous⟩ := hserves.dense hdense
    rw [hvalue] at hadmits
    rw [href'] at hcarries
    rw [hobserved] at ht
    refine ⟨t, m, stored.resolve (p.opened b call).2.builder.graph.size (p.opened b call).1,
      ⟨o, ho, ht⟩, hm, ?_, ?_, fun hconverts => ?_, fun hconverts => ?_, ?_⟩
    · exact ⟨hadmits.inside, List.Subset.trans hadmits.relied hfacts⟩
    · rw [hinputs, List.getLast?_map, hlast]
      rfl
    · rw [hconverts] at hcarries
      exact Plan.isDoubleOf_of_carries h.live hops h.emit hcarries
    · rw [hconverts] at hcarries
      obtain rfl : stored = .node v.value := hcarries
      rfl
    · rw [hv.appends]
      exact hambiguous
  have hrequests := callee.forall₂_stores h.resolved.operands
  exact forall₂_of_common hnodes.flip hrequests.flip fun w n v hn hv => hn v hv

end Inliner

/-! ## Sound stores -/

namespace Builder

variable {b b' : Builder} {n : Node} {w : StoreRequest NodeId}

/-- **The store is sound.**  Into a dense vector goes the value that was asked for or, when it can
be nothing but a number, the double that it was converted to.  Whatever that may be is among the
element types of each tracked object, and compiled code relies on these. -/
structure StoresSoundly (b b' : Builder) (n : Node) (w : StoreRequest NodeId) : Prop where
  appends : n.op = .arrayPush ↔ w.appends = true
  object : ∃ input, n.inputs.head? = some input ∧
    b'.graph.WorksOn b.graph.size input w.object
  dense : n.op.isDenseStore = true → ∃ t stored, b.graph.Observes w.object t ∧
    t.anyObject = false ∧ n.inputs.getLast? = some stored ∧
    (stored = w.value ∨ b'.graph.IsDoubleOf b.graph.size stored w.value ∧
      ∀ v, b.graph.MayHold w.value v → v.kind = some .int32 ∨ v.kind = some .double) ∧
    ∀ o ∈ t.objects, o.unknownProperties = false →
      .elementTypes o.id ∈ b'.graph.dependencies.items ∧ ∃ e, o.elementTypes = some e ∧
        (∀ v, b.graph.MayHold w.value v → v ∈ e) ∧ ∀ v, b'.graph.MayHold stored v → v ∈ e

/-- A store that was decided is sound, for type sets in normal form. -/
lemma StoresFor.soundly (h : b.StoresFor b' n w) (hextends : b.Extends b')
    (hnormal : ∀ t, b.graph.Observes w.object t → t.Normal) : b.StoresSoundly b' n w := by
  refine ⟨h.appends, h.object, fun hdense => ?_⟩
  obtain ⟨t, m, stored, ht, hm, hadmits, hlast, hdouble, hsame, -⟩ := h.dense hdense
  replace hnormal := hnormal t ht
  have htakes := TypeSet.takesAll_of_writeNeedsBarrier hadmits.inside
  have hheld : ∀ v, b.graph.MayHold w.value v → v.HeldBy m.ty m.types := by
    rintro v ⟨m', hm', hv⟩
    obtain rfl := Option.some.inj (hm.symm.trans hm')
    exact hv
  refine ⟨t, stored, ht, (TypeSet.writeNeedsBarrier_eq_false_iff.1 hadmits.inside).1, hlast, ?_, ?_⟩
  · cases hconverts : t.convertDoubles.value.converts with
    | false => exact .inl (hsame hconverts)
    | true =>
      refine .inr ⟨hdouble hconverts, fun v hv => ?_⟩
      exact htakes.number_of_converts hnormal hconverts (hheld v hv)
  · intro o ho htracked
    obtain ⟨e, he, htaken⟩ := htakes o ho htracked
    have hrelied := TypeSet.mem_dependencies_of_writeNeedsBarrier hadmits.inside ho htracked
    refine ⟨hadmits.relied hrelied, e, he, fun v hv => htaken v (hheld v hv), fun v hv => ?_⟩
    cases hconverts : t.convertDoubles.value.converts with
    | false =>
      rw [hsame hconverts, hextends.mayHold_iff (Graph.lt_size_of_node? hm)] at hv
      exact htaken v (hheld v hv)
    | true =>
      -- what is stored is a double now, so the barrier that was asked for the value says nothing
      rw [(hdouble hconverts).mayHold_iff] at hv
      obtain ⟨e', he', htaken'⟩ := TypeSet.takesAll_of_converts hnormal hconverts o ho htracked
      obtain rfl := Option.some.inj (he.symm.trans he')
      exact htaken' v hv

/-- **The value is converted** just when some object keeps doubles and, unless it is appended, none
refuses them. -/
structure StoresConverted (b b' : Builder) (n : Node) (w : StoreRequest NodeId) : Prop where
  appends : n.op = .arrayPush ↔ w.appends = true
  dense : n.op.isDenseStore = true → ∃ t stored, b.graph.Observes w.object t ∧
    n.inputs.getLast? = some stored ∧
    ((∃ o ∈ t.objects, o.KeepsDoubles) ∧
        (w.appends = true ∨ ∀ o ∈ t.objects, ¬o.RefusesDoubles) →
      b'.graph.IsDoubleOf b.graph.size stored w.value) ∧
    (¬((∃ o ∈ t.objects, o.KeepsDoubles) ∧
        (w.appends = true ∨ ∀ o ∈ t.objects, ¬o.RefusesDoubles)) →
      stored = w.value)

lemma StoresFor.converted (h : b.StoresFor b' n w)
    (hnormal : ∀ t, b.graph.Observes w.object t → t.Normal) : b.StoresConverted b' n w := by
  refine ⟨h.appends, fun hdense => ?_⟩
  obtain ⟨t, m, stored, ht, -, hadmits, hlast, hdouble, hsame, hambiguous⟩ := h.dense hdense
  replace hnormal := hnormal t ht
  have hany := (TypeSet.writeNeedsBarrier_eq_false_iff.1 hadmits.inside).1
  have hconverts_iff : t.convertDoubles.value.converts = true ↔
      (∃ o ∈ t.objects, o.KeepsDoubles) ∧
        (w.appends = true ∨ ∀ o ∈ t.objects, ¬o.RefusesDoubles) := by
    rw [TypeSet.converts_iff hnormal, and_iff_right hany]
    refine and_congr_right fun hkeeps => ⟨.inr, ?_⟩
    rintro (happends | hnone)
    · have hclear := mt (TypeSet.convertDoubles_eq_ambiguous_iff hnormal).2 (hambiguous happends)
      exact fun o ho hrefuses => hclear (.inr (.inr ⟨hkeeps, o, ho, hrefuses⟩))
    · exact hnone
  refine ⟨t, stored, ht, hlast, fun hdemand => hdouble (hconverts_iff.2 hdemand), fun hno => ?_⟩
  exact hsame (Bool.eq_false_iff.2 (mt hconverts_iff.1 hno))

end Builder

namespace Inliner

variable {i : Inliner} {stubs : StubStore} {b : Builder} {call : Call NodeId} {callee : Callee}

/-- What holds of the stores that were asked for. -/
lemma attempt_forall₂_stores (h : (i.attempt stubs b call callee).result = .ok .inlined)
    (htypes : ∀ id ∈ call.operands, ∀ t, b.graph.Observes id t → t.Obtainable)
    {R : Node → StoreRequest NodeId → Prop}
    (hR : ∀ n w, b.StoresFor (i.attempt stubs b call callee).builder n w →
      (∀ t, b.graph.Observes w.object t → t.Normal) → R n w) :
    List.Forall₂ R
      (((i.attempt stubs b call callee).builder.graph.since b.graph.size).filter
        (·.op.isElementStore)) (callee.stores call) := by
  obtain ⟨r, p, hemits⟩ := exists_emits h
  refine (forall₂_mem hemits.storesFor.flip).flip.imp fun n w hn => ?_
  refine hR n w hn.2 fun t ht => (htypes _ ?_ t ht).normal
  exact (Callee.mem_operands_of_mem_stores hn.1).1

/-- **Stores keep to the element types.**  The stores of a specialized call are, in order, those
that it asked for, and each is sound. -/
theorem attempt_storesSoundly (h : (i.attempt stubs b call callee).result = .ok .inlined)
    (htypes : ∀ id ∈ call.operands, ∀ t, b.graph.Observes id t → t.Obtainable) :
    List.Forall₂ (b.StoresSoundly (i.attempt stubs b call callee).builder)
      (((i.attempt stubs b call callee).builder.graph.since b.graph.size).filter
        (·.op.isElementStore)) (callee.stores call) :=
  attempt_forall₂_stores h htypes fun _ _ hstores hnormal =>
    hstores.soundly (i.extends_attempt stubs b call callee) hnormal

end Inliner

/-- An int32 is appended to an array of doubles. -/
def Scenario.pushInt32 : Scenario where
  callee := .function (.ofNative ⟨1⟩ .arrayPush)
  receiver := some (.typed .object (some (.singleton
    { id := ⟨1⟩, objectClass := .array, elementTypes := some (.ofType .double) })))
  args := [.typed .int32 none]
  resultTypes := some (.ofType .int32)

lemma Scenario.obtainable_pushInt32 :
    ∀ ty t, .typed ty (some t) ∈ Scenario.pushInt32.operands → t.Obtainable := by
  intro ty t h
  rcases h with _ | ⟨_, _ | ⟨_, _ | ⟨_, ⟨⟩⟩⟩⟩
  exact .insert .empty fun _ he => by cases he; exact .ofType .double

/-- What is appended is the double of the value.  The array takes any double, and compiled code
relies on that. -/
theorem attempt_storesSoundly_pushInt32 :
    (Scenario.pushInt32.attempt {} Scenario.pushInt32.builder).result = .ok .inlined ∧
    (Scenario.pushInt32.attempt {} Scenario.pushInt32.builder).builder.graph.IsDoubleOf 3 ⟨3⟩ ⟨2⟩ ∧
    .elementTypes ⟨1⟩ ∈
      (Scenario.pushInt32.attempt {} Scenario.pushInt32.builder).builder.graph.dependencies.items ∧
    ∀ v, (Scenario.pushInt32.attempt {} Scenario.pushInt32.builder).builder.graph.MayHold ⟨3⟩ v →
      v ∈ TypeSet.ofType .double := by
  have hinlined : (Scenario.pushInt32.attempt {} Scenario.pushInt32.builder).result =
      .ok .inlined := by
    decide
  have hstores := Inliner.attempt_storesSoundly hinlined
    (Scenario.obtainable_of_observes Scenario.obtainable_pushInt32)
  obtain ⟨t, stored, ⟨m, hm, ht⟩, -, hlast, hvalue, hsound⟩ :=
    (List.forall₂_cons.1 hstores).1.dense rfl
  obtain rfl := Option.some.inj hlast
  obtain rfl := Option.some.inj hm
  obtain rfl := Option.some.inj ht
  obtain ⟨hrelied, e, he, -, hstored⟩ := hsound _ (List.mem_singleton_self _) rfl
  obtain rfl := Option.some.inj he
  exact ⟨hinlined, (hvalue.resolve_left (by decide)).1, hrelied, hstored⟩

namespace Inliner

variable {i : Inliner} {stubs : StubStore} {b : Builder} {call : Call NodeId} {callee : Callee}

/-- **When the value is converted.**  The stores of a specialized call are, in order, those that it
asked for, and each dense one converts its value under the same conditions. -/
theorem attempt_storesConverted (h : (i.attempt stubs b call callee).result = .ok .inlined)
    (htypes : ∀ id ∈ call.operands, ∀ t, b.graph.Observes id t → t.Obtainable) :
    List.Forall₂ (b.StoresConverted (i.attempt stubs b call callee).builder)
      (((i.attempt stubs b call callee).builder.graph.since b.graph.size).filter
        (·.op.isElementStore)) (callee.stores call) :=
  attempt_forall₂_stores h htypes fun _ _ hstores hnormal => hstores.converted hnormal

end Inliner

/-- The value that is appended to the array of doubles is converted. -/
theorem attempt_storesConverted_pushInt32 :
    (Scenario.pushInt32.attempt {} Scenario.pushInt32.builder).result = .ok .inlined ∧
    (Scenario.pushInt32.attempt {} Scenario.pushInt32.builder).builder.graph.IsDoubleOf 3 ⟨3⟩
      ⟨2⟩ := by
  have hinlined : (Scenario.pushInt32.attempt {} Scenario.pushInt32.builder).result =
      .ok .inlined := by
    decide
  have hstores := Inliner.attempt_storesConverted hinlined
    (Scenario.obtainable_of_observes Scenario.obtainable_pushInt32)
  obtain ⟨t, stored, ⟨m, hm, ht⟩, hlast, hdouble, -⟩ := (List.forall₂_cons.1 hstores).1.dense rfl
  obtain rfl := Option.some.inj hlast
  obtain rfl := Option.some.inj hm
  obtain rfl := Option.some.inj ht
  refine ⟨hinlined, hdouble ⟨⟨_, List.mem_singleton_self _, ?_⟩, .inl rfl⟩⟩
  exact (TypeObject.keepsDoubles_iff rfl (TypeSet.normal_ofType .double) rfl rfl).2 rfl

/-! ## A bulk store that does not convert -/

/-- An int32 is stored, in bulk, into an array of doubles or one of int32. -/
def Scenario.putMixed : Scenario where
  callee := .function (.ofNative ⟨1⟩ .unsafePutElements)
  args := [.typed .object (some ((TypeSet.singleton
      { id := ⟨1⟩, objectClass := .array, elementTypes := some (.ofType .double) }).insert
      { id := ⟨2⟩, objectClass := .array, elementTypes := some (.ofType .int32) })),
    .typed .int32 none, .typed .int32 none]
  resultTypes := some (.ofType .undefined)

/-- **Not every store converts what goes into an array of doubles.** -/
theorem not_forall_keepsDoubles : ¬∀ s : Scenario, (s.attempt {} s.builder).result = .ok .inlined →
    (∀ id ∈ s.call.operands, ∀ t, s.builder.graph.Observes id t → t.Obtainable) →
    List.Forall₂ (fun n w => n.op.isDenseStore = true → ∃ t stored,
        s.builder.graph.Observes w.object t ∧ n.inputs.getLast? = some stored ∧
        ((∃ o ∈ t.objects, o.KeepsDoubles) →
          (s.attempt {} s.builder).builder.graph.IsDoubleOf s.builder.graph.size stored w.value))
      (((s.attempt {} s.builder).builder.graph.since s.builder.graph.size).filter
        (·.op.isElementStore)) (s.callee.stores s.call) := by
  intro hall
  have hgiven : ∀ ty t, .typed ty (some t) ∈ Scenario.putMixed.operands → t.Obtainable := by
    intro ty t h
    rcases h with _ | ⟨_, _ | ⟨_, _ | ⟨_, _ | ⟨_, _ | ⟨_, ⟨⟩⟩⟩⟩⟩⟩
    exact .insert (.insert .empty fun _ he => by cases he; exact .ofType .double)
      fun _ he => by cases he; exact .ofType .int32
  have hstores := hall Scenario.putMixed (by decide) (Scenario.obtainable_of_observes hgiven)
  obtain ⟨t, stored, ⟨m, hm, ht⟩, hlast, hdouble⟩ := (List.forall₂_cons.1 hstores).1 rfl
  obtain rfl := Option.some.inj hlast
  obtain rfl := Option.some.inj hm
  obtain rfl := Option.some.inj ht
  obtain ⟨hnew, -⟩ := hdouble ⟨_, List.mem_cons_self ..,
    (TypeObject.keepsDoubles_iff rfl (TypeSet.normal_ofType .double) rfl rfl).2 rfl⟩
  exact absurd hnew (by decide)

end CallSite
