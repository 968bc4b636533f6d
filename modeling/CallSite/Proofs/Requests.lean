import CallSite.Proofs.Renumbering
import CallSite.Proofs.Sketch

/-!
# Nodes that serve requests in order

Some calls ask for several things of one kind: a call that stores groups of elements asks for one
store after the other.  The nodes of that kind have to serve the requests in order, one each.  That
is a law, since what a node serves is told by the number of such nodes before it.

* `Sketch.ServesInTurn` — **the law**: a node of the kind serves the request whose turn it is.
* `Plan.Serves` — the nodes of a plan obey it, and no request is left over.
* `Draft.Unasked` — a draft that adds no node of the kind.
* `Plan.Serves.forall₂` — **then the new nodes of the kind are related to the requests in order**.
-/

namespace CallSite

variable {α β ω : Type}

/-- **Members of a kind are related to a list in order** if each is related to the one that is as
far along in the list as it is among the members of the kind, and there are as many. -/
theorem forall₂_filter {xs : List α} {ys : List β} {kind : α → Bool} {R : α → β → Prop}
    (hcount : xs.countP kind = ys.length)
    (h : ∀ k x, xs[k]? = some x → kind x = true →
      ∃ y, ys[(xs.take k).countP kind]? = some y ∧ R x y) :
    List.Forall₂ R (xs.filter kind) ys := by
  induction xs generalizing ys with
  | nil =>
    obtain rfl := List.length_eq_zero_iff.1 hcount.symm
    exact .nil
  | cons x xs ih =>
    cases hx : kind x with
    | false =>
      rw [List.filter_cons_of_neg (by simp [hx])]
      refine ih (by simpa [hx] using hcount) fun k z hz hkind => ?_
      simpa [hx] using h (k + 1) z hz hkind
    | true =>
      rw [List.filter_cons_of_pos hx]
      obtain ⟨y, hy, hR⟩ := h 0 x rfl hx
      cases ys with
      | nil => cases hy
      | cons y' ys =>
        obtain rfl := Option.some.inj hy
        refine .cons hR (ih (by simpa [hx] using hcount) fun k z hz hkind => ?_)
        simpa [hx] using h (k + 1) z hz hkind

/-! ## The law -/

namespace Sketch

/-- The number of nodes of a kind. -/
def count (kind : Op → Bool) (xs : List Sketch) : Nat := xs.countP (kind ·.op)

/-- **A node of the kind serves the request whose turn it is**, given the nodes before it. -/
def ServesInTurn (kind : Op → Bool) (serves : List Sketch → Sketch → ω → Prop) (requests : List ω)
    (before : List Sketch) (x : Sketch) : Prop :=
  kind x.op = true → ∃ w, requests[count kind before]? = some w ∧ serves before x w

variable {kind : Op → Bool} {serves : List Sketch → Sketch → ω → Prop} {requests : List ω}
  {before : List Sketch} {x : Sketch}

lemma count_append (xs ys : List Sketch) :
    count kind (xs ++ ys) = count kind xs + count kind ys :=
  List.countP_append

lemma servesInTurn_of_unasked (h : kind x.op = false) :
    x.ServesInTurn kind serves requests before :=
  fun hkind => nomatch hkind.symm.trans h

end Sketch

/-! ## Drafts -/

namespace Draft

variable {kind : Op → Bool} {serves : List Sketch → Sketch → ω → Prop} {requests : List ω}
  {before : List Sketch}

/-- **The draft adds no node of the kind.** -/
def Unasked (kind : Op → Bool) (serves : List Sketch → Sketch → ω → Prop) (requests : List ω)
    (before : List Sketch) (d : Draft α) : Prop :=
  d.Writes (Sketch.ServesInTurn kind serves requests) before fun _ after =>
    before <+: after ∧ Sketch.count kind after = Sketch.count kind before

lemma unasked_pure (a : α) : (pure a : Draft α).Unasked kind serves requests before :=
  writes_pure ⟨List.prefix_refl _, rfl⟩

/-- A node of another kind, and what it is. -/
lemma writes_add_unasked {op : Op} {inputs : List Operand} {ty : ValueType}
    {types : Option TypeSet} {holds : Operand → List Sketch → Prop} (hop : kind op = false)
    (h : ∀ after, after = before ++ [⟨op, inputs.map (·.ref), ty, types⟩] →
      Sketch.count kind after = Sketch.count kind before →
      holds { ref := .added before.length, ty, types, constant := op.constant? } after) :
    (add op inputs ty types).Writes (Sketch.ServesInTurn kind serves requests) before holds := by
  refine writes_add (Sketch.servesInTurn_of_unasked hop) (h _ rfl ?_)
  rw [Sketch.count_append, Sketch.count, Sketch.count, List.countP_singleton, hop]
  rfl

lemma unasked_add {op : Op} {inputs : List Operand} {ty : ValueType} {types : Option TypeSet}
    (hop : kind op = false) : (add op inputs ty types).Unasked kind serves requests before :=
  writes_add_unasked hop fun _ hafter hcount => ⟨hafter ▸ List.prefix_append _ _, hcount⟩

/-- Going on behind such a draft. -/
lemma Unasked.then {x : Draft α} {f : α → Draft β} {holds : β → List Sketch → Prop}
    (hx : x.Unasked kind serves requests before)
    (h : ∀ a after, before <+: after → Sketch.count kind after = Sketch.count kind before →
      (f a).Writes (Sketch.ServesInTurn kind serves requests) after holds) :
    (x >>= f).Writes (Sketch.ServesInTurn kind serves requests) before holds :=
  writes_bind (hx.imp fun a after hafter => h a after hafter.1 hafter.2)

/-- A node that serves the request whose turn it is; then it is the turn of the next. -/
lemma writes_add_served {op : Op} {inputs : List Operand} {ty : ValueType}
    {types : Option TypeSet} {holds : Operand → List Sketch → Prop} (hop : kind op = true) {w : ω}
    (hw : requests[Sketch.count kind before]? = some w)
    (hserves : serves before ⟨op, inputs.map (·.ref), ty, types⟩ w)
    (h : ∀ v after, before <+: after →
      Sketch.count kind after = Sketch.count kind before + 1 → holds v after) :
    (add op inputs ty types).Writes (Sketch.ServesInTurn kind serves requests) before holds := by
  refine writes_add (fun _ => ⟨w, hw, hserves⟩) (h _ _ (List.prefix_append _ _) ?_)
  rw [Sketch.count_append, Sketch.count, Sketch.count, List.countP_singleton, hop]
  rfl

end Draft

/-! ## Plans -/

namespace Plan

variable {kind : Op → Bool} {serves : List Sketch → Sketch → ω → Prop} {requests : List ω}
  {p : Plan}

/-- **The nodes of the kind serve the requests** in order, and no request is left over. -/
structure Serves (kind : Op → Bool) (serves : List Sketch → Sketch → ω → Prop) (requests : List ω)
    (p : Plan) : Prop where
  lawful : p.Lawful (Sketch.ServesInTurn kind serves requests)
  complete : Sketch.count kind p.sketches = requests.length

/-- The requests are served if the draft serves them. -/
lemma serves_of_writes {d : Draft Unit} (hsteps : p.steps = d.steps)
    (h : d.Writes (Sketch.ServesInTurn kind serves requests) [] fun _ after =>
      Sketch.count kind after = requests.length) : p.Serves kind serves requests := by
  refine ⟨lawful_of_writes hsteps (h.imp fun _ _ _ => trivial), ?_⟩
  obtain ⟨new, hnew, -, -, hcount⟩ := h
  have hsketches : p.sketches = new := by
    rw [sketches, hsteps, ← hnew]
    rfl
  rw [hsketches]
  exact hcount

/-- Where nothing is asked for, no node of the kind may be there. -/
lemma serves_nil_of_emits {S : Op → Prop} (h : p.Emits S) (hS : ∀ op, S op → kind op = false)
    (hguard : kind (.typeBarrier .typeSet) = false) : p.Serves kind serves [] := by
  have hnone : ∀ x ∈ p.sketches, kind x.op = false := by
    intro x hx
    rcases op_of_mem_sketches hx with hop | hop
    · rw [hop, hguard]
    · exact hS _ (h _ hop)
  refine ⟨?_, List.countP_eq_zero.2 fun x hx => by rw [hnone x hx]; nofun⟩
  refine lawful_of_emits h (fun before x hop => ?_) fun before x hop => ?_
  · exact Sketch.servesInTurn_of_unasked (hS _ hop)
  · exact Sketch.servesInTurn_of_unasked (hop ▸ hguard)

/-- Each request is served by the node that has as many of the kind before it. -/
lemma Serves.forall₂_sketches (h : p.Serves kind serves requests) :
    List.Forall₂ (fun x w => ∃ k, p.sketches[k]? = some x ∧ serves (p.sketches.take k) x w)
      (p.sketches.filter (kind ·.op)) requests := by
  refine forall₂_filter h.complete fun k x hx hkind => ?_
  obtain ⟨w, hw, hserves⟩ := h.lawful.getElem? hx hkind
  exact ⟨w, hw, k, hx, hserves⟩

variable {b b' : Builder} {call : Call NodeId}

/-- **The new nodes** are the fork-join context, if that was missing, and those of the plan. -/
theorem blueprints_since (hlive : b.isDead call.site = false)
    (hops : ∀ id ∈ call.operands, id.index < b.graph.size) (h : p.emit b call = .ok b') :
    (b'.graph.since b.graph.size).map Node.blueprint =
      p.contextBlueprints b ++ p.blueprints b call := by
  have hsplit := emit_blueprints hlive hops h
  rw [← b.graph.length_blueprints, Graph.since, List.map_drop]
  exact (congrArg (List.drop _) hsplit).trans (List.drop_left' rfl)

/-- The new nodes of a kind are those of the plan. -/
lemma blueprints_filter_since (hlive : b.isDead call.site = false)
    (hops : ∀ id ∈ call.operands, id.index < b.graph.size) (h : p.emit b call = .ok b')
    (hcontext : kind .forkJoinContext = false) :
    ((b'.graph.since b.graph.size).filter (kind ·.op)).map Node.blueprint =
      (p.sketches.filter (kind ·.op)).map
        (·.resolve (p.opened b call).2.builder.graph.size (p.opened b call).1) := by
  have hnone : (p.contextBlueprints b).filter (kind ·.op) = [] := by
    rw [contextBlueprints]
    split_ifs
    · simp [hcontext]
    · rfl
  have hfilter := congrArg (List.filter (kind ·.op)) (blueprints_since hlive hops h)
  rw [List.filter_append, hnone, List.nil_append, blueprints_eq_map, List.filter_map,
    List.filter_map] at hfilter
  exact hfilter

/-- **The new nodes of the kind are related to the requests in order.** -/
theorem Serves.forall₂ (h : p.Serves kind serves requests) (hlive : b.isDead call.site = false)
    (hops : ∀ id ∈ call.operands, id.index < b.graph.size) (hemit : p.emit b call = .ok b')
    (hcontext : kind .forkJoinContext = false) {R : Node → ω → Prop}
    (hR : ∀ k x w n, p.sketches[k]? = some x → serves (p.sketches.take k) x w →
      n.blueprint = x.resolve (p.opened b call).2.builder.graph.size (p.opened b call).1 →
      R n w) :
    List.Forall₂ R ((b'.graph.since b.graph.size).filter (kind ·.op)) requests := by
  have hblueprints : List.Forall₂ (fun bp w => ∀ n : Node, n.blueprint = bp → R n w)
      (((b'.graph.since b.graph.size).filter (kind ·.op)).map Node.blueprint) requests := by
    rw [blueprints_filter_since hlive hops hemit hcontext, List.forall₂_map_left_iff]
    refine h.forall₂_sketches.imp ?_
    rintro x w ⟨k, hx, hserves⟩ n hn
    exact hR k x w n hx hserves hn
  rw [List.forall₂_map_left_iff] at hblueprints
  exact hblueprints.imp fun n w hn => hn n rfl

end Plan

end CallSite
