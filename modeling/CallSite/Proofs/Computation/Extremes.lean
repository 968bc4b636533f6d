import CallSite.Proofs.Computation.Basic
import CallSite.Proofs.Computation.Numbers
import CallSite.Proofs.Orderly.Arithmetic

/-!
# The least and the greatest of the arguments

A call that takes the least or the greatest of its arguments becomes a chain of nodes over them.
Where the result was always an int32, constants at or beyond the edge of the int32 range are left
out: next to an int32 they cannot decide the result.  So what the chain computes is the least or the
greatest of all arguments, those that are left out included.

* `Meaning.extremes` — what the nodes of a chain compute.
* `Arithmetic.reduction` — the nodes over the operands that decide the result.
* `Arithmetic.writes_reduction` — **they combine these operands in order**, whatever a node of two
  operands computes.
* `Arithmetic.isExtreme_deciding` — the operands that decide the result are enough.
* `Inliner.attempt_extreme` — **what the new nodes compute**, and when operands are left out.
-/

namespace CallSite

open Draft (push)

/-- **What the nodes of a chain compute**: the lesser or the greater of two numbers; a truncation
that is not carried out leaves its number as it is. -/
def Meaning.extremes : Meaning Number
  | .minMax isMax, [x, y] => some (.minMax isMax x y)
  | .limitedTruncate _, [x] => some x
  | _, _ => none

/-- The native that takes the least or the greatest of its arguments. -/
def Native.extreme (isMax : Bool) : Native := if isMax then .mathMax else .mathMin

namespace Arithmetic

variable {V : Type} {m : Meaning V} {base : Nat} {context : NodeId} {ν ν' : NodeId → V}
  {law : List Sketch → Sketch → Prop} {before : List Sketch} {isMax : Bool} {ty : ValueType}

/-! ## The nodes of a chain -/

/-- **The nodes over the operands that decide the result**: a chain or, for a single operand, a node
that keeps it. -/
def reduction (isMax : Bool) (ty : ValueType) (x : Operand) : List Operand → Draft Operand
  | [] => Draft.add (.limitedTruncate .noTruncate) [x] ty
  | y :: ys => chain (.minMax isMax) ty x (y :: ys)

/-- The plan of the decision. -/
lemma exists_reduction {s : Site} {p : Plan} (h : minMax isMax s = .ok p) :
    ∃ x xs, deciding (minMaxType isMax s.returnType s.args) s.args = x :: xs ∧
      p = .of (reduction isMax (minMaxType isMax s.returnType s.args) x xs >>= push) := by
  obtain ⟨-, -, h⟩ := Decide.bind_eq_ok.1 h
  obtain ⟨-, -, h⟩ := Decide.bind_eq_ok.1 h
  rw [deciding]
  dsimp only at h
  split at h
  · cases h
  · next x hx => exact ⟨x, [], hx, (Decide.pure_eq_ok.1 h).symm⟩
  · next x xs hne hx =>
    obtain ⟨y, ys, rfl⟩ := List.exists_cons_of_ne_nil hne
    exact ⟨x, y :: ys, hx, (Decide.pure_eq_ok.1 h).symm⟩

/-- The operand was there before the first new node. -/
def Old (base : Nat) (context : NodeId) (x : Operand) : Prop :=
  (x.resolve base context).index < base

/-- **A chain combines its operands in order**, starting with the last value before them. -/
theorem writes_chain {op : Op} {f : V → V → V} (hop : ∀ v w, m op [v, w] = some (f v w))
    {last : Operand} {xs : List Operand} (hxs : ∀ x ∈ xs, Old base context x)
    (h : Sketch.RunsTo m base context ν before ν') :
    (chain op ty last xs).Writes (fun _ _ => True) before fun x after =>
      ∃ ν'', Sketch.RunsTo m base context ν after ν'' ∧ ν'' (x.resolve base context) =
        (xs.map fun x => ν (x.resolve base context)).foldl f (ν' (last.resolve base context)) := by
  induction xs generalizing last before ν' with
  | nil => exact Draft.writes_pure ⟨ν', h, rfl⟩
  | cons x xs ih =>
    obtain ⟨hx, hxs⟩ := List.forall_mem_cons.1 hxs
    have hvalue : m op ([last, x].map fun y => ν' (y.resolve base context)) =
        some (f (ν' (last.resolve base context)) (ν (x.resolve base context))) := by
      rw [← h.of_lt hx]
      exact hop _ _
    refine Draft.writes_bind (Draft.writes_add_runs trivial h hvalue fun y after _ hruns => ?_)
    have hrest := @ih _ after y hxs hruns
    rwa [Function.update_self] at hrest

/-- The node that an operand is, among those that are written down, has the type. -/
def Typed (ty : ValueType) (x : Operand) (xs : List Sketch) : Prop :=
  ∃ k node, x.ref = .added k ∧ xs[k]? = some node ∧ node.ty = ty

lemma typed_concat (before : List Sketch) {op : Op} {inputs : List Ref} {types : Option TypeSet}
    {x : Operand} (hx : x.ref = .added before.length) :
    Typed ty x (before ++ [⟨op, inputs, ty, types⟩]) :=
  ⟨_, _, hx, List.getElem?_concat_length, rfl⟩

/-- The last node of a chain has its type. -/
lemma typed_chain {op : Op} {last : Operand} {xs : List Operand} (h : Typed ty last before) :
    (chain op ty last xs).Writes (fun _ _ => True) before fun x after => Typed ty x after := by
  induction xs generalizing last before with
  | nil => exact Draft.writes_pure h
  | cons x xs ih =>
    exact Draft.writes_bind (Draft.writes_add trivial (ih (typed_concat before rfl)))

lemma typed_reduction (x : Operand) (xs : List Operand) :
    (reduction isMax ty x xs).Writes (fun _ _ => True) [] fun x after => Typed ty x after := by
  cases xs with
  | nil => exact Draft.writes_add trivial (typed_concat [] rfl)
  | cons y ys =>
    exact Draft.writes_bind (Draft.writes_add trivial (typed_chain (typed_concat [] rfl)))

/-- **The operands that decide the result are combined in order**, whatever a node of two operands
computes. -/
theorem writes_reduction {f : V → V → V} (hone : ∀ v, m (.limitedTruncate .noTruncate) [v] = some v)
    (htwo : ∀ v w, m (.minMax isMax) [v, w] = some (f v w)) {x : Operand} {xs : List Operand}
    (hxs : ∀ y ∈ x :: xs, Old base context y) :
    (reduction isMax ty x xs).Writes (fun _ _ => True) [] fun y after =>
      ∃ ν', Sketch.RunsTo m base context ν after ν' ∧ ν' (y.resolve base context) =
        (xs.map fun x => ν (x.resolve base context)).foldl f (ν (x.resolve base context)) := by
  cases xs with
  | nil =>
    refine Draft.writes_add_runs trivial .nil (hone _) fun y after _ hruns => ⟨_, hruns, ?_⟩
    exact Function.update_self ..
  | cons y ys => exact writes_chain htwo (List.forall_mem_cons.1 hxs).2 .nil

/-! ## The operands that decide the result -/

/-- Where the result is an int32, an argument that is none is left out for its constant. -/
lemma forall_of_minMaxType {observed : ValueType} {args : List Operand}
    (h : minMaxType isMax observed args = .int32) :
    ∀ x ∈ args, x.ty = .int32 ∨ dominated isMax x = true := by
  rw [minMaxType] at h
  split at h
  · next hboth =>
    intro x hx
    simpa using List.all_eq_true.1 (Bool.and_eq_true_iff.1 hboth).2 x hx
  · cases h

/-- **A constant that is left out** decides nothing next to an int32. -/
theorem not_beats_of_dominated {x : Operand} (h : dominated isMax x = true) {v : Number}
    (hv : x.toFacts.CanBe v) (k : Int32) : v ≠ .nan ∧ ¬v.Beats isMax (.finite k.toInt) := by
  rw [dominated] at h
  split at h
  · next n hn =>
    obtain rfl := hv.numeric hn
    cases isMax
    · exact Number.not_beats_of_ge h k
    · exact Number.not_beats_of_le h k
  · cases h

/-- **The operands that decide the result are enough** to find the least or the greatest. -/
theorem isExtreme_deciding {observed : ValueType} {args : List Operand} {v : Operand → Number}
    (hv : ∀ x ∈ args, x.toFacts.CanBe (v x)) {r : Number}
    (h : Number.IsExtreme isMax ((deciding (minMaxType isMax observed args) args).map v) r) :
    Number.IsExtreme isMax (args.map v) r := by
  by_cases hty : minMaxType isMax observed args = .int32
  · have hall := forall_of_minMaxType hty
    rw [hty, deciding, if_pos rfl] at h
    have hint : ∀ n ∈ (args.filter (·.ty = .int32)).map v, ∃ k : Int32, n = .finite k.toInt := by
      intro n hn
      obtain ⟨x, hx, rfl⟩ := List.mem_map.1 hn
      obtain ⟨hx, htyped⟩ := List.mem_filter.1 hx
      exact (hv x hx).int32 (of_decide_eq_true htyped)
    have hnan : Number.nan ∉ (args.filter (·.ty = .int32)).map v := by
      intro hmem
      obtain ⟨k, hk⟩ := hint _ hmem
      cases hk
    obtain ⟨k, rfl⟩ := hint r (h.of_not_nan hnan).1
    refine h.of_subset (List.map_subset v (List.filter_sublist.subset)) fun n hn => ?_
    obtain ⟨x, hx, rfl⟩ := List.mem_map.1 hn
    rcases hall x hx with htyped | hdominated
    · exact .inl (List.mem_map_of_mem (List.mem_filter.2 ⟨hx, decide_eq_true htyped⟩))
    · exact .inr (not_beats_of_dominated hdominated (hv x hx) k)
  · rwa [deciding, if_neg hty] at h

/-- **Combining the operands that decide the result** gives the least or the greatest of all. -/
theorem foldl_eq_extreme {observed : ValueType} {args : List Operand} {v : Operand → Number}
    (hv : ∀ x ∈ args, x.toFacts.CanBe (v x)) {x : Operand} {xs : List Operand}
    (h : deciding (minMaxType isMax observed args) args = x :: xs) :
    (xs.map v).foldl (.minMax isMax) (v x) = .extreme isMax (args.map v) := by
  have hargs : args.map v ≠ [] := by
    have hx : x ∈ args := mem_of_mem_deciding (h ▸ List.mem_cons_self ..)
    exact List.ne_nil_of_mem (List.mem_map_of_mem hx)
  have hkept := @Number.isExtreme_foldl isMax (v x) (xs.map v)
  rw [← List.map_cons, ← h] at hkept
  exact (isExtreme_deciding hv hkept).unique (Number.isExtreme_extreme hargs)

end Arithmetic

/-! ## Attempts -/

/-- Joining lists that have one element each gives their elements in order. -/
lemma foldl_append_singletons {α β : Type} (f : α → β) (before : List β) (xs : List α) :
    (xs.map fun x => [f x]).foldl (· ++ ·) before = before ++ xs.map f := by
  induction xs generalizing before with
  | nil => exact (List.append_nil before).symm
  | cons x xs ih =>
    rw [List.map_cons, List.foldl_cons, ih, List.append_assoc]
    rfl

/-- **Running the nodes of a chain** combines the operands in order. -/
theorem Builder.Pushes.run_reduction {V : Type} {b b' : Builder} {isMax : Bool} {ty : ValueType}
    {x : Operand} {xs : List Operand} {context : NodeId} {nodes : List Sketch}
    (h : b.Pushes b' (Arithmetic.reduction isMax ty x xs) context nodes)
    (hold : ∀ y ∈ x :: xs, Arithmetic.Old b.graph.size context y) (m : Meaning V) (f : V → V → V)
    (ν : NodeId → V)
    (hone : ∀ v, m (.limitedTruncate .noTruncate) [v] = some v)
    (htwo : ∀ v w, m (.minMax isMax) [v, w] = some (f v w)) :
    ∃ ν', b'.graph.run m b.graph.size ν = some ν' ∧
      ν' ((Arithmetic.reduction isMax ty x xs 0).1.resolve b.graph.size context) =
        (xs.map fun y => ν (y.resolve b.graph.size context)).foldl f
          (ν (x.resolve b.graph.size context)) := by
  obtain ⟨ν', hruns, hvalue⟩ := h.written (Arithmetic.writes_reduction hone htwo hold)
  exact ⟨ν', h.run hruns, hvalue⟩

/-- **The result is the least or the greatest of the arguments**, computed by the new nodes. -/
structure Builder.FindsExtreme (b b' : Builder) (isMax : Bool) (args : List NodeId) (top : NodeId)
    (n : Node) : Prop where
  stack : b'.stack = b.stack ++ [top]
  node : b'.graph.node? top = some n
  /-- Whatever numbers the arguments are, the value is the least or the greatest of all of them. -/
  value : ∀ ν : NodeId → Number,
    (∀ id ∈ args, ∀ facts, b.facts? id = some facts → facts.CanBe (ν id)) →
    ∃ ν', b'.graph.run .extremes b.graph.size ν = some ν' ∧ ν' top = .extreme isMax (args.map ν)
  /-- Unless it is an int32, it is computed from all arguments, in order. -/
  origins : n.ty ≠ .int32 →
    ∃ origins, b'.graph.run .leaves b.graph.size (fun id => [id]) = some origins ∧
      origins top = args

namespace Inliner

variable {i : Inliner} {stubs : StubStore} {b b' : Builder} {call : Call NodeId}
  {r : Call Operand} {p : Plan} {isMax : Bool} {f : FunctionObject}

/-- The plan for the least or the greatest. -/
lemma Emits.minMax_eq_ok (h : i.Emits b call (.function f) r p b')
    (hnative : f.native? = some (.extreme isMax)) : Arithmetic.minMax isMax (i.site r) = .ok p :=
  h.decide_eq_ok (q := .minMax isMax) hnative (by cases isMax <;> rfl)

/-- **What a call for the least or the greatest computes**, and when operands are left out. -/
theorem attempt_extreme (h : (i.attempt stubs b call (.function f)).result = .ok .inlined)
    (hnative : f.native? = some (.extreme isMax)) :
    ∃ top n,
      b.FindsExtreme (i.attempt stubs b call (.function f)).builder isMax call.args top n := by
  obtain ⟨r, p, hemits⟩ := exists_emits h
  obtain ⟨x, xs, hdeciding, rfl⟩ := Arithmetic.exists_reduction (hemits.minMax_eq_ok hnative)
  obtain ⟨context, nodes, hpushes⟩ := hemits.pushes
  have hresolved := hemits.resolved
  have hold : ∀ y ∈ x :: xs, Arithmetic.Old b.graph.size context y := by
    refine fun y hy => hresolved.forall_args (fun id _ z hz => ?_) y
      (Arithmetic.mem_of_mem_deciding (hdeciding ▸ hy))
    obtain ⟨href, hlt⟩ := Resolved.of_operand? hz
    rw [Arithmetic.Old, Operand.resolve, href]
    exact hlt
  obtain ⟨k, node, href, hnode, hty⟩ := hpushes.written (Arithmetic.typed_reduction x xs)
  obtain ⟨n, hn, hblueprint⟩ := hpushes.added hnode
  refine ⟨_, n, hpushes.stack, ?_, fun ν hν => ?_, fun hne => ?_⟩
  · rw [Operand.resolve, href]
    exact hn
  · obtain ⟨ν', hrun, hvalue⟩ := hpushes.run_reduction hold .extremes (.minMax isMax) ν
      (fun _ => rfl) fun _ _ => rfl
    have hcanBe : ∀ y ∈ r.args, y.toFacts.CanBe (ν (y.resolve b.graph.size context)) := by
      refine hresolved.forall_args fun id hid y hy => ?_
      obtain ⟨facts, hfacts, rfl⟩ := Option.map_eq_some_iff.1 hy
      exact hν id hid facts hfacts
    refine ⟨ν', hrun, ?_⟩
    rw [hvalue, ← hresolved.map_args ν b.graph.size context]
    exact Arithmetic.foldl_eq_extreme hcanBe hdeciding
  · obtain ⟨origins, hrun, hvalue⟩ := hpushes.run_reduction hold .leaves (· ++ ·) (fun id => [id])
      (by simp [Meaning.leaves]) (by simp [Meaning.leaves])
    have hty' : n.ty = Arithmetic.minMaxType isMax (i.site r).returnType (i.site r).args :=
      (congrArg Blueprint.ty hblueprint).trans hty
    rw [Arithmetic.deciding, if_neg (hty' ▸ hne)] at hdeciding
    have hargs : r.args = x :: xs := hdeciding
    have hall := hresolved.map_args id b.graph.size context
    rw [hargs, List.map_id, List.map_cons] at hall
    refine ⟨origins, hrun, ?_⟩
    rw [hvalue, foldl_append_singletons, ← hall]
    rfl

end Inliner

/-- The lesser of an int32 and a constant that is greater than every int32. -/
def Scenario.minHuge : Scenario where
  callee := .function (.ofNative ⟨1⟩ .mathMin)
  args := [.typed .int32 none, .constant (.double ⟨0x41F0000000000000⟩)]
  resultTypes := some (.ofType .int32)

/-- The constant is left out, and still the result is the lesser of both. -/
theorem attempt_extreme_minHuge :
    (Scenario.minHuge.attempt {} Scenario.minHuge.builder).result = .ok .inlined ∧
    ∃ ν', (Scenario.minHuge.attempt {} Scenario.minHuge.builder).builder.graph.run .extremes 4
        (fun id => if id = ⟨2⟩ then .finite 3 else .finite 4294967296) = some ν' ∧
      ν' ⟨4⟩ = .extreme false [.finite 3, .finite 4294967296] ∧ ν' ⟨4⟩ = .finite 3 := by
  have hinlined : (Scenario.minHuge.attempt {} Scenario.minHuge.builder).result = .ok .inlined := by
    decide +kernel
  have hstack : (Scenario.minHuge.attempt {} Scenario.minHuge.builder).builder.stack = [⟨4⟩] := by
    decide +kernel
  obtain ⟨top, n, hextreme⟩ := @Inliner.attempt_extreme _ _ _ _ false _ hinlined rfl
  obtain rfl : top = ⟨4⟩ := (List.cons.inj (hextreme.stack.symm.trans hstack)).1
  have hgiven : ∀ id ∈ Scenario.minHuge.call.args, ∀ facts,
      Scenario.minHuge.builder.facts? id = some facts →
      facts.CanBe (if id = ⟨2⟩ then .finite 3 else .finite 4294967296) := by
    intro id hid facts hfacts
    rcases hid with _ | ⟨_, _ | ⟨_, ⟨⟩⟩⟩
    · obtain rfl := Option.some.inj hfacts
      exact ⟨fun _ => ⟨3, rfl⟩, nofun⟩
    · obtain rfl := Option.some.inj hfacts
      refine ⟨nofun, fun c hc => ?_⟩
      obtain rfl := Option.some.inj hc
      decide +kernel
  obtain ⟨ν', hrun, hvalue⟩ := hextreme.value _ hgiven
  exact ⟨hinlined, ν', hrun, hvalue, hvalue.trans (by decide)⟩

end CallSite
