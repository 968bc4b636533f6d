import CallSite.Proofs.Graph
import CallSite.Proofs.Related
import CallSite.Specialize.Attempt

/-!
# Looking up the operands of a call

Before a call is decided, its operands are looked up in stack order.  The first handle that belongs
to no node ends the attempt; otherwise every operand stands for a node that is there.

* `Call.operands_resolve` — resolving a call is looking up its operands one after the other.
* `Inliner.resolveOperands_eq_error_iff` — the handle that is told is the first that is missing.
* `Inliner.Resolved` — what is known of a call once its operands are looked up.
-/

namespace CallSite

/-! ## Lists of results -/

/-- A list of computations succeeds iff each of them does. -/
lemma mapM_eq_ok_iff {ε α β : Type} {f : α → Except ε β} {xs : List α} {ys : List β} :
    xs.mapM f = .ok ys ↔ List.Forall₂ (fun x y => f x = .ok y) xs ys := by
  induction xs generalizing ys with
  | nil =>
    rw [List.mapM_nil, List.forall₂_nil_left_iff]
    exact ⟨fun h => (Except.ok.inj h).symm, fun h => h ▸ rfl⟩
  | cons x xs ih =>
    rw [List.mapM_cons, List.forall₂_cons_left_iff]
    cases hx : f x with
    | error e =>
      constructor
      · nofun
      · rintro ⟨_, _, h, -⟩
        cases h
    | ok y =>
      cases hxs : xs.mapM f with
      | error e =>
        constructor
        · nofun
        · rintro ⟨_, _, -, h, -⟩
          rw [← ih, hxs] at h
          cases h
      | ok zs =>
        have hzs := ih.1 hxs
        constructor
        · intro h
          cases h
          exact ⟨y, zs, rfl, hzs, rfl⟩
        · rintro ⟨y', zs', hy, hzs', rfl⟩
          cases hy
          rw [← ih, hxs] at hzs'
          cases hzs'
          rfl

/-- A lookup that tells the handle that it does not find. -/
def lookup {α β : Type} (f : α → Option β) (x : α) : Except α β :=
  match f x with
  | some y => .ok y
  | none => .error x

lemma lookup_eq_ok_iff {α β : Type} {f : α → Option β} {x : α} {y : β} :
    lookup f x = .ok y ↔ f x = some y := by
  rw [lookup]
  cases f x <;> simp

/-- **Of several lookups the first that fails is told.** -/
theorem mapM_lookup_eq_error_iff {α β : Type} {f : α → Option β} {xs : List α} {x : α} :
    xs.mapM (lookup f) = .error x ↔ xs.find? (fun z => (f z).isNone) = some x := by
  induction xs with
  | nil => exact ⟨nofun, nofun⟩
  | cons z xs ih =>
    rw [List.mapM_cons, List.find?_cons, lookup]
    cases hz : f z with
    | none => exact ⟨fun h => by cases h; rfl, fun h => by cases h; rfl⟩
    | some y =>
      show (xs.mapM (lookup f) >>= fun ys => pure (y :: ys)) = .error x ↔
        xs.find? (fun z => (f z).isNone) = some x
      rw [← ih]
      cases xs.mapM (lookup f) with
      | error e => rfl
      | ok ys => exact ⟨nofun, nofun⟩

/-! ## Operands -/

/-- Resolving a call is looking up its operands one after the other. -/
lemma Call.operands_resolve {ε ν μ : Type} (c : Call ν) (f : ν → Except ε μ) :
    Call.operands <$> c.resolve f = c.operands.mapM f := by
  rw [resolve, operands]
  simp [operands]

/-- A resolved call differs in its operands alone. -/
lemma Call.resolve_eq_ok {ε ν μ : Type} {c : Call ν} {f : ν → Except ε μ} {d : Call μ}
    (h : c.resolve f = .ok d) :
    d = { c with callee := d.callee, receiver := d.receiver, args := d.args } := by
  rw [resolve] at h
  cases hcallee : f c.callee with
  | error e => rw [hcallee] at h; cases h
  | ok callee =>
    cases hreceiver : f c.receiver with
    | error e => rw [hcallee, hreceiver] at h; cases h
    | ok receiver =>
      cases hargs : c.args.mapM f with
      | error e => rw [hcallee, hreceiver, hargs] at h; cases h
      | ok args =>
        rw [hcallee, hreceiver, hargs] at h
        cases h
        rfl

namespace Inliner

/-- **A call whose operands are looked up**: it differs from the call in its operands alone, and
each operand is behind the handle that stands in its place. -/
structure Resolved (b : Builder) (call : Call NodeId) (r : Call Operand) : Prop where
  same : r = { call with callee := r.callee, receiver := r.receiver, args := r.args }
  operands : List.Forall₂ (fun id x => b.operand? id = some x) call.operands r.operands

lemma resolveOperands_eq_resolve (b : Builder) (call : Call NodeId) :
    resolveOperands b call = call.resolve (lookup b.operand?) := by
  rw [resolveOperands]
  congr 1
  funext id
  rw [lookup]
  cases b.operand? id <;> rfl

lemma resolved_of_eq_ok {b : Builder} {call : Call NodeId} {r : Call Operand}
    (h : resolveOperands b call = .ok r) : Resolved b call r := by
  rw [resolveOperands_eq_resolve] at h
  refine ⟨Call.resolve_eq_ok h, ?_⟩
  have hmap := call.operands_resolve (lookup b.operand?)
  rw [h] at hmap
  simpa only [lookup_eq_ok_iff] using mapM_eq_ok_iff.1 hmap.symm

lemma operand?_isNone (b : Builder) (id : NodeId) :
    (b.operand? id).isNone = (b.graph.node? id).isNone := by
  rw [Builder.operand?, Builder.facts?]
  cases b.graph.node? id <;> rfl

/-- **The handle that is told** is the first operand that is not in the graph. -/
theorem resolveOperands_eq_error_iff {b : Builder} {call : Call NodeId} {id : NodeId} :
    resolveOperands b call = .error id ↔
      call.operands.find? (fun id => (b.graph.node? id).isNone) = some id := by
  have hmap := call.operands_resolve (lookup b.operand?)
  simp only [← operand?_isNone]
  rw [← mapM_lookup_eq_error_iff, ← hmap, resolveOperands_eq_resolve]
  cases call.resolve (lookup b.operand?) with
  | error e => exact ⟨fun h => by cases h; rfl, fun h => by cases h; rfl⟩
  | ok r => exact ⟨nofun, nofun⟩

namespace Resolved

variable {b : Builder} {call : Call NodeId} {r : Call Operand}

lemma argc_eq (h : Resolved b call r) : r.argc = call.argc := by
  have hlength := h.operands.length_eq
  rw [Call.operands, Call.operands, List.length_cons, List.length_cons, List.length_cons,
    List.length_cons] at hlength
  rw [Call.argc, Call.argc]
  omega

lemma kind_eq (h : Resolved b call r) : r.kind = call.kind := congrArg Call.kind h.same

/-- An operand that is found is behind its handle, and the handle is in the graph. -/
lemma of_operand? {id : NodeId} {x : Operand} (h : b.operand? id = some x) :
    x.ref = .node id ∧ id.index < b.graph.size := by
  rw [Builder.operand?, Builder.facts?] at h
  cases hn : b.graph.node? id with
  | none => rw [hn] at h; cases h
  | some n =>
    rw [hn] at h
    cases h
    exact ⟨rfl, Graph.lt_size_of_node? hn⟩

/-- The operands of the call are in the graph. -/
lemma lt_size (h : Resolved b call r) : ∀ id ∈ call.operands, id.index < b.graph.size := by
  intro id hid
  obtain ⟨x, -, hx⟩ := exists_mem_of_forall₂ h.operands hid
  exact (of_operand? hx).2

/-- An operand that is looked up stands for a node of the graph. -/
lemma exists_node (h : Resolved b call r) {x : Operand} (hx : x ∈ r.operands) :
    ∃ id : NodeId, x.ref = .node id ∧ id.index < b.graph.size := by
  obtain ⟨id, -, hid⟩ := exists_mem_of_forall₂ h.operands.flip hx
  exact ⟨id, of_operand? hid⟩

/-! ### What a call keeps -/

lemma site_eq (h : Resolved b call r) : r.site = call.site := congrArg Call.site h.same

lemma resultTypes_eq (h : Resolved b call r) : r.resultTypes = call.resultTypes :=
  congrArg Call.resultTypes h.same

lemma constructing_eq (h : Resolved b call r) : r.constructing = call.constructing :=
  congrArg Call.constructing h.same

lemma resultEscapes_eq (h : Resolved b call r) : r.resultEscapes = call.resultEscapes :=
  congrArg Call.resultEscapes h.same

lemma returnType_eq (h : Resolved b call r) : r.returnType = call.returnType :=
  congrArg Call.returnType h.same

lemma resultPopped_eq (h : Resolved b call r) : r.resultPopped = call.resultPopped :=
  congrArg Call.resultPopped h.same

/-! ### Operands behind their handles -/

/-- Operands that were looked up are behind the handles that the call gives. -/
lemma operands_eq (h : Resolved b call r) (base : Nat) (context : NodeId) :
    r.operands.map (·.ref.resolve base context) = call.operands := by
  have hoperands : r.operands.map (·.ref.resolve base context) = call.operands.map id := by
    refine map_eq_of_forall₂ (h.operands.imp fun handle x hx => ?_)
    rw [(of_operand? hx).1]
    rfl
  rwa [List.map_id] at hoperands

lemma receiver_eq (h : Resolved b call r) (base : Nat) (context : NodeId) :
    r.receiver.ref.resolve base context = call.receiver :=
  (List.cons.inj (List.cons.inj (h.operands_eq base context)).2).1

lemma args_eq (h : Resolved b call r) (base : Nat) (context : NodeId) :
    r.args.map (·.ref.resolve base context) = call.args :=
  (List.cons.inj (List.cons.inj (h.operands_eq base context)).2).2

/-- Each argument is looked up behind its handle. -/
lemma forall₂_args (h : Resolved b call r) :
    List.Forall₂ (fun id x => b.operand? id = some x) call.args r.args := by
  cases h.operands with
  | cons _ htail => cases htail with
    | cons _ hargs => exact hargs

lemma args_eq_singleton (h : Resolved b call r) {x : Operand} (hx : r.args = [x]) (base : Nat)
    (context : NodeId) : call.args = [x.ref.resolve base context] := by
  rw [← h.args_eq base context, hx]
  rfl

/-- What the graph knows of an operand. -/
lemma facts?_operand (h : Resolved b call r) (base : Nat) (context : NodeId) {x : Operand}
    (hx : x ∈ r.operands) : b.facts? (x.ref.resolve base context) = some x.toFacts := by
  obtain ⟨id, -, hid⟩ := exists_mem_of_forall₂ h.operands.flip hx
  obtain ⟨f, hf, rfl⟩ := Option.map_eq_some_iff.1 hid
  exact hf

/-- What the graph knows of the receiver. -/
lemma facts?_receiver (h : Resolved b call r) :
    b.facts? call.receiver = some r.receiver.toFacts := by
  rw [← h.receiver_eq 0 ⟨0⟩]
  exact h.facts?_operand 0 ⟨0⟩ (List.mem_cons_of_mem _ (List.mem_cons_self ..))

lemma facts?_arg (h : Resolved b call r) (base : Nat) (context : NodeId) {x : Operand}
    (hx : x ∈ r.args) : b.facts? (x.ref.resolve base context) = some x.toFacts :=
  h.facts?_operand base context (List.mem_cons_of_mem _ (List.mem_cons_of_mem _ hx))

lemma operand?_receiver (h : Resolved b call r) : b.operand? call.receiver = some r.receiver := by
  cases h.operands with
  | cons _ htail => cases htail with
    | cons hreceiver _ => exact hreceiver

end Resolved

end Inliner

end CallSite
