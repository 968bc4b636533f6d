import CallSite.Specialize.Signature
import Mathlib.Data.List.Basic

/-!
# The operations of a plan

Which operations the nodes of a plan have can be told from the way its steps are written down, so
there is one rule for each way.  Guards of the result are left out: what they compute is always the
same, and where they stand is settled by the order of the steps.

* `Plan.ops`, `Draft.ops` — the operations of the nodes that are added, in order.
* `Draft.Emits`, `Plan.Emits` — all of them are of a kind.
* `Decide.Yields` — a decision that gives a value gives one with a property.
-/

namespace CallSite

/-! ## Decisions -/

namespace Decide

variable {α β : Type} {holds : α → Prop}

/-- **A value that the decision gives has the property.** -/
def Yields (x : Decide α) (holds : α → Prop) : Prop := ∀ a, x = .ok a → holds a

@[simp] lemma yields_pure {a : α} : Yields (pure a) holds ↔ holds a :=
  ⟨fun h => h a rfl, fun h b hb => by cases hb; exact h⟩

@[simp] lemma yields_ok {a : α} : Yields (.ok a) holds ↔ holds a := yields_pure

@[simp] lemma yields_error (e : Stop) : Yields (.error e) holds := nofun

@[simp] lemma yields_decline (reason : Refusal) : Yields (decline reason) holds := nofun

@[simp] lemma yields_refuse (o : Obstacle) : Yields (refuse o) holds := nofun

@[simp] lemma yields_bind {x : Decide β} {f : β → Decide α} :
    Yields (x >>= f) holds ↔ ∀ b, x = .ok b → Yields (f b) holds := by
  cases x with
  | error e => exact ⟨fun _ => nofun, fun _ => nofun⟩
  | ok b => exact ⟨fun h b' hb => by cases hb; exact h, fun h => h b rfl⟩

@[simp] lemma yields_map {x : Decide β} {f : β → α} :
    Yields (f <$> x) holds ↔ ∀ b, x = .ok b → holds (f b) := by
  cases x with
  | error e => exact ⟨nofun, nofun⟩
  | ok b => exact ⟨fun h b' hb => by cases hb; exact h _ rfl, fun h => yields_ok.2 (h b rfl)⟩

@[simp] lemma yields_ite {c : Prop} [Decidable c] {x y : Decide α} :
    Yields (if c then x else y) holds ↔ (c → x.Yields holds) ∧ (¬c → y.Yields holds) := by
  split_ifs <;> simp [*]

lemma Yields.mono {x : Decide α} {holds' : α → Prop} (h : x.Yields holds)
    (weaken : ∀ a, holds a → holds' a) : x.Yields holds' :=
  fun a ha => weaken a (h a ha)

end Decide

/-! ## Operations of steps -/

/-- The operation of the node that a step adds, guards of the result apart. -/
def Step.op? : Step → Option Op
  | .add op .. => some op
  | .push _ | .resume _ | .guardTop .. => none

namespace Draft

variable {α β : Type} {S : Op → Prop}

/-- **The operations of the nodes that a draft adds**, after `n` nodes. -/
def ops (d : Draft α) (n : Nat) : List Op := (d n).2.2.filterMap Step.op?

@[simp] lemma ops_pure (a : α) (n : Nat) : (pure a : Draft α).ops n = [] := rfl

@[simp] lemma ops_bind (x : Draft α) (f : α → Draft β) (n : Nat) :
    (x >>= f).ops n = x.ops n ++ (f (x n).1).ops (x n).2.1 :=
  List.filterMap_append

@[simp] lemma ops_add (op : Op) (inputs : List Operand) (ty : ValueType) (types : Option TypeSet)
    (n : Nat) : (add op inputs ty types).ops n = [op] := rfl

@[simp] lemma ops_push (v : Operand) (n : Nat) : (push v).ops n = [] := rfl

@[simp] lemma ops_resumeAfter (v : Operand) (n : Nat) : (resumeAfter v).ops n = [] := rfl

@[simp] lemma ops_guardTop (v : Operand) (observed : TypeSet) (barrier : Barrier) (n : Nat) :
    (guardTop v observed barrier).ops n = [] := by
  cases barrier <;> rfl

/-! ## Drafts of one kind -/

/-- **All nodes that the draft adds are of a kind.** -/
def Emits (S : Op → Prop) (d : Draft α) : Prop := ∀ n, ∀ op ∈ d.ops n, S op

lemma emits_pure (a : α) : (pure a : Draft α).Emits S :=
  fun _ _ hop => absurd hop List.not_mem_nil

lemma emits_bind {x : Draft α} {f : α → Draft β} (hx : x.Emits S) (hf : ∀ a, (f a).Emits S) :
    (x >>= f).Emits S := by
  intro n op hop
  rw [ops_bind] at hop
  rcases List.mem_append.1 hop with hop | hop
  · exact hx n op hop
  · exact hf _ _ op hop

lemma emits_add {op : Op} {inputs : List Operand} {ty : ValueType} {types : Option TypeSet}
    (h : S op) : (add op inputs ty types).Emits S := by
  intro n op' hop
  rw [ops_add, List.mem_singleton] at hop
  exact hop ▸ h

lemma emits_push (v : Operand) : (push v).Emits S :=
  fun _ _ hop => absurd hop List.not_mem_nil

lemma emits_resumeAfter (v : Operand) : (resumeAfter v).Emits S :=
  fun _ _ hop => absurd hop List.not_mem_nil

lemma emits_guardTop (v : Operand) (observed : TypeSet) (barrier : Barrier) :
    (guardTop v observed barrier).Emits S := by
  intro n op hop
  rw [ops_guardTop] at hop
  exact absurd hop List.not_mem_nil

/-- A node that goes on with the draft behind it. -/
lemma emits_add_bind {op : Op} {inputs : List Operand} {ty : ValueType} {types : Option TypeSet}
    {f : Operand → Draft β} (h : S op) (hf : ∀ v, (f v).Emits S) :
    (add op inputs ty types >>= f).Emits S :=
  emits_bind (emits_add h) hf

lemma emits_result {op : Op} {inputs : List Operand} {ty : ValueType} {types : Option TypeSet}
    (h : S op) : (result op inputs ty types).Emits S :=
  emits_add_bind h emits_push

lemma emits_pushConstant {c : Constant} (h : S (.constant c)) : (pushConstant c).Emits S :=
  emits_result h

lemma emits_effectfulResult {op : Op} {inputs : List Operand} {ty : ValueType}
    {types : Option TypeSet} (h : S op) : (effectfulResult op inputs ty types).Emits S :=
  emits_add_bind h fun v => emits_bind (emits_push v) fun _ => emits_resumeAfter v

/-- A node without a result, whose result is a constant, with or without an effect. -/
lemma emits_effect {op : Op} {inputs : List Operand} {ty : ValueType} {c : Constant}
    (h : S op) (hc : S (.constant c)) :
    (do
      let v ← add op inputs ty
      pushConstant c
      resumeAfter v).Emits S :=
  emits_add_bind h fun v => emits_bind (emits_pushConstant hc) fun _ => emits_resumeAfter v

end Draft

/-! ## Plans -/

namespace Plan

variable {S : Op → Prop}

/-- **The operations of the nodes that a plan adds**, in order. -/
def ops (p : Plan) : List Op := p.steps.filterMap Step.op?

/-- **All nodes that the plan adds are of a kind.** -/
def Emits (S : Op → Prop) (p : Plan) : Prop := ∀ op ∈ p.ops, S op

lemma ops_of_steps {p : Plan} {d : Draft Unit} (h : p.steps = d.steps) : p.ops = d.ops 0 := by
  rw [ops, h]
  rfl

lemma emits_of_steps {p : Plan} {d : Draft Unit} (h : p.steps = d.steps) (hd : d.Emits S) :
    p.Emits S := by
  rw [Emits, ops_of_steps h]
  exact hd 0

lemma emits_relyingOn {facts : List Dependency} {d : Draft Unit} (h : d.Emits S) :
    (relyingOn facts d).Emits S :=
  emits_of_steps rfl h

end Plan

end CallSite
