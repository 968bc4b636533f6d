import CallSite.Proofs.Progress

/-!
# How drafts end

Most specializations write their steps down in one of a few ways: a node that is the result, a node
with an effect that is the result, an effect whose result is a constant, a value that is guarded.
Each way has one rule here, from any progress at which the result is still to come.

* `Progress.Open` — the result is still to come, and nothing is left open so far.
* `Progress.Settled` — the result is there, and nothing is left open so far.
* `Draft.Prepares` — a draft that only adds nodes without effects and gives one of them, or a value
  that was there.
* `Draft.Completes` — a draft after which nothing is left open.
-/

namespace CallSite

namespace Progress

/-- Nodes without effects were added. -/
def grow (σ : Progress) (n : Nat) : Progress := { σ with added := σ.added + n }

/-- **The result is still to come**, and nothing is left open so far. -/
structure Open (σ : Progress) : Prop where
  result : σ.result = none
  pending : σ.pending = none
  unguarded : σ.guarded = false
  settled_le : σ.settled ≤ σ.added

lemma open_start : Open {} := ⟨rfl, rfl, rfl, Nat.le_refl 0⟩

lemma Open.grow {σ : Progress} (h : σ.Open) (n : Nat) : (σ.grow n).Open :=
  ⟨h.result, h.pending, h.unguarded, Nat.le_trans h.settled_le (Nat.le_add_right _ n)⟩

/-- **Between two effects**: the result is pushed, and no node waits for its resume point. -/
structure Settled (σ : Progress) : Prop where
  pushed : σ.result.isSome = true
  pending : σ.pending = none
  unguarded : σ.guarded = false
  settled_le : σ.settled ≤ σ.added

lemma Settled.grow {σ : Progress} (h : σ.Settled) (n : Nat) : (σ.grow n).Settled :=
  ⟨h.pushed, h.pending, h.unguarded, Nat.le_trans h.settled_le (Nat.le_add_right _ n)⟩

lemma Settled.finished {σ : Progress} (h : σ.Settled) : σ.Finished := ⟨h.pushed, h.pending⟩

/-- A node without an effect changes only how many nodes there are. -/
lemma add_quiet (σ : Progress) {op : Op} (h : op.isEffectful = false) : σ.add op = σ.grow 1 := by
  rw [add, Progress.grow]
  rw [h]
  rfl

/-- A node just added is the only one that can wait for its resume point. -/
lemma waiting_add {σ : Progress} (h : σ.pending = none) (op : Op) {j : Nat}
    (hj : (σ.add op).pending = some j) : j = σ.added := by
  rw [add, h] at hj
  dsimp only at hj
  split at hj
  · exact (Option.some.inj hj).symm
  · cases hj

lemma grow_grow (σ : Progress) (m n : Nat) : (σ.grow m).grow n = σ.grow (m + n) := by
  simp only [Progress.grow, Nat.add_assoc]

end Progress

/-- What is available stays so when nodes are added. -/
lemma Ref.Available.grow {scope : List Ref} {σ : Progress} {r : Ref}
    (h : r.Available scope σ.added) (n : Nat) : r.Available scope (σ.grow n).added :=
  h.mono (Nat.le_add_right _ n)

namespace Draft

open Progress (Open)

variable {α β : Type} {scope : List Ref} {σ : Progress}

/-! ## Preparing operands -/

/-- **The draft only adds nodes without effects**, and gives a value that can be mentioned. -/
def Prepares (scope : List Ref) (σ : Progress) (d : Draft Operand) : Prop :=
  d.Reaches scope σ fun v σ' => v.ref.Available scope σ'.added ∧ ∃ n, σ' = σ.grow n

/-- A value that is there needs no step. -/
lemma prepares_pure {v : Operand} (h : v.ref.Available scope σ.added) :
    Prepares scope σ (pure v) :=
  reaches_pure ⟨h, 0, rfl⟩

lemma prepares_add {op : Op} {inputs : List Operand} {ty : ValueType} {types : Option TypeSet}
    (available : ∀ x ∈ inputs, x.ref.Available scope σ.added) (unguarded : σ.guarded = false)
    (quiet : op.isEffectful = false) :
    Prepares scope σ (add op inputs ty types) := by
  refine reaches_add available unguarded (by rw [quiet]; nofun) ?_
  rw [σ.add_quiet quiet]
  exact ⟨.inr ⟨σ.added, Nat.lt_succ_self _, rfl⟩, 1, rfl⟩

lemma prepares_boundsCheck {index length : Operand}
    (hindex : index.ref.Available scope σ.added) (hlength : length.ref.Available scope σ.added)
    (unguarded : σ.guarded = false) : Prepares scope σ (boundsCheck index length) :=
  prepares_add (by simp [hindex, hlength]) unguarded rfl

/-- One preparation after another. -/
lemma prepares_bind {x : Draft Operand} {f : Operand → Draft Operand} (hx : Prepares scope σ x)
    (hf : ∀ v n, v.ref.Available scope (σ.grow n).added → Prepares scope (σ.grow n) (f v)) :
    Prepares scope σ (x >>= f) := by
  refine reaches_bind (hx.imp ?_)
  rintro v σ' ⟨hv, n, rfl⟩
  refine (hf v n hv).imp ?_
  rintro w σ'' ⟨hw, m, rfl⟩
  exact ⟨hw, n + m, σ.grow_grow n m⟩

/-- Preparing an operand and going on with it. -/
lemma Prepares.then {x : Draft Operand} {f : Operand → Draft β} {holds : β → Progress → Prop}
    (hx : Prepares scope σ x)
    (hf : ∀ v n, v.ref.Available scope (σ.grow n).added → (f v).Reaches scope (σ.grow n) holds) :
    (x >>= f).Reaches scope σ holds := by
  refine reaches_bind (hx.imp ?_)
  rintro v σ' ⟨hv, n, rfl⟩
  exact hf v n hv

/-! ## Ending -/

/-- **Nothing is left open after the draft.** -/
def Completes (scope : List Ref) (σ : Progress) (d : Draft Unit) : Prop :=
  d.Reaches scope σ fun _ σ' => σ'.Finished

lemma completes_push {v : Operand} (h : σ.Open) (hv : v.ref.Available scope σ.added) :
    Completes scope σ (push v) :=
  reaches_push hv h.result ⟨rfl, h.pending⟩

/-- A prepared value that is the result. -/
lemma Prepares.completes {d : Draft Operand} (h : Prepares scope σ d) (hσ : σ.Open) :
    Completes scope σ (d >>= push) :=
  h.then fun _ n hv => completes_push (hσ.grow n) hv

/-- A node without an effect that is the result. -/
lemma completes_result {op : Op} {inputs : List Operand} {ty : ValueType}
    {types : Option TypeSet} (h : σ.Open)
    (available : ∀ x ∈ inputs, x.ref.Available scope σ.added) (quiet : op.isEffectful = false) :
    Completes scope σ (result op inputs ty types) :=
  (prepares_add available h.unguarded quiet).completes h

lemma completes_pushConstant {c : Constant} (h : σ.Open) :
    Completes scope σ (pushConstant c) :=
  completes_result h (by simp) rfl

/-- A node that is the result and that execution can be resumed after. -/
lemma completes_effectfulResult {op : Op} {inputs : List Operand} {ty : ValueType}
    {types : Option TypeSet} (h : σ.Open)
    (available : ∀ x ∈ inputs, x.ref.Available scope σ.added) :
    Completes scope σ (effectfulResult op inputs ty types) := by
  refine reaches_bind (reaches_add available h.unguarded (fun _ => h.pending) ?_)
  refine reaches_bind (reaches_push (.inr ⟨σ.added, Nat.lt_succ_self _, rfl⟩) h.result ?_)
  exact reaches_resumeAfter rfl h.settled_le (Nat.lt_succ_self _) rfl h.unguarded
    (fun _ hj => Progress.waiting_add h.pending op hj) ⟨rfl, rfl⟩

/-- An effect whose result is a constant. -/
lemma completes_effect {op : Op} {inputs : List Operand} {ty : ValueType} {c : Constant}
    (h : σ.Open) (available : ∀ x ∈ inputs, x.ref.Available scope σ.added) :
    Completes scope σ (do
      let v ← add op inputs ty
      pushConstant c
      resumeAfter v) := by
  refine reaches_bind (reaches_add available h.unguarded (fun _ => h.pending) ?_)
  refine reaches_bind (reaches_bind (reaches_add (by simp) h.unguarded nofun ?_))
  refine reaches_push (.inr ⟨_, Nat.lt_succ_self _, rfl⟩) h.result ?_
  have there : σ.added < ((σ.add op).add (.constant c)).added := by
    show σ.added < σ.added + 1 + 1
    omega
  exact reaches_resumeAfter rfl h.settled_le there rfl h.unguarded
    (fun _ hj => Progress.waiting_add h.pending op hj) ⟨rfl, rfl⟩

/-- A node that is the result, resumed after, and guarded if need be. -/
lemma completes_guarded {op : Op} {inputs : List Operand} {ty : ValueType} {observed : TypeSet}
    {barrier : Barrier} (h : σ.Open)
    (available : ∀ x ∈ inputs, x.ref.Available scope σ.added) :
    Completes scope σ (do
      let v ← add op inputs ty
      push v
      resumeAfter v
      guardTop v observed barrier) := by
  refine reaches_bind (reaches_add available h.unguarded (fun _ => h.pending) ?_)
  refine reaches_bind (reaches_push (.inr ⟨σ.added, Nat.lt_succ_self _, rfl⟩) h.result ?_)
  refine reaches_bind (reaches_resumeAfter rfl h.settled_le (Nat.lt_succ_self _) rfl h.unguarded
    (fun _ hj => Progress.waiting_add h.pending op hj) ?_)
  exact reaches_guardTop rfl h.unguarded rfl (fun _ => ⟨rfl, rfl⟩) fun _ => ⟨rfl, rfl⟩

/-- **An effect after the result is pushed** is settled by its own resume point. -/
theorem reaches_resumed {op : Op} {inputs : List Operand} {holds : Unit → Progress → Prop}
    (h : σ.Settled) (available : ∀ x ∈ inputs, x.ref.Available scope σ.added)
    (hend : ∀ σ', σ'.Settled → holds () σ') :
    (add op inputs .noValue).Reaches scope σ
      fun v σ' => (resumeAfter v).Reaches scope σ' holds := by
  refine reaches_add available h.unguarded (fun _ => h.pending) ?_
  refine reaches_resumeAfter rfl h.settled_le (Nat.lt_succ_self _) h.pushed h.unguarded
    (fun _ hj => Progress.waiting_add h.pending op hj) ?_
  exact hend _ ⟨h.pushed, rfl, h.unguarded, Nat.le_refl _⟩

end Draft

/-! ## Operands of a call -/

namespace Site

variable {s : Site} {usesContext : Bool} {n : Nat}

@[simp] lemma receiver_available : s.receiver.ref.Available (s.scope usesContext) n := by
  left
  simp [scope]

lemma arg_available {x : Operand} (h : x ∈ s.args) :
    x.ref.Available (s.scope usesContext) n := by
  left
  have := List.mem_map_of_mem (f := (·.ref)) h
  simp [scope, this]

@[simp] lemma context_available : Draft.context.ref.Available (s.scope true) n := by
  left
  simp [scope, Draft.context]

end Site

/-! ## Plans -/

namespace Plan

open Progress (open_start)

variable {s : Site} {facts : List Dependency} {op : Op} {inputs : List Operand} {ty : ValueType}
  {types : Option TypeSet}

/-- A plan is orderly if its draft leaves nothing open. -/
lemma orderly_of_completes {p : Plan} {d : Draft Unit} (hd : p.steps = d.steps)
    (h : d.Completes (s.scope p.usesContext) {}) : p.Orderly s := by
  obtain ⟨σ, hsteps, -, hfinished⟩ := h
  refine ⟨σ, ?_, hfinished⟩
  rw [hd]
  exact hsteps

/-- The steps of a draft without stub and context. -/
lemma orderly_relyingOn {d : Draft Unit} (h : d.Completes (s.scope false) {}) :
    (relyingOn facts d).Orderly s :=
  orderly_of_completes rfl h

/-- A node without an effect, over operands of the call, that is the result. -/
lemma orderly_result (available : ∀ x ∈ inputs, x.ref.Available (s.scope false) 0)
    (quiet : op.isEffectful = false) :
    (relyingOn facts (Draft.result op inputs ty types)).Orderly s :=
  orderly_relyingOn (Draft.completes_result open_start available quiet)

/-- A node over operands of the call that is the result and that execution can be resumed after. -/
lemma orderly_effectfulResult (available : ∀ x ∈ inputs, x.ref.Available (s.scope false) 0) :
    (relyingOn facts (Draft.effectfulResult op inputs ty types)).Orderly s :=
  orderly_relyingOn (Draft.completes_effectfulResult open_start available)

lemma orderly_pushConstant {c : Constant} :
    (relyingOn facts (Draft.pushConstant c)).Orderly s :=
  orderly_relyingOn (Draft.completes_pushConstant open_start)

end Plan

end CallSite
