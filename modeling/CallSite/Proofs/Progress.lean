import CallSite.Proofs.Decision

/-!
# The order of the steps of a plan

Taking the steps of a plan can go wrong in a few ways: a step mentions a node that is not there, a
second resume point is attached to a node, a barrier is put over a value that is not on top of the
stack, an effectful node is left without a resume point, or the call does not leave exactly one
result.  All of these concern the order of the steps alone, so they are ruled out here without
looking at a graph.

* `Progress` — how far the steps of a plan have come.
* `Step.Advances` — when a step may be taken, and the progress after it.
* `Plan.Orderly` — a plan whose steps can be taken to an end at which nothing is left open.
* `Draft.Reaches` — what writing down a draft advances to, with one rule for each way of writing
  steps.

The order asked for is stricter than what a graph would tolerate: an effectful node is resumed after
before the next one is added, the result is pushed once, and a guard of the result is the last step.
-/

namespace CallSite

/-! ## Progress -/

/-- **How far the steps of a plan have come.** -/
structure Progress where
  /-- The number of nodes added. -/
  added : Nat := 0
  /-- Of the nodes below this one, none is resumed after any more. -/
  settled : Nat := 0
  /-- The effectful node that waits for its resume point. -/
  pending : Option Nat := none
  /-- The result of the call, once it is pushed. -/
  result : Option Ref := none
  /-- The result as it was pushed, whether or not it is guarded since. -/
  pushed : Option Ref := none
  /-- The nodes that are resumed after, in order. -/
  resumed : List Nat := []
  /-- The result was replaced by its guarded value. -/
  guarded : Bool := false

namespace Progress

/-- A node was added. -/
def add (σ : Progress) (op : Op) : Progress :=
  { σ with
    added := σ.added + 1
    pending := if op.isEffectful then some σ.added else σ.pending }

/-- The result was pushed. -/
def push (σ : Progress) (v : Ref) : Progress := { σ with result := some v, pushed := some v }

/-- A resume point was attached to the `k`-th node. -/
def resume (σ : Progress) (k : Nat) : Progress :=
  { σ with settled := k + 1, pending := none, resumed := σ.resumed ++ [k] }

/-- The result was replaced by its guarded value, a node of its own. -/
def guard (σ : Progress) : Progress :=
  { σ with added := σ.added + 1, result := some (.added σ.added), guarded := true }

/-- **Nothing is left open**: there is a result, and no effectful node waits for a resume point. -/
def Finished (σ : Progress) : Prop := σ.result.isSome = true ∧ σ.pending = none

/-- **What holds of every progress**: the result is the value that was pushed until it is guarded,
and nothing is resumed after before it is pushed. -/
structure Sound (σ : Progress) : Prop where
  pushed : σ.guarded = false → σ.pushed = σ.result
  resumed : σ.result = none → σ.resumed = []

lemma sound_start : Sound {} := ⟨fun _ => rfl, fun _ => rfl⟩

end Progress

/-- The value can be mentioned: it is in scope from the start, or the plan has added it. -/
def Ref.Available (scope : List Ref) (added : Nat) (r : Ref) : Prop :=
  r ∈ scope ∨ ∃ k, k < added ∧ r = .added k

/-- What is available stays so. -/
lemma Ref.Available.mono {scope : List Ref} {m n : Nat} {r : Ref} (h : r.Available scope m)
    (hmn : m ≤ n) : r.Available scope n :=
  h.imp_right fun ⟨k, hk, hr⟩ => ⟨k, Nat.lt_of_lt_of_le hk hmn, hr⟩

/-- The step guards the result. -/
def Step.isGuard : Step → Bool
  | .guardTop .. => true
  | .add .. | .push _ | .resume _ => false

/-! ## Advancing -/

/-- **When a step may be taken**, and the progress after it. -/
inductive Step.Advances (scope : List Ref) : Progress → Step → Progress → Prop where
  | add {σ : Progress} {op : Op} {inputs : List Ref} {ty : ValueType} {types : Option TypeSet}
      (available : ∀ r ∈ inputs, r.Available scope σ.added)
      (unguarded : σ.guarded = false)
      (settled : op.isEffectful = true → σ.pending = none) :
      Advances scope σ (.add op inputs ty types) (σ.add op)
  | push {σ : Progress} {v : Ref}
      (available : v.Available scope σ.added)
      (first : σ.result = none) :
      Advances scope σ (.push v) (σ.push v)
  | resume {σ : Progress} {k : Nat}
      (fresh : σ.settled ≤ k)
      (there : k < σ.added)
      (pushed : σ.result.isSome = true)
      (unguarded : σ.guarded = false)
      (waiting : ∀ j, σ.pending = some j → j = k) :
      Advances scope σ (.resume (.added k)) (σ.resume k)
  | guardTop {σ : Progress} {v : Ref} {observed : TypeSet}
      (top : σ.result = some v)
      (unguarded : σ.guarded = false)
      (settled : σ.pending = none) :
      Advances scope σ (.guardTop v observed) σ.guard

/-- What holds of every progress holds after a step. -/
lemma Step.Advances.sound {scope : List Ref} {σ σ' : Progress} {s : Step} (hσ : σ.Sound)
    (h : Advances scope σ s σ') : σ'.Sound := by
  cases h with
  | add _ _ _ => exact ⟨hσ.pushed, hσ.resumed⟩
  | push _ _ => exact ⟨fun _ => rfl, nofun⟩
  | resume _ _ pushed _ _ =>
    refine ⟨hσ.pushed, fun hnone => ?_⟩
    have hresult : σ.result = none := hnone
    rw [hresult] at pushed
    cases pushed
  | guardTop _ _ _ => exact ⟨nofun, nofun⟩

/-- Steps taken one after the other. -/
inductive Step.AdvancesAll (scope : List Ref) : Progress → List Step → Progress → Prop where
  | nil (σ : Progress) : AdvancesAll scope σ [] σ
  | cons {σ σ' σ'' : Progress} {s : Step} {rest : List Step}
      (first : Step.Advances scope σ s σ') (others : AdvancesAll scope σ' rest σ'') :
      AdvancesAll scope σ (s :: rest) σ''

namespace Step.AdvancesAll

variable {scope : List Ref} {σ σ' σ'' : Progress}

lemma one {s : Step} (h : Step.Advances scope σ s σ') : AdvancesAll scope σ [s] σ' :=
  .cons h (.nil σ')

/-- The steps of one list and then those of another. -/
lemma append {first others : List Step} (h : AdvancesAll scope σ first σ')
    (h' : AdvancesAll scope σ' others σ'') : AdvancesAll scope σ (first ++ others) σ'' := by
  induction h with
  | nil => exact h'
  | cons hs _ ih => exact .cons hs (ih h')

/-- What holds of every progress holds at the end. -/
lemma sound {steps : List Step} (h : AdvancesAll scope σ steps σ') (hσ : σ.Sound) :
    σ'.Sound := by
  induction h with
  | nil => exact hσ
  | cons first _ ih => exact ih (first.sound hσ)

/-- **A guarded result stays as it is**: no step may be taken any more. -/
theorem eq_nil_of_guarded {steps : List Step} (h : AdvancesAll scope σ steps σ')
    (guarded : σ.guarded = true) (pushed : σ.result.isSome = true) : steps = [] := by
  cases h with
  | nil => rfl
  | cons first others =>
    exfalso
    cases first with
    | add _ unguarded _ => simp [guarded] at unguarded
    | push _ first => simp [first] at pushed
    | resume _ _ _ unguarded _ => simp [guarded] at unguarded
    | guardTop _ unguarded _ => simp [guarded] at unguarded

/-- **A guard of the result is the last step**, if there is one. -/
theorem guard_last {steps : List Step} (h : AdvancesAll scope σ steps σ')
    (unguarded : σ.guarded = false) :
    (σ'.guarded = false ∧ ∀ s ∈ steps, s.isGuard = false) ∨
    ∃ before v observed σ₁, steps = before ++ [.guardTop v observed] ∧
      (∀ s ∈ before, s.isGuard = false) ∧ AdvancesAll scope σ before σ₁ ∧
      σ₁.guarded = false ∧ σ₁.result = some v ∧ σ' = σ₁.guard := by
  induction h with
  | nil σ => exact .inl ⟨unguarded, List.forall_mem_nil _⟩
  | @cons σ σ₁ σ' s rest first others ih =>
    by_cases hs : s.isGuard = true
    · cases first with
      | @guardTop v observed top _ _ =>
        have hrest : rest = [] := others.eq_nil_of_guarded rfl rfl
        subst hrest
        cases others
        exact .inr ⟨[], v, observed, σ, rfl, List.forall_mem_nil _, .nil σ, unguarded, top, rfl⟩
      | _ => cases hs
    · have hquiet : s.isGuard = false := Bool.eq_false_iff.2 hs
      have hσ₁ : σ₁.guarded = false := by
        cases first with
        | guardTop _ _ _ => exact absurd rfl hs
        | _ => exact unguarded
      rcases ih hσ₁ with ⟨hσ', hrest⟩ | ⟨before, v, observed, σ₂, rfl, hbefore, hall, hσ₂, hv, rfl⟩
      · exact .inl ⟨hσ', List.forall_mem_cons.2 ⟨hquiet, hrest⟩⟩
      · exact .inr ⟨s :: before, v, observed, σ₂, rfl, List.forall_mem_cons.2 ⟨hquiet, hbefore⟩,
          .cons first hall, hσ₂, hv, rfl⟩

end Step.AdvancesAll

/-! ## Orderly plans -/

/-- The values that a plan for the call may mention from the start: the receiver, the arguments,
and the fork-join context if the plan asks for it. -/
def Site.scope (s : Site) (usesContext : Bool) : List Ref :=
  (if usesContext then [.context] else []) ++ s.receiver.ref :: s.args.map (·.ref)

/-- **The steps of the plan can be taken in order**, to an end at which nothing is left open. -/
def Plan.Orderly (s : Site) (p : Plan) : Prop :=
  ∃ σ, Step.AdvancesAll (s.scope p.usesContext) {} p.steps σ ∧ σ.Finished

/-! ## Drafts -/

namespace Draft

variable {α β : Type} {scope : List Ref} {σ : Progress}

/-- **Writing down the draft advances** from `σ` to a progress of which, together with the value of
the draft, `holds` is true. -/
def Reaches (scope : List Ref) (σ : Progress) (d : Draft α) (holds : α → Progress → Prop) : Prop :=
  ∃ σ', Step.AdvancesAll scope σ (d σ.added).2.2 σ' ∧ (d σ.added).2.1 = σ'.added ∧
    holds (d σ.added).1 σ'

lemma reaches_pure {a : α} {holds : α → Progress → Prop} (h : holds a σ) :
    (pure a : Draft α).Reaches scope σ holds :=
  ⟨σ, .nil σ, rfl, h⟩

/-- The draft that follows starts where the first one has come to. -/
lemma reaches_bind {x : Draft α} {f : α → Draft β} {holds : β → Progress → Prop}
    (h : x.Reaches scope σ fun a σ' => (f a).Reaches scope σ' holds) :
    (x >>= f).Reaches scope σ holds := by
  obtain ⟨σ₁, hsteps, hcount, σ₂, hmore, hcount', hholds⟩ := h
  refine ⟨σ₂, ?_, ?_, ?_⟩
  · show Step.AdvancesAll scope σ ((x σ.added).2.2 ++ (f (x σ.added).1 (x σ.added).2.1).2.2) σ₂
    rw [hcount]
    exact hsteps.append hmore
  · show (f (x σ.added).1 (x σ.added).2.1).2.1 = σ₂.added
    rw [hcount]
    exact hcount'
  · show holds (f (x σ.added).1 (x σ.added).2.1).1 σ₂
    rw [hcount]
    exact hholds

/-- What is reached may be weakened. -/
lemma Reaches.imp {d : Draft α} {holds holds' : α → Progress → Prop}
    (h : d.Reaches scope σ holds) (weaken : ∀ a σ', holds a σ' → holds' a σ') :
    d.Reaches scope σ holds' := by
  obtain ⟨σ', hsteps, hcount, hholds⟩ := h
  exact ⟨σ', hsteps, hcount, weaken _ _ hholds⟩

lemma reaches_add {op : Op} {inputs : List Operand} {ty : ValueType} {types : Option TypeSet}
    {holds : Operand → Progress → Prop}
    (available : ∀ x ∈ inputs, x.ref.Available scope σ.added)
    (unguarded : σ.guarded = false)
    (settled : op.isEffectful = true → σ.pending = none)
    (h : holds { ref := .added σ.added, ty, types, constant := op.constant? } (σ.add op)) :
    (add op inputs ty types).Reaches scope σ holds := by
  refine ⟨σ.add op, .one (.add ?_ unguarded settled), rfl, h⟩
  intro r hr
  obtain ⟨x, hx, rfl⟩ := List.mem_map.1 hr
  exact available x hx

lemma reaches_push {v : Operand} {holds : Unit → Progress → Prop}
    (available : v.ref.Available scope σ.added) (first : σ.result = none)
    (h : holds () (σ.push v.ref)) :
    (push v).Reaches scope σ holds :=
  ⟨σ.push v.ref, .one (.push available first), rfl, h⟩

lemma reaches_resumeAfter {v : Operand} {k : Nat} {holds : Unit → Progress → Prop}
    (hv : v.ref = .added k) (fresh : σ.settled ≤ k) (there : k < σ.added)
    (pushed : σ.result.isSome = true) (unguarded : σ.guarded = false)
    (waiting : ∀ j, σ.pending = some j → j = k) (h : holds () (σ.resume k)) :
    (resumeAfter v).Reaches scope σ holds := by
  refine ⟨σ.resume k, ?_, rfl, h⟩
  show Step.AdvancesAll scope σ [.resume v.ref] (σ.resume k)
  rw [hv]
  exact .one (.resume fresh there pushed unguarded waiting)

/-- A result that needs no guard stays as it is. -/
lemma reaches_guardTop {v : Operand} {observed : TypeSet} {barrier : Barrier}
    {holds : Unit → Progress → Prop}
    (top : σ.result = some v.ref) (unguarded : σ.guarded = false) (settled : σ.pending = none)
    (h : barrier = .noBarrier → holds () σ) (h' : barrier = .typeSet → holds () σ.guard) :
    (guardTop v observed barrier).Reaches scope σ holds := by
  cases barrier with
  | noBarrier => exact reaches_pure (h rfl)
  | typeSet => exact ⟨σ.guard, .one (.guardTop top unguarded settled), rfl, h' rfl⟩

end Draft

end CallSite
