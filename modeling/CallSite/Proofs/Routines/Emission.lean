import CallSite.Proofs.Routines.Runs
import CallSite.Specialize.Plan

/-!
# How routines emit

A draft names the nodes that it adds by their number, a routine by their handle.  A `Ledger` keeps
the two together while both go on, so a routine follows a draft when each of its steps is the next
one of the draft, with the handles that the ledger has for the values of that step.

* `Ledger` — the values of a draft with their handles, and the handle on top of the stack.
* `Ledger.Holds` — **the ledger is right**: every handle belongs to a node, and to the node that the
  value stands for when the graph fits.
* `Writing.Follows` — **a routine emits what a draft writes down**, with a rule for each step.
* `Writing.follows_observe` — a routine may look at the nodes that it has emitted.
* `Writing.Completes` — **a routine emits what a draft writes down and ends the emission**.
-/

namespace CallSite

/-! ## Ledgers -/

/-- **The values of a draft with their handles.** -/
structure Ledger where
  names : List (Operand × NodeId) := []
  /-- The handle on top of the stack, where that is kept in mind. -/
  top : Option NodeId := none

namespace Ledger

/-- The ledger with one more value. -/
def name (Γ : Ledger) (x : Operand) (id : NodeId) : Ledger := { Γ with names := (x, id) :: Γ.names }

/-- The ledger with a handle on top of the stack. -/
def pushed (Γ : Ledger) (id : NodeId) : Ledger := { Γ with top := some id }

/-- The ledger for operands with their handles. -/
def ofOperands (xs : List Operand) (ids : List NodeId) : Ledger := { names := xs.zip ids }

/-- **The ledger is right** after `n` nodes of a draft, when these are numbered from `base` on. -/
structure Holds (Γ : Ledger) (base : Nat) (context : NodeId) (n : Nat) (b : Builder) : Prop where
  valid : ∀ p ∈ Γ.names, p.2.index < b.graph.size
  top : ∀ id ∈ Γ.top, b.peek = some id
  size : b.Fits → b.graph.size = base + n
  named : b.Fits → ∀ p ∈ Γ.names,
    p.1.ref.resolve base context = p.2 ∧ b.facts? p.2 = some p.1.toFacts

/-- **The ledger has a handle for a value**; that of the fork-join context is known beforehand. -/
def Mentions (Γ : Ledger) (context : NodeId) (x : Operand) (id : NodeId) : Prop :=
  (x, id) ∈ Γ.names ∨ x = Draft.context ∧ id = context

/-- Everything in one ledger is in the other. -/
structure Within (Γ Γ' : Ledger) : Prop where
  names : Γ.names ⊆ Γ'.names
  top : ∀ id ∈ Γ.top, id ∈ Γ'.top

lemma within_refl (Γ : Ledger) : Γ.Within Γ := ⟨fun _ h => h, fun _ h => h⟩

lemma within_name (Γ : Ledger) (x : Operand) (id : NodeId) : Γ.Within (Γ.name x id) :=
  ⟨fun _ h => List.mem_cons_of_mem _ h, fun _ h => h⟩

lemma Within.trans {Γ Γ' Γ'' : Ledger} (h : Γ.Within Γ') (h' : Γ'.Within Γ'') : Γ.Within Γ'' :=
  ⟨fun _ hp => h'.names (h.names hp), fun id hid => h'.top id (h.top id hid)⟩

lemma mentions_name (Γ : Ledger) (context : NodeId) (x : Operand) (id : NodeId) :
    (Γ.name x id).Mentions context x id := .inl (List.mem_cons_self ..)

@[simp] lemma mentions_name_iff {Γ : Ledger} {context : NodeId} {x y : Operand} {id j : NodeId} :
    (Γ.name y j).Mentions context x id ↔ (x = y ∧ id = j) ∨ Γ.Mentions context x id := by
  rw [Mentions, name, List.mem_cons, Prod.mk.injEq, or_assoc]
  rfl

@[simp] lemma mentions_pushed {Γ : Ledger} {context : NodeId} {x : Operand} {id j : NodeId} :
    (Γ.pushed j).Mentions context x id ↔ Γ.Mentions context x id := Iff.rfl

lemma mentions_context (Γ : Ledger) (context : NodeId) :
    Γ.Mentions context Draft.context context := .inr ⟨rfl, rfl⟩

lemma Mentions.within {Γ Γ' : Ledger} {context : NodeId} {x : Operand} {id : NodeId}
    (h : Γ.Mentions context x id) (hin : Γ.Within Γ') : Γ'.Mentions context x id :=
  h.imp (fun hp => hin.names hp) fun hc => hc

namespace Holds

variable {Γ Γ' : Ledger} {base n : Nat} {context : NodeId} {b b' : Builder}

/-- A ledger is right if a larger one is. -/
lemma within (h : Γ'.Holds base context n b) (hin : Γ.Within Γ') : Γ.Holds base context n b :=
  ⟨fun p hp => h.valid p (hin.names hp), fun id hid => h.top id (hin.top id hid), h.size,
    fun hfits p hp => h.named hfits p (hin.names hp)⟩

lemma resolve_eq (h : Γ.Holds base context n b) (hfits : b.Fits) {x : Operand} {id : NodeId}
    (hx : Γ.Mentions context x id) : x.ref.resolve base context = id := by
  obtain hmem | ⟨rfl, rfl⟩ := hx
  · exact (h.named hfits _ hmem).1
  · rfl

lemma map_resolve_eq (h : Γ.Holds base context n b) (hfits : b.Fits) {xs : List Operand}
    {ids : List NodeId} (hxs : List.Forall₂ (Γ.Mentions context) xs ids) :
    (xs.map (·.ref)).map (·.resolve base context) = ids := by
  rw [List.map_map]
  induction hxs with
  | nil => rfl
  | cons hx _ ih => exact congrArg₂ List.cons (h.resolve_eq hfits hx) ih

/-- A ledger stays right while the graph builder by no node. -/
lemma of_enlarges (h : Γ.Holds base context n b) (henlarges : b.Enlarges b')
    (hsize : b'.graph.size = b.graph.size) (htop : ∀ id ∈ Γ.top, b'.peek = some id) :
    Γ.Holds base context n b' where
  valid p hp := hsize ▸ h.valid p hp
  top := htop
  size hfits := hsize.trans (h.size (henlarges.fits hfits))
  named hfits p hp := (h.named (henlarges.fits hfits) p hp).imp id henlarges.facts

/-- A ledger that names no node of the draft stays right before the first node of a larger graph. -/
lemma rebase (h : Γ.Holds base context n b) (henlarges : b.Enlarges b')
    (htop : Γ.top = none) (hadded : ∀ p ∈ Γ.names, ∃ id, p.1.ref = .node id) :
    Γ.Holds b'.graph.size context 0 b' where
  valid p hp := Nat.lt_of_lt_of_le (h.valid p hp) henlarges.size_le
  top id hid := by rw [htop] at hid; cases hid
  size _ := rfl
  named hfits p hp := by
    obtain ⟨hresolve, hfacts⟩ := h.named (henlarges.fits hfits) p hp
    obtain ⟨id, hid⟩ := hadded p hp
    rw [hid] at hresolve ⊢
    exact ⟨hresolve, henlarges.facts hfacts⟩

/-- When the graph does not fit, it only matters which handles there are. -/
lemma of_not_fits (h : Γ.Holds base context n b) (hb : ¬b.Fits) (htop : Γ'.top = Γ.top)
    (hids : Γ'.names.map Prod.snd = Γ.names.map Prod.snd) (m : Nat) :
    Γ'.Holds base context m b := by
  refine ⟨fun p hp => ?_, htop ▸ h.top, fun hfits => absurd hfits hb, fun hfits => absurd hfits hb⟩
  have hid : p.2 ∈ Γ.names.map Prod.snd := hids ▸ List.mem_map_of_mem hp
  obtain ⟨q, hq, hqp⟩ := List.mem_map.1 hid
  exact hqp ▸ h.valid q hq

/-- **A new node gets a name.** -/
lemma add (h : Γ.Holds base context n b) (op : Op) (inputs : List NodeId) (ty : ValueType)
    (types : Option TypeSet) :
    (Γ.name { ref := .added n, ty, types, constant := op.constant? }
      (.ofPosition b.graph.size)).Holds base context (n + 1)
      { b with graph := b.graph.addAs (.ofPosition b.graph.size) op inputs ty types } := by
  have henlarges := b.enlarges_addAs op inputs ty types
  have hsize := b.graph.size_addAs (.ofPosition b.graph.size) op inputs ty types
  refine ⟨?_, h.top, fun hfits => ?_, fun hfits => ?_⟩
  · rintro p (_ | ⟨_, hp⟩)
    · exact hsize ▸ Nat.lt_succ_of_le (NodeId.ofPosition_le _)
    · exact Nat.lt_of_lt_of_le (h.valid p hp) henlarges.size_le
  · rw [hsize, h.size (henlarges.fits hfits)]
    rfl
  · have hlt : b.graph.size < UInt32.size :=
      Nat.lt_of_lt_of_le (hsize ▸ Nat.lt_succ_self _) hfits.nodes
    rintro p (_ | ⟨_, hp⟩)
    · dsimp only
      rw [NodeId.ofPosition_of_lt hlt]
      refine ⟨congrArg NodeId.mk (h.size (henlarges.fits hfits)).symm, ?_⟩
      rw [Builder.facts?, Graph.node?_addAs, if_pos rfl]
      rfl
    · exact (h.named (henlarges.fits hfits) p hp).imp id henlarges.facts

end Holds

end Ledger

/-! ## Runs of single operations -/

namespace Emitter

/-- What attaching a resume point comes to. -/
lemma resumeAfter_run (e : Emitter) (id : NodeId) (s : Session) :
    e.resumeAfter id s =
      match s.builder.graph.node? id with
      | none => (.error (.failed (.graph (.unknownNode id .emission))), s)
      | some node =>
        match node.resumePoint with
        | some existing => (.error (.failed (.graph (.resumePointAttached id existing))), s)
        | none => (.ok (), { s with
            builder.graph := s.builder.graph.addResumePointAs
              (.ofPosition s.builder.graph.resumePoints.size) id s.builder.pc s.builder.stack
              s.builder.locals }) := by
  rw [Emitter.resumeAfter, Routine.read_bind]
  cases s.builder.graph.node? id with
  | none => rfl
  | some node =>
    dsimp only
    cases node.resumePoint <;> rfl

/-- What guarding the value on top of the stack comes to. -/
lemma guardTop_run {s : Session} {id : NodeId} (htop : s.builder.peek = some id) (e : Emitter)
    (observed : TypeSet) (kind : Barrier) :
    e.guardTop id observed kind s =
      match kind with
      | .noBarrier => (.ok (), s)
      | .typeSet =>
        let barrier := NodeId.ofPosition s.builder.graph.size
        let graph := s.builder.graph.addAs barrier (.typeBarrier kind) [id] observed.knownType
          observed
        (.ok (), { s with builder := { s.builder with graph }.pop.push barrier }) := by
  show (if s.builder.peek ≠ some id then _ else _ : Routine Unit) s = _
  rw [if_neg (not_not.2 htop)]
  cases kind <;> rfl

lemma guardTop_run_of_ne {s : Session} {id : NodeId} (htop : s.builder.peek ≠ some id) (e : Emitter)
    (observed : TypeSet) (kind : Barrier) :
    e.guardTop id observed kind s =
      (.error (.failed (.graph (.stackMismatch id s.builder.peek))), s) := by
  show (if s.builder.peek ≠ some id then _ else _ : Routine Unit) s = _
  rw [if_pos htop]
  rfl

/-- What ending an emission comes to. -/
lemma finish_run (e : Emitter) (s : Session) :
    e.finish s =
      match (e.on s.builder).finish with
      | .ok _ => (.ok .inlined, s)
      | .error err => (.error (.failed (.graph err)), s) := by
  rw [Emitter.finish, Routine.read_bind]
  cases (e.on s.builder).finish <;> rfl

end Emitter

/-! ## Following a draft -/

/-- Where a draft is written down: the number of nodes before its first, the handle of the fork-join
context, and the emitter that a routine has. -/
structure Writing where
  base : Nat
  context : NodeId
  emitter : Emitter

namespace Writing

variable {α β γ δ : Type} {w : Writing} {Γ Γ' : Ledger}

/-- **The routine emits what the draft writes down**, and leaves a ledger behind for their values. -/
def Follows (w : Writing) (Γ : Ledger) (after : α → β → Ledger → Prop) (d : Draft α)
    (x : Routine β) : Prop :=
  ∀ (n : Nat) (s : Session), Γ.Holds w.base w.context n s.builder →
    s.Ends w.emitter
      (fun v b => ∃ Γ', after (d n).1 v Γ' ∧ Γ'.Holds w.base w.context (d n).2.1 b)
      (Step.takeAll w.base w.context (w.emitter.on s.builder) (d n).2.2) (x s)

/-- The routine gives the handle of the value that the draft gives. -/
def Gives (w : Writing) (Γ : Ledger) : Draft Operand → Routine NodeId → Prop :=
  w.Follows Γ fun x id Γ' => Γ' = Γ.name x id

/-- The routine gives the handle of the value that the draft gives, and the ledger has it. -/
def Yields (w : Writing) (Γ : Ledger) : Draft Operand → Routine NodeId → Prop :=
  w.Follows Γ fun x id Γ' => (x, id) ∈ Γ'.names ∧ Γ.Within Γ'

/-- The routine gives no value, and neither does the draft. -/
def Does (w : Writing) (Γ Γ' : Ledger) : Draft Unit → Routine Unit → Prop :=
  w.Follows Γ fun _ _ Γ'' => Γ'' = Γ'

variable {after : α → β → Ledger → Prop} {after' : γ → δ → Ledger → Prop}

lemma follows_pure {a : α} {v : β} (h : after a v Γ') (hin : Γ'.Within Γ) :
    w.Follows Γ after (pure a) (pure v) :=
  fun _ s hΓ => .value (.refl s) ⟨Γ', h, hΓ.within hin⟩ fun _ => rfl

/-- **One draft after another.** -/
lemma follows_bind {d : Draft α} {x : Routine β} {f : α → Draft γ} {g : β → Routine δ}
    (hx : w.Follows Γ after d x)
    (hf : ∀ a v Γ', after a v Γ' → w.Follows Γ' after' (f a) (g v)) :
    w.Follows Γ after' (d >>= f) (x >>= g) := by
  intro n s hΓ
  show s.Ends _ _ (Step.takeAll _ _ _ ((d n).2.2 ++ (f (d n).1 (d n).2.1).2.2)) _
  rw [Step.takeAll_append]
  refine (hx n s hΓ).bind fun v s' _ hv => ?_
  obtain ⟨Γ', hafter, hΓ'⟩ := hv
  exact hf (d n).1 v Γ' hafter (d n).2.1 s' hΓ'

/-- A ledger that is left behind may be made smaller. -/
lemma Follows.weaken {after' : α → β → Ledger → Prop} {d : Draft α} {x : Routine β}
    (hx : w.Follows Γ after d x)
    (h : ∀ a v Γ', after a v Γ' → ∃ Γ'', after' a v Γ'' ∧ Γ''.Within Γ') :
    w.Follows Γ after' d x := by
  intro n s hΓ
  refine (hx n s hΓ).imp fun v b hv => ?_
  obtain ⟨Γ', hafter, hΓ'⟩ := hv
  obtain ⟨Γ'', hafter', hin⟩ := h _ _ _ hafter
  exact ⟨Γ'', hafter', hΓ'.within hin⟩

lemma Gives.yields {d : Draft Operand} {x : Routine NodeId} (hx : w.Gives Γ d x) :
    w.Yields Γ d x :=
  hx.weaken fun v id Γ' h =>
    ⟨Γ', h ▸ ⟨List.mem_cons_self .., Ledger.within_name Γ v id⟩, Ledger.within_refl Γ'⟩

/-- A value that is there already. -/
lemma yields_pure {x : Operand} {id : NodeId} (h : (x, id) ∈ Γ.names) :
    w.Yields Γ (pure x) (pure id) :=
  follows_pure ⟨h, Ledger.within_refl Γ⟩ (Ledger.within_refl Γ)

lemma yields_bind {d : Draft Operand} {x : Routine NodeId} {f : Operand → Draft Operand}
    {g : NodeId → Routine NodeId} (hx : w.Gives Γ d x)
    (hf : ∀ v id, w.Yields (Γ.name v id) (f v) (g id)) : w.Yields Γ (d >>= f) (x >>= g) := by
  refine follows_bind hx ?_
  rintro v id _ rfl
  exact (hf v id).weaken fun y j Γ' h =>
    ⟨Γ', ⟨h.1, (Ledger.within_name Γ v id).trans h.2⟩, Ledger.within_refl Γ'⟩

/-! ### Steps -/

/-- **A node is added.** -/
lemma gives_add {xs : List Operand} {ids : List NodeId} (op : Op) (ty : ValueType)
    (types : Option TypeSet) (h : List.Forall₂ (Γ.Mentions w.context) xs ids) :
    w.Gives Γ (Draft.add op xs ty types) (w.emitter.add op ids ty types) := by
  intro n s hΓ
  have henlarges := s.builder.enlarges_addAs op ids ty types
  refine .value ⟨henlarges, rfl, rfl⟩ ⟨_, rfl, hΓ.add op ids ty types⟩ fun hfits => ?_
  have hlt : s.builder.graph.size < UInt32.size := Builder.lt_of_fits_addAs hfits
  show Except.ok ((w.emitter.on s.builder).add op
    ((xs.map (·.ref)).map (·.resolve w.base w.context)) ty types) = _
  rw [hΓ.map_resolve_eq (henlarges.fits hfits) h, NodeId.ofPosition_of_lt hlt]
  rfl

lemma gives_constant (c : Constant) : w.Gives Γ (Draft.constant c) (w.emitter.constant c) :=
  gives_add _ _ _ .nil

/-- The value is there already. -/
lemma gives_pure {x : Operand} {id : NodeId} (h : (x, id) ∈ Γ.names) :
    w.Gives Γ (pure x) (pure id) :=
  follows_pure rfl ⟨List.cons_subset.2 ⟨h, List.Subset.refl _⟩, fun _ h => h⟩

/-- **The result is pushed.** -/
lemma does_push {x : Operand} {id : NodeId} (h : Γ.Mentions w.context x id) :
    w.Does Γ (Γ.pushed id) (Draft.push x) (w.emitter.push id) := by
  intro n s hΓ
  have henlarges : s.builder.Enlarges (s.builder.push id) :=
    .congr_right (.refl _) rfl rfl
  refine .value ⟨henlarges, rfl, rfl⟩ ⟨_, rfl, ?_⟩ fun hfits => ?_
  · refine ⟨hΓ.valid, fun j hj => ?_, fun hfits => hΓ.size (henlarges.fits hfits),
      fun hfits => hΓ.named (henlarges.fits hfits)⟩
    obtain rfl := Option.some.inj hj
    exact List.getLast?_concat ..
  · show Except.ok ((w.emitter.on s.builder).push (x.ref.resolve w.base w.context)) = _
    rw [hΓ.resolve_eq (henlarges.fits hfits) h]
    rfl

lemma does_pushConstant (c : Constant) :
    w.Follows Γ (fun _ _ Γ' => ∃ x id, Γ' = (Γ.name x id).pushed id) (Draft.pushConstant c)
      (w.emitter.pushConstant c) := by
  refine follows_bind (gives_constant c) ?_
  rintro x id _ rfl
  exact (does_push (Ledger.mentions_name ..)).weaken fun _ _ _ h =>
    ⟨_, ⟨x, id, h⟩, Ledger.within_refl _⟩

/-- **A resume point is attached**, unless there is one. -/
lemma does_resumeAfter {x : Operand} {id : NodeId} (h : Γ.Mentions w.context x id) :
    w.Does Γ Γ (Draft.resumeAfter x) (w.emitter.resumeAfter id) := by
  intro n s hΓ
  rw [show (Draft.resumeAfter x n).2.2 = [.resume x.ref] from rfl, Step.takeAll_singleton,
    Step.take, Emission.resumeAfter, w.emitter.resumeAfter_run]
  cases hnode : s.builder.graph.node? id with
  | none =>
    refine .violation (.refl s) fun hfits => ?_
    rw [hΓ.resolve_eq hfits h, show (w.emitter.on s.builder).builder = s.builder from rfl, hnode]
    rfl
  | some node =>
    dsimp only
    cases hpoint : node.resumePoint with
    | some existing =>
      refine .violation (.refl s) fun hfits => ?_
      rw [hΓ.resolve_eq hfits h, show (w.emitter.on s.builder).builder = s.builder from rfl, hnode]
      dsimp only
      rw [hpoint]
      rfl
    | none =>
      have henlarges := s.builder.enlarges_addResumePointAs id s.builder.pc s.builder.stack
        s.builder.locals
      refine .value ⟨henlarges, rfl, rfl⟩ ⟨Γ, rfl, ?_⟩ fun hfits => ?_
      · exact hΓ.of_enlarges henlarges (Graph.size_modify ..) hΓ.top
      · have hlt : s.builder.graph.resumePoints.size < UInt32.size :=
          Builder.lt_of_fits_addResumePointAs hfits
        rw [hΓ.resolve_eq (henlarges.fits hfits) h,
          show (w.emitter.on s.builder).builder = s.builder from rfl, hnode]
        dsimp only
        rw [hpoint, ResumePointId.ofPosition_of_lt hlt]
        rfl

/-- **The result is guarded**, if a barrier is needed. -/
lemma does_guardTop {x : Operand} {id : NodeId} (h : Γ.Mentions w.context x id) (htop : id ∈ Γ.top)
    (observed : TypeSet) (kind : Barrier) :
    w.Does Γ { names := Γ.names } (Draft.guardTop x observed kind)
      (w.emitter.guardTop id observed kind) := by
  intro n s hΓ
  have hpeek := hΓ.top id htop
  have hin : Ledger.Within { names := Γ.names } Γ := ⟨fun _ hp => hp, nofun⟩
  rw [w.emitter.guardTop_run hpeek]
  cases kind with
  | noBarrier => exact .value (.refl s) ⟨_, rfl, hΓ.within hin⟩ fun _ => rfl
  | typeSet =>
    have henlarges := s.builder.enlarges_addAs (.typeBarrier .typeSet) [id] observed.knownType
      observed
    have hΓ' := hΓ.add (.typeBarrier .typeSet) [id] observed.knownType observed
    refine .value ⟨henlarges.congr_right rfl rfl, rfl, rfl⟩
      ⟨_, rfl, ?_⟩ fun hfits => ?_
    · have hunfit : Ledger.Holds { names := Γ.names } _ _ _ _ :=
        hΓ'.within ⟨fun _ => List.mem_cons_of_mem _, nofun⟩
      exact ⟨hunfit.valid, nofun, fun hfits => hunfit.size ⟨hfits.nodes, hfits.resumePoints⟩,
        fun hfits => hunfit.named ⟨hfits.nodes, hfits.resumePoints⟩⟩
    · have hfits' : s.builder.Fits := henlarges.fits ⟨hfits.nodes, hfits.resumePoints⟩
      have hlt : s.builder.graph.size < UInt32.size :=
        Builder.lt_of_fits_addAs ⟨hfits.nodes, hfits.resumePoints⟩
      rw [show (Draft.guardTop x observed .typeSet n).2.2 = [.guardTop x.ref observed] from rfl,
        Step.takeAll_singleton, Step.take, hΓ.resolve_eq hfits' h, Emission.guardTop,
        show (w.emitter.on s.builder).builder = s.builder from rfl, if_neg (not_not.2 hpeek),
        NodeId.ofPosition_of_lt hlt]
      rfl

/-! ### Looking at what was emitted -/

/-- **A routine looks at a node that the ledger has**, and the draft knows what it finds there.  When
the graph does not fit, the node may be another one, so that the routine goes on as some other draft
would. -/
lemma follows_observe {x : Operand} {id : NodeId} (hx : (x, id) ∈ Γ.names) {d : Draft α}
    {d' : Operand → Draft α} {g : Operand → Routine β} {after : α → β → Ledger → Prop}
    (same : ∀ y : Operand, y.toFacts = x.toFacts → d = d' y)
    (h : ∀ y, w.Follows Γ after (d' y) (g y))
    (recast : ∀ a a' v Γ', after a v Γ' → ∃ Γ'', after a' v Γ'' ∧ Γ''.top = Γ'.top ∧
      Γ''.names.map Prod.snd = Γ'.names.map Prod.snd) :
    w.Follows Γ after d (Routine.observe id >>= g) := by
  intro n s hΓ
  obtain ⟨m, hm⟩ := Graph.exists_node? (hΓ.valid _ hx)
  have hfacts : s.builder.facts? id = some m.facts := congrArg (Option.map Node.facts) hm
  have hy : s.builder.operand? id = some { toFacts := m.facts, ref := .node id } :=
    congrArg (Option.map _) hfacts
  rw [Routine.bind_of_ok (Routine.observe_of_operand? hy)]
  have hrun := h { toFacts := m.facts, ref := .node id } n s hΓ
  by_cases hfits : s.builder.Fits
  · rw [same { toFacts := m.facts, ref := .node id }
      (Option.some.inj (hfacts.symm.trans (hΓ.named hfits _ hx).2))]
    exact hrun
  · refine hrun.of_not_fits hfits fun v b hb hv => ?_
    obtain ⟨Γ', hafter, hΓ'⟩ := hv
    obtain ⟨Γ'', hafter', htop, hids⟩ := recast _ (d n).1 _ _ hafter
    exact ⟨Γ'', hafter', hΓ'.of_not_fits hb htop hids _⟩

/-- Looking at a node on the way to a value. -/
lemma gives_observe {x : Operand} {id : NodeId} (hx : (x, id) ∈ Γ.names) {d : Draft Operand}
    (d' : Operand → Draft Operand) {g : Operand → Routine NodeId}
    (same : ∀ y : Operand, y.toFacts = x.toFacts → d = d' y) (h : ∀ y, w.Gives Γ (d' y) (g y)) :
    w.Gives Γ d (Routine.observe id >>= g) := by
  refine follows_observe hx same h ?_
  rintro a a' v _ rfl
  exact ⟨_, rfl, rfl, rfl⟩

/-- Looking at a node without a value to give. -/
lemma does_observe {x : Operand} {id : NodeId} (hx : (x, id) ∈ Γ.names) {d : Draft Unit}
    (d' : Operand → Draft Unit) {g : Operand → Routine Unit}
    (same : ∀ y : Operand, y.toFacts = x.toFacts → d = d' y) (h : ∀ y, w.Does Γ Γ' (d' y) (g y)) :
    w.Does Γ Γ' d (Routine.observe id >>= g) :=
  follows_observe hx same h fun _ _ _ _ h => ⟨_, h, rfl, rfl⟩

/-! ## Whole emissions -/

/-- **The routine emits what the draft writes down and ends the emission.** -/
def Completes (w : Writing) (Γ : Ledger) (d : Draft Unit) (x : Routine Status) : Prop :=
  ∀ (n : Nat) (s : Session), Γ.Holds w.base w.context n s.builder →
    s.Ends w.emitter (fun status _ => status = .inlined)
      (Step.takeAll w.base w.context (w.emitter.on s.builder) (d n).2.2 >>= Emission.close) (x s)

/-- What a draft begins with is emitted first. -/
lemma Follows.then {d : Draft α} {x : Routine β} {f : α → Draft Unit} {g : β → Routine Status}
    (hx : w.Follows Γ after d x)
    (hf : ∀ a v Γ', after a v Γ' → w.Completes Γ' (f a) (g v)) :
    w.Completes Γ (d >>= f) (x >>= g) := by
  intro n s hΓ
  show s.Ends _ _ (Step.takeAll _ _ _ ((d n).2.2 ++ (f (d n).1 (d n).2.1).2.2) >>= _) _
  rw [Step.takeAll_append, bind_assoc]
  refine (hx n s hΓ).bind fun v s' _ hv => ?_
  obtain ⟨Γ', hafter, hΓ'⟩ := hv
  exact hf (d n).1 v Γ' hafter (d n).2.1 s' hΓ'

/-- What a draft ends with is emitted last. -/
lemma Follows.completes {after : Unit → β → Ledger → Prop} {d : Draft Unit} {x : Routine β}
    (hx : w.Follows Γ after d x) : w.Completes Γ d (x >>= fun _ => w.emitter.finish) := by
  intro n s hΓ
  refine (hx n s hΓ).bind fun v s' _ _ => ?_
  rw [w.emitter.finish_run, Emission.close]
  cases (w.emitter.on s'.builder).finish with
  | error err => exact .violation (.refl s') fun _ => rfl
  | ok b => exact .value (.refl s') rfl fun _ => rfl

/-- An emission ends. -/
lemma completes_finish : w.Completes Γ (pure ()) w.emitter.finish := by
  have hpure : w.Follows Γ (fun _ _ _ => True) (pure ()) (pure ()) :=
    follows_pure trivial (Ledger.within_refl Γ)
  exact hpure.completes

/-- **A node is added and pushed as the result.** -/
lemma completes_result {xs : List Operand} {ids : List NodeId} (op : Op) (ty : ValueType)
    (types : Option TypeSet) (h : List.Forall₂ (Γ.Mentions w.context) xs ids) :
    w.Completes Γ (Draft.result op xs ty types)
      (w.emitter.add op ids ty types >>= fun id =>
        w.emitter.push id >>= fun _ => w.emitter.finish) := by
  refine (gives_add op ty types h).then ?_
  rintro x id _ rfl
  exact (does_push (Ledger.mentions_name ..)).completes

/-- **An effectful node is added and pushed**, and execution can be resumed after it. -/
lemma completes_effectfulResult {xs : List Operand} {ids : List NodeId} (op : Op) (ty : ValueType)
    (types : Option TypeSet) (h : List.Forall₂ (Γ.Mentions w.context) xs ids) :
    w.Completes Γ (Draft.effectfulResult op xs ty types)
      (w.emitter.add op ids ty types >>= fun id => w.emitter.push id >>= fun _ =>
        w.emitter.resumeAfter id >>= fun _ => w.emitter.finish) := by
  refine (gives_add op ty types h).then ?_
  rintro x id _ rfl
  refine (does_push (Ledger.mentions_name ..)).then ?_
  rintro _ _ _ rfl
  exact (does_resumeAfter (Ledger.mentions_pushed.2 (Ledger.mentions_name ..))).completes

/-- A node is added for its effect, and the call gives a constant. -/
lemma completes_effect {xs : List Operand} {ids : List NodeId} (op : Op) (ty : ValueType)
    (types : Option TypeSet) (c : Constant) (h : List.Forall₂ (Γ.Mentions w.context) xs ids) :
    w.Completes Γ
      (Draft.add op xs ty types >>= fun x => Draft.pushConstant c >>= fun _ => Draft.resumeAfter x)
      (w.emitter.add op ids ty types >>= fun id => w.emitter.pushConstant c >>= fun _ =>
        w.emitter.resumeAfter id >>= fun _ => w.emitter.finish) := by
  refine (gives_add op ty types h).then ?_
  rintro x id _ rfl
  refine (does_pushConstant c).then ?_
  rintro _ _ _ ⟨y, j, rfl⟩
  exact (does_resumeAfter (by simp)).completes

end Writing

end CallSite
