import CallSite.Proofs.Routines.Specialization
import CallSite.Proofs.WellFormed

/-!
# Sequences of operations

A builder is used through its own operations, through the emitter that it hands out, and through
attempts to specialize a call.  Any handle may be passed to any of them, and each may fail half way.
Handles have 32 bits, and the position of a new node or resume point is cast to that width without a
check.  So the references of the graph stay right as long as all positions can be told apart, and
not any longer.

* `EmissionOperation`, `Operation` — what can be done with an emitter and with a builder.
* `Routine.Sound` — a routine enlarges the graph, and leads from states of a builder to states of a
  builder while it fits.
* `Construction.wellFormed_run` — **after every sequence of operations the graph is well formed**,
  provided that 32 bits are enough for its handles.
* `Construction.wellFormed_run_iff` — with one node more than that it is not.
-/

namespace CallSite

/-! ## Operations -/

/-- **What can be done with an emitter.** -/
inductive EmissionOperation where
  | add (op : Op) (inputs : List NodeId) (ty : ValueType) (types : Option TypeSet)
  | addConstant (c : Constant)
  | push (id : NodeId)
  | pushConstant (c : Constant)
  | resumeAfter (id : NodeId)
  | guardTop (id : NodeId) (observed : TypeSet) (kind : Barrier)
  | addBoundsCheck (index length : NodeId)
  | forkJoinContext
  | call (target : FunctionObject) (c : Call NodeId)

/-- The routine of an operation; its value does not matter here. -/
def EmissionOperation.routine (e : Emitter) : EmissionOperation → Routine Unit
  | add op inputs ty types => e.add op inputs ty types >>= fun _ => pure ()
  | addConstant c => e.constant c >>= fun _ => pure ()
  | push id => e.push id
  | pushConstant c => e.pushConstant c
  | resumeAfter id => e.resumeAfter id
  | guardTop id observed kind => e.guardTop id observed kind
  | addBoundsCheck index length => e.boundsCheck index length >>= fun _ => pure ()
  | forkJoinContext => e.forkJoinContext >>= fun _ => pure ()
  | call target c => e.call target c >>= fun _ => pure ()

/-- **What can be done with a builder**, and with the emitter that it has handed out. -/
inductive Operation where
  | push (id : NodeId)
  | pop
  | defineLocal (id : NodeId)
  | setPc (pc : UInt32)
  | addParameter (index : UInt16) (ty : ValueType) (types : Option TypeSet)
  | addConstant (c : Constant)
  | attempt (i : Inliner) (stubs : StubStore) (call : Call NodeId) (callee : Callee)
  | commit (call : Call NodeId) (facts : List Dependency)
  | emit (operation : EmissionOperation)
  | finish

/-- **A builder in use**: at hand itself, or handed out through an emitter. -/
inductive Construction where
  | idle (b : Builder)
  | emitting (e : Emission)

def Construction.builder : Construction → Builder
  | idle b => b
  | emitting e => e.builder

/-- The builder that a routine leaves, also where it fails. -/
def Routine.builderAfter {α : Type} (x : Routine α) (b : Builder) : Builder :=
  (x { builder := b }).2.builder

/-- **The builder after an operation**, also after one that fails.  An emitter is given up when the
builder itself is used again. -/
def Operation.perform (c : Construction) : Operation → Construction
  | push id => .idle (c.builder.push id)
  | pop => .idle c.builder.pop
  | defineLocal id => .idle (c.builder.defineLocal id)
  | setPc pc => .idle (c.builder.setPc pc)
  | addParameter index ty types =>
    .idle ((Routine.addParameter index ty types).builderAfter c.builder)
  | addConstant value => .idle ((Routine.addConstant value).builderAfter c.builder)
  | attempt i stubs call callee =>
    .idle (i.specialize call callee { builder := c.builder, stubs }).2.builder
  | commit call facts =>
    match c.builder.commit call facts with
    | .ok e => .emitting e
    | .error (_, b) => .idle b
  | emit operation =>
    match c with
    | .idle b => .idle b
    | .emitting e =>
      .emitting (e.emitter.on ((operation.routine e.emitter).builderAfter e.builder))
  | finish =>
    match c with
    | .idle b => .idle b
    | .emitting e =>
      match e.finish with
      | .ok b => .idle b
      | .error _ => .idle e.builder

/-- The builder after several operations. -/
def Construction.run (c : Construction) (operations : List Operation) : Construction :=
  operations.foldl Operation.perform c

/-! ## Sound routines -/

/-- **The routine enlarges the graph**, and leads from states of a builder to states of a builder
while it fits. -/
structure Routine.Sound {α : Type} (x : Routine α) : Prop where
  enlarges : ∀ s : Session, s.builder.Enlarges (x s).2.builder
  reachable : ∀ s : Session, s.builder.Reachable → (x s).2.builder.Fits → (x s).2.builder.Reachable

namespace Routine

variable {α β : Type}

lemma sound_pure (a : α) : Sound (pure a) := ⟨fun s => .refl s.builder, fun _ h _ => h⟩

lemma Sound.bind {x : Routine α} (hx : Sound x) {f : α → Routine β} (hf : ∀ a, Sound (f a)) :
    Sound (x >>= f) := by
  constructor <;> intro s
  · have henlarges := hx.enlarges s
    rcases hout : x s with ⟨e | a, s'⟩ <;> rw [hout] at henlarges
    · rw [bind_of_error hout]
      exact henlarges
    · rw [bind_of_ok hout]
      exact henlarges.trans ((hf a).enlarges s')
  · intro hs
    have hreachable := hx.reachable s hs
    rcases hout : x s with ⟨e | a, s'⟩ <;> rw [hout] at hreachable
    · rw [bind_of_error hout]
      exact hreachable
    · rw [bind_of_ok hout]
      intro hfits
      exact (hf a).reachable s' (hreachable (((hf a).enlarges s').fits hfits)) hfits

end Routine

/-! ### Emitting -/

namespace Emitter

open Routine

variable (e : Emitter)

/-- A new node gets the next handle, while the graph fits. -/
lemma sound_add (op : Op) (inputs : List NodeId) (ty : ValueType) (types : Option TypeSet) :
    Sound (e.add op inputs ty types) where
  enlarges s := s.builder.enlarges_addAs op inputs ty types
  reachable s hs hfits := by
    have hadd := Builder.Reachable.emitNode (e := e.on s.builder) hs op inputs ty types
    have hrun : (e.add op inputs ty types s).2.builder = { s.builder with
      graph := s.builder.graph.addAs (.ofPosition s.builder.graph.size) op inputs ty types } := rfl
    rw [hrun] at hfits ⊢
    rwa [NodeId.ofPosition_of_lt (Builder.lt_of_fits_addAs hfits)]

lemma sound_push (id : NodeId) : Sound (e.push id) where
  enlarges _ := .congr_right (.refl _) rfl rfl
  reachable s hs _ := Builder.Reachable.emitPush (e := e.on s.builder) hs id

lemma sound_pushConstant (c : Constant) : Sound (e.pushConstant c) :=
  (e.sound_add _ _ _ _).bind fun id => e.sound_push id

/-- A new resume point gets the next handle, while the graph fits. -/
lemma sound_resumeAfter (id : NodeId) : Sound (e.resumeAfter id) := by
  constructor <;> intro s <;> rw [e.resumeAfter_run]
  · cases s.builder.graph.node? id with
    | none => exact .refl _
    | some node =>
      dsimp only
      cases node.resumePoint with
      | some existing => exact .refl _
      | none => exact s.builder.enlarges_addResumePointAs ..
  · intro hs
    cases hnode : s.builder.graph.node? id with
    | none => exact fun _ => hs
    | some node =>
      dsimp only
      cases hpoint : node.resumePoint with
      | some existing => exact fun _ => hs
      | none =>
        intro hfits
        rw [ResumePointId.ofPosition_of_lt (Builder.lt_of_fits_addResumePointAs hfits)]
        exact hs.emitResumePoint (e := e.on s.builder)
          (Emission.resumeAfter_of_unresumed hnode hpoint)

/-- The guarded value gets the next handle, while the graph fits. -/
lemma sound_guardTop (id : NodeId) (observed : TypeSet) (kind : Barrier) :
    Sound (e.guardTop id observed kind) := by
  constructor <;> intro s <;> by_cases htop : s.builder.peek = some id
  · rw [e.guardTop_run htop]
    cases kind with
    | noBarrier => exact .refl _
    | typeSet =>
      have henlarges := s.builder.enlarges_addAs (.typeBarrier .typeSet) [id] observed.knownType
        observed
      exact henlarges.congr_right rfl rfl
  · rw [e.guardTop_run_of_ne htop]
    exact .refl _
  · rw [e.guardTop_run htop]
    cases kind with
    | noBarrier => exact fun hs _ => hs
    | typeSet =>
      intro hs hfits
      have hlt : s.builder.graph.size < UInt32.size :=
        Builder.lt_of_fits_addAs ⟨hfits.nodes, hfits.resumePoints⟩
      let added := (e.on s.builder).add (.typeBarrier .typeSet) [id] observed.knownType observed
      have hguard : (e.on s.builder).guardTop id observed .typeSet =
          .ok { added with builder := added.builder.pop.push s.builder.graph.nextId } :=
        if_neg (not_not.2 htop)
      rw [NodeId.ofPosition_of_lt hlt]
      exact hs.emitGuard hguard
  · rw [e.guardTop_run_of_ne htop]
    exact fun hs _ => hs

lemma sound_forkJoinContext : Sound e.forkJoinContext where
  enlarges s := by
    obtain ⟨context, s', hrun, hextends, -⟩ := forkJoinContext_run (e.on s.builder) s rfl
    rw [show e.forkJoinContext s = _ from hrun]
    exact hextends.builder
  reachable s hs hfits := by
    obtain ⟨context, s', hrun, -, hcontext⟩ := forkJoinContext_run (e.on s.builder) s rfl
    rw [show e.forkJoinContext s = _ from hrun] at hfits ⊢
    have hemit := hs.emitContext (e := e.on s.builder)
    rwa [hcontext hfits] at hemit

lemma sound_call (target : FunctionObject) (c : Call NodeId) : Sound (e.call target c) :=
  (e.sound_add _ _ _ _).bind fun id => (e.sound_push id).bind fun _ =>
    (e.sound_resumeAfter id).bind fun _ => sound_pure id

end Emitter

/-- Every operation on an emitter is sound. -/
lemma EmissionOperation.sound_routine (operation : EmissionOperation) (e : Emitter) :
    (operation.routine e).Sound := by
  cases operation with
  | add => exact (e.sound_add ..).bind fun _ => Routine.sound_pure ()
  | addConstant => exact (e.sound_add ..).bind fun _ => Routine.sound_pure ()
  | push id => exact e.sound_push id
  | pushConstant c => exact e.sound_pushConstant c
  | resumeAfter id => exact e.sound_resumeAfter id
  | guardTop id observed kind => exact e.sound_guardTop id observed kind
  | addBoundsCheck => exact (e.sound_add ..).bind fun _ => Routine.sound_pure ()
  | forkJoinContext => exact e.sound_forkJoinContext.bind fun _ => Routine.sound_pure ()
  | call target c => exact (e.sound_call target c).bind fun _ => Routine.sound_pure ()

/-! ### Attempts -/

/-- Specializing a call only adds to the graph. -/
lemma Inliner.Runs.enlarges {i : Inliner} {s : Session} {call : Call NodeId} {callee : Callee}
    {out : Except Exit Status × Session} (h : i.Runs s call callee out) :
    s.builder.Enlarges out.2.builder := by
  cases h with
  | dead => exact .refl _
  | unknownOperand => exact .refl _
  | declined => exact .refl _
  | stubUnavailable => exact .refl _
  | inlined hlive hr hdecide hstub henlarges => exact henlarges
  | violation hlive hr hdecide hstub henlarges => exact henlarges

/-- **Specializing a call is sound**, since it is an attempt by the engine while the graph fits. -/
lemma Inliner.sound_specialize (i : Inliner) (call : Call NodeId) (callee : Callee) :
    (i.specialize call callee).Sound where
  enlarges s := (i.specialize_runs s call callee).enlarges
  reachable s hs hfits := by
    rw [i.specialize_eq_attempt s call callee hfits]
    exact hs.attempt i s.stubs call callee

/-! ## Sequences of operations -/

/-- Marking operands, also up to one that is missing, leaves all values alone. -/
lemma Builder.enlarges_markOperands (b : Builder) (ids : List NodeId) :
    b.Enlarges { b with graph := (b.graph.markOperands ids).1 } := by
  induction ids generalizing b with
  | nil => exact .refl b
  | cons id ids ih =>
    rw [Graph.markOperands]
    cases b.graph.node? id with
    | none => exact .refl b
    | some node =>
      exact (b.enlarges_markImplicitlyUsed id).trans
        (ih { b with graph := b.graph.markImplicitlyUsed id })

/-- A commit, whether or not it fails, leaves all values alone. -/
lemma Builder.enlarges_commit (b : Builder) (call : Call NodeId) (facts : List Dependency) :
    match b.commit call facts with
    | .ok e => b.Enlarges e.builder
    | .error (_, b') => b.Enlarges b' := by
  have hmark := b.enlarges_markOperands call.operands
  rw [commit]
  split_ifs with hdead
  · exact .refl b
  · dsimp only
    rcases hrun : b.graph.markOperands call.operands with ⟨g, _ | missing⟩ <;> rw [hrun] at hmark
    · exact hmark.congr_right rfl rfl
    · exact hmark.congr_right rfl rfl

/-- **One operation enlarges the graph**, and leads to a state of a builder while the graph fits. -/
lemma Operation.perform_reachable (operation : Operation) (c : Construction) :
    c.builder.Enlarges (operation.perform c).builder ∧
      ((operation.perform c).builder.Fits → c.builder.Reachable →
        (operation.perform c).builder.Reachable) := by
  cases operation with
  | push id => exact ⟨.congr_right (.refl _) rfl rfl, fun _ h => h.push id⟩
  | pop => exact ⟨.congr_right (.refl _) rfl rfl, fun _ h => h.pop⟩
  | defineLocal id => exact ⟨.congr_right (.refl _) rfl rfl, fun _ h => h.defineLocal id⟩
  | setPc pc => exact ⟨.congr_right (.refl _) rfl rfl, fun _ h => h.setPc pc⟩
  | addParameter index ty types =>
    have hsound := Emitter.sound_add default (.parameter index) [] ty types
    exact ⟨hsound.enlarges { builder := c.builder },
      fun hfits h => hsound.reachable { builder := c.builder } h hfits⟩
  | addConstant value =>
    have hsound := Emitter.sound_add default (.constant value) [] value.valueType none
    exact ⟨hsound.enlarges { builder := c.builder },
      fun hfits h => hsound.reachable { builder := c.builder } h hfits⟩
  | attempt i stubs call callee =>
    have hsound := i.sound_specialize call callee
    exact ⟨hsound.enlarges { builder := c.builder, stubs },
      fun hfits h => hsound.reachable { builder := c.builder, stubs } h hfits⟩
  | commit call facts =>
    have henlarges := c.builder.enlarges_commit call facts
    rw [Operation.perform]
    rcases hrun : c.builder.commit call facts with ⟨err, b⟩ | e <;> rw [hrun] at henlarges
    · exact ⟨henlarges, fun _ h => h.commitFailed hrun⟩
    · exact ⟨henlarges, fun _ h => h.commit hrun⟩
  | emit operation =>
    cases c with
    | idle b => exact ⟨.refl b, fun _ => id⟩
    | emitting e =>
      have hsound := operation.sound_routine e.emitter
      exact ⟨hsound.enlarges { builder := e.builder },
        fun hfits h => hsound.reachable { builder := e.builder } h hfits⟩
  | finish =>
    cases c with
    | idle b => exact ⟨.refl b, fun _ => id⟩
    | emitting e =>
      rw [Operation.perform]
      cases hfinish : e.finish with
      | error err => exact ⟨.refl e.builder, fun _ => id⟩
      | ok b =>
        rw [Emission.eq_of_finish hfinish]
        exact ⟨.refl e.builder, fun _ => id⟩

/-- A node beyond 32 bits does not have the handle that its position would need, and neither has a
resume point. -/
lemma Builder.WellFormed.fits {b : Builder} (h : b.WellFormed) (hb : b.graph.Numbered) :
    b.Fits := by
  constructor
  · by_contra hover
    have hlt : NodeId.index ⟨UInt32.size⟩ < b.graph.size := Nat.lt_of_not_le hover
    obtain ⟨n, hn⟩ := Graph.exists_node? hlt
    exact absurd ((h.node _ n hn).symm.trans (hb.node _ n hn)) (by decide)
  · by_contra hover
    have hpoint : b.graph.resumePoint? ⟨UInt32.size⟩ = some _ :=
      Array.getElem?_eq_getElem (Nat.lt_of_not_le hover)
    exact absurd ((h.resumePoint _ _ hpoint).symm.trans (hb.resumePoint _ _ hpoint)) (by decide)

namespace Construction

/-- **A sequence of operations enlarges the graph**, and leads to a state of a builder provided that
the graph fits in the end; then it has fitted all along. -/
lemma reachable_run (c : Construction) (operations : List Operation) :
    c.builder.Enlarges (c.run operations).builder ∧
      ((c.run operations).builder.Fits → c.builder.Reachable →
        (c.run operations).builder.Reachable) := by
  induction operations generalizing c with
  | nil => exact ⟨.refl _, fun _ => id⟩
  | cons operation operations ih =>
    obtain ⟨hfirst, hperform⟩ := operation.perform_reachable c
    obtain ⟨hrest, hrun⟩ := ih (operation.perform c)
    exact ⟨hfirst.trans hrest, fun hfits h => hrun hfits (hperform (hrest.fits hfits) h)⟩

/-- **After every sequence of operations the graph is well formed**, provided that handles of 32
bits reach all of it: every handle in a node, in the block and in a resume point belongs to the
position that it stands at, nodes and resume points are in one-to-one correspondence, a remembered
fork-join context is one, and no fact is repeated. -/
theorem wellFormed_run (operations : List Operation)
    (hfits : ((idle {}).run operations).builder.Fits) :
    ((idle {}).run operations).builder.WellFormed :=
  ((reachable_run _ operations).2 hfits .new).wellFormed

/-- A call of `Math.max` is specialized; a second one is committed with a receiver that is not in
the graph; a third one leaves behind a fork-join context, a call that is resumed after, which works
once, and no result. -/
def mishaps : List Operation :=
  let call : Call NodeId := { site := ⟨0⟩, callee := ⟨0⟩, receiver := ⟨0⟩, args := [⟨1⟩] }
  [.addParameter 0 .object none, .addParameter 1 .int32 none,
    .attempt {} {} { call with resultTypes := .ofType .int32 }
      (.function (.ofNative ⟨1⟩ .mathMax)),
    .commit { call with site := ⟨1⟩, receiver := ⟨9⟩ } [],
    .commit { call with site := ⟨2⟩ } [.noIndexedPrototype, .noIndexedPrototype],
    .emit .forkJoinContext, .emit (.add (.call ⟨2⟩ 0 false) [⟨0⟩, ⟨9⟩] .boxed none),
    .emit (.resumeAfter ⟨4⟩), .emit (.resumeAfter ⟨4⟩), .finish]

/-- The graph has the two parameters, the maximum, the context and the call. -/
theorem wellFormed_run_mishaps :
    ((idle {}).run mishaps).builder.WellFormed ∧ ((idle {}).run mishaps).builder.graph.size = 5 ∧
      ((idle {}).run mishaps).builder.graph.resumed? ⟨4⟩ = some ⟨0⟩ ∧
      ((idle {}).run mishaps).builder.context = some ⟨3⟩ :=
  ⟨wellFormed_run mishaps ⟨by decide +kernel, by decide +kernel⟩, by decide +kernel,
    by decide +kernel, by decide +kernel⟩

/-! ## Beyond 32 bits -/

/-- Nodes and resume points are numbered after every sequence of operations. -/
lemma numbered_run (operations : List Operation) :
    ((idle {}).run operations).builder.graph.Numbered :=
  (reachable_run (idle {}) operations).1.numbered Graph.numbered_empty

/-- **After a sequence of operations the graph is well formed exactly if** handles of 32 bits reach
all of it. -/
theorem wellFormed_run_iff (operations : List Operation) :
    ((idle {}).run operations).builder.WellFormed ↔ ((idle {}).run operations).builder.Fits :=
  ⟨fun h => h.fits (numbered_run operations),
    fun hfits => ((reachable_run _ operations).2 hfits .new).wellFormed⟩

lemma size_run_replicate (n : Nat) :
    ((idle {}).run (.replicate n (.addParameter 0 .object none))).builder.graph.size = n := by
  induction n with
  | zero => rfl
  | succ n ih =>
    rw [run, List.replicate_succ', List.foldl_append]
    exact (Graph.size_addAs ..).trans (congrArg (· + 1) ih)

/-- **One node too many**: then the last one has the handle of the first. -/
theorem not_wellFormed_of_overflow :
    ¬((idle {}).run
      (.replicate (UInt32.size + 1) (.addParameter 0 .object none))).builder.WellFormed := by
  rw [wellFormed_run_iff]
  rintro ⟨hnodes, -⟩
  rw [size_run_replicate] at hnodes
  exact absurd hnodes (Nat.not_succ_le_self _)

end Construction

end CallSite
