import CallSite.Proofs.Outcome

/-!
# Calls through bound functions

A call of a bound function becomes a call of its target, where the bound receiver and the bound
arguments stand in front of the actual ones.  They are written into the code as constants, so none
of them may be an object that moves; and all of them together must not be more than a call can have.

* `FunctionObject.ReachesConstructor` — a chain of bound targets that ends in a constructor.
* `Engine.MayMove`, `Inliner.CanForward` — **when a call can be forwarded**.
* `Builder.Forwards` — **what a call becomes that is forwarded**.
* `Inliner.attempt_inlined_iff_canForward` — **a call through a bound function is forwarded iff it
  can be**, whatever the number of arguments.
* `Inliner.attempt_forwards` — the same with what the call becomes, as long as a word can hold the
  number of arguments.
-/

namespace CallSite

open BoundCall (forward forwarded)
open Decide (bind_eq_ok map_eq_ok require_eq_ok)

/-! ## Constructors -/

namespace FunctionObject

/-- **Following bound targets leads to a constructor.** -/
inductive ReachesConstructor : FunctionObject → Prop where
  | native {f : FunctionObject} {n : Native} (h : f.kind = .native n true) : f.ReachesConstructor
  | interpreted {f : FunctionObject} (h : f.kind = .interpreted true) : f.ReachesConstructor
  | bound {f target : FunctionObject} {receiver : Constant} {arguments : List Constant}
      (h : f.kind = .bound (.function target) receiver arguments)
      (htarget : target.ReachesConstructor) : f.ReachesConstructor

lemma isConstructor_eq (f : FunctionObject) : f.isConstructor = f.kind.isConstructor := by
  cases f
  rfl

lemma ReachesConstructor.isConstructor {f : FunctionObject} (h : f.ReachesConstructor) :
    f.isConstructor = true := by
  induction h with
  | native h => rw [isConstructor_eq, h]; rfl
  | interpreted h => rw [isConstructor_eq, h]; rfl
  | bound h _ ih => rw [isConstructor_eq, h]; exact ih

/-- The recursion is that through the targets. -/
lemma reachesConstructor : (f : FunctionObject) → f.isConstructor = true → f.ReachesConstructor
  | ⟨_, .native _ c⟩, h => by
    obtain rfl : c = true := h
    exact .native rfl
  | ⟨_, .interpreted c⟩, h => by
    obtain rfl : c = true := h
    exact .interpreted rfl
  | ⟨_, .bound (.function target) _ _⟩, h => .bound rfl (target.reachesConstructor h)
  | ⟨_, .bound (.object _) _ _⟩, h => nomatch h

/-- **A function is a constructor** iff following bound targets leads to one. -/
theorem isConstructor_iff (f : FunctionObject) : f.isConstructor = true ↔ f.ReachesConstructor :=
  ⟨f.reachesConstructor, ReachesConstructor.isConstructor⟩

end FunctionObject

/-! ## Forwarding -/

/-- **The constant is an object that may still move.** -/
def Engine.MayMove (env : Engine) (c : Constant) : Prop :=
  ∃ o, c = .object o ∧ env.isShortLived o = true

/-- **A call can be forwarded** to the target of a bound function. -/
structure Inliner.CanForward (i : Inliner) (call : Call NodeId) (target : FunctionObject)
    (receiver : Constant) (bound : List Constant) : Prop where
  settled : ∀ c ∈ forwarded target receiver bound, ¬i.env.MayMove c
  /-- The target is called with as many arguments as a call can have. -/
  few : bound.length + call.argc ≤ i.config.maxCallArgs.toNat
  constructs : call.constructing = true → target.ReachesConstructor

/-- The node that a constant is. -/
def constantNode (c : Constant) : Blueprint := ⟨.constant c, [], c.valueType, none⟩

/-- **The call is forwarded**: it becomes one call of the target, behind the constants, that is told
to have `argc` arguments. -/
structure Builder.Forwards (b b' : Builder) (env : Engine) (call : Call NodeId)
    (target : FunctionObject) (receiver : Constant) (bound : List Constant) (argc : UInt32) :
    Prop where
  /-- The constants are the first inputs of the call; the actual arguments follow. -/
  becomes : b.Becomes b'
    ((forwarded target receiver bound).map constantNode ++
      [⟨.call target.object.id argc call.constructing,
        (List.range (bound.length + 2)).map (fun k => ⟨b.graph.size + k⟩) ++ call.args,
        call.returnType, some call.resultTypes⟩])
    ⟨b.graph.size + (bound.length + 2)⟩
  settled : ∀ n ∈ b'.graph.since b.graph.size, ∀ c, n.op.constant? = some c → ¬env.MayMove c

namespace BoundCall

/-! ## The decision -/

variable {s : Site} {f target : FunctionObject} {receiver : Constant} {bound : List Constant}
  {p : Plan}

lemma mayMove_iff {c : Constant} : mayMove s c = true ↔ s.env.MayMove c := by
  cases c <;> simp [mayMove, Constant.object?, Engine.MayMove]

/-- Nothing is asked of the shape of the call. -/
lemma classify_any (s : Site) :
    s.classify { arity := .atLeast 0, constructing := .either } = .ok () := by
  refine Site.classify_eq_ok ((s.admits_iff _).2 ⟨?_, ?_, rfl, rfl, rfl⟩)
  · cases s.call.constructing <;> rfl
  · simp [Arity.accepts]

/-- Nothing that is written into the code may move. -/
lemma forall_forwarded_iff :
    (∀ c ∈ forwarded target receiver bound, ¬s.env.MayMove c) ↔
      (!s.env.isShortLived target.object) = true ∧ (!mayMove s receiver) = true ∧
        (!bound.any (mayMove s)) = true := by
  have hcallee : mayMove s (.object target.object) = s.env.isShortLived target.object := rfl
  simp [forwarded, ← mayMove_iff, hcallee]

/-- **When a call is forwarded.** -/
theorem specialize_eq_ok_iff (hkind : f.kind = .bound (.function target) receiver bound) :
    specialize f s = .ok p ↔
      (s.call.constructing = true → target.isConstructor = true) ∧
      (∀ c ∈ forwarded target receiver bound, ¬s.env.MayMove c) ∧
      bound.length + s.argc ≤ s.config.maxCallArgs.toNat ∧
      .of (forward s target receiver bound) = p := by
  rw [specialize, hkind, classify_any, forall_forwarded_iff]
  cases s.call.constructing <;>
    simp [bind_eq_ok, map_eq_ok, require_eq_ok, and_assoc]

/-- **An object that is no function** is not called. -/
theorem specialize_object (o : ObjectRef) (hkind : f.kind = .bound (.object o) receiver bound) :
    specialize f s ≠ .ok p := by
  intro h
  rw [specialize, hkind, classify_any] at h
  cases h

/-! ## The nodes -/

/-- **The nodes of a forwarded call.** -/
theorem sketches_forward (s : Site) (target : FunctionObject) (receiver : Constant)
    (bound : List Constant) (base : Nat) (context : NodeId) :
    (Plan.of (forward s target receiver bound)).sketches.map (·.resolve base context) =
      (forwarded target receiver bound).map constantNode ++
        [⟨.call target.object.id (UInt32.ofNat (bound.length + s.argc)) s.call.constructing,
          (List.range (bound.length + 2)).map (fun k => ⟨base + k⟩) ++
            s.args.map (·.ref.resolve base context), s.returnType, some s.call.resultTypes⟩] := by
  have hsteps : (Plan.of (forward s target receiver bound)).steps = _ :=
    forward_steps s target receiver bound
  have hconstants : Step.sketch? ∘ constantStep =
      some ∘ fun c => ⟨.constant c, [], c.valueType, none⟩ := rfl
  have hinputs : ((List.range (bound.length + 2)).map Ref.added ++
      s.args.map fun x => x.ref).map (·.resolve base context) =
        (List.range (bound.length + 2)).map (fun k => ⟨base + k⟩) ++
          s.args.map (·.ref.resolve base context) := by
    rw [List.map_append, List.map_map, List.map_map]
    rfl
  rw [Plan.sketches, hsteps, List.filterMap_append, List.filterMap_map, hconstants,
    List.filterMap_eq_map, List.map_append, List.map_map, ← hinputs]
  rfl

/-- **A node of a forwarded call that is a constant** is one of those that it is given. -/
theorem mem_of_constant? {n : Blueprint} {target : ObjectId} {argc : UInt32}
    {constructing : Bool} {inputs : List NodeId} {ty : ValueType} {types : Option TypeSet}
    {cs : List Constant} {c : Constant}
    (h : n ∈ cs.map constantNode ++ [⟨.call target argc constructing, inputs, ty, types⟩])
    (hc : n.op.constant? = some c) : c ∈ cs := by
  rcases List.mem_append.1 h with hconstant | hcall
  · obtain ⟨c', hc', rfl⟩ := List.mem_map.1 hconstant
    obtain rfl := Option.some.inj hc
    exact hc'
  · obtain rfl := List.mem_singleton.1 hcall
    cases hc

end BoundCall

/-! ## Attempts -/

namespace Inliner

variable {i : Inliner} {stubs : StubStore} {b b' : Builder} {call : Call NodeId}
  {f target : FunctionObject} {receiver : Constant} {bound : List Constant} {r : Call Operand}
  {p : Plan}

lemma native?_of_bound {t : BoundTarget} (hf : f.kind = .bound t receiver bound) :
    f.native? = some .callOrConstructBoundFunction := by
  rw [FunctionObject.native?, hf]

/-- **When a call is forwarded**, in terms of the call as it is given. -/
theorem Resolved.specialize_eq_ok_iff (h : Resolved b call r)
    (hf : f.kind = .bound (.function target) receiver bound) :
    BoundCall.specialize f (i.site r) = .ok p ↔
      i.CanForward call target receiver bound ∧
        .of (forward (i.site r) target receiver bound) = p := by
  have hargc : (i.site r).argc = call.argc := h.argc_eq
  have hconstructing : (i.site r).call.constructing = call.constructing := h.constructing_eq
  rw [BoundCall.specialize_eq_ok_iff hf, hargc, hconstructing, target.isConstructor_iff]
  constructor
  · rintro ⟨hconstructs, hsettled, hfew, hplan⟩
    exact ⟨⟨hsettled, hfew, hconstructs⟩, hplan⟩
  · rintro ⟨⟨hsettled, hfew, hconstructs⟩, hplan⟩
    exact ⟨hconstructs, hsettled, hfew, hplan⟩

/-- **What a call becomes that is forwarded.**  Bound and actual arguments are counted together, and
of their number a word is kept. -/
theorem Emits.forwards (h : i.Emits b call (.function f) r p b')
    (hf : f.kind = .bound (.function target) receiver bound) :
    i.CanForward call target receiver bound ∧
      b.Forwards b' i.env call target receiver bound (.ofNat (bound.length + call.argc)) := by
  have hdecide : BoundCall.specialize f (i.site r) = .ok p :=
    h.decide_eq_ok (q := .boundFunction) (native?_of_bound hf) rfl
  obtain ⟨hcan, rfl⟩ := (h.resolved.specialize_eq_ok_iff hf).1 hdecide
  refine ⟨hcan, ?_⟩
  have hsteps : (Plan.of (forward (i.site r) target receiver bound)).steps = _ :=
    BoundCall.forward_steps (i.site r) target receiver bound
  have hpush : .push (.added (bound.length + 2)) ∈
      (Plan.of (forward (i.site r) target receiver bound)).steps := by
    simp [hsteps]
  have hlast : (Plan.of (forward (i.site r) target receiver bound)).steps.getLast?.any
      Step.isGuard = false := by
    simp [hsteps, Step.isGuard]
  obtain ⟨context, hbecomes⟩ := h.becomes_of_push rfl hpush hlast
  have hargc : (i.site r).argc = call.argc := h.resolved.argc_eq
  have hconstructing : (i.site r).call.constructing = call.constructing :=
    h.resolved.constructing_eq
  have hargs : (i.site r).args.map (·.ref.resolve b.graph.size context) = call.args :=
    h.resolved.args_eq b.graph.size context
  have htypes : (i.site r).call.resultTypes = call.resultTypes := h.resolved.resultTypes_eq
  have hreturn : (i.site r).returnType = call.returnType := congrArg TypeSet.knownType htypes
  rw [BoundCall.sketches_forward, hargc, hconstructing, hargs, htypes, hreturn] at hbecomes
  refine ⟨hbecomes, fun n hn c hc => hcan.settled c ?_⟩
  exact BoundCall.mem_of_constant? (hbecomes.mem hn) hc

/-- **A call that can be forwarded is forwarded.** -/
theorem inlined_of_canForward (hlive : b.isDead call.site = false)
    (hops : ∀ id ∈ call.operands, id.index < b.graph.size) (hkind : call.kind = .call)
    (hnatives : i.config.inlineNatives = true)
    (hf : f.kind = .bound (.function target) receiver bound)
    (h : i.CanForward call target receiver bound) :
    (i.attempt stubs b call (.function f)).result = .ok .inlined := by
  obtain ⟨r, hr⟩ := exists_resolved hops
  have hdecide := ((resolved_of_eq_ok hr).specialize_eq_ok_iff hf).2 ⟨h, rfl⟩
  have hargc : call.argc ≤ i.config.maxCallArgs.toNat := Nat.le_trans (Nat.le_add_left _ _) h.few
  exact inlined_of_decide hlive hr (native?_of_bound hf) rfl hkind hnatives hargc hdecide rfl

section Attempts

variable {t : BoundTarget} (hlive : b.isDead call.site = false)
  (hops : ∀ id ∈ call.operands, id.index < b.graph.size) (hkind : call.kind = .call)
  (hnatives : i.config.inlineNatives = true) (hf : f.kind = .bound t receiver bound)

include hlive hops hkind hnatives hf

/-- **When a call through a bound function is specialized**: iff what is bound is a function, none of
the constants may move, the target is not called with too many arguments, and constructing leads to
a constructor. -/
theorem attempt_inlined_iff_canForward :
    (i.attempt stubs b call (.function f)).result = .ok .inlined ↔
      ∃ target, t = .function target ∧ i.CanForward call target receiver bound := by
  constructor
  · intro h
    obtain ⟨r, p, hemits⟩ := exists_emits h
    cases t with
    | function target => exact ⟨target, rfl, (hemits.forwards hf).1⟩
    | object o =>
      have hdecide := hemits.decide_eq_ok (q := .boundFunction) (native?_of_bound hf) rfl
      exact absurd hdecide (BoundCall.specialize_object o hf)
  · rintro ⟨target, rfl, hcan⟩
    exact inlined_of_canForward hlive hops hkind hnatives hf hcan

/-- **Calls through bound functions.**  Such a call is specialized iff it can be forwarded, and then
it is: the call that it becomes is told the number of bound and actual arguments, which is right as
long as a word can hold it. -/
theorem attempt_forwards (hcount : bound.length + call.argc < UInt32.size) :
    ((i.attempt stubs b call (.function f)).result = .ok .inlined ↔
      ∃ target, t = .function target ∧ i.CanForward call target receiver bound) ∧
    ∀ target, t = .function target →
      (i.attempt stubs b call (.function f)).result = .ok .inlined →
      ∃ argc : UInt32, argc.toNat = bound.length + call.argc ∧
        b.Forwards (i.attempt stubs b call (.function f)).builder i.env call target receiver bound
          argc := by
  refine ⟨attempt_inlined_iff_canForward hlive hops hkind hnatives hf, ?_⟩
  rintro target rfl h
  obtain ⟨r, p, hemits⟩ := exists_emits h
  exact ⟨_, UInt32.toNat_ofNat_of_lt hcount, (hemits.forwards hf).2⟩

end Attempts

/-- The call of the target is one of the nodes that are added. -/
lemma Emits.exists_call (h : i.Emits b call (.function f) r p b')
    (hf : f.kind = .bound (.function target) receiver bound) :
    ∃ n ∈ b'.graph.nodes,
      n.op = .call target.object.id (.ofNat (bound.length + call.argc)) call.constructing ∧
      n.inputs.length = bound.length + call.argc + 2 := by
  obtain ⟨n, hn, hblueprint⟩ := (h.forwards hf).2.becomes.exists_of_mem
    (List.mem_append_right _ (List.mem_singleton_self _))
  have hinputs := congrArg (·.inputs.length) hblueprint
  simp only [List.length_append, List.length_map, List.length_range] at hinputs
  refine ⟨n, Array.mem_toList_iff.1 (List.mem_of_mem_drop hn), congrArg Blueprint.op hblueprint, ?_⟩
  rw [show n.inputs.length = _ from hinputs, Call.argc]
  omega

end Inliner

/-- A constructor that is bound; what is bound once more is this. -/
def Scenario.boundConstructor : FunctionObject :=
  .ofBound ⟨2⟩ (.function (.ofInterpreted ⟨3⟩ true)) .null []

/-- An object is constructed by a function that is bound twice; a string is bound in front of the
argument.  Some other object may move. -/
def Scenario.constructBound : Scenario where
  callee := .function (.ofBound ⟨1⟩ (.function boundConstructor) .undefined [.string "a"])
  args := [.typed .int32 none]
  constructing := true
  env := { shortLived := [⟨4⟩] }

/-- The argument is the second of two. -/
theorem attempt_forwards_constructBound :
    (Scenario.constructBound.attempt {} Scenario.constructBound.builder).result = .ok .inlined ∧
    ∃ argc : UInt32, argc.toNat = 2 ∧
      Scenario.constructBound.builder.Forwards
        (Scenario.constructBound.attempt {} Scenario.constructBound.builder).builder
        Scenario.constructBound.env Scenario.constructBound.call Scenario.boundConstructor
        .undefined [.string "a"] argc := by
  have hcan : Scenario.constructBound.inliner.CanForward Scenario.constructBound.call
      Scenario.boundConstructor .undefined [.string "a"] :=
    { settled := by
        rintro _ hc ⟨o, rfl, hyoung⟩
        obtain rfl : o = Scenario.boundConstructor.object := by simpa [forwarded] using hc
        exact absurd hyoung (by decide)
      few := by decide
      constructs := fun _ => .bound rfl (.interpreted rfl) }
  obtain ⟨hiff, hforwards⟩ := @Inliner.attempt_forwards Scenario.constructBound.inliner {}
    Scenario.constructBound.builder Scenario.constructBound.call
    (.ofBound ⟨1⟩ (.function Scenario.boundConstructor) .undefined [.string "a"]) _ _ _ (by decide)
    (by decide) rfl rfl rfl (by decide)
  have hinlined := hiff.2 ⟨_, rfl, hcan⟩
  exact ⟨hinlined, hforwards _ rfl hinlined⟩

/-- A function that is bound without arguments. -/
def FunctionObject.boundAlone : FunctionObject :=
  .ofBound ⟨1⟩ (.function (.ofInterpreted ⟨2⟩ false)) .undefined []

/-- A call all of whose operands are the same value; `n` times it is an argument. -/
def Call.repeated (n : Nat) : Call NodeId where
  site := ⟨0⟩
  callee := ⟨0⟩
  receiver := ⟨0⟩
  args := List.replicate n ⟨0⟩

/-- An attempt at such a call, where it may have `2 ^ 32` arguments. -/
def Attempt.repeated (n : Nat) : Attempt :=
  ({ config := { maxCallArgs := .ofNat UInt32.size } } : Inliner).attempt {}
    (({} : Builder).addParameter 0 .object) (.repeated n) (.function .boundAlone)

/-- Of the number of arguments a word is kept. -/
lemma Attempt.repeated_call {n : Nat} (hn : n ≤ UInt32.size) :
    (Attempt.repeated n).result = .ok .inlined ∧ ∃ m ∈ (Attempt.repeated n).builder.graph.nodes,
      m.op = .call ⟨2⟩ (.ofNat n) false ∧ m.inputs.length = n + 2 := by
  have hargc : (Call.repeated n).argc = n := List.length_replicate
  have hops : ∀ id ∈ (Call.repeated n).operands, id.index < 1 := by
    simp [Call.operands, Call.repeated, List.mem_replicate]
  have hcan : ({ config := { maxCallArgs := .ofNat UInt32.size } } : Inliner).CanForward
      (.repeated n) (.ofInterpreted ⟨2⟩ false) .undefined [] :=
    { settled := by
        rintro _ - ⟨o, -, hyoung⟩
        cases hyoung
      few := by
        rw [hargc, List.length_nil, Nat.zero_add]
        exact hn
      constructs := fun hnew => absurd hnew Bool.false_ne_true }
  have hinlined : (Attempt.repeated n).result = .ok .inlined :=
    Inliner.inlined_of_canForward rfl hops rfl rfl rfl hcan
  obtain ⟨r, p, hemits⟩ := Inliner.exists_emits hinlined
  obtain ⟨m, hm, hop, hinputs⟩ := hemits.exists_call rfl
  rw [hargc, List.length_nil, Nat.zero_add] at hop hinputs
  exact ⟨hinlined, m, hm, hop, hinputs⟩

/-- **What a call of the target does not tell.**  Callee and receiver are inputs of the call that are
not counted: of four inputs two are arguments.  And of the count a word is kept: a call with `2 ^ 32`
arguments is told to have none. -/
theorem attempt_forwards_miscounts :
    (∃ n ∈ (Scenario.constructBound.attempt {} Scenario.constructBound.builder).builder.graph.nodes,
      n.op = .call ⟨2⟩ 2 true ∧ n.inputs.length = 4) ∧
    (Attempt.repeated UInt32.size).result = .ok .inlined ∧
    ∃ n ∈ (Attempt.repeated UInt32.size).builder.graph.nodes,
      n.op = .call ⟨2⟩ 0 false ∧ n.inputs.length = UInt32.size + 2 :=
  ⟨by decide +kernel, Attempt.repeated_call (Nat.le_refl _)⟩

end CallSite
