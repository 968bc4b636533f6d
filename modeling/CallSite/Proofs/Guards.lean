import CallSite.Proofs.Replaced

/-!
# Guards over what a call gives

What a slot holds, what a match gives and what a called function returns can be anything, whatever
was observed so far.  A load from a slot and a match are left behind a guard by the observed types.
A call through a bound function is not: its node is given the observed types as if they were known,
and is itself left on the stack.

* `Op.isUntyped` — the operations whose value can be anything.
* `Builder.Guards`, `Builder.Trusts` — the two ways of leaving such a value.
* `Plan.Obtains` — the shape of the plans that have such an operation.
* `Inliner.Origin.obtains` — what such a plan is, whatever native it is for.
* `Inliner.attempt_guards_iff` — **a value that can be anything is guarded iff no call gives it**.
* `not_forall_guards` — and such a call is specialized although its result types are known.
-/

namespace CallSite

/-! ## Values that can be anything -/

/-- The operation calls a function. -/
def Op.isCall : Op → Bool
  | .call .. => true
  | _ => false

/-- **The value of the operation can be anything**, whatever was observed of it. -/
def Op.isUntyped : Op → Bool
  | .loadFixedSlot _ | .regExpExec | .call .. => true
  | _ => false

@[simp]
lemma Op.isUntyped_constant (c : Constant) : (Op.constant c).isUntyped = false :=
  rfl

@[simp]
lemma Op.isUntyped_typeBarrier (kind : Barrier) : (Op.typeBarrier kind).isUntyped = false :=
  rfl

@[simp]
lemma Op.isUntyped_forkJoinContext : Op.forkJoinContext.isUntyped = false :=
  rfl

/-- **The value is left behind a guard**: nothing is assumed of it, and what is on top of the stack
is a barrier over it by the observed types. -/
structure Builder.Guards (b : Builder) (observed : TypeSet) (id : NodeId) : Prop where
  boxed : (b.graph.node? id).map Node.ty = some .boxed
  left : ∃ v, b.peek = some v ∧ (b.graph.node? v).map Node.blueprint =
    some ⟨.typeBarrier .typeSet, [id], observed.knownType, some observed⟩

/-- **The value is trusted** to be of the observed types: they are those of its node, which is
itself on top of the stack. -/
structure Builder.Trusts (b : Builder) (observed : TypeSet) (id : NodeId) : Prop where
  ty : (b.graph.node? id).map Node.ty = some observed.knownType
  types : (b.graph.node? id).map Node.types = some (some observed)
  left : b.peek = some id

/-! ## Plans that obtain such a value -/

/-- The step adds a constant. -/
def Step.addsConstant : Step → Bool
  | .add (.constant _) .. => true
  | _ => false

/-- The step attaches a resume point. -/
def Step.isResume : Step → Bool
  | .resume _ => true
  | _ => false

/-- **A plan that obtains one value**: after constants it adds the node of the operation and pushes
it; what follows are resume points and, if there is one, the guard of the result. -/
def Plan.Obtains (p : Plan) (op : Op) (ty : ValueType) (types guard : Option TypeSet) : Prop :=
  ∃ constants inputs resumes, (∀ s ∈ constants, s.addsConstant = true) ∧
    (∀ s ∈ resumes, s.isResume = true) ∧
    p.steps = constants ++ .add op inputs ty types :: .push (.added constants.length) ::
      (resumes ++ (guard.map (.guardTop (.added constants.length))).toList)

namespace Step

variable {scope : List Ref} {σ σ' : Progress} {steps : List Step}

/-- What was pushed stays so. -/
lemma AdvancesAll.pushed_eq (h : AdvancesAll scope σ steps σ') (hσ : σ.result.isSome = true) :
    σ'.pushed = σ.pushed := by
  induction h with
  | nil => rfl
  | cons first _ ih =>
    cases first with
    | push _ first => simp [first] at hσ
    | guardTop _ _ _ => exact ih rfl
    | _ => exact ih hσ

/-- **The value that a step pushes** is the one that is known as pushed at the end. -/
theorem AdvancesAll.pushed_of_mem (h : AdvancesAll scope σ steps σ') {v : Ref}
    (hv : .push v ∈ steps) : σ'.pushed = some v := by
  induction h with
  | nil => cases hv
  | cons first others ih =>
    rcases List.mem_cons.1 hv with rfl | hv
    · cases first
      exact others.pushed_eq rfl
    · exact ih hv

lemma isGuard_of_addsConstant {s : Step} (h : s.addsConstant = true) : s.isGuard = false := by
  cases s <;> first | rfl | cases h

lemma isGuard_of_isResume {s : Step} (h : s.isResume = true) : s.isGuard = false := by
  cases s <;> first | rfl | cases h

end Step

namespace Plan

variable {s : Site} {p : Plan} {b b' : Builder} {call : Call NodeId} {op : Op} {ty : ValueType}
  {types guard : Option TypeSet}

/-- The nodes of constants are not untyped. -/
lemma isUntyped_of_constants {steps : List Step} (h : ∀ s ∈ steps, s.addsConstant = true)
    (base : Nat) (context : NodeId) :
    (steps.filterMap (Step.blueprint? base context)).length = steps.length ∧
    ∀ bp ∈ steps.filterMap (Step.blueprint? base context), bp.op.isUntyped = false := by
  induction steps with
  | nil => exact ⟨rfl, List.forall_mem_nil _⟩
  | cons step steps ih =>
    obtain ⟨hstep, hsteps⟩ := List.forall_mem_cons.1 h
    obtain ⟨hlength, hall⟩ := ih hsteps
    cases step with
    | add op inputs ty types =>
      cases op with
      | constant c => simpa [Step.blueprint?, hlength] using hall
      | _ => cases hstep
    | _ => cases hstep

/-- Resume points add no node. -/
lemma blueprints_of_resumes {steps : List Step} (h : ∀ s ∈ steps, s.isResume = true)
    (base : Nat) (context : NodeId) : steps.filterMap (Step.blueprint? base context) = [] := by
  refine List.filterMap_eq_nil_iff.2 fun step hstep => ?_
  cases step with
  | resume v => rfl
  | _ => cases h _ hstep

/-- **The value that such a plan pushes** is its only node whose value can be anything. -/
theorem Obtains.node (hob : p.Obtains op ty types guard) (hlive : b.isDead call.site = false)
    (hops : ∀ id ∈ call.operands, id.index < b.graph.size) (h : p.emit b call = .ok b')
    {scope : List Ref} {σ : Progress} (hsteps : Step.AdvancesAll scope {} p.steps σ) {id : NodeId}
    {n : Node} (hid : b.graph.size ≤ id.index) (hn : b'.graph.node? id = some n)
    (untyped : n.op.isUntyped = true) :
    ∃ w, σ.pushed = some w ∧
      w.resolve (p.opened b call).2.builder.graph.size (p.opened b call).1 = id ∧
      n.op = op ∧ n.ty = ty ∧ n.types = types := by
  obtain ⟨constants, inputs, resumes, hconstants, hresumes, hshape⟩ := hob
  have hpushed := hsteps.pushed_of_mem (v := .added constants.length) (by simp [hshape])
  rcases blueprint_of_new hlive hops h hid hn with hcontext | ⟨k, rfl, hk⟩
  · simp [hcontext] at untyped
  · obtain ⟨hlength, hquiet⟩ := isUntyped_of_constants hconstants
      (p.opened b call).2.builder.graph.size (p.opened b call).1
    rw [blueprints, hshape, List.filterMap_append] at hk
    have hlt : constants.length ≤ k := by
      by_contra hlt
      rw [List.getElem?_append_left (by omega)] at hk
      have hop := hquiet _ (List.mem_of_getElem? hk)
      simp [Node.blueprint, untyped] at hop
    obtain ⟨j, rfl⟩ := Nat.exists_eq_add_of_le hlt
    rw [List.getElem?_append_right (by omega), hlength, Nat.add_sub_cancel_left,
      List.filterMap_cons, List.filterMap_cons, List.filterMap_append,
      blueprints_of_resumes hresumes] at hk
    cases j with
    | zero =>
      have hblueprint := Option.some.inj hk
      exact ⟨_, hpushed, rfl, (congrArg Blueprint.op hblueprint).symm,
        (congrArg Blueprint.ty hblueprint).symm, (congrArg Blueprint.types hblueprint).symm⟩
    | succ j =>
      -- behind the node there is the guard at most
      cases guard with
      | none => cases hk
      | some observed =>
        obtain hblueprint := List.mem_singleton.1 (List.mem_of_getElem? hk)
        have hop : n.op = .typeBarrier .typeSet := congrArg Blueprint.op hblueprint
        simp [hop] at untyped

/-- Such a plan ends in the guard, if there is one, and has no other. -/
lemma Obtains.guard_eq (hob : p.Obtains op ty types guard) :
    (guard = none → ∀ s ∈ p.steps, s.isGuard = false) ∧
    ∀ observed, guard = some observed → ∃ before v, p.steps = before ++ [.guardTop v observed] := by
  obtain ⟨constants, inputs, resumes, hconstants, hresumes, hshape⟩ := hob
  constructor
  · rintro rfl step hstep
    rw [hshape] at hstep
    simp only [List.mem_append, List.mem_cons, Option.map_none, Option.toList_none,
      List.not_mem_nil, or_false] at hstep
    rcases hstep with hmem | rfl | rfl | hmem
    · exact Step.isGuard_of_addsConstant (hconstants _ hmem)
    · rfl
    · rfl
    · exact Step.isGuard_of_isResume (hresumes _ hmem)
  · rintro observed rfl
    refine ⟨constants ++ .add op inputs ty types :: .push (.added constants.length) :: resumes,
      .added constants.length, ?_⟩
    simp [hshape]

/-- **What such a plan leaves** is the value, or the guard over it. -/
theorem Obtains.left (hob : p.Obtains op ty types guard) (horderly : p.Orderly s)
    (hlive : b.isDead call.site = false) (hops : ∀ id ∈ call.operands, id.index < b.graph.size)
    (h : p.emit b call = .ok b') {id : NodeId} {n : Node} (hid : b.graph.size ≤ id.index)
    (hn : b'.graph.node? id = some n) (untyped : n.op.isUntyped = true) :
    (guard = none → b'.peek = some id) ∧
    ∀ observed, guard = some observed → ∃ v, b'.peek = some v ∧
      (b'.graph.node? v).map Node.blueprint =
        some ⟨.typeBarrier .typeSet, [id], observed.knownType, some observed⟩ := by
  obtain ⟨σ, hsteps, hσ⟩ := horderly
  obtain ⟨w, hw, rfl, -⟩ := hob.node hlive hops h hsteps hid hn untyped
  obtain ⟨hplain, hguarded⟩ := hob.guard_eq
  obtain ⟨w', hw', hleft⟩ := left_of_emit hlive hops h hsteps hσ
  obtain rfl := Option.some.inj (hw.symm.trans hw')
  rcases hleft with ⟨hquiet, hstack⟩ | ⟨before, observed, hall, -, σ₁, hbefore, hstack⟩
  · refine ⟨fun _ => by rw [Builder.peek, hstack, List.getLast?_concat], ?_⟩
    intro observed hguard
    obtain ⟨before, v, hall⟩ := hguarded observed hguard
    have hmem : Step.guardTop v observed ∈ p.steps := by simp [hall]
    cases hquiet _ hmem
  · constructor
    · intro hguard
      have hmem : Step.guardTop w observed ∈ p.steps := by simp [hall]
      cases hplain hguard _ hmem
    · intro observed' hguard
      obtain ⟨before', v, hall'⟩ := hguarded observed' hguard
      obtain ⟨-, hlast⟩ := List.append_inj' (hall.symm.trans hall') rfl
      obtain ⟨rfl, rfl⟩ : w = v ∧ observed = observed' := by simpa using hlast
      exact ⟨_, by rw [Builder.peek, hstack, List.getLast?_concat],
        blueprint_guard hlive hops h hall hbefore⟩

end Plan

/-! ## The plans of the registry -/

/-- **A load from a slot** is guarded. -/
theorem Objects.getReservedSlot_obtains (s : Site) : (getReservedSlot s).Yields fun p =>
    ∃ op, op.isCall = false ∧ p.Obtains op .boxed none (some s.call.resultTypes) := by
  simp only [getReservedSlot, Decide.yields_bind, Decide.yields_pure]
  intro _ _ _ _ slot _ object _
  exact ⟨.loadFixedSlot slot, rfl, [], [object.ref], [], List.forall_mem_nil _,
    List.forall_mem_nil _, rfl⟩

/-- **A match** is guarded; where only its outcome matters it is no match but a test. -/
theorem RegExps.exec_obtains (s : Site) : (exec s).Yields fun p =>
    (∃ op, op.isCall = false ∧ p.Obtains op .boxed none (some s.call.resultTypes)) ∨
    p.Emits (Op.isUntyped · = false) := by
  rw [exec]
  split_ifs
  · simp only [Decide.yields_bind, Decide.yields_pure]
    intro _ _ _ _ input _
    exact .inl ⟨.regExpExec, rfl, [], [s.receiver.ref, input.ref], [.resume (.added 0)],
      List.forall_mem_nil _, by simp [Step.isResume], rfl⟩
  · exact (test_emits (S := (Op.isUntyped · = false)) s rfl).mono fun p hp => .inr hp

namespace BoundCall

/-- The step that adds a constant. -/
def constantStep (c : Constant) : Step := .add (.constant c) [] c.valueType none

/-- **The constants that a forwarded call is given**: the target, the receiver and the arguments
that are bound. -/
def forwarded (target : FunctionObject) (receiver : Constant) (bound : List Constant) :
    List Constant :=
  .object target.object :: receiver :: bound

/-- **Constants are added one after the other**, and are the next nodes. -/
theorem constants_eq (cs : List Constant) (n : Nat) :
    (constants cs n).1.map (·.ref) = (List.range' n cs.length).map .added ∧
    (constants cs n).2 = (n + cs.length, cs.map constantStep) := by
  induction cs generalizing n with
  | nil => exact ⟨rfl, rfl⟩
  | cons c cs ih =>
    obtain ⟨hrefs, hrest⟩ := ih (n + 1)
    have hvalues : (constants (c :: cs) n).1.map (·.ref) =
        .added n :: (constants cs (n + 1)).1.map (·.ref) := rfl
    have hsteps : (constants (c :: cs) n).2 =
        ((constants cs (n + 1)).2.1, constantStep c :: ((constants cs (n + 1)).2.2 ++ [])) := rfl
    rw [hvalues, hsteps, hrefs, hrest, List.append_nil, List.length_cons, List.range'_succ]
    exact ⟨rfl, by rw [Nat.add_right_comm]; rfl⟩

/-- **The steps of a forwarded call**: the constants, and the call of the target. -/
theorem forward_steps (s : Site) (target : FunctionObject) (receiver : Constant)
    (bound : List Constant) : (forward s target receiver bound).steps =
      (forwarded target receiver bound).map constantStep ++
        [.add (.call target.object.id (UInt32.ofNat (bound.length + s.argc)) s.call.constructing)
            ((List.range (bound.length + 2)).map .added ++ s.args.map (·.ref)) s.returnType
            (some s.call.resultTypes),
          .push (.added (bound.length + 2)), .resume (.added (bound.length + 2))] := by
  obtain ⟨hrefs, hrest⟩ := constants_eq bound 2
  have hlength : (constants bound 2).1.length = bound.length := by
    simpa using congrArg List.length hrefs
  have hargc : ((constants bound 2).1 ++ s.args).length = bound.length + s.argc := by
    rw [List.length_append, hlength]
    rfl
  have hinputs : (List.range (bound.length + 2)).map Ref.added =
      .added 0 :: .added 1 :: (constants bound 2).1.map (·.ref) := by
    rw [hrefs, List.range_eq_range', List.range'_succ, List.range'_succ]
    rfl
  have hsteps : (forward s target receiver bound).steps =
      constantStep (.object target.object) :: constantStep receiver ::
        ((constants bound 2).2.2 ++
          [.add (.call target.object.id (UInt32.ofNat ((constants bound 2).1 ++ s.args).length)
              s.call.constructing)
              (.added 0 :: .added 1 :: ((constants bound 2).1 ++ s.args).map (·.ref)) s.returnType
              (some s.call.resultTypes),
            .push (.added (constants bound 2).2.1), .resume (.added (constants bound 2).2.1)]) :=
    rfl
  rw [hsteps, hargc, hinputs, hrest, List.map_append, Nat.add_comm 2]
  rfl

lemma forward_obtains (s : Site) (target : FunctionObject) (receiver : Constant)
    (bound : List Constant) : ∃ op, op.isCall = true ∧
      (Plan.of (forward s target receiver bound)).Obtains op s.returnType
        (some s.call.resultTypes) none := by
  have hcount : ((forwarded target receiver bound).map constantStep).length = bound.length + 2 :=
    List.length_map _
  refine ⟨.call target.object.id (UInt32.ofNat (bound.length + s.argc)) s.call.constructing, rfl,
    (forwarded target receiver bound).map constantStep,
    (List.range (bound.length + 2)).map .added ++ s.args.map (·.ref),
    [.resume (.added (bound.length + 2))], ?_, by simp [Step.isResume], ?_⟩
  · simp [constantStep, Step.addsConstant]
  · rw [hcount]
    exact forward_steps s target receiver bound

/-- **A call through a bound function** is trusted. -/
theorem specialize_obtains (f : FunctionObject) (s : Site) : (specialize f s).Yields fun p =>
    ∃ op, op.isCall = true ∧ p.Obtains op s.returnType (some s.call.resultTypes) none := by
  simp only [specialize, Decide.yields_bind]
  intro _ _
  split
  · simp only [Decide.yields_ite, Decide.yields_bind, Decide.yields_pure]
    exact ⟨fun _ _ _ _ _ _ _ _ _ _ _ => forward_obtains s _ _ _,
      fun _ _ _ _ _ _ _ _ _ => forward_obtains s _ _ _⟩
  · exact Decide.yields_refuse _
  · exact Decide.yields_refuse _
  · exact Decide.yields_refuse _

end BoundCall

/-- A native without a specializer for getters is specialized as a call. -/
lemma Registry.find?_call {kind : CallKind} {native : Native} {q : Specializer}
    (h : find? kind native = some q) (hgetter : getter? native = none) : kind = .call := by
  cases kind with
  | call => rfl
  | getter => simp [find?, hgetter] at h

namespace Inliner

/-- **What a plan is** that obtains a value of which nothing is known. -/
theorem Origin.obtains {s : Site} {p : Plan} {callee : Callee} (h : Origin s p callee) :
    (∃ op, op.isCall = false ∧ p.Obtains op .boxed none (some s.call.resultTypes)) ∨
    (∃ op, op.isCall = true ∧ p.Obtains op s.returnType (some s.call.resultTypes) none) ∨
    p.Emits (Op.isUntyped · = false) := by
  rcases h.emits_or_exists_native (Op.isUntyped · = false) (fun _ => rfl) (fun _ => rfl) with
    hquiet | ⟨f, native, specializer, op, hfind, hdecide, hemits, untyped⟩
  · exact .inr (.inr hquiet)
  cases op with
  | loadFixedSlot slot =>
    obtain rfl := Native.eq_of_mayEmit_loadFixedSlot hemits
    rw [Registry.find?_call hfind rfl] at hfind
    cases hfind
    exact .inl (Objects.getReservedSlot_obtains s p hdecide)
  | regExpExec =>
    obtain rfl := Native.eq_of_mayEmit_regExpExec hemits
    rw [Registry.find?_call hfind rfl] at hfind
    cases hfind
    exact (RegExps.exec_obtains s p hdecide).imp_right .inr
  | call target argc constructing =>
    obtain rfl := Native.eq_of_mayEmit_call hemits
    rw [Registry.find?_call hfind rfl] at hfind
    cases hfind
    exact .inr (.inl (BoundCall.specialize_obtains f s p hdecide))
  | _ => exact absurd rfl untyped

/-- **A value that can be anything is guarded iff no call gives it**; what a call gives is trusted
to be of the observed types. -/
theorem attempt_guards_iff {i : Inliner} {stubs : StubStore} {b : Builder} {call : Call NodeId}
    {callee : Callee} (h : (i.attempt stubs b call callee).result = .ok .inlined) {id : NodeId}
    {n : Node} (hid : b.graph.size ≤ id.index)
    (hn : (i.attempt stubs b call callee).builder.graph.node? id = some n)
    (untyped : n.op.isUntyped = true) :
    ((i.attempt stubs b call callee).builder.Guards call.resultTypes id ↔ n.op.isCall = false) ∧
    (n.op.isCall = true → (i.attempt stubs b call callee).builder.Trusts call.resultTypes id) := by
  obtain ⟨r, p, hlive, hresolved, horderly, horigin, hemit⟩ := exists_emits h
  generalize (i.attempt stubs b call callee).builder = b' at hn hemit ⊢
  have hlt := hresolved.lt_size
  have htypes : (i.site r).call.resultTypes = call.resultTypes :=
    congrArg Call.resultTypes hresolved.same
  have ⟨σ, hsteps, _⟩ := horderly
  rcases horigin.obtains with ⟨op, hop, hob⟩ | ⟨op, hop, hob⟩ | hquiet
  · obtain ⟨-, -, -, rfl, hty, -⟩ := hob.node hlive hlt hemit hsteps hid hn untyped
    obtain ⟨-, hguard⟩ := hob.left horderly hlive hlt hemit hid hn untyped
    refine ⟨iff_of_true ⟨?_, ?_⟩ hop, fun hcall => by simp [hcall] at hop⟩
    · rw [hn, Option.map_some, hty]
    · exact hguard call.resultTypes (by rw [← htypes])
  · obtain ⟨-, -, -, rfl, hty, htypes'⟩ := hob.node hlive hlt hemit hsteps hid hn untyped
    have hpeek := (hob.left horderly hlive hlt hemit hid hn untyped).1 rfl
    refine ⟨iff_of_false ?_ (by simp [hop]), fun _ => ⟨?_, ?_, hpeek⟩⟩
    · rintro ⟨-, v, hv, hbarrier⟩
      obtain rfl := Option.some.inj (hpeek.symm.trans hv)
      rw [hn] at hbarrier
      have hguard : n.op = .typeBarrier .typeSet :=
        congrArg Blueprint.op (Option.some.inj hbarrier)
      simp [hguard] at untyped
    · rw [hn, Option.map_some, hty, ← htypes]
      rfl
    · rw [hn, Option.map_some, htypes', htypes]
  · exfalso
    rcases Plan.op_of_new hlive hlt hemit hid hn with hop | hop | hop
    · simp [hop] at untyped
    · simp [hop] at untyped
    · simp [hquiet _ hop] at untyped

end Inliner

/-! ## A value that is trusted -/

/-- A bound function is called whose target has given integers so far. -/
def Scenario.boundCall : Scenario where
  callee := .function
    (.ofBound ⟨1⟩ (.function (.ofInterpreted ⟨2⟩ false)) .undefined [])
  resultTypes := some (.ofType .int32)

/-- What the target gives is taken for an integer. -/
theorem attempt_guards_iff_boundCall :
    (Scenario.boundCall.attempt {} Scenario.boundCall.builder).result = .ok .inlined ∧
    ¬(Scenario.boundCall.attempt {} Scenario.boundCall.builder).builder.Guards
      (.ofType .int32) ⟨4⟩ ∧
    (Scenario.boundCall.attempt {} Scenario.boundCall.builder).builder.Trusts
      (.ofType .int32) ⟨4⟩ := by
  have hinlined : (Scenario.boundCall.attempt {} Scenario.boundCall.builder).result =
      .ok .inlined := by
    decide
  obtain ⟨hguards, htrusts⟩ :=
    @Inliner.attempt_guards_iff _ _ _ _ _ hinlined ⟨4⟩ _ (by decide) rfl (by decide)
  refine ⟨hinlined, fun h => ?_, htrusts rfl⟩
  cases hguards.1 h

/-- **Not every value that can be anything is guarded**, even where something was observed of the
result. -/
theorem not_forall_guards : ¬∀ s : Scenario, (s.attempt {} s.builder).result = .ok .inlined →
    s.call.resultTypes.unknown = false → ∀ id n, s.builder.graph.size ≤ id.index →
      (s.attempt {} s.builder).builder.graph.node? id = some n → n.op.isUntyped = true →
      (s.attempt {} s.builder).builder.Guards s.call.resultTypes id := by
  intro hall
  obtain ⟨v, hv, hguard⟩ :=
    (hall Scenario.boundCall (by decide) rfl ⟨4⟩ _ (by decide) rfl rfl).left
  obtain rfl : (⟨4⟩ : NodeId) = v := Option.some.inj hv
  have hop := congrArg (Option.map Blueprint.op) hguard
  cases hop

end CallSite
