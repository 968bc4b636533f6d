import CallSite.Proofs.Attempt

/-!
# Raising limits

The settings bound what a specialization may do: how many arguments a call has, how long an array
is, how large a typed object.  A bound that is raised lets more calls through, and nothing else is
decided by it.  So a call that was replaced is replaced again, by the same nodes, when any of the
bounds are raised.

* `Config.Within` — **the limits of one configuration lie within those of another**.
* `Decide.Persists` — a plan that was found is found again under every wider configuration.
* `Registry.find?_persists` — every plan of the registry is found again.
* `Inliner.attempt_eq_of_within` — **raising limits never loses a specialization**.
-/

namespace CallSite

/-! ## Configurations -/

/-- **The limits of `c` lie within those of `c'`**, and the two agree on whether natives are
specialized at all and on the mode of execution. -/
structure Config.Within (c c' : Config) : Prop where
  inlineNatives : c'.inlineNatives = c.inlineNatives
  executionMode : c'.executionMode = c.executionMode
  inlineForkJoinGetSlice : c.inlineForkJoinGetSlice = true → c'.inlineForkJoinGetSlice = true
  maxCallArgs : c.maxCallArgs ≤ c'.maxCallArgs
  maxDenseElements : c.maxDenseElements ≤ c'.maxDenseElements
  eagerAllocationMaxLength : c.eagerAllocationMaxLength ≤ c'.eagerAllocationMaxLength
  inlineTypedObjectMaxSize : c.inlineTypedObjectMaxSize ≤ c'.inlineTypedObjectMaxSize

/-- The site in a compilation with other settings. -/
def Site.withConfig (s : Site) (c : Config) : Site := { s with config := c }

namespace Site

variable (s : Site) (c : Config)

@[simp] lemma config_withConfig : (s.withConfig c).config = c := rfl

@[simp] lemma call_withConfig : (s.withConfig c).call = s.call := rfl

@[simp] lemma argc_withConfig : (s.withConfig c).argc = s.argc := rfl

@[simp] lemma classify_withConfig (sig : Signature) :
    (s.withConfig c).classify sig = s.classify sig := rfl

@[simp] lemma template_withConfig (native : Native) :
    (s.withConfig c).template native = s.template native := rfl

end Site

/-! ## Decisions -/

namespace Decide

/-- **A plan that was found is found again** under every configuration with wider limits. -/
def Persists {α : Type} (decide : Site → Decide α) : Prop :=
  ∀ ⦃s : Site⦄ ⦃c : Config⦄ ⦃a : α⦄, s.config.Within c → decide s = .ok a →
    decide (s.withConfig c) = .ok a

/-- A decision that wider limits leave alone. -/
lemma persists_of_eq {α : Type} {decide : Site → Decide α}
    (h : ∀ (s : Site) (c : Config), s.config.Within c → decide (s.withConfig c) = decide s) :
    Persists decide :=
  fun s c _ hwithin ha => (h s c hwithin).trans ha

/-- A guard lets through whatever a stricter one did. -/
lemma require_mono {p q : Prop} [Decidable p] [Decidable q] (h : p → q) {o : Obstacle} {u : Unit}
    (hp : require p o = .ok u) : require q o = .ok u :=
  require_eq_ok.2 (decide_eq_true (h (of_decide_eq_true (require_eq_ok.1 hp))))

/-- Most decisions look at no setting at all. -/
lemma persists_of_blind {α : Type} {decide : Site → Decide α}
    (h : ∀ (s : Site) (c : Config), decide (s.withConfig c) = decide s) : Persists decide :=
  persists_of_eq fun s c _ => h s c

end Decide

open Decide (Persists persists_of_eq persists_of_blind bind_eq_ok require_mono)

namespace ArrayCreation

/-- A length below both limits for arrays is below higher ones. -/
lemma startOfLength_persists (t : Template) : Persists fun s => startOfLength s t := by
  intro s c a h ha
  simp only [startOfLength, bind_eq_ok] at ha ⊢
  obtain ⟨x, hx, n, hn, _, hsign, _, hdense, _, hlength, _, heager, hstart⟩ := ha
  have hdense' := require_mono (UInt32.lt_of_lt_of_le · h.maxDenseElements) hdense
  have heager' := require_mono (UInt32.le_trans · h.eagerAllocationMaxLength) heager
  exact ⟨x, hx, n, hn, (), hsign, (), hdense', (), hlength, (), heager', hstart⟩

lemma start_persists (t : Template) : Persists fun s => start s t := by
  intro s c a h ha
  dsimp only [start] at ha ⊢
  rw [Site.argc_withConfig]
  split_ifs at ha ⊢
  · exact ha
  · exact startOfLength_persists t h ha
  · exact ha

lemma construct_persists : Persists construct := by
  intro s c p h hp
  rw [construct] at hp ⊢
  simp only [bind_eq_ok, Site.classify_withConfig, Site.template_withConfig] at hp ⊢
  obtain ⟨_, hshape, t, ht, start, hstart, hplan⟩ := hp
  exact ⟨(), hshape, t, ht, start, start_persists t h hstart, hplan⟩

lemma requireParallel_withConfig {s : Site} {c : Config} (h : s.config.Within c) :
    requireParallel (s.withConfig c) = requireParallel s := by
  rw [requireParallel, requireParallel, Site.config_withConfig, h.executionMode]

lemma newDense_persists : Persists newDense := by
  refine persists_of_eq fun s c h => ?_
  rw [newDense, newDense, requireParallel_withConfig h]
  rfl

end ArrayCreation

namespace Surroundings

open ArrayCreation (requireParallel_withConfig)

lemma inParallelSection_persists : Persists inParallelSection := by
  refine persists_of_eq fun s c h => ?_
  rw [inParallelSection, inParallelSection, requireParallel_withConfig h]
  rfl

lemma forkJoinSlice_persists : Persists forkJoinSlice := by
  intro s c p h hp
  rw [forkJoinSlice] at hp ⊢
  rw [requireParallel_withConfig h]
  simp only [bind_eq_ok] at hp ⊢
  obtain ⟨_, hmode, _, hshape, hplan⟩ := hp
  refine ⟨(), hmode, (), hshape, ?_⟩
  split_ifs at hplan with hoff
  · cases hplan
  · have hon : c.inlineForkJoinGetSlice = true := h.inlineForkJoinGetSlice (by simpa using hoff)
    rw [if_neg (by simp [hon])]
    exact hplan

end Surroundings

namespace TypedMemory

lemma construct_persists (d : DescriptorObject) : Persists (construct d) := by
  intro s c p h hp
  rw [construct] at hp ⊢
  simp only [bind_eq_ok] at hp ⊢
  obtain ⟨_, hshape, size, hsize, _, hsmall, hplan⟩ := hp
  have hsmall' := require_mono (UInt32.le_trans · h.inlineTypedObjectMaxSize) hsmall
  exact ⟨(), hshape, size, hsize, (), hsmall', hplan⟩

end TypedMemory

namespace BoundCall

/-- The arguments that are bound and those that are passed are counted together. -/
lemma specialize_persists (f : FunctionObject) : Persists (specialize f) := by
  intro s c p h hp
  have hlimit : s.config.maxCallArgs.toNat ≤ c.maxCallArgs.toNat :=
    UInt64.le_iff_toNat_le.1 h.maxCallArgs
  rw [specialize] at hp ⊢
  simp only [bind_eq_ok, Site.classify_withConfig] at hp ⊢
  obtain ⟨_, hshape, hkind⟩ := hp
  refine ⟨(), hshape, ?_⟩
  split at hkind
  · rw [Site.call_withConfig]
    split_ifs at hkind ⊢ <;> simp only [bind_eq_ok] at hkind ⊢
    · obtain ⟨_, htarget, _, hmove, _, hreceiver, _, hbound, _, hcount, hplan⟩ := hkind
      exact ⟨(), htarget, (), hmove, (), hreceiver, (), hbound, (),
        require_mono (Nat.le_trans · hlimit) hcount, hplan⟩
    · obtain ⟨_, hmove, _, hreceiver, _, hbound, _, hcount, hplan⟩ := hkind
      exact ⟨(), hmove, (), hreceiver, (), hbound, (),
        require_mono (Nat.le_trans · hlimit) hcount, hplan⟩
  · cases hkind
  · cases hkind
  · cases hkind

end BoundCall

/-! ## The registry -/

/-- Every plan of the specializer is found again. -/
def Specializer.Persists (p : Specializer) : Prop := ∀ f, Decide.Persists (p.decide f)

namespace Registry

lemma forall_mem_some_persists {p : Specializer} :
    (∀ q ∈ some p, q.Persists) ↔ ∀ f, Decide.Persists (p.decide f) := by
  simp [Specializer.Persists]

lemma call?_persists (native : Native) : ∀ p ∈ call? native, p.Persists := by
  fun_cases call? native <;> first
    | exact forall_mem_some_persists.2 fun _ => persists_of_blind fun _ _ => rfl
    | exact forall_mem_some_persists.2 fun _ => ArrayCreation.construct_persists
    | exact forall_mem_some_persists.2 fun _ => ArrayCreation.newDense_persists
    | exact forall_mem_some_persists.2 fun _ => Surroundings.inParallelSection_persists
    | exact forall_mem_some_persists.2 fun _ => Surroundings.forkJoinSlice_persists
    | exact forall_mem_some_persists.2 fun f => BoundCall.specialize_persists f
    | simp

lemma getter?_persists (native : Native) : ∀ p ∈ getter? native, p.Persists := by
  fun_cases getter? native
  · exact forall_mem_some_persists.2 fun _ => persists_of_blind fun _ _ => rfl
  · exact forall_mem_some_persists.2 fun _ => persists_of_blind fun _ _ => rfl
  · simp

/-- **Every plan of the registry is found again.** -/
theorem find?_persists {kind : CallKind} {native : Native} {p : Specializer}
    (h : find? kind native = some p) : p.Persists := by
  cases kind with
  | call => exact call?_persists native p h
  | getter => exact getter?_persists native p h

end Registry

/-! ## Attempts -/

namespace Inliner

variable {s : Site} {i : Inliner} {c : Config} {log : List Event} {p : Plan}

lemma decideFunction_persists (h : s.config.Within c) {f : FunctionObject}
    (hp : decideFunction s f = (log, .ok p)) :
    decideFunction (s.withConfig c) f = (log, .ok p) := by
  rw [decideFunction] at hp ⊢
  cases hnative : f.native? with
  | none =>
    rw [hnative] at hp
    cases hp
  | some native =>
    rw [hnative] at hp
    dsimp only [Site.call_withConfig] at hp ⊢
    cases hfound : Registry.find? s.call.kind native with
    | none =>
      rw [hfound] at hp
      cases hp
    | some specializer =>
      rw [hfound] at hp
      obtain ⟨rfl, hdecide⟩ := Prod.mk.inj hp
      exact congrArg (Prod.mk _) (Registry.find?_persists hfound f h hdecide)

/-- **The decision about a call** comes to the same plan, with the same events. -/
theorem decide_persists (h : i.config.Within c) {call : Call Operand} {callee : Callee}
    (hp : i.decide call callee = (log, .ok p)) :
    ({ i with config := c } : Inliner).decide call callee = (log, .ok p) := by
  rw [Inliner.decide.eq_def] at hp ⊢
  dsimp only at hp ⊢
  rw [h.inlineNatives]
  split_ifs at hp with hoff hcount
  · cases hp
  · cases hp
  · have hlimit := UInt64.le_iff_toNat_le.1 h.maxCallArgs
    rw [if_neg hoff, if_neg (by omega)]
    cases callee with
    | function f => exact decideFunction_persists h hp
    | descriptor d =>
      obtain ⟨rfl, hdecide⟩ := Prod.mk.inj hp
      exact congrArg (Prod.mk _) (TypedMemory.construct_persists d h hdecide)

/-- **Raising limits never loses a specialization.**  A call that is replaced is replaced in just
the same way by every compilation with wider limits: the graph, the stub store and the events are
the same. -/
theorem attempt_eq_of_within {stubs : StubStore} {b : Builder} {call : Call NodeId}
    {callee : Callee} (hwithin : i.config.Within c)
    (h : (i.attempt stubs b call callee).result = .ok .inlined) :
    ({ i with config := c } : Inliner).attempt stubs b call callee =
      i.attempt stubs b call callee := by
  have hends := i.attempt_ends stubs b call callee
  generalize i.attempt stubs b call callee = a at h hends ⊢
  cases hends with
  | dead => cases h
  | unknownOperand => cases h
  | declined => cases h
  | stubUnavailable => cases h
  | @inlined r log created p stubs' b' hlive hr hdecide horderly hstub hemit =>
    have hdecide' := decide_persists hwithin hdecide
    have hstub' : ({ i with config := c } : Inliner).ensureStub stubs p.stub =
        .ok (stubs', created) := hstub
    obtain ⟨b'', hemit', hattempt⟩ := exists_attempt_eq hlive hr hdecide' hstub'
    rw [hemit] at hemit'
    obtain rfl := Except.ok.inj hemit'
    exact hattempt

end Inliner

/-- An array is constructed whose length is the greatest that its configuration allows. -/
def Scenario.longestArray : Scenario where
  callee := .function (.ofNative ⟨1⟩ .arrayConstructor)
  args := [.constant (.int32 7)]
  config := { maxCallArgs := 1, maxDenseElements := 8, eagerAllocationMaxLength := 7 }
  env :=
    { templates :=
        [{ site := ⟨0⟩
           native := .arrayConstructor
           template :=
             { object := { id := ⟨2⟩, objectClass := .array }
               typeObject := { id := ⟨3⟩, objectClass := .array }
               length := 7 } }] }

/-- It is constructed in the same way under the limits that hold by default. -/
theorem attempt_eq_of_within_longestArray :
    (Scenario.longestArray.attempt {} Scenario.longestArray.builder).result = .ok .inlined ∧
    ({ Scenario.longestArray with config := {} } : Scenario).attempt {}
        Scenario.longestArray.builder =
      Scenario.longestArray.attempt {} Scenario.longestArray.builder :=
  have hinlined : (Scenario.longestArray.attempt {} Scenario.longestArray.builder).result =
      .ok .inlined := by
    decide
  ⟨hinlined, @Inliner.attempt_eq_of_within Scenario.longestArray.inliner {} _ _ _ _
    ⟨rfl, rfl, fun _ => rfl, by decide, by decide, by decide, by decide⟩ hinlined⟩

end CallSite
