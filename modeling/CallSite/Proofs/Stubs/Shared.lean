import CallSite.Proofs.Elsewhere
import CallSite.Proofs.Resumption
import CallSite.Proofs.Stubs.Demand

/-!
# Stubs that compilations share

Compilations share one store of stubs.  Each brings a builder and an environment of its own, in
which helper code can be generated or cannot, and what one of them puts into the store the next one
finds there.  Whoever first needs a stub and can have it generated fills its slot, and from then on
the slot stays as it is: it is no longer asked whether code can be generated.

* `Trial`, `StubStore.after` — attempts of any compilations, one after the other on one store.
* `Trial.result_eq_stubUnavailable_iff` — **when a stub is unavailable**.
* `Trial.Supplies`, `Trial.Fills` — an attempt that fills a slot if it is empty, and what it does.
* `StubStore.Fate`, `StubStore.fate` — **a slot is filled once at most**, by the first such attempt.
* `StubStore.after_fillsOnce` — what becomes of the stubs in a run, and of the attempt after it.
-/

namespace CallSite

/-- **An attempt at a call of some builder**, for which the stubs are still to be given. -/
structure Trial where
  config : Config := {}
  env : Environment := {}
  frame : Option Frame := none
  builder : Builder
  call : Call NodeId
  callee : Callee

namespace Trial

def inliner (t : Trial) : Inliner := { config := t.config, env := t.env, frame := t.frame }

/-- The attempt, with the stubs that it finds. -/
def attempt (t : Trial) (s : StubStore) : Attempt :=
  t.inliner.attempt s t.builder t.call t.callee

/-- The call passes every check but that for the stub. -/
def AsksFor (t : Trial) (k : StubKind) : Prop := t.inliner.AsksFor t.builder t.call t.callee k

/-- **The attempt fills the slot if it is empty**: its call asks for the stub, and code can be
generated. -/
structure Supplies (t : Trial) (k : StubKind) : Prop where
  asks : t.AsksFor k
  works : t.env.failStubCreation = false

/-- **The attempt fills the slot** with a stub of its kind, and no other slot.  Its call is replaced
by a node that runs the stub; a match was asked for whose result escapes, if it is the stub of
matches. -/
structure Fills (t : Trial) (s : StubStore) (k : StubKind) : Prop where
  supplies : t.Supplies k
  creates : s.Creates (t.attempt s).stubs t.env k (.generate k)
  inlined : (t.attempt s).result = .ok .inlined
  emits : ∃ n ∈ (t.attempt s).builder.graph.since t.builder.graph.size, n.op = k.op
  exec : k = .regExpExec → t.callee.native? = some .regExpExec ∧ t.call.resultEscapes = true

end Trial

/-- The store after some attempts. -/
def StubStore.after (s : StubStore) (ts : List Trial) : StubStore :=
  ts.foldl (fun s t => (t.attempt s).stubs) s

/-! ## One attempt -/

/-- The engine of some tables generates a stub unless they say that it fails. -/
lemma Environment.createStub_eq_some {env : Environment} {k : StubKind} {stub : Stub} :
    env.engine.createStub k = some stub ↔ env.failStubCreation = false ∧ stub = .generate k := by
  cases h : env.failStubCreation <;> simp [engine, h, eq_comm]

lemma StubStore.provides_eq_false_iff {s : StubStore} {env : Environment} {k : StubKind} :
    s.provides env k = false ↔ s.get? k = none ∧ env.failStubCreation = true := by
  cases h : env.failStubCreation <;> simp [provides, Environment.engine, h]

/-- **What making a stub does** to the store. -/
theorem Inliner.stubs_of_ensureStub {i : Inliner} {s s' : StubStore} {k : StubKind}
    {created : List Event} (h : i.ensureStub s (some k) = .ok (s', created)) :
    s' = s ∨ ∃ stub, s.get? k = none ∧ i.env.createStub k = some stub ∧ s' = s.set k stub := by
  rw [ensureStub, StubStore.ensure] at h
  cases hslot : s.get? k with
  | some stub =>
    rw [hslot] at h
    cases h
    exact .inl rfl
  | none =>
    rw [hslot] at h
    cases hcreate : i.env.createStub k with
    | none =>
      rw [hcreate] at h
      cases h
    | some stub =>
      rw [hcreate] at h
      cases h
      exact .inr ⟨stub, rfl, rfl, rfl⟩

namespace Trial

variable {t : Trial} {s : StubStore} {k : StubKind}

/-- **When a stub is unavailable**: its slot is empty, no code can be generated, and the call passes
every other check. -/
theorem result_eq_stubUnavailable_iff :
    (t.attempt s).result = .error (.stubUnavailable k) ↔
      s.get? k = none ∧ t.env.failStubCreation = true ∧ t.AsksFor k := by
  rw [← and_assoc, ← StubStore.provides_eq_false_iff]
  constructor
  · intro h
    have hends := t.inliner.attempt_ends s t.builder t.call t.callee
    rw [attempt] at h
    generalize t.inliner.attempt s t.builder t.call t.callee = a at h hends
    cases hends with
    | stubUnavailable hlive hr hdecide hstub =>
      cases h
      obtain ⟨hk, hprovides⟩ := Inliner.ensureStub_eq_error_iff.1 hstub
      exact ⟨hprovides,
        Inliner.asksFor_of_decide hlive (Inliner.resolved_of_eq_ok hr) hdecide hk⟩
    | _ => cases h
  · rintro ⟨hprovides, hasks⟩
    obtain ⟨hlive, r, log, p, hr, hdecide, hneeds⟩ := hasks.exists_plan
    have hstub : t.inliner.ensureStub s p.stub = .error k :=
      Inliner.ensureStub_eq_error_iff.2 ⟨hneeds.stub, hprovides⟩
    rw [attempt, Inliner.attempt_eq_of_unavailable hlive hr hdecide hstub]

/-- **An attempt fills no other slots**, and none that is full. -/
theorem get?_attempt_of_not (h : ¬(s.get? k = none ∧ t.Supplies k)) :
    (t.attempt s).stubs.get? k = s.get? k := by
  have hends := t.inliner.attempt_ends s t.builder t.call t.callee
  rw [attempt]
  generalize t.inliner.attempt s t.builder t.call t.callee = a at hends ⊢
  cases hends with
  | @inlined r log created p stubs b' hlive hr hdecide horderly hstub hemit =>
    cases hp : p.stub with
    | none =>
      rw [hp] at hstub
      cases hstub
      rfl
    | some l =>
      rw [hp] at hstub
      obtain rfl | ⟨stub, hempty, hcreate, rfl⟩ := Inliner.stubs_of_ensureStub hstub
      · rfl
      refine StubStore.get?_set_of_ne s _ fun hkl => ?_
      subst hkl
      exact h ⟨hempty, Inliner.asksFor_of_decide hlive (Inliner.resolved_of_eq_ok hr) hdecide hp,
        (Environment.createStub_eq_some.1 hcreate).1⟩
  | _ => rfl

/-- **An attempt fills a slot that it finds empty**, if it can. -/
theorem Supplies.fills (h : t.Supplies k) (hempty : s.get? k = none) : t.Fills s k := by
  obtain ⟨hlive, r, log, p, hr, hdecide, hneeds⟩ := h.asks.exists_plan
  have hcreate : t.inliner.env.createStub k = some (.generate k) :=
    Environment.createStub_eq_some.2 ⟨h.works, rfl⟩
  have hstub : t.inliner.ensureStub s p.stub =
      .ok (s.set k (.generate k), [.stubCreated ⟨k, (Stub.generate k).id⟩]) := by
    rw [hneeds.stub, Inliner.ensureStub, StubStore.ensure, hempty, hcreate]
    rfl
  obtain ⟨b', hemit, hattempt⟩ := Inliner.exists_attempt_eq hlive hr hdecide hstub
  have hcreates : s.Creates (s.set k (.generate k)) t.env k (.generate k) := ⟨hempty, rfl, hcreate⟩
  refine ⟨h, ?_, ?_, ?_, ?_⟩
  · rw [attempt, hattempt]
    exact hcreates
  · rw [attempt, hattempt]
  · obtain ⟨x, hx, hop⟩ := Option.map_eq_some_iff.1 hneeds.runs
    rw [List.head?_eq_getElem?] at hx
    obtain ⟨n, hn, hblueprint⟩ :=
      Plan.node_of_sketch hlive (Inliner.resolved_of_eq_ok hr).lt_size hemit hx
    rw [attempt, hattempt]
    refine ⟨n, Graph.mem_since_iff.2 ⟨_, ?_, hn⟩, ?_⟩
    · rw [Plan.size_opened]
      exact Nat.le_add_right_of_le (Nat.le_add_right ..)
    · exact (congrArg Blueprint.op hblueprint).trans hop
  · rintro rfl
    obtain ⟨native, q, hdispatches, hk⟩ := h.asks.dispatches
    obtain rfl | rfl := Native.eq_of_stub? hk
    · refine ⟨hdispatches.identity, ?_⟩
      by_contra hpopped
      rw [Native.stub?, if_neg hpopped] at hk
      cases hk
    · cases hk

end Trial

/-! ## A run of attempts -/

namespace StubStore

variable {s : StubStore} {t : Trial} {ts us : List Trial} {k : StubKind} {stub : Stub}

@[simp] lemma after_nil (s : StubStore) : s.after [] = s := rfl

@[simp] lemma after_cons (s : StubStore) (t : Trial) (ts : List Trial) :
    s.after (t :: ts) = (t.attempt s).stubs.after ts := rfl

/-- **A slot that is full stays as it is.** -/
theorem get?_after_of_some (h : s.get? k = some stub) (ts : List Trial) :
    (s.after ts).get? k = some stub := by
  induction ts generalizing s with
  | nil => exact h
  | cons t ts ih =>
    refine ih ((Trial.get?_attempt_of_not fun hempty => ?_).trans h)
    exact nomatch h.symm.trans hempty.1

/-- **What becomes of a slot** in a run of attempts: it stays as it is all the time, since it is
full or no attempt supplies the stub; or it is empty up to the first attempt that does, which fills
it, and then holds that stub to the end. -/
inductive Fate (s : StubStore) (ts : List Trial) (k : StubKind) : Prop where
  | kept (stays : ∀ us, us <+: ts → (s.after us).get? k = s.get? k)
      (unneeded : s.get? k ≠ none ∨ ∀ t ∈ ts, ¬t.Supplies k)
  | filled (xs : List Trial) (t : Trial) (ys : List Trial) (split : ts = xs ++ t :: ys)
      (empty : ∀ us, us <+: xs → (s.after us).get? k = none)
      (first : ∀ x ∈ xs, ¬x.Supplies k)
      (fills : t.Fills (s.after xs) k)
      (stays : ∀ us, us <+: ys → (s.after (xs ++ t :: us)).get? k = some (.generate k))

/-- **Each slot is filled once at most**, by the first attempt that supplies its stub. -/
theorem fate (s : StubStore) (ts : List Trial) (k : StubKind) : s.Fate ts k := by
  induction ts generalizing s with
  | nil =>
    refine .kept (fun us hus => ?_) (.inr (List.forall_mem_nil _))
    rw [List.prefix_nil.1 hus, after_nil]
  | cons t ts ih =>
    by_cases hfills : s.get? k = none ∧ t.Supplies k
    · have hfilled := hfills.2.fills hfills.1
      have hslot : (t.attempt s).stubs.get? k = some (.generate k) := by
        rw [hfilled.creates.filled, get?_set_self]
      refine .filled [] t ts rfl (fun us hus => ?_) (List.forall_mem_nil _) hfilled
        fun us _ => get?_after_of_some hslot us
      rw [List.prefix_nil.1 hus]
      exact hfills.1
    have hstep := Trial.get?_attempt_of_not hfills
    cases ih (t.attempt s).stubs with
    | kept stays unneeded =>
      rw [hstep] at stays unneeded
      refine .kept (fun us hus => ?_) ?_
      · obtain rfl | ⟨vs, rfl, hvs⟩ := List.prefix_cons_iff.1 hus
        · rfl
        · exact stays vs hvs
      · by_cases hempty : s.get? k = none
        · refine .inr (List.forall_mem_cons.2 ⟨fun h => hfills ⟨hempty, h⟩, ?_⟩)
          exact unneeded.resolve_left (not_not_intro hempty)
        · exact .inl hempty
    | filled xs u ys split empty first fills stays =>
      have hempty : s.get? k = none := hstep.symm.trans (empty [] List.nil_prefix)
      refine .filled (t :: xs) u ys (congrArg _ split) (fun us hus => ?_)
        (List.forall_mem_cons.2 ⟨fun h => hfills ⟨hempty, h⟩, first⟩) fills stays
      obtain rfl | ⟨vs, rfl, hvs⟩ := List.prefix_cons_iff.1 hus
      · exact hempty
      · exact empty vs hvs

/-- **The stubs that compilations share.**  Whatever is attempted, a slot is filled once at most, by
the first attempt whose call asks for the stub in an environment that can generate code.  The next
attempt finds the stub unavailable iff its slot is still empty, no code can be generated, and its
call passes every other check. -/
theorem after_fillsOnce (s : StubStore) (ts : List Trial) :
    (∀ k, s.Fate ts k) ∧
    ∀ (t : Trial) (k : StubKind), (t.attempt (s.after ts)).result = .error (.stubUnavailable k) ↔
      (s.after ts).get? k = none ∧ t.env.failStubCreation = true ∧ t.AsksFor k :=
  ⟨s.fate ts, fun _ _ => Trial.result_eq_stubUnavailable_iff⟩

end StubStore

/-- A regular expression is run on a string, where code can or cannot be generated. -/
def Trial.exec (fails : Bool) : Trial where
  env := { failStubCreation := fails }
  builder := Scenario.exec.builder
  call := Scenario.exec.call
  callee := Scenario.exec.callee

/-- Where code cannot be generated the match fails, until it has been run once where it can. -/
theorem StubStore.after_fillsOnce_exec :
    ((Trial.exec true).attempt {}).result = .error (.stubUnavailable .regExpExec) ∧
    (Trial.exec true).AsksFor .regExpExec ∧
    ({} : StubStore).Fate [.exec true, .exec false, .exec true] .regExpExec ∧
    (({} : StubStore).after [.exec true]).exec = none ∧
    (({} : StubStore).after [.exec true, .exec false]).exec = some ⟨.regExpExec, 1⟩ ∧
    ((Trial.exec true).attempt (({} : StubStore).after [.exec true, .exec false])).result =
      .ok .inlined := by
  have hfails : ((Trial.exec true).attempt {}).result = .error (.stubUnavailable .regExpExec) := by
    decide +kernel
  exact ⟨hfails, (((after_fillsOnce {} []).2 _ _).1 hfails).2.2, (after_fillsOnce {} _).1 _,
    by decide +kernel, by decide +kernel, by decide +kernel⟩

end CallSite
