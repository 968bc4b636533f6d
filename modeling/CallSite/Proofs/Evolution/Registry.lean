import CallSite.Proofs.Evolution.Stores
import CallSite.Proofs.Orderly.Registry

/-!
# Every decision lasts

Most specializations look at cores alone, the others record what they ask for.  So every decision
of the registry lasts, and with it the decision about a call, whoever the callee is.

* `Registry.find?_lasts` — **every decision of the registry lasts**.
* `Inliner.decide_lasts` — the decision about a call comes out the same, with the same events.
-/

namespace CallSite

open Decide (lasts_of_core)

/-- Every decision of the specializer lasts. -/
def Specializer.Lasts (p : Specializer) : Prop := ∀ f, Decide.Lasts (p.decide f)

namespace Registry

lemma forall_mem_some_lasts {p : Specializer} :
    (∀ q ∈ some p, q.Lasts) ↔ ∀ f, Decide.Lasts (p.decide f) := by
  simp [Specializer.Lasts]

open Specializer in
lemma call?_lasts (native : Native) : ∀ p ∈ call? native, p.Lasts := by
  fun_cases call? native <;>
    simp only [forall_mem_some_lasts, decide_plain, decide_mathFunction, decide_rounding,
      decide_minMax, decide_remove, decide_atomicUpdate, decide_hasClass, decide_boundFunction,
      implies_true, lasts_of_core (BoundCall.specialize_core _),
      lasts_of_core (Arithmetic.mathFunction_core _), lasts_of_core Arithmetic.abs_core,
      lasts_of_core (Arithmetic.rounding_core _), lasts_of_core Arithmetic.clz32_core,
      lasts_of_core Arithmetic.sqrt_core, lasts_of_core Arithmetic.atan2_core,
      lasts_of_core Arithmetic.hypot_core, lasts_of_core Arithmetic.random_core,
      lasts_of_core Arithmetic.imul_core, lasts_of_core Arithmetic.fround_core,
      lasts_of_core Arithmetic.power_core, lasts_of_core (Arithmetic.minMax_core _),
      ArrayCreation.construct_lasts, ArrayCreation.concat_lasts,
      lasts_of_core ArrayCreation.newDense_core, ArrayUpdate.push_lasts, ArrayUpdate.remove_lasts,
      ArrayUpdate.splice_lasts, ArrayUpdate.join_lasts, ElementStore.putElements_lasts,
      lasts_of_core (Objects.hasClass_core _), lasts_of_core Objects.isTypeDescr_core,
      lasts_of_core Objects.isCallable_core, lasts_of_core Objects.haveSameClass_core,
      lasts_of_core Objects.toObject_core, lasts_of_core Objects.isObject_core,
      lasts_of_core Objects.toInteger_core, lasts_of_core Objects.setReservedSlot_core,
      lasts_of_core Objects.getReservedSlot_core, lasts_of_core RegExps.exec_core,
      lasts_of_core RegExps.test_core, lasts_of_core Strings.charCodeAt_core,
      lasts_of_core Strings.charAt_core, lasts_of_core Strings.fromCharCode_core,
      lasts_of_core Strings.toString_core, lasts_of_core Strings.replace_core,
      lasts_of_core Strings.construct_core, Strings.split_lasts,
      lasts_of_core Surroundings.inParallelSection_core,
      lasts_of_core Surroundings.forkJoinSlice_core, lasts_of_core Surroundings.isConstructing_core,
      lasts_of_core Surroundings.bailout_core, lasts_of_core Surroundings.assertFloat32_core,
      lasts_of_core TypedMemory.setOffset_core, lasts_of_core TypedMemory.compareExchange_core,
      lasts_of_core TypedMemory.load_core, lasts_of_core TypedMemory.store_core,
      lasts_of_core (TypedMemory.update_core _), lasts_of_core TypedMemory.fence_core,
      Option.not_mem_none, IsEmpty.forall_iff]

lemma getter?_lasts (native : Native) : ∀ p ∈ getter? native, p.Lasts := by
  fun_cases getter? native
  · exact forall_mem_some_lasts.2 fun _ => lasts_of_core (TypedMemory.length_core _ _)
  · exact forall_mem_some_lasts.2 fun _ => lasts_of_core (TypedMemory.length_core _ _)
  · intro p hp
    cases hp

/-- **Every decision of the registry lasts.** -/
theorem find?_lasts {kind : CallKind} {native : Native} {p : Specializer}
    (h : find? kind native = some p) : p.Lasts := by
  cases kind with
  | call => exact call?_lasts native p h
  | getter => exact getter?_lasts native p h

end Registry

namespace Inliner

variable {facts : List Dependency} {log : List Event} {p : Plan}

lemma decideFunction_lasts {s s' : Site} (hnative : s.NativesWithoutLayout)
    (h : s.Grows facts s') {f : FunctionObject} (hp : decideFunction s f = (log, .ok p))
    (hfacts : p.facts ⊆ facts) :
    ∃ p', decideFunction s' f = (log, .ok p') ∧ p'.core = p.core := by
  rw [decideFunction] at hp ⊢
  rw [h.kind_eq]
  cases hnat : f.native? with
  | none =>
    rw [hnat] at hp
    cases hp
  | some native =>
    rw [hnat] at hp
    dsimp only at hp ⊢
    cases hfound : Registry.find? s.call.kind native with
    | none =>
      rw [hfound] at hp
      cases hp
    | some specializer =>
      rw [hfound] at hp
      obtain ⟨rfl, hdecide⟩ := Prod.mk.inj hp
      obtain ⟨p', hp', hcore⟩ := Registry.find?_lasts hfound f hnative h hdecide hfacts
      exact ⟨p', congrArg (Prod.mk _) hp', hcore⟩

/-- **The decision about a call** comes out the same, with the same events. -/
theorem decide_lasts {i i' : Inliner} {call call' : Call Operand} {callee : Callee}
    (hnative : (i.site call).NativesWithoutLayout)
    (h : (i.site call).Grows facts (i'.site call')) (hp : i.decide call callee = (log, .ok p))
    (hfacts : p.facts ⊆ facts) :
    ∃ p', i'.decide call' callee = (log, .ok p') ∧ p'.core = p.core := by
  have hconfig : i'.config = i.config := h.config_eq
  have hargc : call'.argc = call.argc := h.argc_eq
  rw [Inliner.decide.eq_def] at hp ⊢
  dsimp only at hp ⊢
  rw [hconfig, hargc]
  split_ifs at hp ⊢
  · cases hp
  · cases hp
  · cases callee with
    | function f => exact decideFunction_lasts hnative h hp hfacts
    | descriptor d =>
      obtain ⟨rfl, hdecide⟩ := Prod.mk.inj hp
      obtain ⟨p', hp', hcore⟩ :=
        lasts_of_core (TypedMemory.construct_core d) hnative h hdecide hfacts
      exact ⟨p', congrArg (Prod.mk _) hp', hcore⟩

end Inliner

end CallSite
