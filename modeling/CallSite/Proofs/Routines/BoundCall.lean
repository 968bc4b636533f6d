import CallSite.Proofs.Routines.Refinement
import CallSite.Routine.BoundCall

/-!
# The routine of bound functions

* `Writing.follows_constants` — the loop that emits the bound values.
* `Routine.boundFunction_refines` — the conditions, and the call of the target.
-/

namespace CallSite

namespace Writing

variable {w : Writing} {Γ : Ledger}

/-- **The loop that adds constants.** -/
lemma follows_constants (cs : List Constant) :
    w.Follows Γ
      (fun vs ids Γ' => Γ.Within Γ' ∧ List.Forall₂ (fun v id => (v, id) ∈ Γ'.names) vs ids)
      (BoundCall.constants cs) (w.emitter.constants cs) := by
  induction cs generalizing Γ with
  | nil => exact follows_pure ⟨Ledger.within_refl Γ, .nil⟩ (Ledger.within_refl Γ)
  | cons c cs ih =>
    refine follows_bind (gives_constant c) ?_
    rintro v id _ rfl
    refine follows_bind ih ?_
    rintro vs ids Γ' ⟨hin, hvs⟩
    refine follows_pure ⟨(Ledger.within_name ..).trans hin, ?_⟩ (Ledger.within_refl Γ')
    exact .cons (hin.names (List.mem_cons_self ..)) hvs

/-- **A call of a known function** is an effectful node whose inputs are the operands of the
call. -/
lemma completes_call (target : FunctionObject) {c : Call NodeId} {xs : List Operand}
    (h : List.Forall₂ (Γ.Mentions w.context) xs c.operands) :
    w.Completes Γ
      (Draft.effectfulResult (.call target.object.id (UInt32.ofNat c.argc) c.constructing) xs
        c.returnType (some c.resultTypes))
      (w.emitter.call target c >>= fun _ => w.emitter.finish) := by
  simp only [Emitter.call, bind_assoc, pure_bind]
  exact completes_effectfulResult _ _ _ h

end Writing

namespace Routine

open Writing

variable {s : Session} {call : Call NodeId} {r : Call Operand}

/-- The constants are emitted, and the call of the target with them. -/
lemma completes_forward (h : s.Attends call r) (i : Inliner) (target : FunctionObject)
    (receiver : Constant) (bound : List Constant) (w : Writing) :
    w.Completes (.ofCall r call) (BoundCall.forward (i.site r) target receiver bound)
      (w.emitter.constant (.object target.object) >>= fun callee =>
        w.emitter.constant receiver >>= fun receiver =>
        w.emitter.constants bound >>= fun ids =>
        w.emitter.call target { call with callee, receiver, args := ids ++ call.args } >>= fun _ =>
        w.emitter.finish) := by
  rw [BoundCall.forward, show (i.site r).args = r.args from rfl, h.returnType_eq i,
    h.resultTypes_eq i, show (i.site r).call.constructing = call.constructing from
      h.resolved.constructing_eq]
  refine (gives_constant _).then ?_
  rintro callee id _ rfl
  refine (gives_constant _).then ?_
  rintro receiver j _ rfl
  refine (follows_constants bound).then ?_
  rintro vs ids Γ' ⟨hin, hvs⟩
  have hargs : List.Forall₂ (Γ'.Mentions w.context) (vs ++ r.args) (ids ++ call.args) :=
    List.rel_append (hvs.imp fun _ _ hv => .inl hv) (h.forall₂_pairs.imp fun _ _ hx =>
      .inl (hin.names (List.mem_cons_of_mem _ (List.mem_cons_of_mem _ hx))))
  let c : Call NodeId := { call with callee := id, receiver := j, args := ids ++ call.args }
  have hc : List.Forall₂ (Γ'.Mentions w.context) (callee :: receiver :: (vs ++ r.args)) c.operands :=
    .cons (.inl (hin.names (List.mem_cons_of_mem _ (List.mem_cons_self ..))))
      (.cons (.inl (hin.names (List.mem_cons_self ..))) hargs)
  have hcall := completes_call target hc
  dsimp only
  rw [hargs.length_eq]
  exact hcall

/-- A condition that is only looked at in some calls. -/
lemma require_of_if (c condition : Bool) (o : Obstacle) (d : Decide Plan) :
    (if c = true then Decide.require condition o >>= fun _ => d else d) =
      Decide.require (!c || condition) o >>= fun _ => d := by
  cases c <;> rfl

/-- **A call through a bound function.** -/
@[simp] lemma boundFunction_refines (h : s.Attends call r) (f : FunctionObject) (i : Inliner) :
    Refines i call s (inlineBoundFunction i call f) (BoundCall.specialize f (i.site r)) := by
  refine refines_classify h fun _ => ?_
  rw [show (i.site r).call.constructing = call.constructing from h.resolved.constructing_eq,
    show (i.site r).argc = call.argc from h.resolved.argc_eq]
  cases f.kind with
  | native n => exact refines_decline _
  | interpreted c => exact refines_decline _
  | bound target receiver bound =>
    cases target with
    | object o => exact refines_decline _
    | function target =>
      dsimp only
      rw [require_of_if]
      refine refines_require fun _ => refines_require fun _ => refines_require fun _ => ?_
      refine refines_require fun _ => refines_require fun _ => refines_commit h fun w => ?_
      exact completes_forward h i target receiver bound w

end Routine

end CallSite
