import CallSite.Proofs.Attempt
import CallSite.Proofs.Blueprint
import CallSite.Proofs.Operations.Registry

/-!
# Calls that are replaced

An attempt that replaces its call has found the site live and the operands in the graph, has come to
a plan, and has emitted it.  What holds of every specialized call starts from these four facts and
not from the way in which the attempt came to them.

* `Inliner.Emits` — **the call is replaced by the nodes of a plan**.
* `Inliner.exists_emits` — so is every call that is specialized.
-/

namespace CallSite.Inliner

/-- **The call is replaced by the nodes of a plan.** -/
structure Emits (i : Inliner) (b : Builder) (call : Call NodeId) (callee : Callee)
    (r : Call Operand) (p : Plan) (b' : Builder) : Prop where
  live : b.isDead call.site = false
  resolved : Resolved b call r
  orderly : p.Orderly (i.site r)
  origin : Origin (i.site r) p callee
  emit : p.emit b call = .ok b'

/-- **A call that is specialized is replaced by the nodes of a plan.** -/
theorem exists_emits {i : Inliner} {stubs : StubStore} {b : Builder} {call : Call NodeId}
    {callee : Callee} (h : (i.attempt stubs b call callee).result = .ok .inlined) :
    ∃ r p, i.Emits b call callee r p (i.attempt stubs b call callee).builder := by
  have hends := i.attempt_ends stubs b call callee
  generalize i.attempt stubs b call callee = a at h hends ⊢
  cases hends with
  | @inlined r log created p stubs' b' hlive hr hdecide horderly hstub hemit =>
    exact ⟨r, p, hlive, resolved_of_eq_ok hr, horderly, origin_of_decide hdecide, hemit⟩
  | _ => cases h

end CallSite.Inliner
