import CallSite.Proofs.Reachable

/-!
# Runs of a compilation

A compilation adds parameters and constants, follows the stack and the locals of the interpreter,
and attempts to specialize the calls that it comes to, in any order and any number of times.

* `Compilation`, `Action` — a compilation under way, and what it can do next.
* `Compilation.run` — doing one thing after another.
* `Compilation.run_induction` — what every action preserves holds after every run.
* `Compilation.reachable_run` — the builder of a run is in a state that its operations lead to.
-/

namespace CallSite

/-- **A compilation under way**: its builder and its store of helper stubs. -/
structure Compilation where
  builder : Builder := {}
  stubs : StubStore := {}

/-- **What a compilation can do next.** -/
inductive Action where
  | push (id : NodeId)
  | pop
  | defineLocal (id : NodeId)
  | setPc (pc : UInt32)
  | addParameter (index : UInt16) (ty : ValueType) (types : Option TypeSet)
  | addConstant (c : Constant)
  | attempt (i : Inliner) (call : Call NodeId) (callee : Callee)
  /-- Goes on with another store of stubs. -/
  | useStubs (stubs : StubStore)

/-- The compilation after an action. -/
def Action.perform (c : Compilation) : Action → Compilation
  | push id => { c with builder := c.builder.push id }
  | pop => { c with builder := c.builder.pop }
  | defineLocal id => { c with builder := c.builder.defineLocal id }
  | setPc pc => { c with builder := c.builder.setPc pc }
  | addParameter index ty types => { c with builder := c.builder.addParameter index ty types }
  | addConstant value => { c with builder := c.builder.addConstant value }
  | attempt i call callee =>
    { builder := (i.attempt c.stubs c.builder call callee).builder
      stubs := (i.attempt c.stubs c.builder call callee).stubs }
  | useStubs stubs => { c with stubs }

namespace Compilation

/-- **The compilation after several actions.** -/
def run (c : Compilation) (actions : List Action) : Compilation := actions.foldl Action.perform c

variable {c : Compilation}

/-- What every action preserves holds after every run. -/
lemma run_induction {P : Compilation → Prop} (h : P c) (actions : List Action)
    (step : ∀ c, ∀ a ∈ actions, P c → P (Action.perform c a)) : P (c.run actions) := by
  induction actions generalizing c with
  | nil => exact h
  | cons a actions ih =>
    exact ih (step c a (List.mem_cons_self ..) h) fun c b hb => step c b (List.mem_cons_of_mem a hb)

/-- **The builder of a run** is in a state that its operations lead to. -/
theorem reachable_run (h : c.builder.Reachable) (actions : List Action) :
    (c.run actions).builder.Reachable := by
  refine run_induction (P := fun c => c.builder.Reachable) h actions fun c a _ hc => ?_
  cases a with
  | push id => exact hc.push id
  | pop => exact hc.pop
  | defineLocal id => exact hc.defineLocal id
  | setPc pc => exact hc.setPc pc
  | addParameter index ty types => exact hc.addParameter index ty types
  | addConstant value => exact hc.addConstant value
  | attempt i call callee => exact hc.attempt i c.stubs call callee
  | useStubs stubs => exact hc

end Compilation

end CallSite
