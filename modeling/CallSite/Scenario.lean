import CallSite.Routine.Specialization
import CallSite.Specialize.Attempt

/-!
# Scenarios

A scenario describes one call site on its own: the callee, what is known of its operands, what was
observed of its result, and the surroundings in which it is compiled.

* `Scenario` — the description.
* `Scenario.validate` — what a scenario that comes from outside has to satisfy.
* `Scenario.builder`, `Scenario.call` — the graph with the operands of the call, and the call.
* `Scenario.attempt`, `Scenario.specialize` — an attempt to specialize the call.
-/

namespace CallSite

/-- **What a scenario gives of an operand**: its value, or its static type and perhaps the types
observed for it. -/
inductive Given where
  | constant (value : Constant)
  | typed (ty : ValueType) (types : Option TypeSet)
  deriving DecidableEq, Inhabited

/-- The operand stands for a script value. -/
def Given.isValue : Given → Bool
  | .typed .elements _ | .typed .noValue _ => false
  | _ => true

/-- **A call site on its own.** -/
structure Scenario where
  name : Option String := none
  site : SiteId := ⟨0⟩
  callee : Callee
  /-- The receiver, `undefined` when absent. -/
  receiver : Option Given := none
  args : List Given := []
  constructing : Bool := false
  kind : CallKind := .call
  /-- The types observed for the result, anything when absent. -/
  resultTypes : Option TypeSet := none
  resultUse : ResultUse := .escapes
  env : Environment := {}
  config : Config := {}
  frame : Option Frame := none
  deriving DecidableEq, Inhabited

/-- What is wrong with a scenario. -/
inductive ScenarioError where
  | config (e : ConfigError)
  | getterWithArguments
  | descriptorAsGetter
  | tooManyArguments (count : Nat) (limit : UInt64)
  | argumentWithoutValue (index : Nat)
  deriving DecidableEq, Repr, Inhabited

def ScenarioError.message : ScenarioError → String
  | .config e => "ConfigError: " ++ e.message
  | .getterWithArguments => "ScenarioError: getter calls take no arguments"
  | .descriptorAsGetter => "ScenarioError: a type descriptor cannot be a getter"
  | .tooManyArguments count limit =>
    s!"ScenarioError: {count} arguments exceed max_call_args ({limit})"
  | .argumentWithoutValue index => s!"ScenarioError: argument {index} has no value type"

namespace Scenario

/-! ## Validity -/

/-- **What a scenario has to satisfy**; of several faults the first in this order is told. -/
def validate (s : Scenario) : Except ScenarioError Unit :=
  match s.config.validate with
  | .error e => .error (.config e)
  | .ok () =>
    if s.kind = .getter && !s.args.isEmpty then .error .getterWithArguments
    else if s.kind = .getter && s.callee matches .descriptor _ then .error .descriptorAsGetter
    else if s.config.maxCallArgs.toNat < s.args.length then
      .error (.tooManyArguments s.args.length s.config.maxCallArgs)
    else
      match s.args.findIdx? (!·.isValue) with
      | some index => .error (.argumentWithoutValue index)
      | none => .ok ()

/-! ## The call -/

/-- Callee, receiver and arguments, in stack order. -/
def operands (s : Scenario) : List Given :=
  .typed .object none :: s.receiver.getD (.constant .undefined) :: s.args

/-- Adds the node of an operand; parameters are numbered from `index` on. -/
def addOperand : Builder × UInt16 → Given → Builder × UInt16
  | (b, index), .constant c => (b.addConstant c, index)
  | (b, index), .typed ty types => (b.addParameter index ty types, index + 1)

/-- The graph with one node for each operand. -/
def builder (s : Scenario) : Builder := (s.operands.foldl addOperand ({}, 0)).1

/-- The call; its operands are the nodes of the graph in their order. -/
def call (s : Scenario) : Call NodeId where
  site := s.site
  callee := ⟨0⟩
  receiver := ⟨1⟩
  args := (List.range s.args.length).map fun i => ⟨i + 2⟩
  constructing := s.constructing
  kind := s.kind
  resultTypes := s.resultTypes.getD .any
  resultUse := s.resultUse

def inliner (s : Scenario) : Inliner := { config := s.config, env := s.env, frame := s.frame }

/-- **An attempt to specialize the call** in a state of the graph. -/
def attempt (s : Scenario) (stubs : StubStore) (b : Builder) : Attempt :=
  s.inliner.attempt stubs b s.call s.callee

/-- The same at work on a session. -/
def specialize (s : Scenario) : Routine Status := s.inliner.specialize s.call s.callee

end Scenario

end CallSite
