import CallSite.Specialize.Plan
import CallSite.Specialize.Refusal

/-!
# The shape of a call

Most reasons to leave a call generic concern its outer shape: how it is called, with how many
arguments, of which static types, and with which observed result.  A `Signature` states the shape
that a specialization needs, and `Signature.check` finds the first point in which a call differs.

* `Signature` — the shape.
* `Site` — everything that a specialization may look at.
* `Decide` — decisions that may decline the call.
* `Inliner` — settings, engine and frame of a compilation.
-/

namespace CallSite

/-! ## Signatures -/

/-- Whether a call has to be a construct. -/
inductive ConstructRule where
  | never
  | required
  | either
  deriving DecidableEq, Repr, Inhabited

/-- The types that an operand may have. -/
inductive OperandClass where
  | any
  | number
  | int32
  | intOrDouble
  | string
  /-- A string, or a boxed value, whose type is known only at run time. -/
  | stringOrBoxed
  | object
  | boolean
  /-- Known never to be an object. -/
  | notObject
  deriving DecidableEq, Repr, Inhabited

def OperandClass.accepts (c : OperandClass) (f : Facts) : Bool :=
  match c with
  | .any => true
  | .number => f.ty.isNumber
  | .int32 => f.ty = .int32
  | .intOrDouble => f.ty.isIntOrDouble
  | .string => f.ty = .string
  | .stringOrBoxed => f.ty = .string || f.ty = .boxed
  | .object => f.ty = .object
  | .boolean => f.ty = .boolean
  | .notObject => !f.mightBe .object

/-- The types that the observed result may imply. -/
inductive ResultClass where
  | any
  | exactly (ty : ValueType)
  | number
  | intOrDouble
  /-- Anything but undefined and null. -/
  | notNullish
  deriving DecidableEq, Repr, Inhabited

def ResultClass.accepts (c : ResultClass) (ty : ValueType) : Bool :=
  match c with
  | .any => true
  | .exactly expected => ty = expected
  | .number => ty.isNumber
  | .intOrDouble => ty.isIntOrDouble
  | .notNullish => ty ≠ .undefined && ty ≠ .null

/-- **The shape that a call must have.**  `args` constrains the leading arguments. -/
structure Signature where
  arity : Arity
  constructing : ConstructRule := .never
  receiver : OperandClass := .any
  args : List OperandClass := []
  result : ResultClass := .any
  deriving DecidableEq, Repr, Inhabited

namespace Signature

/-- The first argument that is not of its class, counting from `index`. -/
def checkArgs (index : Nat) : List OperandClass → List Facts → Except Refusal Unit
  | c :: cs, f :: fs =>
    if c.accepts f then checkArgs (index + 1) cs fs
    else .error (.argumentType index f.ty)
  | _, _ => .ok ()

/-- Whether the call is, or is not, a construct as required. -/
def checkConstructing (rule : ConstructRule) (constructing : Bool) : Except Refusal Unit :=
  match rule, constructing with
  | .never, true => .error (.constructing false)
  | .required, false => .error (.constructing true)
  | _, _ => .ok ()

/-- **The first point in which a call differs from the signature**: construct or not, argument
count, result, receiver, then the arguments in order. -/
def check (sig : Signature) (call : Call Facts) : Except Refusal Unit := do
  checkConstructing sig.constructing call.constructing
  if !sig.arity.accepts call.argc then throw (.arity sig.arity call.argc)
  if !sig.result.accepts call.returnType then throw (.returnType call.returnType)
  if !sig.receiver.accepts call.receiver then throw (.receiverType call.receiver.ty)
  checkArgs 0 sig.args call.args

end Signature

/-! ## Decisions -/

/-- Why a decision ends without a plan. -/
inductive Stop where
  /-- The call stays generic. -/
  | declined (reason : Refusal)
  /-- An argument was asked for that the call does not have. -/
  | missingArgument (index : Nat)
  deriving DecidableEq, Repr, Inhabited

/-- **A decision about a call**, which may decline it. -/
abbrev Decide := Except Stop

namespace Decide

/-- Leaves the call generic. -/
def decline {α : Type} (reason : Refusal) : Decide α := .error (.declined reason)

/-- Leaves the call generic because of an obstacle. -/
def refuse {α : Type} (o : Obstacle) : Decide α := decline (.obstacle o)

/-- Leaves the call generic unless a condition holds. -/
def require (condition : Bool) (o : Obstacle) : Decide Unit :=
  if condition then .ok () else refuse o

/-- Takes a value that has to be there. -/
def need {α : Type} (value : Option α) (o : Obstacle) : Decide α :=
  match value with
  | some a => .ok a
  | none => refuse o

end Decide

/-- **Everything that a specialization may look at**: the call with the facts about its operands,
the settings, and the engine. -/
structure Site where
  call : Call Operand
  config : Config := {}
  env : Engine := ({} : Environment)
  frame : Option Frame := none

namespace Site

def receiver (s : Site) : Operand := s.call.receiver

def args (s : Site) : List Operand := s.call.args

def argc (s : Site) : Nat := s.call.argc

def returnType (s : Site) : ValueType := s.call.returnType

/-- Declines a call that has not the shape of the signature. -/
def classify (s : Site) (sig : Signature) : Decide Unit :=
  match sig.check (s.call.map Operand.toFacts) with
  | .ok () => .ok ()
  | .error reason => Decide.decline reason

/-- The argument at a position. -/
def arg (s : Site) (index : Nat) : Decide Operand :=
  match s.args[index]? with
  | some a => .ok a
  | none => .error (.missingArgument index)

/-- The template sampled at the site for calls of a native. -/
def template (s : Site) (native : Native) : Decide Template :=
  Decide.need (s.env.template? s.call.site native) .noTemplate

end Site

/-! ## The front end -/

/-- **The front end of one compilation.** -/
structure Inliner where
  config : Config := {}
  env : Engine := ({} : Environment)
  frame : Option Frame := none

/-- What a specialization of the call may look at. -/
def Inliner.site (i : Inliner) (call : Call Operand) : Site :=
  { call, config := i.config, env := i.env, frame := i.frame }

end CallSite
