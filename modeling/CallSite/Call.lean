import CallSite.Types.TypeSet

/-!
# Call sites

* `Call` — one call as the interpreter would make it, together with what was observed of its
  result.  It is generic in how its operands are named: node ids while a graph is built, operands
  with their facts once they are looked up.
* `Call.operands` — callee, receiver and arguments, in stack order.
-/

namespace CallSite

/-- The bytecode offset that identifies a call site. -/
structure SiteId where
  offset : UInt32
  deriving DecidableEq, Repr, Inhabited

instance : ToString SiteId := ⟨fun s => s!"pc{s.offset}"⟩

/-- An explicit call, or the implicit call of a property getter. -/
inductive CallKind where
  | call
  | getter
  deriving DecidableEq, Repr, Inhabited

/-- What the bytecode after a call does with its result: nothing, a test for truthiness, or
anything else. -/
inductive ResultUse where
  | popped
  | condition
  | escapes
  deriving DecidableEq, Repr, Inhabited

/-- **A call**, with operands named by `ν`. -/
structure Call (ν : Type) where
  site : SiteId
  callee : ν
  receiver : ν
  args : List ν := []
  constructing : Bool := false
  kind : CallKind := .call
  /-- The types that the baseline tier observed for the result. -/
  resultTypes : TypeSet := .any
  resultUse : ResultUse := .escapes

namespace Call

variable {ν μ ε : Type}

/-- The number of arguments. -/
def argc (c : Call ν) : Nat := c.args.length

/-- Callee, receiver and arguments, in stack order. -/
def operands (c : Call ν) : List ν := c.callee :: c.receiver :: c.args

/-- The static type that the observed result types imply. -/
def returnType (c : Call ν) : ValueType := c.resultTypes.knownType

def resultPopped (c : Call ν) : Bool := c.resultUse = .popped

def resultEscapes (c : Call ν) : Bool := c.resultUse = .escapes

/-- The call with every operand looked up, in stack order; the first that fails decides. -/
def resolve (c : Call ν) (f : ν → Except ε μ) : Except ε (Call μ) := do
  let callee ← f c.callee
  let receiver ← f c.receiver
  let args ← c.args.mapM f
  return { c with callee, receiver, args }

/-- The call with its operands renamed. -/
def map (c : Call ν) (f : ν → μ) : Call μ :=
  { c with callee := f c.callee, receiver := f c.receiver, args := c.args.map f }

end Call

end CallSite
