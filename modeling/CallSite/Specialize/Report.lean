import CallSite.Environment
import CallSite.Graph.Error
import CallSite.Specialize.Refusal

/-!
# What an attempt reports

* `Status`, `Failure` — how an attempt to specialize a call ends.
* `Event` — what is reported while it runs.
-/

namespace CallSite

/-! ## Outcomes -/

/-- Whether a call was replaced; it then pushed exactly one result. -/
inductive Status where
  | inlined
  | notInlined
  deriving DecidableEq, Repr, Inhabited

def Status.name : Status → String
  | .inlined => "Inlined"
  | .notInlined => "NotInlined"

/-- **Why an attempt fails**, which is fatal for the compilation. -/
inductive Failure where
  | graph (e : GraphError)
  /-- Helper code could not be generated. -/
  | stubUnavailable (kind : StubKind)
  /-- A decision asked for an argument that the call does not have. -/
  | missingArgument (index : Nat)
  deriving DecidableEq, Repr, Inhabited

namespace Failure

def message : Failure → String
  | graph e => e.message
  | stubUnavailable kind => s!"shared {kind} stub unavailable: " ++ Stub.failureReason
  | missingArgument index => s!"argument {index} is missing"

/-- The failure violates an invariant of the graph. -/
def isGraphInvariant : Failure → Bool
  | graph _ => true
  | stubUnavailable _ | missingArgument _ => false

end Failure

/-! ## Events -/

/-- **What an attempt reports.** -/
inductive Event where
  /-- The registry has a specializer for the callee. -/
  | dispatch (native : Native) (specializer : String)
  | notInlined (reason : Refusal)
  /-- The call was replaced; the graph now has this many nodes. -/
  | inlined (site : SiteId) (nodes : Nat)
  | failed (site : SiteId) (failure : Failure)
  | stubCreated (stub : Stub)
  deriving DecidableEq, Inhabited

namespace Event

/-- How important an event is. -/
def level : Event → String
  | dispatch .. | notInlined _ => "TRACE"
  | inlined .. | stubCreated _ => "DEBUG"
  | failed .. => "WARN"

def message : Event → String
  | dispatch .. => "dispatch"
  | notInlined _ => "not inlined"
  | inlined .. => "inlined call"
  | failed .. => "specialization failed"
  | stubCreated _ => "created shared stub"

/-- The value of a field of an event. -/
inductive Field where
  | text (s : String)
  | number (n : Nat)
  deriving DecidableEq, Repr, Inhabited

/-- The fields that an event is reported with. -/
def fields : Event → List (String × Field)
  | dispatch native specializer =>
    [("native", .text native.text), ("specializer", .text specializer)]
  | notInlined reason => [("reason", .text reason.message)]
  | inlined site nodes => [("site", .text (toString site)), ("nodes", .number nodes)]
  | failed site failure => [("site", .text (toString site)), ("error", .text failure.message)]
  | stubCreated stub => [("kind", .text stub.kind.name), ("id", .number stub.id)]

end Event

end CallSite
