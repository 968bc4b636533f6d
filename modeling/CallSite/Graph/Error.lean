import CallSite.Call
import CallSite.Graph.Node

/-!
# Violated invariants of a graph

`GraphError` lists what can go wrong when nodes are added for a call: the causes, and the message
of each.
-/

namespace CallSite

/-- What the builder was doing: adding nodes for a committed call, or looking up operands before
that. -/
inductive GraphPhase where
  | emission
  | setup
  deriving DecidableEq, Repr, Inhabited

def GraphPhase.name : GraphPhase → String
  | .emission => "emission"
  | .setup => "setup"

/-- **A violated invariant** of the graph under construction. -/
inductive GraphError where
  /-- An effectful node was left without a resume point. -/
  | missingResumePoint (node : NodeId)
  /-- A second resume point was attached to a node. -/
  | resumePointAttached (node : NodeId) (existing : ResumePointId)
  /-- A call site was committed twice. -/
  | callAlreadyDead (site : SiteId)
  /-- A handle belongs to no node. -/
  | unknownNode (node : NodeId) (phase : GraphPhase)
  /-- The operand stack did not grow by exactly one result. -/
  | stackDepth (site : SiteId) (expected found : Nat)
  /-- A type barrier was asked for a value that is not on top of the stack. -/
  | stackMismatch (node : NodeId) (found : Option NodeId)
  deriving DecidableEq, Repr, Inhabited

/-- The message of a violated invariant. -/
def GraphError.message : GraphError → String
  | .missingResumePoint node => s!"effectful instruction {node} has no resume point"
  | .resumePointAttached node existing =>
    s!"instruction {node} already carries resume point {existing.index}"
  | .callAlreadyDead site => s!"call site {site} was already marked dead"
  | .unknownNode node phase => s!"unknown node {node} during " ++ phase.name
  | .stackDepth site expected found =>
    s!"call site {site} left the stack at depth {found}, expected {expected}"
  | .stackMismatch node found =>
    let top := match found with
      | some id => s!"Some(NodeId({id.index}))"
      | none => "None"
    s!"type barrier for {node} expected it on top of the stack, found {top}"

end CallSite
