import CallSite.Specialize.Signature

/-!
# Regular expressions

Both methods run shared helper code, which their plans ask for.  When nothing but the outcome of
`exec` matters it is specialized as `test`.
-/

namespace CallSite.RegExps

open Draft (add effectfulResult push resumeAfter)

/-- Both methods take one argument whose conversion cannot run a script. -/
def signature : Signature := { arity := .exactly 1, receiver := .object, args := [.notObject] }

/-- **Whether the expression matches.**  A result that escapes has to be a boolean; scripts that
were compiled eagerly may have observed no result yet. -/
def test (s : Site) : Decide Plan := do
  s.classify signature
  if s.call.resultEscapes ∧ s.returnType ≠ .boolean then Decide.decline (.returnType s.returnType)
  Decide.require (s.receiver.knownClass? = some .regExp) .receiverNotRegExp
  let input ← s.arg 0
  let d := effectfulResult .regExpTest [s.receiver, input] .boolean
  return { stub := some .regExpTest, steps := d.steps }

/-- **The match**, guarded by the observed result types. -/
def exec (s : Site) : Decide Plan := do
  if s.call.resultEscapes then
    s.classify signature
    Decide.require (s.receiver.knownClass? = some .regExp) .receiverNotRegExp
    let input ← s.arg 0
    let d : Draft Unit := do
      let found ← add .regExpExec [s.receiver, input] .boxed
      push found
      resumeAfter found
      Draft.guardTop found s.call.resultTypes .typeSet
    return { stub := some .regExpExec, steps := d.steps }
  else test s

end CallSite.RegExps
