import CallSite.Routine.Arrays
import CallSite.Specialize.RegExps
import CallSite.Specialize.Strings

/-!
# String and regular-expression natives at work

The routines behind the decisions of `CallSite.Strings` and `CallSite.RegExps`.  The stub of a
regular-expression method is created once nothing can be declined any more; `exec` hands over to
`test` when nothing but the outcome of the match matters.
-/

namespace CallSite

open Strings (constantUnit? unitChar?)

namespace Emitter

/-- The code unit of a string at an index, loaded behind a bounds check. -/
def loadUnit (e : Emitter) (string index : NodeId) : Routine NodeId := do
  let index ← e.add .toInt32 [index] .int32
  let length ← e.add .stringLength [string] .int32
  let index ← e.boundsCheck index length
  e.add .charCodeAt [string, index] .int32

end Emitter

namespace Routine

/-! ## Code units -/

/-- The code unit at an index, as a number. -/
def inlineStrCharCodeAt (_ : Inliner) (call : Call NodeId) : Routine Status := do
  classify call { arity := .exactly 1, receiver := .stringOrBoxed, args := [.intOrDouble],
                  result := .exactly .int32 }
  let string ← observe call.receiver
  let index ← arg call 0
  match constantUnit? string (← observe index) with
  | some unit =>
    let e ← commit call []
    e.pushConstant (.int32 (Int32.ofNat unit.toNat))
    e.finish
  | none =>
    let e ← commit call []
    e.push (← e.loadUnit call.receiver index)
    e.finish

/-- The character at an index, as a string. -/
def inlineStrCharAt (_ : Inliner) (call : Call NodeId) : Routine Status := do
  classify call { arity := .exactly 1, receiver := .string, args := [.intOrDouble],
                  result := .exactly .string }
  let string ← observe call.receiver
  let index ← arg call 0
  match (constantUnit? string (← observe index)).bind unitChar? with
  | some c =>
    let e ← commit call []
    e.pushConstant (.string (String.singleton c))
    e.finish
  | none =>
    let e ← commit call []
    let unit ← e.loadUnit call.receiver index
    e.push (← e.add .fromCharCode [unit] .string)
    e.finish

/-- The string of one code unit. -/
def inlineStrFromCharCode (_ : Inliner) (call : Call NodeId) : Routine Status := do
  classify call { arity := .exactly 1, args := [.int32], result := .exactly .string }
  let e ← commit call []
  let unit ← e.add .toInt32 [← arg call 0] .int32
  e.push (← e.add .fromCharCode [unit] .string)
  e.finish

/-! ## Whole strings -/

/-- The string that a value converts to. -/
def inlineToString (_ : Inliner) (call : Call NodeId) : Routine Status := do
  classify call { arity := .exactly 1, result := .exactly .string }
  let e ← commit call []
  e.push (← e.add .toString [← arg call 0] .string)
  e.finish

/-- Replaces a pattern. -/
def inlineStrReplace (_ : Inliner) (call : Call NodeId) : Routine Status := do
  classify call { arity := .exactly 2, receiver := .string, args := [.any, .string],
                  result := .exactly .string }
  let pattern ← arg call 0
  let x ← observe pattern
  require (x.ty = .string || x.knownClass? = some .regExp) .patternNotStringOrRegExp
  let e ← commit call []
  let inputs := [call.receiver, pattern, ← arg call 1]
  if x.ty = .string then e.push (← e.add .stringReplace inputs .string)
  else
    let replace ← e.add .regExpReplace inputs .string
    e.push replace
    e.resumeAfter replace
  e.finish

/-- A string object. -/
def inlineStringObject (i : Inliner) (call : Call NodeId) : Routine Status := do
  classify call { arity := .exactly 1, constructing := .required, args := [.notObject] }
  let t ← template i call .stringConstructor
  let e ← commit call []
  let template ← e.constant t.constant
  let object ← e.add .newStringObject [← arg call 0, template] .object
  e.push object
  e.resumeAfter object
  e.finish

/-- Splits a string. -/
def inlineStringSplit (i : Inliner) (call : Call NodeId) : Routine Status := do
  classify call { arity := .exactly 1, receiver := .string, args := [.string] }
  let t ← template i call .stringSplit
  require (!t.typeObject.unknownProperties) .templateUntracked
  require (t.typeObject.elementTypes.any (·.hasPrimitives .string)) .templateWithoutStrings
  let e ← commit call [.elementTypes t.typeObject.id]
  let template ← e.constant t.constant
  e.push (← e.add .stringSplit [call.receiver, ← arg call 0, template] .object
    (some (.singleton t.typeObject)))
  e.finish

/-! ## Regular expressions -/

/-- The receiver is known to be a regular expression. -/
def requireRegExp (call : Call NodeId) : Routine Unit := do
  let receiver ← observe call.receiver
  require (receiver.knownClass? = some .regExp) .receiverNotRegExp

/-- Whether the expression matches. -/
def inlineRegExpTest (i : Inliner) (call : Call NodeId) : Routine Status := do
  classify call RegExps.signature
  expect (!call.resultEscapes || call.returnType = .boolean) (.returnType call.returnType)
  requireRegExp call
  ensureStub i .regExpTest
  let e ← commit call []
  let test ← e.add .regExpTest [call.receiver, ← arg call 0] .boolean
  e.push test
  e.resumeAfter test
  e.finish

/-- The match; when nothing but its outcome matters, whether there is one. -/
def inlineRegExpExec (i : Inliner) (call : Call NodeId) : Routine Status := do
  if !call.resultEscapes then inlineRegExpTest i call
  else
    classify call RegExps.signature
    requireRegExp call
    ensureStub i .regExpExec
    let e ← commit call []
    let found ← e.add .regExpExec [call.receiver, ← arg call 0] .boxed
    e.push found
    e.resumeAfter found
    e.guardTop found call.resultTypes .typeSet
    e.finish

end Routine

end CallSite
