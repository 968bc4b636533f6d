import CallSite.Specialize.Signature
import CallSite.Text.CodeUnits

/-!
# String natives

* `Strings.charCodeAt`, `Strings.charAt` — folded when string and index are constants, else a
  bounds-checked load of one UTF-16 code unit.
* `Strings.replace` — dispatched on what the pattern can be.
* `Strings.construct`, `Strings.split` — allocated from the template of the site.
-/

namespace CallSite.Strings

open Draft (add constant effectfulResult pushConstant result)

/-! ## Code units -/

/-- The code unit of a constant string at a constant index. -/
def constantUnit? (string index : Operand) : Option UInt16 := do
  let s ← string.constant.bind Constant.string?
  let i ← index.int32?
  if 0 ≤ i then Text.codeUnit? s.toList i.toInt.toNat else none

/-- The code unit of a string at an index, loaded behind a bounds check. -/
def loadUnit (string index : Operand) : Draft Operand := do
  let index ← add .toInt32 [index] .int32
  let length ← add .stringLength [string] .int32
  let index ← Draft.boundsCheck index length
  add .charCodeAt [string, index] .int32

/-- **The code unit at an index**, as a number. -/
def charCodeAt (s : Site) : Decide Plan := do
  s.classify { arity := .exactly 1, receiver := .stringOrBoxed, args := [.intOrDouble],
               result := .exactly .int32 }
  let index ← s.arg 0
  match constantUnit? s.receiver index with
  | some unit => return .of (pushConstant (.int32 (Int32.ofNat unit.toNat)))
  | none => return .of do Draft.push (← loadUnit s.receiver index)

/-- The character that a code unit is on its own; half of a pair is none. -/
def unitChar? (unit : UInt16) : Option Char :=
  if Text.isSurrogate unit then none else some (Char.ofNat unit.toNat)

/-- **The character at an index**, as a string. -/
def charAt (s : Site) : Decide Plan := do
  s.classify { arity := .exactly 1, receiver := .string, args := [.intOrDouble],
               result := .exactly .string }
  let index ← s.arg 0
  match (constantUnit? s.receiver index).bind unitChar? with
  | some c => return .of (pushConstant (.string (String.singleton c)))
  | none => return .of do
    let unit ← loadUnit s.receiver index
    result .fromCharCode [unit] .string

/-- The string of one code unit. -/
def fromCharCode (s : Site) : Decide Plan := do
  s.classify { arity := .exactly 1, args := [.int32], result := .exactly .string }
  let code ← s.arg 0
  return .of do
    let unit ← add .toInt32 [code] .int32
    result .fromCharCode [unit] .string

/-! ## Whole strings -/

/-- The string that a value converts to. -/
def toString (s : Site) : Decide Plan := do
  s.classify { arity := .exactly 1, result := .exactly .string }
  let value ← s.arg 0
  return .of (result .toString [value] .string)

/-- **Replaces a pattern.**  A regular expression is written to (its last index moves), so that
replacement is an effect. -/
def replace (s : Site) : Decide Plan := do
  s.classify { arity := .exactly 2, receiver := .string, args := [.any, .string],
               result := .exactly .string }
  let pattern ← s.arg 0
  let replacement ← s.arg 1
  let inputs := [s.receiver, pattern, replacement]
  if pattern.ty = .string then return .of (result .stringReplace inputs .string)
  else if pattern.knownClass? = some .regExp then
    return .of (effectfulResult .regExpReplace inputs .string)
  else Decide.refuse .patternNotStringOrRegExp

/-- **A string object.**  Its argument must be no object, whose conversion could run a script. -/
def construct (s : Site) : Decide Plan := do
  s.classify { arity := .exactly 1, constructing := .required, args := [.notObject] }
  let t ← s.template .stringConstructor
  let value ← s.arg 0
  return .of do
    let template ← constant t.constant
    effectfulResult .newStringObject [value, template] .object

/-- **Splits a string** into an array whose type object already holds strings. -/
def split (s : Site) : Decide Plan := do
  s.classify { arity := .exactly 1, receiver := .string, args := [.string] }
  let t ← s.template .stringSplit
  Decide.require (!t.typeObject.unknownProperties) .templateUntracked
  Decide.require (t.typeObject.elementTypes.any (·.hasPrimitives .string)) .templateWithoutStrings
  let separator ← s.arg 0
  return .relyingOn [.elementTypes t.typeObject.id] do
    let template ← constant t.constant
    result .stringSplit [s.receiver, separator, template] .object (some (.singleton t.typeObject))

end CallSite.Strings
