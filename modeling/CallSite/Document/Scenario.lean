import CallSite.Document.Settings
import CallSite.Json.Printer
import CallSite.Json.Reader
import CallSite.Scenario

/-!
# Scenarios as documents

The written form of a scenario, and loading settings and scenarios from a text.

* `Scenario.toJson`, `Scenario.ofJson?` — the form.
* `Scenario.load`, `Config.load` — the valid value of a text.
-/

namespace CallSite

namespace Given

def toJson : Given → Json
  | constant c => .object [("constant", c.toJson)]
  | typed ty types =>
    .object [("ty", ty.toJson), ("types", .ofOption TypeSet.toJson types)]

/-- An operand given by its value. -/
def ofConstant? : Decoder Given := fun j => do
  let fs ← j.members? ["constant"]
  return constant (← fs.required "constant" Constant.ofJson?)

/-- An operand given by its types. -/
def ofTypes? : Decoder Given := fun j => do
  let fs ← j.members? ["ty", "types"]
  return typed (← fs.required "ty" ValueType.ofJson?) (← fs.optional "types" TypeSet.ofJson?)

/-- The document tells by its members which form it has; a value comes first.  To look at it twice,
all of it has to be readable. -/
def ofJson? : Decoder Given := fun j =>
  if j.isReadable then Decoder.orElse ofConstant? ofTypes? j else none

end Given

namespace Scenario

def toJson (s : Scenario) : Json :=
  .object
    [("name", .ofOption .string s.name), ("site", s.site.toJson), ("callee", s.callee.toJson),
      ("this", .ofOption Given.toJson s.receiver), ("args", .ofList Given.toJson s.args),
      ("constructing", .bool s.constructing), ("kind", s.kind.toJson),
      ("result_types", .ofOption TypeSet.toJson s.resultTypes),
      ("result_use", s.resultUse.toJson), ("env", s.env.toJson), ("config", s.config.toJson),
      ("frame", .ofOption Frame.toJson s.frame)]

def ofJson? : Decoder Scenario :=
  .record
    ["name", "site", "callee", "this", "args", "constructing", "kind", "result_types",
      "result_use", "env", "config", "frame"]
    fun fs => do
      return {
        name := ← fs.optional "name" .string
        site := ← fs.withDefault "site" SiteId.ofJson? ⟨0⟩
        callee := ← fs.required "callee" Callee.ofJson?
        receiver := ← fs.optional "this" Given.ofJson?
        args := ← fs.withDefault "args" (.list Given.ofJson?) []
        constructing := ← fs.withDefault "constructing" .bool false
        kind := ← fs.withDefault "kind" CallKind.ofJson? .call
        resultTypes := ← fs.optional "result_types" TypeSet.ofJson?
        resultUse := ← fs.withDefault "result_use" ResultUse.ofJson? .escapes
        env := ← fs.withDefault "env" Environment.ofJson? {}
        config := ← fs.withDefault "config" Config.ofJson? {}
        frame := ← fs.optional "frame" Frame.ofJson? }

end Scenario

/-! ## Loading -/

/-- Why a text gives no value: it is no document of the right form, or its value is not valid. -/
inductive LoadError where
  | malformed
  | invalid (e : ScenarioError)
  deriving DecidableEq, Repr, Inhabited

def LoadError.message : LoadError → String
  | .malformed => "JsonError"
  | .invalid e => e.message

/-- The value of a text. -/
def Decoder.read {α : Type} (d : Decoder α) (text : String) : Option α :=
  (Json.parse? text).bind d

/-- **The valid configuration that a text describes.** -/
def Config.load (text : String) : Except LoadError Config :=
  match Config.ofJson?.read text with
  | none => .error .malformed
  | some c =>
    match c.validate with
    | .error e => .error (.invalid (.config e))
    | .ok () => .ok c

/-- **The valid scenario that a text describes.** -/
def Scenario.load (text : String) : Except LoadError Scenario :=
  match Scenario.ofJson?.read text with
  | none => .error .malformed
  | some s =>
    match s.validate with
    | .error e => .error (.invalid e)
    | .ok () => .ok s

end CallSite
