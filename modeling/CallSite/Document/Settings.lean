import CallSite.Config
import CallSite.Document.Values
import CallSite.Environment

/-!
# Settings and surroundings as documents

The written forms of configurations, frames, the engine's tables and the kinds of calls.

* `Config.toJson`, `Config.ofJson?` — settings; decoding alone does not validate them.
* `Environment.toJson`, `Environment.ofJson?` — the engine's tables.
-/

namespace CallSite

/-! ## Kinds of calls -/

namespace CallKind

def all : List CallKind := [call, getter]

def key : CallKind → String
  | call => "call"
  | getter => "getter"

def toJson (k : CallKind) : Json := .string k.key

def ofJson? : Decoder CallKind := .word all key

end CallKind

namespace ResultUse

def all : List ResultUse := [popped, condition, escapes]

def key : ResultUse → String
  | popped => "popped"
  | condition => "condition"
  | escapes => "escapes"

def toJson (u : ResultUse) : Json := .string u.key

def ofJson? : Decoder ResultUse := .word all key

end ResultUse

def SiteId.toJson (s : SiteId) : Json := .int s.offset.toNat

def SiteId.ofJson? : Decoder SiteId := .map (⟨·⟩) .uint32

/-! ## Settings -/

namespace ExecutionMode

def all : List ExecutionMode := [sequential, parallel]

def toJson (m : ExecutionMode) : Json := .string m.name

def ofJson? : Decoder ExecutionMode := .word all name

end ExecutionMode

namespace Config

def toJson (c : Config) : Json :=
  .object
    [("inline_natives", .bool c.inlineNatives), ("execution_mode", c.executionMode.toJson),
      ("inline_fork_join_get_slice", .bool c.inlineForkJoinGetSlice),
      ("max_call_args", .int c.maxCallArgs.toNat),
      ("max_dense_elements", .int c.maxDenseElements.toNat),
      ("eager_allocation_max_length", .int c.eagerAllocationMaxLength.toNat),
      ("inline_typed_object_max_size", .int c.inlineTypedObjectMaxSize.toNat)]

def ofJson? : Decoder Config :=
  .record
    ["inline_natives", "execution_mode", "inline_fork_join_get_slice", "max_call_args",
      "max_dense_elements", "eager_allocation_max_length", "inline_typed_object_max_size"]
    fun fs => do
      let usual : Config := {}
      return {
        inlineNatives := ← fs.withDefault "inline_natives" .bool usual.inlineNatives
        executionMode :=
          ← fs.withDefault "execution_mode" ExecutionMode.ofJson? usual.executionMode
        inlineForkJoinGetSlice :=
          ← fs.withDefault "inline_fork_join_get_slice" .bool usual.inlineForkJoinGetSlice
        maxCallArgs := ← fs.withDefault "max_call_args" .uint64 usual.maxCallArgs
        maxDenseElements := ← fs.withDefault "max_dense_elements" .uint32 usual.maxDenseElements
        eagerAllocationMaxLength :=
          ← fs.withDefault "eager_allocation_max_length" .uint32 usual.eagerAllocationMaxLength
        inlineTypedObjectMaxSize :=
          ← fs.withDefault "inline_typed_object_max_size" .uint32
            usual.inlineTypedObjectMaxSize }

end Config

namespace Frame

def toJson (f : Frame) : Json :=
  .object [("depth", .int f.depth.toNat), ("constructing", .bool f.constructing)]

def ofJson? : Decoder Frame := .record ["depth", "constructing"] fun fs => do
  return {
    depth := ← fs.required "depth" .uint32
    constructing := ← fs.required "constructing" .bool }

end Frame

/-! ## The engine's tables -/

namespace SiteTemplate

def toJson (t : SiteTemplate) : Json :=
  .object
    [("site", t.site.toJson), ("native", t.native.toJson), ("template", t.template.toJson)]

def ofJson? : Decoder SiteTemplate := .record ["site", "native", "template"] fun fs => do
  return {
    site := ← fs.required "site" SiteId.ofJson?
    native := ← fs.required "native" Native.ofJson?
    template := ← fs.required "template" Template.ofJson? }

end SiteTemplate

namespace ClassTemplate

def toJson (t : ClassTemplate) : Json :=
  .object
    [("site", t.site.toJson), ("class", t.objectClass.toJson), ("template", t.template.toJson)]

def ofJson? : Decoder ClassTemplate := .record ["site", "class", "template"] fun fs => do
  return {
    site := ← fs.required "site" SiteId.ofJson?
    objectClass := ← fs.required "class" ObjectClass.ofJson?
    template := ← fs.required "template" Template.ofJson? }

end ClassTemplate

namespace Environment

def toJson (env : Environment) : Json :=
  .object
    [("short_lived", .ofList ObjectId.toJson env.shortLived),
      ("templates", .ofList SiteTemplate.toJson env.templates),
      ("class_hook_templates", .ofList ClassTemplate.toJson env.classTemplates),
      ("indexed_array_prototype", .bool env.indexedArrayPrototype),
      ("fail_stub_creation", .bool env.failStubCreation)]

/-- Young objects may be listed in any order and more than once. -/
def ofJson? : Decoder Environment :=
  .record
    ["short_lived", "templates", "class_hook_templates", "indexed_array_prototype",
      "fail_stub_creation"]
    fun fs => do
      let young ← fs.withDefault "short_lived" (.list ObjectId.ofJson?) []
      return {
        shortLived := young.foldr insertShortLived []
        templates := ← fs.withDefault "templates" (.list SiteTemplate.ofJson?) []
        classTemplates := ← fs.withDefault "class_hook_templates" (.list ClassTemplate.ofJson?) []
        indexedArrayPrototype := ← fs.withDefault "indexed_array_prototype" .bool false
        failStubCreation := ← fs.withDefault "fail_stub_creation" .bool false }

end Environment

end CallSite
