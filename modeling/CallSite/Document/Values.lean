import CallSite.Document.Types
import CallSite.FunctionObject

/-!
# Values as documents

The written forms of natives, constants, function objects, callees and templates.

* `Constant.toJson`, `Constant.ofJson?` — constants; a double that is not finite has no form of
  its own and is written as null.
* `FunctionObject.toJson`, `FunctionObject.ofJson?` — function objects, bound ones included.
* `Callee.toJson`, `Callee.ofJson?` — callees.
* `Template.toJson`, `Template.ofJson?` — templates.
-/

namespace CallSite

/-! ## Natives -/

namespace Native

def toJson : Native → Json
  | n@(typedArrayLengthGetter e) | n@(sharedTypedArrayLengthGetter e) =>
    .object [(n.key, e.toJson)]
  | n => .string n.key

def ofJson? : Decoder Native :=
  .choice
    ([.data "typed_array_length_getter" typedArrayLengthGetter Scalar.ofJson?,
        .data "shared_typed_array_length_getter" sharedTypedArrayLengthGetter Scalar.ofJson?] ++
      functions.map fun n => .bare n.key n)

end Native

/-! ## Objects and constants -/

def ObjectId.toJson (o : ObjectId) : Json := .int o.index.toNat

def ObjectId.ofJson? : Decoder ObjectId := .map (⟨·⟩) .uint64

namespace ObjectRef

def toJson (o : ObjectRef) : Json :=
  .object
    [("id", o.id.toJson), ("class", o.objectClass.toJson),
      ("type_object", .ofOption (fun t => .int t.index.toNat) o.typeObject)]

def ofJson? : Decoder ObjectRef := .record ["id", "class", "type_object"] fun fs => do
  return {
    id := ← fs.required "id" ObjectId.ofJson?
    objectClass := ← fs.required "class" ObjectClass.ofJson?
    typeObject := ← fs.optional "type_object" TypeObjectId.ofJson? }

end ObjectRef

/-- The written form of a double; one that is not finite has none. -/
def Double.toJson (d : Double) : Json := if d.isFinite then .double d else .null

namespace Constant

def toJson : Constant → Json
  | undefined => .string "undefined"
  | null => .string "null"
  | boolean b => .object [("boolean", .bool b)]
  | int32 n => .object [("int32", .int n.toInt)]
  | double d => .object [("double", d.toJson)]
  | string s => .object [("string", .string s)]
  | object o => .object [("object", o.toJson)]

def ofJson? : Decoder Constant :=
  .choice
    [.bare "undefined" undefined, .bare "null" null, .data "boolean" boolean .bool,
      .data "int32" int32 .int32, .data "double" double .double, .data "string" string .string,
      .data "object" object ObjectRef.ofJson?]

end Constant

/-! ## Functions -/

mutual

/-- The written form of a function object. -/
def FunctionObject.toJson : FunctionObject → Json
  | ⟨object, kind⟩ => .object [("object", object.toJson), ("kind", kind.toJson)]
termination_by structural f => f

/-- The written form of what a function object runs. -/
def FunctionKind.toJson : FunctionKind → Json
  | .native native isConstructor =>
    .object [("native", .object [("native", native.toJson), ("constructor", .bool isConstructor)])]
  | .interpreted isConstructor =>
    .object [("interpreted", .object [("constructor", .bool isConstructor)])]
  | .bound target receiver arguments =>
    .object
      [("bound", .object
        [("target", target.toJson), ("bound_this", receiver.toJson),
          ("bound_args", .ofList Constant.toJson arguments)])]
termination_by structural k => k

/-- The written form of a bound target. -/
def BoundTarget.toJson : BoundTarget → Json
  | .function f => .object [("function", f.toJson)]
  | .object o => .object [("object", o.toJson)]
termination_by structural t => t

end

/-- Decodes a bound target, given how to decode function objects. -/
def BoundTarget.decoder (inner : Decoder FunctionObject) : Decoder BoundTarget :=
  .choice [.data "function" .function inner, .data "object" .object ObjectRef.ofJson?]

/-- Decodes what a function object runs, given how to decode the targets of bound functions. -/
def FunctionKind.decoder (inner : Decoder FunctionObject) : Decoder FunctionKind :=
  .choice
    [.data "native" (fun (n, isConstructor) => .native n isConstructor) <|
        .record ["native", "constructor"] fun fs => do
          return (← fs.required "native" Native.ofJson?,
            ← fs.withDefault "constructor" .bool false),
      .data "interpreted" .interpreted <|
        .record ["constructor"] fun fs => fs.withDefault "constructor" .bool false,
      .data "bound" (fun (target, receiver, arguments) => .bound target receiver arguments) <|
        .record ["target", "bound_this", "bound_args"] fun fs => do
          return (← fs.required "target" (BoundTarget.decoder inner),
            ← fs.required "bound_this" Constant.ofJson?,
            ← fs.withDefault "bound_args" (.list Constant.ofJson?) [])]

/-- Decodes a function object, given how to decode the targets of bound functions. -/
def FunctionObject.decoder (inner : Decoder FunctionObject) : Decoder FunctionObject :=
  .record ["object", "kind"] fun fs => do
    return {
      object := ← fs.required "object" ObjectRef.ofJson?
      kind := ← fs.required "kind" (FunctionKind.decoder inner) }

/-- Decodes function objects of at most `levels` levels. -/
def FunctionObject.decodeUpTo : Nat → Decoder FunctionObject
  | 0 => fun _ => none
  | levels + 1 => FunctionObject.decoder (decodeUpTo levels)

def FunctionObject.ofJson? : Decoder FunctionObject := fun j =>
  FunctionObject.decodeUpTo (j.depth + 1) j

/-! ## Callees and templates -/

namespace DescriptorObject

def toJson (d : DescriptorObject) : Json :=
  .object
    [("object", d.object.toJson), ("descr", d.layout.toJson),
      ("size", .ofOption (fun n => .int n.toNat) d.size)]

def ofJson? : Decoder DescriptorObject := .record ["object", "descr", "size"] fun fs => do
  return {
    object := ← fs.required "object" ObjectRef.ofJson?
    layout := ← fs.required "descr" TypedLayout.ofJson?
    size := ← fs.optional "size" .uint32 }

end DescriptorObject

namespace Callee

def toJson : Callee → Json
  | function f => .object [("function", f.toJson)]
  | descriptor d => .object [("type_descr", d.toJson)]

def ofJson? : Decoder Callee :=
  .choice
    [.data "function" function FunctionObject.ofJson?,
      .data "type_descr" descriptor DescriptorObject.ofJson?]

end Callee

namespace Template

def toJson (t : Template) : Json :=
  .object
    [("object", t.object.toJson), ("type_object", t.typeObject.toJson),
      ("length", .int t.length.toNat), ("type_descr", .ofOption ObjectId.toJson t.descriptor)]

def ofJson? : Decoder Template :=
  .record ["object", "type_object", "length", "type_descr"] fun fs => do
    return {
      object := ← fs.required "object" ObjectRef.ofJson?
      typeObject := ← fs.required "type_object" TypeObject.ofJson?
      length := ← fs.withDefault "length" .uint32 0
      descriptor := ← fs.optional "type_descr" ObjectId.ofJson? }

end Template

end CallSite
