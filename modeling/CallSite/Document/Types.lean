import CallSite.Json.Decoder
import CallSite.Types.TypeSet

/-!
# Types as documents

The written forms of static types, classes, flag sets, layouts, type objects and type sets.  Every
field of a record is written; a reader takes the usual value for one that is absent.

Type objects and type sets contain each other, and layouts contain layouts.  Their decoders
descend by one level at a time, as many times as the document nests.

* `TypeSet.toJson`, `TypeSet.ofJson?` — type sets, which are put into normal form when read.
* `TypeObject.toJson`, `TypeObject.ofJson?` — type objects.
* `TypedLayout.toJson`, `TypedLayout.ofJson?` — layouts.
-/

namespace CallSite

/-! ## Words -/

namespace ValueType

/-- The key of a static type in documents. -/
def key : ValueType → String
  | boolean => "boolean"
  | t => t.name

def toJson (t : ValueType) : Json := .string t.key

def ofJson? : Decoder ValueType := .word all key

end ValueType

namespace Scalar

def toJson (s : Scalar) : Json := .string s.name

def ofJson? : Decoder Scalar := .word all name

end Scalar

namespace Heap

def all : List Heap := [nursery, tenured]

def key : Heap → String
  | nursery => "nursery"
  | tenured => "tenured"

def toJson (h : Heap) : Json := .string h.key

def ofJson? : Decoder Heap := .word all key

end Heap

/-! ## Flag sets -/

namespace Primitives

def toJson (p : Primitives) : Json := .string p.text

def ofJson? : Decoder Primitives := fun j => (Decoder.string j).bind parse?

end Primitives

namespace ObjectFlags

def toJson (f : ObjectFlags) : Json := .string f.text

def ofJson? : Decoder ObjectFlags := fun j => (Decoder.string j).bind parse?

end ObjectFlags

/-! ## Classes -/

namespace ObjectClass

/-- The classes without data. -/
def bare : List ObjectClass :=
  [plainObject, array, arguments, regExp, stringObject, function, proxy,
    outlineTransparentTypedObject, outlineOpaqueTypedObject, inlineTransparentTypedObject,
    inlineOpaqueTypedObject, scalarTypeDescr, referenceTypeDescr, sizedArrayTypeDescr,
    unsizedArrayTypeDescr, structTypeDescr]

/-- The key of a class in documents. -/
def key : ObjectClass → String
  | plainObject => "plain_object"
  | array => "array"
  | arguments => "arguments"
  | regExp => "reg_exp"
  | stringObject => "string_object"
  | function => "function"
  | proxy => "proxy"
  | typedArray _ => "typed_array"
  | sharedTypedArray _ => "shared_typed_array"
  | outlineTransparentTypedObject => "outline_transparent_typed_object"
  | outlineOpaqueTypedObject => "outline_opaque_typed_object"
  | inlineTransparentTypedObject => "inline_transparent_typed_object"
  | inlineOpaqueTypedObject => "inline_opaque_typed_object"
  | scalarTypeDescr => "scalar_type_descr"
  | referenceTypeDescr => "reference_type_descr"
  | sizedArrayTypeDescr => "sized_array_type_descr"
  | unsizedArrayTypeDescr => "unsized_array_type_descr"
  | structTypeDescr => "struct_type_descr"
  | other _ => "other"

def toJson : ObjectClass → Json
  | c@(typedArray s) | c@(sharedTypedArray s) => .object [(c.key, s.toJson)]
  | c@(other tag) => .object [(c.key, .int tag.toNat)]
  | c => .string c.key

def ofJson? : Decoder ObjectClass :=
  .choice
    ([.data "typed_array" typedArray Scalar.ofJson?,
        .data "shared_typed_array" sharedTypedArray Scalar.ofJson?, .data "other" other .uint32] ++
      bare.map fun c => .bare c.key c)

end ObjectClass

/-! ## Layouts -/

namespace TypedLayout

def toJson : TypedLayout → Json
  | scalar element => .object [("scalar", element.toJson)]
  | reference => .string "reference"
  | struct size => .object [("struct", .object [("size", .int size.toNat)])]
  | sizedArray element length =>
    .object [("sized_array", .object [("element", element.toJson), ("length", .int length.toNat)])]
  | unsizedArray element => .object [("unsized_array", .object [("element", element.toJson)])]

/-- Decodes a layout, given how to decode those inside. -/
def decoder (inner : Decoder TypedLayout) : Decoder TypedLayout :=
  .choice
    [.data "scalar" scalar Scalar.ofJson?,
      .bare "reference" reference,
      .data "struct" struct <| .record ["size"] fun fs => fs.required "size" .uint32,
      .data "sized_array" (fun (element, length) => sizedArray element length) <|
        .record ["element", "length"] fun fs => do
          return (← fs.required "element" inner, ← fs.required "length" .uint32),
      .data "unsized_array" unsizedArray <|
        .record ["element"] fun fs => fs.required "element" inner]

/-- Decodes layouts of at most `levels` levels. -/
def decodeUpTo : Nat → Decoder TypedLayout
  | 0 => fun _ => none
  | levels + 1 => decoder (decodeUpTo levels)

def ofJson? : Decoder TypedLayout := fun j => decodeUpTo (j.depth + 1) j

end TypedLayout

/-! ## Type sets -/

mutual

/-- The written form of a type set. -/
def TypeSet.toJson : TypeSet → Json
  | ⟨primitives, objects, unknownObject, unknown⟩ =>
    .object
      [("primitives", primitives.toJson), ("objects", .array (TypeObject.toJsonList objects)),
        ("unknown_object", .bool unknownObject), ("unknown", .bool unknown)]
termination_by structural s => s

/-- The written forms of type objects. -/
def TypeObject.toJsonList : List TypeObject → List Json
  | [] => []
  | o :: os => o.toJson :: TypeObject.toJsonList os
termination_by structural os => os

/-- The written form of a type object. -/
def TypeObject.toJson : TypeObject → Json
  | ⟨id, objectClass, flags, unknownProperties, elementTypes, initialHeap, layout⟩ =>
    .object
      [("id", .int id.index.toNat), ("class", objectClass.toJson), ("flags", flags.toJson),
        ("unknown_properties", .bool unknownProperties),
        ("element_types", TypeSet.toJsonOption elementTypes),
        ("initial_heap", initialHeap.toJson), ("descr", .ofOption TypedLayout.toJson layout)]
termination_by structural o => o

/-- The written form of tracked element types. -/
def TypeSet.toJsonOption : Option TypeSet → Json
  | none => .null
  | some s => s.toJson
termination_by structural s => s

end

def TypeObjectId.ofJson? : Decoder TypeObjectId := .map (⟨·⟩) .uint32

/-- Decodes a type object, given how to decode its element types. -/
def TypeObject.decoder (types : Decoder TypeSet) : Decoder TypeObject :=
  .record
    ["id", "class", "flags", "unknown_properties", "element_types", "initial_heap", "descr"]
    fun fs => do
      return {
        id := ← fs.required "id" TypeObjectId.ofJson?
        objectClass := ← fs.required "class" ObjectClass.ofJson?
        flags := ← fs.withDefault "flags" ObjectFlags.ofJson? .none
        unknownProperties := ← fs.withDefault "unknown_properties" .bool false
        elementTypes := ← fs.optional "element_types" types
        initialHeap := ← fs.withDefault "initial_heap" Heap.ofJson? .nursery
        layout := ← fs.optional "descr" TypedLayout.ofJson? }

/-- Decodes a type set, given how to decode its type objects. -/
def TypeSet.decoder (object : Decoder TypeObject) : Decoder TypeSet :=
  .record ["primitives", "objects", "unknown_object", "unknown"] fun fs => do
    let parts : TypeSet := {
      primitives := ← fs.withDefault "primitives" Primitives.ofJson? .none
      objects := ← fs.withDefault "objects" (.list object) []
      unknownObject := ← fs.withDefault "unknown_object" .bool false
      unknown := ← fs.withDefault "unknown" .bool false }
    return parts.normalize

/-- Decodes type sets of at most `levels` levels. -/
def TypeSet.decodeUpTo : Nat → Decoder TypeSet
  | 0 => fun _ => none
  | levels + 1 => TypeSet.decoder (TypeObject.decoder (decodeUpTo levels))

def TypeSet.ofJson? : Decoder TypeSet := fun j => TypeSet.decodeUpTo (j.depth + 1) j

def TypeObject.ofJson? : Decoder TypeObject := TypeObject.decoder TypeSet.ofJson?

end CallSite
