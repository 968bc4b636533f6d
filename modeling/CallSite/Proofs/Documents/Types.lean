import CallSite.Document.Types
import CallSite.Proofs.Documents.Decoding
import CallSite.Proofs.Documents.FlagText

/-!
# Types are read back from their documents

A type set that is built by growing the empty one is in *normal form*: doubles come with int32, and
no two of its type objects have one identity; likewise the element types inside.  A reader puts what
it reads into normal form, so a type set is read back just when it already was.

* `TypeSet.Normal` — **the normal form**; `TypeSet.Normal.insert` and its companions keep it.
* `TypeSet.normalize_eq` — a set in normal form is built from its own parts.
* `TypeSet.ofJson?_toJson`, `TypedLayout.ofJson?_toJson`, … — **what is written is read back**.
* `TypeSet.gives_ofJson?` — whatever is read is in normal form.
-/

namespace CallSite

open Decoder (word_string choice_append_string option_ofOption)

/-! ## Words -/

@[simp] lemma ValueType.ofJson?_toJson (t : ValueType) : ofJson? t.toJson = some t :=
  word_string (by decide) t.mem_all

@[simp] lemma Scalar.ofJson?_toJson (s : Scalar) : ofJson? s.toJson = some s :=
  word_string (by decide) s.mem_all

@[simp] lemma Heap.ofJson?_toJson (h : Heap) : ofJson? h.toJson = some h :=
  word_string (by decide) (by cases h <;> decide)

/-! ## Flag sets -/

@[simp] lemma Primitives.ofJson?_toJson (p : Primitives) : ofJson? p.toJson = some p := by
  rw [ofJson?, toJson, Decoder.string, Option.bind_some, parse?, text,
    FlagText.parse?_render (by decide), Option.map_some]

@[simp] lemma ObjectFlags.ofJson?_toJson (f : ObjectFlags) : ofJson? f.toJson = some f := by
  rw [ofJson?, toJson, Decoder.string, Option.bind_some, parse?, text,
    FlagText.parse?_render (by decide), Option.map_some]

/-! ## Classes -/

namespace ObjectClass

lemma ofJson?_key {c : ObjectClass} (h : c ∈ bare) : ofJson? (.string c.key) = some c := by
  have hkeys : ∀ c ∈ bare, c.key ∉ ["typed_array", "shared_typed_array", "other"] := by decide
  rw [ofJson?, choice_append_string (hkeys c h)]
  exact word_string (by decide) h

@[simp] lemma ofJson?_toJson (c : ObjectClass) : ofJson? c.toJson = some c := by
  cases c with
  | typedArray s | sharedTypedArray s => simp [toJson, key, ofJson?]
  | other tag => simp [toJson, key, ofJson?]
  | _ => exact ofJson?_key (by decide)

end ObjectClass

/-! ## Layouts -/

namespace TypedLayout

lemma toJson_ne_null (l : TypedLayout) : l.toJson ≠ .null := by cases l <;> nofun

/-- A layout is read back at any level that is deep enough. -/
lemma decodeUpTo_toJson (l : TypedLayout) {levels : Nat} (h : l.toJson.depth < levels) :
    decodeUpTo levels l.toJson = some l := by
  induction l generalizing levels with
  | scalar s =>
    obtain _ | levels := levels
    · omega
    · simp [decodeUpTo, decoder, toJson]
  | reference =>
    obtain _ | levels := levels
    · omega
    · simp [decodeUpTo, decoder, toJson]
  | struct size =>
    obtain _ | levels := levels
    · omega
    · simp [decodeUpTo, decoder, toJson]
  | sizedArray element length ih =>
    obtain _ | levels := levels
    · omega
    · simp only [toJson, Json.depth, Json.depthMembers, Json.depthMember] at h
      have helement : decodeUpTo levels element.toJson = some element := ih (by omega)
      simp [decodeUpTo, decoder, toJson, helement]
  | unsizedArray element ih =>
    obtain _ | levels := levels
    · omega
    · simp only [toJson, Json.depth, Json.depthMembers, Json.depthMember] at h
      have helement : decodeUpTo levels element.toJson = some element := ih (by omega)
      simp [decodeUpTo, decoder, toJson, helement]

@[simp] lemma ofJson?_toJson (l : TypedLayout) : ofJson? l.toJson = some l :=
  l.decodeUpTo_toJson (Nat.lt_succ_self _)

end TypedLayout

/-! ## The normal form of type sets -/

/-- **The type set is in normal form**: doubles come with int32, no two type objects have one
identity, and so on inside. -/
inductive TypeSet.Normal : TypeSet → Prop where
  | intro {s : TypeSet} (closed : s.primitives.closed = s.primitives)
    (nodup : (s.objects.map TypeObject.id).Nodup)
    (elements : ∀ o ∈ s.objects, ∀ t ∈ o.elementTypes, t.Normal) : s.Normal

/-- The element types of the type object are in normal form. -/
def TypeObject.Normal (o : TypeObject) : Prop := ∀ t ∈ o.elementTypes, t.Normal

@[simp] lemma Primitives.closed_closed (p : Primitives) : p.closed.closed = p.closed := by
  by_cases h : p.contains double = true
  · have hunion : (p ∪ int32).contains double = true := by
      rw [contains_iff] at h ⊢
      exact fun i hi => by simp [h i hi]
    have hbits : (p ∪ int32) ∪ int32 = p ∪ int32 :=
      congrArg mk ((BitVec.or_assoc ..).trans (congrArg _ (BitVec.or_self ..)))
    rw [closed, closed, if_pos h, if_pos hunion, hbits]
  · rw [closed, closed, if_neg h, if_neg h]

namespace TypeSet

variable {s : TypeSet}

lemma normal_empty : empty.Normal := .intro (by decide) .nil nofun

lemma normal_any : any.Normal := .intro (by decide) .nil nofun

namespace Normal

lemma insertPrimitives (h : s.Normal) (p : Primitives) : (s.insertPrimitives p).Normal := by
  obtain ⟨-, hnodup, helements⟩ := h
  exact .intro (Primitives.closed_closed _) hnodup helements

lemma insert (h : s.Normal) {o : TypeObject} (ho : o.Normal) : (s.insert o).Normal := by
  rw [TypeSet.insert]
  split
  · exact h
  · rename_i hnew
    obtain ⟨hclosed, hnodup, helements⟩ := h
    refine .intro hclosed ?_ ?_
    · rw [List.map_append, List.nodup_append]
      refine ⟨hnodup, by simp, ?_⟩
      rintro _ hid _ hmem rfl
      obtain ⟨x, hx, hid⟩ := List.mem_map.1 hid
      refine hnew (List.any_eq_true.2 ⟨x, hx, decide_eq_true ?_⟩)
      rw [hid, List.mem_singleton.1 hmem]
    · intro x hx
      rcases List.mem_append.1 hx with hx | hx
      · exact helements x hx
      · exact List.mem_singleton.1 hx ▸ ho

lemma insertUnknownObject (h : s.Normal) : s.insertUnknownObject.Normal := by
  obtain ⟨hclosed, hnodup, helements⟩ := h
  exact .intro hclosed hnodup helements

lemma foldl_insert (h : s.Normal) {os : List TypeObject} (hos : ∀ o ∈ os, o.Normal) :
    (os.foldl TypeSet.insert s).Normal := by
  induction os generalizing s with
  | nil => exact h
  | cons o os ih =>
    obtain ⟨ho, hos⟩ := List.forall_mem_cons.1 hos
    exact ih (h.insert ho) hos

end Normal

lemma normal_ofType (ty : ValueType) : (ofType ty).Normal := by
  cases ty with
  | boxed => exact normal_any
  | object => exact normal_empty.insertUnknownObject
  | _ => exact normal_empty.insertPrimitives _

/-- **A set that is built from parts is in normal form** if what is inside the parts is. -/
theorem normal_normalize (h : ∀ o ∈ s.objects, o.Normal) : s.normalize.Normal := by
  obtain ⟨hclosed, hnodup, helements⟩ :=
    (normal_empty.insertPrimitives s.primitives).foldl_insert h
  exact .intro hclosed hnodup helements

lemma foldl_insert_eq {os : List TypeObject}
    (h : ((s.objects ++ os).map TypeObject.id).Nodup) :
    os.foldl insert s = { s with objects := s.objects ++ os } := by
  induction os generalizing s with
  | nil =>
    rw [List.append_nil]
    cases s
    rfl
  | cons o os ih =>
    have hnew : ¬s.objects.any (·.id = o.id) = true := by
      intro hany
      obtain ⟨x, hx, hid⟩ := List.any_eq_true.1 hany
      rw [List.map_append, List.nodup_append] at h
      exact h.2.2 _ (List.mem_map_of_mem hx) _ (List.mem_cons_self ..) (of_decide_eq_true hid)
    rw [List.foldl_cons, insert, if_neg hnew, ih (by simpa using h)]
    simp

/-- **A set in normal form is built from its own parts.** -/
theorem Normal.normalize_eq (h : s.Normal) : s.normalize = s := by
  obtain ⟨hclosed, hnodup, -⟩ := h
  have hprimitives : (empty.insertPrimitives s.primitives).primitives = s.primitives := by
    rw [TypeSet.insertPrimitives, show empty.primitives ∪ s.primitives = s.primitives from
      congrArg Primitives.mk (BitVec.zero_or ..), hclosed]
  rw [TypeSet.normalize, foldl_insert_eq (by simpa [TypeSet.insertPrimitives, empty] using hnodup),
    hprimitives]
  cases s
  rfl

end TypeSet

/-! ## Type sets -/

/-- The written form of a type object by its fields. -/
lemma TypeObject.toJson_eq (o : TypeObject) : o.toJson =
    .object
      [("id", .int o.id.index.toNat), ("class", o.objectClass.toJson), ("flags", o.flags.toJson),
        ("unknown_properties", .bool o.unknownProperties),
        ("element_types", .ofOption TypeSet.toJson o.elementTypes),
        ("initial_heap", o.initialHeap.toJson),
        ("descr", .ofOption TypedLayout.toJson o.layout)] := by
  obtain ⟨_, _, _, _, elementTypes, _, _⟩ := o
  cases elementTypes <;> rfl

/-- The written form of a type set by its fields. -/
lemma TypeSet.toJson_eq (s : TypeSet) : s.toJson =
    .object
      [("primitives", s.primitives.toJson), ("objects", .ofList TypeObject.toJson s.objects),
        ("unknown_object", .bool s.unknownObject), ("unknown", .bool s.unknown)] := by
  have hlist (os : List TypeObject) : TypeObject.toJsonList os = os.map TypeObject.toJson := by
    induction os with
    | nil => rfl
    | cons o os ih => rw [TypeObject.toJsonList, ih, List.map_cons]
  obtain ⟨_, objects, _, _⟩ := s
  rw [toJson, hlist]
  rfl

lemma TypeSet.toJson_ne_null (s : TypeSet) : s.toJson ≠ .null := by
  rw [toJson_eq]
  nofun

@[simp] lemma TypeObjectId.ofJson?_int (t : TypeObjectId) :
    ofJson? (.int t.index.toNat) = some t := by
  simp [ofJson?, Decoder.map]

/-- A type object is read back if its element types are. -/
lemma TypeObject.decoder_toJson {types : Decoder TypeSet} {o : TypeObject}
    (h : ∀ t ∈ o.elementTypes, types t.toJson = some t) :
    TypeObject.decoder types o.toJson = some o := by
  have helements : types.option (.ofOption TypeSet.toJson o.elementTypes) = some o.elementTypes :=
    option_ofOption fun t ht => ⟨t.toJson_ne_null, h t ht⟩
  have hlayout : Decoder.option TypedLayout.ofJson? (.ofOption TypedLayout.toJson o.layout) =
      some o.layout :=
    option_ofOption fun l _ => ⟨l.toJson_ne_null, l.ofJson?_toJson⟩
  rw [toJson_eq]
  cases o
  simp [TypeObject.decoder, Decoder.bool, helements, hlayout]

lemma TypeObject.depth_elementTypes {o : TypeObject} {t : TypeSet} (h : t ∈ o.elementTypes) :
    t.toJson.depth < o.toJson.depth := by
  rw [toJson_eq o, show o.elementTypes = some t from h]
  refine @Json.depth_lt_of_mem_members _ "element_types" _ ?_
  simp [Json.ofOption]

lemma TypeSet.depth_objects {s : TypeSet} {o : TypeObject} (h : o ∈ s.objects) :
    o.toJson.depth < s.toJson.depth := by
  rw [toJson_eq s]
  have hitem : o.toJson.depth < (Json.ofList TypeObject.toJson s.objects).depth :=
    Json.depth_lt_of_mem_items (List.mem_map_of_mem h)
  refine hitem.trans (@Json.depth_lt_of_mem_members _ "objects" _ ?_)
  simp

namespace TypeSet

/-- A type set in normal form is read back at any level that is deep enough. -/
lemma Normal.decodeUpTo_toJson {s : TypeSet} (h : s.Normal) {levels : Nat}
    (hdepth : s.toJson.depth < levels) : decodeUpTo levels s.toJson = some s := by
  induction h generalizing levels with
  | @intro s closed nodup elements ih =>
    obtain _ | levels := levels
    · omega
    have hobjects : (Decoder.list (TypeObject.decoder (decodeUpTo levels)))
        (.ofList TypeObject.toJson s.objects) = some s.objects := by
      refine Decoder.list_ofList fun o ho => TypeObject.decoder_toJson fun t ht => ?_
      have hobject := depth_objects ho
      have helement := TypeObject.depth_elementTypes ht
      exact ih o ho t ht (by omega)
    have hnormalize := (Normal.intro closed nodup elements).normalize_eq
    rw [toJson_eq]
    cases s
    simp [decodeUpTo, TypeSet.decoder, Decoder.bool, hobjects, hnormalize]

/-- **A type set in normal form is read back.** -/
theorem ofJson?_toJson {s : TypeSet} (h : s.Normal) : ofJson? s.toJson = some s :=
  h.decodeUpTo_toJson (Nat.lt_succ_self _)

end TypeSet

lemma TypeObject.ofJson?_toJson {o : TypeObject} (h : o.Normal) : ofJson? o.toJson = some o :=
  decoder_toJson fun _ ht => TypeSet.ofJson?_toJson (h _ ht)

/-! ## What is read -/

lemma TypeObject.gives_decoder {types : Decoder TypeSet} (h : types.Gives TypeSet.Normal) :
    (TypeObject.decoder types).Gives TypeObject.Normal := by
  refine Decoder.gives_record fun fs hfs o ho => ?_
  simp only [Option.bind_eq_bind, Option.bind_eq_some_iff, Option.pure_def,
    Option.some.injEq] at ho
  obtain ⟨id, -, objectClass, -, flags, -, unknownProperties, -, elementTypes, helements, heap, -,
    layout, -, rfl⟩ := ho
  exact hfs.optional h helements

namespace TypeSet

lemma gives_decoder {object : Decoder TypeObject} (h : object.Gives TypeObject.Normal) :
    (TypeSet.decoder object).Gives Normal := by
  refine Decoder.gives_record fun fs hfs s hs => ?_
  simp only [Option.bind_eq_bind, Option.bind_eq_some_iff, Option.pure_def,
    Option.some.injEq] at hs
  obtain ⟨primitives, -, objects, hobjects, unknownObject, -, unknown, -, rfl⟩ := hs
  exact normal_normalize (hfs.items h hobjects)

lemma gives_decodeUpTo (levels : Nat) : (decodeUpTo levels).Gives Normal := by
  induction levels with
  | zero => nofun
  | succ levels ih => exact gives_decoder (TypeObject.gives_decoder ih)

/-- **Whatever is read is in normal form.** -/
theorem gives_ofJson? : ofJson?.Gives Normal := fun j hj s hs =>
  gives_decodeUpTo (j.depth + 1) j hj s hs

end TypeSet

lemma TypeObject.gives_ofJson? : ofJson?.Gives Normal := gives_decoder TypeSet.gives_ofJson?

end CallSite
