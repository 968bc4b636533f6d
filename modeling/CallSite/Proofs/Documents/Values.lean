import CallSite.Document.Values
import CallSite.Proofs.Documents.Doubles
import CallSite.Proofs.Documents.Types

/-!
# Values are read back from their documents

A double that is not finite has no written form, so values are read back when none is in them.

* `Constant.Finite`, `FunctionObject.Finite`, `Callee.Finite` — **no double in the value is infinite
  or no number**.
* `FunctionObject.ofJson?_toJson`, `Callee.ofJson?_toJson`, … — what is written is read back.
* `Constant.gives_ofJson?`, `Callee.gives_ofJson?` — all doubles that are read are finite.
-/

namespace CallSite

open Decoder (word_string choice_append_string option_ofOption list_ofList)
open Variant (gives_bare gives_data gives_of_forall)

/-! ## Natives -/

namespace Native

lemma ofJson?_key {n : Native} (h : n ∈ functions) : ofJson? (.string n.key) = some n := by
  have hkeys : ∀ n ∈ functions,
      n.key ∉ ["typed_array_length_getter", "shared_typed_array_length_getter"] := by
    decide +kernel
  rw [ofJson?, choice_append_string (hkeys n h)]
  exact word_string (by decide +kernel) h

@[simp] lemma ofJson?_toJson (n : Native) : ofJson? n.toJson = some n := by
  cases n with
  | typedArrayLengthGetter e | sharedTypedArrayLengthGetter e => simp [toJson, key, ofJson?]
  | _ => exact ofJson?_key (by decide)

end Native

/-! ## Objects and constants -/

@[simp] lemma ObjectId.ofJson?_toJson (o : ObjectId) : ofJson? o.toJson = some o := by
  simp [ofJson?, toJson, Decoder.map]

@[simp] lemma ObjectRef.ofJson?_toJson (o : ObjectRef) : ofJson? o.toJson = some o := by
  have htype : Decoder.option TypeObjectId.ofJson?
      (.ofOption (fun t => .int t.index.toNat) o.typeObject) = some o.typeObject :=
    option_ofOption fun t _ => ⟨nofun, TypeObjectId.ofJson?_int t⟩
  simp [ofJson?, toJson, htype]

namespace Constant

/-- **The constant is no infinite double and not NaN.** -/
def Finite : Constant → Prop
  | double d => d.isFinite = true
  | _ => True

/-- **A finite constant is read back.** -/
theorem ofJson?_toJson {c : Constant} (h : c.Finite) : ofJson? c.toJson = some c := by
  cases c with
  | double d => simp [ofJson?, toJson, Double.toJson, show d.isFinite = true from h, Decoder.double]
  | _ => simp [ofJson?, toJson, Decoder.bool, Decoder.string]

end Constant

/-! ## Functions -/

/-- **All constants in the function object are finite.** -/
inductive FunctionObject.Finite : FunctionObject → Prop where
  | native (object : ObjectRef) (n : Native) (isConstructor : Bool) :
    Finite ⟨object, .native n isConstructor⟩
  | interpreted (object : ObjectRef) (isConstructor : Bool) :
    Finite ⟨object, .interpreted isConstructor⟩
  | boundFunction (object : ObjectRef) {target : FunctionObject} {receiver : Constant}
    {arguments : List Constant} (target_finite : target.Finite) (receiver_finite : receiver.Finite)
    (arguments_finite : ∀ c ∈ arguments, c.Finite) :
    Finite ⟨object, .bound (.function target) receiver arguments⟩
  | boundObject (object target : ObjectRef) {receiver : Constant} {arguments : List Constant}
    (receiver_finite : receiver.Finite) (arguments_finite : ∀ c ∈ arguments, c.Finite) :
    Finite ⟨object, .bound (.object target) receiver arguments⟩

namespace FunctionObject

/-- A bound function nests more deeply than its target. -/
lemma depth_target (object : ObjectRef) (target : FunctionObject) (receiver : Constant)
    (arguments : List Constant) :
    target.toJson.depth <
      (toJson ⟨object, .bound (.function target) receiver arguments⟩).depth := by
  simp only [toJson, FunctionKind.toJson, BoundTarget.toJson, Json.depth, Json.depthMembers,
    Json.depthMember]
  omega

/-- A function object is read back at any level that is deep enough. -/
lemma Finite.decodeUpTo_toJson {f : FunctionObject} (h : f.Finite) {levels : Nat}
    (hdepth : f.toJson.depth < levels) : decodeUpTo levels f.toJson = some f := by
  induction h generalizing levels with
  | native object n isConstructor =>
    obtain _ | levels := levels
    · omega
    · simp [decodeUpTo, decoder, toJson, FunctionKind.decoder, FunctionKind.toJson, Decoder.bool]
  | interpreted object isConstructor =>
    obtain _ | levels := levels
    · omega
    · simp [decodeUpTo, decoder, toJson, FunctionKind.decoder, FunctionKind.toJson, Decoder.bool]
  | @boundFunction object target receiver arguments _ hreceiver harguments ih =>
    obtain _ | levels := levels
    · omega
    · have hdepth := depth_target object target receiver arguments
      have htarget : decodeUpTo levels target.toJson = some target := ih (by omega)
      have harguments' := list_ofList fun c hc => Constant.ofJson?_toJson (harguments c hc)
      simp [decodeUpTo, decoder, toJson, FunctionKind.decoder, FunctionKind.toJson,
        BoundTarget.decoder, BoundTarget.toJson, htarget, Constant.ofJson?_toJson hreceiver,
        harguments']
  | @boundObject object target receiver arguments hreceiver harguments =>
    obtain _ | levels := levels
    · omega
    · have harguments' := list_ofList fun c hc => Constant.ofJson?_toJson (harguments c hc)
      simp [decodeUpTo, decoder, toJson, FunctionKind.decoder, FunctionKind.toJson,
        BoundTarget.decoder, BoundTarget.toJson, Constant.ofJson?_toJson hreceiver, harguments']

/-- **A function object is read back** if its constants are finite. -/
theorem ofJson?_toJson {f : FunctionObject} (h : f.Finite) : ofJson? f.toJson = some f :=
  h.decodeUpTo_toJson (Nat.lt_succ_self _)

end FunctionObject

/-! ## Callees and templates -/

lemma DescriptorObject.ofJson?_toJson (d : DescriptorObject) : ofJson? d.toJson = some d := by
  have hsize : Decoder.option .uint32 (.ofOption (fun n => .int n.toNat) d.size) = some d.size :=
    option_ofOption fun n _ => ⟨nofun, Decoder.uint32_int n⟩
  simp [ofJson?, toJson, hsize]

namespace Callee

/-- All constants in the callee are finite. -/
def Finite : Callee → Prop
  | function f => f.Finite
  | descriptor _ => True

/-- **A callee is read back** if its constants are finite. -/
theorem ofJson?_toJson {c : Callee} (h : c.Finite) : ofJson? c.toJson = some c := by
  cases c with
  | function f => simp [ofJson?, toJson, FunctionObject.ofJson?_toJson h]
  | descriptor d => simp [ofJson?, toJson, DescriptorObject.ofJson?_toJson d]

end Callee

/-- What is known of the type object of the template is in normal form. -/
def Template.Normal (t : Template) : Prop := t.typeObject.Normal

/-- A template is read back if its type object is in normal form. -/
lemma Template.ofJson?_toJson {t : Template} (h : t.Normal) : ofJson? t.toJson = some t := by
  have hdescriptor : Decoder.option ObjectId.ofJson? (.ofOption ObjectId.toJson t.descriptor) =
      some t.descriptor :=
    option_ofOption fun o _ => ⟨nofun, ObjectId.ofJson?_toJson o⟩
  simp [ofJson?, toJson, TypeObject.ofJson?_toJson h, hdescriptor]

/-! ## What is read -/

lemma Decoder.gives_double : double.Gives (Double.isFinite · = true) := by
  intro j hj d hd
  cases hj with
  | int lower upper => exact Option.some.inj hd ▸ Double.isFinite_ofInt lower upper
  | double finite => exact Option.some.inj hd ▸ finite
  | _ => cases hd

/-- **Every constant that is read is finite.** -/
theorem Constant.gives_ofJson? : ofJson?.Gives Finite := by
  refine Decoder.gives_choice ?_
  simp only [List.forall_mem_cons]
  exact ⟨gives_bare trivial, gives_bare trivial, gives_of_forall fun _ => trivial,
    gives_of_forall fun _ => trivial, gives_data Decoder.gives_double fun _ h => h,
    gives_of_forall fun _ => trivial, gives_of_forall fun _ => trivial, nofun⟩

namespace FunctionObject

variable {inner : Decoder FunctionObject}

lemma gives_targetDecoder (h : inner.Gives Finite) :
    (BoundTarget.decoder inner).Gives fun t => ∀ object receiver arguments, receiver.Finite →
      (∀ c ∈ arguments, c.Finite) → Finite ⟨object, .bound t receiver arguments⟩ := by
  refine Decoder.gives_choice ?_
  simp only [List.forall_mem_cons]
  exact ⟨gives_data h fun _ hf object _ _ => .boundFunction object hf,
    gives_of_forall fun target object _ _ => .boundObject object target, nofun⟩

lemma gives_kindDecoder (h : inner.Gives Finite) :
    (FunctionKind.decoder inner).Gives fun k => ∀ object, Finite ⟨object, k⟩ := by
  refine Decoder.gives_choice ?_
  simp only [List.forall_mem_cons]
  refine ⟨gives_of_forall fun k object => .native object k.1 k.2,
    gives_of_forall fun k object => .interpreted object k, ?_, nofun⟩
  refine gives_data (Q := fun k => ∀ object, Finite ⟨object, .bound k.1 k.2.1 k.2.2⟩) ?_
    fun _ hk => hk
  refine Decoder.gives_record fun fs hfs k hk object => ?_
  simp only [Option.bind_eq_bind, Option.bind_eq_some_iff, Option.pure_def,
    Option.some.injEq] at hk
  obtain ⟨target, htarget, receiver, hreceiver, arguments, harguments, rfl⟩ := hk
  exact hfs.required (gives_targetDecoder h) htarget object receiver arguments
    (hfs.required Constant.gives_ofJson? hreceiver)
    (hfs.items Constant.gives_ofJson? harguments)

lemma gives_decoder (h : inner.Gives Finite) : (decoder inner).Gives Finite := by
  refine Decoder.gives_record fun fs hfs f hf => ?_
  simp only [Option.bind_eq_bind, Option.bind_eq_some_iff, Option.pure_def,
    Option.some.injEq] at hf
  obtain ⟨object, -, kind, hkind, rfl⟩ := hf
  exact hfs.required (gives_kindDecoder h) hkind object

lemma gives_decodeUpTo (levels : Nat) : (decodeUpTo levels).Gives Finite := by
  induction levels with
  | zero => nofun
  | succ levels ih => exact gives_decoder ih

/-- **Every function object that is read has finite constants.** -/
theorem gives_ofJson? : ofJson?.Gives Finite := fun j hj f hf =>
  gives_decodeUpTo (j.depth + 1) j hj f hf

end FunctionObject

lemma Callee.gives_ofJson? : ofJson?.Gives Finite := by
  refine Decoder.gives_choice ?_
  simp only [List.forall_mem_cons]
  exact ⟨gives_data FunctionObject.gives_ofJson? fun _ h => h, gives_of_forall fun _ => trivial,
    nofun⟩

lemma Template.gives_ofJson? : ofJson?.Gives Normal := by
  refine Decoder.gives_record fun fs hfs t ht => ?_
  simp only [Option.bind_eq_bind, Option.bind_eq_some_iff, Option.pure_def,
    Option.some.injEq] at ht
  obtain ⟨object, -, typeObject, hread, length, -, descriptor, -, rfl⟩ := ht
  have htypeObject : typeObject.Normal := hfs.required TypeObject.gives_ofJson? hread
  exact htypeObject

end CallSite
