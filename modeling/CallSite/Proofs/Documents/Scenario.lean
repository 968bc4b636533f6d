import CallSite.Document.Scenario
import CallSite.Proofs.Documents.Reading
import CallSite.Proofs.Documents.Settings

/-!
# Scenarios are read back from their documents

What an operand is given by is told apart by the members that are written, and a document that is
looked at twice has to be readable, as every written one is.

* `Scenario.Describable` — **type sets are in normal form, young objects ascend and doubles are
  finite**, as in every scenario that was read.
* `Scenario.IsWritten` — the documents that describe a scenario, one for each order of its young
  objects.
* `Scenario.gives_ofJson?` — a scenario that was read is describable.
* `Scenario.roundTrip` — **a describable scenario is read back from its documents**, and so is one
  that was read from a text.
-/

namespace CallSite

open Decoder (option_ofOption list_ofList)

/-! ## Readable documents -/

namespace Json

@[simp] lemma isReadable_array (items : List Json) :
    (array items).isReadable = items.all isReadable := by
  rw [isReadable]
  induction items with
  | nil => rfl
  | cons j js ih => rw [isReadableItems, ih, List.all_cons]

@[simp] lemma isReadable_object (members : List (String × Json)) :
    (object members).isReadable = members.all fun m => m.2.isReadable := by
  rw [isReadable]
  induction members with
  | nil => rfl
  | cons m ms ih =>
    obtain ⟨key, j⟩ := m
    rw [isReadableMembers, ih, List.all_cons, isReadableMember]

@[simp] lemma isReadable_null : null.isReadable = true := rfl

@[simp] lemma isReadable_bool (b : Bool) : (bool b).isReadable = true := rfl

@[simp] lemma isReadable_int (n : Int) : (int n).isReadable = true := rfl

@[simp] lemma isReadable_double (d : Double) : (double d).isReadable = true := rfl

@[simp] lemma isReadable_string (s : String) : (string s).isReadable = true := rfl

lemma isReadable_ofOption {α : Type} {write : α → Json} {o : Option α}
    (h : ∀ a ∈ o, (write a).isReadable = true) : (ofOption write o).isReadable = true := by
  cases o with
  | none => rfl
  | some a => exact h a rfl

end Json

@[simp] lemma ObjectClass.isReadable_toJson (c : ObjectClass) : c.toJson.isReadable = true := by
  cases c <;> rfl

lemma TypedLayout.isReadable_toJson (l : TypedLayout) : l.toJson.isReadable = true := by
  induction l with
  | sizedArray element length ih => simp [toJson, ih]
  | unsizedArray element ih => simp [toJson, ih]
  | _ => rfl

lemma TypeSet.Normal.isReadable_toJson {s : TypeSet} (h : s.Normal) :
    s.toJson.isReadable = true := by
  induction h with
  | @intro s _ _ _ ih =>
    have hobjects : ∀ o ∈ s.objects, o.toJson.isReadable = true := by
      intro o ho
      have helements := Json.isReadable_ofOption (ih o ho)
      have hlayout := Json.isReadable_ofOption fun l (_ : l ∈ o.layout) => l.isReadable_toJson
      rw [TypeObject.toJson_eq]
      simp [ObjectFlags.toJson, Heap.toJson, helements, hlayout]
    rw [toJson_eq]
    simpa [Primitives.toJson, Json.ofList] using hobjects

lemma Constant.isReadable_toJson (c : Constant) : c.toJson.isReadable = true := by
  cases c with
  | double d =>
    rw [toJson, Double.toJson]
    split <;> simp
  | object o =>
    have htype := Json.isReadable_ofOption fun t (_ : t ∈ o.typeObject) =>
      Json.isReadable_int t.index.toNat
    simp [toJson, ObjectRef.toJson, ObjectId.toJson, htype]
  | _ => simp [toJson]

/-! ## Operands -/

namespace Given

/-- What is given of the operand is finite or in normal form. -/
def Describable : Given → Prop
  | constant c => c.Finite
  | typed _ types => ∀ t ∈ types, t.Normal

lemma toJson_ne_null (g : Given) : g.toJson ≠ .null := by cases g <;> nofun

lemma isReadable_toJson {g : Given} (h : g.Describable) : g.toJson.isReadable = true := by
  cases g with
  | constant c => simp [toJson, c.isReadable_toJson]
  | typed ty types =>
    have htypes := Json.isReadable_ofOption fun t ht => (h t ht).isReadable_toJson
    simp [toJson, ValueType.toJson, htypes]

/-- **What is given of an operand is read back**, and not taken for the other form. -/
theorem ofJson?_toJson {g : Given} (h : g.Describable) : ofJson? g.toJson = some g := by
  rw [ofJson?, isReadable_toJson h, if_pos rfl, Decoder.orElse]
  cases g with
  | constant c => simp [ofConstant?, toJson, Json.members?_object, Constant.ofJson?_toJson h]
  | typed ty types =>
    have htypes := option_ofOption fun t ht => ⟨t.toJson_ne_null, TypeSet.ofJson?_toJson (h t ht)⟩
    have hother : ofConstant? (typed ty types).toJson = none := by
      simp [ofConstant?, toJson, Json.members?, Fields.required]
    rw [hother, Option.none_or]
    simp [ofTypes?, toJson, Json.members?_object, htypes]

/-- Whatever is read of an operand can be written. -/
lemma gives_ofJson? : ofJson?.Gives Describable := by
  intro j hj g hg
  rw [ofJson?] at hg
  split at hg
  · rcases Option.or_eq_some_iff.1 hg with hg | ⟨-, hg⟩
    · simp only [ofConstant?, Option.bind_eq_bind, Option.bind_eq_some_iff, Option.pure_def,
        Option.some.injEq] at hg
      obtain ⟨fs, hfs, c, hc, rfl⟩ := hg
      have hfinite : c.Finite := (hj.members? hfs).required Constant.gives_ofJson? hc
      exact hfinite
    · simp only [ofTypes?, Option.bind_eq_bind, Option.bind_eq_some_iff, Option.pure_def,
        Option.some.injEq] at hg
      obtain ⟨fs, hfs, ty, -, types, htypes, rfl⟩ := hg
      exact (hj.members? hfs).optional TypeSet.gives_ofJson? htypes
  · cases hg

end Given

/-! ## Scenarios -/

namespace Scenario

/-- **The scenario can be described by a document**: its constants are finite, and its type sets and
tables are in normal form.  Only the first is a restriction, since sets that are grown from the empty
one are in normal form. -/
structure Describable (s : Scenario) : Prop where
  callee : s.callee.Finite
  receiver : ∀ g ∈ s.receiver, g.Describable
  args : ∀ g ∈ s.args, g.Describable
  resultTypes : ∀ t ∈ s.resultTypes, t.Normal
  env : s.env.Normal

/-- **The document describes the scenario**, its young objects in some order. -/
def IsWritten (s : Scenario) (j : Json) : Prop :=
  ∃ young : List ObjectId, (∀ id, id ∈ young ↔ id ∈ s.env.shortLived) ∧
    j = ({ s with env := { s.env with shortLived := young } } : Scenario).toJson

lemma isWritten_toJson (s : Scenario) : s.IsWritten s.toJson :=
  ⟨s.env.shortLived, fun _ => Iff.rfl, rfl⟩

lemma Describable.ofJson?_eq {s : Scenario} (h : s.Describable) {j : Json} (hj : s.IsWritten j) :
    ofJson? j = some s := by
  obtain ⟨young, hyoung, rfl⟩ := hj
  have hname : Decoder.option .string (.ofOption .string s.name) = some s.name :=
    option_ofOption fun _ _ => ⟨nofun, rfl⟩
  have hcallee := Callee.ofJson?_toJson h.callee
  have hreceiver := option_ofOption fun g hg =>
    ⟨g.toJson_ne_null, Given.ofJson?_toJson (h.receiver g hg)⟩
  have hargs := list_ofList fun g hg => Given.ofJson?_toJson (h.args g hg)
  have hresult := option_ofOption fun t ht =>
    ⟨t.toJson_ne_null, TypeSet.ofJson?_toJson (h.resultTypes t ht)⟩
  have henv := Environment.ofJson?_toJson h.env hyoung
  have hframe : Decoder.option Frame.ofJson? (.ofOption Frame.toJson s.frame) = some s.frame :=
    option_ofOption fun f _ => ⟨nofun, f.ofJson?_toJson⟩
  refine (Decoder.record_object ?_ ?_).trans ?_
  · rfl
  · decide
  · simp [Decoder.bool, hname, hcallee, hreceiver, hargs, hresult, henv, hframe]

/-- **Every scenario that is read can be described.** -/
theorem gives_ofJson? : ofJson?.Gives Describable := by
  refine Decoder.gives_record fun fs hfs s hs => ?_
  -- the fields in the order in which they are read, one at a time: simp would visit the rest of
  -- them anew at each
  obtain ⟨name, -, hs⟩ := Option.bind_eq_some_iff.1 hs
  obtain ⟨site, -, hs⟩ := Option.bind_eq_some_iff.1 hs
  obtain ⟨callee, hcallee, hs⟩ := Option.bind_eq_some_iff.1 hs
  obtain ⟨receiver, hreceiver, hs⟩ := Option.bind_eq_some_iff.1 hs
  obtain ⟨args, hargs, hs⟩ := Option.bind_eq_some_iff.1 hs
  obtain ⟨constructing, -, hs⟩ := Option.bind_eq_some_iff.1 hs
  obtain ⟨kind, -, hs⟩ := Option.bind_eq_some_iff.1 hs
  obtain ⟨resultTypes, hresult, hs⟩ := Option.bind_eq_some_iff.1 hs
  obtain ⟨resultUse, -, hs⟩ := Option.bind_eq_some_iff.1 hs
  obtain ⟨env, henv, hs⟩ := Option.bind_eq_some_iff.1 hs
  obtain ⟨config, -, hs⟩ := Option.bind_eq_some_iff.1 hs
  obtain ⟨frame, -, hs⟩ := Option.bind_eq_some_iff.1 hs
  obtain rfl := Option.some.inj hs
  have hcallee : callee.Finite := hfs.required Callee.gives_ofJson? hcallee
  have henv : env.Normal :=
    hfs.withDefault Environment.gives_ofJson? Environment.normal_empty henv
  exact ⟨hcallee, hfs.optional Given.gives_ofJson? hreceiver, hfs.items Given.gives_ofJson? hargs,
    hfs.optional TypeSet.gives_ofJson? hresult, henv⟩

/-- **A scenario is read back from its documents**: every one that can be described, and every one
that a text was accepted for. -/
theorem roundTrip :
    (∀ (s : Scenario) (j : Json), s.Describable → s.IsWritten j → ofJson? j = some s) ∧
    ∀ (text : String) (s : Scenario) (j : Json), ofJson?.read text = some s → s.IsWritten j →
      ofJson? j = some s := by
  refine ⟨fun s j h hj => h.ofJson?_eq hj, fun text s j hread hj => ?_⟩
  obtain ⟨document, hdocument, hs⟩ := Option.bind_eq_some_iff.1 hread
  exact (gives_ofJson? document (Json.isReal_of_parse? hdocument) s hs).ofJson?_eq hj

/-- Two young objects, and doubles as the result of a bound function. -/
def described : Scenario where
  callee := .function (.ofBound ⟨1⟩ (.object { id := ⟨2⟩, objectClass := .proxy }) .null [])
  resultTypes := some (.ofType .double)
  env := { shortLived := [⟨3⟩, ⟨7⟩] }

/-- A text for it, in which the young objects are in no order and the types lack int32. -/
def describingText : String :=
  "\x7b\"callee\": \x7b\"function\": \x7b\"object\": [1, \"function\"],
    \"kind\": \x7b\"bound\": [\x7b\"object\": [2, \"proxy\"]\x7d, \"null\"]\x7d\x7d\x7d,
    \"result_types\": [\"DOUBLE\"], \"env\": [[7, 3, 7]]\x7d"

/-- The scenario is read back although its young objects are written the other way round, and it is
what the text is read as. -/
theorem roundTrip_described :
    ofJson? { described with env := { shortLived := [⟨7⟩, ⟨3⟩] } }.toJson = some described ∧
    ofJson?.read describingText = some described ∧
    ofJson? described.toJson = some described := by
  have hcallee : described.callee.Finite := .boundObject _ _ trivial (by simp)
  have hresult : ∀ t ∈ described.resultTypes, t.Normal := by
    rintro t ⟨⟩
    exact TypeSet.normal_ofType .double
  have henv : described.env.Normal :=
    ⟨by simp [described, Environment.Ascending], by simp [described], by simp [described]⟩
  have hdescribable : described.Describable :=
    ⟨hcallee, by simp [described], by simp [described], hresult, henv⟩
  have hread : ofJson?.read describingText = some described := by decide +kernel
  have hyoung : ∀ id : ObjectId, id ∈ [⟨7⟩, ⟨3⟩] ↔ id ∈ described.env.shortLived := by
    simp [described, or_comm]
  exact ⟨roundTrip.1 described _ hdescribable ⟨_, hyoung, rfl⟩, hread,
    roundTrip.2 describingText described _ hread described.isWritten_toJson⟩

end Scenario

end CallSite
