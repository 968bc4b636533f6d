import CallSite.Document.Settings
import CallSite.Proofs.Documents.Values
import Mathlib.Data.List.Sort

/-!
# Settings and surroundings are read back from their documents

The table of young objects is a set: it may be written in any order, and reading puts it in order.

* `Config.ofJson?_toJson`, `Frame.ofJson?_toJson` — settings are read back.
* `Environment.Normal` — **the tables are in order**: young objects ascend, and what is known of
  the templates is in normal form.
* `Environment.ofJson?_toJson` — such tables are read back, in whatever order the young objects are
  written.
-/

namespace CallSite

open Decoder (word_string option_ofOption list_ofList)

/-! ## Words -/

@[simp] lemma CallKind.ofJson?_toJson (k : CallKind) : ofJson? k.toJson = some k :=
  word_string (by decide) (by cases k <;> decide)

@[simp] lemma ResultUse.ofJson?_toJson (u : ResultUse) : ofJson? u.toJson = some u :=
  word_string (by decide) (by cases u <;> decide)

@[simp] lemma ExecutionMode.ofJson?_toJson (m : ExecutionMode) : ofJson? m.toJson = some m :=
  word_string (by decide) (by cases m <;> decide)

@[simp] lemma SiteId.ofJson?_toJson (s : SiteId) : ofJson? s.toJson = some s := by
  simp [ofJson?, toJson, Decoder.map]

/-! ## Settings -/

@[simp] lemma Config.ofJson?_toJson (c : Config) : ofJson? c.toJson = some c := by
  simp [ofJson?, toJson, Decoder.bool]

lemma Frame.ofJson?_toJson (f : Frame) : ofJson? f.toJson = some f := by
  simp [ofJson?, toJson, Decoder.bool]

/-! ## Young objects -/

namespace Environment

variable {id x : ObjectId} {young : List ObjectId}

/-- The objects come in ascending order, so none comes twice. -/
def Ascending (ids : List ObjectId) : Prop := ids.Pairwise fun a b => a.index < b.index

lemma mem_insertShortLived : x ∈ insertShortLived id young ↔ x = id ∨ x ∈ young := by
  induction young with
  | nil => exact List.mem_cons
  | cons y ys ih =>
    rw [insertShortLived]
    split_ifs with hlt heq
    · exact List.mem_cons
    · rw [heq, List.mem_cons]
      tauto
    · rw [List.mem_cons, ih, List.mem_cons]
      tauto

lemma Ascending.insertShortLived (h : Ascending young) :
    Ascending (Environment.insertShortLived id young) := by
  induction young with
  | nil => exact List.pairwise_singleton ..
  | cons y ys ih =>
    obtain ⟨hy, hys⟩ := List.pairwise_cons.1 h
    rw [Environment.insertShortLived]
    split_ifs with hlt heq
    · refine List.pairwise_cons.2 ⟨fun z hz => ?_, h⟩
      rcases List.mem_cons.1 hz with rfl | hz
      · exact hlt
      · exact UInt64.lt_trans hlt (hy z hz)
    · exact h
    · refine List.pairwise_cons.2 ⟨fun z hz => ?_, ih hys⟩
      rcases mem_insertShortLived.1 hz with rfl | hz
      · refine UInt64.lt_of_le_of_ne (UInt64.not_lt.1 hlt) fun hindex => heq ?_
        exact congrArg ObjectId.mk hindex.symm
      · exact hy z hz

lemma mem_foldr_insertShortLived :
    x ∈ young.foldr insertShortLived [] ↔ x ∈ young := by
  induction young with
  | nil => rfl
  | cons y ys ih => rw [List.foldr_cons, mem_insertShortLived, ih, List.mem_cons]

lemma ascending_foldr_insertShortLived (young : List ObjectId) :
    Ascending (young.foldr insertShortLived []) := by
  induction young with
  | nil => exact .nil
  | cons y ys ih => exact ih.insertShortLived

/-- **A set of objects has one ascending table**, in whatever order it is given. -/
theorem Ascending.foldr_insertShortLived_eq {ids : List ObjectId} (h : Ascending ids)
    (hyoung : ∀ x, x ∈ young ↔ x ∈ ids) : young.foldr Environment.insertShortLived [] = ids := by
  have hirrefl : Std.Irrefl fun a b : ObjectId => a.index < b.index :=
    ⟨fun a => UInt64.lt_irrefl a.index⟩
  have hantisymm : Std.Antisymm fun a b : ObjectId => a.index < b.index :=
    ⟨fun _ _ hab hba => absurd hba (UInt64.lt_asymm hab)⟩
  refine List.Pairwise.eq_of_mem_iff (ascending_foldr_insertShortLived young) h fun x => ?_
  rw [mem_foldr_insertShortLived, hyoung]

/-! ## The engine's tables -/

/-- **The tables are in order**: young objects ascend, and the type objects of the templates are in
normal form. -/
structure Normal (env : Environment) : Prop where
  shortLived : Ascending env.shortLived
  templates : ∀ t ∈ env.templates, t.template.Normal
  classTemplates : ∀ t ∈ env.classTemplates, t.template.Normal

lemma normal_empty : Normal {} := ⟨.nil, by simp, by simp⟩

end Environment

lemma SiteTemplate.ofJson?_toJson {t : SiteTemplate} (h : t.template.Normal) :
    ofJson? t.toJson = some t := by
  simp [ofJson?, toJson, Template.ofJson?_toJson h]

lemma ClassTemplate.ofJson?_toJson {t : ClassTemplate} (h : t.template.Normal) :
    ofJson? t.toJson = some t := by
  simp [ofJson?, toJson, Template.ofJson?_toJson h]

/-- **Tables in order are read back**, in whatever order the young objects are written. -/
theorem Environment.ofJson?_toJson {env : Environment} (h : env.Normal) {young : List ObjectId}
    (hyoung : ∀ id, id ∈ young ↔ id ∈ env.shortLived) :
    ofJson? { env with shortLived := young }.toJson = some env := by
  have hids : Decoder.list ObjectId.ofJson? (.ofList ObjectId.toJson young) = some young :=
    list_ofList fun id _ => id.ofJson?_toJson
  have htemplates := list_ofList fun t ht => SiteTemplate.ofJson?_toJson (h.templates t ht)
  have hclasses := list_ofList fun t ht => ClassTemplate.ofJson?_toJson (h.classTemplates t ht)
  simp [ofJson?, toJson, Decoder.bool, hids, htemplates, hclasses,
    h.shortLived.foldr_insertShortLived_eq hyoung]

/-! ## What is read -/

lemma SiteTemplate.gives_ofJson? : ofJson?.Gives fun t => t.template.Normal := by
  refine Decoder.gives_record fun fs hfs t ht => ?_
  simp only [Option.bind_eq_bind, Option.bind_eq_some_iff, Option.pure_def,
    Option.some.injEq] at ht
  obtain ⟨site, -, native, -, template, htemplate, rfl⟩ := ht
  exact hfs.required Template.gives_ofJson? htemplate

lemma ClassTemplate.gives_ofJson? : ofJson?.Gives fun t => t.template.Normal := by
  refine Decoder.gives_record fun fs hfs t ht => ?_
  simp only [Option.bind_eq_bind, Option.bind_eq_some_iff, Option.pure_def,
    Option.some.injEq] at ht
  obtain ⟨site, -, objectClass, -, template, htemplate, rfl⟩ := ht
  exact hfs.required Template.gives_ofJson? htemplate

/-- **Tables that are read are in order.** -/
theorem Environment.gives_ofJson? : ofJson?.Gives Normal := by
  refine Decoder.gives_record fun fs hfs env henv => ?_
  simp only [Option.bind_eq_bind, Option.bind_eq_some_iff, Option.pure_def,
    Option.some.injEq] at henv
  obtain ⟨young, -, templates, htemplates, classTemplates, hclasses, indexed, -, fails, -, rfl⟩ :=
    henv
  exact ⟨ascending_foldr_insertShortLived young, hfs.items SiteTemplate.gives_ofJson? htemplates,
    hfs.items ClassTemplate.gives_ofJson? hclasses⟩

end CallSite
