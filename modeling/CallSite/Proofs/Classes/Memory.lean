import CallSite.Proofs.Classes.Arrays
import CallSite.Proofs.Orderly.Memory

/-!
# Typed memory and element stores work on what they presume

An atomic access measures the array, checks the index against that length, and then accesses the
same array, whose element type its operation names.  A call that stores groups of elements decides
for each group which of three stores there is; what it finds of the object of the group is what that
store presumes.

* `Sketch.WorksOnly` — lengths and accesses of typed arrays are all of one array.
* `TypedMemory.access_lawful` — an atomic access works on the array that it was decided for.
* `ElementStore.classify?_suits` — **the object of a group suits its store**.
-/

namespace CallSite

open Draft (Appends appends_pure appends_add writes_bind writes_add writes_push writes_resumeAfter
  writes_result writes_pushConstant writes_effectfulResult)
open Plan (lawful_of_writes)
open Sketch (Suited suited_of_quiet suited_of_head)

variable {s : Site} {before : List Sketch}

/-- **What is measured and what is accessed is one array.** -/
def Sketch.WorksOnly (array : Ref) (before : List Sketch) (x : Sketch) : Prop :=
  (x.op = .typedArrayLength → x.inputs = [array]) ∧
  (x.op.isTypedAccess = true → ∃ r, x.inputs.head? = some r ∧ r.StandsFor before array)

namespace TypedMemory

/-! ## Lengths and typed objects -/

lemma length_suited (isShared : Bool) (element : Scalar) (s : Site) :
    (TypedMemory.length isShared element s).Yields (Plan.Lawful (Suited s)) := by
  simp only [TypedMemory.length, Decide.yields_bind, Decide.yields_pure]
  intro _ hclassify _ hmatching
  have hreceiver := (Site.admits_of_classify hclassify).receiver_ty rfl
  obtain ⟨found, hfound, -⟩ := (Option.any_eq_true _ _).1 (Decide.require_eq_ok.1 hmatching)
  obtain ⟨t, ht, hclass⟩ := Option.bind_eq_some_iff.1 hfound
  refine lawful_of_writes rfl (writes_result ?_ trivial)
  refine suited_of_head rfl rfl s.receiver_mem_operands (.inl rfl) ⟨hreceiver, t, ht, found, ?_⟩
  cases isShared with
  | false => exact .inl (TypeSet.typedArray?_eq_some_iff.1 hclass)
  | true => exact .inr (TypeSet.sharedTypedArray?_eq_some_iff.1 hclass)

lemma setOffset_suited (s : Site) : (setOffset s).Yields (Plan.Lawful (Suited s)) := by
  simp only [setOffset, Decide.yields_bind, Decide.yields_pure]
  intro _ hclassify object hobject offset _ _ htyped
  have hty := (Site.admits_of_classify hclassify).arg_ty rfl hobject
  obtain ⟨t, ht, hverdict⟩ := (Option.any_eq_true _ _).1 (Decide.require_eq_ok.1 htyped)
  have hclass := TypeSet.forAllClasses_eq_allTrue_iff.1 (of_decide_eq_true hverdict)
  refine lawful_of_writes rfl ?_
  refine writes_bind (writes_add ?_ (writes_bind ?_))
  · exact suited_of_head rfl rfl (Site.mem_operands_of_mem_args (Site.mem_args_of_arg hobject))
      (.inl rfl) ⟨hty, t, ht, hclass⟩
  · exact writes_pushConstant (suited_of_quiet rfl) (writes_resumeAfter trivial)

/-! ## Atomics -/

/-- The law of an atomic access. -/
def AccessLaw (s : Site) (array : Operand) (before : List Sketch) (x : Sketch) : Prop :=
  x.Suited s before ∧ x.WorksOnly array.ref before

/-- A node that neither measures nor accesses. -/
lemma accessLaw_of_quiet {array : Operand} {x : Sketch} (h : x.op.presumedInputs = 0) :
    AccessLaw s array before x := by
  refine ⟨suited_of_quiet h, fun hop => ?_, fun hop => ?_⟩
  · rw [hop] at h
    cases h
  · rw [Op.presumedInputs_of_isTypedAccess hop] at h
    cases h

/-- **The array of an atomic access** is a shared array of the element type. -/
theorem objectsAre_of_atomicTarget {array : Operand} {element : Scalar}
    (h : atomicTarget s array = .ok element) :
    ∃ t, array.types = some t ∧ t.ObjectsAre (· = .sharedTypedArray element) := by
  rw [atomicTarget] at h
  obtain ⟨found, hfound, hresult⟩ := Decide.bind_eq_ok.1 h
  split_ifs at hresult
  · cases hresult
  · obtain rfl := Except.ok.inj hresult
    obtain ⟨t, ht, hclass⟩ := Option.bind_eq_some_iff.1 (Decide.need_eq_ok.1 hfound)
    exact ⟨t, ht, TypeSet.sharedTypedArray?_eq_some_iff.1 hclass⟩

section Access

variable {array : Operand} {element : Scalar}

lemma truncated_appends (value : Operand) :
    (truncated value).Appends (AccessLaw s array) before := by
  rw [truncated]
  split_ifs
  · exact appends_add (accessLaw_of_quiet rfl)
  · exact appends_pure value

variable (harray : array ∈ s.call.operands) (hty : array.ty = .object)
  (htarget : atomicTarget s array = .ok element)

include harray hty htarget

/-- Length, bounds check and elements are of the array. -/
lemma writes_checkedAccess {index : Operand} {holds : Operand × Operand → List Sketch → Prop}
    (h : ∀ elements checked after, elements.ref.StandsFor after array.ref →
      holds (elements, checked) after) :
    (checkedAccess array index).Writes (AccessLaw s array) before holds := by
  obtain ⟨t, ht, hclass⟩ := objectsAre_of_atomicTarget htarget
  have hlength : AccessLaw s array before ⟨.typedArrayLength, [array.ref], .int32, none⟩ :=
    ⟨suited_of_head rfl rfl harray (.inl rfl) ⟨hty, t, ht, element, .inr hclass⟩,
      fun _ => rfl, nofun⟩
  refine writes_bind (writes_add hlength ?_)
  refine Appends.then (appends_add (accessLaw_of_quiet rfl)) fun checked after _ => ?_
  refine writes_bind (writes_add ⟨?_, nofun, nofun⟩ (Draft.writes_pure (h _ _ _ ?_)))
  · exact suited_of_head rfl rfl harray (.inl rfl) ⟨hty, t, ht, element, .inr hclass⟩
  · exact Ref.standsFor_view rfl rfl

/-- **An access through the elements of the array.** -/
theorem access_lawful {op : Op} {elements : Ref} {rest : List Ref} {ty : ValueType}
    {types : Option TypeSet} (haccess : op.isTypedAccess = true)
    (hpresumes : ∀ t : TypeSet, t.ObjectsAre (· = .sharedTypedArray element) → op.Presumes t)
    (helements : elements.StandsFor before array.ref) :
    AccessLaw s array before ⟨op, elements :: rest, ty, types⟩ := by
  obtain ⟨t, ht, hclass⟩ := objectsAre_of_atomicTarget htarget
  have hinputs := Op.presumedInputs_of_isTypedAccess haccess
  refine ⟨suited_of_head hinputs rfl harray helements ⟨hty, t, ht, hpresumes t hclass⟩, ?_, ?_⟩
  · rintro rfl
    cases haccess
  · exact fun _ => ⟨elements, rfl, helements⟩

end Access

/-- **The plan accesses one array**, an operand of the call. -/
def AccessesOne (s : Site) (p : Plan) : Prop :=
  ∃ array ∈ s.call.operands, p.Lawful (AccessLaw s array)

lemma compareExchange_lawful (s : Site) : (compareExchange s).Yields (AccessesOne s) := by
  simp only [compareExchange, Decide.yields_bind, Decide.yields_pure]
  intro _ hclassify array harg element htarget index _ old _ new _
  have hty := (Site.admits_of_classify hclassify).arg_ty rfl harg
  have harray := Site.mem_operands_of_mem_args (Site.mem_args_of_arg harg)
  refine ⟨array, harray, lawful_of_writes rfl ?_⟩
  refine writes_bind <| writes_checkedAccess harray hty htarget fun elements checked _ helements => ?_
  refine (truncated_appends old).then fun _ _ hafter => ?_
  refine (truncated_appends new).then fun _ _ hafter' => writes_effectfulResult ?_ trivial
  exact access_lawful harray hty htarget rfl (fun _ h => h) ((helements.mono hafter).mono hafter')

lemma load_lawful (s : Site) : (TypedMemory.load s).Yields (AccessesOne s) := by
  simp only [TypedMemory.load, Decide.yields_bind, Decide.yields_pure]
  intro _ hclassify array harg element htarget index _
  have hty := (Site.admits_of_classify hclassify).arg_ty rfl harg
  have harray := Site.mem_operands_of_mem_args (Site.mem_args_of_arg harg)
  refine ⟨array, harray, lawful_of_writes rfl ?_⟩
  refine writes_bind <| writes_checkedAccess harray hty htarget fun elements checked _ helements => ?_
  exact writes_effectfulResult
    (access_lawful harray hty htarget rfl (fun _ h => h) helements) trivial

lemma store_lawful (s : Site) : (TypedMemory.store s).Yields (AccessesOne s) := by
  simp only [TypedMemory.store, Decide.yields_bind, Decide.yields_pure]
  intro _ hclassify array harg element htarget index _ value _
  have hty := (Site.admits_of_classify hclassify).arg_ty rfl harg
  have harray := Site.mem_operands_of_mem_args (Site.mem_args_of_arg harg)
  refine ⟨array, harray, lawful_of_writes rfl ?_⟩
  refine writes_bind <| writes_checkedAccess harray hty htarget fun elements checked _ helements => ?_
  refine (truncated_appends value).then fun _ _ hafter => ?_
  refine writes_bind (writes_add ?_ (writes_bind (writes_push (writes_resumeAfter trivial))))
  exact access_lawful harray hty htarget rfl (fun _ h => h) (helements.mono hafter)

lemma update_lawful (operator : AtomicOperator) (s : Site) :
    (TypedMemory.update operator s).Yields (AccessesOne s) := by
  simp only [TypedMemory.update, Decide.yields_bind, Decide.yields_pure]
  intro _ hclassify array harg element htarget index _ value _
  have hty := (Site.admits_of_classify hclassify).arg_ty rfl harg
  have harray := Site.mem_operands_of_mem_args (Site.mem_args_of_arg harg)
  refine ⟨array, harray, lawful_of_writes rfl ?_⟩
  refine writes_bind <| writes_checkedAccess harray hty htarget fun elements checked _ helements => ?_
  refine (truncated_appends value).then fun _ _ hafter => writes_effectfulResult ?_ trivial
  exact access_lawful harray hty htarget rfl (fun _ h => h) (helements.mono hafter)

end TypedMemory

/-! ## Element stores -/

namespace ElementStore

/-- The operand suits the store of an element. -/
def Suits (write : ElementWrite) (object : Operand) : Prop :=
  match write with
  | .dense _ => object.toFacts.Suits (.storeElement false)
  | .typedArray element => object.toFacts.Suits (.storeTypedElement element .unordered)
  | .typedObject _ => True

/-- **The object of a group suits its store.** -/
theorem classify?_suits {g : Group} {a : Answer ElementWrite} (h : classify? g = some a) :
    Suits a.value g.object := by
  rw [classify?] at h
  split_ifs at h with hshape
  have hty : g.object.ty = .object := by
    by_contra hne
    exact hshape (by simp [hne])
  obtain ⟨t, ht, h⟩ := Option.bind_eq_some_iff.1 h
  obtain ⟨c, hclass, h⟩ := Option.bind_eq_some_iff.1 h
  have hobjects := TypeSet.knownClass?_eq_some_iff.1 hclass
  cases hdense : dense? t c g.value with
  | some write =>
    rw [hdense] at h
    obtain rfl := Option.some.inj h
    rw [dense?] at hdense
    dsimp only at hdense
    split_ifs at hdense with hnative
    obtain rfl := Option.some.inj hdense
    exact ⟨hty, t, ht, c, (Bool.and_eq_true_iff.1 hnative).1, hobjects⟩
  | none =>
    rw [hdense] at h
    obtain ⟨write, hwrite, rfl⟩ := Option.map_eq_some_iff.1 h
    rw [typed?] at hwrite
    split at hwrite
    · next element helement =>
      obtain rfl := Option.some.inj hwrite
      refine ⟨hty, t, ht, ?_⟩
      cases hunshared : t.typedArray? with
      | some found =>
        rw [hunshared] at helement
        obtain rfl := Option.some.inj helement
        exact .inl (TypeSet.typedArray?_eq_some_iff.1 hunshared)
      | none =>
        rw [hunshared] at helement
        exact .inr (TypeSet.sharedTypedArray?_eq_some_iff.1 helement)
    · obtain ⟨element, -, rfl⟩ := Option.map_eq_some_iff.1 hwrite
      trivial

/-- **All groups suit their stores.** -/
theorem classifyAll_suits (gs : List Group) :
    (classifyAll gs).Yields fun r => ∀ w ∈ r.1, Suits w.1 w.2.object := by
  induction gs with
  | nil => exact Decide.yields_ok.2 (List.forall_mem_nil _)
  | cons g gs ih =>
    simp only [classifyAll, Decide.yields_bind, Decide.yields_pure]
    intro write hwrite r hr
    have hclassify := Decide.need_eq_ok.1 hwrite
    exact List.forall_mem_cons.2 ⟨classify?_suits hclassify, ih r hr⟩

lemma int32Index_appends (index : Operand) :
    (int32Index index).Appends (Suited s) before := by
  rw [int32Index]
  split_ifs
  · exact appends_pure index
  · exact appends_add (suited_of_quiet rfl)

lemma scalarValue_appends (element : Scalar) (value : Operand) :
    (scalarValue element value).Appends (Suited s) before := by
  rw [scalarValue]
  split_ifs
  · exact appends_add (suited_of_quiet rfl)
  · exact appends_add (suited_of_quiet rfl)
  · exact appends_pure value

/-- **A store works on the object of its group**, through its elements. -/
theorem storeNode_appends {object index value : Operand} {write : ElementWrite}
    (hobject : object ∈ s.call.operands) (hsuits : Suits write object) :
    (storeNode object index value write).Appends (Suited s) before := by
  cases write with
  | dense conversion =>
    have hstored := @ArrayUpdate.stored_appends before (Suited s)
      (fun _ _ _ _ => suited_of_quiet rfl) conversion value
    refine hstored.then fun stored mid hmid => ?_
    refine writes_bind (writes_add (suited_of_quiet rfl) ?_)
    refine (ArrayUpdate.postBarrier_appends (fun _ _ _ _ => suited_of_quiet rfl) object stored).then
      fun _ after hafter => ?_
    refine writes_add (suited_of_head rfl rfl hobject ?_ hsuits) ?_
    · exact (Ref.standsFor_view rfl rfl).mono hafter
    · exact hmid.trans ((List.prefix_append _ _).trans (hafter.trans (List.prefix_append _ _)))
  | typedArray element =>
    obtain ⟨hty, t, ht, hclass⟩ := hsuits
    refine (scalarValue_appends element value).then fun stored mid hmid => ?_
    refine writes_bind (writes_add ?_ (writes_add ?_ ?_))
    · exact suited_of_head rfl rfl hobject (.inl rfl) ⟨hty, t, ht, element, hclass⟩
    · exact suited_of_head rfl rfl hobject (Ref.standsFor_view rfl rfl) ⟨hty, t, ht, hclass⟩
    · exact hmid.trans ((List.prefix_append _ _).trans (List.prefix_append _ _))
  | typedObject element =>
    refine (scalarValue_appends element value).then fun stored mid hmid => ?_
    exact writes_add (suited_of_quiet rfl) (hmid.trans (List.prefix_append _ _))

/-- **All stores are suited**, by induction over the groups. -/
theorem storeAll_writes {writes : List (ElementWrite × Group)}
    (h : ∀ w ∈ writes, w.2.object ∈ s.call.operands ∧ Suits w.1 w.2.object) :
    (storeAll writes).Writes (Suited s) before fun _ _ => True := by
  induction writes generalizing before with
  | nil => exact Draft.writes_pure (a := ()) trivial
  | cons w writes ih =>
    obtain ⟨write, g⟩ := w
    obtain ⟨⟨hobject, hsuits⟩, hrest⟩ := List.forall_mem_cons.1 h
    refine writes_bind ((int32Index_appends g.index).then fun index _ _ => ?_)
    refine (storeNode_appends hobject hsuits).then fun store _ _ => ?_
    exact writes_resumeAfter (ih hrest)

lemma putElements_suited (s : Site) : (putElements s).Yields (Plan.Lawful (Suited s)) := by
  simp only [putElements, Decide.yields_bind, Decide.yields_pure]
  intro _ _ r hr
  refine lawful_of_writes rfl (writes_bind (writes_pushConstant (suited_of_quiet rfl) ?_))
  refine storeAll_writes fun w hw => ⟨?_, classifyAll_suits (groups s.args) r hr w hw⟩
  exact Site.mem_operands_of_mem_args (mem_args_of_classifyAll hr hw).1

end ElementStore

end CallSite
