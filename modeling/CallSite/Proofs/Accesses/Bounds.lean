import CallSite.Proofs.Known

/-!
# Accesses at an index

Code units of strings and elements of shared arrays are accessed at an index that was checked
against the length of what is accessed.  Where typed memory is written, the index is an int32, and
so is every value that goes into an integer element.  The nodes that see to that are added by
several helpers, for operands of several types.

* `Op.isCheckedAccess`, `Op.Guarded` — accesses behind a check, and what such an access looks like.
* `Op.written?` — the element type of the typed memory that an operation writes.
* `Sketch.WritesTyped`, `Sketch.Accesses` — **the law**.
* `Inliner.Origin.accesses` — **every plan keeps to it**.
* `Inliner.attempt_accessesSafely` — **so does every call that is specialized**.
-/

namespace CallSite

open Draft (Appends appends_pure appends_add writes_pure writes_bind writes_add writes_add_known
  writes_push writes_resumeAfter writes_result writes_pushConstant writes_effectfulResult)
open Plan (lawful_of_writes)

/-! ## Accesses -/

namespace Op

/-- The operation accesses one code unit or element, where an index outside would be fatal. -/
def isCheckedAccess : Op → Bool
  | .charCodeAt | .loadTypedElement .. | .storeTypedElement _ .seqCst
  | .compareExchangeTypedElement _ | .atomicTypedElement .. => true
  | _ => false

/-- **The access is behind a check**: its index was checked against the length of the very string or
array that it reads. -/
inductive Guarded {ν : Type} (op : Op) (inputs : List ν) (isNode : ν → Op → List ν → Prop) :
    Prop where
  | string {string checked index length : ν} (hop : op = .charCodeAt)
      (hinputs : inputs = [string, checked])
      (hchecked : isNode checked .boundsCheck [index, length])
      (hlength : isNode length .stringLength [string])
  | element {array elements checked index length : ν} {values : List ν}
      (hop : op.isTypedAccess = true) (hinputs : inputs = elements :: checked :: values)
      (helements : isNode elements .typedArrayElements [array])
      (hchecked : isNode checked .boundsCheck [index, length])
      (hlength : isNode length .typedArrayLength [array])

lemma Guarded.map {ν μ : Type} {op : Op} {inputs : List ν} {R : ν → Op → List ν → Prop}
    {R' : μ → Op → List μ → Prop} (h : op.Guarded inputs R) (f : ν → μ)
    (hR : ∀ r op inputs, R r op inputs → R' (f r) op (inputs.map f)) :
    op.Guarded (inputs.map f) R' := by
  cases h with
  | string hop hinputs hchecked hlength =>
    exact .string hop (by rw [hinputs]; rfl) (hR _ _ _ hchecked) (hR _ _ _ hlength)
  | element hop hinputs helements hchecked hlength =>
    exact .element hop (by rw [hinputs]; rfl) (hR _ _ _ helements) (hR _ _ _ hchecked)
      (hR _ _ _ hlength)

/-- **The element type of the typed memory** that the operation writes. -/
def written? : Op → Option Scalar
  | .storeTypedElement e _ | .storeTypedObjectElement e | .compareExchangeTypedElement e
  | .atomicTypedElement _ e => some e
  | _ => none

/-- The number of values that such an operation takes: a new one, and the one that is compared. -/
def writtenValues : Op → Nat
  | .compareExchangeTypedElement _ => 2
  | _ => 1

/-- The operation accesses typed memory or a code unit. -/
def accessesMemory (op : Op) : Bool := op.isCheckedAccess || op.written?.isSome

end Op

/-! ## The law -/

namespace Sketch

/-- **A node that writes typed memory** does so at an int32 index; what goes into integer elements
are int32 values. -/
def WritesTyped (s : Site) (before : List Sketch) (x : Sketch) : Prop :=
  ∀ element, x.op.written? = some element → ∃ (target index : Operand) (values : List Operand),
    x.inputs = target.ref :: index.ref :: values.map (·.ref) ∧
    values.length = x.op.writtenValues ∧ index.Known s before ∧ index.ty = .int32 ∧
    (element.isFloatingPoint = false → ∀ v ∈ values, v.Known s before ∧ v.ty = .int32)

/-- **A node accesses what it may**, behind a check and with values of the right types. -/
structure Accesses (s : Site) (before : List Sketch) (x : Sketch) : Prop where
  guarded : x.op.isCheckedAccess = true → x.op.Guarded x.inputs (Ref.IsNode before)
  typed : x.WritesTyped s before

variable {s : Site} {before : List Sketch} {x : Sketch}

/-- A node that accesses nothing. -/
lemma accesses_of_quiet (h : x.op.accessesMemory = false) : x.Accesses s before := by
  obtain ⟨hchecked, hwritten⟩ := Bool.or_eq_false_iff.1 h
  refine ⟨fun haccess => absurd (hchecked.symm.trans haccess) nofun, fun element helement => ?_⟩
  rw [helement] at hwritten
  cases hwritten

end Sketch

/-! ## Operands of a call -/

namespace Signature

/-- Each argument that is checked is of its class. -/
lemma accepts_of_checkArgs {cs : List OperandClass} {fs : List Facts} {index position : Nat}
    (h : checkArgs index cs fs = .ok ()) {c : OperandClass} {f : Facts}
    (hc : cs[position]? = some c) (hf : fs[position]? = some f) : c.accepts f = true := by
  induction cs generalizing fs index position with
  | nil => cases hc
  | cons c' cs ih =>
    cases fs with
    | nil => cases hf
    | cons f' fs =>
      rw [checkArgs] at h
      split_ifs at h with haccepts
      cases position with
      | zero =>
        obtain rfl := Option.some.inj hc
        obtain rfl := Option.some.inj hf
        exact haccepts
      | succ position => exact ih h hc hf

end Signature

namespace Site.Admits

variable {s : Site} {sig : Signature}

/-- **An argument is of the class that the signature states.** -/
theorem arg_accepts (h : s.Admits sig) {position : Nat} {c : OperandClass} {x : Operand}
    (hc : sig.args[position]? = some c) (hx : s.arg position = .ok x) :
    c.accepts x.toFacts = true := by
  refine Signature.accepts_of_checkArgs ((s.admits_iff sig).1 h).2.2.2.2 hc ?_
  rw [List.getElem?_map, arg_eq_ok.1 hx]
  rfl

end Site.Admits

/-! ## Plans that access memory -/

open Sketch (Accesses accesses_of_quiet)

variable {s : Site} {before : List Sketch}

/-- **The draft gives an int32** that is known, over lawful nodes. -/
def Draft.GivesInt32 (s : Site) (before : List Sketch) (d : Draft Operand) : Prop :=
  d.Writes (Accesses s) before fun v after => before <+: after ∧ v.Known s after ∧ v.ty = .int32

/-- A conversion to int32. -/
lemma Draft.givesInt32_add {op : Op} {inputs : List Operand} (hop : op.accessesMemory = false) :
    (add op inputs .int32).GivesInt32 s before := by
  refine writes_add_known (accesses_of_quiet hop) fun v hv his => ?_
  exact ⟨List.prefix_append _ _, .inr ⟨_, his⟩, congrArg Facts.ty hv⟩

/-- An operand that is one already. -/
lemma Draft.givesInt32_pure {v : Operand} (hv : v ∈ s.call.operands) (hty : v.ty = .int32) :
    (pure v : Draft Operand).GivesInt32 s before :=
  writes_pure ⟨List.prefix_refl _, .inl hv, hty⟩

namespace TypedMemory

/-- **The elements of an array and an index** that was checked against its length. -/
structure Checked (s : Site) (before : List Sketch) (array elements checked : Operand) : Prop where
  elements : elements.ref.IsNode before .typedArrayElements [array.ref]
  guarded : ∃ index length : Ref, checked.ref.IsNode before .boundsCheck [index, length] ∧
    length.IsNode before .typedArrayLength [array.ref]
  known : checked.Known s before
  ty : checked.ty = .int32

variable {array elements checked : Operand}

lemma Checked.mono {after : List Sketch} (h : Checked s before array elements checked)
    (hafter : before <+: after) : Checked s after array elements checked := by
  obtain ⟨index, length, hchecked, hlength⟩ := h.guarded
  exact ⟨h.elements.mono hafter, ⟨index, length, hchecked.mono hafter, hlength.mono hafter⟩,
    h.known.mono hafter, h.ty⟩

lemma writes_checked {index : Operand} {holds : Operand × Operand → List Sketch → Prop}
    (h : ∀ elements checked after, Checked s after array elements checked →
      holds (elements, checked) after) :
    (checkedAccess array index).Writes (Accesses s) before holds := by
  refine writes_bind (writes_add_known (accesses_of_quiet rfl) fun length _ hlength => ?_)
  refine writes_bind (writes_add_known (accesses_of_quiet rfl) fun checked hty hchecked => ?_)
  refine writes_bind (writes_add_known (accesses_of_quiet rfl) fun elements _ helements => ?_)
  have hmid := List.prefix_append (before ++ [⟨.typedArrayLength, [array.ref], .int32, none⟩])
    [⟨.boundsCheck, [index.ref, length.ref], .int32, none⟩]
  have hlast := List.prefix_append
    (before ++ [⟨.typedArrayLength, [array.ref], .int32, none⟩] ++
      [⟨.boundsCheck, [index.ref, length.ref], .int32, none⟩])
    [⟨.typedArrayElements, [array.ref], .elements, none⟩]
  refine writes_pure (h elements checked _
    ⟨helements.isNode, ⟨index.ref, length.ref, ?_, ?_⟩, ?_, ?_⟩)
  · exact hchecked.isNode.mono hlast
  · exact (hlength.isNode.mono hmid).mono hlast
  · exact .inr ⟨_, hchecked.mono hlast⟩
  · exact congrArg Facts.ty hty

/-- **A value as it is written** is an int32. -/
theorem truncated_givesInt32 {value : Operand} (hvalue : value ∈ s.call.operands)
    (hty : value.ty.isIntOrDouble = true) : (truncated value).GivesInt32 s before := by
  rw [truncated]
  split_ifs with hdouble
  · exact Draft.givesInt32_add rfl
  · refine Draft.givesInt32_pure hvalue ?_
    cases hcase : value.ty with
    | int32 => rfl
    | double => exact absurd hcase hdouble
    | _ => rw [hcase] at hty; cases hty

/-- **An access through checked elements** keeps to the law. -/
theorem Checked.accesses (h : Checked s before array elements checked) {op : Op}
    {values : List Operand} {ty : ValueType} {types : Option TypeSet}
    (hop : op.isTypedAccess = true)
    (hcount : op.written?.isSome = true → values.length = op.writtenValues)
    (hvalues : ∀ v ∈ values, v.Known s before ∧ v.ty = .int32) :
    Accesses s before ⟨op, (elements :: checked :: values).map (·.ref), ty, types⟩ := by
  obtain ⟨index, length, hchecked, hlength⟩ := h.guarded
  refine ⟨fun _ => .element hop rfl h.elements hchecked hlength, fun element helement => ?_⟩
  refine ⟨elements, checked, values, rfl, hcount ?_, h.known, h.ty, fun _ => hvalues⟩
  exact Option.isSome_iff_exists.2 ⟨element, helement⟩

lemma load_accesses (s : Site) : (TypedMemory.load s).Yields (Plan.Lawful (Accesses s)) := by
  simp only [TypedMemory.load, Decide.yields_bind, Decide.yields_pure]
  intro _ _ array _ element _ index _
  refine lawful_of_writes rfl (writes_bind ?_)
  refine writes_checked fun elements checked after hchecked => ?_
  refine writes_effectfulResult (hchecked.accesses rfl (fun h => ?_) ?_) trivial
  · cases h
  · exact List.forall_mem_nil _

/-- A value that an atomic access writes. -/
lemma givesInt32_arg {sig : Signature} (h : s.Admits sig) {position : Nat} {value : Operand}
    (hsig : sig.args[position]? = some .intOrDouble) (hvalue : s.arg position = .ok value) :
    (truncated value).GivesInt32 s before :=
  truncated_givesInt32 (Site.mem_operands_of_mem_args (Site.mem_args_of_arg hvalue))
    (h.arg_accepts hsig hvalue)

lemma store_accesses (s : Site) : (TypedMemory.store s).Yields (Plan.Lawful (Accesses s)) := by
  simp only [TypedMemory.store, Decide.yields_bind, Decide.yields_pure]
  intro _ hclassify array _ element _ index _ value hvalue
  have hadmits := Site.admits_of_classify hclassify
  refine lawful_of_writes rfl (writes_bind ?_)
  refine writes_checked fun elements checked after₁ hchecked => ?_
  refine writes_bind ((givesInt32_arg hadmits rfl hvalue).imp fun written after₂ h₂ => ?_)
  obtain ⟨hafter₂, hwritten⟩ := h₂
  refine writes_bind (writes_add ?_ (writes_bind (writes_push (writes_resumeAfter trivial))))
  exact (hchecked.mono hafter₂).accesses rfl (fun _ => rfl) (List.forall_mem_singleton.2 hwritten)

lemma update_accesses (operator : AtomicOperator) (s : Site) :
    (TypedMemory.update operator s).Yields (Plan.Lawful (Accesses s)) := by
  simp only [TypedMemory.update, Decide.yields_bind, Decide.yields_pure]
  intro _ hclassify array _ element _ index _ value hvalue
  have hadmits := Site.admits_of_classify hclassify
  refine lawful_of_writes rfl (writes_bind ?_)
  refine writes_checked fun elements checked after₁ hchecked => ?_
  refine writes_bind ((givesInt32_arg hadmits rfl hvalue).imp fun written after₂ h₂ => ?_)
  obtain ⟨hafter₂, hwritten⟩ := h₂
  refine writes_effectfulResult ?_ trivial
  exact (hchecked.mono hafter₂).accesses rfl (fun _ => rfl) (List.forall_mem_singleton.2 hwritten)

lemma compareExchange_accesses (s : Site) :
    (compareExchange s).Yields (Plan.Lawful (Accesses s)) := by
  simp only [compareExchange, Decide.yields_bind, Decide.yields_pure]
  intro _ hclassify array _ element _ index _ old hold new hnew
  have hadmits := Site.admits_of_classify hclassify
  refine lawful_of_writes rfl (writes_bind ?_)
  refine writes_checked fun elements checked after₁ hchecked => ?_
  refine writes_bind ((givesInt32_arg hadmits rfl hold).imp fun old' after₂ h₂ => ?_)
  obtain ⟨hafter₂, hknown, hold'⟩ := h₂
  refine writes_bind ((givesInt32_arg hadmits rfl hnew).imp fun new' after₃ h₃ => ?_)
  obtain ⟨hafter₃, hnew'⟩ := h₃
  refine writes_effectfulResult ?_ trivial
  refine ((hchecked.mono hafter₂).mono hafter₃).accesses rfl (fun _ => rfl) ?_
  exact List.forall_mem_cons.2 ⟨⟨hknown.mono hafter₃, hold'⟩, List.forall_mem_singleton.2 hnew'⟩

end TypedMemory

/-! ### Code units -/

namespace Strings

/-- **The code unit is loaded behind a check** of the index against the length of the string. -/
theorem loadUnit_appends (string index : Operand) :
    (loadUnit string index).Appends (Accesses s) before := by
  refine (appends_add (accesses_of_quiet rfl)).then fun converted after₁ hafter₁ => ?_
  refine writes_bind (writes_add_known (accesses_of_quiet rfl) fun length _ hlength => ?_)
  refine writes_bind (writes_add_known (accesses_of_quiet rfl) fun checked _ hchecked => ?_)
  have hguarded : Accesses s
      (after₁ ++ [⟨.stringLength, [string.ref], .int32, none⟩] ++
        [⟨.boundsCheck, [converted.ref, length.ref], .int32, none⟩])
      ⟨.charCodeAt, [string.ref, checked.ref], .int32, none⟩ :=
    ⟨fun _ => .string rfl rfl hchecked.isNode (hlength.isNode.mono (List.prefix_append _ _)), nofun⟩
  refine writes_add hguarded (hafter₁.trans ?_)
  rw [List.append_assoc, List.append_assoc]
  exact List.prefix_append _ _

lemma charCodeAt_accesses (s : Site) :
    (charCodeAt s).Yields (Plan.Lawful (Accesses s)) := by
  simp only [charCodeAt, Decide.yields_bind]
  intro _ _ index _
  split
  · refine Decide.yields_pure.2 (lawful_of_writes rfl ?_)
    exact writes_pushConstant (accesses_of_quiet rfl) trivial
  · refine Decide.yields_pure.2 (lawful_of_writes rfl ?_)
    exact (loadUnit_appends s.receiver index).then fun _ _ _ => writes_push trivial

lemma charAt_accesses (s : Site) : (charAt s).Yields (Plan.Lawful (Accesses s)) := by
  simp only [charAt, Decide.yields_bind]
  intro _ _ index _
  split
  · refine Decide.yields_pure.2 (lawful_of_writes rfl ?_)
    exact writes_pushConstant (accesses_of_quiet rfl) trivial
  · refine Decide.yields_pure.2 (lawful_of_writes rfl ?_)
    refine (loadUnit_appends s.receiver index).then fun unit _ _ => ?_
    exact writes_result (accesses_of_quiet rfl) trivial

end Strings

/-! ### Bulk stores -/

namespace ElementStore

lemma int32Index_givesInt32 {index : Operand} (hindex : index ∈ s.call.operands) :
    (int32Index index).GivesInt32 s before := by
  rw [int32Index]
  split_ifs with hty
  · exact Draft.givesInt32_pure hindex hty
  · exact Draft.givesInt32_add rfl

/-- **A value as an element holds it** is an int32, unless the element can hold fractions. -/
theorem writes_scalarValue {element : Scalar} {value : Operand} (hvalue : value ∈ s.call.operands) :
    (scalarValue element value).Writes (Accesses s) before fun v after => before <+: after ∧
      (element.isFloatingPoint = false → v.Known s after ∧ v.ty = .int32) := by
  rw [scalarValue]
  split_ifs with hclamped hinteger
  · exact (Draft.givesInt32_add rfl).imp fun v after h => ⟨h.1, fun _ => h.2⟩
  · exact (Draft.givesInt32_add rfl).imp fun v after h => ⟨h.1, fun _ => h.2⟩
  · refine Draft.writes_pure ⟨List.prefix_refl _, fun helement => ⟨.inl hvalue, ?_⟩⟩
    by_contra hne
    exact hinteger ⟨by rw [helement]; rfl, hne⟩

/-- A dense store writes no typed memory. -/
lemma writes_denseStore (conversion : DoubleConversion) (object index value : Operand) :
    (storeNode object index value (.dense conversion)).Writes (Accesses s) before
      fun _ _ => True := by
  have hstored := @ArrayUpdate.stored_appends before (Accesses s)
    (fun _ _ _ _ => accesses_of_quiet rfl) conversion value
  refine hstored.then fun stored after₁ _ => ?_
  refine (appends_add (accesses_of_quiet rfl)).then fun elements after₂ _ => ?_
  have hbarrier := @ArrayUpdate.postBarrier_appends after₂ (Accesses s)
    (fun _ _ _ _ => accesses_of_quiet rfl) object stored
  exact hbarrier.then fun _ _ _ => writes_add (accesses_of_quiet rfl) trivial

/-- **The store of a group** is typed. -/
theorem writes_typedStore {object index value : Operand} {write : ElementWrite}
    (hvalue : value ∈ s.call.operands) (hindex : index.Known s before) (hty : index.ty = .int32) :
    (storeNode object index value write).Writes (Accesses s) before fun _ _ => True := by
  cases write with
  | dense conversion => exact writes_denseStore conversion object index value
  | typedArray element =>
    refine writes_bind ((writes_scalarValue hvalue).imp fun stored after₁ h₁ => ?_)
    obtain ⟨hafter₁, hstored⟩ := h₁
    refine (appends_add (accesses_of_quiet rfl)).then fun elements after₂ hafter₂ => ?_
    refine writes_add ⟨nofun, fun element' helement => ?_⟩ trivial
    obtain rfl := Option.some.inj helement
    have hindex' := (hindex.mono hafter₁).mono hafter₂
    refine ⟨elements, index, [stored], rfl, rfl, hindex', hty, fun h => ?_⟩
    exact List.forall_mem_singleton.2 ((hstored h).imp_left (·.mono hafter₂))
  | typedObject element =>
    refine writes_bind ((writes_scalarValue hvalue).imp fun stored after₁ h₁ => ?_)
    obtain ⟨hafter₁, hstored⟩ := h₁
    refine writes_add ⟨nofun, fun element' helement => ?_⟩ trivial
    obtain rfl := Option.some.inj helement
    refine ⟨object, index, [stored], rfl, rfl, hindex.mono hafter₁, hty, fun h => ?_⟩
    exact List.forall_mem_singleton.2 (hstored h)

/-- **All stores are typed**, by induction over the groups. -/
theorem storeAll_accesses {writes : List (ElementWrite × Group)}
    (hwrites : ∀ w ∈ writes, w.2.index ∈ s.call.operands ∧ w.2.value ∈ s.call.operands) :
    (storeAll writes).Writes (Accesses s) before fun _ _ => True := by
  induction writes generalizing before with
  | nil => exact writes_pure (a := ()) trivial
  | cons w writes ih =>
    obtain ⟨⟨hindex, hvalue⟩, hwrites⟩ := List.forall_mem_cons.1 hwrites
    refine writes_bind (writes_bind ((int32Index_givesInt32 hindex).imp fun index after₁ h₁ => ?_))
    obtain ⟨-, hknown, hty⟩ := h₁
    refine writes_bind ((writes_typedStore hvalue hknown hty).imp fun store after₂ _ => ?_)
    exact writes_resumeAfter (ih hwrites)

lemma putElements_accesses (s : Site) : (putElements s).Yields (Plan.Lawful (Accesses s)) := by
  simp only [putElements, Decide.yields_bind, Decide.yields_pure]
  intro _ _ r hr
  refine lawful_of_writes rfl (writes_bind ?_)
  refine writes_pushConstant (accesses_of_quiet rfl) (storeAll_accesses fun w hw => ?_)
  obtain ⟨-, hindex, hvalue⟩ := mem_args_of_classifyAll hr hw
  exact ⟨Site.mem_operands_of_mem_args hindex, Site.mem_operands_of_mem_args hvalue⟩

end ElementStore

/-! ## All plans -/

/-- Calls of the native are specialized to accesses of typed memory or code units. -/
def Native.accessesMemory (n : Native) : Bool :=
  n matches atomicsCompareExchange | atomicsLoad | atomicsStore | atomicsAdd | atomicsSub
    | atomicsAnd | atomicsOr | atomicsXor | stringCharCodeAt | stringCharAt | unsafePutElements

lemma Native.accessesMemory_of_mayEmit {n : Native} {op : Op} (h : n.mayEmit op = true)
    (hop : op.accessesMemory = true) : n.accessesMemory = true := by
  cases op <;> first
    | (cases hop; done)
    | cases n <;> first | rfl | cases h

lemma Registry.find?_accesses {kind : CallKind} {native : Native} {p : Specializer}
    (h : find? kind native = some p) (haccess : native.accessesMemory = true) (f : FunctionObject)
    (s : Site) : (p.decide f s).Yields (Plan.Lawful (Accesses s)) := by
  cases kind with
  | getter =>
    cases native <;> first
      | (cases haccess; done)
      | cases h
  | call =>
    cases native
    case atomicsCompareExchange => cases h; exact TypedMemory.compareExchange_accesses s
    case atomicsLoad => cases h; exact TypedMemory.load_accesses s
    case atomicsStore => cases h; exact TypedMemory.store_accesses s
    case atomicsAdd | atomicsSub | atomicsAnd | atomicsOr | atomicsXor =>
      cases h
      exact TypedMemory.update_accesses _ s
    case stringCharCodeAt => cases h; exact Strings.charCodeAt_accesses s
    case stringCharAt => cases h; exact Strings.charAt_accesses s
    case unsafePutElements => cases h; exact ElementStore.putElements_accesses s
    all_goals cases haccess

/-- **In every plan the accesses are guarded and typed.** -/
theorem Inliner.Origin.accesses {s : Site} {p : Plan} {callee : Callee} (h : Origin s p callee) :
    p.Lawful (Accesses s) := by
  rcases h.emits_or_exists_native (Op.accessesMemory · = false) (fun _ => rfl) (fun _ => rfl) with
    hquiet | ⟨f, native, specializer, op, hfind, hdecide, hemits, haccess⟩
  · refine Plan.lawful_of_emits hquiet (fun _ _ => accesses_of_quiet) fun before x hop => ?_
    exact accesses_of_quiet (by rw [hop]; rfl)
  · have hnative := Native.accessesMemory_of_mayEmit hemits (eq_true_of_ne_false haccess)
    exact Registry.find?_accesses hfind hnative f s p hdecide

/-! ## Attempts -/

/-- **A node of this static type.** -/
def Graph.Records (g : Graph) (id : NodeId) (ty : ValueType) : Prop :=
  ∃ n, g.node? id = some n ∧ n.ty = ty

/-- **The accesses of a call** that takes the builder from `b` to `b'` are guarded and typed. -/
structure Builder.AccessesSafely (b b' : Builder) : Prop where
  /-- An access whose index has to be inside is behind a check of its own, against the length of the
  string or array that it accesses. -/
  guarded : ∀ id n, b.graph.size ≤ id.index → b'.graph.node? id = some n →
    n.op.isCheckedAccess = true → n.op.Guarded n.inputs (b'.graph.IsNew b.graph.size)
  /-- Typed memory is written at an int32 index, and into integer elements go int32 values. -/
  typed : ∀ id n element, b.graph.size ≤ id.index → b'.graph.node? id = some n →
    n.op.written? = some element → ∃ target index values,
      n.inputs = target :: index :: values ∧ values.length = n.op.writtenValues ∧
      b'.graph.Records index .int32 ∧
      (element.isFloatingPoint = false → ∀ v ∈ values, b'.graph.Records v .int32)

namespace Inliner

variable {i : Inliner} {stubs : StubStore} {b b' : Builder} {call : Call NodeId} {callee : Callee}

/-- A value that is known to be of a type is a node of that type. -/
lemma Emits.records {r : Call Operand} {p : Plan} {k : Nat} (h : i.Emits b call callee r p b')
    {v : Operand} (hv : v.Known (i.site r) (p.sketches.take k)) :
    b'.graph.Records (p.handle b call v.ref) v.ty := by
  obtain ⟨n, hn, hfacts⟩ := h.node_of_known hv
  exact ⟨n, hn, congrArg Facts.ty hfacts⟩

/-- **Every call that is specialized accesses memory safely.** -/
theorem attempt_accessesSafely (h : (i.attempt stubs b call callee).result = .ok .inlined) :
    b.AccessesSafely (i.attempt stubs b call callee).builder := by
  obtain ⟨r, p, hemits⟩ := exists_emits h
  refine ⟨fun id n hid hn haccess => ?_, fun id n element hid hn hwritten => ?_⟩
  · rcases hemits.exists_places hid hn with hcontext | ⟨k, x, rfl, hx, hplaces⟩
    · rw [hcontext] at haccess
      cases haccess
    · rw [hplaces.op, hplaces.inputs]
      have hguarded := (hemits.origin.accesses.getElem? hx).guarded (hplaces.op ▸ haccess)
      exact hguarded.map (p.handle b call) fun _ _ _ hnode => hemits.isNew_of_isNode hnode
  · rcases hemits.exists_places hid hn with hcontext | ⟨k, x, rfl, hx, hplaces⟩
    · rw [hcontext] at hwritten
      cases hwritten
    · rw [hplaces.op] at hwritten ⊢
      obtain ⟨target, index, values, hinputs, hcount, hindex, hty, hvalues⟩ :=
        (hemits.origin.accesses.getElem? hx).typed element hwritten
      refine ⟨p.handle b call target.ref, p.handle b call index.ref,
        values.map (p.handle b call ·.ref), ?_, ?_, hty ▸ hemits.records hindex, ?_⟩
      · rw [hplaces.inputs, hinputs, List.map_cons, List.map_cons, List.map_map]
        rfl
      · rw [List.length_map, hcount]
      · refine fun hinteger => List.forall_mem_map.2 fun v hv => ?_
        obtain ⟨hknown, hint32⟩ := hvalues hinteger v hv
        exact hint32 ▸ hemits.records hknown

end Inliner

/-- A double is stored into a shared array of integers. -/
def Scenario.sharedStore : Scenario where
  callee := .function (.ofNative ⟨1⟩ .atomicsStore)
  args := [.typed .object
      (some (.singleton { id := ⟨1⟩, objectClass := .sharedTypedArray .int32 })),
    .typed .int32 none, .typed .double none]
  resultTypes := some (.ofType .int32)

/-- The store is behind a check against the length of the array, and what it stores is an int32. -/
theorem attempt_accessesSafely_sharedStore :
    (Scenario.sharedStore.attempt {} Scenario.sharedStore.builder).result = .ok .inlined ∧
    (∃ index length,
      (Scenario.sharedStore.attempt {} Scenario.sharedStore.builder).builder.graph.IsNew 5 ⟨6⟩
        .boundsCheck [index, length] ∧
      (Scenario.sharedStore.attempt {} Scenario.sharedStore.builder).builder.graph.IsNew 5 length
        .typedArrayLength [⟨2⟩]) ∧
    (Scenario.sharedStore.attempt {} Scenario.sharedStore.builder).builder.graph.Records ⟨6⟩
      .int32 ∧
    (Scenario.sharedStore.attempt {} Scenario.sharedStore.builder).builder.graph.Records ⟨8⟩
      .int32 := by
  have hinlined : (Scenario.sharedStore.attempt {} Scenario.sharedStore.builder).result =
      .ok .inlined := by
    decide
  obtain ⟨hguarded, htyped⟩ := Inliner.attempt_accessesSafely hinlined
  obtain ⟨target, index, values, hinputs, -, hindex, hvalues⟩ :=
    htyped ⟨9⟩ _ .int32 (by decide) rfl rfl
  obtain ⟨rfl, hrest⟩ := List.cons.inj hinputs
  obtain ⟨rfl, rfl⟩ := List.cons.inj hrest
  refine ⟨hinlined, ?_, hindex, hvalues rfl _ (List.mem_singleton_self _)⟩
  cases hguarded ⟨9⟩ _ (by decide) rfl rfl with
  | string hop => cases hop
  | element _ hinputs helements hchecked hlength =>
    obtain ⟨rfl, hrest⟩ := List.cons.inj hinputs
    obtain ⟨rfl, -⟩ := List.cons.inj hrest
    obtain ⟨-, m, hm, -, harray⟩ := helements
    obtain rfl := Option.some.inj hm
    obtain ⟨rfl, -⟩ := List.cons.inj harray
    exact ⟨_, _, hchecked, hlength⟩

end CallSite
