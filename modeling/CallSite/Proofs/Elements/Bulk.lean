import CallSite.Proofs.Elements.Groups
import CallSite.Proofs.Known
import CallSite.Proofs.Requests

/-!
# One store after the other

Once all groups are decided, their stores are written down in a loop that asks for nothing any more.
Indices and values are converted by helpers of their own, and how many nodes a group takes depends
on its types; but only one of them has an effect, and that is the store of the group.

* `Op.Stores`, `Op.StoresGroup` — **a node stores the value of a group**, as it was decided.
* `Op.isHelper`, `ElementStore.Helps` — nodes without an effect of their own.
* `Sketch.StoresInBulk` — **the law**: each node with an effect stores the group whose turn it is.
* `ElementStore.writes_storeAll_turns` — the loop keeps to it.
* `ElementStore.bulk_lawful`, `ElementStore.bulk_serves` — **so does the whole plan**.
-/

namespace CallSite

open Draft (writes_pure writes_bind writes_add writes_resumeAfter)

/-! ## Stores of groups -/

/-- The operation that makes an int32 of an index. -/
def ValueType.indexConversion? (ty : ValueType) : Option Op :=
  if ty = .int32 then none else some .toInt32

/-- The operation that makes of a value what is stored. -/
def ElementWrite.conversion? (write : ElementWrite) (ty : ValueType) : Option Op :=
  match write with
  | dense conversion => if conversion.converts then some .toDouble else none
  | typedArray element | typedObject element =>
    if element = .uint8Clamped then some .clampToUint8
    else if !element.isFloatingPoint ∧ ty ≠ .int32 then some .truncateToInt32
    else none

namespace Op

variable {ν μ : Type}

/-- **The value is the other, or what a node makes of it.** -/
def Converted (conversion : Option Op) (isNode : ν → Op → List ν → Prop) (converted value : ν) :
    Prop :=
  match conversion with
  | none => converted = value
  | some op => isNode converted op [value]

/-- **The store puts a value at an index of an object**: into its elements or into itself. -/
inductive Stores (op : Op) (inputs : List ν) (isNode : ν → Op → List ν → Prop)
    (object index value : ν) : ElementWrite → Prop where
  | dense {elements : ν} {conversion : DoubleConversion} (hop : op = .storeElement false)
      (hinputs : inputs = [elements, index, value])
      (helements : isNode elements .elements [object]) :
      Stores op inputs isNode object index value (.dense conversion)
  | typedArray {elements : ν} {element : Scalar} (hop : op = .storeTypedElement element .unordered)
      (hinputs : inputs = [elements, index, value])
      (helements : isNode elements .typedArrayElements [object]) :
      Stores op inputs isNode object index value (.typedArray element)
  | typedObject {element : Scalar} (hop : op = .storeTypedObjectElement element)
      (hinputs : inputs = [object, index, value]) :
      Stores op inputs isNode object index value (.typedObject element)

/-- **The node stores the value of a group**, which was decided to go there: at the index, as an
int32, and the value, as it is kept there. -/
def StoresGroup (op : Op) (inputs : List ν) (isNode : ν → Op → List ν → Prop) (g : StoreGroup ν)
    (known : StoreGroup Facts) (write : ElementWrite) : Prop :=
  ∃ index value, Converted known.index.ty.indexConversion? isNode index g.index ∧
    Converted (write.conversion? known.value.ty) isNode value g.value ∧
    op.Stores inputs isNode g.object index value write

variable {R R' : ν → Op → List ν → Prop} {S : μ → Op → List μ → Prop}

lemma Converted.map {conversion : Option Op} {converted value : ν}
    (h : Converted conversion R converted value) (f : ν → μ)
    (hR : ∀ r op inputs, R r op inputs → S (f r) op (inputs.map f)) :
    Converted conversion S (f converted) (f value) := by
  cases conversion with
  | none => exact congrArg f h
  | some op => exact hR _ _ _ h

lemma Converted.mono {before after : List Sketch} {conversion : Option Op}
    {converted value : Ref} (h : Converted conversion (Ref.IsNode before) converted value)
    (hafter : before <+: after) : Converted conversion (Ref.IsNode after) converted value := by
  cases conversion with
  | none => exact h
  | some op => exact Ref.IsNode.mono h hafter

lemma StoresGroup.map {op : Op} {inputs : List ν} {g : StoreGroup ν} {known : StoreGroup Facts}
    {write : ElementWrite} (h : op.StoresGroup inputs R g known write) (f : ν → μ)
    (hR : ∀ r op inputs, R r op inputs → S (f r) op (inputs.map f)) :
    op.StoresGroup (inputs.map f) S (g.map f) known write := by
  obtain ⟨index, value, hindex, hvalue, hstores⟩ := h
  refine ⟨f index, f value, hindex.map f hR, hvalue.map f hR, ?_⟩
  cases hstores with
  | dense hop hinputs helements => exact .dense hop (by rw [hinputs]; rfl) (hR _ _ _ helements)
  | typedArray hop hinputs helements =>
    exact .typedArray hop (by rw [hinputs]; rfl) (hR _ _ _ helements)
  | typedObject hop hinputs => exact .typedObject hop (by rw [hinputs]; rfl)

/-- The operation helps to store: it has no effect, and neither gives a constant nor checks or
guards anything. -/
def isHelper (op : Op) : Bool :=
  !op.isEffectful && !(op matches .boundsCheck | .typeBarrier _ | .constant _)

end Op

/-! ## Bulk stores -/

namespace Sketch

/-- A node carries out the store of a group as it was decided. -/
def StoresGroup (before : List Sketch) (x : Sketch) (d : ElementStore.Group × Answer ElementWrite) :
    Prop :=
  x.op.StoresGroup x.inputs (Ref.IsNode before) (d.1.map (·.ref)) (d.1.map (·.toFacts)) d.2.value

/-- The number of nodes with an effect. -/
abbrev effectCount (xs : List Sketch) : Nat := count Op.isEffectful xs

/-- **One store after the other**: each node with an effect stores the group whose turn it is.  A
constant comes first, if at all, and nothing is checked or guarded. -/
structure StoresInBulk (ds : List (ElementStore.Group × Answer ElementWrite))
    (before : List Sketch) (x : Sketch) : Prop where
  turn : x.ServesInTurn Op.isEffectful StoresGroup ds before
  first : x.op.constant?.isSome = true → before = []
  unchecked : x.op ≠ .boundsCheck
  unguarded : ∀ kind, x.op ≠ .typeBarrier kind

end Sketch

namespace ElementStore

open Sketch (StoresInBulk effectCount)

variable {ds : List (Group × Answer ElementWrite)} {before : List Sketch}

/-- **The draft helps to store**: it describes nodes without effects, and of its value and all
nodes together `holds` is true. -/
def Helps {α : Type} (ds : List (Group × Answer ElementWrite)) (before : List Sketch) (d : Draft α)
    (holds : α → List Sketch → Prop) : Prop :=
  d.Writes (StoresInBulk ds) before fun a after =>
    before <+: after ∧ effectCount after = effectCount before ∧ holds a after

/-- Going on behind such a draft. -/
lemma Helps.then {α β : Type} {x : Draft α} {f : α → Draft β} {found : α → List Sketch → Prop}
    {holds : β → List Sketch → Prop} (hx : Helps ds before x found)
    (h : ∀ a after, before <+: after → effectCount after = effectCount before → found a after →
      (f a).Writes (StoresInBulk ds) after holds) :
    (x >>= f).Writes (StoresInBulk ds) before holds :=
  writes_bind (hx.imp fun a after hafter => h a after hafter.1 hafter.2.1 hafter.2.2)

lemma helps_add {op : Op} {inputs : List Operand} {ty : ValueType} {types : Option TypeSet}
    (hop : op.isHelper = true) :
    Helps ds before (Draft.add op inputs ty types) fun v after =>
      v.ref.IsNode after op (inputs.map (·.ref)) := by
  obtain ⟨heffect, hplain⟩ := Bool.and_eq_true_iff.1 hop
  have hquiet : op.isEffectful = false := by rwa [Bool.not_eq_true'] at heffect
  refine writes_add ⟨Sketch.servesInTurn_of_unasked hquiet, ?_, ?_, ?_⟩
    ⟨List.prefix_append _ _, ?_, _, ⟨before.length, rfl, List.getElem?_concat_length⟩, rfl, rfl⟩
  · intro hconstant
    cases op <;> first
      | (cases hconstant; done)
      | cases hplain
  · rintro rfl
    cases hplain
  · rintro kind rfl
    cases hplain
  · rw [effectCount, Sketch.count_append, Sketch.count, Sketch.count, List.countP_singleton, hquiet]
    rfl

/-- **A conversion**, where there has to be one. -/
theorem helps_convert {conversion : Option Op} {value : Operand} {ty : ValueType}
    {d : Draft Operand}
    (hd : d = conversion.elim (pure value) fun op => Draft.add op [value] ty)
    (hop : ∀ op, conversion = some op → op.isHelper = true) :
    Helps ds before d fun v after =>
      Op.Converted conversion (Ref.IsNode after) v.ref value.ref := by
  subst hd
  cases conversion with
  | none => exact writes_pure ⟨List.prefix_refl _, rfl, rfl⟩
  | some op => exact helps_add (hop op rfl)

lemma helps_int32Index (index : Operand) : Helps ds before (int32Index index) fun v after =>
    Op.Converted index.ty.indexConversion? (Ref.IsNode after) v.ref index.ref := by
  refine @helps_convert _ _ index.ty.indexConversion? index .int32 _ ?_ fun op hop => ?_
  · rw [int32Index, ValueType.indexConversion?]
    split_ifs <;> rfl
  · rw [ValueType.indexConversion?] at hop
    split_ifs at hop
    cases hop
    rfl

lemma helps_scalarValue {element : Scalar} {write : ElementWrite} (value : Operand)
    (hwrite : write = .typedArray element ∨ write = .typedObject element) :
    Helps ds before (scalarValue element value) fun v after =>
      Op.Converted (write.conversion? value.ty) (Ref.IsNode after) v.ref value.ref := by
  have hconversion : write.conversion? value.ty =
      if element = .uint8Clamped then some .clampToUint8
      else if !element.isFloatingPoint ∧ value.ty ≠ .int32 then some .truncateToInt32
      else none := by
    rcases hwrite with rfl | rfl <;> rfl
  rw [hconversion]
  refine @helps_convert _ _ _ value .int32 _ ?_ fun op hop => ?_
  · rw [scalarValue]
    split_ifs <;> rfl
  · split_ifs at hop <;> cases hop <;> rfl

lemma helps_stored (conversion : DoubleConversion) (value : Operand) :
    Helps ds before (ArrayUpdate.stored conversion value) fun v after =>
      Op.Converted ((ElementWrite.dense conversion).conversion? value.ty) (Ref.IsNode after) v.ref
        value.ref := by
  refine @helps_convert _ _ _ value .double _ ?_ fun op hop => ?_
  · rw [ArrayUpdate.stored, ElementWrite.conversion?]
    split_ifs <;> rfl
  · rw [ElementWrite.conversion?] at hop
    split_ifs at hop
    cases hop
    rfl

lemma helps_postBarrier (object value : Operand) :
    Helps ds before (ArrayUpdate.postBarrier object value) fun _ _ => True := by
  rw [ArrayUpdate.postBarrier]
  split_ifs
  · exact writes_bind ((helps_add rfl).imp fun _ _ h => writes_pure ⟨h.1, h.2.1, trivial⟩)
  · exact writes_pure ⟨List.prefix_refl _, rfl, trivial⟩

/-- **A store** of the group whose turn it is. -/
theorem writes_turn {op : Op} {inputs : List Operand} {g : Group} {a : Answer ElementWrite}
    {n : Nat} {index value : Ref} (hcount : effectCount before = n) (hturn : ds[n]? = some (g, a))
    (hindex : Op.Converted g.index.ty.indexConversion? (Ref.IsNode before) index g.index.ref)
    (hvalue : Op.Converted (a.value.conversion? g.value.ty) (Ref.IsNode before) value g.value.ref)
    (hstores : op.Stores (inputs.map (·.ref)) (Ref.IsNode before) g.object.ref index value
      a.value) :
    (Draft.add op inputs .noValue).Writes (StoresInBulk ds) before fun _ after =>
      effectCount after = n + 1 := by
  subst hcount
  have hop : op.isEffectful = true ∧ op.constant?.isSome = false ∧ op ≠ .boundsCheck ∧
      ∀ kind, op ≠ .typeBarrier kind := by
    generalize a.value = write at hstores
    cases hstores with
    | dense hop => subst hop; exact ⟨rfl, rfl, nofun, nofun⟩
    | typedArray hop => subst hop; exact ⟨rfl, rfl, nofun, nofun⟩
    | typedObject hop => subst hop; exact ⟨rfl, rfl, nofun, nofun⟩
  obtain ⟨heffectful, hconstant, hunchecked, hunguarded⟩ := hop
  refine writes_add ⟨fun _ => ⟨_, hturn, ?_⟩, ?_, hunchecked, hunguarded⟩ ?_
  · exact ⟨index, value, hindex, hvalue, hstores⟩
  · exact fun h => absurd (hconstant.symm.trans h) nofun
  · rw [effectCount, Sketch.count_append, Sketch.count, Sketch.count, List.countP_singleton,
      heffectful]
    rfl

/-- **The store of a group**, when it is its turn. -/
theorem writes_storeNode_turn {g : Group} {a : Answer ElementWrite} {n : Nat} {index : Operand}
    (hcount : effectCount before = n) (hturn : ds[n]? = some (g, a))
    (hindex : Op.Converted g.index.ty.indexConversion? (Ref.IsNode before) index.ref g.index.ref) :
    (storeNode g.object index g.value a.value).Writes (StoresInBulk ds) before fun _ after =>
      effectCount after = n + 1 := by
  obtain ⟨write, facts⟩ := a
  cases write with
  | dense conversion =>
    refine (helps_stored conversion g.value).then fun stored after₁ hafter₁ hcount₁ hstored => ?_
    refine (helps_add rfl).then fun elements after₂ hafter₂ hcount₂ helements => ?_
    refine (helps_postBarrier g.object stored).then fun _ after₃ hafter₃ hcount₃ _ => ?_
    refine writes_turn (hcount₃.trans (hcount₂.trans (hcount₁.trans hcount))) hturn
      (((hindex.mono hafter₁).mono hafter₂).mono hafter₃)
      ((hstored.mono hafter₂).mono hafter₃) (.dense rfl rfl (helements.mono hafter₃))
  | typedArray element =>
    have hscalar := @helps_scalarValue ds before element (.typedArray element) g.value (.inl rfl)
    refine hscalar.then fun stored after₁ hafter₁ hcount₁ hstored => ?_
    refine (helps_add rfl).then fun elements after₂ hafter₂ hcount₂ helements => ?_
    exact writes_turn (hcount₂.trans (hcount₁.trans hcount)) hturn
      ((hindex.mono hafter₁).mono hafter₂) (hstored.mono hafter₂) (.typedArray rfl rfl helements)
  | typedObject element =>
    have hscalar := @helps_scalarValue ds before element (.typedObject element) g.value (.inr rfl)
    refine hscalar.then fun stored after₁ hafter₁ hcount₁ hstored => ?_
    exact writes_turn (hcount₁.trans hcount) hturn (hindex.mono hafter₁) hstored
      (.typedObject rfl rfl)

/-- **The stores of all groups** take turns, by induction over the groups that are left. -/
theorem writes_storeAll_turns {rest : List (Group × Answer ElementWrite)}
    (done : List (Group × Answer ElementWrite)) (hds : ds = done ++ rest)
    (hdone : effectCount before = done.length) :
    (storeAll (rest.map fun d => (d.2.value, d.1))).Writes (StoresInBulk ds) before
      fun _ after => effectCount after = ds.length := by
  induction rest generalizing before done with
  | nil =>
    refine writes_pure (a := ()) ?_
    rw [hdone, hds, List.append_nil]
  | cons d rest ih =>
    have hturn : ds[done.length]? = some d := by
      rw [hds, List.getElem?_append_right (Nat.le_refl _), Nat.sub_self]
      rfl
    refine writes_bind ((helps_int32Index d.1.index).then fun index after₁ _ hcount₁ hindex => ?_)
    have hnode := writes_storeNode_turn (hcount₁.trans hdone) hturn hindex
    refine writes_bind (hnode.imp fun store after₂ hcount₂ => writes_resumeAfter ?_)
    refine ih (done ++ [d]) ?_ ?_
    · rw [hds, List.append_assoc]
      rfl
    · rw [hcount₂, List.length_append]
      rfl

/-- **A bulk store** stores one group after the other. -/
theorem writes_bulkDraft (ds : List (Group × Answer ElementWrite)) :
    (bulkDraft ds).Writes (StoresInBulk ds) [] fun _ after => effectCount after = ds.length := by
  have hconstant : StoresInBulk ds [] ⟨.constant .undefined, [], .undefined, none⟩ :=
    ⟨Sketch.servesInTurn_of_unasked rfl, fun _ => rfl, nofun, nofun⟩
  refine writes_bind (Draft.writes_pushConstant hconstant ?_)
  exact writes_storeAll_turns [] rfl rfl

lemma bulk_lawful (ds : List (Group × Answer ElementWrite)) :
    (bulk ds).Lawful (StoresInBulk ds) :=
  Plan.lawful_of_writes rfl ((writes_bulkDraft ds).imp fun _ _ _ => trivial)

lemma bulk_serves (ds : List (Group × Answer ElementWrite)) :
    (bulk ds).Serves Op.isEffectful Sketch.StoresGroup ds :=
  Plan.serves_of_writes rfl ((writes_bulkDraft ds).mono fun _ _ h => h.turn)

end ElementStore

end CallSite
