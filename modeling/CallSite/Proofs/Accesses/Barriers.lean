import CallSite.Proofs.Known

/-!
# Barriers of stores

The collector of young objects does not look through tenured ones.  A store that may leave a young
object in a tenured one has to tell it, by a barrier on the object and on the value as it is stored.
Four sequences of nodes store values, each with barriers of its own.  In all of them a barrier
stands directly in front of its store, so the last node before a store tells whether it has one.

* `Op.storesReference`, `Op.Puts` — stores of values that the collector has to find, and where each
  puts its value.
* `Sketch.pending` — the barrier that was just added.
* `Sketch.Barriered` — **the law**: a store has a barrier in front of it iff it needs one.
* `Draft.writes_barrier`, `Draft.writes_store` — writing down a barrier and the store behind it.
* `Inliner.Origin.barriered` — **every plan keeps to it**, and ends in no barrier.
-/

namespace CallSite

open Draft (writes_bind writes_add_known writes_push writes_resumeAfter writes_pushConstant)

/-! ## Stores -/

/-- The operation stores a value that the collector has to find. -/
def Op.storesReference : Op → Bool
  | .arrayPush | .storeElement _ | .storeFixedSlot _ | .initializeElement => true
  | _ => false

/-- The operation is such a store, or a barrier for one. -/
def Op.touchesReference (op : Op) : Bool := op.storesReference || op = .postWriteBarrier

/-- **The store puts a value into an object**: directly, or among its elements. -/
inductive Op.Puts {ν : Type} (op : Op) (inputs : List ν) (isNode : ν → Op → List ν → Prop)
    (object value : ν) : Prop where
  | direct (hop : op = .arrayPush ∨ ∃ slot, op = .storeFixedSlot slot)
      (hinputs : inputs = [object, value])
  | element {elements index : ν} (hop : op = .initializeElement ∨ ∃ holes, op = .storeElement holes)
      (hinputs : inputs = [elements, index, value])
      (helements : isNode elements .elements [object])

lemma Op.Puts.map {ν μ : Type} {op : Op} {inputs : List ν} {R : ν → Op → List ν → Prop}
    {R' : μ → Op → List μ → Prop} {object value : ν} (h : op.Puts inputs R object value) (f : ν → μ)
    (hR : ∀ r op inputs, R r op inputs → R' (f r) op (inputs.map f)) :
    op.Puts (inputs.map f) R' (f object) (f value) := by
  cases h with
  | direct hop hinputs => exact .direct hop (by rw [hinputs]; rfl)
  | element hop hinputs helements =>
    exact .element hop (by rw [hinputs]; rfl) (hR _ _ _ helements)

/-- **A store of this value needs a barrier.**  An element that an array starts with needs one if
the array is tenured; any other store may be into a tenured object, and needs one if the value may
be an object. -/
def Op.needsBarrier (op : Op) (tenured : Bool) (value : Facts) : Bool :=
  if op = .initializeElement then tenured else value.needsPostBarrier

/-! ## The law -/

namespace Sketch

/-- **The barrier that was just added**: the inputs of the last node, if that is one. -/
def pending (before : List Sketch) : Option (List Ref) :=
  before.getLast?.bind fun x => if x.op = .postWriteBarrier then some x.inputs else none

/-- **A store has a barrier in front of it iff it needs one**, on the object and the value; no other
node has one in front of it. -/
def Barriered (s : Site) (tenured : Bool) (before : List Sketch) (x : Sketch) : Prop :=
  (x.op.storesReference = false → pending before = none) ∧
  (x.op.storesReference = true → ∃ object value : Operand,
    x.op.Puts x.inputs (Ref.IsNode before) object.ref value.ref ∧ value.Known s before ∧
    pending before =
      if x.op.needsBarrier tenured value.toFacts then some [object.ref, value.ref] else none)

variable {s : Site} {tenured : Bool} {before : List Sketch} {x : Sketch}

lemma pending_concat (before : List Sketch) (x : Sketch) :
    pending (before ++ [x]) = if x.op = .postWriteBarrier then some x.inputs else none := by
  rw [pending, List.getLast?_concat]
  rfl

/-- The barrier that was just added is one of the nodes. -/
lemma exists_isNode_of_pending {inputs : List Ref} (h : pending before = some inputs) :
    ∃ r : Ref, r.IsNode before .postWriteBarrier inputs := by
  obtain ⟨y, hy, hbarrier⟩ := Option.bind_eq_some_iff.1 h
  split_ifs at hbarrier with hop
  rw [List.getLast?_eq_getElem?] at hy
  exact ⟨_, y, ⟨_, rfl, hy⟩, hop, Option.some.inj hbarrier⟩

/-- A node that is no store, where no barrier waits for one. -/
lemma barriered_of_pending (hop : x.op.storesReference = false) (h : pending before = none) :
    x.Barriered s tenured before :=
  ⟨fun _ => h, fun hstore => nomatch hop.symm.trans hstore⟩

/-- Nodes that neither store nor tell the collector. -/
lemma lawful_of_untouched {xs : List Sketch} (hbefore : pending before = none)
    (h : ∀ x ∈ xs, x.op.touchesReference = false) :
    Lawful (Barriered s tenured) before xs ∧ pending (before ++ xs) = none := by
  induction xs generalizing before with
  | nil => exact ⟨trivial, by rwa [List.append_nil]⟩
  | cons x xs ih =>
    obtain ⟨hx, hxs⟩ := List.forall_mem_cons.1 h
    obtain ⟨hstore, hbarrier⟩ := Bool.or_eq_false_iff.1 hx
    have hafter : pending (before ++ [x]) = none := by
      rw [pending_concat, if_neg (of_decide_eq_false hbarrier)]
    obtain ⟨hlawful, hlast⟩ := ih hafter hxs
    rw [List.append_assoc, List.singleton_append] at hlast
    exact ⟨⟨barriered_of_pending hstore hbefore, hlawful⟩, hlast⟩

end Sketch

/-- **The stores of the plan have the barriers that they need**, and no barrier is left over. -/
structure Plan.Barriered (s : Site) (tenured : Bool) (p : Plan) : Prop where
  lawful : p.Lawful (Sketch.Barriered s tenured)
  settled : Sketch.pending p.sketches = none

/-- **A barrier of the plan** stands in front of the store that it is for. -/
theorem Plan.Barriered.exists_store {s : Site} {tenured : Bool} {p : Plan}
    (h : p.Barriered s tenured) {k : Nat} {y : Sketch} (hy : p.sketches[k]? = some y)
    (hop : y.op = .postWriteBarrier) :
    ∃ x, p.sketches[k + 1]? = some x ∧ x.op.storesReference = true ∧ ∃ object value : Operand,
      y.inputs = [object.ref, value.ref] ∧
      x.op.Puts x.inputs (Ref.IsNode (p.sketches.take (k + 1))) object.ref value.ref ∧
      value.Known s (p.sketches.take (k + 1)) ∧ x.op.needsBarrier tenured value.toFacts = true := by
  obtain ⟨hk, -⟩ := List.getElem?_eq_some_iff.1 hy
  have htake : Sketch.pending (p.sketches.take (k + 1)) = some y.inputs := by
    rw [List.take_add_one, hy, Option.toList_some, Sketch.pending_concat, if_pos hop]
  -- the plan ends in no barrier, so there is a node behind this one
  have hlt : k + 1 < p.sketches.length := by
    refine Nat.lt_of_le_of_ne hk fun hend => ?_
    rw [hend, List.take_length, h.settled] at htake
    cases htake
  have hx := List.getElem?_eq_getElem hlt
  obtain ⟨hquiet, hstores⟩ := h.lawful.getElem? hx
  have hstore : p.sketches[k + 1].op.storesReference = true := by
    by_contra hno
    rw [htake] at hquiet
    cases hquiet (Bool.eq_false_iff.2 hno)
  obtain ⟨object, value, hputs, hvalue, hpending⟩ := hstores hstore
  rw [htake] at hpending
  split_ifs at hpending with hneeds
  exact ⟨_, hx, hstore, object, value, Option.some.inj hpending, hputs, hvalue, hneeds⟩

/-- A plan that neither stores nor tells the collector. -/
lemma Plan.barriered_of_emits {s : Site} {tenured : Bool} {p : Plan}
    (h : p.Emits (Op.touchesReference · = false)) : p.Barriered s tenured := by
  have hall : ∀ x ∈ p.sketches, x.op.touchesReference = false := by
    intro x hx
    rcases op_of_mem_sketches hx with hop | hop
    · rw [hop]
      rfl
    · exact h _ hop
  obtain ⟨hlawful, hsettled⟩ := @Sketch.lawful_of_untouched s tenured [] p.sketches rfl hall
  exact ⟨hlawful, hsettled⟩

/-! ## Drafts -/

namespace Draft

variable {α : Type} {s : Site} {tenured : Bool} {before : List Sketch}

/-- **The draft describes nodes behind which no barrier waits** for a store. -/
def Settles (s : Site) (tenured : Bool) (before : List Sketch) (d : Draft α)
    (holds : α → List Sketch → Prop) : Prop :=
  d.Writes (Sketch.Barriered s tenured) before fun a after =>
    before <+: after ∧ Sketch.pending after = none ∧ holds a after

lemma settles_pure {a : α} {holds : α → List Sketch → Prop}
    (hbefore : Sketch.pending before = none) (h : holds a before) :
    (pure a : Draft α).Settles s tenured before holds :=
  writes_pure ⟨List.prefix_refl _, hbefore, h⟩

/-- A node that neither stores nor tells the collector. -/
lemma settles_add {op : Op} {inputs : List Operand} {ty : ValueType} {types : Option TypeSet}
    (hbefore : Sketch.pending before = none) (hop : op.touchesReference = false) :
    (add op inputs ty types).Settles s tenured before fun v after =>
      v.Is after ⟨op, inputs.map (·.ref), ty, types⟩ := by
  obtain ⟨hstore, hbarrier⟩ := Bool.or_eq_false_iff.1 hop
  refine writes_add_known (Sketch.barriered_of_pending hstore hbefore) fun v _ hv => ?_
  refine ⟨List.prefix_append _ _, ?_, hv⟩
  rw [Sketch.pending_concat]
  exact if_neg (of_decide_eq_false hbarrier)

/-- A conversion, where it is called for, gives a value that is known. -/
lemma settles_convert {convert : Bool} {op : Op} {value : Operand} {ty : ValueType}
    {d : Draft Operand} (hd : d = if convert then add op [value] ty else pure value)
    (hvalue : value ∈ s.call.operands) (hbefore : Sketch.pending before = none)
    (hop : op.touchesReference = false) :
    d.Settles s tenured before fun v after => v.Known s after := by
  subst hd
  cases convert with
  | false => exact settles_pure hbefore (.inl hvalue)
  | true =>
    exact (settles_add hbefore hop).imp fun v after h => ⟨h.1, h.2.1, .inr ⟨_, h.2.2⟩⟩

/-- Going on behind such a draft. -/
lemma Settles.then {β : Type} {x : Draft α} {f : α → Draft β} {found : α → List Sketch → Prop}
    {holds : β → List Sketch → Prop} (hx : x.Settles s tenured before found)
    (h : ∀ a after, before <+: after → Sketch.pending after = none → found a after →
      (f a).Writes (Sketch.Barriered s tenured) after holds) :
    (x >>= f).Writes (Sketch.Barriered s tenured) before holds :=
  writes_bind (hx.imp fun a after hafter => h a after hafter.1 hafter.2.1 hafter.2.2)

/-- **A barrier where it is needed.** -/
theorem writes_barrier {needed : Bool} {object value : Operand} {d : Draft Unit}
    {holds : Unit → List Sketch → Prop}
    (hd : d = if needed then add .postWriteBarrier [object, value] .noValue >>= fun _ => pure ()
      else pure ())
    (hbefore : Sketch.pending before = none)
    (h : ∀ after, before <+: after →
      Sketch.pending after = (if needed then some [object.ref, value.ref] else none) →
      holds () after) :
    d.Writes (Sketch.Barriered s tenured) before holds := by
  subst hd
  cases needed with
  | false => exact writes_pure (h before (List.prefix_refl _) hbefore)
  | true =>
    refine writes_bind (writes_add (Sketch.barriered_of_pending rfl hbefore) (writes_pure ?_))
    exact h _ (List.prefix_append _ _) (Sketch.pending_concat ..)

/-- **A store behind its barrier.** -/
theorem writes_store {op : Op} {inputs : List Operand} {ty : ValueType} {types : Option TypeSet}
    {object value : Operand} {holds : Operand → List Sketch → Prop}
    (hop : op.storesReference = true)
    (hputs : op.Puts (inputs.map (·.ref)) (Ref.IsNode before) object.ref value.ref)
    (hvalue : value.Known s before)
    (hpending : Sketch.pending before =
      if op.needsBarrier tenured value.toFacts then some [object.ref, value.ref] else none)
    (h : ∀ v after, before <+: after → Sketch.pending after = none → holds v after) :
    (add op inputs ty types).Writes (Sketch.Barriered s tenured) before holds := by
  refine writes_add ⟨fun hno => absurd (hno.symm.trans hop) nofun, fun _ => ?_⟩
    (h _ _ (List.prefix_append _ _) ?_)
  · exact ⟨object, value, hputs, hvalue, hpending⟩
  · rw [Sketch.pending_concat]
    refine if_neg fun hbarrier => ?_
    rw [show op = .postWriteBarrier from hbarrier] at hop
    cases hop

end Draft

/-- The stores of a plan have their barriers if those of its draft have. -/
lemma Plan.barriered_of_writes {s : Site} {tenured : Bool} {p : Plan} {d : Draft Unit}
    (hsteps : p.steps = d.steps) (h : d.Writes (Sketch.Barriered s tenured) [] fun _ after =>
      Sketch.pending after = none) : p.Barriered s tenured := by
  refine ⟨lawful_of_writes hsteps (h.imp fun _ _ _ => trivial), ?_⟩
  obtain ⟨new, hnew, -, -, hsettled⟩ := h
  have hsketches : p.sketches = new := by
    rw [sketches, hsteps, ← hnew]
    rfl
  rw [hsketches]
  exact hsettled

/-! ## The four sequences -/

open Draft (settles_pure settles_add settles_convert writes_barrier writes_store)
open Plan (barriered_of_writes)

variable {s : Site} {tenured : Bool} {before : List Sketch}

lemma ArrayUpdate.push_barriered (tenured : Bool) (s : Site) :
    (push s).Yields (Plan.Barriered s tenured) := by
  simp only [push, Decide.yields_bind, Decide.yields_pure]
  intro _ _ array _ value harg _ _ _ _ _ _
  have hvalue := Site.mem_operands_of_mem_args (Site.mem_args_of_arg harg)
  refine barriered_of_writes rfl ?_
  refine (settles_convert rfl hvalue rfl rfl).then fun stored after₁ _ hsettled₁ hstored => ?_
  refine (settles_add hsettled₁ rfl).then fun object after₂ hafter₂ hsettled₂ _ => ?_
  refine writes_bind (writes_barrier rfl hsettled₂ fun after₃ hafter₃ hpending => ?_)
  refine writes_bind (writes_store rfl (.direct (.inl rfl) rfl)
    (hstored.mono (hafter₂.trans hafter₃)) hpending fun v after₄ _ hsettled₄ => ?_)
  exact writes_bind (writes_push (writes_resumeAfter hsettled₄))

lemma Objects.setReservedSlot_barriered (tenured : Bool) (s : Site) :
    (setReservedSlot s).Yields (Plan.Barriered s tenured) := by
  simp only [setReservedSlot, Decide.yields_bind, Decide.yields_pure]
  intro _ _ _ _ slot _ object _ value harg
  have hvalue := Site.mem_operands_of_mem_args (Site.mem_args_of_arg harg)
  refine barriered_of_writes rfl ?_
  refine writes_bind (writes_barrier rfl rfl fun after₁ _ hpending => ?_)
  refine writes_bind (writes_store rfl (.direct (.inr ⟨slot, rfl⟩) rfl) (.inl hvalue) hpending
    fun store after₂ _ hsettled₂ => ?_)
  refine writes_bind (writes_pushConstant (Sketch.barriered_of_pending rfl hsettled₂) ?_)
  exact writes_resumeAfter (Sketch.pending_concat ..)

/-! ### Bulk stores -/

namespace ElementStore

lemma settles_int32Index (index : Operand) (hbefore : Sketch.pending before = none) :
    (int32Index index).Settles s tenured before fun _ _ => True := by
  rw [int32Index]
  split_ifs
  · exact settles_pure hbefore trivial
  · exact (settles_add hbefore rfl).imp fun _ _ h => ⟨h.1, h.2.1, trivial⟩

lemma settles_scalarValue (element : Scalar) (value : Operand)
    (hbefore : Sketch.pending before = none) :
    (scalarValue element value).Settles s tenured before fun _ _ => True := by
  rw [scalarValue]
  split_ifs
  · exact (settles_add hbefore rfl).imp fun _ _ h => ⟨h.1, h.2.1, trivial⟩
  · exact (settles_add hbefore rfl).imp fun _ _ h => ⟨h.1, h.2.1, trivial⟩
  · exact settles_pure hbefore trivial

/-- **The store of a group** tells the collector if it is a dense one; scalars do not concern it. -/
theorem writes_storeNode {object index value : Operand} {write : ElementWrite}
    (hvalue : value ∈ s.call.operands) (hbefore : Sketch.pending before = none) :
    (storeNode object index value write).Writes (Sketch.Barriered s tenured) before fun _ after =>
      Sketch.pending after = none := by
  cases write with
  | dense conversion =>
    refine (settles_convert rfl hvalue hbefore rfl).then fun stored after₁ _ hsettled₁ hstored => ?_
    refine (settles_add hsettled₁ rfl).then fun elements after₂ hafter₂ hsettled₂ helements => ?_
    refine writes_bind (writes_barrier rfl hsettled₂ fun after₃ hafter₃ hpending => ?_)
    exact writes_store rfl (.element (.inr ⟨false, rfl⟩) rfl (helements.isNode.mono hafter₃))
      (hstored.mono (hafter₂.trans hafter₃)) hpending fun _ _ _ h => h
  | typedArray element =>
    refine (settles_scalarValue element value hbefore).then fun stored after₁ _ hsettled₁ _ => ?_
    refine (settles_add hsettled₁ rfl).then fun elements after₂ _ hsettled₂ _ => ?_
    exact (settles_add hsettled₂ rfl).imp fun _ _ h => h.2.1
  | typedObject element =>
    refine (settles_scalarValue element value hbefore).then fun stored after₁ _ hsettled₁ _ => ?_
    exact (settles_add hsettled₁ rfl).imp fun _ _ h => h.2.1

/-- **All stores have their barriers**, by induction over the groups. -/
theorem storeAll_barriered {writes : List (ElementWrite × Group)}
    (hvalues : ∀ w ∈ writes, w.2.value ∈ s.call.operands)
    (hbefore : Sketch.pending before = none) :
    (storeAll writes).Writes (Sketch.Barriered s tenured) before fun _ after =>
      Sketch.pending after = none := by
  induction writes generalizing before with
  | nil => exact Draft.writes_pure (a := ()) hbefore
  | cons w writes ih =>
    obtain ⟨hvalue, hvalues⟩ := List.forall_mem_cons.1 hvalues
    have hindex := @settles_int32Index s tenured before w.2.index hbefore
    refine writes_bind (hindex.then fun index after₁ _ hsettled₁ _ => ?_)
    refine writes_bind ((writes_storeNode hvalue hsettled₁).imp fun store after₂ hsettled₂ => ?_)
    exact writes_resumeAfter (ih hvalues hsettled₂)

lemma putElements_barriered (tenured : Bool) (s : Site) :
    (putElements s).Yields (Plan.Barriered s tenured) := by
  simp only [putElements, Decide.yields_bind, Decide.yields_pure]
  intro _ _ r hr
  refine barriered_of_writes rfl (writes_bind ?_)
  refine writes_pushConstant (Sketch.barriered_of_pending rfl rfl) ?_
  refine storeAll_barriered (fun w hw => ?_) (Sketch.pending_concat ..)
  exact Site.mem_operands_of_mem_args (mem_args_of_classifyAll hr hw).2.2

end ElementStore

/-! ### Initial elements -/

/-- **The arrays that are constructed at a site are tenured** from the start, as its template is. -/
def Engine.allocatesTenured (env : Engine) (site : SiteId) : Bool :=
  (env.template? site .arrayConstructor).any (·.typeObject.initialHeap = .tenured)

namespace ArrayCreation

/-- **The initial elements have their barriers**, by induction over the arguments. -/
theorem storeInitial_barriered {elements array : Operand} {convert : Bool} {heap : Heap}
    {xs : List Operand} (hxs : ∀ x ∈ xs, x ∈ s.call.operands) (i : Nat) (last : Option Operand)
    (hbefore : Sketch.pending before = none)
    (helements : elements.ref.IsNode before .elements [array.ref]) :
    (storeInitial elements array convert heap i last xs).Writes
      (Sketch.Barriered s (heap = .tenured)) before fun _ after => Sketch.pending after = none := by
  induction xs generalizing before i last with
  | nil => exact Draft.writes_pure hbefore
  | cons x xs ih =>
    obtain ⟨hx, hxs⟩ := List.forall_mem_cons.1 hxs
    refine (settles_add hbefore rfl).then fun index after₁ hafter₁ hsettled₁ _ => ?_
    refine (settles_convert rfl hx hsettled₁ rfl).then
      fun value after₂ hafter₂ hsettled₂ hvalue => ?_
    have hbarrier : initialBarrier heap array value =
        if decide (heap = .tenured) then
          Draft.add .postWriteBarrier [array, value] .noValue >>= fun _ => pure ()
        else pure () := by
      simp only [decide_eq_true_eq]
      rfl
    refine writes_bind (writes_barrier hbarrier hsettled₂ fun after₃ hafter₃ hpending => ?_)
    have hof := ((helements.mono hafter₁).mono hafter₂).mono hafter₃
    refine writes_bind (writes_store rfl (.element (.inl rfl) rfl hof) (hvalue.mono hafter₃)
      hpending fun _ after₄ hafter₄ hsettled₄ => ?_)
    exact ih hxs (i + 1) (some index) hsettled₄ (hof.mono hafter₄)

lemma construct_barriered (s : Site) :
    (construct s).Yields (Plan.Barriered s (s.env.allocatesTenured s.call.site)) := by
  simp only [construct, Decide.yields_bind, Decide.yields_pure]
  intro _ _ t ht start _
  have htenured : s.env.allocatesTenured s.call.site =
      decide (t.typeObject.initialHeap = .tenured) := by
    have htemplate : s.env.template? s.call.site .arrayConstructor = some t :=
      Decide.need_eq_ok.1 ht
    rw [Engine.allocatesTenured, htemplate]
    rfl
  rw [htenured]
  refine barriered_of_writes rfl ?_
  refine (settles_add rfl rfl).then fun template after₁ _ hsettled₁ _ => ?_
  refine (settles_add hsettled₁ rfl).then fun array after₂ _ hsettled₂ _ => ?_
  refine writes_bind (writes_push ?_)
  split_ifs
  · refine (settles_add hsettled₂ rfl).then fun elements after₃ _ hsettled₃ helements => ?_
    have hstored := @storeInitial_barriered s after₃ elements array
      (s.call.resultTypes.convertDoubles.value = .always) t.typeObject.initialHeap s.args
      (fun x hx => Site.mem_operands_of_mem_args hx) 0 none hsettled₃
      helements.isNode
    refine writes_bind (hstored.imp fun last after₄ hsettled₄ => ?_)
    cases last with
    | none => exact Draft.writes_pure (a := ()) hsettled₄
    | some last =>
      refine (settles_add hsettled₄ rfl).then fun length after₅ _ hsettled₅ _ => ?_
      exact writes_resumeAfter hsettled₅
  · exact Draft.writes_pure (a := ()) hsettled₂

end ArrayCreation

/-! ## All plans -/

/-- Calls of the native are specialized to stores that the collector may have to be told of. -/
def Native.storesReferences (n : Native) : Bool :=
  n matches arrayPush | arrayConstructor | unsafePutElements | unsafeSetReservedSlot

lemma Native.storesReferences_of_mayEmit {n : Native} {op : Op} (h : n.mayEmit op = true)
    (hop : op.touchesReference = true) : n.storesReferences = true := by
  cases op <;> first
    | (cases hop; done)
    | cases n <;> first | rfl | cases h

/-- Elements that an array starts with are stored by no other call than that which creates it. -/
lemma Callee.eq_initializeElement {callee : Callee} {op : Op}
    (h : callee.mayEmit .initializeElement = true) (hop : callee.mayEmit op = true)
    (hstore : op.storesReference = true) : op = .initializeElement := by
  cases callee with
  | descriptor d => cases h
  | function f =>
    obtain ⟨n, hn, h⟩ := (Option.any_eq_true _ _).1 h
    have hop' : n.mayEmit op = true := by
      rw [Callee.mayEmit, hn] at hop
      exact hop
    cases n <;> first
      | (cases h; done)
      | cases op <;> first | rfl | (cases hstore; done) | cases hop'

lemma Registry.find?_barriered {kind : CallKind} {native : Native} {p : Specializer}
    (h : find? kind native = some p) (hstores : native.storesReferences = true) (f : FunctionObject)
    (s : Site) :
    (p.decide f s).Yields (Plan.Barriered s (s.env.allocatesTenured s.call.site)) := by
  cases kind with
  | getter =>
    cases native <;> first
      | (cases hstores; done)
      | cases h
  | call =>
    cases native
    case arrayPush =>
      cases h
      exact ArrayUpdate.push_barriered _ s
    case arrayConstructor =>
      cases h
      exact ArrayCreation.construct_barriered s
    case unsafePutElements =>
      cases h
      exact ElementStore.putElements_barriered _ s
    case unsafeSetReservedSlot =>
      cases h
      exact Objects.setReservedSlot_barriered _ s
    all_goals cases hstores

/-- **In every plan the stores have the barriers that they need.** -/
theorem Inliner.Origin.barriered {s : Site} {p : Plan} {callee : Callee} (h : Origin s p callee) :
    p.Barriered s (s.env.allocatesTenured s.call.site) := by
  rcases h.emits_or_exists_native (Op.touchesReference · = false) (fun _ => rfl) (fun _ => rfl) with
    hquiet | ⟨f, native, specializer, op, hfind, hdecide, hemits, htouches⟩
  · exact Plan.barriered_of_emits hquiet
  · have hstores := Native.storesReferences_of_mayEmit hemits (eq_true_of_ne_false htouches)
    exact Registry.find?_barriered hfind hstores f s p hdecide

end CallSite
