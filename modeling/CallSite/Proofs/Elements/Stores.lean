import CallSite.Proofs.Classes.Attempt
import CallSite.Proofs.Evolution.Stores
import CallSite.Proofs.Requests
import CallSite.Specialize.Registry

/-!
# The stores of a plan

A call of `push` asks for its argument to be stored into the receiver, and a bulk store for the
value of each group to be stored into the object of the group.  The stores of the plan are these, in
order.  Of a dense store more is known: it was decided with the observed types of the object, and
the value goes through a conversion just when these demand one.

* `Op.isElementStore`, `Op.isDenseStore` — stores into elements, and those into dense vectors.
* `StoreRequest`, `Callee.stores` — **the stores that a call asks for**.
* `Ref.Carries` — an input is the value, or the double that it was converted to.
* `Sketch.StoresFor` — **a node carries out a store** that is asked for.
* `Inliner.Origin.stores` — the stores of every plan are those that its call asks for.
-/

namespace CallSite

open Draft (Unasked unasked_pure unasked_add writes_bind writes_add_unasked writes_add_served
  writes_push writes_resumeAfter)

/-! ## Stores -/

/-- The operation stores a value into a dense element vector. -/
def Op.isDenseStore : Op → Bool
  | .arrayPush | .storeElement _ => true
  | _ => false

/-- **The operation stores a value among the elements** of an object: into a dense vector, a typed
array, or a typed object.  Atomic accesses are none of these. -/
def Op.isElementStore : Op → Bool
  | .arrayPush | .storeElement _ | .storeTypedElement _ .unordered
  | .storeTypedObjectElement _ => true
  | _ => false

/-- **A store that a call asks for**: a value goes among the elements of an object, behind the last
of them or at an index. -/
structure StoreRequest (ν : Type) where
  object : ν
  value : ν
  appends : Bool

/-- The store of each group of object, index and value; what is left over is no group. -/
def StoreRequest.ofGroups {ν : Type} : List ν → List (StoreRequest ν)
  | object :: _ :: value :: rest => ⟨object, value, false⟩ :: ofGroups rest
  | _ => []

/-- The stores that a call of the native asks for. -/
def Native.stores {ν : Type} (n : Native) (c : Call ν) : List (StoreRequest ν) :=
  match n with
  | arrayPush => c.args.map fun value => ⟨c.receiver, value, true⟩
  | unsafePutElements => StoreRequest.ofGroups c.args
  | _ => []

/-- **The stores that a call of the callee asks for.** -/
def Callee.stores {ν : Type} (callee : Callee) (c : Call ν) : List (StoreRequest ν) :=
  match callee with
  | function f => f.native?.elim [] (·.stores c)
  | descriptor _ => []

/-- **The input is the value, or what it was converted to**, given the nodes before. -/
def Ref.Carries (before : List Sketch) (converted : Bool) (r value : Ref) : Prop :=
  if converted then ∃ k, r = .added k ∧ before[k]? = some ⟨.toDouble, [value], .double, none⟩
  else r = value

/-- A node added later changes nothing. -/
lemma Ref.Carries.mono {before after : List Sketch} {converted : Bool} {r value : Ref}
    (h : r.Carries before converted value) (hafter : before <+: after) :
    r.Carries after converted value := by
  rw [Carries] at h ⊢
  split_ifs at h ⊢
  · obtain ⟨k, rfl, hx⟩ := h
    obtain ⟨more, rfl⟩ := hafter
    obtain ⟨hk, -⟩ := List.getElem?_eq_some_iff.1 hx
    exact ⟨k, rfl, (List.getElem?_append_left hk).trans hx⟩
  · exact h

/-- **A dense store of a value was decided** with the observed types of the object: no barrier is
needed, as some facts guarantee. -/
structure TypeSet.AdmitsStore (t : TypeSet) (facts : List Dependency) (value : Facts) : Prop where
  inside : (t.writeNeedsBarrier value.ty value.types).value = false
  relied : (t.writeNeedsBarrier value.ty value.types).dependencies ⊆ facts

/-- **The node carries out the store.**  What is appended to an array is never stored where it
cannot be told whether to convert. -/
structure Sketch.StoresFor (facts : List Dependency) (before : List Sketch) (x : Sketch)
    (w : StoreRequest Operand) : Prop where
  appends : x.op = .arrayPush ↔ w.appends = true
  object : ∃ r, x.inputs.head? = some r ∧ r.StandsFor before w.object.ref
  dense : x.op.isDenseStore = true → ∃ t r, w.object.types = some t ∧ x.inputs.getLast? = some r ∧
    t.AdmitsStore facts w.value.toFacts ∧
    r.Carries before t.convertDoubles.value.converts w.value.ref ∧
    (w.appends = true → t.convertDoubles.value ≠ .ambiguous)

/-- **The stores of a plan are those that are asked for**, in order. -/
abbrev Plan.StoresAll (p : Plan) (facts : List Dependency) (ws : List (StoreRequest Operand)) :
    Prop :=
  p.Serves Op.isElementStore (Sketch.StoresFor facts) ws

/-- The law that each store is the one whose turn it is. -/
abbrev Sketch.StoresInTurn (facts : List Dependency) (ws : List (StoreRequest Operand)) :
    List Sketch → Sketch → Prop :=
  ServesInTurn Op.isElementStore (StoresFor facts) ws

/-- The number of stores. -/
abbrev Sketch.storeCount (xs : List Sketch) : Nat := count Op.isElementStore xs

variable {facts : List Dependency} {ws : List (StoreRequest Operand)} {before : List Sketch}

/-! ## Appending -/

namespace ArrayUpdate

/-- The value as it is stored carries the value. -/
lemma writes_stored {conversion : DoubleConversion} {value : Operand}
    {holds : Operand → List Sketch → Prop}
    (h : ∀ v after, before <+: after →
      Sketch.storeCount after = Sketch.storeCount before →
      v.ref.Carries after conversion.converts value.ref → holds v after) :
    (stored conversion value).Writes (Sketch.StoresInTurn facts ws) before holds := by
  rw [stored]
  cases hconverts : conversion.converts with
  | false =>
    rw [hconverts] at h
    exact Draft.writes_pure (h value before (List.prefix_refl _) rfl rfl)
  | true =>
    rw [hconverts] at h
    refine writes_add_unasked rfl fun after hafter hcount => ?_
    refine h _ after (hafter ▸ List.prefix_append _ _) hcount ?_
    exact ⟨before.length, rfl, by rw [hafter, List.getElem?_concat_length]; rfl⟩

lemma postBarrier_unasked (object value : Operand) :
    (postBarrier object value).Unasked Op.isElementStore (Sketch.StoresFor facts) ws before := by
  rw [postBarrier]
  split_ifs
  · refine (unasked_add rfl).then fun _ _ hafter hcount => ?_
    exact Draft.writes_pure (a := ()) ⟨hafter, hcount⟩
  · exact unasked_pure ()

/-- **Appending a value is one store**, into the receiver. -/
theorem push_stores (s : Site) :
    (push s).Yields fun p => p.StoresAll p.facts (Native.arrayPush.stores s.call) := by
  simp only [push, Decide.yields_bind, Decide.yields_pure]
  intro _ hclassify array harray value hvalue _ houtside prototype _ _ hconversion
  obtain ⟨t, ht, -, -, rfl⟩ := DenseArray.types_eq_ok.1 harray
  have hargs : s.call.args = [value] :=
    (Site.admits_of_classify hclassify).args_eq_of_arg rfl hvalue
  rw [Native.stores, hargs]
  refine Plan.serves_of_writes rfl ?_
  refine writes_bind (writes_stored fun stored after₁ _ hcount₁ hcarries => ?_)
  refine writes_bind (writes_add_unasked rfl fun after₂ hafter₂ hcount₂ => ?_)
  refine (postBarrier_unasked _ stored).then fun _ after₃ hafter₃ hcount₃ => ?_
  have hcount : Sketch.count _ after₃ = 0 := hcount₃.trans (hcount₂.trans hcount₁)
  refine writes_bind (writes_add_served rfl (by rw [hcount]; rfl) ?_ fun _ after₄ _ hcount₄ => ?_)
  · refine ⟨iff_of_true rfl rfl,
      ⟨_, rfl, (hafter₂ ▸ Ref.standsFor_view rfl rfl : Ref.StandsFor ..).mono hafter₃⟩, ?_⟩
    refine fun _ => ⟨t, stored.ref, ht, rfl, ⟨?_, ?_⟩, ?_, fun _ => ?_⟩
    · simpa using Decide.require_eq_ok.1 houtside
    · intro d hd
      simp [Plan.relyingOn, hd]
    · exact hcarries.mono ((hafter₂ ▸ List.prefix_append _ _ : _ <+: after₂).trans hafter₃)
    · exact of_decide_eq_true (Decide.require_eq_ok.1 hconversion)
  · exact writes_bind (writes_push (writes_resumeAfter (by rw [hcount₄, hcount]; rfl)))

end ArrayUpdate

/-! ## Bulk stores -/

namespace ElementStore

/-- **What was decided about a group** that goes into a dense vector. -/
def Decided (facts : List Dependency) (write : ElementWrite) (g : Group) : Prop :=
  ∀ c, write = .dense c → ∃ t, g.object.types = some t ∧ t.AdmitsStore facts g.value.toFacts ∧
    c = t.convertDoubles.value

lemma Decided.mono {facts' : List Dependency} {write : ElementWrite} {g : Group}
    (h : Decided facts write g) (hfacts : facts ⊆ facts') : Decided facts' write g := by
  intro c hc
  obtain ⟨t, ht, hadmits, hconversion⟩ := h c hc
  exact ⟨t, ht, ⟨hadmits.inside, List.Subset.trans hadmits.relied hfacts⟩, hconversion⟩

lemma classify?_decided {g : Group} {a : Answer ElementWrite} (h : classify? g = some a) :
    Decided a.dependencies a.value g := by
  intro conversion hdense
  rw [classify?] at h
  split_ifs at h
  obtain ⟨t, ht, h⟩ := Option.bind_eq_some_iff.1 h
  obtain ⟨c, -, h⟩ := Option.bind_eq_some_iff.1 h
  cases hfirst : dense? t c g.value with
  | some write =>
    rw [hfirst] at h
    obtain rfl := Option.some.inj h
    obtain ⟨-, houtside, rfl⟩ := dense?_eq_some.1 hfirst
    exact ⟨t, ht, ⟨houtside, List.subset_append_left _ _⟩, (ElementWrite.dense.inj hdense).symm⟩
  | none =>
    rw [hfirst] at h
    obtain ⟨write, hwrite, rfl⟩ := Option.map_eq_some_iff.1 h
    cases hdense
    rw [typed?] at hwrite
    split at hwrite
    · cases hwrite
    · obtain ⟨element, -, helement⟩ := Option.map_eq_some_iff.1 hwrite
      cases helement

/-- **What was decided about all groups** rests on the facts of all of them. -/
theorem classifyAll_decided (gs : List Group) :
    (classifyAll gs).Yields fun r => ∀ w ∈ r.1, Decided r.2 w.1 w.2 := by
  induction gs with
  | nil => exact Decide.yields_ok.2 (List.forall_mem_nil _)
  | cons g gs ih =>
    simp only [classifyAll, Decide.yields_bind, Decide.yields_pure]
    intro write hwrite r hr
    have hfirst := classify?_decided (Decide.need_eq_ok.1 hwrite)
    refine List.forall_mem_cons.2 ⟨hfirst.mono (List.subset_append_left _ _), fun w hw => ?_⟩
    exact (ih r hr w hw).mono (List.subset_append_right _ _)

lemma int32Index_unasked (index : Operand) :
    (int32Index index).Unasked Op.isElementStore (Sketch.StoresFor facts) ws before := by
  rw [int32Index]
  split_ifs
  · exact unasked_pure index
  · exact unasked_add rfl

lemma scalarValue_unasked (element : Scalar) (value : Operand) :
    (scalarValue element value).Unasked Op.isElementStore (Sketch.StoresFor facts) ws before := by
  rw [scalarValue]
  split_ifs
  · exact unasked_add rfl
  · exact unasked_add rfl
  · exact unasked_pure value

/-- A store that is resumed after, when it is its turn. -/
lemma writes_storeResumed {op : Op} {inputs : List Operand} {w : StoreRequest Operand} {n : Nat}
    {holds : Unit → List Sketch → Prop} (hop : op.isElementStore = true)
    (hcount : Sketch.storeCount before = n) (hturn : ws[n]? = some w)
    (hserves : Sketch.StoresFor facts before ⟨op, inputs.map (·.ref), .noValue, none⟩ w)
    (h : ∀ after, Sketch.storeCount after = n + 1 → holds () after) :
    (Draft.add op inputs .noValue).Writes (Sketch.StoresInTurn facts ws) before fun v after =>
      (Draft.resumeAfter v).Writes (Sketch.StoresInTurn facts ws) after holds := by
  subst hcount
  exact writes_add_served hop hturn hserves fun v after _ hafter =>
    writes_resumeAfter (h after hafter)

/-- **The store of a group** is the one whose turn it is. -/
theorem writes_store {write : ElementWrite} {g : Group} (hdecided : Decided facts write g)
    (hturn : ws[Sketch.storeCount before]? = some ⟨g.object, g.value, false⟩)
    {holds : Unit → List Sketch → Prop}
    (h : ∀ after, Sketch.storeCount after = Sketch.storeCount before + 1 → holds () after) :
    (store write g).Writes (Sketch.StoresInTurn facts ws) before holds := by
  refine (int32Index_unasked g.index).then fun index after₁ _ hcount₁ => writes_bind ?_
  cases write with
  | dense conversion =>
    obtain ⟨t, ht, hadmits, rfl⟩ := hdecided _ rfl
    refine writes_bind (ArrayUpdate.writes_stored fun stored after₂ _ hcount₂ hcarries => ?_)
    refine writes_bind (writes_add_unasked rfl fun after₃ hafter₃ hcount₃ => ?_)
    refine (ArrayUpdate.postBarrier_unasked _ stored).then fun _ after₄ hafter₄ hcount₄ => ?_
    have hcount := hcount₄.trans (hcount₃.trans (hcount₂.trans hcount₁))
    refine writes_storeResumed rfl hcount hturn ⟨iff_of_false nofun nofun,
      ⟨_, rfl, (hafter₃ ▸ Ref.standsFor_view rfl rfl : Ref.StandsFor ..).mono hafter₄⟩, ?_⟩ h
    refine fun _ => ⟨t, stored.ref, ht, rfl, hadmits, ?_, nofun⟩
    exact hcarries.mono ((hafter₃ ▸ List.prefix_append _ _ : _ <+: after₃).trans hafter₄)
  | typedArray element =>
    refine (scalarValue_unasked element g.value).then fun value after₂ _ hcount₂ => ?_
    refine writes_bind (writes_add_unasked rfl fun after₃ hafter₃ hcount₃ => ?_)
    have hcount := hcount₃.trans (hcount₂.trans hcount₁)
    refine writes_storeResumed rfl hcount hturn ⟨iff_of_false nofun nofun, ?_, nofun⟩ h
    exact ⟨_, rfl, hafter₃ ▸ Ref.standsFor_view rfl rfl⟩
  | typedObject element =>
    refine (scalarValue_unasked element g.value).then fun value after₂ _ hcount₂ => ?_
    have hcount := hcount₂.trans hcount₁
    refine writes_storeResumed rfl hcount hturn ⟨iff_of_false nofun nofun, ?_, nofun⟩ h
    exact ⟨_, rfl, .inl rfl⟩

/-- **The stores of all groups** take turns, by induction over the groups. -/
theorem writes_storeAll {writes : List (ElementWrite × Group)} (done : List (StoreRequest Operand))
    (hdecided : ∀ w ∈ writes, Decided facts w.1 w.2)
    (hws : ws = done ++ writes.map fun w => ⟨w.2.object, w.2.value, false⟩)
    (hdone : Sketch.storeCount before = done.length) :
    (storeAll writes).Writes (Sketch.StoresInTurn facts ws) before fun _ after =>
      Sketch.storeCount after = ws.length := by
  induction writes generalizing before done with
  | nil =>
    refine Draft.writes_pure (a := ()) ?_
    rw [hdone, hws, List.map_nil, List.append_nil]
  | cons w writes ih =>
    obtain ⟨hw, hwrites⟩ := List.forall_mem_cons.1 hdecided
    refine writes_bind (writes_store hw ?_ fun after hcount => ?_)
    · rw [hws, hdone, List.getElem?_append_right (Nat.le_refl _), Nat.sub_self]
      rfl
    · refine ih (done ++ [⟨w.2.object, w.2.value, false⟩]) hwrites ?_ ?_
      · rw [hws, List.append_assoc]
        rfl
      · rw [hcount, hdone, List.length_append]
        rfl

lemma ofGroups_eq_map (xs : List Operand) :
    StoreRequest.ofGroups xs = (groups xs).map fun g => ⟨g.object, g.value, false⟩ := by
  fun_induction groups xs with
  | case1 object index value rest ih =>
    rw [StoreRequest.ofGroups, ih]
    rfl
  | case2 xs h =>
    rw [StoreRequest.ofGroups.eq_def]
    split
    · next object index value rest => exact absurd rfl (h object index value rest)
    · rfl

/-- **A bulk store is one store for each group**, in order. -/
theorem putElements_stores (s : Site) :
    (putElements s).Yields fun p =>
      p.StoresAll p.facts (Native.unsafePutElements.stores s.call) := by
  simp only [putElements, Decide.yields_bind, Decide.yields_pure]
  intro _ _ r hr
  have hmap : r.1.map (·.2) = groups s.args := (classifyAll_ensures _).of_eq_ok hr
  refine Plan.serves_of_writes rfl (writes_bind ?_)
  refine writes_bind (writes_add_unasked rfl fun after _ hcount => writes_push ?_)
  refine writes_storeAll [] (classifyAll_decided (groups s.args) r hr) ?_ hcount
  have hargs : groups s.call.args = r.1.map (·.2) := hmap.symm
  rw [List.nil_append, Native.stores, ofGroups_eq_map, hargs, List.map_map]
  rfl

end ElementStore

/-! ## All plans -/

/-- Only two natives emit stores into elements. -/
lemma Native.eq_of_mayEmit_isElementStore {n : Native} {op : Op} (h : n.mayEmit op = true)
    (hop : op.isElementStore = true) : n = arrayPush ∨ n = unsafePutElements := by
  cases op
  case storeTypedElement element ordering =>
    cases ordering with
    | unordered => cases n <;> first | exact .inr rfl | cases h
    | seqCst => cases hop
  all_goals first
    | (cases hop; done)
    | cases n <;> first | exact .inl rfl | exact .inr rfl | cases h

lemma Native.stores_eq_nil {ν : Type} {n : Native} (c : Call ν)
    (h : ¬(n = arrayPush ∨ n = unsafePutElements)) : n.stores c = [] := by
  cases n <;> first | rfl | exact absurd (.inl rfl) h | exact absurd (.inr rfl) h

/-- **The stores of a plan of the registry** are those that the native asks for. -/
theorem Registry.find?_stores {kind : CallKind} {native : Native} {p : Specializer}
    (h : find? kind native = some p) (f : FunctionObject) (s : Site) :
    (p.decide f s).Yields fun q => q.StoresAll q.facts (native.stores s.call) := by
  by_cases hstores : native = .arrayPush ∨ native = .unsafePutElements
  · rcases hstores with rfl | rfl <;> cases kind
    · cases h
      exact ArrayUpdate.push_stores s
    · cases h
    · cases h
      exact ElementStore.putElements_stores s
    · cases h
  · intro q hq
    rw [Native.stores_eq_nil s.call hstores]
    refine Plan.serves_nil_of_emits (find?_emits h f s q hq) (fun op hop => ?_) rfl
    by_contra hstore
    exact hstores (Native.eq_of_mayEmit_isElementStore hop (Bool.not_eq_false _ ▸ hstore))

/-- **The stores of every plan** are those that its call asks for. -/
theorem Inliner.Origin.stores {s : Site} {p : Plan} {callee : Callee} (h : Origin s p callee) :
    p.StoresAll p.facts (callee.stores s.call) := by
  cases h with
  | @native f native specializer hnative hfind hdecide =>
    rw [Callee.stores, hnative]
    exact Registry.find?_stores hfind f s p hdecide
  | @descriptor d hdecide =>
    have hemits : p.Emits (Op.isElementStore · = false) :=
      TypedMemory.construct_emits s d (fun _ => rfl) (fun _ => rfl) p hdecide
    exact Plan.serves_nil_of_emits hemits (fun _ hop => hop) rfl

end CallSite
