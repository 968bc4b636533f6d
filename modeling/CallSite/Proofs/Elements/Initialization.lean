import CallSite.Proofs.Elements.Bulk
import CallSite.Proofs.Outcome
import CallSite.Proofs.Resumption
import Mathlib.Algebra.Group.Nat.Defs

/-!
# Arrays start with their arguments

`Array(a, b, …)` becomes a new array in which the arguments are stored one after the other.
Indices, conversions and barriers come in between, and how many of these there are depends on types;
but what allocates the array, initializes it or has an effect is fixed by the arguments alone.
Nothing sees the elements before the length is set, so that is the only effect.

* `ArrayPart` — what there is to do for an array with given elements.
* `Op.Builds` — **a node does a part of it**.
* `ArrayCreation.writes_storeInitial` — the loop over the elements does one part after the other.
* `ArrayCreation.construct_eq_ok` — what several arguments are specialized to.
* `Builder.BuildsArray`, `Inliner.attempt_buildsArray` — **the array is built from its arguments**.
-/

namespace CallSite

open Draft (writes_pure writes_bind writes_add writes_push writes_resumeAfter writes_add_unasked
  writes_add_served)

/-! ## Parts -/

/-- **A part of building an array** with initial elements. -/
inductive ArrayPart (ν : Type) where
  | allocation
  | element (i : Nat) (value : ν)
  | length

namespace ArrayPart

variable {ν μ : Type}

protected def map (f : ν → μ) : ArrayPart ν → ArrayPart μ
  | allocation => .allocation
  | element i value => .element i (f value)
  | length => .length

/-- **The parts of an array with these elements**, in the order in which they have to be done. -/
def ofElements (xs : List ν) : List (ArrayPart ν) := allocation :: (xs.mapIdx element ++ [length])

lemma length_ofElements (xs : List ν) : (ofElements xs).length = xs.length + 2 := by
  rw [ofElements, List.length_cons, List.length_append, List.length_mapIdx]
  rfl

lemma ofElements_map (f : ν → μ) (xs : List ν) :
    ofElements (xs.map f) = (ofElements xs).map (ArrayPart.map f) := by
  have helements : (xs.map f).mapIdx element = (xs.mapIdx element).map (ArrayPart.map f) := by
    refine List.ext_getElem? fun i => ?_
    rw [List.getElem?_mapIdx, List.getElem?_map, List.getElem?_map, List.getElem?_mapIdx,
      Option.map_map, Option.map_map]
    rfl
  rw [ofElements, ofElements, List.map_cons, List.map_append, helements]
  rfl

lemma getElem?_element {xs : List ν} {i : Nat} {x : ν} (h : xs[i]? = some x) :
    (ofElements xs)[i + 1]? = some (.element i x) := by
  obtain ⟨hi, -⟩ := List.getElem?_eq_some_iff.1 h
  rw [ofElements, List.getElem?_cons_succ, List.getElem?_append_left (by simpa using hi),
    List.getElem?_mapIdx, h]
  rfl

lemma element_mem_iff {xs : List ν} {i : Nat} {x : ν} :
    .element i x ∈ ofElements xs ↔ xs[i]? = some x := by
  refine ⟨fun h => ?_, fun h => List.mem_of_getElem? (getElem?_element h)⟩
  have hmem : .element i x ∈ xs.mapIdx element := by simpa [ofElements] using h
  obtain ⟨j, hj, helement⟩ := List.mem_mapIdx.1 hmem
  cases helement
  exact List.getElem?_eq_getElem hj

lemma getElem?_length (xs : List ν) : (ofElements xs)[xs.length + 1]? = some .length := by
  rw [ofElements, List.getElem?_cons_succ, ← List.length_mapIdx (f := element),
    List.getElem?_concat_length]

end ArrayPart

namespace Op

variable {ν μ : Type}

/-- The operation allocates an array or initializes one, guards a value, or has an effect. -/
def buildsArray : Op → Bool
  | newArray .. | initializeElement | typeBarrier _ => true
  | op => op.isEffectful

/-- **The node does a part of building an array** with `count` elements: it allocates as many, puts
one of them at its index, as it is or as the double that a node makes of it, or sets the length, by
the index of the last. -/
inductive Builds (op : Op) (inputs : List ν) (isNode : ν → Op → List ν → Prop) (elements : ν)
    (heap : Heap) (convert : Bool) (count : Nat) : ArrayPart ν → Prop where
  | allocation (hop : op = .newArray (UInt32.ofNat count) true heap convert) :
      Builds op inputs isNode elements heap convert count .allocation
  | element {i : Nat} {value index stored : ν} (hop : op = .initializeElement)
      (hinputs : inputs = [elements, index, stored])
      (hindex : isNode index (.constant (.int32 (Int32.ofNat i))) [])
      (hstored : Converted (if convert then some .toDouble else none) isNode stored value) :
      Builds op inputs isNode elements heap convert count (.element i value)
  | length {last : ν} {j : Nat} (hop : op = .setInitializedLength)
      (hinputs : inputs = [elements, last])
      (hlast : isNode last (.constant (.int32 (Int32.ofNat j))) []) (hj : count = j + 1) :
      Builds op inputs isNode elements heap convert count .length

variable {R : ν → Op → List ν → Prop} {S : μ → Op → List μ → Prop}

lemma Builds.map {op : Op} {inputs : List ν} {elements : ν} {heap : Heap} {convert : Bool}
    {count : Nat} {w : ArrayPart ν} (h : op.Builds inputs R elements heap convert count w)
    (f : ν → μ) (hR : ∀ r op inputs, R r op inputs → S (f r) op (inputs.map f)) :
    op.Builds (inputs.map f) S (f elements) heap convert count (w.map f) := by
  cases h with
  | allocation hop => exact .allocation hop
  | element hop hinputs hindex hstored =>
    exact .element hop (by rw [hinputs]; rfl) (hR _ _ _ hindex) (hstored.map f hR)
  | length hop hinputs hlast hj =>
    exact .length hop (by rw [hinputs]; rfl) (hR _ _ _ hlast) hj

/-- Nothing is guarded. -/
lemma Builds.ne_typeBarrier {op : Op} {inputs : List ν} {elements : ν} {heap : Heap}
    {convert : Bool} {count : Nat} {w : ArrayPart ν}
    (h : op.Builds inputs R elements heap convert count w) (kind : Barrier) :
    op ≠ .typeBarrier kind := by
  cases h with
  | allocation hop => rw [hop]; nofun
  | element hop => rw [hop]; nofun
  | length hop => rw [hop]; nofun

end Op

/-! ## Plans -/

namespace ArrayCreation

/-- Whether initial elements are converted to doubles. -/
def converts (s : Site) : Bool := s.call.resultTypes.convertDoubles.value = .always

/-- **The steps that build an array** with initial elements. -/
def building (s : Site) (t : Template) : Draft Unit := do
  let template ← Draft.constant t.constant
  let op := Op.newArray (UInt32.ofNat s.argc) true t.typeObject.initialHeap (converts s)
  let array ← Draft.add op [template] .object (some (.singleton t.typeObject))
  Draft.push array
  fill array (converts s) t.typeObject.initialHeap s.args

/-- The template takes these initial elements, as the facts guarantee: nothing is known of its
arrays, or their element types include every argument. -/
def Takes (t : Template) (xs : List Operand) (facts : List Dependency) : Prop :=
  t.typeObject.unknownProperties = true ∧ facts = [] ∨
    t.typeObject.unknownProperties = false ∧ facts = [.elementTypes t.typeObject.id] ∧
      ∀ x ∈ xs, ∃ types, t.typeObject.elementTypes = some types ∧ types.includes x.ty x.types = true

lemma startOfElements_eq_ok {s : Site} {t : Template} {r : Start × List Dependency}
    (h : startOfElements s t = .ok r) :
    r.1 = ⟨UInt32.ofNat s.argc, true⟩ ∧ Takes t s.args r.2 := by
  rw [startOfElements] at h
  dsimp only at h
  split_ifs at h with hunknown
  · obtain rfl := Decide.pure_eq_ok.1 h
    exact ⟨rfl, .inl ⟨hunknown, rfl⟩⟩
  · simp only [Decide.bind_eq_ok, Decide.require_eq_ok, Decide.pure_eq_ok] at h
    obtain ⟨_, hfits, rfl⟩ := h
    refine ⟨rfl, .inr ⟨Bool.eq_false_iff.2 hunknown, rfl, fun x hx => ?_⟩⟩
    exact (Option.any_eq_true _ _).1 (List.all_eq_true.1 hfits x hx)

/-- **Several arguments** are specialized to an array that is built from them. -/
theorem construct_eq_ok {s : Site} {p : Plan} (hargc : 2 ≤ s.argc) (h : construct s = .ok p) :
    ∃ t facts, s.env.template? s.call.site .arrayConstructor = some t ∧ Takes t s.args facts ∧
      p = .relyingOn (facts ++ s.call.resultTypes.convertDoubles.dependencies) (building s t) := by
  rw [construct] at h
  simp only [Decide.bind_eq_ok, Decide.pure_eq_ok] at h
  obtain ⟨_, -, t, ht, ⟨first, facts⟩, hstart, rfl⟩ := h
  have hstart : startOfElements s t = .ok (first, facts) := by
    rw [← hstart, start, if_neg (by omega), if_neg (by omega)]
  obtain ⟨rfl, htakes⟩ := startOfElements_eq_ok hstart
  refine ⟨t, facts, Decide.need_eq_ok.1 ht, htakes, ?_⟩
  simp only [if_pos hargc]
  rfl

/-! ### The loop -/

section

variable {elements : Ref} {heap : Heap} {convert : Bool} {count : Nat}
  {parts : List (ArrayPart Ref)} {before : List Sketch}

/-- A node does the part whose turn it is. -/
abbrev InTurn (elements : Ref) (heap : Heap) (convert : Bool) (count : Nat)
    (parts : List (ArrayPart Ref)) : List Sketch → Sketch → Prop :=
  Sketch.ServesInTurn Op.buildsArray
    (fun before x => x.op.Builds x.inputs (Ref.IsNode before) elements heap convert count) parts

/-- The number of parts that are done. -/
abbrev done (xs : List Sketch) : Nat := Sketch.count Op.buildsArray xs

/-- A node that is in between. -/
lemma writes_between {op : Op} {inputs : List Operand} {ty : ValueType} {types : Option TypeSet}
    {holds : Operand → List Sketch → Prop} (hop : op.buildsArray = false)
    (h : ∀ v after, before <+: after → done after = done before →
      v.ref.IsNode after op (inputs.map (·.ref)) → holds v after) :
    (Draft.add op inputs ty types).Writes (InTurn elements heap convert count parts) before
      holds := by
  refine writes_add_unasked hop fun after hafter hdone => ?_
  subst hafter
  exact h _ _ (List.prefix_append _ _) hdone
    ⟨_, ⟨before.length, rfl, List.getElem?_concat_length⟩, rfl, rfl⟩

/-- The element as it is stored. -/
lemma writes_initialValue {x : Operand} {holds : Operand → List Sketch → Prop}
    (h : ∀ v after, before <+: after → done after = done before →
      Op.Converted (if convert then some .toDouble else none) (Ref.IsNode after) v.ref x.ref →
      holds v after) :
    (initialValue convert x).Writes (InTurn elements heap convert count parts) before holds := by
  rw [initialValue]
  cases convert with
  | false => exact writes_pure (h x before (List.prefix_refl _) rfl rfl)
  | true => exact writes_between rfl h

/-- The barrier for the collector, if there is one. -/
lemma writes_initialBarrier {array value : Operand} {holds : Unit → List Sketch → Prop}
    (h : ∀ after, before <+: after → done after = done before → holds () after) :
    (initialBarrier heap array value).Writes (InTurn elements heap convert count parts) before
      holds := by
  rw [initialBarrier]
  split_ifs
  · exact writes_bind (writes_between rfl fun _ after hafter hdone _ =>
      writes_pure (a := ()) (h after hafter hdone))
  · exact writes_pure (a := ()) (h before (List.prefix_refl _) rfl)

/-- **The index of the last element**, when there are `i` so far. -/
def IsLast (before : List Sketch) (i : Nat) : Option Operand → Prop
  | none => i = 0
  | some last => ∃ j, i = j + 1 ∧ last.ref.IsNode before (.constant (.int32 (Int32.ofNat j))) []

/-- **The loop does one part after the other**, by induction over the elements that are left. -/
theorem writes_storeInitial {view array : Operand} {all : List Ref} {i : Nat}
    {last : Option Operand} {xs : List Operand} (front : List Ref) (hi : i = front.length)
    (hall : all = front ++ xs.map (·.ref)) (hdone : done before = i + 1)
    (hlast : IsLast before i last) :
    (storeInitial view array convert heap i last xs).Writes
      (InTurn view.ref heap convert all.length (ArrayPart.ofElements all)) before
      fun last after => done after = all.length + 1 ∧ IsLast after all.length last := by
  induction xs generalizing before i last front with
  | nil =>
    have hlength : all.length = i := by rw [hall, hi, List.map_nil, List.append_nil]
    exact writes_pure ⟨hlength ▸ hdone, hlength ▸ hlast⟩
  | cons x xs ih =>
    have hx : all[i]? = some x.ref := by
      rw [hall, hi, List.getElem?_append_right (Nat.le_refl _), Nat.sub_self]
      rfl
    refine writes_bind (writes_between rfl fun index after₁ _ hdone₁ hindex => ?_)
    refine writes_bind (writes_initialValue fun value after₂ hafter₂ hdone₂ hvalue => ?_)
    refine writes_bind (writes_initialBarrier fun after₃ hafter₃ hdone₃ => ?_)
    have hdone' : done after₃ = i + 1 := hdone₃.trans (hdone₂.trans (hdone₁.trans hdone))
    have hindex' := (hindex.mono hafter₂).mono hafter₃
    refine writes_bind (writes_add_served rfl (w := .element i x.ref) ?_ ?_
      fun _ after₄ hafter₄ hdone₄ => ?_)
    · rw [← ArrayPart.getElem?_element hx]
      exact congrArg _ hdone'
    · exact .element rfl rfl hindex' (hvalue.mono hafter₃)
    · refine ih (front ++ [x.ref]) ?_ ?_ ?_ ?_
      · rw [List.length_append, hi]
        rfl
      · rw [hall, List.append_assoc]
        rfl
      · exact hdone₄.trans (congrArg (· + 1) hdone')
      · exact ⟨i, rfl, hindex'.mono hafter₄⟩

/-- **The elements and the length** are the parts that are left after the allocation. -/
theorem writes_fill {array : Operand} {xs : List Operand} {k : Nat} (hsome : 0 < xs.length)
    (hk : before.length = k) (hdone : done before = 1) :
    (fill array convert heap xs).Writes
      (InTurn (.added k) heap convert xs.length (ArrayPart.ofElements (xs.map (·.ref)))) before
      fun _ after => done after = xs.length + 2 := by
  subst hk
  refine writes_bind (writes_add_unasked rfl fun after₁ _ hdone₁ => ?_)
  have hlength : (xs.map (·.ref)).length = xs.length := List.length_map _
  rw [← hlength] at hsome ⊢
  have hstored := @writes_storeInitial heap convert after₁
    { ref := .added before.length, ty := .elements } array (xs.map (·.ref)) 0 none xs [] rfl rfl
    (hdone₁.trans hdone) rfl
  refine writes_bind (hstored.imp fun last after₂ hafter₂ => ?_)
  obtain ⟨hdone₂, hlast⟩ := hafter₂
  cases last with
  | none => exact absurd hlast (Nat.ne_of_gt hsome)
  | some last =>
    obtain ⟨j, hj, hnode⟩ := hlast
    refine writes_bind (writes_add_served rfl (w := .length) ?_ (.length rfl rfl hnode hj)
      fun _ after₃ _ hdone₃ => writes_resumeAfter ?_)
    · exact (congrArg _ hdone₂).trans (ArrayPart.getElem?_length _)
    · exact hdone₃.trans (congrArg (· + 1) hdone₂)

end

/-- **The plan does all parts**, on the view that is its third node. -/
theorem building_serves {s : Site} (t : Template) (facts : List Dependency) (hargc : 0 < s.argc) :
    (Plan.relyingOn facts (building s t)).Serves Op.buildsArray
      (fun before x => x.op.Builds x.inputs (Ref.IsNode before) (.added 2)
        t.typeObject.initialHeap (converts s) s.argc)
      (ArrayPart.ofElements (s.args.map (·.ref))) := by
  refine Plan.serves_of_writes rfl ?_
  refine writes_bind (writes_add_unasked rfl fun after₁ hafter₁ _ => ?_)
  subst hafter₁
  refine writes_bind (writes_add (fun _ => ⟨_, rfl, .allocation rfl⟩) ?_)
  refine writes_bind (writes_push ?_)
  refine Draft.Writes.imp (writes_fill hargc ?_ ?_) fun _ _ h => ?_
  · rfl
  · rfl
  · rw [ArrayPart.length_ofElements, List.length_map]
    exact h

/-- Nothing is guarded. -/
lemma building_unguarded {s : Site} (t : Template) (facts : List Dependency)
    (hargc : 0 < s.argc) :
    ∀ x ∈ (Plan.relyingOn facts (building s t)).sketches, ∀ kind, x.op ≠ .typeBarrier kind := by
  intro x hx kind hguard
  obtain ⟨k, hk⟩ := List.mem_iff_getElem?.1 hx
  obtain ⟨w, -, hbuilds⟩ :=
    (building_serves t facts hargc).lawful.getElem? hk (by rw [hguard]; rfl)
  exact hbuilds.ne_typeBarrier kind hguard

end ArrayCreation

/-! ## Graphs -/

/-- **An array is built from arguments** by a call that takes the builder from `b` to `b'`. -/
structure Builder.BuildsArray (b b' : Builder) (args : List NodeId) (array elements : NodeId)
    (heap : Heap) (convert : Bool) : Prop where
  /-- The array is a new node, and so is the view of its elements. -/
  allocated : ∃ template, b'.graph.IsNew b.graph.size array
    (.newArray (UInt32.ofNat args.length) true heap convert) [template]
  viewed : b'.graph.IsNew b.graph.size elements .elements [array]
  /-- All new nodes that allocate an array or initialize one, guard a value or have an effect: the
  allocation, the initialization of one element for each argument, and the length, in this order. -/
  parts : List.Forall₂
    (fun n => n.op.Builds n.inputs (b'.graph.IsNew b.graph.size) elements heap convert args.length)
    ((b'.graph.since b.graph.size).filter (·.op.buildsArray)) (ArrayPart.ofElements args)
  /-- The numbers that they mention are exact. -/
  exact : (UInt32.ofNat args.length).toNat = args.length ∧
    ∀ i < args.length, (Int32.ofNat i).toInt = i
  /-- The array is left on the stack. -/
  stack : b'.stack = b.stack ++ [array]
  /-- The effect has a resume point of its own, at which the array is on the stack already. -/
  resumed : ∀ id n, b.graph.size ≤ id.index → b'.graph.node? id = some n →
    n.op.isEffectful = true → ∃ r ∈ b'.graph.resumePoints, n.resumePoint = some r.id ∧
      r.instruction = id ∧ r.stack = b.stack ++ [array] ∧
      ∀ r' ∈ b'.graph.resumePoints, r'.instruction = id → r' = r

namespace Inliner

variable {i : Inliner} {stubs : StubStore} {b b' : Builder} {call : Call NodeId}
  {f : FunctionObject} {r : Call Operand} {t : Template} {facts : List Dependency}

/-- Parts that the plan does are done in the graph. -/
lemma Emits.forall₂_parts {callee : Callee} {p : Plan} {elements : Ref} {heap : Heap}
    {convert : Bool} {count : Nat} (h : i.Emits b call callee r p b')
    (hserves : p.Serves Op.buildsArray
      (fun before x => x.op.Builds x.inputs (Ref.IsNode before) elements heap convert count)
      (ArrayPart.ofElements (r.args.map (·.ref)))) :
    List.Forall₂
      (fun n => n.op.Builds n.inputs (b'.graph.IsNew b.graph.size) (p.handle b call elements) heap
        convert count)
      ((b'.graph.since b.graph.size).filter (·.op.buildsArray))
      (ArrayPart.ofElements call.args) := by
  have hargs : (r.args.map (·.ref)).map (p.handle b call) = call.args := by
    rw [List.map_map]
    exact h.resolved.args_eq _ _
  rw [← hargs, ArrayPart.ofElements_map, List.forall₂_map_right_iff]
  refine hserves.forall₂ h.live h.resolved.lt_size h.emit rfl fun k x w n _ hbuilds hn => ?_
  have hop : n.op = x.op := congrArg Blueprint.op hn
  have hinputs : n.inputs = x.inputs.map (p.handle b call) := congrArg Blueprint.inputs hn
  rw [hop, hinputs]
  exact hbuilds.map _ fun _ _ _ hnode => h.isNew_of_isNode hnode

/-- **The array is built** if that is the plan. -/
theorem Emits.buildsArray {callee : Callee}
    (h : i.Emits b call callee r (.relyingOn facts (ArrayCreation.building (i.site r) t)) b')
    (hb : b.Reachable) (hb' : b'.Reachable) (hargc : 0 < call.argc) (hlimit : call.argc < 2 ^ 31) :
    ∃ array elements, b.BuildsArray b' call.args array elements t.typeObject.initialHeap
      (ArrayCreation.converts (i.site r)) := by
  have hcount : (i.site r).argc = call.args.length := h.resolved.argc_eq
  have hsome : 0 < (i.site r).argc := hcount ▸ hargc
  have hparts := h.forall₂_parts (ArrayCreation.building_serves t facts hsome)
  rw [hcount] at hparts
  have hstack := h.stack_of_unguarded (v := .added 1) (.tail _ (.tail _ (.head _)))
    (ArrayCreation.building_unguarded t facts hsome)
  obtain ⟨n, harray⟩ := h.places (k := 1) rfl
  obtain ⟨m, helements⟩ := h.places (k := 2) rfl
  have hsize : call.args.length < UInt32.size := Nat.lt_trans hlimit (by decide)
  refine ⟨_, _, ⟨_, harray.fresh, n, harray.node, hcount ▸ harray.op, harray.inputs⟩,
    ⟨helements.fresh, m, helements.node, helements.op, helements.inputs⟩, hparts,
    ⟨UInt32.toNat_ofNat_of_lt' hsize, fun j hj => ?_⟩, hstack,
    fun id m hid hm heffectful => h.exists_resumed hb hb' hstack ?_ hid hm heffectful⟩
  · exact Int32.toInt_ofNat_of_lt (Nat.lt_trans hj hlimit)
  · refine Graph.behind_of_no_barrier fun n' hn' _ kind => ?_
    obtain rfl := Option.some.inj (harray.node.symm.trans hn')
    rw [harray.op]
    nofun

/-- **Arrays start with their arguments.**  A call of the array constructor with several arguments
is specialized to an array that is built from these. -/
theorem attempt_buildsArray (hb : b.Reachable)
    (h : (i.attempt stubs b call (.function f)).result = .ok .inlined)
    (hf : f.native? = some .arrayConstructor) (hseveral : 2 ≤ call.argc)
    (hlimit : call.argc < 2 ^ 31) :
    ∃ array elements heap convert, b.BuildsArray (i.attempt stubs b call (.function f)).builder
      call.args array elements heap convert := by
  have hb' := hb.attempt i stubs call (.function f)
  obtain ⟨r, p, hemits⟩ := exists_emits h
  generalize (i.attempt stubs b call (.function f)).builder = b' at hemits hb' ⊢
  have hargc : 2 ≤ (i.site r).argc := le_of_le_of_eq hseveral hemits.resolved.argc_eq.symm
  obtain ⟨t, facts, -, -, rfl⟩ :=
    ArrayCreation.construct_eq_ok hargc (hemits.decide_eq_ok hf rfl)
  obtain ⟨array, elements, hbuilds⟩ := hemits.buildsArray hb hb' (by omega) hlimit
  exact ⟨array, elements, _, _, hbuilds⟩

end Inliner

/-- An old array of doubles starts with an int32 and a double. -/
def Scenario.startDoubles : Scenario where
  callee := .function (.ofNative ⟨1⟩ .arrayConstructor)
  args := [.typed .int32 none, .typed .double none]
  resultTypes := some (.singleton
    { id := ⟨1⟩, objectClass := .array, elementTypes := some (.ofType .double) })
  env := { templates := [⟨⟨0⟩, .arrayConstructor, ⟨⟨⟨70⟩, .array, none⟩,
    { id := ⟨1⟩, objectClass := .array, elementTypes := some (.ofType .double),
      initialHeap := .tenured }, 0, none⟩⟩] }

/-- Both are stored as doubles. -/
theorem attempt_buildsArray_startDoubles :
    (Scenario.startDoubles.attempt {} Scenario.startDoubles.builder).result = .ok .inlined ∧
    ∃ elements, Scenario.startDoubles.builder.BuildsArray
      (Scenario.startDoubles.attempt {} Scenario.startDoubles.builder).builder [⟨2⟩, ⟨3⟩] ⟨5⟩
      elements .tenured true := by
  have hinlined : (Scenario.startDoubles.attempt {} Scenario.startDoubles.builder).result =
      .ok .inlined := by
    decide +kernel
  obtain ⟨array, elements, heap, convert, hbuilds⟩ := Inliner.attempt_buildsArray
    Scenario.startDoubles.reachable_builder hinlined rfl (by decide) (by decide)
  have hstack : (Scenario.startDoubles.attempt {} Scenario.startDoubles.builder).builder.stack =
      [⟨5⟩] := by
    decide +kernel
  obtain rfl : array = ⟨5⟩ := List.singleton_inj.1 (hbuilds.stack.symm.trans hstack)
  obtain ⟨template, -, n, hn, hop, -⟩ := hbuilds.allocated
  have hnode : ((Scenario.startDoubles.attempt {}
      Scenario.startDoubles.builder).builder.graph.node? ⟨5⟩).map Node.op =
        some (.newArray 2 true .tenured true) := by
    decide +kernel
  have hnew : some n.op = some (.newArray 2 true .tenured true) :=
    (congrArg (Option.map Node.op) hn).symm.trans hnode
  cases hop.symm.trans (Option.some.inj hnew)
  exact ⟨hinlined, elements, hbuilds⟩

end CallSite
