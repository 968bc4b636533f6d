import CallSite.Proofs.Elements.Attempt
import CallSite.Proofs.Elements.Initialization

/-!
# Types of initial elements

The elements that an array starts with are stored without a check, so what they may be has to be
among the element types of the template that the array is a clone of.  The arguments are: that is
what the specializer looks at.  Whether they are converted to doubles first it reads off the types
that were observed at the site, and nothing makes these speak of the template.  Where they do, the
elements fit; where they do not, a string may end up converted, or a double among integers.

* `Builder.StartsWithin` — **the initial elements are of some types**, and only numbers are
  converted.
* `Builder.StartsWith` — how the initial elements come from the arguments.
* `Inliner.attempt_startsWithin_iff` — **when the initial elements fit the template**.
* `not_forall_startsWithin` — and that they need not.
-/

namespace CallSite

open Draft (Appends appends_pure appends_add writes_pure writes_bind writes_push writes_resumeAfter)

/-! ## Plans -/

namespace ArrayCreation

/-- **A node that converts** takes one of the operands, and only where all of them are converted. -/
def ConvertsOne (convert : Bool) (xs : List Operand) (x : Sketch) : Prop :=
  x.op = .toDouble → convert = true ∧ ∃ a ∈ xs, x = ⟨.toDouble, [a.ref], .double, none⟩

variable {convert : Bool} {xs : List Operand} {before : List Sketch}

lemma appends_other {op : Op} {inputs : List Operand} {ty : ValueType} {types : Option TypeSet}
    (hop : op ≠ .toDouble) :
    (Draft.add op inputs ty types).Appends (fun _ => ConvertsOne convert xs) before :=
  appends_add fun hdouble => absurd hdouble hop

lemma initialValue_appends {x : Operand} (hx : x ∈ xs) :
    (initialValue convert x).Appends (fun _ => ConvertsOne convert xs) before := by
  rw [initialValue]
  cases convert with
  | false => exact appends_pure x
  | true => exact appends_add fun _ => ⟨rfl, x, hx, rfl⟩

lemma initialBarrier_appends (heap : Heap) (array value : Operand) :
    (initialBarrier heap array value).Appends (fun _ => ConvertsOne convert xs) before := by
  rw [initialBarrier]
  split_ifs
  · exact Appends.then (appends_other (by simp)) fun _ _ hafter => writes_pure hafter
  · exact appends_pure ()

/-- **The loop converts nothing but its elements**, by induction over these. -/
theorem storeInitial_convertsOne {view array : Operand} {heap : Heap} (i : Nat)
    (last : Option Operand) {ys : List Operand} (hys : ∀ y ∈ ys, y ∈ xs) :
    (storeInitial view array convert heap i last ys).Writes (fun _ => ConvertsOne convert xs) before
      fun _ _ => True := by
  induction ys generalizing before i last with
  | nil => exact writes_pure trivial
  | cons y ys ih =>
    obtain ⟨hy, hys⟩ := List.forall_mem_cons.1 hys
    refine Appends.then (appends_other (by simp)) fun index _ _ => ?_
    refine (initialValue_appends hy).then fun value _ _ => ?_
    refine (initialBarrier_appends heap array value).then fun _ _ _ => ?_
    exact Appends.then (appends_other (by simp)) fun _ _ _ => ih (i + 1) (some index) hys

/-- **Nothing but arguments is converted.** -/
theorem building_convertsOne (s : Site) (t : Template) (facts : List Dependency) :
    (Plan.relyingOn facts (building s t)).Lawful fun _ => ConvertsOne (converts s) s.args := by
  refine Plan.lawful_of_writes rfl ?_
  refine Appends.then (appends_other (by simp)) fun template _ _ => ?_
  refine Appends.then (appends_other (by simp)) fun array _ _ => writes_bind (writes_push ?_)
  refine Appends.then (appends_other (by simp)) fun view _ _ => ?_
  refine writes_bind ((storeInitial_convertsOne 0 none fun _ hx => hx).imp fun last _ _ => ?_)
  cases last with
  | none => exact writes_pure trivial
  | some last =>
    exact Appends.then (appends_other (by simp)) fun _ _ _ => writes_resumeAfter trivial

end ArrayCreation

/-! ## Graphs -/

namespace Builder

/-- **An array starts within some types**: whatever is stored as an initial element is of these, and
what is converted to a double first can be nothing but a number. -/
structure StartsWithin (b b' : Builder) (types : TypeSet) : Prop where
  stored : ∀ n ∈ b'.graph.since b.graph.size, n.op = .initializeElement →
    ∃ stored, n.inputs.getLast? = some stored ∧ ∀ v, b'.graph.MayHold stored v → v ∈ types
  converted : ∀ n ∈ b'.graph.since b.graph.size, n.op = .toDouble → ∃ value, n.inputs = [value] ∧
    ∀ v, b'.graph.MayHold value v → v.kind = some .int32 ∨ v.kind = some .double

/-- **The node stores an argument** as an initial element, or the double that it is converted to. -/
structure Initializes (b b' : Builder) (convert : Bool) (n : Node) (x stored : NodeId) : Prop where
  op : n.op = .initializeElement
  last : n.inputs.getLast? = some stored
  double : convert = true → b'.graph.IsDoubleOf b.graph.size stored x
  same : convert = false → stored = x

/-- **The initial elements are the arguments**, or their doubles, and nothing else is converted. -/
structure StartsWith (b b' : Builder) (args : List NodeId) (convert : Bool) : Prop where
  initial : ∀ n ∈ b'.graph.since b.graph.size, n.op = .initializeElement →
    ∃ x ∈ args, ∃ stored, b.Initializes b' convert n x stored
  argument : ∀ x ∈ args, ∃ n ∈ b'.graph.since b.graph.size, ∃ stored,
    b.Initializes b' convert n x stored
  converted : ∀ n ∈ b'.graph.since b.graph.size, n.op = .toDouble →
    convert = true ∧ ∃ x ∈ args, n.inputs = [x]

variable {b b' : Builder} {args : List NodeId} {convert : Bool} {types : TypeSet}

/-- **When arguments of some types start an array within these**: they are not converted, or are
numbers, of which none is outside. -/
theorem StartsWith.startsWithin_iff (h : b.StartsWith b' args convert) (hextends : b.Extends b')
    (hargs : args ≠ []) (hlt : ∀ x ∈ args, x.index < b.graph.size)
    (hfit : ∀ x ∈ args, ∀ v, b.graph.MayHold x v → v ∈ types) :
    b.StartsWithin b' types ↔ (convert = true →
      (∀ v : Specimen, v.kind = some .int32 ∨ v.kind = some .double → v ∈ types) ∧
      ∀ x ∈ args, ∀ v, b.graph.MayHold x v → v.kind = some .int32 ∨ v.kind = some .double) := by
  have hheld : ∀ x ∈ args, ∀ v, b'.graph.MayHold x v ↔ b.graph.MayHold x v := fun x hx v =>
    hextends.mayHold_iff (hlt x hx)
  constructor
  · rintro hwithin rfl
    refine ⟨fun v hv => ?_, fun x hx v hv => ?_⟩
    · obtain ⟨x, hx⟩ := List.exists_mem_of_ne_nil _ hargs
      obtain ⟨n, hn, stored, hinit⟩ := h.argument x hx
      obtain ⟨stored', hlast, hstored⟩ := hwithin.stored n hn hinit.op
      obtain rfl := Option.some.inj (hinit.last.symm.trans hlast)
      exact hstored v ((hinit.double rfl).mayHold_iff.2 hv)
    · obtain ⟨n, hn, stored, hinit⟩ := h.argument x hx
      obtain ⟨hnew, m, hm, hblueprint⟩ := hinit.double rfl
      obtain ⟨value, hvalue, hnumber⟩ := hwithin.converted m
        (Graph.mem_since_iff.2 ⟨stored, hnew, hm⟩) (congrArg Blueprint.op hblueprint)
      have hinputs : m.inputs = [x] := congrArg Blueprint.inputs hblueprint
      obtain rfl := List.singleton_inj.1 (hinputs.symm.trans hvalue)
      exact hnumber v ((hheld x hx v).2 hv)
  · intro hnumbers
    refine ⟨fun n hn hop => ?_, fun n hn hop => ?_⟩
    · obtain ⟨x, hx, stored, hinit⟩ := h.initial n hn hop
      refine ⟨stored, hinit.last, fun v hv => ?_⟩
      cases hconvert : convert with
      | false =>
        rw [hinit.same hconvert, hheld x hx] at hv
        exact hfit x hx v hv
      | true => exact (hnumbers hconvert).1 v ((hinit.double hconvert).mayHold_iff.1 hv)
    · obtain ⟨hconvert, x, hx, hinputs⟩ := h.converted n hn hop
      exact ⟨x, hinputs, fun v hv => (hnumbers hconvert).2 x hx v ((hheld x hx v).1 hv)⟩

end Builder

namespace Inliner

variable {i : Inliner} {stubs : StubStore} {b b' : Builder} {call : Call NodeId}
  {f : FunctionObject} {r : Call Operand} {t : Template} {facts : List Dependency}

namespace Emits

/-- A conversion that is new takes an argument. -/
lemma converted_of_lawful {callee : Callee} {p : Plan} {convert : Bool}
    (h : i.Emits b call callee r p b')
    (hlaw : p.Lawful fun _ => ArrayCreation.ConvertsOne convert r.args) {id : NodeId} {n : Node}
    (hid : b.graph.size ≤ id.index) (hn : b'.graph.node? id = some n) (hop : n.op = .toDouble) :
    convert = true ∧ ∃ x ∈ call.args, n.blueprint = ⟨.toDouble, [x], .double, none⟩ := by
  rcases h.exists_places hid hn with hcontext | ⟨k, x, -, hx, hplaces⟩
  · cases hop.symm.trans hcontext
  · obtain ⟨hconvert, a, ha, rfl⟩ := hlaw.getElem? hx (hplaces.op ▸ hop)
    have hmem : p.handle b call a.ref ∈ call.args :=
      h.resolved.args_eq _ _ ▸ List.mem_map_of_mem ha
    refine ⟨hconvert, p.handle b call a.ref, hmem, ?_⟩
    rw [Node.blueprint, hplaces.op, hplaces.inputs, hplaces.ty, hplaces.types]
    rfl

variable {callee : Callee}
  (h : i.Emits b call callee r (.relyingOn facts (ArrayCreation.building (i.site r) t)) b')
include h

/-- An element that is stored is the argument or its double. -/
lemma initializes {i' : Nat} {n : Node} {x elements : NodeId} {heap : Heap} {count : Nat}
    (hbuilds : n.op.Builds n.inputs (b'.graph.IsNew b.graph.size) elements heap
      (ArrayCreation.converts (i.site r)) count (.element i' x)) :
    ∃ stored, b.Initializes b' (ArrayCreation.converts (i.site r)) n x stored := by
  have hlaw := ArrayCreation.building_convertsOne (i.site r) t facts
  cases hbuilds with
  | @element _ _ index stored hop hinputs hindex hstored =>
    refine ⟨stored, hop, by rw [hinputs]; rfl, fun hconvert => ?_, fun hconvert => ?_⟩
    · rw [hconvert] at hstored
      obtain ⟨hnew, m, hm, hdouble, hvalue⟩ : b'.graph.IsNew _ stored .toDouble [x] := hstored
      obtain ⟨-, y, -, hblueprint⟩ := h.converted_of_lawful hlaw hnew hm hdouble
      have hinputs : m.inputs = [y] := congrArg Blueprint.inputs hblueprint
      obtain rfl := List.singleton_inj.1 (hvalue.symm.trans hinputs)
      exact ⟨hnew, m, hm, hblueprint⟩
    · rw [hconvert] at hstored
      exact hstored

/-- **The array starts with the arguments.** -/
theorem startsWith (hargc : 0 < call.argc) :
    b.StartsWith b' call.args (ArrayCreation.converts (i.site r)) := by
  have hsome : 0 < (i.site r).argc := lt_of_lt_of_eq hargc h.resolved.argc_eq.symm
  have hparts := h.forall₂_parts (ArrayCreation.building_serves t facts hsome)
  have hlaw := ArrayCreation.building_convertsOne (i.site r) t facts
  refine ⟨fun n hn hop => ?_, fun x hx => ?_, fun n hn hop => ?_⟩
  · have hbuilds : n.op.buildsArray = true := by rw [hop]; rfl
    obtain ⟨w, hw, hpart⟩ := exists_mem_of_forall₂ hparts (List.mem_filter.2 ⟨hn, hbuilds⟩)
    cases w with
    | element k x =>
      have hx := List.mem_of_getElem? (ArrayPart.element_mem_iff.1 hw)
      exact ⟨x, hx, h.initializes hpart⟩
    | allocation =>
      cases hpart with
      | allocation hnew => cases hop.symm.trans hnew
    | length =>
      cases hpart with
      | length hlength => cases hop.symm.trans hlength
  · obtain ⟨k, hk⟩ := List.mem_iff_getElem?.1 hx
    obtain ⟨n, hn, hpart⟩ := exists_mem_of_forall₂ hparts.flip (ArrayPart.element_mem_iff.2 hk)
    exact ⟨n, (List.mem_filter.1 hn).1, h.initializes hpart⟩
  · obtain ⟨id, hid, hnode⟩ := Graph.mem_since_iff.1 hn
    obtain ⟨hconvert, x, hx, hblueprint⟩ := h.converted_of_lawful hlaw hid hnode hop
    exact ⟨hconvert, x, hx, congrArg Blueprint.inputs hblueprint⟩

end Emits

/-- What the template takes are the values of the arguments. -/
lemma Resolved.mem_of_takes (h : Resolved b call r) (htakes : ArrayCreation.Takes t r.args facts)
    (htracked : t.typeObject.unknownProperties = false) :
    .elementTypes t.typeObject.id ∈ facts ∧ ∀ x ∈ call.args, ∃ types,
      t.typeObject.elementTypes = some types ∧ ∀ v, b.graph.MayHold x v → v ∈ types := by
  rcases htakes with ⟨huntracked, -⟩ | ⟨-, rfl, hincludes⟩
  · cases huntracked.symm.trans htracked
  refine ⟨List.mem_singleton_self _, fun x hx => ?_⟩
  rw [← h.args_eq 0 ⟨0⟩] at hx
  obtain ⟨a, ha, rfl⟩ := List.mem_map.1 hx
  obtain ⟨types, htypes, hincluded⟩ := hincludes a ha
  refine ⟨types, htypes, fun v hv => TypeSet.mem_of_includes hincluded ?_⟩
  exact (Builder.mayHold_iff_of_facts? (h.facts?_arg 0 ⟨0⟩ ha)).1 hv

/-- **When initial elements fit the template.**  The arguments of a specialized call are of its
element types, on which compiled code relies.  So is what the array starts with, unless nothing but
arrays of doubles was observed at the site: then it is just when the template takes every number and
the arguments can be nothing else.  Where arrays like the template were observed, this is so. -/
theorem attempt_startsWithin_iff
    (h : (i.attempt stubs b call (.function f)).result = .ok .inlined)
    (hf : f.native? = some .arrayConstructor) (hseveral : 2 ≤ call.argc)
    (ht : i.env.template? call.site .arrayConstructor = some t)
    (htracked : t.typeObject.unknownProperties = false) :
    ∃ types, t.typeObject.elementTypes = some types ∧
      .elementTypes t.typeObject.id ∈
        (i.attempt stubs b call (.function f)).builder.graph.dependencies.items ∧
      (∀ x ∈ call.args, ∀ v, b.graph.MayHold x v → v ∈ types) ∧
      (b.StartsWithin (i.attempt stubs b call (.function f)).builder types ↔
        (call.resultTypes.convertDoubles.value = .always →
          (∀ v : Specimen, v.kind = some .int32 ∨ v.kind = some .double → v ∈ types) ∧
          ∀ x ∈ call.args, ∀ v, b.graph.MayHold x v →
            v.kind = some .int32 ∨ v.kind = some .double)) ∧
      (call.resultTypes.Obtainable →
        (∃ o ∈ call.resultTypes.objects, o.elementTypes = some types) →
        b.StartsWithin (i.attempt stubs b call (.function f)).builder types) := by
  have hextends := i.extends_attempt stubs b call (.function f)
  obtain ⟨r, p, hemits⟩ := exists_emits h
  generalize (i.attempt stubs b call (.function f)).builder = b' at hemits hextends ⊢
  have hargc : 2 ≤ (i.site r).argc := le_of_le_of_eq hseveral hemits.resolved.argc_eq.symm
  obtain ⟨t', facts, ht', htakes, rfl⟩ :=
    ArrayCreation.construct_eq_ok hargc (hemits.decide_eq_ok hf rfl)
  have hsite : (i.site r).call.site = call.site := hemits.resolved.site_eq
  rw [hsite] at ht'
  obtain rfl := Option.some.inj (ht.symm.trans ht')
  obtain ⟨hrelied, htaken⟩ := hemits.resolved.mem_of_takes htakes htracked
  have hargs : call.args ≠ [] := List.length_pos_iff.1 (Nat.lt_of_lt_of_le Nat.zero_lt_two hseveral)
  obtain ⟨x, hx⟩ := List.exists_mem_of_ne_nil _ hargs
  obtain ⟨types, htypes, -⟩ := htaken x hx
  have hfit : ∀ x ∈ call.args, ∀ v, b.graph.MayHold x v → v ∈ types := by
    intro x hx
    obtain ⟨types', htypes', hmem⟩ := htaken x hx
    obtain rfl := Option.some.inj (htypes.symm.trans htypes')
    exact hmem
  have hops := hemits.resolved.lt_size
  have hstarts := hemits.startsWith (Nat.lt_of_lt_of_le Nat.zero_lt_two hseveral)
  have hlt : ∀ x ∈ call.args, x.index < b.graph.size := fun x hx =>
    hops x (.tail _ (.tail _ hx))
  have hiff := hstarts.startsWithin_iff hextends hargs hlt hfit
  rw [ArrayCreation.converts, decide_eq_true_iff] at hiff
  have hresults : (i.site r).call.resultTypes = call.resultTypes := hemits.resolved.resultTypes_eq
  rw [hresults] at hiff
  refine ⟨types, htypes, ?_, hfit, hiff, fun hobtainable hmentioned => hiff.2 fun halways => ?_⟩
  · refine hemits.orderly.facts_subset hemits.live hops hemits.emit ?_
    exact List.mem_append_left _ hrelied
  · obtain ⟨-, -, hkeeps⟩ :=
      (TypeSet.convertDoubles_eq_always_iff hobtainable.normal).1 halways
    obtain ⟨o, ho, helements⟩ := hmentioned
    obtain ⟨types', htypes', hnumbers⟩ := (hkeeps o ho).elements
    obtain rfl := Option.some.inj (helements.symm.trans htypes')
    exact ⟨fun v => (hnumbers v).2, fun x hx v hv => (hnumbers v).1 (hfit x hx v hv)⟩

end Inliner

lemma Scenario.obtainable_startDoubles : Scenario.startDoubles.call.resultTypes.Obtainable :=
  .insert .empty fun _ he => by cases he; exact .ofType .double

/-- The old array of doubles starts with doubles. -/
theorem attempt_startsWithin_startDoubles :
    (Scenario.startDoubles.attempt {} Scenario.startDoubles.builder).result = .ok .inlined ∧
    Scenario.startDoubles.builder.StartsWithin
      (Scenario.startDoubles.attempt {} Scenario.startDoubles.builder).builder
      (.ofType .double) := by
  have hinlined : (Scenario.startDoubles.attempt {} Scenario.startDoubles.builder).result =
      .ok .inlined := by
    decide +kernel
  obtain ⟨types, htypes, -, -, -, hmentioned⟩ :=
    Inliner.attempt_startsWithin_iff hinlined rfl (by decide) rfl rfl
  obtain rfl := Option.some.inj htypes
  exact ⟨hinlined, hmentioned Scenario.obtainable_startDoubles ⟨_, List.mem_singleton_self _, rfl⟩⟩

/-! ## Elements that do not fit -/

/-- An array of integers and strings starts with one of each, where arrays of doubles were
observed. -/
def Scenario.startMixed : Scenario where
  callee := .function (.ofNative ⟨1⟩ .arrayConstructor)
  args := [.typed .int32 none, .typed .string none]
  resultTypes := some (.singleton
    { id := ⟨2⟩, objectClass := .array, elementTypes := some (.ofType .double) })
  env := { templates := [⟨⟨0⟩, .arrayConstructor, ⟨⟨⟨70⟩, .array, none⟩,
    { id := ⟨1⟩, objectClass := .array,
      elementTypes := some { primitives := .int32 ∪ .string } }, 0, none⟩⟩] }

/-- **Not every array starts within the element types of its template.** -/
theorem not_forall_startsWithin : ¬∀ (s : Scenario) (f : FunctionObject) (t : Template),
    (s.attempt {} s.builder).result = .ok .inlined → s.callee = .function f →
    f.native? = some .arrayConstructor → 2 ≤ s.call.argc →
    s.env.template? s.call.site .arrayConstructor = some t →
    t.typeObject.unknownProperties = false → s.call.resultTypes.Obtainable →
    ∃ types, t.typeObject.elementTypes = some types ∧
      s.builder.StartsWithin (s.attempt {} s.builder).builder types := by
  intro hall
  have hobtainable : Scenario.startMixed.call.resultTypes.Obtainable :=
    .insert .empty fun _ he => by cases he; exact .ofType .double
  obtain ⟨types, htypes, hwithin⟩ := hall Scenario.startMixed (.ofNative ⟨1⟩ .arrayConstructor) _
    (by decide +kernel) rfl rfl (by decide) rfl rfl hobtainable
  obtain rfl := Option.some.inj htypes
  -- the string is converted
  have hconverts : ((Scenario.startMixed.attempt {} Scenario.startMixed.builder).builder.graph.node?
      ⟨11⟩).map (fun n => (n.op, n.inputs)) = some (.toDouble, [⟨3⟩]) := by
    decide +kernel
  have hstring : ((Scenario.startMixed.attempt {} Scenario.startMixed.builder).builder.graph.node?
      ⟨3⟩).map Node.ty = some .string := by
    decide +kernel
  obtain ⟨n, hn, hnode⟩ := Option.map_eq_some_iff.1 hconverts
  obtain ⟨hop, hinputs⟩ := Prod.mk.inj hnode
  obtain ⟨value, hvalue, hnumber⟩ :=
    hwithin.converted n (Graph.mem_since_iff.2 ⟨⟨11⟩, by decide, hn⟩) hop
  obtain rfl := List.singleton_inj.1 (hinputs.symm.trans hvalue)
  obtain ⟨m, hm, hty⟩ := Option.map_eq_some_iff.1 hstring
  have hheld : Specimen.HeldBy (.primitive 5) m.ty m.types := by
    rw [hty]
    rfl
  exact absurd (hnumber _ ⟨m, hm, hheld⟩) (by decide)

end CallSite
