import CallSite.Proofs.Elements.Attempt
import CallSite.Proofs.Outcome

/-!
# Replacing a pattern in a string

The two operations that replace are compiled for patterns of one sort: a string, or a regular
expression.  Which one a call becomes is decided by what is known of the pattern.  A string it has
to be by its static type.  For a regular expression the class of the observed objects is asked for,
and that says nothing of primitive values that were observed beside them: a string that is met where
regular expressions were seen too goes the way of these.

* `Specimen.IsOf` — a value is an object, and of this class for certain.
* `TypeSet.ObjectsAre.forall_heldBy_isOf_iff` — what the class of the objects is worth.
* `Facts.ReplacedBy` — **what decides between the operations**.
* `Builder.SuitsPattern` — **the operation suits whatever the pattern may be**.
* `Inliner.attempt_suitsPattern_iff` — what a call becomes, and **when this suits the pattern**.
* `not_forall_suitsPattern` — and that it need not.
-/

namespace CallSite

open Draft (result effectfulResult)

/-! ## Classes of values -/

namespace Specimen

/-- **A class that the value may be of**, for all that a set knows: an object is of the class of its
type object, and of any if that is not listed. -/
def MayBeOf (v : Specimen) (t : TypeSet) (c : ObjectClass) : Prop :=
  match v with
  | .object id => (∃ o ∈ t.objects, o.id = id ∧ o.objectClass = c) ∨ ∀ o ∈ t.objects, o.id ≠ id
  | .unlistedObject => True
  | .primitive _ | .unlisted => False

/-- **The value is an object, and can be of no other class.** -/
structure IsOf (v : Specimen) (t : TypeSet) (c : ObjectClass) : Prop where
  object : v.kind = some .object
  only : ∀ d, v.MayBeOf t d → d = c

/-- What is known to be neither boxed nor an object may be something else than an object. -/
lemma exists_heldBy_of_ne {ty : ValueType} (types : Option TypeSet) (hobject : ty ≠ .object)
    (hboxed : ty ≠ .boxed) : ∃ v : Specimen, v.HeldBy ty types ∧ v.kind ≠ some .object := by
  obtain ⟨v, hv⟩ := exists_hasType ty
  cases ty with
  | boxed => exact absurd rfl hboxed
  | object => exact absurd rfl hobject
  | elements | noValue =>
    obtain rfl : v = .unlisted := hv
    exact ⟨_, rfl, by decide⟩
  | double | float32 => exact ⟨v, .inr hv, fun hkind => by cases hkind.symm.trans hv⟩
  | _ => exact ⟨v, hv, fun hkind => by cases hkind.symm.trans hv⟩

end Specimen

namespace TypeSet.ObjectsAre

variable {t : TypeSet} {c : ObjectClass} (h : t.ObjectsAre (· = c))
include h

/-- **An object of such a set** is of the class. -/
theorem isOf {v : Specimen} (hv : v ∈ t) (hobject : v.kind = some .object) : v.IsOf t c := by
  refine ⟨hobject, fun d hd => ?_⟩
  cases v with
  | primitive bit => exact absurd hobject (Specimen.kind_primitive_ne_object bit)
  | unlisted => cases hobject
  | unlistedObject =>
    rw [TypeSet.unlistedObject_mem_iff, h.known] at hv
    cases hv
  | object id =>
    rw [TypeSet.object_mem_iff, hasObject, h.known, Bool.false_or, List.any_eq_true] at hv
    obtain ⟨o, ho, hid⟩ := hv
    rcases hd with ⟨o', ho', -, rfl⟩ | hnone
    · exact h.all o' ho'
    · exact absurd (of_decide_eq_true hid) (hnone o ho)

/-- The values of such a set are of the class unless there is a primitive one. -/
lemma forall_isOf_iff : (∀ v ∈ t, v.IsOf t c) ↔ t.primitives.isEmpty = true := by
  have hunknown : t.unknown = false := (Bool.or_eq_false_iff.1 h.known).1
  rw [Primitives.isEmpty_iff_forall_not_mem]
  constructor
  · intro hall bit hbit
    have hobject := (hall (.primitive bit) (.inr hbit)).object
    exact Specimen.kind_primitive_ne_object bit hobject
  · intro hnone v hv
    refine h.isOf hv ?_
    cases v with
    | primitive bit => exact absurd ((primitive_mem_iff hunknown).1 hv) (hnone bit)
    | unlisted => exact nomatch hunknown.symm.trans hv
    | object id => rfl
    | unlistedObject => rfl

/-- **What the class of the objects is worth**: whatever a node can hold is of that class if it is
known to be an object, or if no primitive value was observed. -/
theorem forall_heldBy_isOf_iff {ty : ValueType} :
    (∀ v : Specimen, v.HeldBy ty (some t) → v.IsOf t c) ↔
      ty = .object ∨ ty = .boxed ∧ t.primitives.isEmpty = true := by
  by_cases hobject : ty = .object
  · subst hobject
    exact iff_of_true (fun v hv => h.isOf (hv.2 t rfl) hv.1) (.inl rfl)
  by_cases hboxed : ty = .boxed
  · subst hboxed
    rw [← h.forall_isOf_iff]
    simp [Specimen.HeldBy]
  · refine iff_of_false (fun hall => ?_) (by simp [hobject, hboxed])
    obtain ⟨v, hv, hkind⟩ := Specimen.exists_heldBy_of_ne (some t) hobject hboxed
    exact hkind (hall v hv).object

end TypeSet.ObjectsAre

/-! ## The decision -/

/-- **What decides between the operations**, given what is known of the pattern. -/
inductive Facts.ReplacedBy (f : Facts) : Op → Prop where
  | string (h : f.ty = .string) : f.ReplacedBy .stringReplace
  | regExp {t : TypeSet} (h : f.ty ≠ .string) (ht : f.types = some t)
    (hclass : t.ObjectsAre (· = .regExp)) : f.ReplacedBy .regExpReplace

/-- **What is decided about a replacement**: one node, for which the pattern decides. -/
theorem Strings.replace_ensures (s : Site) : (replace s).Ensures fun p =>
    ∃ pattern replacement op, s.args = [pattern, replacement] ∧ pattern.ReplacedBy op ∧
      (p = .of (result op [s.receiver, pattern, replacement] .string) ∨
        p = .of (effectfulResult op [s.receiver, pattern, replacement] .string)) := by
  refine Site.ensures_two rfl fun pattern replacement hargs _ => ?_
  dsimp only
  split_ifs with hstring hclass
  · exact ⟨pattern, replacement, _, hargs, .string hstring, .inl rfl⟩
  · obtain ⟨t, ht, hknown⟩ := Option.bind_eq_some_iff.1 hclass
    have hregExp := TypeSet.knownClass?_eq_some_iff.1 hknown
    exact ⟨pattern, replacement, _, hargs, .regExp hstring ht hregExp, .inr rfl⟩
  · trivial

/-! ## What becomes of the call -/

namespace Builder

/-- **The operation suits whatever the pattern may be**: strings are replaced where the pattern is a
string by its static type, and regular expressions where it can be nothing else. -/
structure SuitsPattern (b b' : Builder) : Prop where
  string : ∀ n ∈ b'.graph.since b.graph.size, n.op = .stringReplace → ∃ pattern f,
    n.inputs[1]? = some pattern ∧ b.facts? pattern = some f ∧ f.ty = .string
  regExp : ∀ n ∈ b'.graph.since b.graph.size, n.op = .regExpReplace → ∃ pattern t,
    n.inputs[1]? = some pattern ∧ b.graph.Observes pattern t ∧
    ∀ v, b.graph.MayHold pattern v → v.IsOf t .regExp

variable {b b' : Builder} {op : Op} {receiver pattern replacement left : NodeId} {f : Facts}

/-- Where a call becomes one replacement, that is the only node to look at. -/
lemma Becomes.eq_of_mem
    (h : b.Becomes b' [⟨op, [receiver, pattern, replacement], .string, none⟩] left) {n : Node}
    (hn : n ∈ b'.graph.since b.graph.size) : n.op = op ∧ n.inputs[1]? = some pattern := by
  have hblueprint := List.mem_singleton.1 (h.mem hn)
  have hinputs : n.inputs = [receiver, pattern, replacement] :=
    congrArg Blueprint.inputs hblueprint
  exact ⟨congrArg Blueprint.op hblueprint, by rw [hinputs]; rfl⟩

/-- **When the operation suits the pattern**, where a call becomes one replacement. -/
theorem Becomes.suitsPattern_iff
    (h : b.Becomes b' [⟨op, [receiver, pattern, replacement], .string, none⟩] left)
    (hf : b.facts? pattern = some f) (hop : f.ReplacedBy op) : b.SuitsPattern b' ↔
      f.ty = .string ∨ f.ty = .object ∨
        f.ty = .boxed ∧ ∀ t ∈ f.types, t.primitives.isEmpty = true := by
  cases hop with
  | string hstring =>
    refine iff_of_true ⟨fun n hn _ => ?_, fun n hn hregExp => ?_⟩ (.inl hstring)
    · exact ⟨pattern, f, (h.eq_of_mem hn).2, hf, hstring⟩
    · cases (h.eq_of_mem hn).1.symm.trans hregExp
  | @regExp t hstring ht hclass =>
    have hobserved : b.graph.Observes pattern t := (observes_iff_of_facts? hf).2 ht
    have hheld : (∀ v, b.graph.MayHold pattern v → v.IsOf t .regExp) ↔
        f.ty = .object ∨ f.ty = .boxed ∧ t.primitives.isEmpty = true := by
      simp only [mayHold_iff_of_facts? hf, ht]
      exact hclass.forall_heldBy_isOf_iff
    rw [ht, or_iff_right hstring]
    simp only [Option.mem_some_iff, forall_eq']
    rw [← hheld]
    constructor
    · intro hsuits
      obtain ⟨n, hnew, -⟩ := List.map_eq_singleton_iff.1 h.added
      have hn : n ∈ b'.graph.since b.graph.size := by simp [hnew]
      obtain ⟨hnop, hinput⟩ := h.eq_of_mem hn
      obtain ⟨pattern', u, hinput', hu, hall⟩ := hsuits.regExp n hn hnop
      obtain rfl := Option.some.inj (hinput.symm.trans hinput')
      obtain rfl := Option.some.inj (ht.symm.trans ((observes_iff_of_facts? hf).1 hu))
      exact hall
    · intro hall
      refine ⟨fun n hn hstring' => ?_, fun n hn _ => ?_⟩
      · cases (h.eq_of_mem hn).1.symm.trans hstring'
      · exact ⟨pattern, t, (h.eq_of_mem hn).2, hobserved, hall⟩

end Builder

namespace Inliner

variable {i : Inliner} {stubs : StubStore} {b b' : Builder} {call : Call NodeId}
  {f : FunctionObject} {r : Call Operand} {p : Plan}

/-- **A replacement becomes one node**, which takes the operands of the call. -/
theorem Emits.becomes_replacement (h : i.Emits b call (.function f) r p b') {op : Op}
    {x y : Operand} (hargs : r.args = [x, y])
    (hp : p = .of (result op [r.receiver, x, y] .string) ∨
      p = .of (effectfulResult op [r.receiver, x, y] .string)) : ∃ pattern replacement,
      call.args = [pattern, replacement] ∧ b.facts? pattern = some x.toFacts ∧
      b.Becomes b' [⟨op, [call.receiver, pattern, replacement], .string, none⟩]
        ⟨b.graph.size⟩ := by
  obtain ⟨context, hbecomes⟩ : ∃ context, b.Becomes b'
      [⟨op, [r.receiver, x, y].map (·.ref.resolve b.graph.size context), .string, none⟩]
      ⟨b.graph.size⟩ := by
    rcases hp with rfl | rfl
    · exact h.becomes_of_push rfl (List.mem_of_getLast? rfl) rfl
    · exact h.becomes_of_push (v := .added 0) rfl (.tail _ (.head _)) rfl
  have hcall := h.resolved.args_eq b.graph.size context
  rw [hargs] at hcall
  refine ⟨_, _, hcall.symm, ?_, ?_⟩
  · exact h.resolved.facts?_arg b.graph.size context (by simp [hargs])
  · rw [← h.resolved.receiver_eq b.graph.size context]
    exact hbecomes

/-- **Which operation replaces a pattern, and when it suits it.**  The call becomes one node, on
which the pattern decides: it replaces strings just when the pattern is one by its static type, and
regular expressions where all observed objects are of that class.  The latter suits whatever the
pattern may be only if that is an object by its static type, or boxed with no primitive value
observed. -/
theorem attempt_suitsPattern_iff
    (h : (i.attempt stubs b call (.function f)).result = .ok .inlined)
    (hf : f.native? = some .stringReplace) : ∃ pattern replacement known op,
      call.args = [pattern, replacement] ∧ b.facts? pattern = some known ∧
      known.ReplacedBy op ∧
      b.Becomes (i.attempt stubs b call (.function f)).builder
        [⟨op, [call.receiver, pattern, replacement], .string, none⟩] ⟨b.graph.size⟩ ∧
      (b.SuitsPattern (i.attempt stubs b call (.function f)).builder ↔
        known.ty = .string ∨ known.ty = .object ∨
          known.ty = .boxed ∧ ∀ t ∈ known.types, t.primitives.isEmpty = true) := by
  obtain ⟨r, p, hemits⟩ := exists_emits h
  obtain ⟨x, y, op, hargs, hop, hp⟩ :=
    (Strings.replace_ensures (i.site r)).of_eq_ok (hemits.decide_eq_ok hf rfl)
  obtain ⟨pattern, replacement, hcall, hknown, hbecomes⟩ := hemits.becomes_replacement hargs hp
  exact ⟨pattern, replacement, x.toFacts, op, hcall, hknown, hop, hbecomes,
    hbecomes.suitsPattern_iff hknown hop⟩

end Inliner

/-- Regular expressions, and nothing else. -/
def Scenario.regExps : TypeSet := .singleton { id := ⟨3⟩, objectClass := .regExp }

/-- A pattern is replaced for which regular expressions alone were observed. -/
def Scenario.replaceRegExp : Scenario where
  callee := .function (.ofNative ⟨1⟩ .stringReplace)
  receiver := some (.typed .string none)
  args := [.typed .boxed (some regExps), .typed .string none]
  resultTypes := some (.ofType .string)

/-- The operation for regular expressions suits it. -/
theorem attempt_suitsPattern_replaceRegExp :
    (Scenario.replaceRegExp.attempt {} Scenario.replaceRegExp.builder).result = .ok .inlined ∧
    Scenario.replaceRegExp.builder.SuitsPattern
      (Scenario.replaceRegExp.attempt {} Scenario.replaceRegExp.builder).builder := by
  have hinlined : (Scenario.replaceRegExp.attempt {} Scenario.replaceRegExp.builder).result =
      .ok .inlined := by
    decide +kernel
  obtain ⟨pattern, replacement, known, op, hargs, hknown, -, -, hsuits⟩ :=
    Inliner.attempt_suitsPattern_iff hinlined rfl
  obtain ⟨rfl, -⟩ := List.cons.inj hargs
  obtain rfl := Option.some.inj hknown
  refine ⟨hinlined, hsuits.2 (.inr (.inr ⟨rfl, fun t ht => ?_⟩))⟩
  obtain rfl := Option.some.inj ht
  rfl

/-! ## Patterns that are replaced wrongly -/

/-- A pattern is replaced for which a regular expression and a string were observed. -/
def Scenario.replaceMixed : Scenario where
  callee := .function (.ofNative ⟨1⟩ .stringReplace)
  receiver := some (.typed .string none)
  args := [.typed .boxed (some { regExps with primitives := .string }), .typed .string none]
  resultTypes := some (.ofType .string)

/-- **Not every replacement suits its pattern.** -/
theorem not_forall_suitsPattern : ¬∀ (s : Scenario) (f : FunctionObject),
    (s.attempt {} s.builder).result = .ok .inlined → s.callee = .function f →
    f.native? = some .stringReplace →
    s.builder.SuitsPattern (s.attempt {} s.builder).builder := by
  intro hall
  have hsuits := hall Scenario.replaceMixed (.ofNative ⟨1⟩ .stringReplace) (by decide +kernel)
    rfl rfl
  have hnode : ((Scenario.replaceMixed.attempt {} Scenario.replaceMixed.builder).builder.graph.node?
      ⟨4⟩).map (fun n => (n.op, n.inputs)) = some (.regExpReplace, [⟨1⟩, ⟨2⟩, ⟨3⟩]) := by
    decide +kernel
  obtain ⟨n, hn, hwritten⟩ := Option.map_eq_some_iff.1 hnode
  obtain ⟨hop, hinputs⟩ := Prod.mk.inj hwritten
  obtain ⟨pattern, t, hpattern, -, hheld⟩ :=
    hsuits.regExp n (Graph.mem_since_iff.2 ⟨⟨4⟩, by decide, hn⟩) hop
  rw [hinputs] at hpattern
  obtain rfl := Option.some.inj hpattern
  -- the pattern may be a string
  have hstring : Scenario.replaceMixed.builder.graph.MayHold ⟨2⟩ (.primitive 5) := by
    refine ⟨_, rfl, fun s hs => ?_⟩
    obtain rfl := Option.some.inj hs
    exact .inr (by decide)
  exact absurd (hheld _ hstring).object (by decide)

end CallSite
