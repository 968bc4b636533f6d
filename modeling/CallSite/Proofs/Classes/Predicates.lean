import CallSite.Proofs.Elements.Attempt
import CallSite.Proofs.Outcome

/-!
# Predicates on the classes of objects

Self-hosted code asks for the class of an object: whether it is one of some candidates, whether it
stands for a type descriptor, whether its objects can be called, or whether two objects share it.
Where the observed types tell the answer, the call becomes that constant.  The constant has to be
right whichever objects come along at run time; they are of type objects that were observed, and of
any at all where any object may occur.

* `TypeSet.Allows`, `Graph.MayBe` — the objects that may come along.
* `ClassPredicate`, `ClassPredicate.Holds`, `ClassPredicate.Settles` — **what is asked of classes**,
  and when an answer is certain.
* `ClassPredicate.decide_ensures` — a predicate is answered where its answer is certain, and tested
  otherwise.
* `Builder.AnswersClass`, `Inliner.attempt_answersClass` — **and so is its call**.
-/

namespace CallSite

open Draft (pushConstant result)

/-! ## Objects that may come along -/

namespace TypeSet

variable {t : TypeSet} {o : TypeObject} {holds : ObjectClass → Prop}

/-- **Objects of the type object may occur**: it is listed, or any object may occur. -/
def Allows (t : TypeSet) (o : TypeObject) : Prop := t.anyObject = true ∨ o ∈ t.objects

/-- What is known of the class of all objects holds of any that may occur. -/
lemma ObjectsAre.of_allows (h : t.ObjectsAre holds) (ho : t.Allows o) : holds o.objectClass := by
  rcases ho with hany | ho
  · rw [h.known] at hany
    cases hany
  · exact h.all o ho

/-- **A predicate that is decided for all classes** is decided for any object that may occur. -/
theorem iff_of_forAllClasses {p : ObjectClass → Bool} (h : t.forAllClasses p ≠ .mixed)
    (ho : t.Allows o) : p o.objectClass = true ↔ t.forAllClasses p = .allTrue := by
  rw [forAllClasses] at h ⊢
  split_ifs at h ⊢ with hany hempty htrue hfalse
  · exact absurd rfl h
  · rw [Allows, List.isEmpty_iff.1 hempty] at ho
    rcases ho with ho | ho
    · exact absurd ho hany
    · cases ho
  · exact iff_of_true (List.all_eq_true.1 htrue o (ho.resolve_left hany)) rfl
  · have hnot := List.all_eq_true.1 hfalse o (ho.resolve_left hany)
    exact iff_of_false (by simpa using hnot) (by simp)
  · exact absurd rfl h

end TypeSet

/-- An object of the type object may be the value, by its observed types. -/
def Facts.MayBe (f : Facts) (o : TypeObject) : Prop := ∀ t, f.types = some t → t.Allows o

namespace Graph

/-- **An object of the type object may be the value of the node**, by its observed types. -/
def MayBe (g : Graph) (id : NodeId) (o : TypeObject) : Prop := ∀ t, g.Observes id t → t.Allows o

/-- **The class of the objects that were observed for the node is known.** -/
def ClassIs (g : Graph) (id : NodeId) (c : ObjectClass) : Prop :=
  ∃ t, g.Observes id t ∧ t.ObjectsAre (· = c)

end Graph

section Facts

variable {f : Facts} {c : ObjectClass} {o : TypeObject}

lemma Facts.knownClass?_eq_some_iff :
    f.knownClass? = some c ↔ ∃ t, f.types = some t ∧ t.ObjectsAre (· = c) := by
  simp only [knownClass?, Option.bind_eq_some_iff, TypeSet.knownClass?_eq_some_iff]

/-- Objects that may come along are of the known class. -/
lemma Facts.objectClass_of_mayBe (h : f.knownClass? = some c) (ho : f.MayBe o) :
    o.objectClass = c := by
  obtain ⟨t, ht, hclass⟩ := knownClass?_eq_some_iff.1 h
  exact hclass.of_allows (ho t ht)

variable {b : Builder} {id : NodeId} (hf : b.facts? id = some f)
include hf

lemma Builder.mayBe_iff_of_facts? : b.graph.MayBe id o ↔ f.MayBe o := by
  simp only [Graph.MayBe, Facts.MayBe, observes_iff_of_facts? hf]

lemma Builder.classIs_iff_of_facts? : b.graph.ClassIs id c ↔ f.knownClass? = some c := by
  simp only [Graph.ClassIs, observes_iff_of_facts? hf, Facts.knownClass?_eq_some_iff]

end Facts

/-! ## Predicates -/

/-- **What is asked of the classes of the arguments.** -/
inductive ClassPredicate where
  | isOneOf (candidates : List ObjectClass)
  | isTypeDescr
  | isCallable
  | haveSameClass
  deriving DecidableEq

/-- The predicate that a native stands for. -/
def Native.classPredicate? : Native → Option ClassPredicate
  | .objectIsTypedObject => some (.isOneOf ObjectClass.typedObjects)
  | .objectIsTransparentTypedObject => some (.isOneOf ObjectClass.transparentTypedObjects)
  | .objectIsOpaqueTypedObject => some (.isOneOf ObjectClass.opaqueTypedObjects)
  | .typeDescrIsSimpleType => some (.isOneOf ObjectClass.simpleTypeDescrs)
  | .typeDescrIsArrayType => some (.isOneOf ObjectClass.arrayTypeDescrs)
  | .typeDescrIsSizedArrayType => some (.isOneOf ObjectClass.sizedArrayTypeDescrs)
  | .typeDescrIsUnsizedArrayType => some (.isOneOf ObjectClass.unsizedArrayTypeDescrs)
  | .objectIsTypeDescr => some .isTypeDescr
  | .isCallable => some .isCallable
  | .haveSameClass => some .haveSameClass
  | _ => none

namespace ClassPredicate

/-- **The predicate holds of the classes** of the arguments. -/
def Holds : ClassPredicate → List ObjectClass → Prop
  | .isOneOf candidates, [c] => c ∈ candidates
  | .isTypeDescr, [c] => c.isTypeDescr = true
  | .isCallable, [c] => c.isNonProxyCallable = true
  | .haveSameClass, [c, d] => c = d
  | _, _ => False

/-- **The answer is right**, and the classes settle it: whether a proxy is callable they do not. -/
structure Settles (p : ClassPredicate) (classes : List ObjectClass) (answer : Bool) : Prop where
  right : answer = true ↔ p.Holds classes
  settled : p = .isCallable → .proxy ∉ classes

/-- The operation that finds the answer out at run time; for type descriptors there is none. -/
def op? : ClassPredicate → Option Op
  | .isOneOf candidates => some (.hasClass candidates)
  | .isTypeDescr => none
  | .isCallable => some .isCallable
  | .haveSameClass => some .haveSameClass

/-- The decision about calls of such a native. -/
def decide : ClassPredicate → Site → Decide Plan
  | .isOneOf candidates => Objects.hasClass candidates
  | .isTypeDescr => Objects.isTypeDescr
  | .isCallable => Objects.isCallable
  | .haveSameClass => Objects.haveSameClass

/-- The specializer of a native that stands for a predicate. -/
lemma exists_specializer {native : Native} {p : ClassPredicate}
    (h : native.classPredicate? = some p) :
    ∃ q, Registry.call? native = some q ∧ ∀ f, q.decide f = p.decide := by
  cases native <;> cases h <;> exact ⟨_, rfl, fun _ => rfl⟩

/-! ### Plans -/

/-- **What is planned for a predicate**: a constant that is right whatever objects come along, or a
test of the arguments where their classes are not known. -/
inductive Plans (p : ClassPredicate) (xs : List Operand) : Plan → Prop
  | answer (a : Bool)
      (sound : ∀ os, List.Forall₂ (·.MayBe ·) xs os → p.Settles (os.map (·.objectClass)) a) :
      Plans p xs (.of (pushConstant (.boolean a)))
  | test (op : Op) (hop : p.op? = some op)
      (unknown : ∀ cs, List.Forall₂ (·.knownClass? = some ·) xs cs →
        p = .isCallable ∧ .proxy ∈ cs) :
      Plans p xs (.of (result op xs .boolean))

variable {p : ClassPredicate} {xs : List Operand} {x y : Operand}

/-- The predicate is folded to what is known of the answer. -/
lemma plans_foldOr {op : Op} {known : Option Bool} (hop : p.op? = some op)
    (hknown : ∀ a, known = some a →
      ∀ os, List.Forall₂ (·.MayBe ·) xs os → p.Settles (os.map (·.objectClass)) a)
    (hunknown : known = none → ∀ cs, List.Forall₂ (·.knownClass? = some ·) xs cs →
      p = .isCallable ∧ .proxy ∈ cs) :
    p.Plans xs (.of (Objects.foldOr known op xs)) := by
  cases known with
  | none => exact .test op hop (hunknown rfl)
  | some a => exact .answer a (hknown a rfl)

/-- An answer about the class of one argument. -/
lemma settles_one {a : Bool}
    (h : ∀ o : TypeObject, x.MayBe o → p.Settles [o.objectClass] a) (os : List TypeObject)
    (hos : List.Forall₂ (·.MayBe ·) [x] os) : p.Settles (os.map (·.objectClass)) a := by
  obtain ⟨o, _, ho, hrest, rfl⟩ := List.forall₂_cons_left_iff.1 hos
  obtain rfl := List.forall₂_nil_left_iff.1 hrest
  exact h o ho

/-- **Whether the class is one of the candidates** is known with the class. -/
theorem plans_isOneOf (candidates : List ObjectClass) :
    Plans (.isOneOf candidates) [x] (.of
      (Objects.foldOr (x.knownClass?.map candidates.contains) (.hasClass candidates) [x])) := by
  refine plans_foldOr rfl (fun a ha => ?_) fun hnone cs hcs => ?_
  · obtain ⟨c, hc, rfl⟩ := Option.map_eq_some_iff.1 ha
    refine settles_one fun o ho => ⟨?_, nofun⟩
    rw [Facts.objectClass_of_mayBe hc ho, List.contains_iff_mem]
    rfl
  · obtain ⟨c, _, hc, -, rfl⟩ := List.forall₂_cons_left_iff.1 hcs
    rw [hc] at hnone
    cases hnone

/-- **Whether objects are callable** is known with their class, if that is not the class of
proxies. -/
theorem plans_isCallable : Plans .isCallable [x]
    (.of (Objects.foldOr (x.knownClass?.bind Objects.callable?) .isCallable [x])) := by
  refine plans_foldOr rfl (fun a ha => ?_) fun hnone cs hcs => ?_
  · obtain ⟨c, hc, hcallable⟩ := Option.bind_eq_some_iff.1 ha
    rw [Objects.callable?, Option.ite_none_left_eq_some] at hcallable
    obtain ⟨hproxy, hanswer⟩ := hcallable
    obtain rfl := Option.some.inj hanswer
    refine settles_one fun o ho => ?_
    rw [Facts.objectClass_of_mayBe hc ho]
    refine ⟨Iff.rfl, fun _ hmem => ?_⟩
    obtain rfl := List.mem_singleton.1 hmem
    exact hproxy rfl
  · obtain ⟨c, _, hc, -, rfl⟩ := List.forall₂_cons_left_iff.1 hcs
    rw [hc, Option.bind_some, Objects.callable?] at hnone
    cases c
    case proxy => exact ⟨rfl, List.mem_cons_self ..⟩
    all_goals cases hnone

/-- **Whether two objects share their class** is known if both classes are. -/
theorem plans_haveSameClass : Plans .haveSameClass [x, y]
    (.of (Objects.foldOr (Objects.sameClass? x y) .haveSameClass [x, y])) := by
  refine plans_foldOr rfl (fun a ha os hos => ?_) fun hnone cs hcs => ?_
  · obtain ⟨c, hc, hsame⟩ := Option.bind_eq_some_iff.1 ha
    obtain ⟨d, hd, hanswer⟩ := Option.bind_eq_some_iff.1 hsame
    obtain rfl := Option.some.inj hanswer
    obtain ⟨o, _, ho, hrest, rfl⟩ := List.forall₂_cons_left_iff.1 hos
    obtain ⟨q, _, hq, hnil, rfl⟩ := List.forall₂_cons_left_iff.1 hrest
    obtain rfl := List.forall₂_nil_left_iff.1 hnil
    refine ⟨?_, nofun⟩
    rw [List.map_cons, List.map_singleton, Facts.objectClass_of_mayBe hc ho,
      Facts.objectClass_of_mayBe hd hq, decide_eq_true_iff]
    rfl
  · obtain ⟨c, _, hc, hrest, rfl⟩ := List.forall₂_cons_left_iff.1 hcs
    obtain ⟨d, _, hd, -, rfl⟩ := List.forall₂_cons_left_iff.1 hrest
    simp [Objects.sameClass?, hc, hd] at hnone

/-- **Whether a type descriptor is given** has to be certain of all objects together. -/
theorem plans_isTypeDescr {t : TypeSet} {a : Bool} (ht : x.types = some t)
    (hmixed : t.forAllClasses ObjectClass.isTypeDescr ≠ .mixed)
    (ha : a = true ↔ t.forAllClasses ObjectClass.isTypeDescr = .allTrue) :
    Plans .isTypeDescr [x] (.of (pushConstant (.boolean a))) :=
  .answer a (settles_one fun _ ho =>
    ⟨ha.trans (TypeSet.iff_of_forAllClasses hmixed (ho t ht)).symm, nofun⟩)

/-- **A predicate is answered or tested.** -/
theorem decide_ensures (p : ClassPredicate) (s : Site) :
    (p.decide s).Ensures (p.Plans s.args) := by
  cases p with
  | isOneOf candidates =>
    refine Site.ensures_one rfl fun x hx _ => ?_
    rw [hx]
    exact plans_isOneOf candidates
  | isCallable =>
    refine Site.ensures_one rfl fun x hx _ => ?_
    rw [hx]
    exact plans_isCallable
  | haveSameClass =>
    refine Site.ensures_two rfl fun x y hxy _ => ?_
    rw [hxy]
    exact plans_haveSameClass
  | isTypeDescr =>
    refine Site.ensures_one rfl fun x hx _ => ?_
    rw [hx, Decide.ensures_bind, Decide.ensures_need]
    intro t ht
    cases hverdict : t.forAllClasses ObjectClass.isTypeDescr with
    | allTrue => exact plans_isTypeDescr ht (by rw [hverdict]; nofun) (by simp [hverdict])
    | allFalse => exact plans_isTypeDescr ht (by rw [hverdict]; nofun) (by simp [hverdict])
    | empty => exact plans_isTypeDescr ht (by rw [hverdict]; nofun) (by simp [hverdict])
    | mixed => trivial

end ClassPredicate

/-! ## What becomes of the call -/

/-- **The call is answered, or the classes are tested.**  The answer is right for all objects that
may come along.  A test is for the same arguments; they are objects of unknown class then, or may be
proxies, of which nobody knows whether they are callable. -/
inductive Builder.AnswersClass (b b' : Builder) (call : Call NodeId) (p : ClassPredicate) : Prop
  | answered (a : Bool) (folds : b.Folds b' (.boolean a))
      (sound : ∀ os, List.Forall₂ b.graph.MayBe call.args os →
        p.Settles (os.map (·.objectClass)) a)
  | tested (op : Op) (hop : p.op? = some op)
      (becomes : b.Becomes b' [⟨op, call.args, .boolean, none⟩] ⟨b.graph.size⟩)
      (unknown : ∀ cs, List.Forall₂ b.graph.ClassIs call.args cs → p = .isCallable ∧ .proxy ∈ cs)

namespace Inliner

variable {i : Inliner} {stubs : StubStore} {b b' : Builder} {call : Call NodeId}
  {f : FunctionObject} {r : Call Operand} {pl : Plan} {native : Native} {p : ClassPredicate}

/-- What the nodes of the arguments record is known of them. -/
lemma Resolved.forall₂_args_imp {α : Type} {R : NodeId → α → Prop} {S : Operand → α → Prop}
    (h : Resolved b call r) {as : List α} (has : List.Forall₂ R call.args as)
    (hRS : ∀ id x a, b.facts? id = some x.toFacts → R id a → S x a) :
    List.Forall₂ S r.args as := by
  refine forall₂_of_common h.forall₂_args has fun id x a hx hR => hRS id x a ?_ hR
  obtain ⟨f, hf, rfl⟩ := Option.map_eq_some_iff.1 hx
  exact hf

/-- **What is planned for a predicate** becomes of its call. -/
theorem Emits.answersClass {callee : Callee} (h : i.Emits b call callee r pl b')
    (hplans : p.Plans r.args pl) : b.AnswersClass b' call p := by
  cases hplans with
  | answer a sound =>
    refine .answered a h.folds fun os hos => sound os ?_
    exact h.resolved.forall₂_args_imp hos fun _ _ _ hf => (Builder.mayBe_iff_of_facts? hf).1
  | test op hop unknown =>
    obtain ⟨context, hbecomes⟩ := h.becomes_of_push (v := .added 0) rfl (List.mem_of_getLast? rfl)
      rfl
    have hargs : (r.args.map (·.ref)).map (·.resolve b.graph.size context) = call.args := by
      rw [List.map_map]
      exact h.resolved.args_eq b.graph.size context
    refine .tested op hop ?_ fun cs hcs => unknown cs ?_
    · rw [← hargs]
      exact hbecomes
    · exact h.resolved.forall₂_args_imp hcs fun _ _ _ hf => (Builder.classIs_iff_of_facts? hf).1

/-- **A predicate on classes is answered** only as it comes out for all objects that may come along;
otherwise the classes are tested at run time. -/
theorem attempt_answersClass (h : (i.attempt stubs b call (.function f)).result = .ok .inlined)
    (hf : f.native? = some native) (hp : native.classPredicate? = some p) :
    b.AnswersClass (i.attempt stubs b call (.function f)).builder call p := by
  obtain ⟨r, pl, hemits⟩ := exists_emits h
  obtain ⟨q, hcall, hq⟩ := ClassPredicate.exists_specializer hp
  have hdecide := hemits.decide_eq_ok hf hcall
  rw [hq] at hdecide
  exact hemits.answersClass ((p.decide_ensures (i.site r)).of_eq_ok hdecide)

end Inliner

/-- Two arrays and a typed array are asked whether their classes agree. -/
def Scenario.arraysAndBytes : Scenario where
  callee := .function (.ofNative ⟨1⟩ .haveSameClass)
  args := [.typed .object (some ((TypeSet.singleton { id := ⟨1⟩, objectClass := .array }).insert
      { id := ⟨2⟩, objectClass := .array })),
    .typed .object (some (.singleton { id := ⟨3⟩, objectClass := .typedArray .uint8 }))]
  resultTypes := some (.ofType .boolean)

/-- They do not, whichever of the arrays comes along. -/
theorem attempt_answersClass_arraysAndBytes :
    (Scenario.arraysAndBytes.attempt {} Scenario.arraysAndBytes.builder).result = .ok .inlined ∧
    Scenario.arraysAndBytes.builder.AnswersClass
      (Scenario.arraysAndBytes.attempt {} Scenario.arraysAndBytes.builder).builder
      Scenario.arraysAndBytes.call .haveSameClass := by
  have hinlined : (Scenario.arraysAndBytes.attempt {} Scenario.arraysAndBytes.builder).result =
      .ok .inlined := by
    decide +kernel
  exact ⟨hinlined, Inliner.attempt_answersClass hinlined rfl rfl⟩

end CallSite
