import CallSite.Proofs.Decision
import CallSite.Proofs.Evolution.Grows
import CallSite.Proofs.Evolution.Site

/-!
# Decisions that last

A decision lasts when it comes out the same after everything observed has grown, as long as the
facts that its plan relies on are respected.  The plan may then record other types on its nodes, but
only where flags and element types are concerned.

* `Site.Grows` — **what a specialization may look at has changed**, respecting some facts.
* `Decide.Lasts` — the decision lasts.
* `Decide.lasts_of_core` — a decision that looks at the core of its site alone lasts.
-/

namespace CallSite

/-! ## Changes -/

/-- An operand has changed in the types observed for it alone. -/
structure Operand.Grows (facts : List Dependency) (x x' : Operand) : Prop where
  core : x'.core = x.core
  types : Option.Rel (TypeSet.Grows facts) x.types x'.types

/-- A template has changed in its type object alone. -/
structure Template.Grows (facts : List Dependency) (t t' : Template) : Prop where
  core : t'.core = t.core
  typeObject : t.typeObject.Grows facts t'.typeObject

/-- **The engine has changed** in the type objects of its templates alone, and in the prototype of
arrays, if that is not relied on. -/
structure Engine.Grows (facts : List Dependency) (env env' : Engine) : Prop where
  core : env'.core = env.core
  templates : ∀ site native,
    Option.Rel (Template.Grows facts) (env.template? site native) (env'.template? site native)
  prototype : .noIndexedPrototype ∈ facts → env'.indexedArrayPrototype = false

/-- **What a specialization may look at has changed** in the type objects alone. -/
structure Site.Grows (facts : List Dependency) (s s' : Site) : Prop where
  core : s'.core = s.core
  receiver : s.receiver.Grows facts s'.receiver
  args : List.Forall₂ (Operand.Grows facts) s.args s'.args
  resultTypes : s.call.resultTypes.Grows facts s'.call.resultTypes
  env : s.env.Grows facts s'.env

/-- No object of a native class is laid out as a typed object. -/
def TypeSet.NativesWithoutLayout (s : TypeSet) : Prop :=
  ∀ o ∈ s.objects, o.objectClass.isNative = true → o.layout = none

instance (s : TypeSet) : Decidable s.NativesWithoutLayout :=
  inferInstanceAs (Decidable (∀ o ∈ s.objects, o.objectClass.isNative = true → o.layout = none))

/-- No object among the arguments that is of a native class is laid out as a typed object. -/
def Site.NativesWithoutLayout (s : Site) : Prop :=
  ∀ x ∈ s.args, ∀ types ∈ x.types, types.NativesWithoutLayout

/-! ## Answers about what has changed -/

variable {facts : List Dependency}

namespace Operand.Grows

variable {x x' : Operand}

lemma ty_eq (h : x.Grows facts x') : x'.ty = x.ty := by
  rw [← x'.ty_core, ← Operand.toFacts_core, h.core]
  rfl

lemma types_core_eq (h : x.Grows facts x') :
    x'.types.map TypeSet.core = x.types.map TypeSet.core := by
  rw [← x'.types_core, ← Operand.toFacts_core, h.core]
  rfl

lemma int32?_eq (h : x.Grows facts x') : x'.int32? = x.int32? := by
  rw [← x'.int32?_core, ← Operand.toFacts_core, h.core]
  rfl

/-- Types that were observed have grown. -/
lemma exists_types (h : x.Grows facts x') {t : TypeSet} (ht : x.types = some t) :
    ∃ t', x'.types = some t' ∧ t.Grows facts t' :=
  exists_of_rel h.types ht

end Operand.Grows

namespace Template.Grows

variable {t t' : Template}

lemma length_eq (h : t.Grows facts t') : t'.length = t.length := by
  show t'.core.length = t.core.length
  rw [h.core]

lemma constant_eq (h : t.Grows facts t') : t'.constant = t.constant := by
  show t'.core.constant = t.core.constant
  rw [h.core]

lemma initialHeap_eq (h : t.Grows facts t') :
    t'.typeObject.initialHeap = t.typeObject.initialHeap := by
  rw [← t'.typeObject.initialHeap_core, h.typeObject.core, TypeObject.initialHeap_core]

end Template.Grows

namespace Site.Grows

variable {s s' : Site}

lemma classify_eq (h : s.Grows facts s') (sig : Signature) : s'.classify sig = s.classify sig := by
  rw [← s'.classify_core, h.core, classify_core]

lemma site_eq (h : s.Grows facts s') : s'.call.site = s.call.site := by
  show s'.core.call.site = s.core.call.site
  rw [h.core]

lemma kind_eq (h : s.Grows facts s') : s'.call.kind = s.call.kind := by
  show s'.core.call.kind = s.core.call.kind
  rw [h.core]

lemma config_eq (h : s.Grows facts s') : s'.config = s.config := by
  rw [← s'.config_core, h.core, config_core]

lemma resultPopped_eq (h : s.Grows facts s') : s'.call.resultPopped = s.call.resultPopped := by
  show s'.core.call.resultPopped = s.core.call.resultPopped
  rw [h.core]

lemma argc_eq (h : s.Grows facts s') : s'.argc = s.argc := by
  rw [← s'.argc_core, h.core, argc_core]

lemma args_core_eq (h : s.Grows facts s') :
    s'.args.map Operand.core = s.args.map Operand.core := by
  rw [← s'.args_core, h.core, args_core]

lemma returnType_eq (h : s.Grows facts s') : s'.returnType = s.returnType := by
  rw [← s'.returnType_core, h.core, returnType_core]

/-- An argument that is there is there again. -/
lemma exists_arg (h : s.Grows facts s') {index : Nat} {x : Operand} (hx : s.arg index = .ok x) :
    ∃ x', s'.arg index = .ok x' ∧ x.Grows facts x' := by
  simp only [arg_eq_ok] at hx ⊢
  obtain ⟨hlt, rfl⟩ := List.getElem?_eq_some_iff.1 hx
  have hlt' : index < s'.args.length := h.args.length_eq ▸ hlt
  exact ⟨s'.args[index], List.getElem?_eq_getElem hlt', h.args.get hlt hlt'⟩

/-- And so is a template. -/
lemma exists_template (h : s.Grows facts s') {native : Native} {t : Template}
    (ht : s.template native = .ok t) : ∃ t', s'.template native = .ok t' ∧ t.Grows facts t' := by
  simp only [template, Decide.need_eq_ok] at ht ⊢
  rw [h.site_eq]
  exact exists_of_rel (h.env.templates s.call.site native) ht

end Site.Grows

/-! ## Decisions -/

namespace Decide

/-- **The decision lasts**: it comes out the same after a change that respects the facts which its
plan relies on. -/
def Lasts (decide : Site → Decide Plan) : Prop :=
  ∀ ⦃facts : List Dependency⦄ ⦃s s' : Site⦄ ⦃p : Plan⦄, s.NativesWithoutLayout →
    s.Grows facts s' → decide s = .ok p → p.facts ⊆ facts →
    ∃ p', decide s' = .ok p' ∧ p'.core = p.core

/-- **A decision that looks at the core of its site alone lasts.** -/
theorem lasts_of_core {decide : Site → Decide Plan}
    (h : ∀ s : Site, decide s.core = Plan.core <$> decide s) : Lasts decide := by
  intro facts s s' p _ hgrows hp _
  have hcore : Plan.core <$> decide s' = .ok p.core := by
    rw [← h, hgrows.core, h, hp]
    rfl
  exact map_eq_ok.1 hcore

end Decide

end CallSite
