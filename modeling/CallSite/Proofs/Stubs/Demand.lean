import CallSite.Proofs.Classes.Predicates
import CallSite.Proofs.Events

/-!
# Calls that need helper code

The methods of regular expressions run helper code, and their calls are replaced only where that is
to be had.  All other calls do without.  Which helper a call needs is told by its native, and by
whether anything but the outcome of a match matters; whether it needs it is a question about the
call alone, that every other check of its specializer has answered before.

* `Native.stub?` — the helper that a call of a native needs.
* `Registry.stub_of_decide` — **a plan asks for the stub that its native needs**, and for no other.
* `Builder.SuitsRegExps`, `Inliner.AsksFor` — **the call passes every check but that for the stub**.
* `Inliner.AsksFor.exists_plan`, `Inliner.asksFor_of_decide` — which is that a plan is made, and
  asks for it.
-/

namespace CallSite

open Draft (add effectfulResult push resumeAfter)

/-! ## Natives and the stubs that they need -/

/-- **The stub that a call of the native needs.**  A match of which only the outcome matters is a
test. -/
def Native.stub? (native : Native) (resultEscapes : Bool) : Option StubKind :=
  match native with
  | .regExpExec => some (if resultEscapes then .regExpExec else .regExpTest)
  | .regExpTest => some .regExpTest
  | _ => none

/-- Only the methods of regular expressions need a stub. -/
lemma Native.eq_of_stub? {native : Native} {resultEscapes : Bool} {k : StubKind}
    (h : native.stub? resultEscapes = some k) : native = .regExpExec ∨ native = .regExpTest := by
  rw [stub?.eq_def] at h
  split at h
  · exact .inl rfl
  · exact .inr rfl
  · cases h

/-- The operation that runs the helper code. -/
def StubKind.op : StubKind → Op
  | regExpExec => .regExpExec
  | regExpTest => .regExpTest

/-! ## Plans that ask for a stub -/

namespace RegExps

variable {s : Site} {k : StubKind} {p : Plan}

/-- **The call can be run by the helper code**: it has the shape, and a regular expression as its
receiver; a test that escapes gives booleans. -/
structure Suits (k : StubKind) (s : Site) : Prop where
  admits : s.Admits signature
  regExp : s.receiver.knownClass? = some .regExp
  result : k = .regExpTest → s.call.resultEscapes = true → s.returnType = .boolean

/-- **A plan for such a call** asks for the stub and runs it. -/
structure Needs (k : StubKind) (s : Site) (p : Plan) : Prop where
  suits : Suits k s
  stub : p.stub = some k
  runs : p.sketches.head?.map Sketch.op = some k.op

/-- What a plan for a test needs. -/
lemma test_needs (s : Site) : (test s).Yields (Needs .regExpTest s) := by
  rw [test]
  simp only [Decide.yields_bind]
  intro _ hclassify
  split
  · exact Decide.yields_decline _
  · next hresult =>
    simp only [Decide.yields_bind, Decide.yields_pure, Decide.require_eq_ok, decide_eq_true_iff]
    intro _ hregExp x _
    refine ⟨⟨Site.admits_of_classify hclassify, hregExp, fun _ hescapes => ?_⟩, rfl, rfl⟩
    by_contra hne
    exact hresult ⟨hescapes, hne⟩

/-- **A test that the helper code can run** is planned. -/
theorem exists_test (h : Suits .regExpTest s) : ∃ p, test s = .ok p := by
  obtain ⟨x, hx⟩ := h.admits.args_eq_one rfl
  have harg : s.arg 0 = .ok x := Site.arg_eq_ok.2 (by rw [hx]; rfl)
  have hresult : ¬(s.call.resultEscapes = true ∧ s.returnType ≠ .boolean) := fun hnot =>
    hnot.2 (h.result rfl hnot.1)
  rw [test, Site.classify_eq_ok h.admits, if_neg hresult, h.regExp, harg]
  exact ⟨_, rfl⟩

/-- What a plan for a match needs. -/
lemma exec_needs (s : Site) :
    (exec s).Yields (Needs (if s.call.resultEscapes then .regExpExec else .regExpTest) s) := by
  rw [exec]
  split
  · simp only [Decide.yields_bind, Decide.yields_pure, Decide.require_eq_ok, decide_eq_true_iff]
    intro _ hclassify _ hregExp x _
    refine ⟨⟨Site.admits_of_classify hclassify, hregExp, fun htest => ?_⟩, rfl, rfl⟩
    cases htest
  · exact test_needs s

/-- **A match that the helper code can run** is planned. -/
theorem exists_exec
    (h : Suits (if s.call.resultEscapes then .regExpExec else .regExpTest) s) :
    ∃ p, exec s = .ok p := by
  rw [exec]
  split_ifs at h ⊢
  · obtain ⟨x, hx⟩ := h.admits.args_eq_one rfl
    have harg : s.arg 0 = .ok x := Site.arg_eq_ok.2 (by rw [hx]; rfl)
    rw [Site.classify_eq_ok h.admits, h.regExp, harg]
    exact ⟨_, rfl⟩
  · exact exists_test h

end RegExps

/-- **The plan asks for no stub.** -/
def Plan.Stubless (p : Plan) : Prop := p.stub = none

@[simp] lemma Plan.stubless_relyingOn (facts : List Dependency) (d : Draft Unit) :
    (relyingOn facts d).Stubless := rfl

@[simp] lemma Plan.stubless_of (d : Draft Unit) : (of d).Stubless := rfl

@[simp] lemma Plan.stubless_mk (facts : List Dependency) (usesContext : Bool)
    (steps : List Step) : ({ facts, usesContext, steps } : Plan).Stubless := rfl

/-- The specializer makes plans that ask for no stub. -/
def Specializer.Stubless (q : Specializer) : Prop := ∀ f s, (q.decide f s).Yields Plan.Stubless

/-! ### Families that ask for no stub -/

section Stubless

variable (s : Site)

namespace Arithmetic

@[simp] lemma mathFunction_stubless (f : MathFunction) :
    (mathFunction f s).Yields Plan.Stubless := by
  simp [mathFunction]

@[simp] lemma abs_stubless : (abs s).Yields Plan.Stubless := by simp [abs]

@[simp] lemma rounding_stubless (r : Rounding) : (rounding r s).Yields Plan.Stubless := by
  simp [rounding]

@[simp] lemma clz32_stubless : (clz32 s).Yields Plan.Stubless := by simp [clz32]

@[simp] lemma sqrt_stubless : (sqrt s).Yields Plan.Stubless := by simp [sqrt]

@[simp] lemma binary_stubless (op : Op) : (binary op s).Yields Plan.Stubless := by simp [binary]

@[simp] lemma atan2_stubless : (atan2 s).Yields Plan.Stubless := binary_stubless s _

@[simp] lemma hypot_stubless : (hypot s).Yields Plan.Stubless := binary_stubless s _

@[simp] lemma random_stubless : (random s).Yields Plan.Stubless := by simp [random]

@[simp] lemma imul_stubless : (imul s).Yields Plan.Stubless := by simp [imul]

@[simp] lemma fround_stubless : (fround s).Yields Plan.Stubless := by simp [fround]

@[simp] lemma power_stubless : (power s).Yields Plan.Stubless := by simp [power]

@[simp] lemma minMax_stubless (isMax : Bool) : (minMax isMax s).Yields Plan.Stubless := by
  simp only [minMax, Decide.yields_bind]
  intro _ _ _ _
  split <;> simp

end Arithmetic

namespace ArrayUpdate

@[simp] lemma push_stubless : (push s).Yields Plan.Stubless := by simp [push]

@[simp] lemma remove_stubless (side : RemovalSide) : (remove side s).Yields Plan.Stubless := by
  simp [remove]

@[simp] lemma splice_stubless : (splice s).Yields Plan.Stubless := by simp [splice]

@[simp] lemma join_stubless : (join s).Yields Plan.Stubless := by simp [join]

end ArrayUpdate

namespace ArrayCreation

@[simp] lemma construct_stubless : (construct s).Yields Plan.Stubless := by simp [construct]

@[simp] lemma concat_stubless : (concat s).Yields Plan.Stubless := by simp [concat]

@[simp] lemma newDense_stubless : (newDense s).Yields Plan.Stubless := by simp [newDense]

end ArrayCreation

namespace ElementStore

@[simp] lemma putElements_stubless : (putElements s).Yields Plan.Stubless := by simp [putElements]

end ElementStore

namespace Objects

@[simp] lemma hasClass_stubless (candidates : List ObjectClass) :
    (hasClass candidates s).Yields Plan.Stubless := by
  simp [hasClass]

@[simp] lemma isCallable_stubless : (isCallable s).Yields Plan.Stubless := by simp [isCallable]

@[simp] lemma haveSameClass_stubless : (haveSameClass s).Yields Plan.Stubless := by
  simp [haveSameClass]

@[simp] lemma toObject_stubless : (toObject s).Yields Plan.Stubless := by simp [toObject]

@[simp] lemma isObject_stubless : (isObject s).Yields Plan.Stubless := by simp [isObject]

@[simp] lemma toInteger_stubless : (toInteger s).Yields Plan.Stubless := by simp [toInteger]

@[simp] lemma setReservedSlot_stubless : (setReservedSlot s).Yields Plan.Stubless := by
  simp [setReservedSlot]

@[simp] lemma getReservedSlot_stubless : (getReservedSlot s).Yields Plan.Stubless := by
  simp [getReservedSlot]

@[simp] lemma isTypeDescr_stubless : (isTypeDescr s).Yields Plan.Stubless := by
  simp only [isTypeDescr, Decide.yields_bind]
  intro _ _ _ _ types _
  cases types.forAllClasses ObjectClass.isTypeDescr <;> simp

end Objects

namespace Strings

@[simp] lemma fromCharCode_stubless : (fromCharCode s).Yields Plan.Stubless := by
  simp [fromCharCode]

@[simp] lemma toString_stubless : (toString s).Yields Plan.Stubless := by simp [toString]

@[simp] lemma replace_stubless : (replace s).Yields Plan.Stubless := by simp [replace]

@[simp] lemma construct_stubless : (construct s).Yields Plan.Stubless := by simp [construct]

@[simp] lemma split_stubless : (split s).Yields Plan.Stubless := by simp [split]

@[simp] lemma charCodeAt_stubless : (charCodeAt s).Yields Plan.Stubless := by
  simp only [charCodeAt, Decide.yields_bind]
  intro _ _ index _
  cases constantUnit? s.receiver index <;> simp

@[simp] lemma charAt_stubless : (charAt s).Yields Plan.Stubless := by
  simp only [charAt, Decide.yields_bind]
  intro _ _ index _
  cases (constantUnit? s.receiver index).bind unitChar? <;> simp

end Strings

namespace Surroundings

@[simp] lemma inParallelSection_stubless : (inParallelSection s).Yields Plan.Stubless := by
  simp [inParallelSection]

@[simp] lemma forkJoinSlice_stubless : (forkJoinSlice s).Yields Plan.Stubless := by
  simp [forkJoinSlice]

@[simp] lemma bailout_stubless : (bailout s).Yields Plan.Stubless := by simp [bailout]

@[simp] lemma assertFloat32_stubless : (assertFloat32 s).Yields Plan.Stubless := by
  simp [assertFloat32]

@[simp] lemma isConstructing_stubless : (isConstructing s).Yields Plan.Stubless := by
  simp only [isConstructing, Decide.yields_bind]
  intro _ _
  split <;> simp

end Surroundings

namespace TypedMemory

@[simp] lemma setOffset_stubless : (setOffset s).Yields Plan.Stubless := by simp [setOffset]

@[simp] lemma compareExchange_stubless : (compareExchange s).Yields Plan.Stubless := by
  simp [compareExchange]

@[simp] lemma load_stubless : (load s).Yields Plan.Stubless := by simp [load]

@[simp] lemma store_stubless : (store s).Yields Plan.Stubless := by simp [store]

@[simp] lemma update_stubless (operator : AtomicOperator) :
    (update operator s).Yields Plan.Stubless := by
  simp [update]

@[simp] lemma fence_stubless : (fence s).Yields Plan.Stubless := by simp [fence]

lemma length_stubless (isShared : Bool) (element : Scalar) :
    (length isShared element s).Yields Plan.Stubless := by
  simp [length]

lemma construct_stubless (d : DescriptorObject) : (construct d s).Yields Plan.Stubless := by
  simp [construct]

end TypedMemory

@[simp] lemma BoundCall.specialize_stubless (f : FunctionObject) :
    (specialize f s).Yields Plan.Stubless := by
  simp only [specialize, Decide.yields_bind]
  intro _ _
  split <;> simp

end Stubless

/-! ### The registry -/

namespace Registry

open Specializer in
/-- **No native asks for a stub** but the methods of regular expressions. -/
theorem call?_stubless {native : Native} (hexec : native ≠ .regExpExec)
    (htest : native ≠ .regExpTest) : ∀ q ∈ call? native, q.Stubless := by
  fun_cases call? native <;>
    simp [Stubless, decide_plain, decide_mathFunction, decide_rounding, decide_minMax,
      decide_remove, decide_atomicUpdate, decide_hasClass, decide_boundFunction]
  · exact absurd rfl hexec
  · exact absurd rfl htest

lemma getter?_stubless (native : Native) : ∀ q ∈ getter? native, q.Stubless := by
  fun_cases getter? native <;> rintro q ⟨⟩
  · exact fun _ s => TypedMemory.length_stubless s _ _
  · exact fun _ s => TypedMemory.length_stubless s _ _

variable {native : Native} {q : Specializer} {f : FunctionObject} {s : Site} {p : Plan}
  {k : StubKind}

/-- What a plan needs whose native needs a stub. -/
lemma needs_of_decide (hk : native.stub? s.call.resultEscapes = some k)
    (hfind : find? s.call.kind native = some q) (h : q.decide f s = .ok p) :
    RegExps.Needs k s p := by
  obtain rfl | rfl := Native.eq_of_stub? hk
  · rw [find?_call hfind rfl] at hfind
    obtain rfl := Option.some.inj hfind
    obtain rfl := Option.some.inj hk
    exact RegExps.exec_needs s p h
  · rw [find?_call hfind rfl] at hfind
    obtain rfl := Option.some.inj hfind
    obtain rfl := Option.some.inj hk
    exact RegExps.test_needs s p h

/-- **A call that the helper code can run** is planned. -/
theorem exists_of_suits (hk : native.stub? s.call.resultEscapes = some k)
    (hfind : find? s.call.kind native = some q) (h : RegExps.Suits k s) :
    ∃ p, q.decide f s = .ok p := by
  obtain rfl | rfl := Native.eq_of_stub? hk
  · rw [find?_call hfind rfl] at hfind
    obtain rfl := Option.some.inj hfind
    obtain rfl := Option.some.inj hk
    exact RegExps.exists_exec h
  · rw [find?_call hfind rfl] at hfind
    obtain rfl := Option.some.inj hfind
    obtain rfl := Option.some.inj hk
    exact RegExps.exists_test h

/-- **A plan asks for the stub that its native needs**, and for no other. -/
theorem stub_of_decide (hfind : find? s.call.kind native = some q) (h : q.decide f s = .ok p) :
    p.stub = native.stub? s.call.resultEscapes := by
  cases hk : native.stub? s.call.resultEscapes with
  | some k => exact (needs_of_decide hk hfind h).stub
  | none =>
    have hexec : native ≠ .regExpExec := fun heq => nomatch heq ▸ hk
    have htest : native ≠ .regExpTest := fun heq => nomatch heq ▸ hk
    cases hkind : s.call.kind with
    | call => exact call?_stubless hexec htest q (hkind.symm ▸ hfind :) f s p h
    | getter => exact getter?_stubless native q (hkind.symm ▸ hfind :) f s p h

end Registry

/-! ## Calls that ask for a stub -/

/-- **The call can be run by the helper code**, by what the graph knows of its operands: it is no
construct, its receiver is an object that is known to be a regular expression, and its one argument
is known not to be an object; a test that escapes was observed to give booleans. -/
structure Builder.SuitsRegExps (b : Builder) (call : Call NodeId) (k : StubKind) : Prop where
  called : call.constructing = false
  object : ∃ x, b.facts? call.receiver = some x ∧ x.ty = .object
  regExp : b.graph.ClassIs call.receiver .regExp
  argument : ∃ id x, call.args = [id] ∧ b.facts? id = some x ∧ x.mightBe .object = false
  result : k = .regExpTest → call.resultEscapes = true → call.returnType = .boolean

/-- The call has the shape of a method of regular expressions. -/
lemma RegExps.admits_iff {s : Site} :
    s.Admits signature ↔ s.call.constructing = false ∧ s.receiver.ty = .object ∧
      ∃ x, s.args = [x] ∧ x.mightBe .object = false := by
  have hconstructing : Signature.checkConstructing .never s.call.constructing = .ok () ↔
      s.call.constructing = false := by
    cases s.call.constructing <;> simp [Signature.checkConstructing]
  have harg (x : Operand) : Signature.checkArgs 0 [.notObject] [x.toFacts] = .ok () ↔
      x.mightBe .object = false := by
    simp [Signature.checkArgs, OperandClass.accepts]
  constructor
  · intro hadmits
    obtain ⟨x, hx⟩ := hadmits.args_eq_one rfl
    obtain ⟨hcalled, -, -, hobject, hargs⟩ := (s.admits_iff _).1 hadmits
    rw [hx] at hargs
    exact ⟨hconstructing.1 hcalled, of_decide_eq_true hobject, x, hx, (harg x).1 hargs⟩
  · rintro ⟨hcalled, hobject, x, hx, hmight⟩
    refine (s.admits_iff _).2 ⟨hconstructing.2 hcalled, ?_, rfl, decide_eq_true hobject, ?_⟩
    · rw [show s.argc = 1 from congrArg List.length hx]
      rfl
    · rw [hx]
      exact (harg x).2 hmight

namespace Inliner

variable {i : Inliner} {b : Builder} {call : Call NodeId} {callee : Callee} {r : Call Operand}
  {native : Native} {q : Specializer} {log : List Event} {p : Plan} {k : StubKind}

/-- **The call passes every check but that for the stub.** -/
structure AsksFor (i : Inliner) (b : Builder) (call : Call NodeId) (callee : Callee)
    (k : StubKind) : Prop where
  dispatches : ∃ native q, i.Dispatches b call callee native q ∧
    native.stub? call.resultEscapes = some k
  suits : b.SuitsRegExps call k

namespace Resolved

/-- What is asked of the call is asked of its operands as they were looked up. -/
lemma suits_iff (h : Resolved b call r) :
    RegExps.Suits k (i.site r) ↔ b.SuitsRegExps call k := by
  have hreceiver := h.facts?_receiver
  constructor
  · rintro ⟨hadmits, hregExp, hresult⟩
    obtain ⟨hcalled, hobject, x, hx, hmight⟩ := RegExps.admits_iff.1 hadmits
    have hmem : x ∈ (i.site r).args := hx ▸ List.mem_singleton_self x
    exact ⟨h.constructing_eq.symm.trans hcalled, ⟨_, hreceiver, hobject⟩,
      (Builder.classIs_iff_of_facts? hreceiver).2 hregExp,
      ⟨_, _, h.args_eq_singleton hx 0 ⟨0⟩, h.facts?_arg 0 ⟨0⟩ hmem, hmight⟩,
      h.resultEscapes_eq ▸ h.returnType_eq ▸ hresult⟩
  · rintro ⟨hcalled, ⟨y, hy, hobject⟩, hregExp, ⟨id, z, hargs, hz, hmight⟩, hresult⟩
    obtain rfl := Option.some.inj (hy.symm.trans hreceiver)
    have hlooked := h.forall₂_args
    rw [hargs] at hlooked
    obtain ⟨x, rest, hx, hrest, hr⟩ := List.forall₂_cons_left_iff.1 hlooked
    obtain rfl := List.forall₂_nil_left_iff.1 hrest
    obtain ⟨z', hz', rfl⟩ := Option.map_eq_some_iff.1 hx
    obtain rfl := Option.some.inj (hz.symm.trans hz')
    refine ⟨RegExps.admits_iff.2 ⟨h.constructing_eq.trans hcalled, hobject, _, hr, hmight⟩,
      (Builder.classIs_iff_of_facts? hreceiver).1 hregExp, ?_⟩
    exact fun hk hescapes =>
      h.returnType_eq.trans (hresult hk (h.resultEscapes_eq.symm.trans hescapes))

/-- The specializer of a native for calls of the kind is found for the call as it was looked up. -/
lemma find?_eq (h : Resolved b call r) (native : Native) :
    Registry.find? r.kind native = Registry.find? call.kind native := by
  rw [h.kind_eq]

end Resolved

/-- A call of which a plan was made has passed the guards. -/
lemma guards_of_decide (h : i.decide r callee = (log, .ok p)) :
    i.config.inlineNatives = true ∧ r.argc ≤ i.config.maxCallArgs.toNat := by
  rw [Inliner.decide.eq_def] at h
  dsimp only at h
  split_ifs at h with hoff hmany
  · cases h
  · cases h
  · exact ⟨by simpa using hoff, Nat.not_lt.1 hmany⟩

/-- The operands of a call that the registry is asked about are looked up. -/
lemma Dispatches.exists_resolved (h : i.Dispatches b call callee native q) :
    ∃ r, resolveOperands b call = .ok r := by
  cases hr : resolveOperands b call with
  | ok r => exact ⟨r, rfl⟩
  | error id =>
    obtain ⟨id, hmem, hnone⟩ := exists_resolveOperands_eq_error.1 ⟨id, hr⟩
    exact absurd hnone (h.known id hmem)

/-- The decision about a call that the registry is asked about is that of the specializer. -/
lemma Dispatches.exists_decide_eq (h : i.Dispatches b call callee native q)
    (hr : Resolved b call r) : ∃ f, callee = .function f ∧
      i.decide r callee = ([.dispatch native q.label], q.decide f (i.site r)) := by
  cases callee with
  | descriptor d => cases h.identity
  | function f =>
    refine ⟨f, rfl, ?_⟩
    have hfound : Registry.find? (i.site r).call.kind native = some q :=
      (hr.find?_eq native).trans h.found
    rw [(decide_of_argc_le h.enabled (hr.argc_eq.trans_le h.argc_le)).1, decideFunction,
      show f.native? = some native from h.identity]
    dsimp only
    rw [hfound]

/-- **A call that asks for a stub** has a plan that needs it. -/
theorem AsksFor.exists_plan (h : i.AsksFor b call callee k) :
    b.isDead call.site = false ∧ ∃ r log p, resolveOperands b call = .ok r ∧
      i.decide r callee = (log, .ok p) ∧ RegExps.Needs k (i.site r) p := by
  obtain ⟨⟨native, q, hdispatches, hk⟩, hsuits⟩ := h
  obtain ⟨r, hr⟩ := hdispatches.exists_resolved
  have hresolved := resolved_of_eq_ok hr
  obtain ⟨f, -, hdecide⟩ := hdispatches.exists_decide_eq hresolved
  have hfind : Registry.find? (i.site r).call.kind native = some q :=
    (hresolved.find?_eq native).trans hdispatches.found
  have hstub : native.stub? (i.site r).call.resultEscapes = some k :=
    (congrArg native.stub? hresolved.resultEscapes_eq).trans hk
  obtain ⟨p, hp⟩ := Registry.exists_of_suits (f := f) hstub hfind (hresolved.suits_iff.2 hsuits)
  rw [hp] at hdecide
  exact ⟨hdispatches.live, r, _, p, hr, hdecide, Registry.needs_of_decide hstub hfind hp⟩

/-- **No other plan asks for one.** -/
theorem asksFor_of_decide (hlive : b.isDead call.site = false) (hr : Resolved b call r)
    (hdecide : i.decide r callee = (log, .ok p)) (hstub : p.stub = some k) :
    i.AsksFor b call callee k := by
  obtain ⟨henabled, hargc⟩ := guards_of_decide hdecide
  cases origin_of_decide hdecide with
  | descriptor hconstruct =>
    rw [show p.stub = none from TypedMemory.construct_stubless _ _ p hconstruct] at hstub
    cases hstub
  | @native f native q hnative hfind hp =>
    rw [Registry.stub_of_decide hfind hp] at hstub
    have hneeds := Registry.needs_of_decide hstub hfind hp
    have hknown : ∀ id ∈ call.operands, b.graph.node? id ≠ none := fun id hid hnone =>
      hr.not_missesOperand ⟨hlive, id, hid, hnone⟩
    have hdispatches : i.Dispatches b call (.function f) native q :=
      ⟨hlive, hknown, henabled, hr.argc_eq ▸ hargc, hnative,
        (hr.find?_eq native).symm.trans hfind⟩
    exact ⟨⟨native, q, hdispatches, hr.resultEscapes_eq ▸ hstub⟩, hr.suits_iff.1 hneeds.suits⟩

end Inliner

end CallSite
