import CallSite.Proofs.Computation.Extremes
import CallSite.Proofs.Known

/-!
# Identity nodes

A number that needs no rounding, or that is the least of one, is kept by a node of its own, so that
what is known of its range survives.  Such a node converts nothing.  Still its type is the one in
which the result was to be computed, and where the observed result is a double, or the operand a
float32, the representation of a number changes that was only to be kept.

* `Site.Retags`, `Builder.Retags` — a single number that is not of the type of the result.
* `Sketch.Keeps` — **the law**: an identity keeps an argument.
* `Inliner.Origin.keeps` — every plan keeps to it.
* `Inliner.attempt_identity_iff` — **when an identity keeps the representation**.
* `not_forall_identity` — not always.
-/

namespace CallSite

/-! ## Plans -/

/-- No observed result is a float32. -/
lemma TypeSet.knownType_ne_float32 (s : TypeSet) : s.knownType ≠ .float32 := by
  rw [knownType]
  dsimp only
  split_ifs <;> decide

/-- A number that was observed is an int32 or a double. -/
lemma Site.Admits.returnType_of_number {s : Site} {sig : Signature} (h : s.Admits sig)
    (hsig : sig.result = .number) : s.returnType = .int32 ∨ s.returnType = .double := by
  have haccepts := ((s.admits_iff sig).1 h).2.2.1
  have hne : s.returnType ≠ .float32 := s.call.resultTypes.knownType_ne_float32
  rw [hsig] at haccepts
  cases hty : s.returnType with
  | int32 => exact .inl rfl
  | double => exact .inr rfl
  | float32 => exact absurd hty hne
  | _ => rw [hty] at haccepts; cases haccepts

/-- **The call has a single argument, and this is no number of the type of the result**: it is a
float32, which no result is, or an int32 where other results were observed. -/
def Site.Retags (s : Site) : Prop :=
  ∃ v, s.args = [v] ∧ (v.ty = .float32 ∨ v.ty = .int32 ∧ s.returnType ≠ .int32)

/-- An int32 is not retagged where the result is one. -/
lemma Site.not_retags {s : Site} {x : Operand} (hx : x ∈ s.args) (hint : x.ty = .int32)
    (hresult : s.returnType = .int32) : ¬s.Retags := by
  rintro ⟨v, hargs, hv⟩
  obtain rfl : x = v := List.mem_singleton.1 (hargs ▸ hx)
  rcases hv with hfloat | ⟨-, hne⟩
  · exact absurd (hint.symm.trans hfloat) (by decide)
  · exact hne hresult

/-- **An identity keeps an argument**, and its representation unless the call retags it; what is
retagged is taken for a double.  That never happens to what was to be rounded. -/
def Sketch.Keeps (s : Site) (x : Sketch) : Prop :=
  ∀ kind, x.op = .limitedTruncate kind → ∃ v ∈ s.args, x.inputs = [v.ref] ∧
    (x.ty = v.ty ↔ ¬s.Retags) ∧ (x.ty ≠ v.ty → x.ty = .double) ∧
    (kind = .indirectTruncate → x.ty = v.ty)

namespace Arithmetic

variable {s : Site} {isMax : Bool}

/-- An int32 that stays one is not retagged. -/
lemma rounding_keeps (r : Rounding) (s : Site) :
    (rounding r s).Yields (Plan.Lawful fun _ => Sketch.Keeps s) := by
  have hrounds : ∀ op : Op, (∀ kind, op ≠ .limitedTruncate kind) → ∀ x ty,
      (Plan.of (.result op [x] ty)).Lawful fun _ => Sketch.Keeps s := by
    intro op hop x ty
    refine Plan.lawful_of_writes rfl (Draft.writes_result (fun kind hkind => ?_) trivial)
    exact absurd hkind (hop kind)
  simp only [rounding, Decide.yields_bind, Decide.yields_ite, Decide.yields_decline,
    Decide.yields_pure]
  intro _ hclassify x hx
  refine ⟨fun hint => ?_, fun _ => ⟨fun _ => ?_, fun _ => ⟨fun _ => ?_, fun _ => trivial⟩⟩⟩
  · refine Plan.lawful_of_writes rfl (Draft.writes_result (fun _ _ => ?_) trivial)
    have hkept := hint.1.symm
    have hmem := Site.mem_args_of_arg hx
    have hnot : ¬s.Retags := Site.not_retags hmem hint.1 hint.2
    exact ⟨x, hmem, rfl, iff_of_true hkept hnot, absurd hkept, fun _ => hkept⟩
  · exact hrounds r.toInt32Op (fun _ h => by cases r <;> cases h) x _
  · exact hrounds (.mathFunction r.routine) (fun _ h => by cases h) x _

/-- The result is an int32 only where that was observed. -/
lemma returnType_of_minMaxType (h : minMaxType isMax s.returnType s.args = .int32) :
    s.returnType = .int32 := by
  rw [minMaxType] at h
  split at h
  · exact h
  · cases h

/-- **A single number that decides the result** is of its type unless it is retagged. -/
theorem keeps_of_deciding {x : Operand} (hx : x.ty.isNumber = true)
    (hresult : s.returnType = .int32 ∨ s.returnType = .double)
    (hdeciding : deciding (minMaxType isMax s.returnType s.args) s.args = [x]) :
    (minMaxType isMax s.returnType s.args = x.ty ↔ ¬s.Retags) ∧
      (minMaxType isMax s.returnType s.args ≠ x.ty →
        minMaxType isMax s.returnType s.args = .double) := by
  have hmem : x ∈ s.args := mem_of_mem_deciding (hdeciding ▸ List.mem_cons_self ..)
  by_cases hty : minMaxType isMax s.returnType s.args = .int32
  · have hint : x.ty = .int32 := by
      rw [deciding, if_pos hty] at hdeciding
      have hfilter : x ∈ s.args.filter (·.ty = .int32) := hdeciding ▸ List.mem_cons_self ..
      exact of_decide_eq_true (List.mem_filter.1 hfilter).2
    have hnot : ¬s.Retags := Site.not_retags hmem hint (returnType_of_minMaxType hty)
    exact ⟨iff_of_true (hty.trans hint.symm) hnot, absurd (hty.trans hint.symm)⟩
  · rw [deciding, if_neg hty] at hdeciding
    have hobserved : x.ty = .int32 → minMaxType isMax s.returnType s.args = s.returnType := by
      intro hint
      simp [minMaxType, hdeciding, hint]
    have hdouble : minMaxType isMax s.returnType s.args = .double := by
      by_cases hint : x.ty = .int32
      · rw [hobserved hint] at hty ⊢
        exact hresult.resolve_left hty
      · simp [minMaxType, hdeciding, hint]
    refine ⟨?_, fun _ => hdouble⟩
    have hretags : s.Retags ↔ x.ty = .float32 ∨ x.ty = .int32 := by
      have hother : x.ty = .int32 → s.returnType ≠ .int32 := fun hint => hobserved hint ▸ hty
      simp only [Site.Retags, hdeciding, List.cons.injEq, and_true, exists_eq_left']
      exact or_congr_right (and_iff_left_of_imp hother)
    rw [hretags, hdouble]
    cases hcase : x.ty with
    | int32 => exact iff_of_false (by decide) fun h => h (.inr rfl)
    | float32 => exact iff_of_false (by decide) fun h => h (.inl rfl)
    | double => exact iff_of_true rfl (by rintro (h | h) <;> cases h)
    | _ => rw [hcase] at hx; cases hx

lemma minMax_keeps (isMax : Bool) (s : Site) :
    (minMax isMax s).Yields (Plan.Lawful fun _ => Sketch.Keeps s) := by
  simp only [minMax, Decide.yields_bind]
  intro _ hclassify u hcheck
  have hresult := (Site.admits_of_classify hclassify).returnType_of_number rfl
  have hall : ∀ x ∈ s.args, x.ty.isNumber = true := (checkNumbers_ensures _ _).of_eq_ok hcheck
  generalize hdeciding : (if minMaxType isMax s.returnType s.args = .int32
    then s.args.filter (·.ty = .int32) else s.args) = operands
  rcases operands with _ | ⟨x, _ | ⟨y, ys⟩⟩
  · exact Decide.yields_error _
  · have hmem : x ∈ s.args := mem_of_mem_deciding (hdeciding ▸ List.mem_cons_self ..)
    refine Decide.yields_pure.2 (Plan.lawful_of_writes rfl (Draft.writes_result ?_ trivial))
    rintro kind hkind
    obtain rfl := Op.limitedTruncate.inj hkind
    obtain ⟨hkeeps, hdouble⟩ := keeps_of_deciding (hall x hmem) hresult hdeciding
    exact ⟨x, hmem, rfl, hkeeps, hdouble, nofun⟩
  · have hchain : (chain (.minMax isMax) (minMaxType isMax s.returnType s.args) x (y :: ys)).Emits
        (∀ kind, · ≠ .limitedTruncate kind) := chain_emits nofun _ x (y :: ys)
    have hemits := Draft.emits_bind hchain Draft.emits_push
    refine Decide.yields_pure.2 (Plan.lawful_of_emits (Plan.emits_relyingOn hemits) ?_ ?_)
    · exact fun _ x hne kind hkind => absurd hkind (hne kind)
    · exact fun _ x hguard kind hkind => absurd (hguard.symm.trans hkind) nofun

end Arithmetic

/-! ## All plans -/

/-- Calls of the native are specialized to identities. -/
def Native.keepsNumbers (n : Native) : Bool :=
  n matches mathFloor | mathCeil | mathRound | mathMax | mathMin

lemma Native.keepsNumbers_of_mayEmit {n : Native} {kind : TruncateKind}
    (h : n.mayEmit (.limitedTruncate kind) = true) : n.keepsNumbers = true := by
  cases n <;> first | rfl | cases h

lemma Registry.find?_keeps {kind : CallKind} {native : Native} {p : Specializer}
    (h : find? kind native = some p) (hkeeps : native.keepsNumbers = true) (f : FunctionObject)
    (s : Site) : (p.decide f s).Yields (Plan.Lawful fun _ => Sketch.Keeps s) := by
  cases kind with
  | getter =>
    cases native <;> first
      | (cases hkeeps; done)
      | cases h
  | call =>
    cases native
    case mathFloor | mathCeil | mathRound =>
      cases h
      exact Arithmetic.rounding_keeps _ s
    case mathMax | mathMin =>
      cases h
      exact Arithmetic.minMax_keeps _ s
    all_goals cases hkeeps

/-- **In every plan identities keep arguments.** -/
theorem Inliner.Origin.keeps {s : Site} {p : Plan} {callee : Callee} (h : Origin s p callee) :
    p.Lawful fun _ => Sketch.Keeps s := by
  rcases h.emits_or_exists_native (∀ kind, · ≠ .limitedTruncate kind) nofun nofun with
    hquiet | ⟨f, native, specializer, op, hfind, hdecide, hemits, hidentity⟩
  · refine Plan.lawful_of_emits hquiet ?_ ?_
    · exact fun _ x hne kind hkind => absurd hkind (hne kind)
    · exact fun _ x hguard kind hkind => absurd (hguard.symm.trans hkind) nofun
  · obtain ⟨kind, hop⟩ := not_forall.1 hidentity
    obtain rfl := not_not.1 hop
    exact Registry.find?_keeps hfind (Native.keepsNumbers_of_mayEmit hemits) f s p hdecide

/-! ## Attempts -/

/-- **The call takes a single argument, and this is no number of the type of the result**: it is a
float32, or an int32 where other results were observed. -/
def Builder.Retags (b : Builder) (call : Call NodeId) : Prop :=
  ∃ id m, call.args = [id] ∧ b.graph.node? id = some m ∧
    (m.ty = .float32 ∨ m.ty = .int32 ∧ call.returnType ≠ .int32)

namespace Inliner

variable {i : Inliner} {stubs : StubStore} {b b' : Builder} {call : Call NodeId} {callee : Callee}
  {r : Call Operand} {p : Plan}

/-- A call retags its argument iff it does so once its operands are looked up. -/
lemma Resolved.retags_iff (h : Resolved b call r) : (i.site r).Retags ↔ b.Retags call := by
  have hreturn : (i.site r).returnType = call.returnType :=
    congrArg (·.resultTypes.knownType) h.same
  have hargs : List.Forall₂ (fun id x => b.operand? id = some x) call.args (i.site r).args :=
    h.forall₂_args
  rw [Site.Retags, hreturn]
  constructor
  · rintro ⟨v, hv, htype⟩
    rw [hv] at hargs
    obtain ⟨id, _, hid, hnil, hargs'⟩ := List.forall₂_cons_right_iff.1 hargs
    obtain rfl := List.forall₂_nil_right_iff.1 hnil
    obtain ⟨m, hm, hfacts, -⟩ := Builder.exists_node_of_operand? hid
    have hty : v.ty = m.ty := congrArg Facts.ty hfacts
    exact ⟨id, m, hargs', hm, hty ▸ htype⟩
  · rintro ⟨id, m, hid, hm, htype⟩
    rw [hid] at hargs
    obtain ⟨v, _, hv, hnil, hargs'⟩ := List.forall₂_cons_left_iff.1 hargs
    obtain rfl := List.forall₂_nil_left_iff.1 hnil
    obtain ⟨m', hm', hfacts, -⟩ := Builder.exists_node_of_operand? hv
    obtain rfl := Option.some.inj (hm.symm.trans hm')
    have hty : v.ty = m.ty := congrArg Facts.ty hfacts
    exact ⟨v, hargs', hty.symm ▸ htype⟩

/-- **When an identity keeps the representation.**  It has an argument of the call as its only input
and is of the type of that argument, unless the call takes nothing else and that is a float32, or an
int32 where other results were observed.  What is no double is then taken for one; this never
happens where an int32 was to be rounded. -/
theorem attempt_identity_iff (h : (i.attempt stubs b call callee).result = .ok .inlined)
    {id : NodeId} {n : Node} (hid : b.graph.size ≤ id.index)
    (hn : (i.attempt stubs b call callee).builder.graph.node? id = some n) {kind : TruncateKind}
    (hop : n.op = .limitedTruncate kind) :
    ∃ x ∈ call.args, ∃ m, n.inputs = [x] ∧ b.graph.node? x = some m ∧
      (n.ty = m.ty ↔ ¬b.Retags call) ∧ (n.ty ≠ m.ty → n.ty = .double) ∧
      (kind = .indirectTruncate → n.ty = m.ty) := by
  obtain ⟨r, p, hemits⟩ := exists_emits h
  rcases hemits.exists_places hid hn with hcontext | ⟨k, x, -, hx, hplaces⟩
  · exact absurd (hcontext.symm.trans hop) nofun
  obtain ⟨v, hv, hinputs, hkeeps, hdouble, hround⟩ :=
    hemits.origin.keeps.getElem? hx kind (hplaces.op.symm.trans hop)
  obtain ⟨id', hid', hoperand⟩ := exists_mem_of_forall₂ hemits.resolved.forall₂_args.flip hv
  obtain ⟨m, hm, hfacts, href⟩ := Builder.exists_node_of_operand? hoperand
  have hty : v.ty = m.ty := congrArg Facts.ty hfacts
  rw [hemits.resolved.retags_iff, hty, ← hplaces.ty] at hkeeps
  rw [hty, ← hplaces.ty] at hdouble hround
  refine ⟨id', hid', m, ?_, hm, hkeeps, hdouble, hround⟩
  rw [hplaces.inputs, hinputs, List.map_singleton, href]
  rfl

end Inliner

/-- The greatest of a single int32, where doubles were observed. -/
def Scenario.maxOne : Scenario where
  callee := .function (.ofNative ⟨1⟩ .mathMax)
  args := [.typed .int32 none]
  resultTypes := some (.ofType .double)

/-- The int32 is taken for a double. -/
theorem attempt_identity_iff_maxOne :
    (Scenario.maxOne.attempt {} Scenario.maxOne.builder).result = .ok .inlined ∧
    ∃ n, (Scenario.maxOne.attempt {} Scenario.maxOne.builder).builder.graph.node? ⟨3⟩ = some n ∧
      n.op = .limitedTruncate .noTruncate ∧ Scenario.maxOne.builder.Retags Scenario.maxOne.call ∧
      n.inputs = [⟨2⟩] ∧ n.ty = .double := by
  have hinlined : (Scenario.maxOne.attempt {} Scenario.maxOne.builder).result = .ok .inlined := by
    decide
  have hretags : Scenario.maxOne.builder.Retags Scenario.maxOne.call :=
    ⟨⟨2⟩, _, rfl, rfl, .inr ⟨rfl, by decide⟩⟩
  obtain ⟨x, hx, m, hinputs, hm, hkeeps, hdouble, -⟩ :=
    @Inliner.attempt_identity_iff _ _ _ _ _ hinlined ⟨3⟩ _ (by decide) rfl .noTruncate rfl
  refine ⟨hinlined, _, rfl, rfl, hretags, rfl, hdouble fun hty => hkeeps.1 hty hretags⟩

/-- **Not every identity keeps the representation** of what it keeps. -/
theorem not_forall_identity : ¬∀ s : Scenario, (s.attempt {} s.builder).result = .ok .inlined →
    ∀ id n kind, s.builder.graph.size ≤ id.index →
      (s.attempt {} s.builder).builder.graph.node? id = some n → n.op = .limitedTruncate kind →
      ∃ x m, n.inputs = [x] ∧ (s.attempt {} s.builder).builder.graph.node? x = some m ∧
        n.ty = m.ty := by
  intro hall
  obtain ⟨x, m, hinputs, hm, hty⟩ :=
    hall Scenario.maxOne (by decide) ⟨3⟩ _ .noTruncate (by decide) rfl rfl
  obtain rfl : (⟨2⟩ : NodeId) = x := (List.cons.inj hinputs).1
  obtain rfl := Option.some.inj hm
  cases hty

end CallSite
