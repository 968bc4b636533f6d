import CallSite.Proofs.Outcome
import CallSite.Proofs.Strings.Utf16

/-!
# Characters of constant strings

A call for the unit or the character at an index is folded where string and index are constants, the
index lies inside the string, and the result can be written down: a surrogate is a number but no
string.  Otherwise the unit is loaded behind a check of the index, and no constant is added.

* `Builder.Indexes` — string and index are constants.
* `Constant.Shows` — a constant is a code unit, as a number or as a string.
* `Builder.LoadsUnit` — the call loads the unit, where it does not become a constant.
* `Inliner.attempt_foldsUnit` — **when the call is folded, and to what**.
-/

namespace CallSite

open Draft (pushConstant)

/-- The native that gives what is at an index of a string: the code unit, or the character. -/
def Native.unitAccess (asString : Bool) : Native :=
  if asString then .stringCharAt else .stringCharCodeAt

/-! ## Constants -/

/-- **The constant is a code unit**, as a number or as the string that this unit encodes. -/
inductive Constant.Shows (u : UInt16) : Bool → Constant → Prop where
  | number {n : Int32} (h : n.toInt = u.toNat) : Shows u false (.int32 n)
  | string {t : String} (h : Text.Utf16 t.toList [u]) : Shows u true (.string t)

namespace Strings

/-- The constant that a unit is folded to. -/
def foldedUnit? (asString : Bool) (u : UInt16) : Option Constant :=
  if asString then (unitChar? u).map fun c => .string (String.singleton c)
  else some (.int32 (Int32.ofNat u.toNat))

lemma toInt_ofNat_unit (u : UInt16) : (Int32.ofNat u.toNat).toInt = u.toNat := by
  have hu := u.toNat_lt
  exact Int32.toInt_ofNat_of_lt (by omega)

lemma unitChar?_eq_some_iff {u : UInt16} {c : Char} :
    unitChar? u = some c ↔ u.toNat = c.toNat := by
  rw [unitChar?]
  cases hu : Text.isSurrogate u with
  | true =>
    have hvalid := Text.toNat_of_char c
    rw [Text.isSurrogate_iff] at hu
    simp
    omega
  | false =>
    rw [if_neg Bool.false_ne_true, Option.some.injEq, ← Char.toNat_inj,
      Text.toNat_ofNat_of_not_isSurrogate hu]

/-- **A unit is folded to the constant that shows it**, if there is one. -/
theorem foldedUnit?_eq_some_iff {asString : Bool} {u : UInt16} {c : Constant} :
    foldedUnit? asString u = some c ↔ c.Shows u asString := by
  constructor
  · intro h
    cases asString with
    | false =>
      obtain rfl := Option.some.inj h
      exact .number (toInt_ofNat_unit u)
    | true =>
      obtain ⟨d, hd, rfl⟩ := Option.map_eq_some_iff.1 h
      exact .string (Text.utf16_singleton_iff.2 ⟨d, by simp, unitChar?_eq_some_iff.1 hd⟩)
  · intro h
    cases h with
    | @number n h =>
      have hn : Int32.ofNat u.toNat = n := Int32.toInt_inj.1 ((toInt_ofNat_unit u).trans h.symm)
      simp [foldedUnit?, hn]
    | @string t h =>
      obtain ⟨d, hd, hu⟩ := Text.utf16_singleton_iff.1 h
      have ht : String.singleton d = t := String.toList_inj.1 (by simp [hd])
      simp [foldedUnit?, unitChar?_eq_some_iff.2 hu, ht]

/-- Only a surrogate cannot be shown, and only as a string. -/
lemma exists_shows_iff {asString : Bool} {u : UInt16} :
    (∃ c : Constant, c.Shows u asString) ↔ (asString = true → Text.isSurrogate u = false) := by
  cases asString with
  | false => exact iff_of_true ⟨_, .number (toInt_ofNat_unit u)⟩ (by simp)
  | true =>
    rw [← Text.exists_utf16_singleton]
    constructor
    · rintro ⟨c, hshows⟩ -
      cases hshows with
      | string h => exact ⟨_, h⟩
    · intro h
      obtain ⟨cs, hcs⟩ := h rfl
      exact ⟨.string (String.ofList cs), .string (by rwa [String.toList_ofList])⟩

/-- **The unit that is found** is the one at the index, counted from the start of the string. -/
theorem constantUnit?_eq_some_iff {string index : Operand} {u : UInt16} :
    constantUnit? string index = some u ↔ ∃ s i, string.constant = some (.string s) ∧
      index.constant = some (.int32 i) ∧ 0 ≤ i.toInt ∧
      (Text.codeUnits s.toList)[i.toInt.toNat]? = some u := by
  have hstring (c : Constant) (s : String) : c.string? = some s ↔ c = .string s := by
    cases c <;> simp [Constant.string?]
  have hint (c : Constant) (i : Int32) : c.int32? = some i ↔ c = .int32 i := by
    cases c <;> simp [Constant.int32?]
  simp only [constantUnit?, Facts.int32?, Option.bind_eq_bind, Option.bind_eq_some_iff, hstring,
    hint, Option.ite_none_right_eq_some, Text.codeUnit?_eq_getElem?, Int32.le_iff_toInt_le]
  constructor
  · rintro ⟨s, ⟨c, hs, rfl⟩, i, ⟨d, hi, rfl⟩, hle, hu⟩
    exact ⟨s, i, hs, hi, hle, hu⟩
  · rintro ⟨s, i, hs, hi, hle, hu⟩
    exact ⟨s, ⟨_, hs, rfl⟩, i, ⟨_, hi, rfl⟩, hle, hu⟩

/-! ## Plans -/

/-- The unit that is loaded, made a string where one is asked for. -/
def accessUnit (asString : Bool) (string index : Operand) : Draft Unit := do
  let unit ← loadUnit string index
  if asString then Draft.result .fromCharCode [unit] .string else Draft.push unit

/-- The decision about an access. -/
def unitAt (asString : Bool) (s : Site) : Decide Plan :=
  if asString then charAt s else charCodeAt s

/-- **What is decided about an access**: it is folded to the constant that shows the unit at the
index, or else the unit is loaded. -/
theorem unitAt_ensures (asString : Bool) (s : Site) : (unitAt asString s).Ensures fun p =>
    ∃ index, s.args = [index] ∧
      p = .of (match (constantUnit? s.receiver index).bind (foldedUnit? asString) with
        | some c => pushConstant c
        | none => accessUnit asString s.receiver index) := by
  cases asString with
  | false =>
    refine Site.ensures_one rfl fun index hindex _ => ?_
    cases hunit : constantUnit? s.receiver index <;> exact ⟨index, hindex, by rw [hunit]; rfl⟩
  | true =>
    refine Site.ensures_one rfl fun index hindex _ => ?_
    cases hunit : constantUnit? s.receiver index with
    | none => exact ⟨index, hindex, by rw [hunit]; rfl⟩
    | some u =>
      rw [Option.bind_some]
      cases hchar : unitChar? u with
      | none => exact ⟨index, hindex, by simp [hunit, hchar, foldedUnit?, accessUnit]⟩
      | some c => exact ⟨index, hindex, by simp [hunit, hchar, foldedUnit?]⟩

end Strings

/-! ## What becomes of the call -/

/-- **String and index are constants.** -/
structure Builder.Indexes (b : Builder) (call : Call NodeId) (s : String) (index : Int32) :
    Prop where
  string : (b.facts? call.receiver).bind Facts.constant = some (.string s)
  index : ∃ id, call.args = [id] ∧ (b.facts? id).bind Facts.constant = some (.int32 index)

/-- The nodes that load the unit at an index and, where a string is asked for, make it one; they are
numbered from `first` on. -/
def unitLoad (asString : Bool) (first : Nat) (string index : NodeId) : List Blueprint :=
  [⟨.toInt32, [index], .int32, none⟩, ⟨.stringLength, [string], .int32, none⟩,
    ⟨.boundsCheck, [⟨first⟩, ⟨first + 1⟩], .int32, none⟩,
    ⟨.charCodeAt, [string, ⟨first + 2⟩], .int32, none⟩] ++
  if asString then [⟨.fromCharCode, [⟨first + 3⟩], .string, none⟩] else []

/-- **The unit is loaded** behind a check of the index. -/
structure Builder.LoadsUnit (b b' : Builder) (call : Call NodeId) (asString : Bool) : Prop where
  becomes : ∃ index, call.args = [index] ∧
    b.Becomes b' (unitLoad asString b.graph.size call.receiver index)
      ⟨b.graph.size + if asString then 4 else 3⟩
  /-- The index is checked once. -/
  checked : (b'.graph.since b.graph.size).countP (·.op = .boundsCheck) = 1
  /-- No constant is added. -/
  computed : ∀ n ∈ b'.graph.since b.graph.size, n.op.constant? = none

namespace Builder

variable {b b' : Builder} {call : Call NodeId} {asString : Bool}

lemma loadsUnit_of_becomes {index : NodeId} (hargs : call.args = [index])
    (h : b.Becomes b' (unitLoad asString b.graph.size call.receiver index)
      ⟨b.graph.size + if asString then 4 else 3⟩) : b.LoadsUnit b' call asString := by
  refine ⟨⟨index, hargs, h⟩, ?_, fun n hn => ?_⟩
  · have hcount := congrArg (List.countP (·.op = .boundsCheck)) h.added
    rw [List.countP_map] at hcount
    refine hcount.trans ?_
    cases asString <;> simp [unitLoad]
  · have hall : ∀ x ∈ unitLoad asString b.graph.size call.receiver index,
        x.op.constant? = none := by
      cases asString <;> simp [unitLoad, Op.constant?]
    exact hall _ (h.mem hn)

/-- What is loaded is not folded. -/
lemma LoadsUnit.not_folds (h : b.LoadsUnit b' call asString) (c : Constant) :
    ¬b.Folds b' c := by
  intro hfolds
  obtain ⟨index, -, hbecomes⟩ := h.becomes
  have hlength := congrArg List.length (hbecomes.added.symm.trans hfolds.added)
  simp [unitLoad] at hlength

/-- What is known to be constant is known for certain. -/
lemma Indexes.unique {s t : String} {i j : Int32} (h : b.Indexes call s i)
    (h' : b.Indexes call t j) : s = t ∧ i = j := by
  obtain ⟨hs, id, hid, hi⟩ := h
  obtain ⟨ht, id', hid', hj⟩ := h'
  rw [hid, List.cons.injEq] at hid'
  rw [← hid'.1, hi] at hj
  rw [hs] at ht
  simp only [Option.some.injEq, Constant.string.injEq, Constant.int32.injEq] at ht hj
  exact ⟨ht, hj⟩

end Builder

namespace Inliner

variable {i : Inliner} {stubs : StubStore} {b b' : Builder} {call : Call NodeId}
  {f : FunctionObject} {r : Call Operand} {p : Plan} {asString : Bool}

/-- What the graph knows of string and index is what is decided on. -/
lemma Resolved.indexes_iff (h : Resolved b call r) {x : Operand} (hx : r.args = [x]) {s : String}
    {index : Int32} : b.Indexes call s index ↔
      r.receiver.constant = some (.string s) ∧ x.constant = some (.int32 index) := by
  have hargs := h.args_eq_singleton hx 0 ⟨0⟩
  have hfacts := h.facts?_arg 0 ⟨0⟩ (x := x) (by simp [hx])
  constructor
  · rintro ⟨hstring, id, hid, hindex⟩
    obtain rfl : _ = id := List.singleton_inj.1 (hargs.symm.trans hid)
    rw [h.facts?_receiver] at hstring
    rw [hfacts] at hindex
    exact ⟨hstring, hindex⟩
  · rintro ⟨hstring, hindex⟩
    refine ⟨?_, _, hargs, ?_⟩
    · rw [h.facts?_receiver]
      exact hstring
    · rw [hfacts]
      exact hindex

/-- **An access that is not folded** loads the unit. -/
theorem Emits.loadsUnit {x : Operand} (hx : r.args = [x])
    (h : i.Emits b call (.function f) r (.of (Strings.accessUnit asString r.receiver x)) b') :
    b.LoadsUnit b' call asString := by
  -- the steps of either access are known, whichever it is
  cases asString
  all_goals
    obtain ⟨context, hbecomes⟩ := h.becomes_of_push rfl (List.mem_of_getLast? rfl) rfl
    refine Builder.loadsUnit_of_becomes (h.resolved.args_eq_singleton hx b.graph.size context) ?_
    rw [← h.resolved.receiver_eq b.graph.size context]
    exact hbecomes

/-- **An access becomes a constant** that shows the unit at the index, **or loads the unit**. -/
theorem Emits.folds_or_loadsUnit (h : i.Emits b call (.function f) r p b')
    (hf : f.native? = some (.unitAccess asString)) :
    (∃ s index u c, b.Indexes call s index ∧ 0 ≤ index.toInt ∧
      (Text.codeUnits s.toList)[index.toInt.toNat]? = some u ∧ c.Shows u asString ∧
      b.Folds b' c) ∨
    b.LoadsUnit b' call asString ∧ ∀ s index u c, b.Indexes call s index → 0 ≤ index.toInt →
      (Text.codeUnits s.toList)[index.toInt.toNat]? = some u → ¬Constant.Shows u asString c := by
  have hdecide : Strings.unitAt asString (i.site r) = .ok p :=
    h.decide_eq_ok (q := .plain (Strings.unitAt asString)
      (bif asString then Routine.inlineStrCharAt else Routine.inlineStrCharCodeAt)) hf
      (by cases asString <;> rfl)
  obtain ⟨x, hx, rfl⟩ := (Strings.unitAt_ensures asString (i.site r)).of_eq_ok hdecide
  have hindexes : ∀ {s : String} {index : Int32}, b.Indexes call s index ↔
      r.receiver.constant = some (.string s) ∧ x.constant = some (.int32 index) :=
    h.resolved.indexes_iff hx
  cases hfold : (Strings.constantUnit? (i.site r).receiver x).bind
      (Strings.foldedUnit? asString) with
  | none =>
    rw [hfold] at h
    refine .inr ⟨h.loadsUnit hx, fun s index u c hcall hnonneg hu hshows => ?_⟩
    obtain ⟨hstring, hint⟩ := hindexes.1 hcall
    have hunit : Strings.constantUnit? (i.site r).receiver x = some u :=
      Strings.constantUnit?_eq_some_iff.2 ⟨s, index, hstring, hint, hnonneg, hu⟩
    rw [hunit, Option.bind_some, Strings.foldedUnit?_eq_some_iff.2 hshows] at hfold
    cases hfold
  | some c =>
    rw [hfold] at h
    obtain ⟨u, hunit, hshows⟩ := Option.bind_eq_some_iff.1 hfold
    obtain ⟨s, index, hstring, hint, hnonneg, hu⟩ := Strings.constantUnit?_eq_some_iff.1 hunit
    exact .inl ⟨s, index, u, c, hindexes.2 ⟨hstring, hint⟩, hnonneg, hu,
      Strings.foldedUnit?_eq_some_iff.1 hshows, h.folds⟩

/-- **An access to a string is folded** iff string and index are constants, the index lies inside
the string and the unit there can be shown; then it becomes this unit.  Otherwise the unit is
loaded. -/
theorem attempt_foldsUnit (h : (i.attempt stubs b call (.function f)).result = .ok .inlined)
    (hf : f.native? = some (.unitAccess asString)) :
    (∀ s index units, b.Indexes call s index → Text.Utf16 s.toList units →
      ((∃ c, b.Folds (i.attempt stubs b call (.function f)).builder c) ↔
        0 ≤ index.toInt ∧ index.toInt < units.length ∧
          (asString = true → ∀ u, units[index.toInt.toNat]? = some u →
            Text.isSurrogate u = false)) ∧
      ∀ c, b.Folds (i.attempt stubs b call (.function f)).builder c →
        ∃ u, units[index.toInt.toNat]? = some u ∧ c.Shows u asString) ∧
    ((∃ c, b.Folds (i.attempt stubs b call (.function f)).builder c) →
      ∃ s index, b.Indexes call s index) ∧
    ((¬∃ c, b.Folds (i.attempt stubs b call (.function f)).builder c) →
      b.LoadsUnit (i.attempt stubs b call (.function f)).builder call asString) := by
  obtain ⟨r, p, hemits⟩ := exists_emits h
  generalize (i.attempt stubs b call (.function f)).builder = b' at hemits ⊢
  rcases hemits.folds_or_loadsUnit hf with
    ⟨s, index, u, c, hindexes, hnonneg, hu, hshows, hfolds⟩ | ⟨hloads, hnone⟩
  · refine ⟨fun s' index' units hindexes' hunits => ?_, fun _ => ⟨s, index, hindexes⟩,
      fun hnot => absurd ⟨c, hfolds⟩ hnot⟩
    obtain ⟨rfl, rfl⟩ := hindexes.unique hindexes'
    rw [← Text.utf16_iff.1 hunits] at hu
    obtain ⟨hlt, -⟩ := List.getElem?_eq_some_iff.1 hu
    refine ⟨iff_of_true ⟨c, hfolds⟩ ⟨hnonneg, by omega, fun hstring u' hu' => ?_⟩, ?_⟩
    · obtain rfl := Option.some.inj (hu.symm.trans hu')
      exact Strings.exists_shows_iff.1 ⟨c, hshows⟩ hstring
    · intro c' hc'
      obtain rfl := hfolds.unique hc'
      exact ⟨u, hu, hshows⟩
  · refine ⟨fun s index units hindexes hunits => ?_, fun ⟨c, hc⟩ => absurd hc (hloads.not_folds c),
      fun _ => hloads⟩
    refine ⟨iff_of_false (fun ⟨c, hc⟩ => hloads.not_folds c hc) ?_,
      fun c hc => absurd hc (hloads.not_folds c)⟩
    rintro ⟨hnonneg, hlt, hshown⟩
    obtain ⟨u, hu⟩ : ∃ u, units[index.toInt.toNat]? = some u :=
      ⟨_, List.getElem?_eq_getElem (by omega)⟩
    obtain ⟨c, hc⟩ := Strings.exists_shows_iff.2 fun hstring => hshown hstring u hu
    exact hnone s index u c hindexes hnonneg (Text.utf16_iff.1 hunits ▸ hu) hc

end Inliner

/-- The character at index 2 of a string that starts with one beyond the basic plane. -/
def Scenario.charBehindPair : Scenario where
  callee := .function (.ofNative ⟨1⟩ .stringCharAt)
  receiver := some (.constant (.string (String.ofList [Char.ofNat 0x1F600, 'a'])))
  args := [.constant (.int32 2)]
  resultTypes := some (.ofType .string)

/-- The first character takes two units, so this is the second one. -/
theorem attempt_foldsUnit_charBehindPair :
    (Scenario.charBehindPair.attempt {} Scenario.charBehindPair.builder).result = .ok .inlined ∧
    ∃ c, Scenario.charBehindPair.builder.Folds
        (Scenario.charBehindPair.attempt {} Scenario.charBehindPair.builder).builder c ∧
      c.Shows 0x61 true := by
  have hinlined : (Scenario.charBehindPair.attempt {} Scenario.charBehindPair.builder).result =
      .ok .inlined := by
    decide +kernel
  obtain ⟨hfolds, -⟩ := @Inliner.attempt_foldsUnit _ _ _ _ _ true hinlined rfl
  have hunits : Text.Utf16 (String.ofList [Char.ofNat 0x1F600, 'a']).toList
      [0xD83D, 0xDE00, 0x61] := by
    rw [String.toList_ofList]
    exact .pair ⟨by decide, by decide, by decide⟩ (.basic (by decide) .nil)
  obtain ⟨hiff, hshows⟩ := hfolds _ 2 _ ⟨rfl, _, rfl, rfl⟩ hunits
  obtain ⟨c, hc⟩ := hiff.2 ⟨by decide, by decide, fun _ u hu => by
    obtain rfl := Option.some.inj hu
    decide⟩
  obtain ⟨u, hu, hc'⟩ := hshows c hc
  obtain rfl := Option.some.inj hu
  exact ⟨hinlined, c, hc, hc'⟩

end CallSite
