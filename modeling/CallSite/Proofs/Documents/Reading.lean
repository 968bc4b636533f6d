import CallSite.Json.Reader
import CallSite.Proofs.Documents.Decoding
import CallSite.Proofs.Documents.Doubles

/-!
# What the reader builds

Every number that the reader puts into a document is an integer of 64 bits or a finite double.  The
numbers come in as tokens, and the machine that builds the document only moves them around.

* `Json.isReal_of_number?` — a number's text is read as such a number.
* `Json.Machine.IsReal.step` — the machine keeps documents real.
* `Json.isReal_of_parse?` — **the value of a text is real**.
-/

namespace CallSite.Json

/-! ## Numbers -/

lemma gatherInteger_le {significand : Nat} (h : significand ≤ significandLimit) (exponent : Int)
    (ds : List Nat) : (gatherInteger significand exponent ds).1 ≤ significandLimit := by
  induction ds generalizing significand with
  | nil => exact h
  | cons d ds ih =>
    rw [gatherInteger]
    split
    · rename_i hfits
      exact ih hfits
    · exact h

lemma gatherFraction_le {significand : Nat} (h : significand ≤ significandLimit) (exponent : Int)
    (ds : List Nat) : (gatherFraction significand exponent ds).1 ≤ significandLimit := by
  induction ds generalizing significand exponent with
  | nil => exact h
  | cons d ds ih =>
    rw [gatherFraction]
    split
    · rename_i hfits
      exact ih hfits _
    · exact h

lemma isReal_doubleOf (t : NumberText) : (doubleOf t).IsReal := by
  rw [doubleOf]
  dsimp only
  split
  · rename_i d hd
    have hlimit : significandLimit < 2 ^ 64 := by decide
    have hle := gatherFraction_le (gatherInteger_le (Nat.zero_le _) 0 t.integer)
      (gatherInteger 0 0 t.integer).2 t.fraction
    have hfinite := isFinite_of_scale (hle.trans_lt hlimit) hd
    exact .double (Double.isFinite_ofMagnitude _ (of_decide_eq_true hfinite))
  · exact .unreadable

/-- **A number's text is read as a real number.** -/
theorem isReal_of_number? {cs : List Char} {j : Json} (h : number? cs = some j) : j.IsReal := by
  have hlimit : significandLimit = 2 ^ 64 - 1 := rfl
  have hpow : Nat.pow 2 63 = 2 ^ 63 := rfl
  have hlower : Int.pow 2 63 = 2 ^ 63 := rfl
  have hupper : Int.pow 2 64 = 2 ^ 64 := rfl
  obtain ⟨t, -, h⟩ := Option.bind_eq_some_iff.1 h
  dsimp only at h
  split at h
  · split at h
    · rename_i hfits
      obtain rfl := Option.some.inj h
      simp only [Bool.and_eq_true, decide_eq_true_eq] at hfits
      exact .int (by omega) (by omega)
    · split at h
      · rename_i hfits
        obtain rfl := Option.some.inj h
        simp only [Bool.and_eq_true, decide_eq_true_eq] at hfits
        exact .int (by omega) (by omega)
      · obtain rfl := Option.some.inj h
        exact isReal_doubleOf t
  · obtain rfl := Option.some.inj h
    exact isReal_doubleOf t

/-! ## Tokens -/

/-- The value that the token brings with it is real. -/
def Token.IsReal : Token → Prop
  | .scalar j => j.IsReal
  | _ => True

lemma isReal_of_word? {cs : List Char} {j : Json} (h : word? cs = some j) : j.IsReal := by
  rw [word?] at h
  split at h
  · exact Option.some.inj h ▸ .null
  · split at h
    · exact Option.some.inj h ▸ .bool true
    · split at h
      · exact Option.some.inj h ▸ .bool false
      · exact isReal_of_number? h

lemma isReal_of_tokens? {acc ts : List Token} {cs : List Char} (hacc : ∀ t ∈ acc, t.IsReal)
    (h : tokens? acc cs = some ts) : ∀ t ∈ ts, t.IsReal := by
  fun_induction tokens? acc cs with
  | case1 acc =>
    obtain rfl := Option.some.inj h
    exact fun t ht => hacc t (List.mem_reverse.1 ht)
  | case2 acc c rest hblank ih => exact ih hacc h
  | case10 | case12 => cases h
  | case11 =>
    rename_i hword ih
    exact ih (List.forall_mem_cons.2 ⟨isReal_of_word? hword, hacc⟩) h
  | _ =>
    rename_i ih
    exact ih (List.forall_mem_cons.2 ⟨trivial, hacc⟩) h

/-! ## Values -/

/-- The values in the container are real. -/
def Container.IsReal : Container → Prop
  | .array items => ∀ j ∈ items, j.IsReal
  | .object members _ _ => ∀ m ∈ members, m.2.IsReal

namespace Machine

/-- **All values that the machine has read are real.** -/
structure IsReal (m : Machine) : Prop where
  containers : ∀ c ∈ m.containers, c.IsReal
  result : ∀ j ∈ m.result, j.IsReal

lemma isReal_closed {outer : Nat} {c : Container} (h : c.IsReal) : (closed outer c).IsReal := by
  cases c with
  | array items =>
    rw [closed]
    split
    · exact .array fun j hj => h j (List.mem_reverse.1 hj)
    · exact .unreadable
  | object members key readable =>
    rw [closed]
    split
    · exact .object fun m hm => h m (List.mem_reverse.1 hm)
    · exact .unreadable

namespace IsReal

variable {m : Machine}

lemma complete (h : m.IsReal) {j : Json} (hj : j.IsReal) : (m.complete j).IsReal := by
  obtain ⟨hcontainers, hresult⟩ := h
  rw [Machine.complete]
  dsimp only
  split
  · rename_i hnil
    exact ⟨fun c hc => by simp [hnil] at hc, fun i hi => Option.some.inj hi ▸ hj⟩
  · rename_i items containers hcons
    obtain ⟨hitems, hrest⟩ := List.forall_mem_cons.1 (hcons ▸ hcontainers)
    exact ⟨List.forall_mem_cons.2 ⟨List.forall_mem_cons.2 ⟨hj, hitems⟩, hrest⟩, hresult⟩
  · rename_i members key readable containers hcons
    obtain ⟨hmembers, hrest⟩ := List.forall_mem_cons.1 (hcons ▸ hcontainers)
    exact ⟨List.forall_mem_cons.2 ⟨List.forall_mem_cons.2 ⟨hj, hmembers⟩, hrest⟩, hresult⟩

lemma enter (h : m.IsReal) {c : Container} (hc : c.IsReal) (e : Expectation) :
    (m.enter c e).IsReal :=
  ⟨List.forall_mem_cons.2 ⟨hc, h.containers⟩, h.result⟩

lemma leave (h : m.IsReal) {c : Container} {containers : List Container}
    (hm : m.containers = c :: containers) : (m.leave c containers).IsReal := by
  obtain ⟨hc, hrest⟩ := List.forall_mem_cons.1 (hm ▸ h.containers)
  have hwithout : ({ m with containers } : Machine).IsReal := ⟨hrest, h.result⟩
  exact hwithout.complete (isReal_closed hc)

lemma startMember (h : m.IsReal) {key : Option String} {m' : Machine}
    (hm : m.startMember key = some m') : m'.IsReal := by
  rw [Machine.startMember] at hm
  split at hm
  · rename_i members key' readable containers hcons
    obtain ⟨hmembers, hrest⟩ := List.forall_mem_cons.1 (hcons ▸ h.containers)
    obtain rfl := Option.some.inj hm
    exact ⟨List.forall_mem_cons.2 ⟨hmembers, hrest⟩, h.result⟩
  · cases hm

/-- **A token keeps what has been read real.** -/
theorem step (h : m.IsReal) {t : Token} (ht : t.IsReal) {m' : Machine} (hm : m.step t = some m') :
    m'.IsReal := by
  rw [Machine.step.eq_def] at hm
  split at hm
  case h_1 | h_2 =>
    obtain rfl := Option.some.inj hm
    refine h.enter ?_ _
    nofun
  case h_3 | h_4 =>
    obtain rfl := Option.some.inj hm
    refine h.enter ?_ _
    nofun
  case h_5 | h_6 =>
    obtain rfl := Option.some.inj hm
    exact h.complete ht
  case h_7 s _ | h_8 s _ =>
    obtain rfl := Option.some.inj hm
    refine h.complete ?_
    cases s with
    | none => exact .unreadable
    | some s => exact .string s
  case h_9 _ hcons | h_10 _ hcons | h_16 _ hcons | h_17 _ hcons =>
    obtain rfl := Option.some.inj hm
    exact h.leave hcons
  case h_11 | h_12 => exact h.startMember hm
  case h_13 | h_14 | h_15 =>
    obtain rfl := Option.some.inj hm
    exact ⟨h.containers, h.result⟩
  case h_18 => cases hm

lemma run (h : m.IsReal) {ts : List Token} (hts : ∀ t ∈ ts, t.IsReal) {m' : Machine}
    (hm : m.run ts = some m') : m'.IsReal := by
  induction ts generalizing m with
  | nil => exact Option.some.inj hm ▸ h
  | cons t ts ih =>
    obtain ⟨ht, hts⟩ := List.forall_mem_cons.1 hts
    obtain ⟨m₁, hm₁, hm⟩ := Option.bind_eq_some_iff.1 hm
    exact ih (h.step ht hm₁) hts hm

end IsReal

end Machine

/-- **The value of a text is real.** -/
theorem isReal_of_parse? {text : String} {j : Json} (h : parse? text = some j) : j.IsReal := by
  obtain ⟨ts, hts, h⟩ := Option.bind_eq_some_iff.1 h
  obtain ⟨m, hm, hj⟩ := Option.bind_eq_some_iff.1 h
  have hstart : ({} : Machine).IsReal := ⟨nofun, nofun⟩
  have htokens := @isReal_of_tokens? [] ts text.toList nofun hts
  exact (hstart.run htokens hm).result j hj

end CallSite.Json
