import CallSite.Types.Flags
import Mathlib.Data.List.TakeWhile

/-!
# Flag sets are read back from their texts

The text of a flag set names its bits between bars and gives those without a name as one number.
Cutting it at the bars and trimming the pieces gives back the parts, since no part has a bar or a
blank; each part denotes the bits that it was written for, and every bit is in some part.

* `FlagText.map_trimBlank_splitBars` — cutting the text gives back its parts.
* `FlagText.hexBits?_toDigits` — the number at the end denotes the bits without a name.
* `FlagText.parse?_render` — **a flag set is read back from its text**, bits without a name included.
-/

namespace CallSite.FlagText

variable {w : Nat} {names : Names}

/-! ## Cutting a text -/

/-- The part has neither bars nor blanks, and is not empty. -/
def IsPlain (part : List Char) : Prop :=
  part ≠ [] ∧ ∀ c ∈ part, Text.isBlank c = false ∧ c ≠ '|'

instance (part : List Char) : Decidable (IsPlain part) :=
  decidable_of_iff ((!part.isEmpty && part.all fun c => !Text.isBlank c && c != '|') = true) <| by
    simp [IsPlain]

namespace IsPlain

variable {p q : List Char}

lemma append (hp : IsPlain p) (hq : IsPlain q) : IsPlain (p ++ q) := by
  refine ⟨by simp [hp.1], fun c hc => ?_⟩
  rcases List.mem_append.1 hc with hc | hc
  · exact hp.2 c hc
  · exact hq.2 c hc

lemma not_mem_bar (hp : IsPlain p) : '|' ∉ p := fun hbar => (hp.2 _ hbar).2 rfl

lemma dropWhile_isBlank (hp : IsPlain p) (rest : List Char) :
    (p ++ rest).dropWhile Text.isBlank = p ++ rest := by
  cases p with
  | nil => exact absurd rfl hp.1
  | cons c cs => simp [(hp.2 c (List.mem_cons_self ..)).1]

lemma reverse (hp : IsPlain p) : IsPlain p.reverse :=
  ⟨by simpa using hp.1, fun c hc => hp.2 c (List.mem_reverse.1 hc)⟩

/-- Nothing is trimmed but what stands around a part. -/
lemma trimBlank (hp : IsPlain p) : Text.trimBlank p = p := by
  have hfront := hp.dropWhile_isBlank []
  have hback := hp.reverse.dropWhile_isBlank []
  rw [List.append_nil] at hfront hback
  rw [Text.trimBlank, hfront, hback, List.reverse_reverse]

lemma trimBlank_concat (hp : IsPlain p) : Text.trimBlank (p ++ [' ']) = p := by
  have hback := hp.reverse.dropWhile_isBlank []
  rw [List.append_nil] at hback
  rw [Text.trimBlank, hp.dropWhile_isBlank, List.reverse_append, List.reverse_singleton,
    List.singleton_append, List.dropWhile_cons_of_pos (by decide), hback, List.reverse_reverse]

end IsPlain

/-- A text that starts with a part is not blank. -/
lemma IsPlain.trimBlank_append_ne_nil {p : List Char} (hp : IsPlain p) (rest : List Char) :
    Text.trimBlank (p ++ rest) ≠ [] := by
  intro h
  rw [Text.trimBlank, hp.dropWhile_isBlank, List.reverse_eq_nil_iff,
    List.dropWhile_eq_nil_iff] at h
  obtain ⟨c, hc⟩ := List.exists_mem_of_ne_nil p hp.1
  have hblank := h c (by simp [hc])
  rw [(hp.2 c hc).1] at hblank
  cases hblank

lemma trimBlank_cons (cs : List Char) : Text.trimBlank (' ' :: cs) = Text.trimBlank cs := by
  rw [Text.trimBlank, List.dropWhile_cons_of_pos (by decide), Text.trimBlank]

lemma splitBars_of_not_mem {p : List Char} (h : '|' ∉ p) : splitBars p = [p] := by
  induction p with
  | nil => rfl
  | cons c cs ih =>
    rw [List.mem_cons, not_or] at h
    rw [splitBars, if_neg (Ne.symm h.1), ih h.2]

lemma splitBars_append {p : List Char} (h : '|' ∉ p) (rest : List Char) :
    splitBars (p ++ '|' :: rest) = p :: splitBars rest := by
  induction p with
  | nil => simp [splitBars]
  | cons c cs ih =>
    rw [List.mem_cons, not_or] at h
    rw [List.cons_append, splitBars, if_neg (Ne.symm h.1), ih h.2]

/-- A blank in front goes with the first piece, where it is trimmed. -/
lemma map_trimBlank_splitBars_cons (cs : List Char) :
    (splitBars (' ' :: cs)).map Text.trimBlank = (splitBars cs).map Text.trimBlank := by
  rw [splitBars, if_neg (by decide)]
  cases hcs : splitBars cs with
  | nil =>
    have hlength := length_splitBars cs
    rw [hcs] at hlength
    cases hlength
  | cons p ps => rw [List.map_cons, List.map_cons, trimBlank_cons]

/-- **Cutting the text gives back its parts.** -/
theorem map_trimBlank_splitBars {ps : List (List Char)} (hne : ps ≠ []) (h : ∀ p ∈ ps, IsPlain p) :
    (splitBars (" | ".toList.intercalate ps)).map Text.trimBlank = ps := by
  induction ps with
  | nil => exact absurd rfl hne
  | cons p ps ih =>
    obtain ⟨hp, hps⟩ := List.forall_mem_cons.1 h
    cases ps with
    | nil =>
      rw [List.intercalate_singleton, splitBars_of_not_mem hp.not_mem_bar, List.map_singleton,
        hp.trimBlank]
    | cons q qs =>
      have hbar : '|' ∉ p ++ [' '] := by
        simpa using hp.not_mem_bar
      have htext : " | ".toList.intercalate (p :: q :: qs) =
          (p ++ [' ']) ++ '|' :: ' ' :: " | ".toList.intercalate (q :: qs) := by
        rw [List.intercalate_cons_cons]
        simp
      rw [htext, splitBars_append hbar, List.map_cons, hp.trimBlank_concat,
        map_trimBlank_splitBars_cons, ih (by simp) hps]

/-! ## Numbers -/

lemma hexDigit?_digitChar : ∀ d < 16, hexDigit? d.digitChar = some d := by decide

lemma isPlain_digitChar : ∀ d < 16, IsPlain [d.digitChar] ∧ d.digitChar ≠ '+' := by decide

lemma hexValue?_append (acc : Nat) (cs : List Char) (c : Char) :
    hexValue? acc (cs ++ [c]) =
      (hexValue? acc cs).bind fun v => (hexDigit? c).map fun d => 16 * v + d := by
  induction cs generalizing acc with
  | nil => cases h : hexDigit? c <;> simp [hexValue?, h]
  | cons x xs ih => cases h : hexDigit? x <;> simp [hexValue?, h, ih]

/-- The digits of a number give back its value. -/
lemma hexValue?_toDigits (n : Nat) : hexValue? 0 (Nat.toDigits 16 n) = some n := by
  induction n using Nat.strongRecOn with
  | ind n ih =>
    rw [Nat.toDigits_eq_if (by decide)]
    split_ifs with hn
    · simp [hexValue?, hexDigit?_digitChar n hn]
    · have hlt : n / 16 < n := Nat.div_lt_self (by omega) (by decide)
      rw [hexValue?_append, ih _ hlt, hexDigit?_digitChar _ (Nat.mod_lt _ (by decide))]
      simp only [Option.bind_some, Option.map_some, Option.some.injEq]
      omega

lemma exists_digitChar_of_mem {n : Nat} {c : Char} (h : c ∈ Nat.toDigits 16 n) :
    ∃ d < 16, c = d.digitChar := by
  induction n using Nat.strongRecOn with
  | ind n ih =>
    rw [Nat.toDigits_eq_if (by decide)] at h
    split_ifs at h with hn
    · exact ⟨n, hn, List.mem_singleton.1 h⟩
    · rcases List.mem_append.1 h with h | h
      · exact ih _ (Nat.div_lt_self (by omega) (by decide)) h
      · exact ⟨n % 16, Nat.mod_lt _ (by decide), List.mem_singleton.1 h⟩

lemma isPlain_toDigits (n : Nat) : IsPlain (Nat.toDigits 16 n) := by
  refine ⟨Nat.toDigits_ne_nil, fun c hc => ?_⟩
  obtain ⟨d, hd, rfl⟩ := exists_digitChar_of_mem hc
  exact (isPlain_digitChar d hd).1.2 _ (List.mem_singleton_self _)

/-- **The bits of a number are read back from its digits.** -/
theorem hexBits?_toDigits (bits : BitVec w) :
    hexBits? w (Nat.toDigits 16 bits.toNat) = some bits := by
  have hsign : ∀ rest, Nat.toDigits 16 bits.toNat ≠ '+' :: rest := by
    intro rest heq
    obtain ⟨d, hd, hplus⟩ : ∃ d < 16, '+' = d.digitChar :=
      exists_digitChar_of_mem (heq ▸ List.mem_cons_self ..)
    exact (isPlain_digitChar d hd).2 hplus.symm
  have hlt : bits.toNat < Nat.pow 2 w := bits.isLt
  rw [hexBits?]
  · rw [if_neg (by simp [Nat.toDigits_ne_nil]), hexValue?_toDigits, Option.bind_eq_bind,
      Option.bind_some, if_pos hlt, BitVec.ofNat_toNat, BitVec.setWidth_eq]
  · exact hsign

/-! ## Parts -/

/-- **Names that can be told apart** from each other and from numbers. -/
def Names.AreDistinct (names : Names) : Prop :=
  (names.map fun n => n.1.toList).Nodup ∧
    ∀ n ∈ names, IsPlain n.1.toList ∧ n.1.toList.head? ≠ some '0'

instance (names : Names) : Decidable names.AreDistinct := inferInstanceAs (Decidable (_ ∧ _))

/-- The bits that each part of a text stands for. -/
def partBits (names : Names) (bits : BitVec w) : List (BitVec w) :=
  let unnamed := bits &&& ~~~ names.mask w
  (names.filter fun n => bits.getLsbD n.2).map (fun n => BitVec.twoPow w n.2) ++
    if unnamed = 0 then [] else [unnamed]

lemma part?_name (h : names.AreDistinct) {n : String × Nat} (hn : n ∈ names) :
    part? names w n.1.toList = some (BitVec.twoPow w n.2) := by
  obtain ⟨hnodup, hnames⟩ := h
  have hfind : names.find? (fun m => m.1.toList == n.1.toList) = some n := by
    refine List.find?_eq_some_iff_append.2 ⟨by simp, ?_⟩
    obtain ⟨front, back, rfl⟩ := List.append_of_mem hn
    refine ⟨front, back, rfl, fun m hm => ?_⟩
    rw [List.map_append, List.map_cons, List.nodup_append] at hnodup
    simpa using hnodup.2.2 _ (List.mem_map_of_mem hm) _ (List.mem_cons_self ..)
  rw [part?, hfind]
  · rfl
  · intro digits heq
    exact (hnames n hn).2 (by rw [heq]; rfl)

lemma part?_number (bits : BitVec w) :
    part? names w ("0x" ++ String.ofList (Nat.toDigits 16 bits.toNat)).toList = some bits := by
  have htext : ("0x" ++ String.ofList (Nat.toDigits 16 bits.toNat)).toList =
      '0' :: 'x' :: Nat.toDigits 16 bits.toNat := by
    simp
  rw [htext]
  exact hexBits?_toDigits bits

/-- **Each part stands for its bits.** -/
theorem map_part?_parts (h : names.AreDistinct) (bits : BitVec w) :
    (parts names bits).map (fun p => part? names w p.toList) =
      (partBits names bits).map some := by
  rw [parts, partBits, List.map_append, List.map_append, List.map_map, List.map_map]
  congr 1
  · refine List.map_congr_left fun n hn => ?_
    exact part?_name h (List.mem_filter.1 hn).1
  · split_ifs
    · rfl
    · exact congrArg (· :: []) (part?_number _)

lemma isPlain_of_mem_parts (h : names.AreDistinct) {bits : BitVec w} {p : String}
    (hp : p ∈ parts names bits) : IsPlain p.toList := by
  rw [parts, List.mem_append] at hp
  rcases hp with hp | hp
  · obtain ⟨n, hn, rfl⟩ := List.mem_map.1 hp
    exact (h.2 n (List.mem_filter.1 hn).1).1
  · split_ifs at hp
    · cases hp
    · obtain rfl := List.mem_singleton.1 hp
      have hprefix : IsPlain "0x".toList := by decide
      simpa using hprefix.append (isPlain_toDigits _)

/-! ## Bits -/

lemma getLsbD_foldl_or (bs : List (BitVec w)) (acc : BitVec w) (i : Nat) :
    (bs.foldl (· ||| ·) acc).getLsbD i = (acc.getLsbD i || bs.any (·.getLsbD i)) := by
  induction bs generalizing acc with
  | nil => simp
  | cons b bs ih => simp [ih, Bool.or_assoc]

lemma getLsbD_mask (names : Names) (i : Nat) :
    (names.mask w).getLsbD i = names.any fun n => (BitVec.twoPow w n.2).getLsbD i := by
  induction names with
  | nil => simp [Names.mask]
  | cons n ns ih =>
    rw [List.any_cons, ← ih, ← BitVec.getLsbD_or]
    rfl

/-- **Every bit is in some part**, and no other. -/
theorem foldl_partBits (names : Names) (bits : BitVec w) :
    (partBits names bits).foldl (· ||| ·) 0 = bits := by
  refine BitVec.eq_of_getLsbD_eq fun i hi => ?_
  have hunnamed : (if bits &&& ~~~ names.mask w = 0 then [] else [bits &&& ~~~ names.mask w]).any
      (·.getLsbD i) = (bits.getLsbD i && !(names.mask w).getLsbD i) := by
    have hbit : (bits &&& ~~~ names.mask w).getLsbD i =
        (bits.getLsbD i && !(names.mask w).getLsbD i) := by
      simp [hi]
    split_ifs with hzero
    · rw [← hbit, hzero]
      simp
    · simpa using hbit
  have hnamed : ((names.filter fun n => bits.getLsbD n.2).map fun n => BitVec.twoPow w n.2).any
      (·.getLsbD i) = (bits.getLsbD i && (names.mask w).getLsbD i) := by
    rw [getLsbD_mask, List.any_map, List.any_filter, Bool.eq_iff_iff]
    simp only [Function.comp_apply, List.any_eq_true, Bool.and_eq_true, BitVec.getLsbD_twoPow,
      decide_eq_true_eq]
    constructor
    · rintro ⟨n, hn, hbit, hlt, rfl⟩
      exact ⟨hbit, n, hn, hlt, rfl⟩
    · rintro ⟨hbit, n, hn, hlt, rfl⟩
      exact ⟨n, hn, hbit, hlt, rfl⟩
  rw [getLsbD_foldl_or, partBits, List.any_append, hunnamed, hnamed]
  cases bits.getLsbD i <;> cases (names.mask w).getLsbD i <;> simp

/-! ## Texts -/

lemma foldl_part? {ps : List (List Char)} {bs : List (BitVec w)}
    (h : ps.map (part? names w) = bs.map some) (acc : BitVec w) :
    ps.foldl (fun acc p => acc.bind fun bits => (part? names w p).map (bits ||| ·)) (some acc) =
      some (bs.foldl (· ||| ·) acc) := by
  induction ps generalizing bs acc with
  | nil =>
    cases bs with
    | nil => rfl
    | cons b bs => cases h
  | cons p ps ih =>
    cases bs with
    | nil => cases h
    | cons b bs =>
      rw [List.map_cons, List.map_cons, List.cons.injEq] at h
      rw [List.foldl_cons, Option.bind_some, h.1, Option.map_some, ih h.2]
      rfl

/-- **A flag set is read back from its text**, bits without a name included. -/
theorem parse?_render (h : names.AreDistinct) (bits : BitVec w) :
    parse? names w (render names bits) = some bits := by
  have htext : (render names bits).toList =
      " | ".toList.intercalate ((parts names bits).map String.toList) := String.toList_intercalate
  have hplain : ∀ p ∈ (parts names bits).map String.toList, IsPlain p := by
    intro p hp
    obtain ⟨q, hq, rfl⟩ := List.mem_map.1 hp
    exact isPlain_of_mem_parts h hq
  have hfold := foldl_partBits names bits
  have hparts := map_part?_parts h bits
  rw [← Function.comp_def, ← List.map_map] at hparts
  rw [parse?, htext]
  generalize (parts names bits).map String.toList = ps at hplain hparts ⊢
  cases ps with
  | nil =>
    rw [List.map_eq_nil_iff.1 hparts.symm] at hfold
    exact congrArg some hfold
  | cons p ps =>
    obtain ⟨rest, hstart⟩ : ∃ rest, " | ".toList.intercalate (p :: ps) = p ++ rest := by
      cases ps with
      | nil => exact ⟨[], by simp⟩
      | cons q qs => exact ⟨_, by rw [List.intercalate_cons_cons, List.append_assoc]⟩
    have hne := (hplain p (List.mem_cons_self ..)).trimBlank_append_ne_nil rest
    rw [← hstart] at hne
    rw [if_neg (by simpa using hne)]
    have hread := foldl_part? hparts 0
    rw [hfold, ← map_trimBlank_splitBars (by simp) hplain, List.foldl_map] at hread
    exact hread

end CallSite.FlagText
