import CallSite.Proofs.Drafts
import CallSite.Specialize.Arithmetic

/-!
# Arithmetic plans are orderly

Every arithmetic plan adds nodes without effects and pushes one of them, or, for a power with
exponent one, the base itself.  Two of them are more than a node or two: powers are chosen by their
exponent, and the least and greatest of many arguments are a chain over all of them.
-/

namespace CallSite.Arithmetic

open Draft (Prepares Completes prepares_pure prepares_add prepares_bind completes_result)
open Plan (orderly_of_completes orderly_relyingOn orderly_result)
open Progress (open_start)
open Site (arg_available)

variable {s : Site} {scope : List Ref} {σ : Progress}

/-! ## One node per call -/

lemma mathFunction_orderly (f : MathFunction) (s : Site) :
    (mathFunction f s).Ensures (Plan.Orderly s) := by
  refine Site.ensures_one rfl fun x hx _ => ?_
  exact orderly_result (by simp [arg_available, hx]) rfl

lemma abs_orderly (s : Site) : (abs s).Ensures (Plan.Orderly s) := by
  refine Site.ensures_one rfl fun x hx _ => ?_
  dsimp only
  split
  · trivial
  · exact orderly_result (by simp [arg_available, hx]) rfl

lemma rounding_orderly (r : Rounding) (s : Site) :
    (rounding r s).Ensures (Plan.Orderly s) := by
  refine Site.ensures_one rfl fun x hx _ => ?_
  have hinputs : ∀ y ∈ [x], y.ref.Available (s.scope false) 0 := by simp [arg_available, hx]
  split_ifs
  · exact orderly_result hinputs rfl
  · exact orderly_result hinputs (by cases r <;> rfl)
  · exact orderly_result hinputs rfl
  · trivial

lemma clz32_orderly (s : Site) : (clz32 s).Ensures (Plan.Orderly s) := by
  refine Site.ensures_one rfl fun x hx _ => ?_
  exact orderly_result (by simp [arg_available, hx]) rfl

lemma sqrt_orderly (s : Site) : (sqrt s).Ensures (Plan.Orderly s) := by
  refine Site.ensures_one rfl fun x hx _ => ?_
  exact orderly_result (by simp [arg_available, hx]) rfl

lemma binary_orderly {op : Op} (quiet : op.isEffectful = false) (s : Site) :
    (binary op s).Ensures (Plan.Orderly s) := by
  refine Site.ensures_two rfl fun x y hxy _ => ?_
  exact orderly_result (by simp [arg_available, hxy]) quiet

lemma atan2_orderly (s : Site) : (atan2 s).Ensures (Plan.Orderly s) := binary_orderly rfl s

lemma hypot_orderly (s : Site) : (hypot s).Ensures (Plan.Orderly s) := binary_orderly rfl s

lemma random_orderly (s : Site) : (random s).Ensures (Plan.Orderly s) := by
  rw [random]
  simp only [Decide.ensures_bind, Site.ensures_classify, Decide.ensures_pure]
  intro _
  exact orderly_result (by simp) rfl

lemma imul_orderly (s : Site) : (imul s).Ensures (Plan.Orderly s) := by
  refine Site.ensures_two rfl fun x y hxy _ => orderly_relyingOn ?_
  have hx : x ∈ s.args := by simp [hxy]
  have hy : y ∈ s.args := by simp [hxy]
  refine (prepares_add (by simpa using arg_available hx) rfl rfl).then fun x' m hx' => ?_
  refine (prepares_add (by simpa using arg_available hy) rfl rfl).then fun y' n hy' => ?_
  refine completes_result ((open_start.grow m).grow n) ?_ rfl
  intro z hz
  rcases List.mem_pair.1 hz with rfl | rfl
  · exact hx'.grow n
  · exact hy'

lemma fround_orderly (s : Site) : (fround s).Ensures (Plan.Orderly s) := by
  rw [fround]
  refine Site.ensures_one rfl fun x hx _ => ?_
  exact orderly_result (by simp [arg_available, hx]) rfl

/-! ## Powers -/

/-- Products and roots of the base. -/
lemma prepares_simplePower {base : Operand} (hbase : base.ref.Available scope σ.added)
    (hσ : σ.guarded = false) (out : ValueType) (e : SimpleExponent) :
    Prepares scope σ (simplePower base out e) := by
  have hsquare : Prepares scope σ (Draft.add .mul [base, base] out) :=
    prepares_add (by simpa using hbase) hσ rfl
  cases e with
  | half => exact prepares_add (by simpa using hbase) hσ rfl
  | minusHalf =>
    refine prepares_bind (prepares_add (by simpa using hbase) hσ rfl) fun root m hroot => ?_
    refine prepares_bind (prepares_add (by simp) hσ rfl) fun one n hone => ?_
    refine prepares_add ?_ hσ rfl
    intro z hz
    rcases List.mem_pair.1 hz with rfl | rfl
    · exact hone
    · exact hroot.grow n
  | one => exact prepares_pure hbase
  | two => exact hsquare
  | three =>
    refine prepares_bind hsquare fun square n hsq => prepares_add ?_ hσ rfl
    intro z hz
    rcases List.mem_pair.1 hz with rfl | rfl
    · exact hbase.grow n
    · exact hsq
  | four =>
    refine prepares_bind hsquare fun square n hsq => prepares_add ?_ hσ rfl
    simpa using hsq

lemma prepares_rawPower {base exponent : Operand} (hbase : base.ref.Available scope σ.added)
    (hexponent : exponent.ref.Available scope σ.added) (hσ : σ.guarded = false)
    (out : ValueType) : Prepares scope σ (rawPower base exponent out) := by
  rw [rawPower]
  split
  · exact prepares_simplePower hbase hσ out _
  · exact prepares_add (by simp [hbase, hexponent]) hσ rfl

lemma prepares_castNumber {v : Operand} (hv : v.ref.Available scope σ.added)
    (hσ : σ.guarded = false) (out : ValueType) : Prepares scope σ (castNumber v out) := by
  rw [castNumber]
  split_ifs
  · exact prepares_add (by simpa using hv) hσ rfl
  · exact prepares_add (by simpa using hv) hσ rfl
  · exact prepares_pure hv

lemma power_orderly (s : Site) : (power s).Ensures (Plan.Orderly s) := by
  refine Site.ensures_two rfl fun x y hxy _ => orderly_relyingOn ?_
  have hx : x ∈ s.args := by simp [hxy]
  have hy : y ∈ s.args := by simp [hxy]
  refine (prepares_rawPower (arg_available hx) (arg_available hy) rfl _).then fun v n hv => ?_
  exact (prepares_castNumber hv rfl _).completes (open_start.grow n)

/-! ## Least and greatest -/

/-- A chain over operands that were there before it. -/
lemma prepares_chain {op : Op} (quiet : op.isEffectful = false) (ty : ValueType)
    {xs : List Operand} {last : Operand} (hlast : last.ref.Available scope σ.added)
    (hxs : ∀ x ∈ xs, x.ref.Available scope σ.added) (hσ : σ.guarded = false) :
    Prepares scope σ (chain op ty last xs) := by
  induction xs generalizing last σ with
  | nil => exact prepares_pure hlast
  | cons x xs ih =>
    have hhead : ∀ y ∈ [last, x], y.ref.Available scope σ.added := by
      simpa using ⟨hlast, hxs x (by simp)⟩
    refine prepares_bind (prepares_add hhead hσ quiet) fun v n hv => ih hv ?_ hσ
    intro y hy
    exact (hxs y (List.mem_cons_of_mem x hy)).grow n

lemma checkNumbers_ensures (xs : List Operand) (index : Nat) :
    (checkNumbers index xs).Ensures fun _ => ∀ x ∈ xs, x.ty.isNumber = true := by
  induction xs generalizing index with
  | nil => simp [checkNumbers]
  | cons x xs ih =>
    rw [checkNumbers]
    split
    · rename_i hx
      exact (ih (index + 1)).imp fun _ hxs => by simpa [hx] using hxs
    · trivial

/-- An int32 result is chosen only if some argument is an int32. -/
lemma exists_int32_of_minMaxType {isMax : Bool} {observed : ValueType} {args : List Operand}
    (h : minMaxType isMax observed args = .int32) : ∃ x ∈ args, x.ty = .int32 := by
  rw [minMaxType] at h
  split at h
  · rename_i hboth
    rw [Bool.and_eq_true] at hboth
    obtain ⟨x, hx, hty⟩ := List.any_eq_true.1 hboth.1
    exact ⟨x, hx, of_decide_eq_true hty⟩
  · cases h

/-- The operands that decide the result: the int32 ones if the result is one, else all. -/
def deciding (ty : ValueType) (args : List Operand) : List Operand :=
  if ty = .int32 then args.filter (·.ty = .int32) else args

lemma mem_of_mem_deciding {ty : ValueType} {args : List Operand} {x : Operand}
    (h : x ∈ deciding ty args) : x ∈ args := by
  rw [deciding] at h
  split at h
  · exact List.mem_of_mem_filter h
  · exact h

/-- Some operand always decides the result. -/
lemma deciding_ne_nil {isMax : Bool} {observed : ValueType} {args : List Operand}
    (hargs : args ≠ []) : deciding (minMaxType isMax observed args) args ≠ [] := by
  rw [deciding]
  split
  · rename_i hty
    obtain ⟨x, hx, hint⟩ := exists_int32_of_minMaxType hty
    exact List.ne_nil_of_mem (List.mem_filter.2 ⟨hx, decide_eq_true hint⟩)
  · exact hargs

lemma minMax_orderly (isMax : Bool) (s : Site) :
    (minMax isMax s).Ensures (Plan.Orderly s) := by
  rw [minMax]
  simp only [Decide.ensures_bind, Site.ensures_classify]
  intro h
  refine (checkNumbers_ensures s.args 0).imp fun _ _ => ?_
  have hpos : 1 ≤ s.args.length := by simpa [Arity.accepts] using h.accepts
  have hargs : s.args ≠ [] := List.ne_nil_of_length_pos hpos
  generalize hds : (if minMaxType isMax s.returnType s.args = .int32 then
    s.args.filter (·.ty = .int32) else s.args) = ds
  have hdeciding : deciding (minMaxType isMax s.returnType s.args) s.args = ds := hds
  have hne := @deciding_ne_nil isMax s.returnType s.args hargs
  have hmem : ∀ x ∈ ds, x ∈ s.args := fun x hx => mem_of_mem_deciding (hdeciding ▸ hx)
  rw [hdeciding] at hne
  rcases ds with _ | ⟨x, _ | ⟨y, xs⟩⟩
  · exact absurd rfl hne
  · exact orderly_result (by simpa using arg_available (hmem x (by simp))) rfl
  · refine orderly_relyingOn (Prepares.completes ?_ open_start)
    refine prepares_chain rfl _ (arg_available (hmem x (by simp))) (fun z hz => ?_) rfl
    exact arg_available (hmem z (List.mem_cons_of_mem x hz))

end CallSite.Arithmetic
