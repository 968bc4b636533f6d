import CallSite.Proofs.Evolution.Site
import CallSite.Specialize.Arithmetic
import CallSite.Specialize.Strings

/-!
# Numbers and strings look at cores alone

None of these specializations relies on a fact that could change, except for the splitting of
strings, which asks what a template holds.  Each is shown to commute with taking cores: the
decision on the core of a site is the core of the decision.
-/

namespace CallSite

open Site
open Draft (core_bind core_push)

/-- Taking the core of a plan goes into both branches of a decision. -/
lemma Decide.core_ite (c : Prop) [Decidable c] (x y : Decide Plan) :
    Plan.core <$> (if c then x else y) = if c then Plan.core <$> x else Plan.core <$> y :=
  apply_ite (Plan.core <$> ·) c x y

/-! ## Numbers -/

namespace Arithmetic

lemma mathFunction_core (f : MathFunction) (s : Site) :
    mathFunction f s.core = Plan.core <$> mathFunction f s :=
  core_one s fun _ => rfl

lemma abs_core (s : Site) : abs s.core = Plan.core <$> abs s := by
  refine core_one s fun x => ?_
  rw [returnType_core, Decide.core_ite]
  rfl

lemma rounding_core (r : Rounding) (s : Site) :
    rounding r s.core = Plan.core <$> rounding r s := by
  refine core_one s fun x => ?_
  rw [returnType_core, Decide.core_ite, Decide.core_ite, Decide.core_ite]
  rfl

lemma clz32_core (s : Site) : clz32 s.core = Plan.core <$> clz32 s :=
  core_one s fun _ => rfl

lemma sqrt_core (s : Site) : sqrt s.core = Plan.core <$> sqrt s :=
  core_one s fun _ => rfl

lemma binary_core (op : Op) (s : Site) : binary op s.core = Plan.core <$> binary op s :=
  core_two s fun _ _ => rfl

lemma atan2_core (s : Site) : atan2 s.core = Plan.core <$> atan2 s := binary_core _ s

lemma hypot_core (s : Site) : hypot s.core = Plan.core <$> hypot s := binary_core _ s

lemma random_core (s : Site) : random s.core = Plan.core <$> random s := by
  rw [random, random, classify_core, map_bind]
  rfl

lemma imul_core (s : Site) : imul s.core = Plan.core <$> imul s :=
  core_two s fun _ _ => rfl

lemma fround_core (s : Site) : fround s.core = Plan.core <$> fround s := by
  rw [fround, fround, classify_core, arg_core, resultTypes_core, TypeSet.isEmpty_core]
  simp only [map_bind, bind_map_left]
  rfl

lemma rawPower_core (base exponent : Operand) (out : ValueType) :
    rawPower base.core exponent.core out = (rawPower base exponent out).core Operand.core := by
  rw [rawPower, rawPower, Operand.toFacts_core, Facts.number?_core]
  cases exponent.number?.bind SimpleExponent.of? with
  | none => rfl
  | some e => cases e <;> rfl

lemma castNumber_core (v : Operand) (out : ValueType) :
    castNumber v.core out = (castNumber v out).core Operand.core := by
  rw [castNumber, castNumber, apply_ite (Draft.core _), apply_ite (Draft.core _)]
  rfl

lemma power_core (s : Site) : power s.core = Plan.core <$> power s := by
  refine core_two s fun base exponent => ?_
  have h : (do
      let v ← rawPower base exponent s.returnType
      Draft.push (← castNumber v s.returnType) : Draft Unit).core id = (do
      let v ← rawPower base.core exponent.core s.returnType
      Draft.push (← castNumber v s.returnType)) := by
    rw [rawPower_core]
    refine core_bind fun v => ?_
    rw [castNumber_core]
    exact core_bind fun w => core_push w
  rw [returnType_core, map_pure, Plan.of, Plan.of, Plan.core_relyingOn, h]

lemma checkNumbers_core (index : Nat) (xs : List Operand) :
    checkNumbers index (xs.map Operand.core) = checkNumbers index xs := by
  induction xs generalizing index with
  | nil => rfl
  | cons x xs ih =>
    rw [List.map_cons, checkNumbers, checkNumbers, ih]
    rfl

lemma minMaxType_core (isMax : Bool) (observed : ValueType) (xs : List Operand) :
    minMaxType isMax observed (xs.map Operand.core) = minMaxType isMax observed xs := by
  rw [minMaxType, minMaxType, List.any_map, List.all_map]
  rfl

lemma chain_core (op : Op) (ty : ValueType) (last : Operand) (xs : List Operand) :
    chain op ty last.core (xs.map Operand.core) = (chain op ty last xs).core Operand.core := by
  induction xs generalizing last with
  | nil => rfl
  | cons x xs ih =>
    have h : (Draft.add op [last, x] ty >>= fun v => chain op ty v xs).core Operand.core =
        (Draft.add op [last, x] ty).core Operand.core >>= fun v =>
          chain op ty v (xs.map Operand.core) :=
      core_bind fun v => (ih v).symm
    exact h.symm

lemma minMax_core (isMax : Bool) (s : Site) :
    minMax isMax s.core = Plan.core <$> minMax isMax s := by
  rw [minMax, minMax, classify_core, args_core, checkNumbers_core, returnType_core,
    minMaxType_core]
  simp only [map_bind]
  refine bind_congr fun _ => bind_congr fun _ => ?_
  have hcases : (if minMaxType isMax s.returnType s.args = .int32 then
      (s.args.map Operand.core).filter (·.ty = .int32) else s.args.map Operand.core) =
      (if minMaxType isMax s.returnType s.args = .int32 then
        s.args.filter (·.ty = .int32) else s.args).map Operand.core := by
    rw [apply_ite (List.map Operand.core), List.filter_map]
    rfl
  rw [hcases]
  generalize (if minMaxType isMax s.returnType s.args = .int32 then
    s.args.filter (·.ty = .int32) else s.args) = deciding
  rcases deciding with _ | ⟨x, _ | ⟨y, xs⟩⟩
  · rfl
  · rfl
  · have h := chain_core (.minMax isMax) (minMaxType isMax s.returnType s.args) x (y :: xs)
    rw [List.map_cons] at h
    rw [List.map_cons, List.map_cons]
    dsimp only
    rw [h, map_pure, Plan.of, Plan.of, Plan.core_relyingOn]
    exact congrArg (fun d => pure (Plan.relyingOn [] d)) (core_bind core_push).symm

end Arithmetic

/-! ## Strings -/

namespace Strings

lemma charCodeAt_core (s : Site) : charCodeAt s.core = Plan.core <$> charCodeAt s := by
  refine core_one s fun index => ?_
  have hunit : constantUnit? s.core.receiver index.core = constantUnit? s.receiver index := rfl
  rw [hunit]
  cases constantUnit? s.receiver index <;> rfl

lemma charAt_core (s : Site) : charAt s.core = Plan.core <$> charAt s := by
  refine core_one s fun index => ?_
  have hunit : constantUnit? s.core.receiver index.core = constantUnit? s.receiver index := rfl
  rw [hunit]
  cases (constantUnit? s.receiver index).bind unitChar? <;> rfl

lemma fromCharCode_core (s : Site) : fromCharCode s.core = Plan.core <$> fromCharCode s :=
  core_one s fun _ => rfl

lemma toString_core (s : Site) : toString s.core = Plan.core <$> toString s :=
  core_one s fun _ => rfl

lemma replace_core (s : Site) : replace s.core = Plan.core <$> replace s := by
  refine core_two s fun pattern replacement => ?_
  rw [Operand.toFacts_core, Facts.knownClass?_core, Decide.core_ite, Decide.core_ite]
  rfl

lemma construct_core (s : Site) : construct s.core = Plan.core <$> construct s := by
  rw [construct, construct, classify_core, template_core, arg_core]
  simp only [map_bind, bind_map_left]
  rfl

end Strings

end CallSite
