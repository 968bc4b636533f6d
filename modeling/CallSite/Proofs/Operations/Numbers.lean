import CallSite.Proofs.Operations.Basic
import CallSite.Specialize.Arithmetic
import CallSite.Specialize.Strings

/-!
# Operations of arithmetic and string natives

None of these plans has an effect but those that make an object or run a regular expression.  Each
lemma names the operations that a plan can consist of; the chain of a least or greatest value is the
only plan here whose length depends on the call.
-/

namespace CallSite

open Draft (Emits emits_pure emits_add emits_bind emits_add_bind emits_push emits_result
  emits_pushConstant emits_effectfulResult)
open Plan (emits_relyingOn)

variable {S : Op → Prop} (s : Site)

/-! ## Arithmetic -/

namespace Arithmetic

lemma mathFunction_emits {f : MathFunction} (h : S (.mathFunction f)) :
    (mathFunction f s).Yields (Plan.Emits S) := by
  simp only [mathFunction, Decide.yields_bind, Decide.yields_pure]
  intro _ _ x _
  exact emits_relyingOn (emits_result h)

lemma abs_emits (h : S .abs) : (abs s).Yields (Plan.Emits S) := by
  simp only [abs, Decide.yields_bind, Decide.yields_ite, Decide.yields_pure]
  intro _ _ x _
  exact ⟨fun _ => Decide.yields_decline _, fun _ => emits_relyingOn (emits_result h)⟩

lemma rounding_emits {r : Rounding} (truncate : S (.limitedTruncate .indirectTruncate))
    (op : S r.toInt32Op) (routine : S (.mathFunction r.routine)) :
    (rounding r s).Yields (Plan.Emits S) := by
  simp only [rounding, Decide.yields_bind, Decide.yields_ite, Decide.yields_decline,
    Decide.yields_pure]
  intro _ _ x _
  refine ⟨fun _ => ?_, fun _ => ⟨fun _ => ?_, fun _ => ⟨fun _ => ?_, fun _ => trivial⟩⟩⟩
  · exact emits_relyingOn (emits_result truncate)
  · exact emits_relyingOn (emits_result op)
  · exact emits_relyingOn (emits_result routine)

lemma clz32_emits (h : S .clz32) : (clz32 s).Yields (Plan.Emits S) := by
  simp only [clz32, Decide.yields_bind, Decide.yields_pure]
  intro _ _ x _
  exact emits_relyingOn (emits_result h)

lemma sqrt_emits (h : S .sqrt) : (sqrt s).Yields (Plan.Emits S) := by
  simp only [sqrt, Decide.yields_bind, Decide.yields_pure]
  intro _ _ x _
  exact emits_relyingOn (emits_result h)

lemma binary_emits {op : Op} (h : S op) : (binary op s).Yields (Plan.Emits S) := by
  simp only [binary, Decide.yields_bind, Decide.yields_pure]
  intro _ _ x _ y _
  exact emits_relyingOn (emits_result h)

lemma atan2_emits (h : S .atan2) : (atan2 s).Yields (Plan.Emits S) := binary_emits s h

lemma hypot_emits (h : S .hypot) : (hypot s).Yields (Plan.Emits S) := binary_emits s h

lemma random_emits (h : S .random) : (random s).Yields (Plan.Emits S) := by
  simp only [random, Decide.yields_bind, Decide.yields_pure]
  intro _ _
  exact emits_relyingOn (emits_result h)

lemma imul_emits (truncate : S .truncateToInt32) (mul : S .mul) :
    (imul s).Yields (Plan.Emits S) := by
  simp only [imul, Decide.yields_bind, Decide.yields_pure]
  intro _ _ x _ y _
  refine emits_relyingOn ?_
  exact emits_add_bind truncate fun _ => emits_add_bind truncate fun _ => emits_result mul

lemma fround_emits (h : S .toFloat32) : (fround s).Yields (Plan.Emits S) := by
  simp only [fround, Decide.yields_bind, Decide.yields_pure]
  intro _ _ x _
  exact emits_relyingOn (emits_result h)

/-! ## Powers -/

lemma simplePower_emits (base : Operand) (out : ValueType) (half : S .powHalf)
    (one : S (.constant (.double .one))) (div : S .div) (mul : S .mul) (e : SimpleExponent) :
    (simplePower base out e).Emits S := by
  cases e with
  | half => exact emits_add half
  | minusHalf =>
    exact emits_add_bind half fun _ => emits_add_bind one fun _ => emits_add div
  | one => exact emits_pure base
  | two => exact emits_add mul
  | three => exact emits_add_bind mul fun _ => emits_add mul
  | four => exact emits_add_bind mul fun _ => emits_add mul

lemma castNumber_emits (v : Operand) (out : ValueType) (toInt32 : S .toInt32)
    (toDouble : S .toDouble) : (castNumber v out).Emits S := by
  rw [castNumber]
  split_ifs
  · exact emits_add toInt32
  · exact emits_add toDouble
  · exact emits_pure v

lemma power_emits (half : S .powHalf) (one : S (.constant (.double .one))) (div : S .div)
    (mul : S .mul) (pow : S .pow) (toInt32 : S .toInt32) (toDouble : S .toDouble) :
    (power s).Yields (Plan.Emits S) := by
  simp only [power, Decide.yields_bind, Decide.yields_pure]
  intro _ _ base _ exponent _
  have hraw : (rawPower base exponent s.returnType).Emits S := by
    rw [rawPower]
    split
    · exact simplePower_emits base s.returnType half one div mul _
    · exact emits_add pow
  refine emits_relyingOn (emits_bind hraw fun v => ?_)
  exact emits_bind (castNumber_emits v s.returnType toInt32 toDouble) emits_push

/-! ## Least and greatest -/

lemma chain_emits {op : Op} (h : S op) (ty : ValueType) (last : Operand) (xs : List Operand) :
    (chain op ty last xs).Emits S := by
  induction xs generalizing last with
  | nil => exact emits_pure last
  | cons x xs ih => exact emits_add_bind h ih

lemma minMax_emits {isMax : Bool} (one : S (.limitedTruncate .noTruncate))
    (several : S (.minMax isMax)) : (minMax isMax s).Yields (Plan.Emits S) := by
  simp only [minMax, Decide.yields_bind]
  intro _ _ _ _
  generalize (if minMaxType isMax s.returnType s.args = .int32
    then s.args.filter (·.ty = .int32) else s.args) = operands
  rcases operands with _ | ⟨x, _ | ⟨y, ys⟩⟩
  · exact Decide.yields_error _
  · exact Decide.yields_pure.2 (emits_relyingOn (emits_result one))
  · refine Decide.yields_pure.2 (emits_relyingOn ?_)
    exact emits_bind (chain_emits several _ x (y :: ys)) emits_push

end Arithmetic

/-! ## Strings -/

namespace Strings

lemma loadUnit_emits (string index : Operand) (toInt32 : S .toInt32) (length : S .stringLength)
    (check : S .boundsCheck) (load : S .charCodeAt) : (loadUnit string index).Emits S :=
  emits_add_bind toInt32 fun _ => emits_add_bind length fun _ => emits_add_bind check fun _ =>
    emits_add load

lemma charCodeAt_emits (constant : ∀ c, S (.constant c)) (toInt32 : S .toInt32)
    (length : S .stringLength) (check : S .boundsCheck) (load : S .charCodeAt) :
    (charCodeAt s).Yields (Plan.Emits S) := by
  simp only [charCodeAt, Decide.yields_bind]
  intro _ _ index _
  split
  · exact Decide.yields_pure.2 (emits_relyingOn (emits_pushConstant (constant _)))
  · refine Decide.yields_pure.2 (emits_relyingOn ?_)
    exact emits_bind (loadUnit_emits s.receiver index toInt32 length check load) emits_push

lemma charAt_emits (constant : ∀ c, S (.constant c)) (toInt32 : S .toInt32)
    (length : S .stringLength) (check : S .boundsCheck) (load : S .charCodeAt)
    (convert : S .fromCharCode) : (charAt s).Yields (Plan.Emits S) := by
  simp only [charAt, Decide.yields_bind]
  intro _ _ index _
  split
  · exact Decide.yields_pure.2 (emits_relyingOn (emits_pushConstant (constant _)))
  · refine Decide.yields_pure.2 (emits_relyingOn ?_)
    exact emits_bind (loadUnit_emits s.receiver index toInt32 length check load) fun _ =>
      emits_result convert

lemma fromCharCode_emits (toInt32 : S .toInt32) (convert : S .fromCharCode) :
    (fromCharCode s).Yields (Plan.Emits S) := by
  simp only [fromCharCode, Decide.yields_bind, Decide.yields_pure]
  intro _ _ code _
  exact emits_relyingOn (emits_add_bind toInt32 fun _ => emits_result convert)

lemma toString_emits (h : S .toString) : (toString s).Yields (Plan.Emits S) := by
  simp only [Strings.toString, Decide.yields_bind, Decide.yields_pure]
  intro _ _ value _
  exact emits_relyingOn (emits_result h)

lemma replace_emits (string : S .stringReplace) (regExp : S .regExpReplace) :
    (replace s).Yields (Plan.Emits S) := by
  simp only [replace, Decide.yields_bind, Decide.yields_ite, Decide.yields_refuse,
    Decide.yields_pure]
  intro _ _ pattern _ replacement _
  refine ⟨fun _ => ?_, fun _ => ⟨fun _ => ?_, fun _ => trivial⟩⟩
  · exact emits_relyingOn (emits_result string)
  · exact emits_relyingOn (emits_effectfulResult regExp)

lemma construct_emits (constant : ∀ c, S (.constant c)) (h : S .newStringObject) :
    (construct s).Yields (Plan.Emits S) := by
  simp only [construct, Decide.yields_bind, Decide.yields_pure]
  intro _ _ t _ value _
  exact emits_relyingOn (emits_add_bind (constant _) fun _ => emits_effectfulResult h)

lemma split_emits (constant : ∀ c, S (.constant c)) (h : S .stringSplit) :
    (split s).Yields (Plan.Emits S) := by
  simp only [split, Decide.yields_bind, Decide.yields_pure]
  intro _ _ t _ _ _ _ _ separator _
  exact emits_relyingOn (emits_add_bind (constant _) fun _ => emits_result h)

end Strings

end CallSite
