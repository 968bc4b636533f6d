import CallSite.Proofs.Operations.Basic
import CallSite.Specialize.BoundCall
import CallSite.Specialize.Objects
import CallSite.Specialize.RegExps
import CallSite.Specialize.Surroundings

/-!
# Operations of object, array and surrounding natives

The natives whose plans are a handful of nodes, and two with loops: the array constructor stores its
arguments one after the other, and a call through a bound function adds a constant for each bound
argument.
-/

namespace CallSite

open Draft (Emits emits_pure emits_add emits_bind emits_add_bind emits_push emits_resumeAfter
  emits_guardTop emits_result emits_pushConstant emits_effectfulResult emits_effect)
open Plan (emits_relyingOn emits_of_steps)

variable {S : Op → Prop} (s : Site)

/-! ## Arrays -/

namespace ArrayUpdate

lemma postBarrier_emits (object value : Operand) (barrier : S .postWriteBarrier) :
    (postBarrier object value).Emits S := by
  rw [postBarrier]
  split_ifs
  · exact emits_add_bind barrier fun _ => emits_pure ()
  · exact emits_pure ()

lemma stored_emits (conversion : DoubleConversion) (value : Operand) (toDouble : S .toDouble) :
    (stored conversion value).Emits S := by
  rw [stored]
  split_ifs
  · exact emits_add toDouble
  · exact emits_pure value

lemma push_emits (toDouble : S .toDouble) (copy : S .maybeCopyElementsForWrite)
    (barrier : S .postWriteBarrier) (push : S .arrayPush) :
    (ArrayUpdate.push s).Yields (Plan.Emits S) := by
  simp only [ArrayUpdate.push, Decide.yields_bind, Decide.yields_pure]
  intro _ _ array _ value _ _ _ _ _ _ _
  refine emits_relyingOn ?_
  refine emits_bind (stored_emits array.value.convertDoubles.value value toDouble) fun v => ?_
  refine emits_add_bind copy fun object => ?_
  exact emits_bind (postBarrier_emits object v barrier) fun _ => emits_effectfulResult push

lemma remove_emits {side : RemovalSide} (copy : S .maybeCopyElementsForWrite)
    (remove : ∀ holes undefined, S (.arrayRemove side holes undefined)) :
    (ArrayUpdate.remove side s).Yields (Plan.Emits S) := by
  simp only [ArrayUpdate.remove, Decide.yields_bind, Decide.yields_pure]
  intro _ _ array _ _ _
  refine emits_relyingOn (emits_add_bind copy fun _ => ?_)
  refine emits_add_bind (remove _ _) fun v => emits_bind (emits_push v) fun _ => ?_
  exact emits_bind (emits_resumeAfter v) fun _ => emits_guardTop v _ _

lemma splice_emits (constant : ∀ c, S (.constant c)) (splice : S .arraySplice) :
    (ArrayUpdate.splice s).Yields (Plan.Emits S) := by
  simp only [ArrayUpdate.splice, Decide.yields_bind, Decide.yields_pure]
  intro _ _ _ _ _ _ _ _ start _ count _
  exact emits_relyingOn (emits_effect splice (constant _))

lemma join_emits (join : S .arrayJoin) : (ArrayUpdate.join s).Yields (Plan.Emits S) := by
  simp only [ArrayUpdate.join, Decide.yields_bind, Decide.yields_pure]
  intro _ _ _ _ separator _
  exact emits_relyingOn (emits_effectfulResult join)

end ArrayUpdate

namespace ArrayCreation

/-- The loop over the initial elements, by induction over them. -/
lemma storeInitial_emits (elements array : Operand) (convert : Bool) (heap : Heap)
    (constant : ∀ c, S (.constant c)) (toDouble : S .toDouble) (barrier : S .postWriteBarrier)
    (element : S .initializeElement) (xs : List Operand) (i : Nat) (last : Option Operand) :
    (storeInitial elements array convert heap i last xs).Emits S := by
  have hvalue : ∀ x, (initialValue convert x).Emits S := by
    intro x
    rw [initialValue]
    split_ifs
    · exact emits_add toDouble
    · exact emits_pure x
  have hbarrier : ∀ v, (initialBarrier heap array v).Emits S := by
    intro v
    rw [initialBarrier]
    split_ifs
    · exact emits_add_bind barrier fun _ => emits_pure ()
    · exact emits_pure ()
  induction xs generalizing i last with
  | nil => exact emits_pure last
  | cons x xs ih =>
    refine emits_add_bind (constant _) fun index => emits_bind (hvalue x) fun v => ?_
    exact emits_bind (hbarrier v) fun _ => emits_add_bind element fun _ => ih (i + 1) (some index)

lemma construct_emits (constant : ∀ c, S (.constant c))
    (allocate : ∀ length allocating heap convert, S (.newArray length allocating heap convert))
    (elements : S .elements) (toDouble : S .toDouble) (barrier : S .postWriteBarrier)
    (element : S .initializeElement) (setLength : S .setInitializedLength) :
    (construct s).Yields (Plan.Emits S) := by
  have hfill : ∀ array convert heap, (fill array convert heap s.args).Emits S := by
    intro array convert heap
    refine emits_add_bind elements fun vector => ?_
    refine emits_bind (storeInitial_emits vector array convert heap constant toDouble barrier
      element s.args 0 none) fun last => ?_
    cases last with
    | none => exact emits_pure ()
    | some last => exact emits_add_bind setLength emits_resumeAfter
  simp only [construct, Decide.yields_bind, Decide.yields_pure]
  intro _ _ t _ start _
  refine emits_relyingOn (emits_add_bind (constant _) fun template => ?_)
  refine emits_add_bind (allocate _ _ _ _) fun array => emits_bind (emits_push array) fun _ => ?_
  split_ifs
  · exact hfill array _ _
  · exact emits_pure ()

lemma concat_emits (constant : ∀ c, S (.constant c)) (concat : ∀ heap, S (.arrayConcat heap)) :
    (ArrayCreation.concat s).Yields (Plan.Emits S) := by
  simp only [ArrayCreation.concat, Decide.yields_bind, Decide.yields_pure]
  intros
  exact emits_relyingOn (emits_add_bind (constant _) fun _ => emits_effectfulResult (concat _))

lemma newDense_emits (constant : ∀ c, S (.constant c)) (allocate : S .newDenseArray) :
    (newDense s).Yields (Plan.Emits S) := by
  simp only [newDense, Decide.yields_bind, Decide.yields_pure]
  intros
  refine emits_of_steps rfl ?_
  exact emits_add_bind (constant _) fun _ => emits_effectfulResult allocate

end ArrayCreation

/-! ## Objects -/

namespace Objects

lemma foldOr_emits (known : Option Bool) (inputs : List Operand) {op : Op}
    (constant : ∀ c, S (.constant c)) (h : S op) : (foldOr known op inputs).Emits S := by
  cases known with
  | some answer => exact emits_pushConstant (constant _)
  | none => exact emits_result h

lemma hasClass_emits {candidates : List ObjectClass} (constant : ∀ c, S (.constant c))
    (test : S (.hasClass candidates)) : (hasClass candidates s).Yields (Plan.Emits S) := by
  simp only [hasClass, Decide.yields_bind, Decide.yields_pure]
  intro _ _ x _
  exact emits_relyingOn (foldOr_emits _ [x] constant test)

lemma isTypeDescr_emits (constant : ∀ c, S (.constant c)) :
    (isTypeDescr s).Yields (Plan.Emits S) := by
  simp only [isTypeDescr, Decide.yields_bind]
  intro _ _ x _ types _
  split
  · exact Decide.yields_pure.2 (emits_relyingOn (emits_pushConstant (constant _)))
  · exact Decide.yields_pure.2 (emits_relyingOn (emits_pushConstant (constant _)))
  · exact Decide.yields_pure.2 (emits_relyingOn (emits_pushConstant (constant _)))
  · exact Decide.yields_refuse _

lemma isCallable_emits (constant : ∀ c, S (.constant c)) (test : S .isCallable) :
    (isCallable s).Yields (Plan.Emits S) := by
  simp only [isCallable, Decide.yields_bind, Decide.yields_pure]
  intro _ _ x _
  exact emits_relyingOn (foldOr_emits _ [x] constant test)

lemma haveSameClass_emits (constant : ∀ c, S (.constant c)) (test : S .haveSameClass) :
    (haveSameClass s).Yields (Plan.Emits S) := by
  simp only [haveSameClass, Decide.yields_bind, Decide.yields_pure]
  intro _ _ x _ y _
  exact emits_relyingOn (foldOr_emits _ [x, y] constant test)

lemma toObject_emits : (toObject s).Yields (Plan.Emits S) := by
  simp only [toObject, Decide.yields_bind, Decide.yields_pure]
  intro _ _ x _
  exact emits_relyingOn (emits_push x)

lemma isObject_emits (test : S .isObject) : (isObject s).Yields (Plan.Emits S) := by
  simp only [isObject, Decide.yields_bind, Decide.yields_pure]
  intro _ _ x _
  exact emits_relyingOn (emits_result test)

lemma toInteger_emits (toInt32 : S .toInt32) : (toInteger s).Yields (Plan.Emits S) := by
  simp only [toInteger, Decide.yields_bind, Decide.yields_ite, Decide.yields_pure]
  intro _ _ x _ _ _
  exact ⟨fun _ => Decide.yields_decline _, fun _ => emits_relyingOn (emits_result toInt32)⟩

lemma setReservedSlot_emits (constant : ∀ c, S (.constant c)) (barrier : S .postWriteBarrier)
    (store : ∀ slot, S (.storeFixedSlot slot)) : (setReservedSlot s).Yields (Plan.Emits S) := by
  simp only [setReservedSlot, Decide.yields_bind, Decide.yields_pure]
  intro _ _ _ _ slot _ object _ value _
  refine emits_relyingOn ?_
  refine emits_bind (ArrayUpdate.postBarrier_emits object value barrier) fun _ => ?_
  exact emits_effect (store slot) (constant _)

lemma getReservedSlot_emits (load : ∀ slot, S (.loadFixedSlot slot)) :
    (getReservedSlot s).Yields (Plan.Emits S) := by
  simp only [getReservedSlot, Decide.yields_bind, Decide.yields_pure]
  intro _ _ _ _ slot _ object _
  refine emits_relyingOn (emits_add_bind (load slot) fun v => ?_)
  exact emits_bind (emits_push v) fun _ => emits_guardTop v _ _

end Objects

/-! ## Regular expressions -/

namespace RegExps

lemma test_emits (test : S .regExpTest) : (RegExps.test s).Yields (Plan.Emits S) := by
  simp only [RegExps.test, Decide.yields_bind, Decide.yields_ite, Decide.yields_pure]
  intro _ _
  refine ⟨fun _ => Decide.yields_decline _, fun _ => ?_⟩
  intro _ _ input _
  exact emits_of_steps rfl (emits_effectfulResult test)

lemma exec_emits (exec : S .regExpExec) (test : S .regExpTest) :
    (RegExps.exec s).Yields (Plan.Emits S) := by
  rw [RegExps.exec]
  split_ifs
  · simp only [Decide.yields_bind, Decide.yields_pure]
    intro _ _ _ _ input _
    refine emits_of_steps rfl (emits_add_bind exec fun v => emits_bind (emits_push v) fun _ => ?_)
    exact emits_bind (emits_resumeAfter v) fun _ => emits_guardTop v _ _
  · exact test_emits s test

end RegExps

/-! ## Surroundings -/

namespace Surroundings

lemma inParallelSection_emits (constant : ∀ c, S (.constant c)) :
    (inParallelSection s).Yields (Plan.Emits S) := by
  simp only [inParallelSection, Decide.yields_bind, Decide.yields_pure]
  intros
  exact emits_relyingOn (emits_pushConstant (constant _))

lemma forkJoinSlice_emits (slice : S .forkJoinGetSlice) :
    (forkJoinSlice s).Yields (Plan.Emits S) := by
  simp only [forkJoinSlice, Decide.yields_bind, Decide.yields_ite, Decide.yields_pure]
  intro _ _ _ _
  exact ⟨fun _ => Decide.yields_decline _, fun _ => emits_of_steps rfl (emits_result slice)⟩

lemma isConstructing_emits (constant : ∀ c, S (.constant c)) (ask : S .isConstructing) :
    (isConstructing s).Yields (Plan.Emits S) := by
  simp only [isConstructing, Decide.yields_bind]
  intro _ _
  split
  · exact Decide.yields_pure.2 (emits_relyingOn (emits_pushConstant (constant _)))
  · exact Decide.yields_pure.2 (emits_relyingOn (emits_result ask))

lemma bailout_emits (constant : ∀ c, S (.constant c)) (bail : S .bail) :
    (bailout s).Yields (Plan.Emits S) := by
  rw [bailout, Decide.yields_ok]
  exact emits_relyingOn (emits_add_bind bail fun _ => emits_pushConstant (constant _))

lemma assertFloat32_emits (constant : ∀ c, S (.constant c))
    (check : ∀ mustBe, S (.assertFloat32 mustBe)) :
    (assertFloat32 s).Yields (Plan.Emits S) := by
  simp only [assertFloat32, Decide.yields_bind, Decide.yields_pure]
  intro _ _ _ _ mustBe _ value _
  exact emits_relyingOn (emits_add_bind (check mustBe) fun _ => emits_pushConstant (constant _))

end Surroundings

/-! ## Bound functions -/

namespace BoundCall

lemma constants_emits (constant : ∀ c, S (.constant c)) (cs : List Constant) :
    (constants cs).Emits S := by
  induction cs with
  | nil => exact emits_pure []
  | cons c cs ih => exact emits_add_bind (constant c) fun v => emits_bind ih fun vs => emits_pure _

lemma specialize_emits (f : FunctionObject) (constant : ∀ c, S (.constant c))
    (call : ∀ target argc constructing, S (.call target argc constructing)) :
    (specialize f s).Yields (Plan.Emits S) := by
  have hforward : ∀ target receiver bound,
      (Plan.of (forward s target receiver bound)).Emits S := by
    intro target receiver bound
    refine emits_relyingOn (emits_add_bind (constant _) fun _ => ?_)
    refine emits_add_bind (constant _) fun _ => ?_
    exact emits_bind (constants_emits constant bound) fun _ => emits_effectfulResult (call _ _ _)
  simp only [specialize, Decide.yields_bind]
  intro _ _
  split
  · simp only [Decide.yields_ite, Decide.yields_bind, Decide.yields_pure]
    exact ⟨fun _ _ _ _ _ _ _ _ _ _ _ => hforward _ _ _, fun _ _ _ _ _ _ _ _ _ => hforward _ _ _⟩
  · exact Decide.yields_refuse _
  · exact Decide.yields_refuse _
  · exact Decide.yields_refuse _

end BoundCall

end CallSite
