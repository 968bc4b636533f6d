import CallSite.Proofs.Operations.Objects
import CallSite.Specialize.ElementStore
import CallSite.Specialize.TypedMemory

/-!
# Operations of accesses to typed memory and of element stores

An atomic access consists of its bounds check, conversions of the values, and one node that does it.
A call that stores groups of elements can repeat all that a single store consists of.
-/

namespace CallSite

open Draft (Emits emits_pure emits_add emits_bind emits_add_bind emits_push emits_resumeAfter
  emits_result emits_pushConstant emits_effectfulResult emits_effect)
open Plan (emits_relyingOn)

variable {S : Op → Prop} (s : Site)

namespace TypedMemory

lemma length_emits (isShared : Bool) (element : Scalar) (h : S .typedArrayLength) :
    (TypedMemory.length isShared element s).Yields (Plan.Emits S) := by
  simp only [TypedMemory.length, Decide.yields_bind, Decide.yields_pure]
  intros
  exact emits_relyingOn (emits_result h)

lemma setOffset_emits (constant : ∀ c, S (.constant c)) (move : S .setTypedObjectOffset) :
    (setOffset s).Yields (Plan.Emits S) := by
  simp only [setOffset, Decide.yields_bind, Decide.yields_pure]
  intros
  exact emits_relyingOn (emits_effect move (constant _))

lemma construct_emits (d : DescriptorObject) (constant : ∀ c, S (.constant c))
    (allocate : ∀ heap, S (.newTypedObject heap)) : (construct d s).Yields (Plan.Emits S) := by
  simp only [construct, Decide.yields_bind, Decide.yields_pure]
  intros
  exact emits_relyingOn (emits_add_bind (constant _) fun _ => emits_result (allocate _))

/-! ## Atomics -/

section Atomics

variable (length : S .typedArrayLength) (check : S .boundsCheck)
  (elements : S .typedArrayElements) (truncate : S .truncateToInt32)

include length check elements in
lemma checkedAccess_emits (array index : Operand) : (checkedAccess array index).Emits S :=
  emits_add_bind length fun _ => emits_add_bind check fun _ => emits_add_bind elements fun _ =>
    emits_pure _

include truncate in
lemma truncated_emits (value : Operand) : (truncated value).Emits S := by
  rw [truncated]
  split_ifs
  · exact emits_add truncate
  · exact emits_pure value

include length check elements truncate

lemma compareExchange_emits (exchange : ∀ element, S (.compareExchangeTypedElement element)) :
    (compareExchange s).Yields (Plan.Emits S) := by
  simp only [compareExchange, Decide.yields_bind, Decide.yields_pure]
  intro _ _ array _ element _ index _ old _ new _
  refine emits_relyingOn ?_
  refine emits_bind (checkedAccess_emits length check elements array index) fun _ => ?_
  refine emits_bind (truncated_emits truncate old) fun _ => ?_
  exact emits_bind (truncated_emits truncate new) fun _ => emits_effectfulResult (exchange element)

omit truncate in
lemma load_emits (load : ∀ element, S (.loadTypedElement element .seqCst)) :
    (TypedMemory.load s).Yields (Plan.Emits S) := by
  simp only [TypedMemory.load, Decide.yields_bind, Decide.yields_pure]
  intro _ _ array _ element _ index _
  refine emits_relyingOn ?_
  refine emits_bind (checkedAccess_emits length check elements array index) fun _ => ?_
  exact emits_effectfulResult (load element)

lemma store_emits (store : ∀ element, S (.storeTypedElement element .seqCst)) :
    (TypedMemory.store s).Yields (Plan.Emits S) := by
  simp only [TypedMemory.store, Decide.yields_bind, Decide.yields_pure]
  intro _ _ array _ element _ index _ value _
  refine emits_relyingOn ?_
  refine emits_bind (checkedAccess_emits length check elements array index) fun _ => ?_
  refine emits_bind (truncated_emits truncate value) fun _ => emits_add_bind (store element) ?_
  exact fun v => emits_bind (emits_push value) fun _ => emits_resumeAfter v

lemma update_emits {operator : AtomicOperator}
    (update : ∀ element, S (.atomicTypedElement operator element)) :
    (TypedMemory.update operator s).Yields (Plan.Emits S) := by
  simp only [TypedMemory.update, Decide.yields_bind, Decide.yields_pure]
  intro _ _ array _ element _ index _ value _
  refine emits_relyingOn ?_
  refine emits_bind (checkedAccess_emits length check elements array index) fun _ => ?_
  exact emits_bind (truncated_emits truncate value) fun _ => emits_effectfulResult (update element)

end Atomics

lemma fence_emits (constant : ∀ c, S (.constant c)) (fence : S .memoryBarrier) :
    (TypedMemory.fence s).Yields (Plan.Emits S) := by
  simp only [TypedMemory.fence, Decide.yields_bind, Decide.yields_pure]
  intros
  exact emits_relyingOn (emits_effect fence (constant _))

end TypedMemory

/-! ## Element stores -/

namespace ElementStore

/-- The operations that the store of an element consists of, once its index is an int32. -/
def isPart : Op → Bool
  | .toDouble | .elements | .postWriteBarrier | .storeElement false | .clampToUint8
  | .truncateToInt32 | .typedArrayElements | .storeTypedElement _ .unordered
  | .storeTypedObjectElement _ => true
  | _ => false

lemma int32Index_emits (index : Operand) (toInt32 : S .toInt32) :
    (int32Index index).Emits S := by
  rw [int32Index]
  split_ifs
  · exact emits_pure index
  · exact emits_add toInt32

lemma scalarValue_emits (element : Scalar) (value : Operand) (clamp : S .clampToUint8)
    (truncate : S .truncateToInt32) : (scalarValue element value).Emits S := by
  rw [scalarValue]
  split_ifs
  · exact emits_add clamp
  · exact emits_add truncate
  · exact emits_pure value

lemma storeNode_emits (object index value : Operand) (write : ElementWrite)
    (part : ∀ op, isPart op = true → S op) : (storeNode object index value write).Emits S := by
  have hscalar : ∀ element, (scalarValue element value).Emits S := fun element =>
    scalarValue_emits element value (part _ rfl) (part _ rfl)
  cases write with
  | dense conversion =>
    refine emits_bind (ArrayUpdate.stored_emits conversion value (part _ rfl)) fun v => ?_
    refine emits_add_bind (part _ rfl) fun _ => ?_
    exact emits_bind (ArrayUpdate.postBarrier_emits object v (part _ rfl)) fun _ =>
      emits_add (part _ rfl)
  | typedArray element =>
    refine emits_bind (hscalar element) fun _ => ?_
    exact emits_add_bind (part _ rfl) fun _ => emits_add (part _ rfl)
  | typedObject element => exact emits_bind (hscalar element) fun _ => emits_add (part _ rfl)

/-- The stores of all groups, by induction over the groups. -/
lemma storeAll_emits (toInt32 : S .toInt32) (part : ∀ op, isPart op = true → S op)
    (writes : List (ElementWrite × Group)) : (storeAll writes).Emits S := by
  induction writes with
  | nil => exact emits_pure ()
  | cons w writes ih =>
    refine emits_bind (emits_bind (int32Index_emits w.2.index toInt32) fun index => ?_) fun _ => ih
    exact emits_bind (storeNode_emits w.2.object index w.2.value w.1 part) emits_resumeAfter

lemma putElements_emits (constant : ∀ c, S (.constant c)) (toInt32 : S .toInt32)
    (part : ∀ op, isPart op = true → S op) : (putElements s).Yields (Plan.Emits S) := by
  simp only [putElements, Decide.yields_bind, Decide.yields_pure]
  intro _ _ r _
  refine emits_relyingOn ?_
  exact emits_bind (emits_pushConstant (constant _)) fun _ => storeAll_emits toInt32 part r.1

end ElementStore

end CallSite
