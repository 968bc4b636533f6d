import CallSite.Proofs.Evolution.Numbers
import CallSite.Specialize.BoundCall
import CallSite.Specialize.Objects
import CallSite.Specialize.RegExps
import CallSite.Specialize.Surroundings
import CallSite.Specialize.TypedMemory

/-!
# Objects, memory and surroundings look at cores alone

The classes of objects and the layouts of typed objects never change, so that a specialization
which asks for nothing else commutes with taking cores, as those on numbers do.
-/

namespace CallSite

open Site
open Draft (core_bind core_push core_resumeAfter)

/-! ## Regular expressions -/

namespace RegExps

lemma test_core (s : Site) : test s.core = Plan.core <$> test s := by
  rw [test, test, classify_core, arg_core, returnType_core, receiver_core, Operand.toFacts_core,
    Facts.knownClass?_core]
  simp only [map_bind, bind_map_left]
  refine bind_congr fun _ => ?_
  rw [Decide.core_ite]
  simp only [map_bind]
  rfl

lemma exec_core (s : Site) : exec s.core = Plan.core <$> exec s := by
  rw [exec, exec, test_core, classify_core, arg_core, receiver_core, Operand.toFacts_core,
    Facts.knownClass?_core, Decide.core_ite]
  simp only [map_bind, bind_map_left]
  rfl

end RegExps

/-! ## Object intrinsics -/

namespace Objects

lemma hasClass_core (candidates : List ObjectClass) (s : Site) :
    hasClass candidates s.core = Plan.core <$> hasClass candidates s := by
  refine core_one s fun x => ?_
  rw [Operand.toFacts_core, Facts.knownClass?_core]
  cases x.knownClass?.map candidates.contains <;> rfl

lemma isTypeDescr_core (s : Site) : isTypeDescr s.core = Plan.core <$> isTypeDescr s := by
  refine core_one s fun x => ?_
  rw [Operand.toFacts_core, Facts.types_core, Decide.need_map, bind_map_left, map_bind]
  refine bind_congr fun types => ?_
  rw [TypeSet.forAllClasses_core]
  cases types.forAllClasses ObjectClass.isTypeDescr <;> rfl

lemma isCallable_core (s : Site) : isCallable s.core = Plan.core <$> isCallable s := by
  refine core_one s fun x => ?_
  rw [Operand.toFacts_core, Facts.knownClass?_core]
  cases x.knownClass?.bind callable? <;> rfl

lemma haveSameClass_core (s : Site) :
    haveSameClass s.core = Plan.core <$> haveSameClass s := by
  refine core_two s fun x y => ?_
  have hsame : sameClass? x.core y.core = sameClass? x y := by
    rw [sameClass?, sameClass?, Operand.toFacts_core, Operand.toFacts_core,
      Facts.knownClass?_core, Facts.knownClass?_core]
  rw [hsame]
  cases sameClass? x y <;> rfl

lemma toObject_core (s : Site) : toObject s.core = Plan.core <$> toObject s :=
  core_one s fun _ => rfl

lemma isObject_core (s : Site) : isObject s.core = Plan.core <$> isObject s :=
  core_one s fun _ => rfl

lemma mayBeMagic_core (x : Operand) : mayBeMagic x.core = mayBeMagic x := by
  rw [mayBeMagic, mayBeMagic, Operand.toFacts_core, Facts.types_core]
  cases x.types <;> rfl

lemma mayCallOut_core (x : Operand) : mayCallOut x.core = mayCallOut x := by
  simp only [mayCallOut, List.any_cons, List.any_nil, Operand.toFacts_core, Facts.mightBe_core]

lemma toInteger_core (s : Site) : toInteger s.core = Plan.core <$> toInteger s := by
  refine core_one s fun x => ?_
  rw [mayCallOut_core, mayBeMagic_core, returnType_core, map_bind]
  refine bind_congr fun _ => ?_
  rw [Decide.core_ite]
  rfl

lemma postBarrier_core (object value : Operand) :
    ArrayUpdate.postBarrier object.core value.core =
      (ArrayUpdate.postBarrier object value).core id := by
  rw [ArrayUpdate.postBarrier, ArrayUpdate.postBarrier, Operand.toFacts_core,
    Facts.needsPostBarrier_core, apply_ite (Draft.core id)]
  rfl

lemma setReservedSlot_core (s : Site) :
    setReservedSlot s.core = Plan.core <$> setReservedSlot s := by
  rw [setReservedSlot, setReservedSlot, classify_core, arg_core, arg_core, arg_core]
  simp only [map_bind, bind_map_left]
  refine bind_congr fun _ => bind_congr fun index => ?_
  have hslot : constantSlot index.core = constantSlot index := rfl
  rw [hslot]
  refine bind_congr fun slot => bind_congr fun object => bind_congr fun value => ?_
  rw [map_pure, Plan.of, Plan.of, Plan.core_relyingOn, postBarrier_core]
  refine congrArg (fun d => pure (Plan.relyingOn [] d)) (Eq.symm ?_)
  exact core_bind fun _ => rfl

lemma getReservedSlot_core (s : Site) :
    getReservedSlot s.core = Plan.core <$> getReservedSlot s := by
  rw [getReservedSlot, getReservedSlot, classify_core, arg_core, arg_core]
  simp only [map_bind, bind_map_left]
  rfl

end Objects

/-! ## Typed arrays and typed objects -/

namespace TypedMemory

lemma length_core (isShared : Bool) (element : Scalar) (s : Site) :
    length isShared element s.core = Plan.core <$> length isShared element s := by
  rw [length, length, classify_core, receiver_core, Operand.toFacts_core, Facts.types_core]
  have hobserved : (s.receiver.types.map TypeSet.core).bind (fun types =>
      if isShared then types.sharedTypedArray? else types.typedArray?) =
      s.receiver.types.bind fun types =>
        if isShared then types.sharedTypedArray? else types.typedArray? := by
    cases s.receiver.types <;> simp
  rw [hobserved]
  simp only [map_bind]
  rfl

lemma setOffset_core (s : Site) : setOffset s.core = Plan.core <$> setOffset s := by
  refine core_two s fun object offset => ?_
  rw [Operand.toFacts_core, Facts.types_core, Option.any_map]
  simp only [TypeSet.forAllClasses_core, map_bind]
  rfl

lemma construct_core (d : DescriptorObject) (s : Site) :
    construct d s.core = Plan.core <$> construct d s := by
  have htemplate : s.core.env.classTemplate? s.core.call.site d.object.objectClass =
      (s.env.classTemplate? s.call.site d.object.objectClass).map Template.core :=
    s.env.classTemplate?_core _ _
  rw [construct, construct, classify_core, htemplate, Decide.need_map]
  simp only [map_bind, bind_map_left]
  rfl

lemma atomicTarget_core (s : Site) (array : Operand) :
    atomicTarget s.core array.core = atomicTarget s array := by
  have helement : (array.types.map TypeSet.core).bind TypeSet.sharedTypedArray? =
      array.types.bind TypeSet.sharedTypedArray? := by
    cases array.types <;> simp
  rw [atomicTarget, atomicTarget, Operand.toFacts_core, Facts.types_core, helement,
    returnType_core]

lemma checkedAccess_core (array index : Operand) :
    checkedAccess array.core index.core =
      (checkedAccess array index).core fun r => (r.1.core, r.2.core) :=
  rfl

lemma truncated_core (value : Operand) :
    truncated value.core = (truncated value).core Operand.core := by
  rw [truncated, truncated, apply_ite (Draft.core _)]
  rfl

lemma compareExchange_core (s : Site) :
    compareExchange s.core = Plan.core <$> compareExchange s := by
  rw [compareExchange, compareExchange, classify_core]
  simp only [arg_core, map_bind, bind_map_left, atomicTarget_core]
  refine bind_congr fun _ => bind_congr fun array => bind_congr fun element =>
    bind_congr fun index => bind_congr fun old => bind_congr fun new => ?_
  rw [map_pure, Plan.of, Plan.of, Plan.core_relyingOn, returnType_core, checkedAccess_core,
    truncated_core, truncated_core]
  refine congrArg (fun d => pure (Plan.relyingOn [] d)) (Eq.symm ?_)
  exact core_bind fun _ => core_bind fun _ => core_bind fun _ => rfl

lemma load_core (s : Site) : load s.core = Plan.core <$> load s := by
  rw [load, load, classify_core, returnType_core]
  simp only [arg_core, map_bind, bind_map_left, atomicTarget_core]
  rfl

lemma store_core (s : Site) : store s.core = Plan.core <$> store s := by
  rw [store, store, classify_core]
  simp only [arg_core, map_bind, bind_map_left, atomicTarget_core]
  refine bind_congr fun _ => bind_congr fun array => bind_congr fun element =>
    bind_congr fun index => bind_congr fun value => ?_
  rw [map_pure, Plan.of, Plan.of, Plan.core_relyingOn, checkedAccess_core, truncated_core]
  refine congrArg (fun d => pure (Plan.relyingOn [] d)) (Eq.symm ?_)
  exact core_bind fun _ => core_bind fun _ => rfl

lemma update_core (operator : AtomicOperator) (s : Site) :
    update operator s.core = Plan.core <$> update operator s := by
  rw [update, update, classify_core]
  simp only [arg_core, map_bind, bind_map_left, atomicTarget_core]
  refine bind_congr fun _ => bind_congr fun array => bind_congr fun element =>
    bind_congr fun index => bind_congr fun value => ?_
  rw [map_pure, Plan.of, Plan.of, Plan.core_relyingOn, returnType_core, checkedAccess_core,
    truncated_core]
  refine congrArg (fun d => pure (Plan.relyingOn [] d)) (Eq.symm ?_)
  exact core_bind fun _ => core_bind fun _ => rfl

lemma fence_core (s : Site) : fence s.core = Plan.core <$> fence s := by
  rw [fence, fence, classify_core, map_bind]
  rfl

end TypedMemory

/-! ## Surroundings -/

namespace ArrayCreation

lemma newDense_core (s : Site) : newDense s.core = Plan.core <$> newDense s := by
  rw [newDense, newDense, classify_core, arg_core, template_core, resultTypes_core,
    TypeSet.singleObject?_core, Decide.need_map]
  simp only [map_bind, bind_map_left]
  rfl

end ArrayCreation

namespace Surroundings

lemma inParallelSection_core (s : Site) :
    inParallelSection s.core = Plan.core <$> inParallelSection s := by
  rw [inParallelSection, inParallelSection, classify_core]
  simp only [map_bind]
  rfl

lemma forkJoinSlice_core (s : Site) : forkJoinSlice s.core = Plan.core <$> forkJoinSlice s := by
  rw [forkJoinSlice, forkJoinSlice, classify_core]
  simp only [map_bind, Decide.core_ite]
  rfl

lemma isConstructing_core (s : Site) :
    isConstructing s.core = Plan.core <$> isConstructing s := by
  rw [isConstructing, isConstructing, classify_core, map_bind, frame_core]
  refine bind_congr fun _ => ?_
  cases s.frame.filter fun f => 0 < f.depth <;> rfl

lemma bailout_core (s : Site) : bailout s.core = Plan.core <$> bailout s := rfl

lemma assertFloat32_core (s : Site) :
    assertFloat32 s.core = Plan.core <$> assertFloat32 s := by
  rw [assertFloat32, assertFloat32, classify_core]
  simp only [arg_core, map_bind, bind_map_left]
  rfl

end Surroundings

/-! ## Bound functions -/

namespace BoundCall

lemma constants_core (cs : List Constant) :
    (constants cs).core (List.map Operand.core) = constants cs := by
  induction cs with
  | nil => rfl
  | cons c cs ih =>
    have rest : ∀ v : Operand,
        (constants cs >>= fun vs => pure (v :: vs)).core (List.map Operand.core) =
          constants cs >>= fun vs => pure (v.core :: vs) := by
      intro v
      have h : (constants cs >>= fun vs => pure (v :: vs)).core (List.map Operand.core) =
          (constants cs).core (List.map Operand.core) >>= fun vs => pure (v.core :: vs) :=
        core_bind fun _ => rfl
      rw [ih] at h
      exact h
    show _ = (Draft.constant c).core Operand.core >>= fun v =>
      constants cs >>= fun vs => pure (v :: vs)
    exact core_bind rest

lemma forward_core (s : Site) (target : FunctionObject) (receiver : Constant)
    (bound : List Constant) :
    forward s.core target receiver bound = (forward s target receiver bound).core id := by
  have call : ∀ (callee receiver : Operand) (bound : List Operand),
      (Draft.effectfulResult (.call target.object.id (UInt32.ofNat (bound ++ s.args).length)
        s.call.constructing) (callee :: receiver :: (bound ++ s.args)) s.returnType
        (some s.call.resultTypes)).core id =
      Draft.effectfulResult (.call target.object.id
        (UInt32.ofNat (bound.map Operand.core ++ s.core.args).length) s.call.constructing)
        (callee.core :: receiver.core :: (bound.map Operand.core ++ s.core.args)) s.core.returnType
        (some s.core.call.resultTypes) := by
    intro callee receiver bound
    rw [Draft.core_effectfulResult, args_core, returnType_core, resultTypes_core,
      ← List.map_append, List.length_map]
    rfl
  have h : (forward s target receiver bound).core id =
      (Draft.constant (.object target.object)).core Operand.core >>= fun callee =>
        (Draft.constant receiver).core Operand.core >>= fun receiver =>
          (constants bound).core (List.map Operand.core) >>= fun bound =>
            Draft.effectfulResult (.call target.object.id
              (UInt32.ofNat (bound ++ s.core.args).length) s.call.constructing)
              (callee :: receiver :: (bound ++ s.core.args)) s.core.returnType
              (some s.core.call.resultTypes) :=
    core_bind fun callee => core_bind fun receiver => core_bind (call callee receiver)
  rw [constants_core] at h
  exact h.symm

lemma specialize_core (f : FunctionObject) (s : Site) :
    specialize f s.core = Plan.core <$> specialize f s := by
  rw [specialize, specialize, classify_core, argc_core, map_bind]
  refine bind_congr fun _ => ?_
  simp only [forward_core]
  split
  · rw [Decide.core_ite]
    simp only [map_bind]
    rfl
  · rfl
  · rfl
  · rfl

end BoundCall

end CallSite
