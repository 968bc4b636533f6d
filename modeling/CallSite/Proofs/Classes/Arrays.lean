import CallSite.Proofs.Classes.Basic
import CallSite.Proofs.Evolution.Arrays

/-!
# Array methods and regular expressions work on what they presume

Receiver and argument of the array methods have passed the same test, `DenseArray.types`; what else
the plans add, conversions and barriers, presumes nothing.
-/

namespace CallSite

open Draft (Appends appends_pure appends_add writes_bind writes_add writes_push writes_resumeAfter
  writes_guardTop writes_result writes_pushConstant writes_effectfulResult)
open Plan (lawful_of_writes)
open Sketch (Suited suited_of_quiet suited_of_head)

variable {s : Site} {before : List Sketch}

/-- **An operand that was found to be a dense array** is an array for the operations. -/
theorem DenseArray.suits_of_types {x : Operand} {flags : ObjectFlags} {a : Answer TypeSet} {op : Op}
    (hty : x.ty = .object) (ha : types x flags = .ok a)
    (hop : ∀ t : TypeSet, t.ObjectsAre (· = .array) → op.Presumes t) : x.Suits op := by
  obtain ⟨t, ht, hclass, -, -⟩ := types_eq_ok.1 ha
  exact ⟨hty, t, ht, hop t (TypeSet.knownClass?_eq_some_iff.1 hclass)⟩

/-! ## Updates -/

namespace ArrayUpdate

/-- The value as it is stored, under a law that admits conversions. -/
lemma stored_appends {law : List Sketch → Sketch → Prop}
    (hlaw : ∀ before inputs ty types, law before ⟨.toDouble, inputs, ty, types⟩)
    (conversion : DoubleConversion) (value : Operand) :
    (stored conversion value).Appends law before := by
  rw [stored]
  split_ifs
  · exact appends_add (hlaw ..)
  · exact appends_pure value

/-- The barrier of a store, under a law that admits barriers. -/
lemma postBarrier_appends {law : List Sketch → Sketch → Prop}
    (hlaw : ∀ before inputs ty types, law before ⟨.postWriteBarrier, inputs, ty, types⟩)
    (object value : Operand) : (postBarrier object value).Appends law before := by
  rw [postBarrier]
  split_ifs
  · exact (appends_add (hlaw ..)).then fun _ _ hafter => Draft.writes_pure (a := ()) hafter
  · exact appends_pure ()

/-- The view through which elements are written. -/
lemma writes_copy {holds : Operand → List Sketch → Prop} (x : Operand)
    (h : ∀ v after, v.ref.StandsFor after x.ref → holds v after) :
    (Draft.add .maybeCopyElementsForWrite [x] .object).Writes (Suited s) before holds :=
  writes_add (suited_of_quiet rfl) (h _ _ (Ref.standsFor_view rfl rfl))

lemma push_suited (s : Site) : (push s).Yields (Plan.Lawful (Suited s)) := by
  simp only [push, Decide.yields_bind, Decide.yields_pure]
  intro _ hclassify array harray value _ _ _ _ _ _ _
  have hreceiver := (Site.admits_of_classify hclassify).receiver_ty rfl
  refine lawful_of_writes rfl ?_
  refine (stored_appends (fun _ _ _ _ => suited_of_quiet rfl) _ value).then fun stored _ _ => writes_bind ?_
  refine writes_copy s.receiver fun object _ hobject => ?_
  refine (postBarrier_appends (fun _ _ _ _ => suited_of_quiet rfl) object stored).then
    fun _ _ hafter => ?_
  refine writes_effectfulResult ?_ trivial
  exact suited_of_head rfl rfl s.receiver_mem_operands (hobject.mono hafter)
    (DenseArray.suits_of_types hreceiver harray fun _ h => h)

lemma remove_suited (side : RemovalSide) (s : Site) :
    (remove side s).Yields (Plan.Lawful (Suited s)) := by
  simp only [remove, Decide.yields_bind, Decide.yields_pure]
  intro _ hclassify array harray _ _
  have hreceiver := (Site.admits_of_classify hclassify).receiver_ty rfl
  refine lawful_of_writes rfl ?_
  refine writes_bind (writes_copy s.receiver fun object _ hobject => ?_)
  refine writes_bind (writes_add ?_ (writes_bind (writes_push (writes_bind ?_))))
  · exact suited_of_head rfl rfl s.receiver_mem_operands hobject
      (DenseArray.suits_of_types hreceiver harray fun _ h => h)
  · exact writes_resumeAfter
      (writes_guardTop (suited_of_quiet rfl) (fun _ => trivial) fun _ => trivial)

lemma splice_suited (s : Site) : (splice s).Yields (Plan.Lawful (Suited s)) := by
  simp only [splice, Decide.yields_bind, Decide.yields_pure]
  intro _ hclassify _ _ array harray _ _ start _ count _
  have hreceiver := (Site.admits_of_classify hclassify).receiver_ty rfl
  refine lawful_of_writes rfl ?_
  refine writes_bind (writes_add ?_ (writes_bind ?_))
  · exact suited_of_head rfl rfl s.receiver_mem_operands (.inl rfl)
      (DenseArray.suits_of_types hreceiver harray fun _ h => h)
  · exact writes_pushConstant (suited_of_quiet rfl) (writes_resumeAfter trivial)

lemma join_suited (s : Site) : (join s).Yields (Plan.Lawful (Suited s)) := by
  simp only [join, Decide.yields_bind, Decide.yields_pure]
  intro _ hclassify array harray separator _
  have hreceiver := (Site.admits_of_classify hclassify).receiver_ty rfl
  refine lawful_of_writes rfl (writes_effectfulResult ?_ trivial)
  exact suited_of_head rfl rfl s.receiver_mem_operands (.inl rfl)
    (DenseArray.suits_of_types hreceiver harray fun _ h => h)

end ArrayUpdate

/-- **Both arrays that are concatenated are arrays.** -/
theorem ArrayCreation.concat_suited (s : Site) :
    (ArrayCreation.concat s).Yields (Plan.Lawful (Suited s)) := by
  simp only [ArrayCreation.concat, Decide.yields_bind, Decide.yields_pure]
  intro _ hclassify receiver hreceiver other hother argument hargument
  intros
  have hadmits := Site.admits_of_classify hclassify
  refine lawful_of_writes rfl ?_
  refine writes_bind (writes_add (suited_of_quiet rfl) (writes_effectfulResult ?_ trivial))
  intro position hlt
  have hcases : position = 0 ∨ position = 1 := by
    have hlt : position < 2 := hlt
    omega
  rcases hcases with rfl | rfl
  · exact ⟨_, s.receiver, rfl, s.receiver_mem_operands, .inl rfl,
      DenseArray.suits_of_types (hadmits.receiver_ty rfl) hreceiver fun _ h => h⟩
  · exact ⟨_, other, rfl, Site.mem_operands_of_mem_args (Site.mem_args_of_arg hother), .inl rfl,
      DenseArray.suits_of_types (hadmits.arg_ty rfl hother) hargument fun _ h => h⟩

/-! ## Regular expressions -/

namespace RegExps

lemma test_suited (s : Site) : (test s).Yields (Plan.Lawful (Suited s)) := by
  simp only [test, Decide.yields_bind, Decide.yields_ite, Decide.yields_pure]
  refine fun _ hclassify => ⟨?_, fun _ _ hregExp input _ => ?_⟩
  · intro _ _ hdecline
    cases hdecline
  · have hreceiver := (Site.admits_of_classify hclassify).receiver_ty rfl
    have hclass := of_decide_eq_true (Decide.require_eq_ok.1 hregExp)
    refine lawful_of_writes rfl (writes_effectfulResult ?_ trivial)
    exact suited_of_head rfl rfl s.receiver_mem_operands (.inl rfl)
      (Facts.suits_of_knownClass hreceiver hclass fun _ h => h)

lemma exec_suited (s : Site) : (exec s).Yields (Plan.Lawful (Suited s)) := by
  rw [exec]
  split_ifs
  · simp only [Decide.yields_bind, Decide.yields_pure]
    intro _ hclassify _ hregExp input _
    have hreceiver := (Site.admits_of_classify hclassify).receiver_ty rfl
    have hclass := of_decide_eq_true (Decide.require_eq_ok.1 hregExp)
    refine lawful_of_writes rfl ?_
    refine writes_bind (writes_add ?_ (writes_bind (writes_push (writes_bind ?_))))
    · exact suited_of_head rfl rfl s.receiver_mem_operands (.inl rfl)
        (Facts.suits_of_knownClass hreceiver hclass fun _ h => h)
    · exact writes_resumeAfter
        (writes_guardTop (suited_of_quiet rfl) (fun _ => trivial) fun _ => trivial)
  · exact test_suited s

end RegExps

end CallSite
