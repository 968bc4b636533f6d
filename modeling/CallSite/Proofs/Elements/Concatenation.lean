import CallSite.Proofs.Elements.Attempt
import CallSite.Proofs.Elements.Conforming
import CallSite.Proofs.Outcome

/-!
# Concatenated arrays are well typed

Nothing revisits the site of a concatenation once it is compiled, so all that can come out of it has
to be accounted for before: the new array is of the type object of the receiver, and whatever two
arrays are put one behind the other, the result conforms to that type object.

* `Builder.Concatenates` — **a sound concatenation**: what is known of both arrays, what the new
  array conforms to, the nodes, and what is relied on.
* `ArrayCreation.elementsFit_eq_ok` — when the elements of the argument fit.
* `Inliner.attempt_concatenates` — **every concatenation is sound**.
-/

namespace CallSite

open Decide (bind_eq_ok pure_eq_ok require_eq_ok need_eq_ok)

/-! ## Sound concatenations -/

/-- **The arrays `receiver` and `argument` are concatenated soundly**, into a new array of the type
object `key`. -/
structure Builder.Concatenates (b b' : Builder) (env : Engine) (call : Call NodeId)
    (argument : NodeId) (receivers arguments : TypeSet) (key : TypeObject) (t : Template) :
    Prop where
  args : call.args = [argument]
  receiver_observed : b.graph.Observes call.receiver receivers
  argument_observed : b.graph.Observes argument arguments
  /-- The receivers have a single type object, and what it may hold is tracked. -/
  single : receivers.objects = [key]
  tracked : key.unknownProperties = false ∧ key.elementTypes.isSome = true
  /-- Whatever two arrays are concatenated, the result conforms to it. -/
  conforms : ∀ o ∈ receivers.objects, ∀ o' ∈ arguments.objects, ∀ xs ys, o.Conforms xs →
    o'.Conforms ys → key.Conforms (xs ++ ys)
  /-- The new array is a clone of the template of the site, which is of that type object. -/
  template : env.template? call.site .arrayConcat = some t
  template_id : t.typeObject.id = key.id
  becomes : b.Becomes b'
    [⟨.constant t.constant, [], .object, none⟩,
      ⟨.arrayConcat t.typeObject.initialHeap, [call.receiver, argument, ⟨b.graph.size⟩], .object,
        some call.resultTypes⟩]
    ⟨b.graph.size + 1⟩
  /-- The types that the node declares admit it. -/
  admitted : Specimen.object key.id ∈ call.resultTypes
  /-- That elements stay of their types, and arrays dense, is relied on. -/
  elements : ∀ o ∈ receivers.objects ++ arguments.objects,
    .elementTypes o.id ∈ b'.graph.dependencies.items
  receivers_dense : receivers.Lacks (.sparseIndexes ∪ .lengthOverflow) b'.graph.dependencies.items
  arguments_dense : arguments.Lacks (.sparseIndexes ∪ .lengthOverflow) b'.graph.dependencies.items
  packed : key.flags.intersects .nonPacked = false →
    receivers.Lacks .nonPacked b'.graph.dependencies.items ∧
      arguments.Lacks .nonPacked b'.graph.dependencies.items
  prototype : .noIndexedPrototype ∈ b'.graph.dependencies.items

lemma TypeSet.singleObject?_eq_some_iff {s : TypeSet} {o : TypeObject} :
    s.singleObject? = some o ↔ s.anyObject = false ∧ s.objects = [o] := by
  rw [singleObject?]
  split_ifs with hany
  · simp [hany]
  · cases s.objects with
    | nil => simp
    | cons o' os => cases os <;> simp [hany]

namespace ArrayCreation

/-! ## The decision -/

/-- **When the elements of an argument fit**, and what is relied on then. -/
theorem elementsFit_eq_ok {elements : TypeSet} {os : List TypeObject} {facts : List Dependency} :
    elementsFit elements os = .ok facts ↔
      (∀ o ∈ os, o.unknownProperties = false ∧
        ∃ types ∈ o.elementTypes, types.subset elements = true) ∧
      facts = os.map fun o => .elementTypes o.id := by
  induction os generalizing facts with
  | nil =>
    simp only [elementsFit, Except.ok.injEq, List.not_mem_nil, IsEmpty.forall_iff, implies_true,
      List.map_nil, true_and]
    exact eq_comm
  | cons o os ih =>
    simp only [elementsFit, bind_eq_ok, require_eq_ok, pure_eq_ok, ih, List.forall_mem_cons,
      List.map_cons, Option.any_eq_true, Bool.not_eq_true']
    constructor
    · rintro ⟨_, htracked, _, hsubset, _, ⟨hrest, rfl⟩, rfl⟩
      exact ⟨⟨⟨htracked, hsubset⟩, hrest⟩, rfl⟩
    · rintro ⟨⟨⟨htracked, hsubset⟩, hrest⟩, rfl⟩
      exact ⟨(), htracked, (), hsubset, _, ⟨hrest, rfl⟩, rfl⟩

/-- **Where the receiver has no holes**, the argument has none either. -/
theorem lacks_nonPacked {receivers arguments : TypeSet} {key : TypeObject} {facts : List Dependency}
    (hlisted : receivers.anyObject = false) (hsingle : receivers.objects = [key])
    (htracked : key.unknownProperties = false)
    (hholes : ((receivers.hasFlags .nonPacked).value ||
      !(arguments.hasFlags .nonPacked).value) = true)
    (hreceiver : (receivers.hasFlags .nonPacked).dependencies ⊆ facts)
    (hargument : (arguments.hasFlags .nonPacked).dependencies ⊆ facts)
    (hkey : key.flags.intersects .nonPacked = false) :
    receivers.Lacks .nonPacked facts ∧ arguments.Lacks .nonPacked facts := by
  have hreceivers : (receivers.hasFlags .nonPacked).value = false := by
    by_contra hflagged
    obtain ⟨o, ho, hflags⟩ := TypeSet.hasFlags_eq_true hlisted (by simp [hsingle, htracked])
      (eq_true_of_ne_false hflagged)
    rw [hsingle, List.mem_singleton] at ho
    simp [ho, hkey] at hflags
  rw [hreceivers, Bool.false_or, Bool.not_eq_true'] at hholes
  exact ⟨TypeSet.lacks_of_hasFlags hreceivers hreceiver,
    TypeSet.lacks_of_hasFlags hholes hargument⟩

/-- **What is concatenated conforms to the type object of the receiver**: what the argument holds
fits there, holes included. -/
theorem conforms_concat {key o : TypeObject} {elements arguments : TypeSet}
    {facts : List Dependency} {xs ys : List (Option Specimen)}
    (helements : key.elementTypes = some elements)
    (hfits : o.unknownProperties = false ∧ ∃ types ∈ o.elementTypes, types.subset elements = true)
    (hpacked : key.flags.intersects .nonPacked = false → arguments.Lacks .nonPacked facts)
    (ho : o ∈ arguments.objects) (hxs : key.Conforms xs) (hys : o.Conforms ys) :
    key.Conforms (xs ++ ys) := by
  refine TypeObject.conforms_append_iff.2 ⟨hxs, hys.mono hfits.1 (fun types' ht' => ?_) ?_⟩
  · obtain rfl := Option.some.inj (helements.symm.trans ht')
    exact hfits.2
  · intro hflags
    by_contra hkey
    rw [(hpacked (Bool.eq_false_iff.2 hkey)).clear o ho] at hflags
    cases hflags

end ArrayCreation

namespace Inliner

variable {i : Inliner} {stubs : StubStore} {b b' : Builder} {call : Call NodeId}
  {f : FunctionObject} {r : Call Operand} {p : Plan}

/-- **Every concatenation is sound.** -/
theorem attempt_concatenates (h : (i.attempt stubs b call (.function f)).result = .ok .inlined)
    (hf : f.native? = some .arrayConcat) :
    ∃ argument receivers arguments key t,
      b.Concatenates (i.attempt stubs b call (.function f)).builder i.env call argument receivers
        arguments key t := by
  obtain ⟨r, p, hemits⟩ := exists_emits h
  generalize (i.attempt stubs b call (.function f)).builder = b' at hemits ⊢
  have hdecide : ArrayCreation.concat (i.site r) = .ok p := hemits.decide_eq_ok hf rfl
  have hfacts := hemits.orderly.facts_subset hemits.live hemits.resolved.lt_size hemits.emit
  rw [ArrayCreation.concat] at hdecide
  simp only [bind_eq_ok, pure_eq_ok, require_eq_ok, need_eq_ok] at hdecide
  obtain ⟨_, hshape, receiver, hreceiver, x, hx, argument, hargument, prototype, hprototype, key,
    hkey, _, htracked, _, hholes, _, hresult, elements, helements, facts, hfit, t, ht, _,
    htemplate, rfl⟩ := hdecide
  obtain ⟨receivers, hreceivers, -, hdense, rfl⟩ := DenseArray.types_eq_ok.1 hreceiver
  obtain ⟨arguments, harguments, -, hdense', rfl⟩ := DenseArray.types_eq_ok.1 hargument
  obtain ⟨hlisted, hsingle⟩ := TypeSet.singleObject?_eq_some_iff.1 hkey
  obtain ⟨hwithin, rfl⟩ := ArrayCreation.elementsFit_eq_ok.1 hfit
  simp only [Plan.relyingOn, List.append_subset] at hfacts
  obtain ⟨⟨⟨⟨⟨⟨hflags, hflags'⟩, hclear⟩, hholes₁⟩, hholes₂⟩, hkept'⟩, hkept⟩ := hfacts
  rw [Bool.not_eq_true'] at htracked
  have hr : r.args = [x] := (Site.admits_of_classify hshape).args_eq_of_arg rfl hx
  have hx' : x ∈ r.args := by simp [hr]
  have hpacked := ArrayCreation.lacks_nonPacked hlisted hsingle htracked hholes hholes₁ hholes₂
  obtain ⟨context, hbecomes⟩ := hemits.becomes_of_push (v := .added 1) rfl
    (List.mem_cons_of_mem _ (List.mem_cons_of_mem _ (List.mem_cons_self ..))) rfl
  refine ⟨x.ref.resolve b.graph.size context, receivers, arguments, key, t, ?_⟩
  exact {
    args := hemits.resolved.args_eq_singleton hr b.graph.size context
    receiver_observed :=
      (Builder.observes_iff_of_facts? hemits.resolved.facts?_receiver).2 hreceivers
    argument_observed :=
      (Builder.observes_iff_of_facts? (hemits.resolved.facts?_arg _ context hx')).2 harguments
    single := hsingle
    tracked := ⟨htracked, by rw [helements]; rfl⟩
    conforms := by
      intro o ho o' ho' xs ys hxs hys
      rw [hsingle, List.mem_singleton] at ho
      subst ho
      exact ArrayCreation.conforms_concat helements (hwithin o' ho') (fun hkey => (hpacked hkey).2)
        ho' hxs hys
    template := by
      rw [← hemits.resolved.site_eq]
      exact need_eq_ok.1 ht
    template_id := of_decide_eq_true htemplate
    becomes := by
      rw [← hemits.resolved.receiver_eq b.graph.size context, ← hemits.resolved.resultTypes_eq]
      exact hbecomes
    admitted := by
      rw [← hemits.resolved.resultTypes_eq]
      exact TypeSet.object_mem_iff.2 hresult
    elements := by
      intro o ho
      rw [hsingle, List.singleton_append, List.mem_cons] at ho
      rcases ho with rfl | ho
      · exact hkept (List.mem_singleton_self _)
      · exact hkept' (List.mem_map_of_mem ho)
    receivers_dense := TypeSet.lacks_of_hasFlags hdense hflags
    arguments_dense := TypeSet.lacks_of_hasFlags hdense' hflags'
    packed := hpacked
    prototype := by
      obtain ⟨-, rfl⟩ := DenseArray.prototype_eq_ok.1 hprototype
      exact hclear (List.mem_singleton_self _) }

end Inliner

/-- Arrays of integers and strings, as the receiver of the call below and its template are. -/
def Scenario.mixedArray : TypeObject where
  id := ⟨1⟩
  objectClass := .array
  elementTypes := some { primitives := .int32 ∪ .string }

/-- To such an array one is appended that has integers only, or strings only. -/
def Scenario.concatEither : Scenario where
  callee := .function (.ofNative ⟨1⟩ .arrayConcat)
  receiver := some (.typed .object (some (.singleton mixedArray)))
  args := [.typed .object (some { objects :=
    [{ id := ⟨2⟩, objectClass := .array, elementTypes := some (.ofType .int32) },
      { id := ⟨3⟩, objectClass := .array, elementTypes := some (.ofType .string) }] })]
  resultTypes := some (.singleton mixedArray)
  env := { templates := [⟨⟨0⟩, .arrayConcat, ⟨⟨⟨70⟩, .array, none⟩, mixedArray, 0, none⟩⟩] }

/-- What may be appended is relied on for both of its type objects. -/
theorem attempt_concatenates_concatEither :
    (Scenario.concatEither.attempt {} Scenario.concatEither.builder).result = .ok .inlined ∧
    ∀ k : UInt32, k = 1 ∨ k = 2 ∨ k = 3 →
      .elementTypes ⟨k⟩ ∈ (Scenario.concatEither.attempt {}
        Scenario.concatEither.builder).builder.graph.dependencies.items := by
  have hinlined : (Scenario.concatEither.attempt {} Scenario.concatEither.builder).result =
      .ok .inlined := by
    decide +kernel
  obtain ⟨argument, receivers, arguments, key, t, hconcat⟩ :=
    @Inliner.attempt_concatenates _ _ _ _ _ hinlined rfl
  obtain ⟨n, hn, hreceivers⟩ := hconcat.receiver_observed
  obtain rfl := Option.some.inj hn
  obtain rfl := Option.some.inj hreceivers
  obtain rfl : argument = ⟨2⟩ := (List.cons.inj hconcat.args).1.symm
  obtain ⟨m, hm, harguments⟩ := hconcat.argument_observed
  obtain rfl := Option.some.inj hm
  obtain rfl := Option.some.inj harguments
  refine ⟨hinlined, ?_⟩
  rintro _ (rfl | rfl | rfl)
  · exact hconcat.elements _ (.head _)
  · exact hconcat.elements _ (.tail _ (.head _))
  · exact hconcat.elements _ (.tail _ (.tail _ (.head _)))

end CallSite
