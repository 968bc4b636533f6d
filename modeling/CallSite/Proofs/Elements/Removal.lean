import CallSite.Proofs.Elements.Attempt
import CallSite.Proofs.Elements.Conforming
import CallSite.Proofs.Outcome

/-!
# Removed elements are of observed types

What is removed from an array is the result of the call, and code that follows relies on its types.
So either the element is guarded by the types that were observed, or none of the arrays can hold
anything else.  Whether holes are looked for, and whether undefined may come out, are answered apart
from that, and are right for the same node.

* `Native.removal` — the native that removes the last or the first element.
* `Builder.Removes` — **a sound removal**: the nodes, what is guarded, and what is relied on.
* `Inliner.attempt_removes` — **every removal is sound**.
-/

namespace CallSite

open Decide (bind_eq_ok pure_eq_ok)

/-- The native that removes the last or the first element. -/
def Native.removal : RemovalSide → Native
  | .pop => .arrayPop
  | .shift => .arrayShift

/-- The nodes that remove an element: the copy that is written to, and the element. -/
def removalNodes (first : Nat) (receiver : NodeId) (op : Op) (ty : ValueType) : List Blueprint :=
  [⟨.maybeCopyElementsForWrite, [receiver], .object, none⟩, ⟨op, [⟨first⟩], ty, none⟩]

/-- **The element is removed soundly**: it is guarded, or it can only be of the observed types. -/
structure Builder.Removes (b b' : Builder) (call : Call NodeId) (side : RemovalSide)
    (receivers : TypeSet) (holes undefined : Bool) : Prop where
  observed : b.graph.Observes call.receiver receivers
  /-- A guard over the element is left, of which nothing is assumed, or the element itself, of which
  the observed types are assumed; then the arrays hold nothing else. -/
  left :
    b.Becomes b' (removalNodes b.graph.size call.receiver (.arrayRemove side holes undefined)
        .boxed ++ [⟨.typeBarrier .typeSet, [⟨b.graph.size + 1⟩], call.returnType,
          some call.resultTypes⟩]) ⟨b.graph.size + 2⟩ ∨
    b.Becomes b' (removalNodes b.graph.size call.receiver (.arrayRemove side holes undefined)
        call.returnType) ⟨b.graph.size + 1⟩ ∧
      receivers.HoldsWithin call.resultTypes b'.graph.dependencies.items
  /-- Holes are not looked for only where there are none, and that there are none is relied on. -/
  unchecked : holes = false → receivers.Lacks .nonPacked b'.graph.dependencies.items
  /-- Undefined may come out iff it was observed. -/
  undefined_iff : undefined = true ↔ ∃ v ∈ call.resultTypes, v.kind = some .undefined
  dense : receivers.Lacks (.sparseIndexes ∪ .lengthOverflow ∪ .iterated)
    b'.graph.dependencies.items
  prototype : .noIndexedPrototype ∈ b'.graph.dependencies.items

namespace Inliner

variable {i : Inliner} {stubs : StubStore} {b b' : Builder} {call : Call NodeId}
  {f : FunctionObject} {r : Call Operand} {p : Plan} {side : RemovalSide}

/-- **Every removal is sound.** -/
theorem attempt_removes (h : (i.attempt stubs b call (.function f)).result = .ok .inlined)
    (hf : f.native? = some (.removal side)) :
    ∃ receivers holes undefined,
      b.Removes (i.attempt stubs b call (.function f)).builder call side receivers holes
        undefined := by
  obtain ⟨r, p, hemits⟩ := exists_emits h
  generalize (i.attempt stubs b call (.function f)).builder = b' at hemits ⊢
  have hdecide : ArrayUpdate.remove side (i.site r) = .ok p :=
    hemits.decide_eq_ok (q := .remove side) hf (by cases side <;> rfl)
  have hfacts := hemits.orderly.facts_subset hemits.live hemits.resolved.lt_size hemits.emit
  rw [ArrayUpdate.remove] at hdecide
  simp only [bind_eq_ok, pure_eq_ok] at hdecide
  obtain ⟨_, -, array, harray, prototype, hprototype, rfl⟩ := hdecide
  obtain ⟨receivers, hreceivers, -, hdense, rfl⟩ := DenseArray.types_eq_ok.1 harray
  obtain ⟨-, rfl⟩ := DenseArray.prototype_eq_ok.1 hprototype
  simp only [Plan.relyingOn, List.append_subset] at hfacts
  obtain ⟨⟨⟨hflags, hclear⟩, hpacked⟩, hkept⟩ := hfacts
  have htypes : (i.site r).call.resultTypes = call.resultTypes := hemits.resolved.resultTypes_eq
  have hreturn : (i.site r).returnType = call.returnType := congrArg TypeSet.knownType htypes
  rw [htypes] at hkept hemits
  refine ⟨receivers, (receivers.hasFlags .nonPacked).value,
    call.resultTypes.hasPrimitives .undefined, ?_⟩
  exact {
    observed := (Builder.observes_iff_of_facts? hemits.resolved.facts?_receiver).2 hreceivers
    left := by
      cases hbarrier : (receivers.readBarrier call.resultTypes).value with
      | noBarrier =>
        rw [hbarrier] at hemits
        obtain ⟨context, hbecomes⟩ :=
          hemits.becomes_of_push (v := .added 1) rfl (.tail _ (.tail _ (.head _))) rfl
        refine .inr ⟨?_, TypeSet.holdsWithin_of_readBarrier hbarrier hkept⟩
        rw [← hemits.resolved.receiver_eq b.graph.size context, ← hreturn]
        exact hbecomes
      | typeSet =>
        rw [hbarrier] at hemits
        obtain ⟨context, hbecomes⟩ := hemits.becomes_of_guard rfl rfl
        refine .inl ?_
        rw [← hemits.resolved.receiver_eq b.graph.size context]
        exact hbecomes
    unchecked := fun hholes => TypeSet.lacks_of_hasFlags hholes hpacked
    undefined_iff := TypeSet.hasPrimitives_undefined_iff
    dense := TypeSet.lacks_of_hasFlags hdense hflags
    prototype := hclear (List.mem_singleton_self _) }

end Inliner

/-- The last element of an array of integers, or of an array of strings that may have holes. -/
def Scenario.popEither : Scenario where
  callee := .function (.ofNative ⟨1⟩ .arrayPop)
  receiver := some (.typed .object (some { objects :=
    [{ id := ⟨1⟩, objectClass := .array, elementTypes := some (.ofType .int32) },
      { id := ⟨2⟩, objectClass := .array, flags := .nonPacked,
        elementTypes := some (.ofType .string) }] }))
  resultTypes := some { primitives := .int32 ∪ .string }

/-- Either is observed, so there is no guard; but holes are looked for. -/
theorem attempt_removes_popEither :
    (Scenario.popEither.attempt {} Scenario.popEither.builder).result = .ok .inlined ∧
    ∃ receivers undefined, Scenario.popEither.builder.Removes
        (Scenario.popEither.attempt {} Scenario.popEither.builder).builder Scenario.popEither.call
        .pop receivers true undefined ∧
      ∀ o ∈ receivers.objects, ∀ xs, o.Conforms xs → ∀ v : Specimen, some v ∈ xs →
        v ∈ Scenario.popEither.call.resultTypes := by
  have hinlined : (Scenario.popEither.attempt {} Scenario.popEither.builder).result =
      .ok .inlined := by
    decide +kernel
  have hstack : (Scenario.popEither.attempt {} Scenario.popEither.builder).builder.stack =
      [⟨3⟩] := by
    decide +kernel
  obtain ⟨receivers, holes, undefined, hremoves⟩ :=
    @Inliner.attempt_removes _ _ _ _ _ .pop hinlined rfl
  have hholes : holes = true := by
    by_contra hpacked
    obtain ⟨n, hn, hreceivers⟩ := hremoves.observed
    obtain rfl := Option.some.inj hn
    obtain rfl := Option.some.inj hreceivers
    have hclear := (hremoves.unchecked (Bool.eq_false_iff.2 hpacked)).clear _ (.tail _ (.head _))
    cases hclear
  subst hholes
  refine ⟨hinlined, receivers, undefined, hremoves, ?_⟩
  rcases hremoves.left with hguarded | ⟨-, hwithin⟩
  · exact absurd (hguarded.stack.symm.trans hstack) (by decide)
  · exact fun o ho xs hxs v hv => hwithin.mem_of_conforms ho hxs hv

end CallSite
