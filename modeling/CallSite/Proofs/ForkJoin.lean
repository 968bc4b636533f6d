import CallSite.Proofs.Elsewhere
import CallSite.Proofs.Guards

/-!
# The fork-join context is shared

All parallel sections of a compilation work on one context, whichever call is the first to ask for
it.  The builder remembers its handle.  No plan adds a context of its own, and the two operations
that work on it are given what is remembered.

* `Op.needsContext` — the operations that work on the context.
* `Plan.KeepsContext`, `Inliner.Origin.keepsContext` — in every plan they have it as first input.
* `Builder.SharesContext` — **there is one context at most, and it is the one worked on**.
* `Compilation.sharesContext_run` — so it is after every run.
-/

namespace CallSite

/-- The operation works on the fork-join context. -/
def Op.needsContext : Op → Bool
  | .forkJoinGetSlice | .newDenseArray => true
  | _ => false

/-! ## Plans -/

/-- **What works on the fork-join context has it as first input.** -/
def Plan.KeepsContext (p : Plan) : Prop :=
  ∀ op inputs ty types, .add op inputs ty types ∈ p.steps → op.needsContext = true →
    p.usesContext = true ∧ inputs.head? = some .context

/-- A plan without such operations keeps the context. -/
lemma Plan.keepsContext_of_emits {p : Plan} (h : p.Emits (Op.needsContext · = false)) :
    p.KeepsContext := by
  intro op inputs ty types hmem hneeds
  have hop : op ∈ p.ops := List.mem_filterMap.2 ⟨_, hmem, rfl⟩
  rw [h op hop] at hneeds
  cases hneeds

lemma Surroundings.forkJoinSlice_keepsContext (s : Site) :
    (forkJoinSlice s).Yields Plan.KeepsContext := by
  simp only [forkJoinSlice, Decide.yields_bind, Decide.yields_ite, Decide.yields_pure]
  refine fun _ _ _ _ => ⟨fun _ => Decide.yields_decline _, fun _ op inputs ty types hmem _ => ?_⟩
  rcases List.mem_cons.1 hmem with hadd | hmem
  · cases hadd
    exact ⟨rfl, rfl⟩
  · cases List.mem_singleton.1 hmem

lemma ArrayCreation.newDense_keepsContext (s : Site) :
    (newDense s).Yields Plan.KeepsContext := by
  simp only [newDense, Decide.yields_bind, Decide.yields_pure]
  intro _ _ _ _ _ _ t _ _ _ length _ op inputs ty types hmem hneeds
  rcases List.mem_cons.1 hmem with hconstant | hmem
  · cases hconstant
    cases hneeds
  rcases List.mem_cons.1 hmem with hadd | hmem
  · cases hadd
    exact ⟨rfl, rfl⟩
  rcases List.mem_cons.1 hmem with hpush | hmem
  · cases hpush
  · cases List.mem_singleton.1 hmem

lemma Native.eq_of_mayEmit_forkJoinGetSlice {n : Native}
    (h : n.mayEmit .forkJoinGetSlice = true) : n = forkJoinGetSlice := by
  cases n <;> first | rfl | cases h

lemma Native.eq_of_mayEmit_newDenseArray {n : Native} (h : n.mayEmit .newDenseArray = true) :
    n = newDenseArray := by
  cases n <;> first | rfl | cases h

/-- **In every plan what works on the fork-join context has it as first input.** -/
theorem Inliner.Origin.keepsContext {s : Site} {p : Plan} {callee : Callee}
    (h : Origin s p callee) : p.KeepsContext := by
  rcases h.emits_or_exists_native (Op.needsContext · = false) (fun _ => rfl) (fun _ => rfl) with
    hquiet | ⟨f, native, specializer, op, hfind, hdecide, hemits, hneeds⟩
  · exact Plan.keepsContext_of_emits hquiet
  cases op with
  | forkJoinGetSlice =>
    obtain rfl := Native.eq_of_mayEmit_forkJoinGetSlice hemits
    rw [Registry.find?_call hfind rfl] at hfind
    cases hfind
    exact Surroundings.forkJoinSlice_keepsContext s p hdecide
  | newDenseArray =>
    obtain rfl := Native.eq_of_mayEmit_newDenseArray hemits
    rw [Registry.find?_call hfind rfl] at hfind
    cases hfind
    exact ArrayCreation.newDense_keepsContext s p hdecide
  | _ => exact absurd rfl hneeds

/-! ## Graphs -/

/-- **There is one fork-join context at most**, which is remembered, and what works on a context has
it as first input. -/
structure Builder.SharesContext (b : Builder) : Prop where
  unique : ∀ k bp, b.graph.blueprints[k]? = some bp → bp.op = .forkJoinContext →
    b.context = some ⟨k⟩
  first : ∀ bp ∈ b.graph.blueprints, bp.op.needsContext = true →
    ∃ c ∈ b.context, bp.inputs.head? = some c

namespace Builder.SharesContext

variable {b b' : Builder}

lemma new : SharesContext {} where
  unique _ _ h := absurd h (by rw [Graph.getElem?_blueprints]; exact nofun)
  first _ h := absurd h List.not_mem_nil

/-- A node that is a fork-join context is the one that is remembered. -/
lemma context_eq (h : b.SharesContext) {id : NodeId} {n : Node} (hn : b.graph.node? id = some n)
    (hop : n.op = .forkJoinContext) : b.context = some id := by
  refine h.unique id.index n.blueprint ?_ hop
  rw [Graph.getElem?_blueprints]
  exact congrArg (Option.map Node.blueprint) hn

/-- A node that works on a fork-join context works on the one that is remembered. -/
lemma exists_head (h : b.SharesContext) {id : NodeId} {n : Node}
    (hn : b.graph.node? id = some n) (hneeds : n.op.needsContext = true) :
    ∃ c ∈ b.context, n.inputs.head? = some c := by
  refine h.first n.blueprint (List.mem_of_getElem? (i := id.index) ?_) hneeds
  rw [Graph.getElem?_blueprints]
  exact congrArg (Option.map Node.blueprint) hn

/-- **Nodes are added** that are no second context and work on the one that is remembered. -/
theorem append (h : b.SharesContext) {added : List Blueprint}
    (hadded : b'.graph.blueprints = b.graph.blueprints ++ added)
    (hcontext : ∀ id ∈ b.context, b'.context = some id)
    (hunique : ∀ k bp, added[k]? = some bp → bp.op = .forkJoinContext →
      b'.context = some ⟨b.graph.size + k⟩)
    (hfirst : ∀ bp ∈ added, bp.op.needsContext = true →
      ∃ c ∈ b'.context, bp.inputs.head? = some c) : b'.SharesContext := by
  constructor
  · intro k bp hk hop
    rw [hadded] at hk
    by_cases hlt : k < b.graph.size
    · rw [List.getElem?_append_left (by simpa using hlt)] at hk
      exact hcontext _ (h.unique k bp hk hop)
    · obtain ⟨j, rfl⟩ := Nat.exists_eq_add_of_le (Nat.le_of_not_lt hlt)
      rw [List.getElem?_append_right (by simp), Graph.length_blueprints,
        Nat.add_sub_cancel_left] at hk
      exact hunique j bp hk hop
  · intro bp hbp hneeds
    rw [hadded] at hbp
    rcases List.mem_append.1 hbp with hold | hnew
    · obtain ⟨c, hc, hhead⟩ := h.first bp hold hneeds
      exact ⟨c, hcontext c hc, hhead⟩
    · exact hfirst bp hnew hneeds

/-- A node is added that has nothing to do with contexts. -/
lemma add (h : b.SharesContext) {op : Op} (hop : op ≠ .forkJoinContext)
    (hneeds : op.needsContext = false) (inputs : List NodeId) (ty : ValueType)
    (types : Option TypeSet) :
    ({ b with graph := b.graph.add op inputs ty types } : Builder).SharesContext := by
  refine h.append (b.graph.blueprints_add op inputs ty types) (fun _ hid => hid) ?_ ?_
  · intro k bp hk hbp
    obtain rfl := List.mem_singleton.1 (List.mem_of_getElem? hk)
    exact absurd hbp hop
  · intro bp hbp hneeds'
    obtain rfl := List.mem_singleton.1 hbp
    rw [hneeds] at hneeds'
    cases hneeds'

/-- **A call is replaced** by nodes that share the context. -/
theorem emits (h : b.SharesContext) {i : Inliner} {call : Call NodeId} {callee : Callee}
    {r : Call Operand} {p : Plan} (he : i.Emits b call callee r p b') : b'.SharesContext := by
  have hops := he.resolved.lt_size
  have hcontext := he.orderly.context_emit he.live hops he.emit
  refine h.append (Plan.emit_blueprints he.live hops he.emit)
    (he.orderly.extends he.live hops he.emit).context ?_ ?_
  · intro k bp hk hop
    by_cases hlt : k < (p.contextBlueprints b).length
    · rw [List.getElem?_append_left hlt, Plan.contextBlueprints] at hk
      split_ifs at hk with hmissing
      · obtain ⟨huses, hnone⟩ := hmissing
        rw [hcontext, huses, if_pos rfl, (Plan.opened_of_no_context huses hnone).1]
        cases k with
        | zero => rfl
        | succ k => cases hk
      · cases hk
    · rw [List.getElem?_append_right (Nat.le_of_not_lt hlt)] at hk
      obtain ⟨step, hstep, hbp⟩ := List.mem_filterMap.1 (List.mem_of_getElem? hk)
      rcases Step.op_of_blueprint? hbp with ⟨-, hguard⟩ | hadds
      · rw [hop] at hguard
        cases hguard
      · have hemits := he.origin.emits _ (List.mem_filterMap.2 ⟨step, hstep, hadds⟩)
        rw [hop, Callee.mayEmit_forkJoinContext] at hemits
        cases hemits
  · intro bp hbp hneeds
    rcases List.mem_append.1 hbp with hbp | hbp
    · rw [Plan.contextBlueprints] at hbp
      split_ifs at hbp
      · rw [List.mem_singleton.1 hbp] at hneeds
        cases hneeds
      · cases hbp
    · obtain ⟨step, hstep, hbp⟩ := List.mem_filterMap.1 hbp
      cases step with
      | add op inputs ty types =>
        obtain rfl := Option.some.inj hbp
        obtain ⟨huses, hhead⟩ := he.origin.keepsContext op inputs ty types hstep hneeds
        rw [hcontext, huses, if_pos rfl]
        exact ⟨_, rfl, by rw [List.head?_map, hhead]; rfl⟩
      | guardTop v observed =>
        obtain rfl := Option.some.inj hbp
        cases hneeds
      | _ => cases hbp

/-- An attempt shares the context, however it ends. -/
lemma attempt (h : b.SharesContext) (i : Inliner) (stubs : StubStore) (call : Call NodeId)
    (callee : Callee) : (i.attempt stubs b call callee).builder.SharesContext := by
  have hends := i.attempt_ends stubs b call callee
  generalize i.attempt stubs b call callee = a at hends ⊢
  cases hends with
  | inlined hlive hr hdecide horderly hstub hemit =>
    exact h.emits ⟨hlive, Inliner.resolved_of_eq_ok hr, horderly,
      Inliner.origin_of_decide hdecide, hemit⟩
  | _ => exact h

end Builder.SharesContext

/-- **After every run the context is shared.** -/
theorem Compilation.sharesContext_run {c : Compilation} (h : c.builder.SharesContext)
    (actions : List Action) : (c.run actions).builder.SharesContext := by
  refine run_induction (P := fun c => c.builder.SharesContext) h actions fun c a _ hc => ?_
  cases a with
  | addParameter index ty types =>
    exact hc.add (show Op.parameter index ≠ .forkJoinContext by nofun) rfl ..
  | addConstant value =>
    exact hc.add (show Op.constant value ≠ .forkJoinContext by nofun) rfl ..
  | attempt i call callee => exact hc.attempt i c.stubs call callee
  | _ => exact ⟨hc.unique, hc.first⟩

end CallSite
