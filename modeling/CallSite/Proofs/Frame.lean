import CallSite.Proofs.Reachable

/-!
# What a specialized call changes

Whatever a call is specialized to, the builder changes in the same few ways.  The bound on the
inputs of new nodes is the only part that needs a reachable state, since a fork-join context is
remembered by its handle alone.

* `Builder.Specializes` — **the ways**: one result on the stack, one more dead site, marks on the
  operands, and nodes, resume points and facts at the end of what was there.
* `Inliner.attempt_specializes` — an attempt that replaces the call changes the builder in these
  ways only.
-/

namespace CallSite

/-- **What specializing the call makes of a builder.** -/
structure Builder.Specializes (b : Builder) (call : Call NodeId) (b' : Builder) : Prop where
  /-- The stack has one value more, which is in the graph. -/
  stack : ∃ v, b'.stack = b.stack ++ [v] ∧ v.index < b'.graph.size
  locals : b'.locals = b.locals
  pc : b'.pc = b.pc
  deadSites : b'.deadSites = b.deadSites ++ [call.site]
  /-- A node that was there changes by its mark alone, which is set if it is an operand. -/
  old : ∀ (id : NodeId) (n : Node), b.graph.node? id = some n → b'.graph.node? id =
    some { n with implicitlyUsed := n.implicitlyUsed || decide (id ∈ call.operands) }
  /-- The new nodes stand at the end of the block, in order. -/
  block : b.graph.size ≤ b'.graph.size ∧ b'.graph.block.toList = b.graph.block.toList ++
    (List.range' b.graph.size (b'.graph.size - b.graph.size)).map NodeId.mk
  /-- A new node is behind its own handle, and its inputs are before it. -/
  new : ∀ (id : NodeId) (n : Node), b.graph.size ≤ id.index → b'.graph.node? id = some n →
    n.id = id ∧ ∀ i ∈ n.inputs, i.index < id.index
  resumePoints : b.graph.resumePoints.toList <+: b'.graph.resumePoints.toList
  dependencies : b.graph.dependencies.items <+: b'.graph.dependencies.items

/-- Facts are committed behind those that were there. -/
lemma Dependencies.items_start_extend (ds : Dependencies) (new : List Dependency) :
    ds.items <+: (ds.extend new).items := by
  induction new generalizing ds with
  | nil => exact List.prefix_refl _
  | cons d new ih => exact (ds.items_start_push d).trans (ih (ds.push d))

/-! ## Where values stand -/

/-- The fork-join context of a plan is in the graph before its first step. -/
lemma Plan.context_lt {b : Builder} (h : b.ContextPlaced) {p : Plan} (call : Call NodeId)
    (hp : p.usesContext = true) :
    (p.opened b call).1.index < (p.opened b call).2.builder.graph.size := by
  have hsize : (b.committed call p.facts).builder.graph.size = b.graph.size :=
    b.graph.size_marked call.operands
  rw [opened, Emission.withContext, hp, if_pos rfl, Emission.forkJoinContext]
  split
  · next id hid =>
    rw [hsize]
    exact h id hid
  · show (b.committed call p.facts).builder.graph.size <
      ((b.committed call p.facts).builder.graph.add _ _ _ _).size
    rw [Graph.size_add]
    exact Nat.lt_succ_self _

/-- **What a plan can mention** is the fork-join context that it asks for, an operand of the call,
or a node that it has added. -/
theorem Ref.Available.cases {b : Builder} {call : Call NodeId} {r : Call Operand} {i : Inliner}
    {usesContext : Bool} {v : Ref} {k : Nat}
    (h : v.Available ((i.site r).scope usesContext) k) (hr : Inliner.Resolved b call r) :
    (v = .context ∧ usesContext = true) ∨
    (∃ id : NodeId, v = .node id ∧ id.index < b.graph.size) ∨ ∃ j, j < k ∧ v = .added j := by
  rcases h with h | h
  · rcases List.mem_append.1 h with h | h
    · split_ifs at h with hp
      · exact .inl ⟨List.mem_singleton.1 h, hp⟩
      · cases h
    · have hv : ∃ x ∈ r.operands, x.ref = v := by
        rcases List.mem_cons.1 h with rfl | h
        · exact ⟨r.receiver, by simp [Call.operands], rfl⟩
        · obtain ⟨x, hx, rfl⟩ := List.mem_map.1 h
          exact ⟨x, List.mem_cons_of_mem _ (List.mem_cons_of_mem _ hx), rfl⟩
      obtain ⟨x, hx, rfl⟩ := hv
      exact .inr (.inl (hr.exists_node hx))
  · exact .inr (.inr h)

/-- **What is available stands before the next node.** -/
theorem Ref.Available.resolve_lt {b : Builder} {call : Call NodeId} {r : Call Operand}
    {i : Inliner} {p : Plan} {v : Ref} {k : Nat}
    (h : v.Available ((i.site r).scope p.usesContext) k) (hb : b.ContextPlaced)
    (hr : Inliner.Resolved b call r) :
    (v.resolve (p.opened b call).2.builder.graph.size (p.opened b call).1).index <
      (p.opened b call).2.builder.graph.size + k := by
  have hle := (Emission.opens_opened p b call).size_le
  rcases h.cases hr with ⟨rfl, hp⟩ | ⟨id, rfl, hlt⟩ | ⟨j, hj, rfl⟩
  · have hcontext := Plan.context_lt hb call hp
    show (p.opened b call).1.index < _
    omega
  · show id.index < _
    omega
  · show _ + j < _
    omega

/-! ## The whole change -/

/-- A tracked emission of a plan specializes the call. -/
lemma Emission.Tracks.specializes {b : Builder} {call : Call NodeId} {r : Call Operand}
    {i : Inliner} {p : Plan} {e : Emission} {σ : Progress}
    (h : Tracks ((i.site r).scope p.usesContext) (p.opened b call).1 (p.opened b call).2 e σ)
    (hσ : σ.Finished) (hb : b.ContextPlaced) (hr : Inliner.Resolved b call r) :
    b.Specializes call e.builder := by
  have hopens := opens_opened p b call
  have hle := hopens.size_le
  have hsize := h.size
  generalize hbase : (p.opened b call).2.builder.graph.size = base at hsize hle
  refine ⟨?_, ?_, ?_, ?_, ?_, ⟨?_, ?_⟩, ?_, ?_, ?_⟩
  · obtain ⟨v, hv⟩ := Option.isSome_iff_exists.1 hσ.1
    refine ⟨v.resolve base (p.opened b call).1, ?_, ?_⟩
    · rw [h.stack, hopens.stack, hv, hbase]
      rfl
    · rw [hsize, ← hbase]
      exact (h.result v hv).resolve_lt hb hr
  · exact (congrArg Fixed.locals h.fixed).trans hopens.locals
  · exact (congrArg Fixed.pc h.fixed).trans hopens.pc
  · exact (congrArg Fixed.deadSites h.fixed).trans hopens.deadSites
  · intro id n hn
    have hlt := Graph.lt_size_of_node? hn
    rw [h.old id (by omega), hopens.old id hlt, hn]
    rfl
  · omega
  · rw [h.block, hopens.block, List.append_assoc, ← List.map_append, hbase, hsize]
    have hrange : List.range' b.graph.size (base + σ.added - b.graph.size) =
        List.range' b.graph.size (base - b.graph.size) ++ List.range' base σ.added := by
      have hsplit : base + σ.added - b.graph.size = base - b.graph.size + σ.added := by omega
      rw [hsplit, ← List.range'_append, Nat.one_mul, Nat.add_sub_cancel' hle]
    rw [hrange]
  · intro id n hid hn
    by_cases hlt : id.index < base
    · rw [h.old id (by omega)] at hn
      obtain ⟨hnid, hinputs, -⟩ := hopens.new id n hid hn
      rw [hinputs]
      exact ⟨hnid, nofun⟩
    · have hbase' : (p.opened b call).2.builder.graph.size ≤ id.index := by omega
      obtain ⟨k, -, rfl, hplaced⟩ := h.exists_placed hbase' hn
      refine ⟨hplaced.id, fun j hj => ?_⟩
      obtain ⟨v, hv, rfl⟩ := hplaced.inputs j hj
      exact hv.resolve_lt hb hr
  · rw [h.resumePoints, hopens.resumePoints]
    exact List.prefix_append _ _
  · rw [h.dependencies_eq]
    exact Dependencies.items_start_extend ..

/-- **An attempt that replaces the call** leaves one result, keeps everything that was there, and
adds only nodes that mention earlier ones. -/
theorem Inliner.attempt_specializes {b : Builder} (hb : b.Reachable) {i : Inliner}
    {stubs : StubStore} {call : Call NodeId} {callee : Callee}
    (h : (i.attempt stubs b call callee).result = .ok .inlined) :
    b.Specializes call (i.attempt stubs b call callee).builder := by
  have hends := i.attempt_ends stubs b call callee
  generalize i.attempt stubs b call callee = a at h hends ⊢
  cases hends with
  | dead => cases h
  | unknownOperand => cases h
  | declined => cases h
  | stubUnavailable => cases h
  | @inlined r log created p stubs' b' hlive hr hdecide horderly hstub hemit =>
    have hresolved := resolved_of_eq_ok hr
    obtain ⟨e, σ, he, hσ, htracks⟩ := horderly.emit hlive hresolved.lt_size
    rw [hemit] at he
    cases he
    exact htracks.specializes hσ hb.contextPlaced hresolved

/-- A fence is specialized to a node with a resume point and a constant. -/
theorem attempt_specializes_fence :
    Scenario.fence.builder.Reachable ∧
    (Scenario.fence.attempt {} Scenario.fence.builder).result = .ok .inlined ∧
    Scenario.fence.builder.Specializes Scenario.fence.call
      (Scenario.fence.attempt {} Scenario.fence.builder).builder := by
  have hreachable : Scenario.fence.builder.Reachable :=
    (Builder.Reachable.new.addParameter 0 .object none).addConstant .undefined
  have hinlined : (Scenario.fence.attempt {} Scenario.fence.builder).result = .ok .inlined := by
    decide
  exact ⟨hreachable, hinlined, Inliner.attempt_specializes hreachable hinlined⟩

end CallSite
