import CallSite.Proofs.Commit
import CallSite.Proofs.Evolution.Site

/-!
# Emission up to cores

The types that a node records are never looked at while code is emitted.  So emission commutes with
taking cores: the core of a plan, emitted to the core of a builder, gives the core of what the plan
gives.

* `Node.core`, `Graph.core`, `Builder.core`, `Emission.core` — what never changes of what is built.
* `Plan.core_eq_of_emit` — **plans with the same core emit the same code** to builders with the same core.
-/

namespace CallSite

/-! ## Cores -/

def Node.core (n : Node) : Node := { n with types := n.types.map TypeSet.core }

def Graph.core (g : Graph) : Graph := { g with nodes := g.nodes.map Node.core }

/-- **What never changes of a builder**: everything but the flags and the element types of the type
objects that its nodes record. -/
def Builder.core (b : Builder) : Builder := { b with graph := b.graph.core }

def Emission.core (e : Emission) : Emission := { e with builder := e.builder.core }

/-! ## Graphs -/

namespace Graph

variable (g : Graph)

@[simp] lemma size_core : g.core.size = g.size := Array.size_map ..

@[simp] lemma nextId_core : g.core.nextId = g.nextId := congrArg NodeId.mk g.size_core

@[simp] lemma node?_core (id : NodeId) : g.core.node? id = (g.node? id).map Node.core :=
  Array.getElem?_map ..

lemma core_add (op : Op) (inputs : List NodeId) (ty : ValueType) (types : Option TypeSet) :
    (g.add op inputs ty types).core = g.core.add op inputs ty (types.map TypeSet.core) := by
  rw [core, add, add, nextId_core, addAs, addAs, Array.map_push]
  rfl

/-- A change that has nothing to do with types commutes with taking cores. -/
lemma core_modify (id : NodeId) {f : Node → Node} (hf : ∀ n, (f n).core = f n.core) :
    (g.modify id f).core = g.core.modify id f := by
  have hnodes : (g.nodes.modify id.index f).map Node.core =
      (g.nodes.map Node.core).modify id.index f := by
    refine Array.ext_getElem? fun i => ?_
    rw [Array.getElem?_map, Array.getElem?_modify, Array.getElem?_modify, Array.getElem?_map]
    split_ifs
    · rw [Option.map_map, Option.map_map]
      exact congrArg (g.nodes[i]?.map ·) (funext hf)
    · rfl
  rw [core, modify, modify, hnodes]
  rfl

lemma core_addResumePoint (id : NodeId) (pc : UInt32) (stack locals : List NodeId) :
    (g.addResumePoint id pc stack locals).core = g.core.addResumePoint id pc stack locals :=
  core_modify _ id fun _ => rfl

lemma core_markImplicitlyUsed (id : NodeId) :
    (g.markImplicitlyUsed id).core = g.core.markImplicitlyUsed id :=
  core_modify _ id fun _ => rfl

/-- Marking operands looks at no types. -/
lemma markOperands_core (ids : List NodeId) :
    g.core.markOperands ids = ((g.markOperands ids).1.core, (g.markOperands ids).2) := by
  induction ids generalizing g with
  | nil => rfl
  | cons id ids ih =>
    rw [markOperands, markOperands, node?_core]
    cases g.node? id with
    | none => rfl
    | some n =>
      dsimp only [Option.map_some]
      rw [← ih, core_markImplicitlyUsed]

end Graph

/-! ## Emissions -/

namespace Emission

variable {e e' : Emission}

lemma core_add (e : Emission) (op : Op) (inputs : List NodeId) (ty : ValueType)
    (types : Option TypeSet) :
    (e.add op inputs ty types).core = e.core.add op inputs ty (types.map TypeSet.core) := by
  rw [core, Builder.core, add, Graph.core_add]
  rfl

lemma resumeAfter_core {id : NodeId} (h : e.resumeAfter id = .ok e') :
    e.core.resumeAfter id = .ok e'.core := by
  have hnode : e.core.builder.graph.node? id = (e.builder.graph.node? id).map Node.core :=
    Graph.node?_core ..
  cases hn : e.builder.graph.node? id with
  | none =>
    rw [resumeAfter, hn] at h
    cases h
  | some n =>
    rw [hn] at hnode
    cases hr : n.resumePoint with
    | some existing =>
      rw [resumeAfter, hn] at h
      dsimp only at h
      rw [hr] at h
      cases h
    | none =>
      rw [resumeAfter_of_unresumed hn hr] at h
      obtain rfl := Except.ok.inj h
      rw [resumeAfter_of_unresumed hnode hr]
      exact congrArg (fun g => Except.ok { e.core with builder.graph := g })
        (Graph.core_addResumePoint ..).symm

lemma guardTop_core {id : NodeId} {observed : TypeSet} {kind : Barrier}
    (h : e.guardTop id observed kind = .ok e') :
    e.core.guardTop id observed.core kind = .ok e'.core := by
  have hpeek : e.core.builder.peek = e.builder.peek := rfl
  rw [guardTop.eq_def] at h ⊢
  rw [hpeek]
  split_ifs at h ⊢
  cases kind with
  | noBarrier =>
    obtain rfl := Except.ok.inj h
    rfl
  | typeSet =>
    obtain rfl := Except.ok.inj h
    have hadd := e.core_add (.typeBarrier .typeSet) [id] observed.knownType observed
    have hnext : e.core.nextId = e.nextId := Graph.nextId_core _
    dsimp only
    rw [observed.knownType_core, hnext]
    exact congrArg (fun x : Emission =>
      Except.ok { x with builder := x.builder.pop.push e.nextId }) hadd.symm

lemma withContext_core (e : Emission) (usesContext : Bool) :
    e.core.withContext usesContext =
      ((e.withContext usesContext).1, (e.withContext usesContext).2.core) := by
  have hnext : e.core.nextId = e.nextId := Graph.nextId_core _
  cases usesContext with
  | false =>
    show (e.core.nextId, e.core) = (e.nextId, e.core)
    rw [hnext]
  | true =>
    show e.core.forkJoinContext = (e.forkJoinContext.1, e.forkJoinContext.2.core)
    have hcontext : e.core.builder.context = e.builder.context := rfl
    rw [forkJoinContext, forkJoinContext, hcontext]
    cases e.builder.context with
    | some id => rfl
    | none =>
      have hadd := e.core_add .forkJoinContext [] .object none
      dsimp only
      rw [hnext]
      exact congrArg (fun x : Emission =>
        (e.nextId, { x with builder.context := some e.nextId })) hadd.symm

lemma finish_core {b : Builder} (h : e.finish = .ok b) : e.core.finish = .ok b.core := by
  have hb := eq_of_finish h
  subst hb
  have hadded : e.core.builder.graph.nodes.toList.drop e.core.firstNode =
      (e.builder.graph.nodes.toList.drop e.firstNode).map Node.core := by
    show (e.builder.graph.nodes.map Node.core).toList.drop e.firstNode = _
    rw [Array.toList_map, List.map_drop]
  have hopen : (fun n : Node => n.op.isEffectful && n.resumePoint.isNone) ∘ Node.core =
      fun n => n.op.isEffectful && n.resumePoint.isNone := rfl
  rw [finish] at h ⊢
  rw [hadded]
  dsimp only at h ⊢
  rw [List.find?_map, hopen]
  cases hfind : (e.builder.graph.nodes.toList.drop e.firstNode).find?
      fun n => n.op.isEffectful && n.resumePoint.isNone with
  | some n =>
    rw [hfind] at h
    cases h
  | none =>
    rw [hfind] at h
    dsimp only [Option.map_none] at h ⊢
    split_ifs at h with hdepth
    exact if_pos hdepth

end Emission

/-! ## Plans -/

/-- A step that is taken is taken up to cores. -/
lemma Step.take_core {base : Nat} {context : NodeId} {e e' : Emission} {s : Step}
    (h : s.take base context e = .ok e') : s.core.take base context e.core = .ok e'.core := by
  cases s with
  | add op inputs ty types =>
    obtain rfl := Except.ok.inj h
    rw [Emission.core_add]
    rfl
  | push v =>
    obtain rfl := Except.ok.inj h
    rfl
  | resume v => exact Emission.resumeAfter_core h
  | guardTop v observed =>
    have hguard : e.guardTop (v.resolve base context) observed .typeSet = .ok e' := h
    exact Emission.guardTop_core hguard

lemma Step.takeAll_core {base : Nat} {context : NodeId} {e e' : Emission} {steps : List Step}
    (h : takeAll base context e steps = .ok e') :
    takeAll base context e.core (steps.map Step.core) = .ok e'.core := by
  induction steps generalizing e with
  | nil =>
    obtain rfl := Except.ok.inj h
    rfl
  | cons s steps ih =>
    rw [takeAll] at h
    rw [List.map_cons, takeAll]
    cases hs : s.take base context e with
    | error err =>
      rw [hs] at h
      cases h
    | ok next =>
      rw [hs] at h
      rw [take_core hs]
      exact ih h

lemma Builder.commit_core {b : Builder} {call : Call NodeId} {facts : List Dependency}
    {e : Emission} (h : b.commit call facts = .ok e) :
    b.core.commit call.core facts = .ok e.core := by
  have hdead : b.core.isDead call.core.site = b.isDead call.site := rfl
  rw [commit] at h ⊢
  rw [hdead]
  split_ifs at h ⊢
  have hmark := b.graph.markOperands_core call.operands
  dsimp only at h ⊢
  generalize b.graph.markOperands call.operands = marked at hmark h
  obtain ⟨graph, missing⟩ := marked
  have hmark' : b.core.graph.markOperands call.core.operands = (graph.core, missing) := hmark
  rw [hmark']
  cases missing with
  | some id => cases h
  | none =>
    obtain rfl := Except.ok.inj h
    have hsize : (graph.commitDependencies facts).core.size =
      (graph.commitDependencies facts).size := Graph.size_core _
    exact congrArg (fun n => Except.ok (Emission.mk _ _ _ n)) hsize

/-- A plan that is emitted is emitted up to cores. -/
lemma Plan.emit_core {p : Plan} {b b' : Builder} {call : Call NodeId}
    (h : p.emit b call = .ok b') : p.core.emit b.core call.core = .ok b'.core := by
  cases hcommit : b.commit call p.facts with
  | error err =>
    rw [emit, hcommit] at h
    cases h
  | ok e =>
    rw [emit_of_commit hcommit] at h
    rw [emit_of_commit (p := p.core) (Builder.commit_core hcommit)]
    have hopened := e.withContext_core p.usesContext
    have hsize : (e.withContext p.usesContext).2.core.builder.graph.size =
      (e.withContext p.usesContext).2.builder.graph.size := Graph.size_core _
    rw [p.usesContext_core, p.steps_core, hopened, hsize]
    generalize e.withContext p.usesContext = opened at h ⊢
    cases hsteps : Step.takeAll opened.2.builder.graph.size opened.1 opened.2 p.steps with
    | error err =>
      rw [hsteps] at h
      cases h
    | ok last =>
      rw [hsteps] at h
      rw [Step.takeAll_core hsteps]
      dsimp only at h ⊢
      cases hfinish : last.finish with
      | error err =>
        rw [hfinish] at h
        cases h
      | ok b'' =>
        rw [hfinish] at h
        obtain rfl := Except.ok.inj h
        rw [Emission.finish_core hfinish]

/-- **Plans with the same core emit the same code** to builders with the same core. -/
theorem Plan.core_eq_of_emit {p p' : Plan} {b b' c c' : Builder} {call call' : Call NodeId}
    (hp : p'.core = p.core) (hb : b'.core = b.core) (hcall : call'.core = call.core)
    (h : p.emit b call = .ok c) (h' : p'.emit b' call' = .ok c') : c'.core = c.core := by
  have hcore := emit_core h'
  rw [hp, hb, hcall, emit_core h] at hcore
  exact (Except.ok.inj hcore).symm

end CallSite
