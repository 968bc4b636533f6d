import CallSite.Proofs.Commit
import CallSite.Proofs.Linked
import CallSite.Proofs.Routines.Decisions
import CallSite.Routine.Emitter

/-!
# Runs that emit nodes

After the commit of its call a routine adds nodes one by one.  Handles of nodes and resume points
have 32 bits, so what it does is what the steps of a plan do as long as the graph does not outgrow
them.  Some things hold in any case: nothing is reported, the stubs stay, and the graph only grows.

* `Builder.Fits` — **handles of 32 bits reach all of the graph**.
* `Builder.Enlarges` — the graph has grown, and what was known of its values still is.
* `Session.Extends` — the graph of a session has grown, and nothing else has happened.
* `Session.Ends`, `Session.Ends.bind` — **how a run that emits ends**, and one run after another.
-/

namespace CallSite

/-! ## Handles of 32 bits -/

lemma NodeId.ofPosition_of_lt {n : Nat} (h : n < UInt32.size) : NodeId.ofPosition n = ⟨n⟩ := by
  rw [NodeId.ofPosition, UInt32.toNat_ofNat_of_lt' h]

lemma NodeId.ofPosition_le (n : Nat) : (NodeId.ofPosition n).index ≤ n := Nat.mod_le n _

lemma ResumePointId.ofPosition_of_lt {n : Nat} (h : n < UInt32.size) :
    ResumePointId.ofPosition n = ⟨n⟩ := by
  rw [ResumePointId.ofPosition, UInt32.toNat_ofNat_of_lt' h]

/-- **Handles of 32 bits reach every node and every resume point.** -/
structure Builder.Fits (b : Builder) : Prop where
  nodes : b.graph.size ≤ UInt32.size
  resumePoints : b.graph.resumePoints.size ≤ UInt32.size

/-- **Nodes and resume points have the handles that their positions are cast to.** -/
structure Graph.Numbered (g : Graph) : Prop where
  node : ∀ id n, g.node? id = some n → n.id = .ofPosition id.index
  resumePoint : ∀ k r, g.resumePoint? k = some r → r.id = .ofPosition k.index

lemma Graph.numbered_empty : ({} : Graph).Numbered where
  node _ _ h := nomatch h
  resumePoint _ _ h := nomatch h

/-! ## Growth -/

/-- **The graph has only grown**: what was known of its values still is, and what is new has the
handle that its position is cast to. -/
structure Builder.Enlarges (b b' : Builder) : Prop where
  size_le : b.graph.size ≤ b'.graph.size
  resumePoints_le : b.graph.resumePoints.size ≤ b'.graph.resumePoints.size
  facts : ∀ {id x}, b.facts? id = some x → b'.facts? id = some x
  numbered : b.graph.Numbered → b'.graph.Numbered

namespace Builder.Enlarges

variable {b b' b'' : Builder}

lemma refl (b : Builder) : b.Enlarges b := ⟨Nat.le_refl _, Nat.le_refl _, id, id⟩

lemma trans (h : b.Enlarges b') (h' : b'.Enlarges b'') : b.Enlarges b'' :=
  ⟨Nat.le_trans h.size_le h'.size_le, Nat.le_trans h.resumePoints_le h'.resumePoints_le,
    fun hx => h'.facts (h.facts hx), fun hb => h'.numbered (h.numbered hb)⟩

/-- Only nodes and resume points matter. -/
lemma congr_right (h : b.Enlarges b') (hnodes : b''.graph.nodes = b'.graph.nodes)
    (hpoints : b''.graph.resumePoints = b'.graph.resumePoints) : b.Enlarges b'' := by
  have hsize : b''.graph.size = b'.graph.size := congrArg Array.size hnodes
  have hnode : ∀ id, b''.graph.node? id = b'.graph.node? id := fun id =>
    congrArg (fun nodes : Array Node => nodes[id.index]?) hnodes
  have hpoint : ∀ k, b''.graph.resumePoint? k = b'.graph.resumePoint? k := fun k =>
    congrArg (fun points : Array ResumePoint => points[k.index]?) hpoints
  refine ⟨hsize ▸ h.size_le, hpoints ▸ h.resumePoints_le, fun {id x} hx => ?_, fun hb => ⟨?_, ?_⟩⟩
  · rw [facts?, hnode]
    exact h.facts hx
  · exact fun id n hn => (h.numbered hb).node id n (hnode id ▸ hn)
  · exact fun k r hr => (h.numbered hb).resumePoint k r (hpoint k ▸ hr)

/-- What fits fitted before. -/
lemma fits (h : b.Enlarges b') (hb : b'.Fits) : b.Fits :=
  ⟨Nat.le_trans h.size_le hb.nodes, Nat.le_trans h.resumePoints_le hb.resumePoints⟩

end Builder.Enlarges

/-- A value of which something is known belongs to a node. -/
lemma Builder.lt_size_of_facts? {b : Builder} {id : NodeId} {x : Facts} (h : b.facts? id = some x) :
    id.index < b.graph.size := by
  obtain ⟨n, hn, -⟩ := Option.map_eq_some_iff.1 h
  exact Graph.lt_size_of_node? hn

namespace Graph

variable {g : Graph}

lemma node?_addAs (g : Graph) (id j : NodeId) (op : Op) (inputs : List NodeId) (ty : ValueType)
    (types : Option TypeSet) :
    (g.addAs id op inputs ty types).node? j =
      if j.index = g.size then some { id, op, inputs, ty, types } else g.node? j :=
  Array.getElem?_push

lemma size_addAs (g : Graph) (id : NodeId) (op : Op) (inputs : List NodeId) (ty : ValueType)
    (types : Option TypeSet) : (g.addAs id op inputs ty types).size = g.size + 1 :=
  Array.size_push _

end Graph

namespace Builder

/-- A new node leaves the others alone. -/
lemma enlarges_addAs (b : Builder) (op : Op) (inputs : List NodeId) (ty : ValueType)
    (types : Option TypeSet) :
    b.Enlarges { b with
      graph := b.graph.addAs (.ofPosition b.graph.size) op inputs ty types } := by
  refine ⟨?_, Nat.le_refl _, fun {j x} hx => ?_, fun hb => ⟨fun j n hn => ?_, hb.resumePoint⟩⟩
  · rw [Graph.size_addAs]
    exact Nat.le_succ _
  · have hlt := lt_size_of_facts? hx
    rw [facts?, Graph.node?_addAs, if_neg (Nat.ne_of_lt hlt)]
    exact hx
  · rw [Graph.node?_addAs] at hn
    split_ifs at hn with hj
    · rw [← Option.some.inj hn, hj]
    · exact hb.node j n hn

/-- A node may change in everything but its handle and what is known of its value. -/
lemma enlarges_modify (b : Builder) (id : NodeId) {f : Node → Node} (hid : ∀ n, (f n).id = n.id)
    (hfacts : ∀ n, (f n).facts = n.facts) : b.Enlarges { b with graph := b.graph.modify id f } := by
  refine ⟨Nat.le_of_eq (b.graph.size_modify id f).symm, Nat.le_refl _, fun {j x} hx => ?_,
    fun hb => ⟨fun j n hn => ?_, hb.resumePoint⟩⟩
  · rw [facts?, Graph.node?_modify]
    split_ifs
    · rw [Option.map_map, show Node.facts ∘ f = Node.facts from funext hfacts]
      exact hx
    · exact hx
  · rw [Graph.node?_modify] at hn
    split_ifs at hn
    · obtain ⟨m, hm, rfl⟩ := Option.map_eq_some_iff.1 hn
      exact (hid m).trans (hb.node j m hm)
    · exact hb.node j n hn

/-- A resume point leaves all values alone. -/
lemma enlarges_addResumePointAs (b : Builder) (id : NodeId) (pc : UInt32)
    (stack locals : List NodeId) :
    b.Enlarges { b with
      graph := b.graph.addResumePointAs (.ofPosition b.graph.resumePoints.size) id pc stack
        locals } := by
  let point : ResumePoint := ⟨.ofPosition b.graph.resumePoints.size, id, pc, stack, locals⟩
  have hpoints : b.Enlarges { b with
      graph := { b.graph with resumePoints := b.graph.resumePoints.push point } } := by
    refine ⟨Nat.le_refl _, ?_, fun hx => hx, fun hb => ⟨hb.node, fun k r hr => ?_⟩⟩
    · rw [Array.size_push]
      exact Nat.le_succ _
    · rw [Graph.resumePoint?, Array.getElem?_push] at hr
      split_ifs at hr with hk
      · rw [← Option.some.inj hr, hk]
      · exact hb.resumePoint k r hr
  exact hpoints.trans (enlarges_modify _ id (fun _ => rfl) fun _ => rfl)

/-- The position of the last node of a graph that fits. -/
lemma lt_of_fits_addAs {b : Builder} {id : NodeId} {op : Op} {inputs : List NodeId} {ty : ValueType}
    {types : Option TypeSet}
    (h : Fits { b with graph := b.graph.addAs id op inputs ty types }) :
    b.graph.size < UInt32.size := by
  refine Nat.lt_of_lt_of_le ?_ h.nodes
  exact (Graph.size_addAs ..).symm ▸ Nat.lt_succ_self _

/-- The position of the last resume point of a graph that fits. -/
lemma lt_of_fits_addResumePointAs {b : Builder} {point : ResumePointId} {id : NodeId} {pc : UInt32}
    {stack locals : List NodeId}
    (h : Fits { b with graph := b.graph.addResumePointAs point id pc stack locals }) :
    b.graph.resumePoints.size < UInt32.size := by
  refine Nat.lt_of_lt_of_le ?_ h.resumePoints
  exact (Array.size_push _).symm ▸ Nat.lt_succ_self _

lemma enlarges_markImplicitlyUsed (b : Builder) (id : NodeId) :
    b.Enlarges { b with graph := b.graph.markImplicitlyUsed id } :=
  b.enlarges_modify id (fun _ => rfl) fun _ => rfl

/-- Marking leaves all values alone. -/
lemma enlarges_marked (b : Builder) (ids : List NodeId) :
    b.Enlarges { b with graph := b.graph.marked ids } := by
  induction ids generalizing b with
  | nil => exact .refl b
  | cons id ids ih =>
    exact (b.enlarges_markImplicitlyUsed id).trans
      (ih { b with graph := b.graph.markImplicitlyUsed id })

/-- Marking operands and committing facts leaves all values alone. -/
lemma enlarges_committed (b : Builder) (call : Call NodeId) (facts : List Dependency) :
    b.Enlarges (b.committed call facts).builder :=
  (b.enlarges_marked call.operands).congr_right rfl rfl

end Builder

/-- **The graph of a session has grown, and nothing else has happened**: no event was reported, and
the stubs are the same. -/
structure Session.Extends (s s' : Session) : Prop where
  builder : s.builder.Enlarges s'.builder
  stubs : s'.stubs = s.stubs
  log : s'.log = s.log

namespace Session.Extends

variable {s s' s'' : Session}

lemma refl (s : Session) : s.Extends s := ⟨.refl _, rfl, rfl⟩

lemma trans (h : s.Extends s') (h' : s'.Extends s'') : s.Extends s'' :=
  ⟨h.builder.trans h'.builder, h'.stubs.trans h.stubs, h'.log.trans h.log⟩

end Session.Extends

/-! ## Steps one after the other -/

/-- The emission is ended, or the reason why it cannot be. -/
def Emission.close (e : Emission) : Except (GraphError × Builder) Emission :=
  match e.finish with
  | .ok _ => .ok e
  | .error err => .error (err, e.builder)

lemma Step.takeAll_singleton (base : Nat) (context : NodeId) (e : Emission) (step : Step) :
    takeAll base context e [step] =
      (step.take base context e).mapError fun err => (err, e.builder) := by
  rw [takeAll]
  cases step.take base context e <;> rfl

lemma Step.takeAll_append (base : Nat) (context : NodeId) (e : Emission) (steps more : List Step) :
    takeAll base context e (steps ++ more) =
      takeAll base context e steps >>= fun e => takeAll base context e more := by
  induction steps generalizing e with
  | nil => rfl
  | cons step steps ih =>
    rw [List.cons_append, takeAll, takeAll]
    cases step.take base context e with
    | error err => rfl
    | ok e => exact ih e

/-! ## Runs -/

namespace Session

variable {α β : Type} {e : Emitter}

/-- **How a run of an emitting routine ends.**  It gives a value or violates an invariant of the
graph; the graph has grown and nothing else has happened; and when the graph fits, it is the one
that the steps lead to. -/
inductive Ends (e : Emitter) (s : Session) (holds : β → Builder → Prop)
    (steps : Except (GraphError × Builder) Emission) : Except Exit β × Session → Prop where
  | value {v : β} {s' : Session} (extended : s.Extends s') (value : holds v s'.builder)
      (agrees : s'.builder.Fits → steps = .ok (e.on s'.builder)) : Ends e s holds steps (.ok v, s')
  | violation {err : GraphError} {s' : Session} (extended : s.Extends s')
      (agrees : s'.builder.Fits → steps = .error (err, s'.builder)) :
      Ends e s holds steps (.error (.failed (.graph err)), s')

/-- **One run after another.** -/
lemma Ends.bind {s : Session} {holds : α → Builder → Prop} {holds' : β → Builder → Prop}
    {steps : Except (GraphError × Builder) Emission}
    {next : Emission → Except (GraphError × Builder) Emission} {x : Routine α} {f : α → Routine β}
    (hx : Ends e s holds steps (x s))
    (hf : ∀ v s', s.Extends s' → holds v s'.builder →
      Ends e s' holds' (next (e.on s'.builder)) (f v s')) :
    Ends e s holds' (steps >>= next) ((x >>= f) s) := by
  generalize hout : x s = out at hx
  cases hx with
  | @violation err s' extended agrees =>
    rw [Routine.bind_of_error hout]
    refine .violation extended fun hfits => ?_
    rw [agrees hfits]
    rfl
  | @value v s' extended value agrees =>
    rw [Routine.bind_of_ok hout]
    have hnext := hf v s' extended value
    generalize f v s' = out' at hnext
    cases hnext with
    | violation extended' agrees' =>
      refine .violation (extended.trans extended') fun hfits => ?_
      rw [agrees (extended'.builder.fits hfits)]
      exact agrees' hfits
    | value extended' value' agrees' =>
      refine .value (extended.trans extended') value' fun hfits => ?_
      rw [agrees (extended'.builder.fits hfits)]
      exact agrees' hfits

/-- When the graph does not fit, it does not matter what the steps lead to. -/
lemma Ends.of_not_fits {s : Session} {holds holds' : β → Builder → Prop}
    {steps steps' : Except (GraphError × Builder) Emission} {out : Except Exit β × Session}
    (h : Ends e s holds steps out) (hs : ¬s.builder.Fits)
    (weaken : ∀ v b, ¬b.Fits → holds v b → holds' v b) : Ends e s holds' steps' out := by
  cases h with
  | value extended value agrees =>
    have hb := fun hfits => hs (extended.builder.fits hfits)
    exact .value extended (weaken _ _ hb value) fun hfits => absurd hfits hb
  | violation extended agrees =>
    exact .violation extended fun hfits => absurd (extended.builder.fits hfits) hs

/-- What is known of the value may be weakened. -/
lemma Ends.imp {s : Session} {holds holds' : β → Builder → Prop}
    {steps : Except (GraphError × Builder) Emission} {out : Except Exit β × Session}
    (h : Ends e s holds steps out) (weaken : ∀ v b, holds v b → holds' v b) :
    Ends e s holds' steps out := by
  cases h with
  | value extended value agrees => exact .value extended (weaken _ _ value) agrees
  | violation extended agrees => exact .violation extended agrees

end Session

end CallSite
