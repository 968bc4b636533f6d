import CallSite.Proofs.Computation.Extremes
import Mathlib.Algebra.Group.Defs

/-!
# Powers

A power whose exponent is a small constant needs no call: it is a product, a square root, or the
inverse of one.  Which of these it is depends on the number that the exponent is, and not on how the
constant is represented.  Products are computed in the type of the result, the rest in doubles, and
the first power is the base itself, so the value may have to be cast in the end.

* `IsPower` — **what a power is**, where products are exact and roots and powers any functions.
* `Meaning.powers` — what the nodes compute.
* `Arithmetic.writes_rawPower` — the nodes that are written down compute the power.
* `Inliner.Emits.becomes_cast` — a value is cast iff it is not of the type of the result.
* `Builder.Raises`, `Inliner.attempt_power` — **the call computes the power**, in the type of its
  result.
-/

namespace CallSite

open Draft (push)

/-! ## What a power is -/

namespace Arithmetic.SimpleExponent

/-- The number that a simple exponent is. -/
def value : SimpleExponent → Rat
  | half => 1 / 2
  | minusHalf => -1 / 2
  | one => 1
  | two => 2
  | three => 3
  | four => 4

lemma of?_eq_some_iff {k : Numeric} {e : SimpleExponent} :
    of? k = some e ↔ k = .finite e.value := by
  constructor
  · intro h
    cases k with
    | finite q =>
      rw [of?] at h
      split_ifs at h with hq hq hq hq hq hq <;> cases h <;> exact congrArg _ hq
    | nan => cases h
    | infinite negative => cases h
  · rintro rfl
    cases e <;> decide +kernel

end Arithmetic.SimpleExponent

open Arithmetic (SimpleExponent)

section Powers

variable {V : Type} [Monoid V] [Div V] {half : V → V} {pow : V → V → V}

/-- **A power of `x`**, by the number that the exponent `y` is known to be: a product for the least
exponents, a square root or its inverse, and what is called for otherwise. -/
inductive IsPower (half : V → V) (pow : V → V → V) (x y : V) : Option Numeric → V → Prop
  | product (n : ℕ) (hn : n ∈ [1, 2, 3, 4]) : IsPower half pow x y (some (.finite n)) (x ^ n)
  | root : IsPower half pow x y (some (.finite (1 / 2))) (half x)
  | inverseRoot : IsPower half pow x y (some (.finite (-1 / 2))) (1 / half x)
  | call {k : Option Numeric} (hk : ∀ e : SimpleExponent, k ≠ some (.finite e.value)) :
      IsPower half pow x y k (pow x y)

/-- **What the nodes of a power compute.**  Multiplication is exact; a cast keeps the number. -/
def Meaning.powers (half : V → V) (pow : V → V → V) : Meaning V
  | .mul, [x, y] => some (x * y)
  | .div, [x, y] => some (x / y)
  | .powHalf, [x] => some (half x)
  | .pow, [x, y] => some (pow x y)
  | .constant c, [] => if c.number? = some (.finite 1) then some 1 else none
  | .toInt32, [x] | .toDouble, [x] => some x
  | _, _ => none

/-- The power by a simple exponent. -/
def Arithmetic.SimpleExponent.power (half : V → V) (x : V) : SimpleExponent → V
  | .half => half x
  | .minusHalf => 1 / half x
  | .one => x
  | .two => x * x
  | .three => x * (x * x)
  | .four => x * x * (x * x)

/-- **The power by a simple exponent** is a power. -/
theorem isPower_of_simple (x y : V) (e : SimpleExponent) :
    IsPower half pow x y (some (.finite e.value)) (e.power half x) := by
  have hproduct : ∀ (n : ℕ) (q : Rat) (v : V), n ∈ [1, 2, 3, 4] → (n : Rat) = q → x ^ n = v →
      IsPower half pow x y (some (.finite q)) v := by
    rintro n _ _ hn rfl rfl
    exact .product n hn
  cases e with
  | half => exact .root
  | minusHalf => exact .inverseRoot
  | one => exact hproduct 1 _ _ (by decide) Nat.cast_one (pow_one x)
  | two => exact hproduct 2 _ _ (by decide) (by norm_num [SimpleExponent.value]) (pow_two x)
  | three =>
    refine hproduct 3 _ _ (by decide) (by norm_num [SimpleExponent.value]) ?_
    rw [pow_succ', pow_two, SimpleExponent.power]
  | four =>
    refine hproduct 4 _ _ (by decide) (by norm_num [SimpleExponent.value]) ?_
    rw [SimpleExponent.power, ← pow_two x, ← pow_two, ← pow_mul]

end Powers

/-! ## Nodes -/

/-- The operation represents a number in another type. -/
def Op.isCast : Op → Bool
  | .toInt32 | .toDouble | .toFloat32 => true
  | _ => false

/-- The cast to an int32 or to a double. -/
def Op.castTo (ty : ValueType) : Op := if ty = .int32 then .toInt32 else .toDouble

/-- **The law**: a node is no cast. -/
def Sketch.Uncast (_ : List Sketch) (x : Sketch) : Prop := x.op.isCast = false

/-- The nodes that a draft describes when it is the first to be written down. -/
def Draft.sketches {α : Type} (d : Draft α) : List Sketch := (d 0).2.2.filterMap Step.sketch?

/-- What is known of a draft that is the first to be written down. -/
lemma Draft.Writes.start {α : Type} {law : List Sketch → Sketch → Prop} {d : Draft α}
    {holds : α → List Sketch → Prop} (h : d.Writes law [] holds) :
    (d 0).2.1 = d.sketches.length ∧ Sketch.Lawful law [] d.sketches ∧ holds (d 0).1 d.sketches := by
  obtain ⟨new, rfl, hcount, hlaw, hholds⟩ := h
  exact ⟨hcount, hlaw, hholds⟩

/-- **A node is written down and computes a value**; the values before it are kept. -/
theorem Draft.writes_add_value {V : Type} {m : Meaning V} {law : List Sketch → Sketch → Prop}
    {base : Nat} {context : NodeId} {ν ν' : NodeId → V} {before : List Sketch} {op : Op}
    {inputs : List Operand} {ty : ValueType} {types : Option TypeSet}
    {holds : Operand → List Sketch → Prop} {values : List V} {a : V}
    (obeys : law before ⟨op, inputs.map (·.ref), ty, types⟩)
    (hruns : Sketch.RunsTo m base context ν before ν')
    (hvalues : inputs.map (fun x => ν' (x.resolve base context)) = values)
    (ha : m op values = some a)
    (hholds : ∀ v after ν'', Sketch.RunsTo m base context ν after ν'' →
      ν'' (v.resolve base context) = a →
      (∀ w : Operand, (w.resolve base context).index < base + before.length →
        ν'' (w.resolve base context) = ν' (w.resolve base context)) →
      (v.resolve base context).index < base + after.length → holds v after) :
    (add op inputs ty types).Writes law before holds := by
  subst hvalues
  refine writes_add obeys (hholds _ _ _ (hruns.concat ?_) (Function.update_self ..) ?_ ?_)
  · rw [List.map_map]
    exact ha
  · intro w hw
    refine Function.update_of_ne ?_ ..
    rintro hnew
    rw [hnew] at hw
    exact Nat.lt_irrefl _ hw
  · rw [List.length_append]
    exact Nat.lt_succ_self _

namespace Arithmetic

variable {base : Nat} {context : NodeId} {x y : Operand} {out : ValueType}

section Values

variable {V : Type} [Monoid V] [Div V] {half : V → V} {pow : V → V → V} {ν : NodeId → V}

variable (half) (pow) (ν) in
/-- **The nodes for a simple exponent** compute its power. -/
theorem writes_simplePower (hx : Old base context x) (e : SimpleExponent) :
    (simplePower x out e).Writes (fun _ _ => True) [] fun v after => ∃ ν',
      Sketch.RunsTo (.powers half pow) base context ν after ν' ∧
        ν' (v.resolve base context) = e.power half (ν (x.resolve base context)) := by
  have hnil : Sketch.RunsTo (.powers half pow) base context ν [] ν := .nil
  cases e with
  | half =>
    exact Draft.writes_add_value trivial hnil rfl rfl fun _ _ ν' hruns hv _ _ => ⟨ν', hruns, hv⟩
  | minusHalf =>
    refine Draft.writes_bind (Draft.writes_add_value trivial hnil rfl rfl
      fun root _ ν₁ hruns hroot _ hlt => ?_)
    refine Draft.writes_bind (Draft.writes_add_value trivial hruns rfl (if_pos (by decide +kernel))
      fun one _ ν₂ hruns hone hkept _ => ?_)
    have hinputs : [one, root].map (fun w => ν₂ (w.resolve base context)) =
        [1, half (ν (x.resolve base context))] :=
      congrArg₂ (fun a c => [a, c]) hone ((hkept root hlt).trans hroot)
    exact Draft.writes_add_value trivial hruns hinputs rfl
      fun _ _ ν₃ hruns hv _ _ => ⟨ν₃, hruns, hv⟩
  | one => exact Draft.writes_pure ⟨ν, hnil, rfl⟩
  | two =>
    exact Draft.writes_add_value trivial hnil rfl rfl fun _ _ ν' hruns hv _ _ => ⟨ν', hruns, hv⟩
  | three =>
    refine Draft.writes_bind (Draft.writes_add_value trivial hnil rfl rfl
      fun square _ ν₁ hruns hsquare _ _ => ?_)
    have hinputs : [x, square].map (fun w => ν₁ (w.resolve base context)) =
        [ν (x.resolve base context), ν (x.resolve base context) * ν (x.resolve base context)] :=
      congrArg₂ (fun a c => [a, c]) (hruns.of_lt hx) hsquare
    exact Draft.writes_add_value trivial hruns hinputs rfl
      fun _ _ ν₂ hruns hv _ _ => ⟨ν₂, hruns, hv⟩
  | four =>
    refine Draft.writes_bind (Draft.writes_add_value trivial hnil rfl rfl
      fun square _ ν₁ hruns hsquare _ _ => ?_)
    have hinputs : [square, square].map (fun w => ν₁ (w.resolve base context)) =
        [ν (x.resolve base context) * ν (x.resolve base context),
          ν (x.resolve base context) * ν (x.resolve base context)] :=
      congrArg₂ (fun a c => [a, c]) hsquare hsquare
    exact Draft.writes_add_value trivial hruns hinputs rfl
      fun _ _ ν₂ hruns hv _ _ => ⟨ν₂, hruns, hv⟩

variable (half) (pow) (ν) (y) (out) in
/-- **The nodes that are written down compute the power.** -/
theorem writes_rawPower (hx : Old base context x) :
    (rawPower x y out).Writes (fun _ _ => True) [] fun v after => ∃ ν',
      Sketch.RunsTo (.powers half pow) base context ν after ν' ∧
        IsPower half pow (ν (x.resolve base context)) (ν (y.resolve base context)) y.number?
          (ν' (v.resolve base context)) := by
  rw [rawPower]
  cases he : y.number?.bind SimpleExponent.of? with
  | some e =>
    obtain ⟨k, hk, hof⟩ := Option.bind_eq_some_iff.1 he
    rw [hk, SimpleExponent.of?_eq_some_iff.1 hof]
    refine (writes_simplePower half pow ν hx e).imp fun v _ hwrites => ?_
    obtain ⟨ν', hruns, hv⟩ := hwrites
    refine ⟨ν', hruns, ?_⟩
    rw [hv]
    exact isPower_of_simple _ _ e
  | none =>
    refine Draft.writes_add_value trivial .nil rfl rfl fun v _ ν' hruns hv _ _ => ⟨ν', hruns, ?_⟩
    rw [hv]
    refine .call fun e hk => ?_
    rw [hk, Option.bind_some, SimpleExponent.of?_eq_some_iff.2 rfl] at he
    cases he

end Values

/-- **What is produced** is the base, or the last of the nodes; none of these is a cast. -/
theorem typed_rawPower (x y : Operand) (out : ValueType) :
    (rawPower x y out).Writes Sketch.Uncast [] fun v after =>
      v = x ∧ after = [] ∨ Typed v.ty v after := by
  have hlast : ∀ {before : List Sketch} {op : Op} {inputs : List Operand} {ty : ValueType},
      op.isCast = false → (Draft.add op inputs ty).Writes Sketch.Uncast before fun v after =>
        v = x ∧ after = [] ∨ Typed v.ty v after := fun {before} _ _ _ hop =>
    Draft.writes_add hop (.inr (typed_concat before rfl))
  rw [rawPower]
  cases y.number?.bind SimpleExponent.of? with
  | none => exact hlast rfl
  | some e =>
    cases e with
    | half => exact hlast rfl
    | minusHalf =>
      exact Draft.writes_bind (Draft.writes_add rfl
        (Draft.writes_bind (Draft.writes_add rfl (hlast rfl))))
    | one => exact Draft.writes_pure (.inl ⟨rfl, rfl⟩)
    | two => exact hlast rfl
    | three => exact Draft.writes_bind (Draft.writes_add rfl (hlast rfl))
    | four => exact Draft.writes_bind (Draft.writes_add rfl (hlast rfl))

/-- Only an exponent that is not simple is left to a call. -/
lemma rawPower_of_not_simple
    (h : ∀ e : SimpleExponent, y.number? ≠ some (.finite e.value)) :
    rawPower x y out = Draft.add .pow [x, y] .double := by
  rw [rawPower]
  cases he : y.number?.bind SimpleExponent.of? with
  | none => rfl
  | some e =>
    obtain ⟨k, hk, hof⟩ := Option.bind_eq_some_iff.1 he
    rw [SimpleExponent.of?_eq_some_iff.1 hof] at hk
    exact absurd hk (h e)

/-! ## Casts -/

/-- A value of the type of the result is left as it is. -/
lemma castNumber_of_eq {v : Operand} (h : v.ty = out) : castNumber v out = pure v := by
  rw [castNumber, if_neg fun hint => hint.2 (h.trans hint.1),
    if_neg fun hdouble => hdouble.2 (h.trans hdouble.1)]

/-- Any other value is cast. -/
lemma castNumber_of_ne {v : Operand} (h : v.ty ≠ out) (hout : out = .int32 ∨ out = .double) :
    castNumber v out = Draft.add (Op.castTo out) [v] out := by
  rcases hout with rfl | rfl
  · rw [castNumber, if_pos ⟨rfl, h⟩]
    rfl
  · have hnot : ¬(ValueType.double = .int32 ∧ v.ty ≠ .int32) := by
      rintro ⟨hint, -⟩
      cases hint
    rw [castNumber, if_neg hnot, if_pos ⟨rfl, h⟩]
    rfl

/-- **The plan for a power.** -/
theorem power_ensures (s : Site) : (power s).Ensures fun p => ∃ x y, s.args = [x, y] ∧
    (s.returnType = .int32 ∨ s.returnType = .double) ∧
    p = .of (do push (← castNumber (← rawPower x y s.returnType) s.returnType)) := by
  refine Site.ensures_two rfl fun x y hxy hadmits => ⟨x, y, hxy, ?_, rfl⟩
  have haccepts := ((s.admits_iff _).1 hadmits).2.2.1
  cases hty : s.returnType with
  | int32 => exact .inl rfl
  | double => exact .inr rfl
  | _ => rw [hty] at haccepts; cases haccepts

end Arithmetic

/-! ## What becomes of the call -/

/-- The cast of a value of one type to another, if there is one. -/
def castNodes (value : NodeId) (ty out : ValueType) : List Blueprint :=
  if ty = out then [] else [⟨Op.castTo out, [value], out, none⟩]

/-- What is left of a value that is cast behind the nodes up to `next`. -/
def castValue (value : NodeId) (ty out : ValueType) (next : Nat) : NodeId :=
  if ty = out then value else ⟨next⟩

/-- The number that a node is known to be. -/
def Builder.number? (b : Builder) (id : NodeId) : Option Numeric := (b.facts? id).bind Facts.number?

/-- **The call becomes a power**, left as `top`: `nodes` compute `value`, and that is cast iff it is
not of the type of the result. -/
structure Builder.Raises (b b' : Builder) (base exponent : NodeId) (out : ValueType)
    (nodes : List Blueprint) (value top : NodeId) : Prop where
  uncast : ∀ x ∈ nodes, x.op.isCast = false
  produced : ∃ n, b'.graph.node? value = some n ∧
    b.Becomes b' (nodes ++ castNodes value n.ty out) top ∧
    top = castValue value n.ty out (b.graph.size + nodes.length)
  typed : ∃ n, b'.graph.node? top = some n ∧ n.ty = out
  /-- Whatever numbers the operands are, the value is the power. -/
  power : ∀ {V : Type} [Monoid V] [Div V] (half : V → V) (pow : V → V → V) (ν : NodeId → V),
    ∃ ν', b'.graph.run (.powers half pow) b.graph.size ν = some ν' ∧
      IsPower half pow (ν base) (ν exponent) (b.number? exponent) (ν' top)
  /-- The power is called for only if the exponent is not simple. -/
  called : (∀ e : SimpleExponent, b.number? exponent ≠ some (.finite e.value)) →
    nodes = [⟨.pow, [base, exponent], .double, none⟩]

/-- **A cast keeps the number.** -/
theorem Blueprint.run_castNodes {V : Type} [Monoid V] [Div V] {half : V → V} {pow : V → V → V}
    {next : Nat} {ν ν' : NodeId → V} {xs : List Blueprint} {value : NodeId} {ty out : ValueType}
    (hout : out = .int32 ∨ out = .double) (h : run (.powers half pow) next ν xs = some ν') :
    ∃ ν'', run (.powers half pow) next ν (xs ++ castNodes value ty out) = some ν'' ∧
      ν'' (castValue value ty out (next + xs.length)) = ν' value := by
  rw [run_append, h, Option.bind_some, castNodes, castValue]
  split
  · exact ⟨ν', rfl, rfl⟩
  · refine ⟨Function.update ν' ⟨next + xs.length⟩ (ν' value), ?_, Function.update_self ..⟩
    rcases hout with rfl | rfl <;> rfl

/-- **What is left is of the type that was asked for.** -/
theorem Builder.Becomes.typed_cast {b b' : Builder} {nodes : List Blueprint} {value : NodeId}
    {out : ValueType} {n : Node} (hn : b'.graph.node? value = some n)
    (h : b.Becomes b' (nodes ++ castNodes value n.ty out)
      (castValue value n.ty out (b.graph.size + nodes.length))) :
    ∃ m, b'.graph.node? (castValue value n.ty out (b.graph.size + nodes.length)) = some m ∧
      m.ty = out := by
  by_cases hty : n.ty = out
  · rw [castValue, if_pos hty]
    exact ⟨n, hn, hty⟩
  · have hlast := h.node? nodes.length
    rw [castNodes, if_neg hty, List.getElem?_concat_length, Option.map_eq_some_iff] at hlast
    obtain ⟨m, hm, hblueprint⟩ := hlast
    rw [castValue, if_neg hty]
    exact ⟨m, hm, congrArg Blueprint.ty hblueprint⟩

namespace Inliner

variable {i : Inliner} {stubs : StubStore} {b b' : Builder} {call : Call NodeId} {callee : Callee}
  {f : FunctionObject} {r : Call Operand} {p : Plan} {x y : Operand} {out : ValueType}

open Arithmetic (castNumber rawPower)

/-- A plan whose last step is to push a value. -/
lemma Emits.becomes_of_concat (h : i.Emits b call callee r p b')
    (hcontext : p.usesContext = false) (before : List Step) {v : Ref}
    (hsteps : p.steps = before ++ [.push v]) : ∃ context,
      b.Becomes b' ((before.filterMap Step.sketch?).map (·.resolve b.graph.size context))
        (v.resolve b.graph.size context) := by
  have hsketches : p.sketches = before.filterMap Step.sketch? := by
    rw [Plan.sketches, hsteps, List.filterMap_append]
    exact List.append_nil _
  rw [← hsketches]
  refine h.becomes_of_push hcontext ?_ ?_
  · rw [hsteps]
    exact List.mem_append_right _ (List.mem_singleton_self _)
  · rw [hsteps, List.getLast?_concat]
    rfl

/-- **A value that is pushed is cast** iff it is not of the type of the result. -/
theorem Emits.becomes_cast {d : Draft Operand} (hout : out = .int32 ∨ out = .double)
    (hcount : (d 0).2.1 = d.sketches.length)
    (h : i.Emits b call callee r (.of (do push (← castNumber (← d) out))) b') : ∃ context,
      b.Becomes b' (d.sketches.map (·.resolve b.graph.size context) ++
          castNodes ((d 0).1.resolve b.graph.size context) (d 0).1.ty out)
        (castValue ((d 0).1.resolve b.graph.size context) (d 0).1.ty out
          (b.graph.size + d.sketches.length)) := by
  have hsteps : (Plan.of (do push (← castNumber (← d) out))).steps =
      (d 0).2.2 ++ ((castNumber (d 0).1 out >>= push) (d 0).2.1).2.2 := rfl
  by_cases hty : (d 0).1.ty = out
  · rw [Arithmetic.castNumber_of_eq hty] at hsteps
    obtain ⟨context, hbecomes⟩ := h.becomes_of_concat rfl _ hsteps
    refine ⟨context, ?_⟩
    rw [castNodes, castValue, if_pos hty, if_pos hty, List.append_nil]
    exact hbecomes
  · rw [Arithmetic.castNumber_of_ne hty hout] at hsteps
    obtain ⟨context, hbecomes⟩ := h.becomes_of_concat rfl
      ((d 0).2.2 ++ [.add (Op.castTo out) [(d 0).1.ref] out none])
      (hsteps.trans (List.append_assoc _ _ _).symm)
    rw [List.filterMap_append, List.map_append] at hbecomes
    refine ⟨context, ?_⟩
    rw [castNodes, castValue, if_neg hty, if_neg hty, ← hcount]
    exact hbecomes

/-- **What is produced for a power** is a node of the type that is known of it. -/
theorem Emits.node_of_power (h : i.Emits b call callee r p b') (hx : x ∈ r.args) {context : NodeId}
    {more : List Blueprint} {top : NodeId}
    (hbecomes : b.Becomes b' ((rawPower x y out).sketches.map (·.resolve b.graph.size context) ++
      more) top) :
    ∃ n, b'.graph.node? ((rawPower x y out 0).1.resolve b.graph.size context) = some n ∧
      n.ty = (rawPower x y out 0).1.ty := by
  obtain ⟨-, -, ⟨hv, -⟩ | ⟨k, node, href, hnode, hty⟩⟩ :=
    (Arithmetic.typed_rawPower x y out).start
  · have hfacts := h.resolved.facts?_arg b.graph.size context hx
    obtain ⟨m, hm, hmfacts⟩ := Option.map_eq_some_iff.1 hfacts
    have hextends := h.orderly.extends h.live h.resolved.lt_size h.emit
    have hkept := hextends.node? (Graph.lt_size_of_node? hm)
    rw [hm, Option.map_some, Option.map_eq_some_iff] at hkept
    obtain ⟨n, hn, hblueprint⟩ := hkept
    rw [hv]
    exact ⟨n, hn, (congrArg Blueprint.ty hblueprint).trans (congrArg Facts.ty hmfacts)⟩
  · have hk := hbecomes.node? k
    obtain ⟨hlt, -⟩ := List.getElem?_eq_some_iff.1 hnode
    rw [List.getElem?_append_left (by rwa [List.length_map]), List.getElem?_map, hnode,
      Option.map_some, Option.map_eq_some_iff] at hk
    obtain ⟨n, hn, hblueprint⟩ := hk
    rw [Operand.resolve, href]
    exact ⟨n, hn, (congrArg Blueprint.ty hblueprint).trans hty⟩

/-- **A plan for a power** makes the call that power. -/
theorem Emits.raises (hargs : r.args = [x, y]) (hout : out = .int32 ∨ out = .double)
    (h : i.Emits b call callee r (.of (do push (← castNumber (← rawPower x y out) out))) b') :
    ∃ base exponent nodes value top, call.args = [base, exponent] ∧
      b.Raises b' base exponent out nodes value top := by
  obtain ⟨hcount, huncast, -⟩ := (Arithmetic.typed_rawPower x y out).start
  obtain ⟨context, hbecomes⟩ := h.becomes_cast hout hcount
  have hx : x ∈ r.args := by simp [hargs]
  have hy : y ∈ r.args := by simp [hargs]
  obtain ⟨n, hn, hty⟩ := h.node_of_power hx hbecomes
  have hnumber : b.number? (y.resolve b.graph.size context) = y.number? := by
    rw [Builder.number?, Operand.resolve, h.resolved.facts?_arg b.graph.size context hy]
    rfl
  generalize hnodes : (rawPower x y out).sketches.map (·.resolve b.graph.size context) = nodes
    at hbecomes
  have hlength : (rawPower x y out).sketches.length = nodes.length := by
    rw [← hnodes, List.length_map]
  rw [← hty, hlength] at hbecomes
  refine ⟨x.resolve b.graph.size context, y.resolve b.graph.size context, nodes, _, _, ?_, ?_,
    ⟨n, hn, hbecomes, rfl⟩, hbecomes.typed_cast hn, fun half pow ν => ?_, fun hsimple => ?_⟩
  · rw [← h.resolved.args_eq b.graph.size context, hargs]
    rfl
  · rw [← hnodes]
    intro z hz
    obtain ⟨sketch, hsketch, rfl⟩ := List.mem_map.1 hz
    obtain ⟨k, hk⟩ := List.mem_iff_getElem?.1 hsketch
    exact huncast.getElem? hk
  · have hold : Arithmetic.Old b.graph.size context x := by
      obtain ⟨m, hm, -⟩ := Option.map_eq_some_iff.1 (h.resolved.facts?_arg b.graph.size context hx)
      exact Graph.lt_size_of_node? hm
    obtain ⟨-, -, ν₁, hruns, hpower⟩ :=
      (Arithmetic.writes_rawPower y out half pow ν hold).start
    rw [Sketch.RunsTo, hnodes] at hruns
    obtain ⟨ν', hrun, hvalue⟩ := Blueprint.run_castNodes hout hruns
    refine ⟨ν', ?_, ?_⟩
    · rw [Graph.run, hbecomes.added]
      exact hrun
    · rw [hvalue, hnumber]
      exact hpower
  · rw [hnumber] at hsimple
    rw [← hnodes, Arithmetic.rawPower_of_not_simple hsimple]
    rfl

/-- **A call for a power computes it**, in the type of its result: products for the exponents up to
four, a root or its inverse for a half, and a call for every other exponent. -/
theorem attempt_power (h : (i.attempt stubs b call (.function f)).result = .ok .inlined)
    (hf : f.native? = some .mathPow) :
    ∃ base exponent nodes value top, call.args = [base, exponent] ∧
      b.Raises (i.attempt stubs b call (.function f)).builder base exponent call.returnType nodes
        value top := by
  obtain ⟨r, p, hemits⟩ := exists_emits h
  obtain ⟨x, y, hargs, hout, rfl⟩ :=
    (Arithmetic.power_ensures (i.site r)).of_eq_ok (hemits.decide_eq_ok hf rfl)
  have hreturn : (i.site r).returnType = call.returnType :=
    congrArg TypeSet.knownType hemits.resolved.resultTypes_eq
  rw [hreturn] at hout hemits
  exact hemits.raises hargs hout

end Inliner

/-- The inverse square root of an int32, where the result was always an int32. -/
def Scenario.inverseRoot : Scenario where
  callee := .function (.ofNative ⟨1⟩ .mathPow)
  args := [.typed .int32 none, .constant (.double ⟨0xBFE0000000000000⟩)]
  resultTypes := some (.ofType .int32)

/-- It is computed in doubles and cast. -/
theorem attempt_power_inverseRoot :
    (Scenario.inverseRoot.attempt {} Scenario.inverseRoot.builder).result = .ok .inlined ∧
    ∃ base exponent nodes value top, Scenario.inverseRoot.call.args = [base, exponent] ∧
      Scenario.inverseRoot.builder.Raises
        (Scenario.inverseRoot.attempt {} Scenario.inverseRoot.builder).builder base exponent .int32
        nodes value top := by
  have hinlined : (Scenario.inverseRoot.attempt {} Scenario.inverseRoot.builder).result =
      .ok .inlined := by
    decide +kernel
  exact ⟨hinlined, Inliner.attempt_power hinlined rfl⟩

end CallSite
