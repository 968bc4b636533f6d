import CallSite.Specialize.Signature
import Mathlib.Data.List.Basic

/-!
# What a decision guarantees

A decision about a call declines it, gives a value, or asks for an argument that the call does not
have.  The last would be an access out of range, and a signature is what rules it out: once the
argument count is accepted, the positions that follow from it are there.

* `Decide.Ensures` — a decision never asks for a missing argument, and a value that it gives has a
  property.
* `Decide.bind_eq_ok` and its companions — when a decision gives a value, step by step.
* `Site.Admits` — the call has the shape of a signature.
* `Site.Admits.args_eq_one` and its companions — the arguments that an exact count stands for.

The rules of `Ensures` follow the ways in which decisions are written, so a specialization is opened
by rewriting with them and what is left is about its plan.
-/

namespace CallSite

namespace Decide

variable {α β : Type}

/-- **The decision declines, or gives a value with the property**; it asks for no argument that is
not there. -/
def Ensures (x : Decide α) (holds : α → Prop) : Prop :=
  match x with
  | .ok a => holds a
  | .error (.declined _) => True
  | .error (.missingArgument _) => False

@[simp] lemma ensures_pure (a : α) (holds : α → Prop) :
    Ensures (pure a) holds ↔ holds a := Iff.rfl

@[simp] lemma ensures_ok (a : α) (holds : α → Prop) :
    Ensures (.ok a) holds ↔ holds a := Iff.rfl

@[simp] lemma ensures_decline (reason : Refusal) (holds : α → Prop) :
    Ensures (decline reason) holds ↔ True := Iff.rfl

@[simp] lemma ensures_refuse (o : Obstacle) (holds : α → Prop) :
    Ensures (refuse o) holds ↔ True := Iff.rfl

/-- Two decisions in a row: the second starts from what the first ensures. -/
@[simp] lemma ensures_bind (x : Decide α) (f : α → Decide β) (holds : β → Prop) :
    Ensures (x >>= f) holds ↔ Ensures x fun a => Ensures (f a) holds := by
  rcases x with (_ | _) | _ <;> rfl

@[simp] lemma ensures_map (x : Decide α) (f : α → β) (holds : β → Prop) :
    Ensures (f <$> x) holds ↔ Ensures x fun a => holds (f a) := by
  rcases x with (_ | _) | _ <;> rfl

@[simp] lemma ensures_require (condition : Bool) (o : Obstacle) (holds : Unit → Prop) :
    Ensures (require condition o) holds ↔ (condition = true → holds ()) := by
  cases condition <;> simp [require]

@[simp] lemma ensures_need (value : Option α) (o : Obstacle) (holds : α → Prop) :
    Ensures (need value o) holds ↔ ∀ a, value = some a → holds a := by
  cases value <;> simp [need]

/-- What is ensured may be weakened. -/
lemma Ensures.imp {x : Decide α} {holds holds' : α → Prop} (h : x.Ensures holds)
    (weaken : ∀ a, holds a → holds' a) : x.Ensures holds' := by
  rcases x with (_ | _) | a
  · trivial
  · exact h
  · exact weaken a h

/-- What is ensured is true of the value that is given. -/
lemma Ensures.of_eq_ok {x : Decide α} {holds : α → Prop} {a : α} (h : x.Ensures holds)
    (hx : x = .ok a) : holds a := by
  subst hx
  exact h

/-- No argument that is missing was asked for. -/
lemma Ensures.ne_missingArgument {x : Decide α} {holds : α → Prop} (h : x.Ensures holds)
    (index : Nat) : x ≠ .error (.missingArgument index) := by
  rintro rfl
  exact h

/-! ## When a decision gives a value -/

lemma bind_eq_ok {x : Decide α} {f : α → Decide β} {b : β} :
    x >>= f = .ok b ↔ ∃ a, x = .ok a ∧ f a = .ok b := by
  cases x with
  | error e =>
    refine ⟨nofun, ?_⟩
    rintro ⟨a, ha, -⟩
    cases ha
  | ok a =>
    refine ⟨fun h => ⟨a, rfl, h⟩, ?_⟩
    rintro ⟨a', ha, h⟩
    cases ha
    exact h

lemma map_eq_ok {x : Decide α} {f : α → β} {b : β} :
    f <$> x = .ok b ↔ ∃ a, x = .ok a ∧ f a = b := by
  cases x with
  | error e =>
    refine ⟨nofun, ?_⟩
    rintro ⟨a, ha, -⟩
    cases ha
  | ok a =>
    refine ⟨fun h => ⟨a, rfl, Except.ok.inj h⟩, ?_⟩
    rintro ⟨a', ha, rfl⟩
    cases ha
    rfl

lemma pure_eq_ok {a b : α} : (pure a : Decide α) = .ok b ↔ a = b :=
  ⟨Except.ok.inj, congrArg Except.ok⟩

lemma require_eq_ok {condition : Bool} {o : Obstacle} {u : Unit} :
    require condition o = .ok u ↔ condition = true := by
  cases condition with
  | false => exact ⟨nofun, nofun⟩
  | true => exact ⟨fun _ => rfl, fun _ => rfl⟩

lemma need_eq_ok {value : Option α} {o : Obstacle} {a : α} :
    need value o = .ok a ↔ value = some a := by
  cases value with
  | none => exact ⟨nofun, nofun⟩
  | some b => exact ⟨fun h => congrArg some (Except.ok.inj h), fun h => by cases h; rfl⟩

end Decide

/-! ## Signatures -/

namespace Site

/-- **The call has the shape of the signature.** -/
def Admits (s : Site) (sig : Signature) : Prop := sig.check (s.call.map Operand.toFacts) = .ok ()

@[simp] lemma ensures_classify (s : Site) (sig : Signature) (holds : Unit → Prop) :
    (s.classify sig).Ensures holds ↔ (s.Admits sig → holds ()) := by
  rw [Site.classify, Admits]
  cases sig.check (s.call.map Operand.toFacts) with
  | ok u => simp
  | error reason => simp

lemma admits_of_classify {s : Site} {sig : Signature} {u : Unit} (h : s.classify sig = .ok u) :
    s.Admits sig := by
  rw [Site.classify] at h
  split at h
  · assumption
  · cases h

/-- A call of the shape goes on. -/
lemma classify_eq_ok {s : Site} {sig : Signature} (h : s.Admits sig) :
    s.classify sig = .ok () := by
  rw [classify, h]

@[simp] lemma ensures_arg (s : Site) (index : Nat) (holds : Operand → Prop) :
    (s.arg index).Ensures holds ↔ ∃ a, s.args[index]? = some a ∧ holds a := by
  rw [Site.arg]
  cases s.args[index]? with
  | none => simp [Decide.Ensures]
  | some a => simp

lemma arg_eq_ok {s : Site} {index : Nat} {x : Operand} :
    s.arg index = .ok x ↔ s.args[index]? = some x := by
  rw [arg]
  cases s.args[index]? with
  | none => exact ⟨nofun, nofun⟩
  | some y => exact ⟨fun h => congrArg some (Except.ok.inj h), fun h => by cases h; rfl⟩

@[simp] lemma ensures_template (s : Site) (native : Native) (holds : Template → Prop) :
    (s.template native).Ensures holds ↔
      ∀ t, s.env.template? s.call.site native = some t → holds t := by
  simp [Site.template]

/-- A check in front of others passes together with them. -/
private lemma check_then_eq_ok {ε α : Type} (passes : Bool) (e : ε) (rest : Except ε α) (a : α) :
    (if (!passes) = true then throw e >>= fun _ : Unit => rest else rest) = .ok a ↔
      passes = true ∧ rest = .ok a := by
  cases passes <;> simp [throw, throwThe, MonadExceptOf.throw, bind, Except.bind]

/-- **A call is admitted iff it passes every check of the signature.** -/
theorem admits_iff (s : Site) (sig : Signature) :
    s.Admits sig ↔
      Signature.checkConstructing sig.constructing s.call.constructing = .ok () ∧
      sig.arity.accepts s.argc = true ∧ sig.result.accepts s.returnType = true ∧
      sig.receiver.accepts s.receiver.toFacts = true ∧
      Signature.checkArgs 0 sig.args (s.args.map Operand.toFacts) = .ok () := by
  have hargc : (s.call.map Operand.toFacts).argc = s.argc := List.length_map _
  rw [Admits, Signature.check]
  rw [show (s.call.map Operand.toFacts).constructing = s.call.constructing from rfl]
  cases Signature.checkConstructing sig.constructing s.call.constructing with
  | error e => simp [bind, Except.bind]
  | ok u =>
    show (if _ then _ else _) = _ ↔ _
    simp only [check_then_eq_ok, hargc, true_and]
    rfl

namespace Admits

variable {s : Site} {sig : Signature}

/-- The argument count is an accepted one. -/
lemma accepts (h : s.Admits sig) : sig.arity.accepts s.args.length = true :=
  ((s.admits_iff sig).1 h).2.1

/-- A call with exactly `n` arguments has `n` of them. -/
lemma length_eq {n : Nat} (h : s.Admits sig) (ha : sig.arity = .exactly n) :
    s.args.length = n := by
  have := h.accepts
  rw [ha] at this
  simpa [Arity.accepts] using this

lemma args_eq_one (h : s.Admits sig) (ha : sig.arity = .exactly 1) : ∃ x, s.args = [x] :=
  List.length_eq_one_iff.1 (h.length_eq ha)

/-- The only argument of a call. -/
lemma args_eq_of_arg (h : s.Admits sig) (ha : sig.arity = .exactly 1) {x : Operand}
    (hx : s.arg 0 = .ok x) : s.args = [x] := by
  obtain ⟨y, hy⟩ := h.args_eq_one ha
  rw [arg_eq_ok, hy] at hx
  obtain rfl := Option.some.inj hx
  exact hy

lemma args_eq_two (h : s.Admits sig) (ha : sig.arity = .exactly 2) :
    ∃ x y, s.args = [x, y] :=
  List.length_eq_two.1 (h.length_eq ha)

lemma args_eq_three (h : s.Admits sig) (ha : sig.arity = .exactly 3) :
    ∃ x y z, s.args = [x, y, z] :=
  List.length_eq_three.1 (h.length_eq ha)

lemma args_eq_four (h : s.Admits sig) (ha : sig.arity = .exactly 4) :
    ∃ x y z w, s.args = [x, y, z, w] := by
  have hl := h.length_eq ha
  generalize s.args = args at hl ⊢
  rcases args with _ | ⟨x, _ | ⟨y, _ | ⟨z, _ | ⟨w, _ | _⟩⟩⟩⟩ <;> simp_all

end Admits

variable {α : Type} {s : Site} {sig : Signature} {holds : α → Prop}

/-- A decision about a call of exactly one argument. -/
lemma ensures_one {f : Operand → Decide α} (ha : sig.arity = .exactly 1)
    (h : ∀ x, s.args = [x] → s.Admits sig → (f x).Ensures holds) :
    Decide.Ensures (s.classify sig >>= fun _ => s.arg 0 >>= f) holds := by
  rw [Decide.ensures_bind, ensures_classify]
  intro hs
  obtain ⟨x, hx⟩ := hs.args_eq_one ha
  rw [Decide.ensures_bind, ensures_arg, hx]
  exact ⟨x, rfl, h x hx hs⟩

/-- A decision about a call of exactly two arguments. -/
lemma ensures_two {f : Operand → Operand → Decide α} (ha : sig.arity = .exactly 2)
    (h : ∀ x y, s.args = [x, y] → s.Admits sig → (f x y).Ensures holds) :
    Decide.Ensures (s.classify sig >>= fun _ => s.arg 0 >>= fun x => s.arg 1 >>= f x) holds := by
  rw [Decide.ensures_bind, ensures_classify]
  intro hs
  obtain ⟨x, y, hxy⟩ := hs.args_eq_two ha
  simp only [Decide.ensures_bind, ensures_arg, hxy]
  exact ⟨x, rfl, y, rfl, h x y hxy hs⟩

end Site

end CallSite
