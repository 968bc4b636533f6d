import CallSite.Proofs.Decision
import CallSite.Proofs.Lookup
import CallSite.Routine.Basic
import Mathlib.Tactic.Lemma

/-!
# How routines decide

Up to the commit of its call a routine looks at operands and returns where a condition fails.  What
it does there is what the decision about the call says: it goes on with the same values, and where
the decision declines the call, the routine has reported exactly that and nothing else has happened.

* `Session.Attends` — a session in which a live call is being specialized.
* `Routine.Decides` — **a routine comes to a decision**, in a session that stays as it is unless the
  call is declined.
* `Routine.decides_bind` — one decision after another.
* `Routine.decides_observe`, `Routine.decides_classify` and the rest — the ways in which routines
  decide.
-/

namespace CallSite

/-! ## Sessions -/

/-- The session with one more event. -/
def Session.reporting (s : Session) (e : Event) : Session := { s with log := s.log ++ [e] }

/-- **A live call is being specialized**, and its operands are these. -/
structure Session.Attends (s : Session) (call : Call NodeId) (r : Call Operand) : Prop where
  live : s.builder.isDead call.site = false
  resolved : Inliner.Resolved s.builder call r

namespace Routine

variable {α β γ δ : Type} {s : Session}

instance : LawfulMonad Routine := LawfulMonad.mk' Routine
  (fun x => funext fun s => by
    show Routine.bind x (fun a => Routine.pure a) s = x s
    rw [Routine.bind]
    rcases x s with ⟨_ | _, _⟩ <;> rfl)
  (fun _ _ => rfl)
  (fun x f g => funext fun s => by
    show Routine.bind (Routine.bind x f) g s = Routine.bind x (fun a => Routine.bind (f a) g) s
    rw [Routine.bind, Routine.bind, Routine.bind]
    rcases x s with ⟨_ | _, _⟩ <;> rfl)

/-- A routine that gives a value is followed by the next. -/
lemma bind_of_ok {x : Routine α} {a : α} {s' : Session} (h : x s = (.ok a, s'))
    (f : α → Routine β) : (x >>= f) s = f a s' := by
  show Routine.bind x f s = _
  rw [Routine.bind, h]

/-- A routine that stops is not followed by anything. -/
lemma bind_of_error {x : Routine α} {e : Exit} {s' : Session} (h : x s = (.error e, s'))
    (f : α → Routine β) : (x >>= f) s = (.error e, s') := by
  show Routine.bind x f s = _
  rw [Routine.bind, h]

/-- Looking at the session leaves it as it is. -/
lemma read_bind (f : Session → Routine α) (s : Session) : (read >>= f) s = f s s := rfl

/-! ## Coming to a decision -/

/-- **The routine comes to the decision.**  It gives a value that stands for the one decided on and
leaves the session as it is; or it declines the call and returns, with the refusal as the one event
reported; or an index is out of range. -/
def Decides (s : Session) (stands : α → β → Prop) (x : Routine β) (d : Decide α) : Prop :=
  match d with
  | .ok a => ∃ b, x s = (.ok b, s) ∧ stands a b
  | .error (.declined reason) =>
    x s = (.error (.returned .notInlined), s.reporting (.notInlined reason))
  | .error (.missingArgument _) => x s = (.error .panicked, s)

variable {stands : α → β → Prop} {stands' : γ → δ → Prop}

lemma decides_pure {a : α} {b : β} (h : stands a b) : Decides s stands (pure b) (pure a) :=
  ⟨b, rfl, h⟩

lemma decides_refuse (reason : Refusal) :
    Decides s stands (refuse reason) (Decide.decline reason) := rfl

/-- What is known of the value may be weakened. -/
lemma Decides.imp {stands' : α → β → Prop} {x : Routine β} {d : Decide α}
    (h : Decides s stands x d) (weaken : ∀ a b, stands a b → stands' a b) :
    Decides s stands' x d := by
  rcases d with (reason | index) | a
  · exact h
  · exact h
  · obtain ⟨b, hb, hab⟩ := h
    exact ⟨b, hb, weaken a b hab⟩

/-- Only the run in the session matters. -/
lemma decides_congr {x y : Routine β} (h : x s = y s) (d : Decide α) :
    Decides s stands x d ↔ Decides s stands y d := by
  rw [Decides.eq_def, Decides.eq_def, h]

/-- **One decision after another.** -/
lemma decides_bind {x : Routine β} {d : Decide α} {f : β → Routine δ} {g : α → Decide γ}
    (hx : Decides s stands x d)
    (hf : ∀ a b, d = .ok a → stands a b → Decides s stands' (f b) (g a)) :
    Decides s stands' (x >>= f) (d >>= g) := by
  rcases d with (reason | index) | a
  · exact bind_of_error hx f
  · exact bind_of_error hx f
  · obtain ⟨b, hb, hab⟩ := hx
    exact (decides_congr (bind_of_ok hb f) (g a)).2 (hf a b rfl hab)

/-- A routine that gives a value without a decision. -/
lemma decides_of_ok {x : Routine β} {b : β} (hx : x s = (.ok b, s)) {f : β → Routine δ}
    {d : Decide γ} (hf : Decides s stands' (f b) d) : Decides s stands' (x >>= f) d :=
  (decides_congr (bind_of_ok hx f) d).2 hf

lemma decides_check (d : Decide α) : Decides s Eq (check d) d := by
  rcases d with (reason | index) | a
  · rfl
  · rfl
  · exact ⟨a, rfl, rfl⟩

lemma decides_need (value : Option α) (o : Obstacle) :
    Decides s Eq (need value o) (Decide.need value o) := by
  cases value with
  | none => rfl
  | some a => exact ⟨a, rfl, rfl⟩

lemma decides_require (condition : Bool) (o : Obstacle) :
    Decides s Eq (require condition o) (Decide.require condition o) := by
  cases condition with
  | false => rfl
  | true => exact ⟨(), rfl, rfl⟩

/-! ## Looking at operands -/

lemma observe_of_operand? {id : NodeId} {x : Operand} (h : s.builder.operand? id = some x) :
    observe id s = (.ok x, s) := by
  rw [observe, read_bind, h]
  rfl

/-- An argument that is there is looked up without a decision. -/
lemma arg_eq_pure {call : Call NodeId} {index : Nat} {id : NodeId}
    (h : call.args[index]? = some id) : arg call index = pure id := by
  rw [arg, h]

/-! ## The shape of a call -/

/-- A condition of the shape. -/
lemma decides_expect {condition : Bool} {reason : Refusal} {x : Routine Unit}
    {r : Except Refusal Unit}
    (hx : condition = true → Decides s Eq x (r.mapError .declined)) :
    Decides s Eq (expect condition reason >>= fun _ => x)
      ((if (!condition) = true then throw reason >>= fun _ : Unit => r else r).mapError
        .declined) := by
  cases condition with
  | false => rfl
  | true => exact decides_of_ok rfl (hx rfl)

lemma decides_classifyArgs {ids : List NodeId} {xs : List Operand}
    (h : List.Forall₂ (fun id x => s.builder.operand? id = some x) ids xs)
    (classes : List OperandClass) (index : Nat) :
    Decides s Eq (classifyArgs index classes ids)
      ((Signature.checkArgs index classes (xs.map Operand.toFacts)).mapError .declined) := by
  induction h generalizing classes index with
  | nil => cases classes <;> exact ⟨(), rfl, rfl⟩
  | @cons id x ids xs hx _ ih =>
    cases classes with
    | nil => exact ⟨(), rfl, rfl⟩
    | cons c cs =>
      refine decides_of_ok (observe_of_operand? hx) ?_
      rw [List.map_cons, Signature.checkArgs]
      cases hc : c.accepts x.toFacts with
      | false => rfl
      | true => exact decides_of_ok rfl (ih cs (index + 1))

lemma decides_checkConstructing (rule : ConstructRule) (constructing : Bool) :
    Decides s Eq (checkConstructing rule constructing)
      ((Signature.checkConstructing rule constructing).mapError .declined) := by
  cases rule <;> cases constructing <;> first | rfl | exact ⟨(), rfl, rfl⟩

/-- A check after another one. -/
lemma mapError_bind (x : Except Refusal α) (f : α → Except Refusal γ) :
    (x >>= f).mapError Stop.declined =
      x.mapError Stop.declined >>= fun a => (f a).mapError Stop.declined := by
  cases x <;> rfl

/-- **A routine checks the shape of a call** as a decision does. -/
lemma decides_classify {call : Call NodeId} {r : Call Operand} (h : s.Attends call r)
    (i : Inliner) (sig : Signature) :
    Decides s Eq (classify call sig) ((i.site r).classify sig) := by
  have hcheck : (i.site r).classify sig =
      (sig.check (r.map Operand.toFacts)).mapError Stop.declined := by
    rw [Site.classify, show (i.site r).call = r from rfl]
    cases sig.check (r.map Operand.toFacts) <;> rfl
  have hargc : (r.map Operand.toFacts).argc = call.argc :=
    (List.length_map _).trans h.resolved.argc_eq
  have hreturn : (r.map Operand.toFacts).returnType = call.returnType :=
    congrArg TypeSet.knownType h.resolved.resultTypes_eq
  have hconstructing : (r.map Operand.toFacts).constructing = call.constructing :=
    h.resolved.constructing_eq
  rw [hcheck, Signature.check, mapError_bind, classify, hconstructing]
  refine decides_bind (decides_checkConstructing _ _) fun _ _ _ _ => ?_
  rw [hargc, hreturn]
  refine decides_expect fun _ => decides_expect fun _ => ?_
  refine decides_of_ok (observe_of_operand? h.resolved.operand?_receiver) ?_
  exact decides_expect fun _ => decides_classifyArgs h.resolved.forall₂_args _ _

end Routine

end CallSite
