import CallSite.Proofs.Evolution.Core
import CallSite.Specialize.Signature

/-!
# Calls and plans up to their cores

A specialization that looks at the core of its site alone gives plans with the same core on all
sites of one core.  For most specializations this is what has to be shown, and the way there is an
equation: to decide on the core of a site is to take the core of the plan.

* `Site.core`, `Plan.core` — what never changes of a site and of a plan.
* `Site.classify_core`, `Site.arg_core`, `Site.template_core` — the first steps of every decision.
* `Plan.core_relyingOn` — the core of a plan from that of its draft.
-/

namespace CallSite

/-! ## Cores -/

/-- The call with the core of the observed result types. -/
def Call.core {ν : Type} (c : Call ν) : Call ν := { c with resultTypes := c.resultTypes.core }

/-- The engine with the cores of the templates; whether the array prototype has indexed properties
may change. -/
def Engine.core (env : Engine) : Engine :=
  { env with
    template? := fun site native => (env.template? site native).map Template.core
    classTemplate? := fun site c => (env.classTemplate? site c).map Template.core
    indexedArrayPrototype := false }

/-- **What never changes of a site.** -/
def Site.core (s : Site) : Site :=
  { s with call := (s.call.map Operand.core).core, env := s.env.core }

def Step.core : Step → Step
  | .add op inputs ty types => .add op inputs ty (types.map TypeSet.core)
  | .push v => .push v
  | .resume v => .resume v
  | .guardTop v observed => .guardTop v observed.core

/-- **What never changes of a plan.** -/
def Plan.core (p : Plan) : Plan := { p with steps := p.steps.map Step.core }

/-! ## Sites -/

@[simp] lemma Engine.template?_core (env : Engine) (site : SiteId) (native : Native) :
    env.core.template? site native = (env.template? site native).map Template.core := rfl

@[simp] lemma Engine.classTemplate?_core (env : Engine) (site : SiteId) (c : ObjectClass) :
    env.core.classTemplate? site c = (env.classTemplate? site c).map Template.core := rfl

namespace Signature

lemma accepts_core (c : OperandClass) (f : Facts) : c.accepts f.core = c.accepts f := by
  cases c with
  | notObject => exact congrArg (!·) (f.mightBe_core .object)
  | _ => rfl

lemma checkArgs_core (index : Nat) (cs : List OperandClass) (fs : List Facts) :
    checkArgs index cs (fs.map Facts.core) = checkArgs index cs fs := by
  induction cs generalizing index fs with
  | nil => cases fs <;> rfl
  | cons c cs ih =>
    cases fs with
    | nil => rfl
    | cons f fs =>
      rw [List.map_cons, checkArgs, checkArgs, accepts_core, ih]
      rfl

/-- A signature looks at the core of a call alone. -/
lemma check_core (sig : Signature) (c : Call Facts) :
    sig.check (c.map Facts.core).core = sig.check c := by
  have hargc : (c.map Facts.core).core.argc = c.argc := List.length_map _
  have hreturn : (c.map Facts.core).core.returnType = c.returnType := c.resultTypes.knownType_core
  have hreceiver : sig.receiver.accepts (c.map Facts.core).core.receiver =
      sig.receiver.accepts c.receiver := accepts_core _ _
  have hargs : checkArgs 0 sig.args (c.map Facts.core).core.args = checkArgs 0 sig.args c.args :=
    checkArgs_core _ _ _
  rw [check, hargc, hreturn, hreceiver, hargs]
  rfl

end Signature

lemma Decide.need_map {α β : Type} (f : α → β) (v : Option α) (o : Obstacle) :
    Decide.need (v.map f) o = f <$> Decide.need v o := by
  cases v <;> rfl

namespace Site

variable (s : Site)

@[simp] lemma receiver_core : s.core.receiver = s.receiver.core := rfl

@[simp] lemma args_core : s.core.args = s.args.map Operand.core := rfl

@[simp] lemma argc_core : s.core.argc = s.argc := List.length_map _

@[simp] lemma returnType_core : s.core.returnType = s.returnType := s.call.resultTypes.knownType_core

@[simp] lemma resultTypes_core : s.core.call.resultTypes = s.call.resultTypes.core := rfl

@[simp] lemma config_core : s.core.config = s.config := rfl

@[simp] lemma frame_core : s.core.frame = s.frame := rfl

@[simp] lemma classify_core (sig : Signature) : s.core.classify sig = s.classify sig := by
  have hcall : s.core.call.map Operand.toFacts =
      ((s.call.map Operand.toFacts).map Facts.core).core := by
    simp only [core, Call.map, Call.core, List.map_map]
    rfl
  rw [classify, classify, hcall, sig.check_core]

@[simp] lemma arg_core (index : Nat) : s.core.arg index = Operand.core <$> s.arg index := by
  rw [arg, arg, args_core, List.getElem?_map]
  cases s.args[index]? <;> rfl

@[simp] lemma template_core (native : Native) :
    s.core.template native = Template.core <$> s.template native := by
  rw [template, template, ← Decide.need_map, ← Engine.template?_core]
  rfl

/-- A decision about the first argument, after the shape of the call. -/
lemma core_one {sig : Signature} {f f' : Operand → Decide Plan}
    (h : ∀ x, f' x.core = Plan.core <$> f x) :
    (s.core.classify sig >>= fun _ => s.core.arg 0 >>= f') =
      Plan.core <$> (s.classify sig >>= fun _ => s.arg 0 >>= f) := by
  rw [classify_core, arg_core]
  simp only [map_bind, bind_map_left, h]

/-- A decision about the first two arguments, after the shape of the call. -/
lemma core_two {sig : Signature} {f f' : Operand → Operand → Decide Plan}
    (h : ∀ x y, f' x.core y.core = Plan.core <$> f x y) :
    (s.core.classify sig >>= fun _ => s.core.arg 0 >>= fun x => s.core.arg 1 >>= f' x) =
      Plan.core <$> (s.classify sig >>= fun _ => s.arg 0 >>= fun x => s.arg 1 >>= f x) := by
  rw [classify_core, arg_core, arg_core]
  simp only [map_bind, bind_map_left, h]

end Site

/-! ## Plans -/

namespace Draft

/-- **The draft of a core.**  Steps are replaced by their cores, and the value by what `f` makes of
it. -/
def core {α β : Type} (f : α → β) (d : Draft α) : Draft β := fun n =>
  (f (d n).1, (d n).2.1, (d n).2.2.map Step.core)

variable {α β γ δ : Type}

/-- The core of two drafts in a row: the steps of the first, and the core of the second. -/
lemma core_bind_apply (g : β → δ) (d : Draft α) (k : α → Draft β) (n : Nat) :
    (d >>= k).core g n =
      (((k (d n).1).core g (d n).2.1).1, ((k (d n).1).core g (d n).2.1).2.1,
        (d n).2.2.map Step.core ++ ((k (d n).1).core g (d n).2.1).2.2) := by
  show (g _, _, ((d n).2.2 ++ _).map Step.core) = _
  rw [List.map_append]
  rfl

/-- A draft that commutes with taking cores part by part does so as a whole. -/
lemma core_bind {f : α → γ} {g : β → δ} {d : Draft α} {k : α → Draft β} {k' : γ → Draft δ}
    (h : ∀ a, core g (k a) = k' (f a)) : core g (d >>= k) = core f d >>= k' := by
  funext n
  rw [core_bind_apply, h]
  rfl

/-- Drafts with the same core part by part have the same core as a whole. -/
lemma core_bind_congr {f : α → γ} {g : β → δ} {d d' : Draft α} {k k' : α → Draft β}
    (hd : d'.core f = d.core f) (hk : ∀ a a', f a' = f a → (k' a').core g = (k a).core g) :
    (d' >>= k').core g = (d >>= k).core g := by
  funext n
  have hn : (f (d' n).1, (d' n).2.1, (d' n).2.2.map Step.core) =
      (f (d n).1, (d n).2.1, (d n).2.2.map Step.core) := congrFun hd n
  rw [Prod.mk.injEq, Prod.mk.injEq] at hn
  obtain ⟨hvalue, hcount, hsteps⟩ := hn
  rw [core_bind_apply, core_bind_apply, hk _ _ hvalue, hcount, hsteps]

lemma core_add (op : Op) (inputs : List Operand) (ty : ValueType) (types : Option TypeSet) :
    core Operand.core (add op inputs ty types) =
      add op (inputs.map Operand.core) ty (types.map TypeSet.core) := by
  funext n
  show (_, _, [Step.core _]) = (_, _, [_])
  rw [List.map_map]
  rfl

lemma core_add_congr (op : Op) {inputs inputs' : List Operand}
    (hinputs : inputs'.map Operand.core = inputs.map Operand.core) (ty : ValueType)
    {types types' : Option TypeSet} (htypes : types'.map TypeSet.core = types.map TypeSet.core) :
    core Operand.core (add op inputs' ty types') = core Operand.core (add op inputs ty types) := by
  rw [core_add, core_add, hinputs, htypes]

lemma core_push (v : Operand) : core id (push v) = push v.core := rfl

lemma core_resumeAfter (v : Operand) : core id (resumeAfter v) = resumeAfter v.core := rfl

lemma core_guardTop (v : Operand) (observed : TypeSet) (barrier : Barrier) :
    core id (guardTop v observed barrier) = guardTop v.core observed.core barrier := by
  cases barrier <;> rfl

lemma core_effectfulResult (op : Op) (inputs : List Operand) (ty : ValueType)
    (types : Option TypeSet) :
    core id (effectfulResult op inputs ty types) =
      effectfulResult op (inputs.map Operand.core) ty (types.map TypeSet.core) := by
  rw [effectfulResult, effectfulResult, ← core_add]
  exact core_bind fun _ => rfl

lemma core_effectfulResult_congr (op : Op) {inputs inputs' : List Operand}
    (hinputs : inputs'.map Operand.core = inputs.map Operand.core) (ty : ValueType)
    {types types' : Option TypeSet} (htypes : types'.map TypeSet.core = types.map TypeSet.core) :
    core id (effectfulResult op inputs' ty types') =
      core id (effectfulResult op inputs ty types) := by
  rw [core_effectfulResult, core_effectfulResult, hinputs, htypes]

end Draft

@[simp] lemma Plan.usesContext_core (p : Plan) : p.core.usesContext = p.usesContext := rfl

@[simp] lemma Plan.steps_core (p : Plan) : p.core.steps = p.steps.map Step.core := rfl

/-- The core of a plan is the plan of the core of its draft. -/
lemma Plan.core_relyingOn (facts : List Dependency) (d : Draft Unit) :
    (relyingOn facts d).core = relyingOn facts (d.core id) := rfl

lemma Plan.core_relyingOn_congr (facts : List Dependency) {d d' : Draft Unit}
    (h : d'.core id = d.core id) : (relyingOn facts d').core = (relyingOn facts d).core := by
  rw [core_relyingOn, core_relyingOn, h]

end CallSite
