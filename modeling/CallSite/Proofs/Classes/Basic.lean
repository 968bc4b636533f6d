import CallSite.Proofs.Decision
import CallSite.Proofs.Sketch

/-!
# What operations presume of their operands

Some operations are compiled for objects of one class only: they read the layout of an array, or the
elements of a typed array, without looking.  What they presume has to be known of the operand of the
call that they work on, by its static type and its observed types.

* `TypeSet.ObjectsAre` — all objects of a set are known to be of a class.
* `Op.presumedInputs`, `Op.Presumes` — **what an operation presumes** of its leading inputs.
* `Facts.Suits` — what is known of a value is what an operation presumes.
* `Ref.StandsFor` — an input is an operand, or one of the views through which elements are accessed.
* `Sketch.Suited` — **the law**: a node works on operands that suit its operation.
-/

namespace CallSite

/-! ## Type sets -/

namespace TypeSet

/-- **All objects of the set are known to be of a class**: every object is of a type object that is
listed, there is one, and the class of each has the property. -/
structure ObjectsAre (t : TypeSet) (holds : ObjectClass → Prop) : Prop where
  known : t.anyObject = false
  nonempty : t.objects ≠ []
  all : ∀ o ∈ t.objects, holds o.objectClass

variable {t : TypeSet}

/-- **The known class** is the one that all objects are of. -/
theorem knownClass?_eq_some_iff {c : ObjectClass} :
    t.knownClass? = some c ↔ t.ObjectsAre (· = c) := by
  rw [knownClass?]
  constructor
  · intro h
    split_ifs at h with hany
    rw [Bool.not_eq_true] at hany
    cases hobjects : t.objects with
    | nil =>
      rw [hobjects] at h
      cases h
    | cons o os =>
      rw [hobjects] at h
      dsimp only at h
      split_ifs at h with hall
      obtain rfl := Option.some.inj h
      refine ⟨hany, by simp [hobjects], ?_⟩
      simpa [hobjects] using hall
  · rintro ⟨hknown, hnonempty, hall⟩
    rw [hknown, if_neg nofun]
    cases hobjects : t.objects with
    | nil => exact absurd hobjects hnonempty
    | cons o os =>
      rw [hobjects] at hall
      obtain ⟨rfl, hrest⟩ := List.forall_mem_cons.1 hall
      simpa using hrest

lemma typedArray?_eq_some_iff {e : Scalar} :
    t.typedArray? = some e ↔ t.ObjectsAre (· = .typedArray e) := by
  rw [← knownClass?_eq_some_iff, typedArray?]
  cases t.knownClass? with
  | none => simp
  | some c => cases c <;> simp

lemma sharedTypedArray?_eq_some_iff {e : Scalar} :
    t.sharedTypedArray? = some e ↔ t.ObjectsAre (· = .sharedTypedArray e) := by
  rw [← knownClass?_eq_some_iff, sharedTypedArray?]
  cases t.knownClass? with
  | none => simp
  | some c => cases c <;> simp

/-- A predicate is true of all classes iff every object is known to be of such a class. -/
lemma forAllClasses_eq_allTrue_iff {holds : ObjectClass → Bool} :
    t.forAllClasses holds = .allTrue ↔ t.ObjectsAre (holds · = true) := by
  rw [forAllClasses]
  constructor
  · intro h
    split_ifs at h with hany hempty hall
    refine ⟨Bool.eq_false_iff.2 hany, ?_, List.all_eq_true.1 hall⟩
    exact fun hnil => hempty (List.isEmpty_iff.2 hnil)
  · rintro ⟨hknown, hnonempty, hall⟩
    rw [if_neg (by simp [hknown]), if_neg (by simpa using hnonempty),
      if_pos (List.all_eq_true.2 hall)]

end TypeSet

/-! ## Presumptions -/

namespace Op

/-- The operation accesses an element of a typed array. -/
def isTypedAccess : Op → Bool
  | .loadTypedElement .. | .storeTypedElement .. | .compareExchangeTypedElement _
  | .atomicTypedElement .. => true
  | _ => false

/-- **The number of leading inputs of which the operation presumes a class.** -/
def presumedInputs : Op → Nat
  | .arrayConcat _ => 2
  | .arrayPush | .arrayRemove .. | .arraySplice | .arrayJoin | .regExpExec | .regExpTest
  | .typedArrayLength | .typedArrayElements | .storeElement _ | .setTypedObjectOffset
  | .loadTypedElement .. | .storeTypedElement .. | .compareExchangeTypedElement _
  | .atomicTypedElement .. => 1
  | _ => 0

/-- **What the operation presumes of the objects in such an input.**  Accesses to typed arrays name
the element type, and all but plain stores are for shared arrays. -/
def Presumes (op : Op) (t : TypeSet) : Prop :=
  match op with
  | .arrayPush | .arrayRemove .. | .arraySplice | .arrayJoin | .arrayConcat _ =>
    t.ObjectsAre (· = .array)
  | .regExpExec | .regExpTest => t.ObjectsAre (· = .regExp)
  | .typedArrayLength | .typedArrayElements =>
    ∃ e, t.ObjectsAre (· = .typedArray e) ∨ t.ObjectsAre (· = .sharedTypedArray e)
  | .storeTypedElement e .unordered =>
    t.ObjectsAre (· = .typedArray e) ∨ t.ObjectsAre (· = .sharedTypedArray e)
  | .loadTypedElement e _ | .storeTypedElement e .seqCst | .compareExchangeTypedElement e
  | .atomicTypedElement _ e => t.ObjectsAre (· = .sharedTypedArray e)
  | .setTypedObjectOffset => t.ObjectsAre (·.isTypedObject = true)
  | .storeElement _ => ∃ c, c.isNative = true ∧ t.ObjectsAre (· = c)
  | _ => True

lemma presumedInputs_of_isTypedAccess {op : Op} (h : op.isTypedAccess = true) :
    op.presumedInputs = 1 := by
  cases op <;> first | rfl | cases h

/-- The operation gives a view of the object that is its only input. -/
def isView : Op → Bool
  | .maybeCopyElementsForWrite | .elements | .typedArrayElements => true
  | _ => false

end Op

/-- **What is known of the value is what the operation presumes**: it is an object, and its observed
objects are of the presumed class. -/
def Facts.Suits (f : Facts) (op : Op) : Prop :=
  f.ty = .object ∧ ∃ t, f.types = some t ∧ op.Presumes t

/-- What is known of an operand that was asked for its class. -/
lemma Facts.suits_of_knownClass {f : Facts} {op : Op} {c : ObjectClass} (hty : f.ty = .object)
    (hclass : f.knownClass? = some c) (h : ∀ t : TypeSet, t.ObjectsAre (· = c) → op.Presumes t) :
    f.Suits op := by
  obtain ⟨t, ht, hknown⟩ := Option.bind_eq_some_iff.1 hclass
  exact ⟨hty, t, ht, h t (TypeSet.knownClass?_eq_some_iff.1 hknown)⟩

/-! ## The law -/

/-- **The value is an operand, or a view of it**, given the nodes before. -/
def Ref.StandsFor (before : List Sketch) (r operand : Ref) : Prop :=
  r = operand ∨ ∃ k x, r = .added k ∧ before[k]? = some x ∧ x.op.isView = true ∧
    x.inputs.head? = some operand

/-- A node added later changes nothing. -/
lemma Ref.StandsFor.mono {before after : List Sketch} {r operand : Ref}
    (h : r.StandsFor before operand) (hafter : before <+: after) : r.StandsFor after operand := by
  rcases h with rfl | ⟨k, x, rfl, hx, hview⟩
  · exact .inl rfl
  · obtain ⟨more, rfl⟩ := hafter
    obtain ⟨hk, -⟩ := List.getElem?_eq_some_iff.1 hx
    exact .inr ⟨k, x, rfl, (List.getElem?_append_left hk).trans hx, hview⟩

/-- A node that is a view of an operand stands for it. -/
lemma Ref.standsFor_view {before : List Sketch} {x : Sketch} {operand : Ref}
    (hview : x.op.isView = true) (hx : x.inputs.head? = some operand) :
    (Ref.added before.length).StandsFor (before ++ [x]) operand :=
  .inr ⟨before.length, x, rfl, List.getElem?_concat_length, hview, hx⟩

namespace Sketch

/-- **A node works on operands of the call that suit its operation.** -/
def Suited (s : Site) (before : List Sketch) (x : Sketch) : Prop :=
  ∀ position < x.op.presumedInputs, ∃ r o, x.inputs[position]? = some r ∧ o ∈ s.call.operands ∧
    r.StandsFor before o.ref ∧ o.Suits x.op

variable {s : Site} {before : List Sketch} {x : Sketch}

/-- An operation that presumes nothing suits anything. -/
lemma suited_of_quiet (h : x.op.presumedInputs = 0) : x.Suited s before := by
  intro position hlt
  rw [h] at hlt
  exact absurd hlt (Nat.not_lt_zero position)

/-- An operation that presumes something of its first input only. -/
lemma suited_of_head {r : Ref} {o : Operand} (hop : x.op.presumedInputs = 1)
    (hr : x.inputs.head? = some r) (ho : o ∈ s.call.operands) (hstands : r.StandsFor before o.ref)
    (hsuits : o.Suits x.op) : x.Suited s before := by
  intro position hlt
  rw [hop, Nat.lt_one_iff] at hlt
  subst hlt
  exact ⟨r, o, List.head?_eq_getElem?.symm.trans hr, ho, hstands, hsuits⟩

end Sketch

/-! ## Operands -/

namespace Site

lemma receiver_mem_operands (s : Site) : s.receiver ∈ s.call.operands :=
  List.mem_cons_of_mem _ (List.mem_cons_self ..)

lemma mem_operands_of_mem_args {s : Site} {x : Operand} (h : x ∈ s.args) :
    x ∈ s.call.operands :=
  List.mem_cons_of_mem _ (List.mem_cons_of_mem _ h)

lemma mem_args_of_arg {s : Site} {index : Nat} {x : Operand} (h : s.arg index = .ok x) :
    x ∈ s.args :=
  List.mem_of_getElem? (arg_eq_ok.1 h)

namespace Admits

variable {s : Site} {sig : Signature}

/-- A receiver that has to be an object is one. -/
lemma receiver_ty (h : s.Admits sig) (hsig : sig.receiver = .object) :
    s.receiver.ty = .object := by
  have haccepts := ((s.admits_iff sig).1 h).2.2.2.1
  rw [hsig] at haccepts
  exact of_decide_eq_true haccepts

/-- A first argument that has to be an object is one. -/
lemma arg_ty {rest : List OperandClass} (h : s.Admits sig) (hsig : sig.args = .object :: rest)
    {x : Operand} (hx : s.arg 0 = .ok x) : x.ty = .object := by
  have hcheck := ((s.admits_iff sig).1 h).2.2.2.2
  have hargs := arg_eq_ok.1 hx
  cases hs : s.args with
  | nil =>
    rw [hs] at hargs
    cases hargs
  | cons y ys =>
    rw [hs] at hargs hcheck
    obtain rfl := Option.some.inj hargs
    rw [hsig, List.map_cons, Signature.checkArgs] at hcheck
    split_ifs at hcheck with haccepts
    exact of_decide_eq_true haccepts

end Admits

end Site

end CallSite
