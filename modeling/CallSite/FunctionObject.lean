import CallSite.Constant
import CallSite.Native

/-!
# Callees

What is statically known of the target of a call, and the template objects that the baseline tier
sampled for the allocations it makes.

* `FunctionObject` — a native, an interpreted function, or one bound to a receiver and leading
  arguments; bound targets nest.
* `Callee` — a function object, or a type descriptor that constructs typed objects.
* `Template` — the sampled shape of the objects that an allocation creates.
-/

namespace CallSite

mutual

/-- **A function object** known while compiling. -/
structure FunctionObject where
  object : ObjectRef
  kind : FunctionKind

/-- What a function object runs. -/
inductive FunctionKind where
  | native (native : Native) (isConstructor : Bool)
  | interpreted (isConstructor : Bool)
  | bound (target : BoundTarget) (receiver : Constant) (arguments : List Constant)

/-- What a bound function calls; `object` is a callable that is no plain function, such as a
proxy. -/
inductive BoundTarget where
  | function (target : FunctionObject)
  | object (target : ObjectRef)

end

mutual

/-- Equality of function objects. -/
def FunctionObject.decEq : (f g : FunctionObject) → Decidable (f = g)
  | ⟨o, k⟩, ⟨o', k'⟩ =>
    match decEq o o', k.decEq k' with
    | isTrue h, isTrue h' => isTrue (by cases h; cases h'; rfl)
    | isFalse h, _ => isFalse fun e => h (by cases e; rfl)
    | _, isFalse h => isFalse fun e => h (by cases e; rfl)
termination_by structural f => f

/-- Equality of what two function objects run. -/
def FunctionKind.decEq : (k l : FunctionKind) → Decidable (k = l)
  | .native n c, .native n' c' =>
    match decEq (n, c) (n', c') with
    | isTrue h => isTrue (by cases h; rfl)
    | isFalse h => isFalse fun e => h (by cases e; rfl)
  | .interpreted c, .interpreted c' =>
    match decEq c c' with
    | isTrue h => isTrue (by cases h; rfl)
    | isFalse h => isFalse fun e => h (by cases e; rfl)
  | .bound t r as, .bound t' r' as' =>
    match t.decEq t', decEq (r, as) (r', as') with
    | isTrue h, isTrue h' => isTrue (by cases h; cases h'; rfl)
    | isFalse h, _ => isFalse fun e => h (by cases e; rfl)
    | _, isFalse h => isFalse fun e => h (by cases e; rfl)
  | .native .., .interpreted _ | .native .., .bound .. | .interpreted _, .native ..
  | .interpreted _, .bound .. | .bound .., .native .. | .bound .., .interpreted _ =>
    isFalse nofun
termination_by structural k => k

/-- Equality of bound targets. -/
def BoundTarget.decEq : (t u : BoundTarget) → Decidable (t = u)
  | .function f, .function g =>
    match f.decEq g with
    | isTrue h => isTrue (by cases h; rfl)
    | isFalse h => isFalse fun e => h (by cases e; rfl)
  | .object o, .object p =>
    match decEq o p with
    | isTrue h => isTrue (by cases h; rfl)
    | isFalse h => isFalse fun e => h (by cases e; rfl)
  | .function _, .object _ | .object _, .function _ => isFalse nofun
termination_by structural t => t

end

instance : DecidableEq FunctionObject := FunctionObject.decEq
instance : Inhabited FunctionObject := ⟨⟨default, .interpreted false⟩⟩

namespace FunctionObject

/-! ## Making function objects -/

/-- A native function that is no constructor. -/
def ofNative (id : ObjectId) (n : Native) : FunctionObject :=
  ⟨{ id, objectClass := .function }, .native n false⟩

def ofInterpreted (id : ObjectId) (isConstructor : Bool) : FunctionObject :=
  ⟨{ id, objectClass := .function }, .interpreted isConstructor⟩

def ofBound (id : ObjectId) (target : BoundTarget) (receiver : Constant)
    (arguments : List Constant) : FunctionObject :=
  ⟨{ id, objectClass := .function }, .bound target receiver arguments⟩

/-- The function as a constructor; whether a bound function is one is up to its target. -/
def asConstructor (f : FunctionObject) : FunctionObject :=
  { f with kind := match f.kind with
    | .native n _ => .native n true
    | .interpreted _ => .interpreted true
    | k => k }

/-! ## Questions -/

/-- The native identity that a call of the function dispatches on; all bound functions share
one. -/
def native? (f : FunctionObject) : Option Native :=
  match f.kind with
  | .native n _ => some n
  | .bound .. => some .callOrConstructBoundFunction
  | .interpreted _ => none

def isInterpreted (f : FunctionObject) : Bool :=
  match f.kind with
  | .interpreted _ => true
  | _ => false

end FunctionObject

mutual

/-- **The function can be called as a constructor**; a bound one can iff its target can. -/
def FunctionObject.isConstructor : FunctionObject → Bool
  | ⟨_, k⟩ => k.isConstructor
termination_by structural f => f

/-- What can be called as a constructor. -/
def FunctionKind.isConstructor : FunctionKind → Bool
  | .native _ c | .interpreted c => c
  | .bound t _ _ => t.isConstructor
termination_by structural k => k

/-- A bound target that can be called as a constructor; an object that is no function cannot. -/
def BoundTarget.isConstructor : BoundTarget → Bool
  | .function f => f.isConstructor
  | .object _ => false
termination_by structural t => t

end

/-! ## Callees -/

/-- A type descriptor, callable as a constructor of typed objects. -/
structure DescriptorObject where
  object : ObjectRef
  layout : TypedLayout
  /-- The bytes that an instance occupies, if all occupy the same. -/
  size : Option UInt32 := none
  deriving DecidableEq, Inhabited

/-- **The statically known callee** of a call site. -/
inductive Callee where
  | function (target : FunctionObject)
  | descriptor (target : DescriptorObject)
  deriving DecidableEq, Inhabited

/-- **An object sampled at a call site** by the baseline tier, the shape of the objects that a
specialized allocation creates. -/
structure Template where
  object : ObjectRef
  typeObject : TypeObject
  /-- The length of an array or a string, where it has a meaning. -/
  length : UInt32 := 0
  /-- The descriptor of a typed object. -/
  descriptor : Option ObjectId := none
  deriving DecidableEq

/-- The template as a constant. -/
def Template.constant (t : Template) : Constant := .object t.object

end CallSite
