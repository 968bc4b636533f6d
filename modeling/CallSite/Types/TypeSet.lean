import CallSite.Types.Flags
import CallSite.Types.ObjectClass

/-!
# Observed type sets

What the baseline tier has seen a value to be: a set of primitive kinds together with the *type
objects* (groups of objects sharing class and prototype) that its objects belonged to.  A type
object in turn records the types seen in its indexed elements, so the two types are mutually
recursive.

* `TypeObject`, `TypeSet` — the two records.
* `TypeSet.insertPrimitives`, `TypeSet.insert`, `TypeSet.insertUnknownObject` — growing a set.
* `TypeSet.normalize` — a set built from arbitrary parts: doubles bring int32 with them, and of
  two type objects with one identity the first is kept.
* `TypeSet.mightBe`, `TypeSet.includes`, `TypeSet.subset`, `TypeSet.knownType` — the questions
  whose answers rest on the set alone.
-/

namespace CallSite

/-! ## Type objects -/

/-- The identity of a type object. -/
structure TypeObjectId where
  index : UInt32
  deriving DecidableEq, Repr, Inhabited

instance : ToString TypeObjectId := ⟨fun t => s!"T{t.index}"⟩

/-- The heap in which an allocation from a template lands. -/
inductive Heap where
  | nursery
  | tenured
  deriving DecidableEq, Repr, Inhabited

/-- The layout of a typed object. -/
inductive TypedLayout where
  | scalar (element : Scalar)
  | reference
  | struct (size : UInt32)
  | sizedArray (element : TypedLayout) (length : UInt32)
  | unsizedArray (element : TypedLayout)
  deriving DecidableEq, Repr, Inhabited

/-- The element type of an array of scalars. -/
def TypedLayout.scalarElement? : TypedLayout → Option Scalar
  | .sizedArray (.scalar s) _ | .unsizedArray (.scalar s) => some s
  | _ => none

mutual

/-- **A type object**, as a type set records it.  With `unknownProperties` any value may be stored
anywhere; otherwise `elementTypes` are the types seen in its indexed elements, if they are
tracked. -/
structure TypeObject where
  id : TypeObjectId
  objectClass : ObjectClass
  flags : ObjectFlags := ObjectFlags.none
  unknownProperties : Bool := false
  elementTypes : Option TypeSet := none
  initialHeap : Heap := .nursery
  layout : Option TypedLayout := none

/-- **A set of observed types.**  With `unknown` anything may occur, with `unknownObject` any
object. -/
structure TypeSet where
  primitives : Primitives := Primitives.none
  objects : List TypeObject := []
  unknownObject : Bool := false
  unknown : Bool := false

end

/-! ### Equality -/

mutual

/-- Equality of type sets, member by member. -/
def TypeSet.decEq : (s t : TypeSet) → Decidable (s = t)
  | ⟨p, os, uo, u⟩, ⟨q, qs, vo, v⟩ =>
    match decEq (p, uo, u) (q, vo, v), TypeObject.decEqList os qs with
    | isTrue h, isTrue h' => isTrue (by cases h; cases h'; rfl)
    | isFalse h, _ => isFalse fun e => h (by cases e; rfl)
    | _, isFalse h => isFalse fun e => h (by cases e; rfl)
termination_by structural s => s

/-- Equality of lists of type objects. -/
def TypeObject.decEqList : (os qs : List TypeObject) → Decidable (os = qs)
  | [], [] => isTrue rfl
  | o :: os, q :: qs =>
    match o.decEq q, TypeObject.decEqList os qs with
    | isTrue h, isTrue h' => isTrue (by cases h; cases h'; rfl)
    | isFalse h, _ => isFalse fun e => h (by cases e; rfl)
    | _, isFalse h => isFalse fun e => h (by cases e; rfl)
  | [], _ :: _ => isFalse nofun
  | _ :: _, [] => isFalse nofun
termination_by structural os => os

/-- Equality of type objects, field by field. -/
def TypeObject.decEq : (o q : TypeObject) → Decidable (o = q)
  | ⟨i, c, f, u, e, h, l⟩, ⟨i', c', f', u', e', h', l'⟩ =>
    match decEq (i, c, f) (i', c', f'), decEq (u, h, l) (u', h', l'), TypeSet.decEqOption e e' with
    | isTrue k, isTrue k', isTrue k'' => isTrue (by cases k; cases k'; cases k''; rfl)
    | isFalse k, _, _ => isFalse fun e => k (by cases e; rfl)
    | _, isFalse k, _ => isFalse fun e => k (by cases e; rfl)
    | _, _, isFalse k => isFalse fun e => k (by cases e; rfl)
termination_by structural o => o

/-- Equality of tracked element types. -/
def TypeSet.decEqOption : (s t : Option TypeSet) → Decidable (s = t)
  | none, none => isTrue rfl
  | some s, some t =>
    match s.decEq t with
    | isTrue h => isTrue (by cases h; rfl)
    | isFalse h => isFalse fun e => h (by cases e; rfl)
  | some _, none => isFalse nofun
  | none, some _ => isFalse nofun
termination_by structural s => s

end

instance : DecidableEq TypeSet := TypeSet.decEq
instance : DecidableEq TypeObject := TypeObject.decEq
instance : Inhabited TypeSet := ⟨{}⟩

namespace TypeSet

/-! ## Building sets -/

/-- The set without members. -/
def empty : TypeSet := {}

instance : EmptyCollection TypeSet := ⟨empty⟩

/-- The set that may contain anything. -/
def any : TypeSet := { unknown := true }

/-- The set with the kinds of `p` added; doubles bring int32 with them. -/
def insertPrimitives (s : TypeSet) (p : Primitives) : TypeSet :=
  { s with primitives := (s.primitives ∪ p).closed }

/-- The set with a type object added, unless one of the same identity is there. -/
def insert (s : TypeSet) (o : TypeObject) : TypeSet :=
  if s.objects.any (·.id = o.id) then s else { s with objects := s.objects ++ [o] }

/-- The set with every object admitted. -/
def insertUnknownObject (s : TypeSet) : TypeSet := { s with unknownObject := true }

/-- The set of just one type object. -/
def singleton (o : TypeObject) : TypeSet := empty.insert o

/-- The set built from arbitrary parts by growing the empty one. -/
def normalize (s : TypeSet) : TypeSet :=
  { s.objects.foldl insert (empty.insertPrimitives s.primitives) with
    unknownObject := s.unknownObject, unknown := s.unknown }

/-- The values of static type `ty`. -/
def ofType : ValueType → TypeSet
  | .boxed => any
  | .object => empty.insertUnknownObject
  | ty => empty.insertPrimitives (Primitives.ofType ty)

/-! ## Members -/

def isEmpty (s : TypeSet) : Bool :=
  !s.unknown && !s.unknownObject && s.primitives.isEmpty && s.objects.isEmpty

/-- Any object may occur. -/
def anyObject (s : TypeSet) : Bool := s.unknown || s.unknownObject

/-- The only type object, when the set is that precise. -/
def singleObject? (s : TypeSet) : Option TypeObject :=
  if s.anyObject then none
  else match s.objects with
    | [o] => some o
    | _ => none

/-- All kinds of `p` may occur. -/
def hasPrimitives (s : TypeSet) (p : Primitives) : Bool := s.unknown || s.primitives.contains p

/-- Objects of the type object `id` may occur. -/
def hasObject (s : TypeSet) (id : TypeObjectId) : Bool :=
  s.anyObject || s.objects.any (·.id = id)

/-- **The one static type that describes every member**, boxed when there is none. -/
def knownType (s : TypeSet) : ValueType :=
  if s.unknown then .boxed
  else if s.unknownObject || !s.objects.isEmpty then
    if s.primitives.isEmpty then .object else .boxed
  else
    let p := s.primitives
    if p = .undefined then .undefined
    else if p = .null then .null
    else if p = .boolean then .boolean
    else if p = .int32 then .int32
    else if p = .int32 ∪ .double ∨ p = .double then .double
    else if p = .string then .string
    else if p = .symbol then .symbol
    else .boxed

/-- Some member has the static type `ty`. -/
def mightBe (s : TypeSet) (ty : ValueType) : Bool :=
  s.unknown ||
    match ty with
    | .object => s.unknownObject || !s.objects.isEmpty
    | .boxed => !s.isEmpty
    | .double | .float32 => s.primitives.contains .double
    | .elements | .noValue => false
    | ty => s.primitives.intersects (Primitives.ofType ty)

/-- **Every member of `s` is one of `t`.** -/
def subset (s t : TypeSet) : Bool :=
  if t.unknown then true
  else if s.unknown then false
  else if !t.primitives.contains s.primitives then false
  else if t.unknownObject then true
  else if s.unknownObject then false
  else s.objects.all fun o => t.hasObject o.id

/-- **Every value of static type `ty` and observed types `types`** (anything, when absent) is a
member. -/
def includes (s : TypeSet) (ty : ValueType) (types : Option TypeSet) : Bool :=
  match ty with
  | .boxed => s.unknown || types.any (·.subset s)
  | .object => s.anyObject || types.any (·.subset s)
  | .elements | .noValue => false
  | ty => s.hasPrimitives (Primitives.ofType ty)

/-! ## Classes -/

/-- The class that all objects share. -/
def knownClass? (s : TypeSet) : Option ObjectClass :=
  if s.anyObject then none
  else match s.objects with
    | [] => none
    | o :: os => if os.all (·.objectClass = o.objectClass) then some o.objectClass else none

/-- The element type of the typed arrays that all objects are. -/
def typedArray? (s : TypeSet) : Option Scalar :=
  match s.knownClass? with
  | some (.typedArray e) => some e
  | _ => none

/-- The element type of the shared typed arrays that all objects are. -/
def sharedTypedArray? (s : TypeSet) : Option Scalar :=
  match s.knownClass? with
  | some (.sharedTypedArray e) => some e
  | _ => none

/-- The typed-object layout that all objects share. -/
def typedLayout? (s : TypeSet) : Option TypedLayout :=
  if s.anyObject then none
  else match s.objects with
    | [] => none
    | o :: os => o.layout.bind fun l => if os.all (·.layout = some l) then some l else none

/-- The outcome of asking a predicate about every class of a set. -/
inductive Verdict where
  | allTrue
  | allFalse
  | mixed
  | empty
  deriving DecidableEq, Repr, Inhabited

/-- The answers of `holds` on the classes of all objects. -/
def forAllClasses (s : TypeSet) (holds : ObjectClass → Bool) : Verdict :=
  if s.anyObject then .mixed
  else if s.objects.isEmpty then .empty
  else if s.objects.all fun o => holds o.objectClass then .allTrue
  else if s.objects.all fun o => !holds o.objectClass then .allFalse
  else .mixed

/-! ## Text -/

/-- The names of the primitive kinds in a dump, with the flag that each stands for. -/
def primitiveNames : List (Primitives × String) :=
  [(.undefined, "undefined"), (.null, "null"), (.boolean, "bool"), (.int32, "int32"),
    (.double, "double"), (.string, "string"), (.symbol, "symbol"), (.magic, "magic")]

/-- The members in braces; a star stands for anything. -/
def text (s : TypeSet) : String :=
  if s.unknown then "\x7b*\x7d"
  else
    let kinds := (primitiveNames.filter fun n => s.primitives.contains n.1).map (·.2)
    let anyObject := if s.unknownObject then ["object"] else []
    let objects := s.objects.map fun o => s!"{o.objectClass}:{o.id}"
    "\x7b" ++ String.intercalate ", " (kinds ++ anyObject ++ objects) ++ "\x7d"

instance : ToString TypeSet := ⟨text⟩

end TypeSet

end CallSite
