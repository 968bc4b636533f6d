import CallSite.Specialize.Plan
import Mathlib.Data.List.Basic

/-!
# What never changes of observed types

While code is compiled and after it, more flags may become set on a type object and its element
types may grow.  The rest of it never changes, and this is its *core*.  Most questions about type
sets, and with them most specializations, look at the core alone.

* `TypeObject.core` — a type object without its flags and element types; and so on for everything
  that holds type objects.
* `TypeSet.knownType_core`, `TypeSet.mightBe_core` and their companions — **the questions that look
  at the core alone** have the same answer for the core of a set.
-/

namespace CallSite

/-! ## Cores -/

/-- **What never changes of a type object.** -/
def TypeObject.core (o : TypeObject) : TypeObject :=
  { o with flags := .none, elementTypes := none }

/-- The set with the core of each type object. -/
def TypeSet.core (s : TypeSet) : TypeSet := { s with objects := s.objects.map TypeObject.core }

def Facts.core (f : Facts) : Facts := { f with types := f.types.map TypeSet.core }

def Operand.core (x : Operand) : Operand := { x with types := x.types.map TypeSet.core }

def Template.core (t : Template) : Template := { t with typeObject := t.typeObject.core }

namespace TypeObject

variable (o : TypeObject)

@[simp] lemma id_core : o.core.id = o.id := rfl

@[simp] lemma objectClass_core : o.core.objectClass = o.objectClass := rfl

@[simp] lemma unknownProperties_core : o.core.unknownProperties = o.unknownProperties := rfl

@[simp] lemma initialHeap_core : o.core.initialHeap = o.initialHeap := rfl

@[simp] lemma layout_core : o.core.layout = o.layout := rfl

end TypeObject

/-! ## Questions about sets -/

namespace TypeSet

variable (s t : TypeSet)

@[simp] lemma primitives_core : s.core.primitives = s.primitives := rfl

@[simp] lemma unknown_core : s.core.unknown = s.unknown := rfl

@[simp] lemma unknownObject_core : s.core.unknownObject = s.unknownObject := rfl

@[simp] lemma objects_core : s.core.objects = s.objects.map TypeObject.core := rfl

@[simp] lemma anyObject_core : s.core.anyObject = s.anyObject := rfl

@[simp] lemma hasPrimitives_core (p : Primitives) : s.core.hasPrimitives p = s.hasPrimitives p :=
  rfl

@[simp] lemma isEmpty_core : s.core.isEmpty = s.isEmpty := by
  rw [isEmpty, objects_core, List.isEmpty_map]
  rfl

@[simp] lemma hasObject_core (id : TypeObjectId) : s.core.hasObject id = s.hasObject id := by
  rw [hasObject, objects_core, List.any_map]
  rfl

@[simp] lemma knownType_core : s.core.knownType = s.knownType := by
  rw [knownType, objects_core, List.isEmpty_map]
  rfl

@[simp] lemma mightBe_core (ty : ValueType) : s.core.mightBe ty = s.mightBe ty := by
  cases ty <;> simp [mightBe]

@[simp] lemma subset_core_left : s.core.subset t = s.subset t := by
  simp [subset, Function.comp_def]

@[simp] lemma subset_core_right : s.subset t.core = s.subset t := by
  simp [subset]

@[simp] lemma includes_core (ty : ValueType) (types : Option TypeSet) :
    s.includes ty (types.map TypeSet.core) = s.includes ty types := by
  cases types <;> cases ty <;> simp [includes]

@[simp] lemma singleObject?_core : s.core.singleObject? = s.singleObject?.map TypeObject.core := by
  rw [singleObject?, singleObject?, anyObject_core, objects_core]
  split_ifs
  · rfl
  · rcases s.objects with _ | ⟨o, _ | ⟨q, os⟩⟩ <;> rfl

@[simp] lemma knownClass?_core : s.core.knownClass? = s.knownClass? := by
  rw [knownClass?, knownClass?, objects_core]
  cases s.objects with
  | nil => rfl
  | cons o os =>
    rw [List.map_cons]
    dsimp only
    rw [List.all_map]
    rfl

@[simp] lemma typedArray?_core : s.core.typedArray? = s.typedArray? := by
  rw [typedArray?, knownClass?_core]
  rfl

@[simp] lemma sharedTypedArray?_core : s.core.sharedTypedArray? = s.sharedTypedArray? := by
  rw [sharedTypedArray?, knownClass?_core]
  rfl

@[simp] lemma typedLayout?_core : s.core.typedLayout? = s.typedLayout? := by
  rw [typedLayout?, typedLayout?, objects_core]
  cases s.objects with
  | nil => rfl
  | cons o os =>
    rw [List.map_cons]
    dsimp only
    simp only [List.all_map]
    rfl

@[simp] lemma forAllClasses_core (holds : ObjectClass → Bool) :
    s.core.forAllClasses holds = s.forAllClasses holds := by
  rw [forAllClasses, objects_core, List.isEmpty_map, List.all_map, List.all_map]
  rfl

@[simp] lemma core_singleton (o : TypeObject) : (singleton o).core = singleton o.core := rfl

end TypeSet

/-! ## Questions about operands -/

namespace Operand

variable (x : Operand)

@[simp] lemma toFacts_core : x.core.toFacts = x.toFacts.core := rfl

@[simp] lemma ref_core : x.core.ref = x.ref := rfl

end Operand

namespace Facts

variable (f : Facts)

@[simp] lemma ty_core : f.core.ty = f.ty := rfl

@[simp] lemma types_core : f.core.types = f.types.map TypeSet.core := rfl

@[simp] lemma constant_core : f.core.constant = f.constant := rfl

@[simp] lemma mightBe_core (ty : ValueType) : f.core.mightBe ty = f.mightBe ty := by
  rw [mightBe, mightBe, ty_core, types_core]
  cases f.types <;> simp

@[simp] lemma needsPostBarrier_core : f.core.needsPostBarrier = f.needsPostBarrier :=
  f.mightBe_core .object

@[simp] lemma knownClass?_core : f.core.knownClass? = f.knownClass? := by
  rw [knownClass?, knownClass?, types_core]
  cases f.types <;> simp

@[simp] lemma int32?_core : f.core.int32? = f.int32? := rfl

@[simp] lemma number?_core : f.core.number? = f.number? := rfl

end Facts

end CallSite
