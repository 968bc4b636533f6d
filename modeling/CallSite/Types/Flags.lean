import CallSite.Text.FlagText
import CallSite.Types.ValueType

/-!
# Flag sets of type facts

Two sets of flags, kept as bits because a text may set bits that no name is declared for; those
are kept, compared and written back like the others.

* `Primitives` — the primitive kinds that a type set has seen.
* `ObjectFlags` — the facts recorded on a type object, each of which can only become set.
-/

namespace CallSite

/-! ## Primitive kinds -/

/-- **The primitive members of a type set.** -/
structure Primitives where
  bits : BitVec 16
  deriving DecidableEq, Repr, Inhabited

namespace Primitives

/-- The declared names, in declaration order. -/
def names : FlagText.Names :=
  [("UNDEFINED", 0), ("NULL", 1), ("BOOLEAN", 2), ("INT32", 3), ("DOUBLE", 4), ("STRING", 5),
    ("SYMBOL", 6), ("MAGIC", 7)]

def none : Primitives := ⟨0⟩
def undefined : Primitives := ⟨0x01⟩
def null : Primitives := ⟨0x02⟩
def boolean : Primitives := ⟨0x04⟩
def int32 : Primitives := ⟨0x08⟩
def double : Primitives := ⟨0x10⟩
def string : Primitives := ⟨0x20⟩
def symbol : Primitives := ⟨0x40⟩

/-- Markers internal to the engine, such as arguments that were optimised away. -/
def magic : Primitives := ⟨0x80⟩

def union (p q : Primitives) : Primitives := ⟨p.bits ||| q.bits⟩

instance : Union Primitives := ⟨union⟩

/-- No member at all. -/
def isEmpty (p : Primitives) : Bool := p.bits = 0

/-- Every member of `q` is one of `p`. -/
def contains (p q : Primitives) : Bool := p.bits &&& q.bits = q.bits

/-- The two sets share a member. -/
def intersects (p q : Primitives) : Bool := p.bits &&& q.bits ≠ 0

/-- The kinds that a value of static type `ty` can have; a floating-point value may be an int32. -/
def ofType : ValueType → Primitives
  | .undefined => undefined
  | .null => null
  | .boolean => boolean
  | .int32 => int32
  | .double | .float32 => int32 ∪ double
  | .string => string
  | .symbol => symbol
  | .object | .boxed | .elements | .noValue => none

/-- The set with int32 added if it has doubles: a double is always allowed to be an int32. -/
def closed (p : Primitives) : Primitives := if p.contains double then p ∪ int32 else p

def text (p : Primitives) : String := FlagText.render names p.bits

def typedText (p : Primitives) : String := FlagText.renderTyped "PrimitiveTypes" names p.bits

def parse? (s : String) : Option Primitives := (FlagText.parse? names 16 s).map (⟨·⟩)

/-- A bit of a union is a bit of one of the two. -/
@[simp] theorem getLsbD_union (p q : Primitives) (i : Nat) :
    (p ∪ q).bits.getLsbD i = (p.bits.getLsbD i || q.bits.getLsbD i) :=
  BitVec.getLsbD_or

/-- Containment, bit by bit. -/
theorem contains_iff {p q : Primitives} :
    p.contains q = true ↔ ∀ i, q.bits.getLsbD i = true → p.bits.getLsbD i = true := by
  simp only [contains, decide_eq_true_eq]
  constructor
  · intro h i hi
    rw [← h, BitVec.getLsbD_and] at hi
    exact (Bool.and_eq_true _ _ ▸ hi).1
  · intro h
    refine BitVec.eq_of_getLsbD_eq fun i _ => ?_
    rw [BitVec.getLsbD_and]
    cases hq : q.bits.getLsbD i with
    | false => simp
    | true => simp [h i hq]

end Primitives

/-! ## Facts about type objects -/

/-- **The facts recorded on a type object.**  Each can only become set. -/
structure ObjectFlags where
  bits : BitVec 32
  deriving DecidableEq, Repr, Inhabited

namespace ObjectFlags

/-- The declared names, in declaration order. -/
def names : FlagText.Names :=
  [("SPARSE_INDEXES", 0), ("LENGTH_OVERFLOW", 1), ("ITERATED", 2), ("NON_PACKED", 3),
    ("COPY_ON_WRITE", 4)]

def none : ObjectFlags := ⟨0⟩

/-- Some object has indexed properties outside its element vector. -/
def sparseIndexes : ObjectFlags := ⟨0x01⟩

/-- The length of some array left the int32 range. -/
def lengthOverflow : ObjectFlags := ⟨0x02⟩

/-- Some object was exposed to an active iterator. -/
def iterated : ObjectFlags := ⟨0x04⟩

/-- Some array may contain holes. -/
def nonPacked : ObjectFlags := ⟨0x08⟩

/-- Some object may share its elements until the first write. -/
def copyOnWrite : ObjectFlags := ⟨0x10⟩

def union (f g : ObjectFlags) : ObjectFlags := ⟨f.bits ||| g.bits⟩

instance : Union ObjectFlags := ⟨union⟩

/-- Every flag of `g` is one of `f`. -/
def contains (f g : ObjectFlags) : Bool := f.bits &&& g.bits = g.bits

/-- The two sets share a flag. -/
def intersects (f g : ObjectFlags) : Bool := f.bits &&& g.bits ≠ 0

def text (f : ObjectFlags) : String := FlagText.render names f.bits

def typedText (f : ObjectFlags) : String := FlagText.renderTyped "ObjectFlags" names f.bits

def parse? (s : String) : Option ObjectFlags := (FlagText.parse? names 32 s).map (⟨·⟩)

end ObjectFlags

end CallSite
