import CallSite.Specialize.Signature

/-!
# Dense arrays

What the array specializations share: the conditions under which an operand is known to be an
array whose elements all lie in its element vector.

* `DenseArray.types` — the observed types of such an operand.
* `DenseArray.prototype` — holes cannot be filled from the prototype chain.
-/

namespace CallSite.DenseArray

/-- Flags under which no array specialization applies. -/
def sparseOrOverflowed : ObjectFlags := .sparseIndexes ∪ .lengthOverflow

/-- Flags under which removing elements is not specialized either: an active iterator could still
visit them. -/
def sparseOrIterated : ObjectFlags := sparseOrOverflowed ∪ .iterated

/-- **The observed types of an operand** all of whose objects are arrays with none of `flags`. -/
def types (x : Operand) (flags : ObjectFlags) : Decide (Answer TypeSet) := do
  let types ← Decide.need x.types .arrayTypesUnobserved
  if types.knownClass? ≠ some .array then Decide.refuse .notArray
  let flagged := types.hasFlags flags
  if flagged.value then Decide.refuse .sparseArray
  return ⟨types, flagged.dependencies⟩

/-- **Holes read as undefined**: nothing fills them from the prototype chain. -/
def prototype (s : Site) : Decide (List Dependency) :=
  if s.env.indexedArrayPrototype then Decide.refuse .indexedArrayPrototype
  else .ok [.noIndexedPrototype]

end CallSite.DenseArray
