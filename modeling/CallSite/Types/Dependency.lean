import CallSite.Types.TypeSet

/-!
# Facts that compiled code relies on

A question about type sets never registers anything by itself.  Its `Answer` carries the facts
that the answer rests on, and only a specialization that goes ahead commits them; a declined one
leaves no trace.

* `Dependency` — one fact that must stay true.
* `Dependencies` — an ordered list of facts without repetition.
* `Answer` — a value together with the facts that it rests on.
-/

namespace CallSite

/-- **A fact that must stay true** for compiled code to remain valid. -/
inductive Dependency where
  /-- None of `flags` may become set on the type object. -/
  | flagsClear (object : TypeObjectId) (flags : ObjectFlags)
  /-- The element types of the type object may not grow. -/
  | elementTypes (object : TypeObjectId)
  /-- The prototype chain of arrays may not acquire indexed properties. -/
  | noIndexedPrototype
  deriving DecidableEq, Repr, Inhabited

/-- The text of a fact in a dump. -/
def Dependency.text : Dependency → String
  | .flagsClear object flags => s!"flags-clear {object} " ++ flags.typedText
  | .elementTypes object => s!"element-types {object}"
  | .noIndexedPrototype => "no-indexed-proto"

instance : ToString Dependency := ⟨Dependency.text⟩

/-- **An ordered list of facts without repetition.** -/
structure Dependencies where
  items : List Dependency := []
  deriving DecidableEq, Repr, Inhabited

namespace Dependencies

/-- Adds a fact at the end unless it is there. -/
def push (ds : Dependencies) (d : Dependency) : Dependencies :=
  if d ∈ ds.items then ds else ⟨ds.items ++ [d]⟩

/-- Adds facts one after the other. -/
def extend (ds : Dependencies) (new : List Dependency) : Dependencies := new.foldl push ds

def length (ds : Dependencies) : Nat := ds.items.length

def isEmpty (ds : Dependencies) : Bool := ds.items.isEmpty

def contains (ds : Dependencies) (d : Dependency) : Bool := d ∈ ds.items

/-- A fact is there after a push iff it was there or is the one pushed. -/
@[simp] theorem mem_push {ds : Dependencies} {d e : Dependency} :
    e ∈ (ds.push d).items ↔ e ∈ ds.items ∨ e = d := by
  unfold push
  split
  · constructor
    · exact Or.inl
    · rintro (h | rfl) <;> assumption
  · simp

/-- A push repeats nothing. -/
theorem nodup_push {ds : Dependencies} {d : Dependency} (h : ds.items.Nodup) :
    (ds.push d).items.Nodup := by
  unfold push
  split
  · exact h
  · rename_i hd
    exact List.nodup_append.2
      ⟨h, by simp, fun a ha b hb => by
        rw [List.mem_singleton.1 hb]
        rintro rfl
        exact hd ha⟩

/-- The old facts come first. -/
theorem items_start_push (ds : Dependencies) (d : Dependency) :
    ds.items <+: (ds.push d).items := by
  unfold push
  split
  · exact List.prefix_refl _
  · exact List.prefix_append _ _

/-- A fact is there after an extension iff it was there or is among the new ones. -/
@[simp] theorem mem_extend {ds : Dependencies} {new : List Dependency} {e : Dependency} :
    e ∈ (ds.extend new).items ↔ e ∈ ds.items ∨ e ∈ new := by
  induction new generalizing ds with
  | nil => simp [extend]
  | cons d new ih =>
    have := @ih (ds.push d)
    simp only [extend, List.foldl_cons] at this ⊢
    rw [this, mem_push, List.mem_cons, or_assoc]

/-- An extension repeats nothing. -/
theorem nodup_extend {ds : Dependencies} {new : List Dependency} (h : ds.items.Nodup) :
    (ds.extend new).items.Nodup := by
  induction new generalizing ds with
  | nil => exact h
  | cons d new ih => exact ih (nodup_push h)

end Dependencies

/-- **An answer together with the facts that it rests on.**  Facts may repeat here. -/
structure Answer (α : Type) where
  value : α
  dependencies : List Dependency
  deriving DecidableEq, Repr

namespace Answer

variable {α : Type}

/-- An answer that stays valid whatever happens to the type sets. -/
def stable (value : α) : Answer α := ⟨value, []⟩

/-- Takes the answer and adds the facts it rests on. -/
def record (a : Answer α) (ds : Dependencies) : α × Dependencies :=
  (a.value, ds.extend a.dependencies)

end Answer

end CallSite
