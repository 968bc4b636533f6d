/-!
# Shared helper stubs

Regular-expression operations call helper code that is generated once and then shared by all
compilations.  A stub is created by the first attempt that needs it; from then on its slot never
changes.

* `StubKind`, `Stub` — the kinds of helper and the handles to generated code.
* `StubStore` — one slot for each kind.
-/

namespace CallSite

/-- The kinds of helper code. -/
inductive StubKind where
  | regExpExec
  | regExpTest
  deriving DecidableEq, Repr, Inhabited

namespace StubKind

def all : List StubKind := [regExpExec, regExpTest]

def name : StubKind → String
  | regExpExec => "regexp-exec"
  | regExpTest => "regexp-test"

instance : ToString StubKind := ⟨name⟩

end StubKind

/-- A handle to generated helper code. -/
structure Stub where
  kind : StubKind
  id : Nat
  deriving DecidableEq, Repr, Inhabited

/-- The stub that code generation makes for a kind. -/
def Stub.generate : StubKind → Stub
  | .regExpExec => ⟨.regExpExec, 1⟩
  | .regExpTest => ⟨.regExpTest, 2⟩

/-- **The stub slots**, one for each kind. -/
structure StubStore where
  exec : Option Stub := none
  test : Option Stub := none
  deriving DecidableEq, Repr, Inhabited

namespace StubStore

/-- The stub of a kind, if it was created. -/
def get? (s : StubStore) : StubKind → Option Stub
  | .regExpExec => s.exec
  | .regExpTest => s.test

/-- The store with the slot of a kind filled. -/
def set (s : StubStore) (k : StubKind) (stub : Stub) : StubStore :=
  match k with
  | .regExpExec => { s with exec := some stub }
  | .regExpTest => { s with test := some stub }

/-- The slot holds the stub put there. -/
@[simp] theorem get?_set_self (s : StubStore) (k : StubKind) (stub : Stub) :
    (s.set k stub).get? k = some stub := by cases k <;> rfl

/-- The other slots stay as they are. -/
@[simp] theorem get?_set_of_ne (s : StubStore) {k l : StubKind} (stub : Stub) (h : l ≠ k) :
    (s.set k stub).get? l = s.get? l := by cases k <;> cases l <;> first | rfl | exact absurd rfl h

end StubStore

end CallSite
