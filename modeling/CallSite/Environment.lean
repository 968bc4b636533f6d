import CallSite.Call
import CallSite.FunctionObject
import CallSite.Stub

/-!
# The engine around the specializer

What a specialization may ask of the engine: which objects may still move, which objects were
sampled as templates, what the array prototype looks like, and whether helper code can be
generated.

* `Engine` — the questions, with whatever answers them.
* `Environment` — fixed tables, and the engine that answers from them.
* `StubStore.ensure` — the stub of a kind, generated when its slot is empty.
-/

namespace CallSite

/-! ## The engine -/

/-- **What a specialization may ask of the engine.** -/
structure Engine where
  /-- The object is young and may move, so compiled code cannot hold it. -/
  isShortLived : ObjectRef → Bool
  /-- The template sampled at a site for calls of a native. -/
  template? : SiteId → Native → Option Template
  /-- The template sampled at a site for the construct hook of a class. -/
  classTemplate? : SiteId → ObjectClass → Option Template
  /-- The prototype chain of arrays has indexed properties. -/
  indexedArrayPrototype : Bool
  /-- Generates helper code, unless code generation fails. -/
  createStub : StubKind → Option Stub

/-! ## Fixed tables -/

/-- A template sampled at a site for calls of a native. -/
structure SiteTemplate where
  site : SiteId
  native : Native
  template : Template
  deriving DecidableEq

/-- A template sampled at a site for the construct hook of a class. -/
structure ClassTemplate where
  site : SiteId
  objectClass : ObjectClass
  template : Template
  deriving DecidableEq

/-- **The engine's answers**, as fixed tables. -/
structure Environment where
  /-- The young objects, in ascending order.  They may move, so compiled code cannot hold them. -/
  shortLived : List ObjectId := []
  templates : List SiteTemplate := []
  classTemplates : List ClassTemplate := []
  /-- The prototype chain of arrays has indexed properties. -/
  indexedArrayPrototype : Bool := false
  /-- Code generation fails. -/
  failStubCreation : Bool := false
  deriving DecidableEq

namespace Environment

instance : Inhabited Environment := ⟨{}⟩

/-- Adds a young object, keeping the table ascending and without repetition. -/
def insertShortLived (id : ObjectId) : List ObjectId → List ObjectId
  | [] => [id]
  | x :: xs =>
    if id.index < x.index then id :: x :: xs
    else if id = x then x :: xs
    else x :: insertShortLived id xs

def isShortLived (env : Environment) (o : ObjectRef) : Bool := o.id ∈ env.shortLived

/-- The template for calls of a native at a site; the first entry decides. -/
def template? (env : Environment) (site : SiteId) (native : Native) : Option Template :=
  (env.templates.find? fun t => t.site = site && t.native = native).map (·.template)

/-- The template for the construct hook of a class at a site; the first entry decides. -/
def classTemplate? (env : Environment) (site : SiteId) (c : ObjectClass) : Option Template :=
  (env.classTemplates.find? fun t => t.site = site && t.objectClass = c).map (·.template)

/-- **The engine that answers from fixed tables.** -/
def engine (env : Environment) : Engine where
  isShortLived := env.isShortLived
  template? := env.template?
  classTemplate? := env.classTemplate?
  indexedArrayPrototype := env.indexedArrayPrototype
  createStub kind := if env.failStubCreation then none else some (.generate kind)

instance : Coe Environment Engine := ⟨engine⟩

end Environment

instance : Inhabited Engine := ⟨Environment.engine {}⟩

/-! ## Stubs -/

/-- The reason given when code generation fails. -/
def Stub.failureReason : String := "code allocation failed"

/-- The stub of a kind and the store that has it; nothing when it would have to be generated and
code generation fails.  The flag tells whether it is new. -/
def StubStore.ensure (s : StubStore) (k : StubKind) (env : Engine) :
    Option (Stub × Bool × StubStore) :=
  match s.get? k with
  | some stub => some (stub, false, s)
  | none => (env.createStub k).map fun stub => (stub, true, s.set k stub)

end CallSite
