import CallSite.Types.Dependency

/-!
# Questions whose answers rest on facts

Whether an operation on the elements of some arrays can be specialized depends on facts that may
change later: flags may become set and element types may grow.  Each question below gives the
facts that have to stay as they are for its answer to keep its meaning.

* `TypeSet.hasFlags` — may some object have one of these flags?
* `TypeSet.convertDoubles` — do stores convert int32 values to doubles?
* `TypeSet.writeNeedsBarrier` — may a store leave the element types?
* `TypeSet.readBarrier` — may a load leave the observed types?
-/

namespace CallSite

/-- The guard after a load whose result may lie outside the observed types. -/
inductive Barrier where
  | noBarrier
  | typeSet
  deriving DecidableEq, Repr, Inhabited

/-- Whether stores into arrays convert int32 values to doubles. -/
inductive DoubleConversion where
  | always
  | maybe
  | never
  | ambiguous
  deriving DecidableEq, Repr, Inhabited

/-- Stores convert the value: always, or wherever the array keeps doubles. -/
def DoubleConversion.converts : DoubleConversion → Bool
  | .always | .maybe => true
  | .never | .ambiguous => false

namespace TypeSet

/-- **Whether some object may have one of `flags`.**  The answer no rests on the flags staying
clear. -/
def hasFlags (s : TypeSet) (flags : ObjectFlags) : Answer Bool :=
  if s.anyObject then .stable true
  else if s.objects.any fun o => o.unknownProperties || o.flags.intersects flags then .stable true
  else ⟨false, s.objects.map fun o => .flagsClear o.id flags⟩

/-! ## Conversion to doubles -/

/-- What the objects looked at so far say about conversion. -/
structure ConversionTally where
  always : Bool := true
  maybe : Bool := false
  never : Bool := false
  dependencies : List Dependency := []

namespace ConversionTally

/-- One more object.  An untracked one demands nothing; one that is no array, or holds no doubles,
must not be converted; an array of nothing but doubles, without holes, keeps them as doubles. -/
def add (t : ConversionTally) (o : TypeObject) : ConversionTally :=
  if o.unknownProperties then { t with always := false }
  else
    let t := { t with dependencies := t.dependencies ++ [Dependency.elementTypes o.id] }
    match o.elementTypes with
    | none => { t with never := true, always := false }
    | some types =>
      if !types.hasPrimitives .double || o.objectClass ≠ .array then
        { t with never := true, always := false }
      else if types.knownType = .double && !o.flags.contains .nonPacked then
        { t with
          maybe := true
          dependencies := t.dependencies ++ [Dependency.flagsClear o.id .nonPacked] }
      else { t with always := false }

/-- The verdict of a finished tally; contradicting demands come first. -/
def verdict (t : ConversionTally) : DoubleConversion :=
  if t.maybe && t.never then .ambiguous
  else if t.always then .always
  else if t.maybe then .maybe
  else .never

end ConversionTally

/-- **How stores into arrays of this set treat int32 values.** -/
def convertDoubles (s : TypeSet) : Answer DoubleConversion :=
  if s.anyObject || s.objects.isEmpty then .stable .ambiguous
  else
    let t := s.objects.foldl ConversionTally.add {}
    ⟨t.verdict, t.dependencies⟩

/-! ## Barriers -/

/-- **Whether storing a value into an element needs a type barrier** because the element types of
some object may not include it.  The answer no rests on the element types of the tracked
objects. -/
def writeNeedsBarrier (s : TypeSet) (ty : ValueType) (types : Option TypeSet) : Answer Bool :=
  if s.anyObject then .stable true
  else if s.objects.all fun o =>
      o.unknownProperties || o.elementTypes.any (·.includes ty types) then
    ⟨false, (s.objects.filter (!·.unknownProperties)).map fun o => .elementTypes o.id⟩
  else .stable true

/-- **The barrier that an element load needs** when its result is checked against `observed`. -/
def readBarrier (s observed : TypeSet) : Answer Barrier :=
  if observed.unknown then .stable .noBarrier
  else if s.anyObject then .stable .typeSet
  else if s.objects.all fun o =>
      !o.unknownProperties && o.elementTypes.any (·.subset observed) then
    ⟨.noBarrier, s.objects.map fun o => .elementTypes o.id⟩
  else .stable .typeSet

end TypeSet

/-! ## Names -/

def Barrier.name : Barrier → String
  | .noBarrier => "NoBarrier"
  | .typeSet => "TypeSet"

def DoubleConversion.name : DoubleConversion → String
  | .always => "AlwaysConvertToDoubles"
  | .maybe => "MaybeConvertToDoubles"
  | .never => "DontConvertToDoubles"
  | .ambiguous => "AmbiguousDoubleConversion"

def TypeSet.Verdict.name : TypeSet.Verdict → String
  | .allTrue => "AllTrue"
  | .allFalse => "AllFalse"
  | .mixed => "Mixed"
  | .empty => "Empty"

end CallSite
