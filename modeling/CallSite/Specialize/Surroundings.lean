import CallSite.Specialize.ArrayCreation

/-!
# Questions about the surroundings of a call

Intrinsics and testing functions that concern the frame or the section that the call sits in.

* `Surroundings.inParallelSection`, `Surroundings.forkJoinSlice` — parallel sections.
* `Surroundings.isConstructing` — folded once the frame itself has been inlined.
* `Surroundings.bailout`, `Surroundings.assertFloat32` — for tests.
-/

namespace CallSite.Surroundings

open Draft (add pushConstant result)
open ArrayCreation (requireParallel)

/-- **Whether the code runs in a parallel section.**  Sequential code asks at run time. -/
def inParallelSection (s : Site) : Decide Plan := do
  s.classify { arity := .atLeast 0 }
  requireParallel s
  return .of (pushConstant (.boolean true))

/-- **The next slice of parallel work.** -/
def forkJoinSlice (s : Site) : Decide Plan := do
  requireParallel s
  s.classify { arity := .exactly 1, args := [.int32], result := .exactly .int32 }
  if !s.config.inlineForkJoinGetSlice then Decide.decline .disabled
  let d := result .forkJoinGetSlice [Draft.context] .int32
  return { usesContext := true, steps := d.steps }

/-- **Whether the frame was entered by a construct.** -/
def isConstructing (s : Site) : Decide Plan := do
  s.classify { arity := .exactly 0, result := .exactly .boolean }
  match s.frame.filter fun f => 0 < f.depth with
  | some f => return .of (pushConstant (.boolean f.constructing))
  | none => return .of (result .isConstructing [] .boolean)

/-- **A bailout**, whatever the call looks like. -/
def bailout (_ : Site) : Decide Plan :=
  .ok <| .of do
    let _ ← add .bail [] .noValue
    pushConstant .undefined

/-- **A check of the representation of a value**, against a constant expectation. -/
def assertFloat32 (s : Site) : Decide Plan := do
  s.classify { arity := .exactly 2 }
  let expectation ← s.arg 1
  let mustBe ← Decide.need (expectation.constant.bind Constant.boolean?) .expectationNotConstant
  let value ← s.arg 0
  return .of do
    let _ ← add (.assertFloat32 mustBe) [value] .noValue
    pushConstant .undefined

end CallSite.Surroundings
