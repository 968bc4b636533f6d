/-!
# Settings

* `Config` — the limits and switches that specialization reads.
* `Config.validate` — what a configuration that comes from outside has to satisfy.
-/

namespace CallSite

/-- Whether the compiled code runs on the main thread or inside a parallel section. -/
inductive ExecutionMode where
  | sequential
  | parallel
  deriving DecidableEq, Repr, Inhabited

def ExecutionMode.name : ExecutionMode → String
  | .sequential => "sequential"
  | .parallel => "parallel"

/-- **Limits and switches of specialization.** -/
structure Config where
  /-- The global switch; when off, every call stays generic. -/
  inlineNatives : Bool := true
  executionMode : ExecutionMode := .sequential
  /-- Fetch slices of parallel work by an instruction. -/
  inlineForkJoinGetSlice : Bool := true
  /-- The most arguments that an emitted call may have. -/
  maxCallArgs : UInt64 := 500000
  /-- A dense array has fewer elements than this. -/
  maxDenseElements : UInt32 := 268435456
  /-- The longest array that is allocated with its elements. -/
  eagerAllocationMaxLength : UInt32 := 126
  /-- The largest typed object that is allocated inline. -/
  inlineTypedObjectMaxSize : UInt32 := 128
  deriving DecidableEq, Repr, Inhabited

/-- What is wrong with a configuration. -/
inductive ConfigError where
  | noCallArguments
  | eagerNotBelowDense (eager dense : UInt32)
  deriving DecidableEq, Repr, Inhabited

def ConfigError.message : ConfigError → String
  | .noCallArguments => "max_call_args must be positive"
  | .eagerNotBelowDense eager dense =>
    s!"eager_allocation_max_length ({eager}) must be below max_dense_elements ({dense})"

namespace Config

/-- Calls may have arguments, and what is allocated eagerly is dense. -/
def validate (c : Config) : Except ConfigError Unit :=
  if c.maxCallArgs = 0 then .error .noCallArguments
  else if c.maxDenseElements ≤ c.eagerAllocationMaxLength then
    .error (.eagerNotBelowDense c.eagerAllocationMaxLength c.maxDenseElements)
  else .ok ()

def isParallel (c : Config) : Bool := c.executionMode = .parallel

end Config

/-- The frame that the call sits in, when that frame was itself inlined into its caller. -/
structure Frame where
  depth : UInt32
  constructing : Bool
  deriving DecidableEq, Repr, Inhabited

end CallSite
