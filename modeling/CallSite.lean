import CallSite.Call
import CallSite.CommandLine
import CallSite.Config
import CallSite.Constant
import CallSite.Decimal.Double
import CallSite.Decimal.Shortest
import CallSite.Document.Scenario
import CallSite.Document.Settings
import CallSite.Document.Types
import CallSite.Document.Values
import CallSite.Environment
import CallSite.FunctionObject
import CallSite.Graph.Basic
import CallSite.Graph.Builder
import CallSite.Graph.Error
import CallSite.Graph.Node
import CallSite.Graph.Op
import CallSite.Json.Basic
import CallSite.Json.Decoder
import CallSite.Json.Number
import CallSite.Json.Printer
import CallSite.Json.Reader
import CallSite.Main
import CallSite.Native
import CallSite.Proofs.Decision
import CallSite.Proofs.Drafts
import CallSite.Proofs.Progress
import CallSite.Scenario
import CallSite.Specialize.Arithmetic
import CallSite.Specialize.ArrayCreation
import CallSite.Specialize.ArrayUpdate
import CallSite.Specialize.Attempt
import CallSite.Specialize.BoundCall
import CallSite.Specialize.DenseArray
import CallSite.Specialize.ElementStore
import CallSite.Specialize.Objects
import CallSite.Specialize.Plan
import CallSite.Specialize.Refusal
import CallSite.Specialize.RegExps
import CallSite.Specialize.Registry
import CallSite.Specialize.Signature
import CallSite.Specialize.Strings
import CallSite.Specialize.Surroundings
import CallSite.Specialize.TypedMemory
import CallSite.Stub
import CallSite.Text.Blank
import CallSite.Text.CodeRange
import CallSite.Text.CodeUnits
import CallSite.Text.DefaultIgnorable
import CallSite.Text.FlagText
import CallSite.Text.GraphemeExtend
import CallSite.Text.Quoted
import CallSite.Text.Unprintable
import CallSite.Types.Dependency
import CallSite.Types.Feasibility
import CallSite.Types.Flags
import CallSite.Types.ObjectClass
import CallSite.Types.TypeSet
import CallSite.Types.ValueType
import CallSite.Proofs.Orderly.Arithmetic
import CallSite.Proofs.Orderly.Objects
import CallSite.Proofs.Orderly.Strings
import CallSite.Proofs.Orderly.Memory
import CallSite.Proofs.Orderly.Arrays
import CallSite.Proofs.Orderly.Registry
import CallSite.Proofs.Emission
import CallSite.Proofs.Commit
import CallSite.Proofs.Attempt
import CallSite.Proofs.Reachable
import CallSite.Proofs.Frame
import CallSite.Proofs.Evolution.Core
import CallSite.Proofs.Evolution.Site
import CallSite.Proofs.Evolution.Numbers
import CallSite.Proofs.Evolution.Objects
import CallSite.Proofs.Evolution.Drifts
import CallSite.Proofs.Evolution.Grows
import CallSite.Proofs.Evolution.Lasting
import CallSite.Proofs.Evolution.Arrays
import CallSite.Proofs.Evolution.Stores
import CallSite.Proofs.Evolution.Registry
import CallSite.Proofs.Evolution.Emission
import CallSite.Proofs.Evolution.Attempt
import CallSite.Proofs.Blueprint
import CallSite.Proofs.Operations.Basic
import CallSite.Proofs.Operations.Numbers
import CallSite.Proofs.Operations.Objects
import CallSite.Proofs.Operations.Memory
import CallSite.Proofs.Operations.Registry
import CallSite.Proofs.Linked
import CallSite.Proofs.Run
import CallSite.Proofs.Resumption
import CallSite.Proofs.Operations.Order
import CallSite.Proofs.Bailouts
import CallSite.Proofs.Guards
import CallSite.Proofs.Elsewhere
import CallSite.Proofs.Renumbering
import CallSite.Proofs.Independence
import CallSite.Proofs.WellFormed
import CallSite.Proofs.ForkJoin
import CallSite.Proofs.History
import CallSite.Proofs.Sketch
import CallSite.Proofs.Classes.Basic
import CallSite.Proofs.Classes.Arrays
import CallSite.Proofs.Classes.Memory
import CallSite.Proofs.Classes.Attempt
import CallSite.Proofs.Documents.FlagText
import CallSite.Proofs.Documents.Decoding
import CallSite.Proofs.Documents.Types
import CallSite.Proofs.Documents.Doubles
import CallSite.Proofs.Documents.Reading
import CallSite.Proofs.Documents.Values
import CallSite.Proofs.Documents.Settings
import CallSite.Proofs.Documents.Scenario
import CallSite.Proofs.Limits
import CallSite.Proofs.Events
import CallSite.Proofs.Denotation
import CallSite.Proofs.Obtainable
import CallSite.Proofs.Elements.Conversion
import CallSite.Proofs.Requests
import CallSite.Proofs.Elements.Stores
import CallSite.Proofs.Elements.Attempt
import CallSite.Proofs.Outcome
import CallSite.Proofs.Computation.Numbers
import CallSite.Proofs.Computation.Basic
import CallSite.Proofs.Computation.Extremes
import CallSite.Proofs.Computation.Identity
import CallSite.Proofs.Known
import CallSite.Proofs.Accesses.Barriers
import CallSite.Proofs.Accesses.Collector
import CallSite.Proofs.Accesses.Bounds
import CallSite.Proofs.Elements.Groups
import CallSite.Proofs.Elements.Bulk
import CallSite.Proofs.Elements.AllOrNothing
import CallSite.Proofs.Strings.Utf16
import CallSite.Proofs.Strings.Folding
import CallSite.Proofs.Elements.Conforming
import CallSite.Proofs.Elements.Concatenation
import CallSite.Proofs.Elements.Removal
import CallSite.Proofs.BoundCalls
import CallSite.Proofs.Elements.Initialization
import CallSite.Proofs.Elements.InitialTypes
import CallSite.Proofs.Elements.Copies
import CallSite.Proofs.Strings.Replacing
import CallSite.Proofs.Elements.Verdict
import CallSite.Proofs.Classes.Predicates
import CallSite.Proofs.Computation.Powers
import CallSite.Proofs.Stubs.Demand
import CallSite.Proofs.Stubs.Shared
import CallSite.Proofs.Evolution.Subset
import CallSite.Proofs.Graph
import CallSite.Proofs.Lookup
import CallSite.Proofs.Related
import CallSite.Proofs.Replaced
import CallSite.Proofs.Routines.Arithmetic
import CallSite.Proofs.Routines.Arrays
import CallSite.Proofs.Routines.BoundCall
import CallSite.Proofs.Construction
import CallSite.Proofs.Routines.Decisions
import CallSite.Proofs.Routines.ElementStores
import CallSite.Proofs.Routines.Emission
import CallSite.Proofs.Routines.Objects
import CallSite.Proofs.Routines.Refinement
import CallSite.Proofs.Routines.Runs
import CallSite.Proofs.Routines.Specialization
import CallSite.Proofs.Routines.Strings
import CallSite.Proofs.Routines.TypedMemory
import CallSite.Routine.Arithmetic
import CallSite.Routine.Arrays
import CallSite.Routine.Basic
import CallSite.Routine.BoundCall
import CallSite.Routine.ElementStores
import CallSite.Routine.Emitter
import CallSite.Routine.Objects
import CallSite.Routine.Specialization
import CallSite.Routine.Strings
import CallSite.Routine.TypedMemory
import CallSite.Specialize.Report
