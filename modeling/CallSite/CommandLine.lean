import CallSite.Document.Scenario

/-!
# The command line

What each command prints, as a function of its arguments and of the file that it names.

* `Command`, `Command.parse?` — the commands and how they are written.
* `Command.run` — the result of a command.
-/

namespace CallSite

/-- **A command.** -/
inductive Command where
  /-- Specializes the call that a file describes and shows the graph, unless it is to be quiet. -/
  | inspect (file : String) (quiet : Bool)
  /-- Lists the natives with a specializer. -/
  | natives
  deriving DecidableEq, Repr, Inhabited

namespace Command

/-! ## Arguments -/

/-- Arguments taken apart. -/
structure Arguments where
  quiet : Bool := false
  words : List String := []

/-- One letter of a row of options. -/
def Arguments.option (as : Arguments) : Char → Option Arguments
  | 'q' => if as.quiet then none else some { as with quiet := true }
  | 'v' => some as
  | _ => none

/-- Takes arguments apart: options by a dash and their letters or by two dashes and their name,
all else words. -/
def Arguments.take (as : Arguments) : List String → Option Arguments
  | [] => some as
  | "--quiet" :: rest => (as.option 'q').bind (·.take rest)
  | "--verbose" :: rest => as.take rest
  | word :: rest =>
    match word.toList with
    | '-' :: c :: cs => ((c :: cs).foldlM Arguments.option as).bind (·.take rest)
    | _ => { as with words := as.words ++ [word] }.take rest

/-- **The command that arguments denote.** -/
def parse? (args : List String) : Option Command := do
  let as ← Arguments.take {} args
  match as.words with
  | ["inspect", file] => some (inspect file as.quiet)
  | ["natives"] => if as.quiet then none else some natives
  | _ => none

/-! ## Results -/

/-- What is found under the name of a file. -/
inductive FileContents where
  | text (s : String)
  | absent
  | unreadable (reason : String)

/-- The text of a file, or why it cannot be read. -/
def FileContents.get : FileContents → Except String String
  | text s => .ok s
  | absent => .error "No such file or directory (os error 2)"
  | unreadable reason => .error reason

/-- **What a command leaves**: its exit code, the lines that it prints, and its complaint. -/
structure Output where
  exitCode : UInt32 := 0
  lines : List String := []
  complaint : String := ""
  deriving DecidableEq, Repr, Inhabited

/-- A command fails while doing something. -/
def Output.failed (doing message : String) : Output :=
  { exitCode := 1, complaint := "Error: " ++ doing ++ ": " ++ message }

/-- The name of the program and its version. -/
def programName : String := "callopt v0.1.0"

/-- The listing of natives. -/
def listing : List String :=
  let line (e : Native × String) :=
    "  " ++ e.1.name ++ String.ofList (List.replicate (36 - e.1.name.length) ' ') ++ " " ++ e.2
  (programName ++ s!": {Registry.size} specializers") :: Registry.entries.map line

/-- The outcome of one attempt on a scenario, and the graph unless it is to be quiet. -/
def inspectScenario (s : Scenario) (quiet : Bool) : Output :=
  match s.specialize { builder := s.builder } with
  | (.ok status, after) =>
    let outcome := match status with
      | .inlined => "inlined"
      | .notInlined => "not inlined"
    { lines := (s.name.getD "scenario" ++ ": " ++ outcome) ::
        if quiet then [] else after.builder.graph.lines }
  | (.error (.failed e), _) => .failed s!"specializing call site {s.site}" e.message
  -- no attempt ends otherwise: what returns early is the body of a routine
  | (.error _, _) => { exitCode := 101 }

/-- The scenario in a file. -/
def loadScenario (name : String) (file : FileContents) : Except String Scenario :=
  match file.get with
  | .error reason => .error ("ScenarioError: cannot read " ++ name ++ ": " ++ reason)
  | .ok text => (Scenario.load text).mapError LoadError.message

/-- **The result of a command**, given what is found under names of files. -/
def run (files : String → FileContents) : Command → Output
  | natives => { lines := listing }
  | inspect name quiet =>
    match loadScenario name (files name) with
    | .error message => .failed ("loading scenario '" ++ name ++ "'") message
    | .ok s => inspectScenario s quiet

end Command

end CallSite
