import CodeShape.CommandLine.Arguments
import CodeShape.Discovery

/-!
# A run

A run reads its command line, loads the configuration, gets all rules ready and searches the files one
after the other. Everything that can make it fail comes before the first file is looked at: a run
either fails and reports nothing, or it reports every finding, and files that cannot be searched cost
a warning only.
-/

namespace CodeShape

/-- What a run finds around it. -/
structure Surroundings where
  look : Look
  /-- Where the run takes place. -/
  directory : Path
  /-- The configuration that the surroundings name. -/
  config : Option String := none
  /-- Does the output go to a terminal that shows colours? -/
  terminal : Bool := false

/-- Why a run fails. -/
inductive Failure where
  | usage (why : CommandLine.Halt)
  | config (why : Config.Error)
  /-- A pattern of the command line is refused. -/
  | pattern (why : Pattern.Error)
  /-- There is neither a pattern nor a rule. -/
  | noRules
deriving Repr, DecidableEq

/-- The text of a failure, with its causes. -/
def Failure.message : Failure → String
  | usage why => why.message
  | config why =>
    match why.cause? with
    | some cause => why.message ++ ": " ++ cause
    | none => why.message
  | pattern why => why.message
  | noRules =>
    "nothing to search for: pass --pattern or add [[rule]] entries to " ++ Config.fileName

/-- How a run ends. -/
inductive Ending where
  | failed (why : Failure)
  /-- The findings in the order of the report, and the report. -/
  | finished (findings : List Finding) (report : String)
deriving Repr, DecidableEq

/-- What comes out of a run. -/
structure Outcome where
  warnings : List Warning := []
  ending : Ending
deriving Repr, DecidableEq

namespace Outcome

/-- The exit code: 2 for a failure, 1 if an error was found, and 0 otherwise. To show the help or the
version is no failure. -/
def code (o : Outcome) : Nat :=
  match o.ending with
  | .failed (.usage .help) | .failed (.usage .version) => 0
  | .failed _ => 2
  | .finished findings _ => if errorCount findings = 0 then 0 else 1

/-- What the run prints. -/
def output (o : Outcome) : String :=
  match o.ending with
  | .failed (.usage .help) => CommandLine.Halt.help.message ++ "\n"
  | .failed (.usage .version) => CommandLine.Halt.version.message ++ "\n"
  | .failed _ => ""
  | .finished _ report => report

/-- Why the run failed, if it did. -/
def failure? (o : Outcome) : Option Failure :=
  match o.ending with
  | .failed (.usage .help) | .failed (.usage .version) => none
  | .failed why => some why
  | .finished _ _ => none

end Outcome

namespace Run

/-- The configuration to use: the one that is named, or else the one that is found. -/
def configPath? (s : Surroundings) (a : Arguments) : Option Path :=
  match a.config with
  | some named => some named
  | none => Discovery.findConfig s.look s.directory

/-- Loads the configuration; without one, everything has its default. -/
def loadConfig (s : Surroundings) (a : Arguments) : List Warning × Except Config.Error Config :=
  match configPath? s a with
  | none => ([], .ok {})
  | some path =>
    match (s.look path).bind Entry.text with
    | .error why => ([], .error (.unreadable path why))
    | .ok text => Config.parse path text.toList

/-- Gets the rules ready: those of the configuration, then the patterns of the command line. -/
def gatherRules (a : Arguments) (c : Config) : Except Failure (List Rule) := do
  let configured ← c.compile.mapError .config
  let given ← a.patterns.mapM fun pattern =>
    (Rule.adHoc pattern a.message a.severity c.limits).mapError .pattern
  if (configured ++ given).isEmpty then .error .noRules else .ok (configured ++ given)

/-- What was found in a file, and the warnings that came up. -/
structure Haul where
  findings : List Finding := []
  warnings : List Warning := []
deriving Repr, DecidableEq

/-- Searches a text with all rules in order. -/
def searchText (rules : List Rule) (limits : Pattern.Limits) (path : Path) (text : String) : Haul :=
  let c := rules.foldl (fun c rule => rule.run c) (Collector.new path text limits)
  ⟨c.findings, c.warnings⟩

/-- Is this a configuration? Such files are not searched. -/
def isConfig (path : Path) : Bool :=
  path.fileName? == some Config.fileName.toList

/-- Searches a file. -/
def searchFile (look : Look) (rules : List Rule) (limits : Pattern.Limits) (path : Path) : Haul :=
  if isConfig path then {}
  else
    match look path with
    | .error why => { warnings := [.unreadable path why] }
    | .ok .directory => { warnings := [.skippedDirectory path] }
    | .ok (.file bytes) =>
      match (Entry.file bytes).text with
      | .error _ => { warnings := [.notText path] }
      | .ok text => searchText rules limits path text

/-- Reports what was found. -/
def report (s : Surroundings) (a : Arguments) (findings : List Finding) : String :=
  Report.write a.output (Report.isColored a.color a.noColor s.terminal) findings

/-- A run with the given arguments. -/
def withArguments (s : Surroundings) (a : Arguments) : Outcome :=
  match loadConfig s a with
  | (warnings, .error why) => ⟨warnings, .failed (.config why)⟩
  | (warnings, .ok c) =>
    match gatherRules a c with
    | .error why => ⟨warnings, .failed why⟩
    | .ok rules =>
      let hauls := a.paths.map (searchFile s.look rules c.limits)
      let findings := hauls.flatMap (·.findings)
      ⟨warnings ++ hauls.flatMap (·.warnings), .finished findings (report s a findings)⟩

/-- The paths that a run with the given arguments may look at. -/
def consulted (directory : Path) (a : Arguments) : List Path :=
  (match a.config with
    | some named => [named]
    | none => directory.ancestors.flatMap fun d =>
      [d.child Config.fileName, d.child Discovery.repositoryMark]) ++ a.paths

end Run

/-- A run with the given words behind the program's name. -/
def run (s : Surroundings) (words : List String) : Outcome :=
  match Arguments.read words s.config with
  | .error why => ⟨[], .failed (.usage why)⟩
  | .ok a => Run.withArguments s a

end CodeShape
