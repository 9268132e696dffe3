import CodeShape.CommandLine.Option
import CodeShape.Path
import CodeShape.Report.Format

/-!
# The arguments of a run

`Arguments.read` goes through the words of a command line from left to right. A setting waits for its
value in the next word, and paths are gathered as long as they follow each other: what is `pending`
this way is settled when the next option comes, or a path after a value, or the end. So a word that
is no option at all is refused before a value that stands before it is looked at.
-/

namespace CodeShape

/-- What a command line asks for. -/
structure Arguments where
  /-- The files to search, at least one. -/
  paths : List Path
  /-- Patterns beside those of the configuration. -/
  patterns : List String := []
  /-- The message to report for these patterns. -/
  message : Option String := none
  /-- The severity of what these patterns find. -/
  severity : Severity := .error
  /-- The configuration to use, if it is not to be looked for. -/
  config : Option Path := none
  output : Report.Format := .text
  color : Report.ColorMode := .auto
  noColor : Bool := false
  verbose : Bool := false
deriving Repr, DecidableEq

namespace CommandLine

/-- Why a command line gives no arguments. -/
inductive Halt where
  /-- The help is asked for. -/
  | help
  /-- The version is asked for. -/
  | version
  /-- There is no such option. -/
  | unknownOption
  /-- A switch was given a value. -/
  | needlessValue
  /-- A value is missing, or is none of those that the option takes. -/
  | invalidValue
  /-- An option was given twice that may be given once. -/
  | repeated
  /-- An argument is missing that has to be there. -/
  | missingArgument
deriving Repr, DecidableEq

/-- The text that goes with a halt. -/
def Halt.message : Halt → String
  | help => "usage: cgrep [OPTIONS] PATH..."
  | version => "cgrep 0.1.0"
  | unknownOption => "there is no such option"
  | needlessValue => "a switch takes no value"
  | invalidValue => "a value is missing or invalid"
  | repeated => "an option was given twice"
  | missingArgument => "an argument is missing"

/-- What is read but not settled. -/
inductive Pending where
  | nothing
  /-- A setting, with its value if that was read. -/
  | setting (s : Setting) (value : Option String)
  /-- Paths that follow each other. -/
  | paths (ps : List String)
deriving Repr, DecidableEq

/-- What has been read so far. -/
structure Draft where
  paths : List Path := []
  patterns : List String := []
  message : Option String := none
  severity : Option Severity := none
  config : Option Path := none
  output : Option Report.Format := none
  color : Option Report.ColorMode := none
  noColor : Bool := false
  verbose : Bool := false
  pending : Pending := .nothing
  /-- Are all words paths from here on? -/
  trailing : Bool := false
deriving Repr

/-- A path that was given, which has to say something. -/
def path (written : String) : Except Halt Path :=
  if written.isEmpty then .error .invalidValue else .ok ⟨written⟩

/-- The format with the given name. -/
def format : String → Except Halt Report.Format
  | "text" => .ok .text
  | "json" => .ok .json
  | _ => .error .invalidValue

/-- The colour mode with the given name. -/
def colorMode : String → Except Halt Report.ColorMode
  | "auto" => .ok .auto
  | "always" => .ok .always
  | "never" => .ok .never
  | _ => .error .invalidValue

/-- The value of a setting that may be given once. That it was given before is found out before the
new value is looked at. -/
def once {α : Type} (old : Option α) (new : Except Halt α) : Except Halt (Option α) :=
  if old.isSome then .error .repeated else new.map some

namespace Draft

/-- Gives a setting its value. -/
def give (d : Draft) (s : Setting) (value : String) : Except Halt Draft := do
  match s with
  | .pattern => return { d with patterns := d.patterns ++ [value] }
  | .message => return { d with message := ← once d.message (.ok value) }
  | .severity => return { d with severity := ← once d.severity (.ok (.ofName value)) }
  | .config => return { d with config := ← once d.config (path value) }
  | .output => return { d with output := ← once d.output (format value) }
  | .color => return { d with color := ← once d.color (colorMode value) }

/-- Settles what is pending. -/
def settle (d : Draft) : Except Halt Draft :=
  let settled := { d with pending := .nothing }
  match d.pending with
  | .nothing => .ok d
  | .setting _ none => .error .invalidValue
  | .setting s (some value) => settled.give s value
  | .paths ps => do return { settled with paths := d.paths ++ (← ps.mapM path) }

/-- Turns a switch on. -/
def turnOn (d : Draft) (s : Switch) : Except Halt Draft := do
  let d ← d.settle
  match s with
  | .noColor => if d.noColor then .error .repeated else return { d with noColor := true }
  | .verbose => if d.verbose then .error .repeated else return { d with verbose := true }
  | .help => .error .help
  | .version => .error .version

/-- Reads a setting, with its value if the same word holds it. -/
def readSetting (d : Draft) (s : Setting) (attached : Option (List Char)) : Except Halt Draft := do
  let d ← d.settle
  match attached with
  | some value => d.give s (String.ofList value)
  | none => return { d with pending := .setting s none }

/-- Reads an option by its name, from behind the dashes on. -/
def readLong (d : Draft) (cs : List Char) : Except Halt Draft :=
  let name := cs.takeWhile (· != '=')
  let attached := (cs.dropWhile (· != '=')).tail?
  match Flag.ofName? (String.ofList name), attached with
  | none, _ => .error .unknownOption
  | some (.setting s), _ => d.readSetting s attached
  | some (.switch _), some _ => .error .needlessValue
  | some (.switch s), none => d.turnOn s

/-- Reads options by their letters. What follows the letter of a setting is its value, after an equals
sign or at once. -/
def readLetters (d : Draft) : List Char → Except Halt Draft
  | [] => .ok d
  | c :: rest =>
    match Flag.ofLetter? c with
    | none => .error .unknownOption
    | some (.switch s) => do (← d.turnOn s).readLetters rest
    | some (.setting s) =>
      match rest with
      | [] => d.readSetting s none
      | '=' :: value => d.readSetting s (some value)
      | value => d.readSetting s (some value)

/-- Reads a word that is no option: the value that a setting waits for, or else a path. -/
def readPlain (d : Draft) (word : String) : Except Halt Draft := do
  match d.pending, d.trailing with
  | .setting s none, false => return { d with pending := .setting s (some word) }
  | .paths ps, _ => return { d with pending := .paths (ps ++ [word]) }
  | _, _ => return { ← d.settle with pending := .paths [word] }

/-- Reads a word. A dash alone is no option. -/
def readWord (d : Draft) (word : String) : Except Halt Draft :=
  if d.trailing then d.readPlain word
  else
    match word.toList with
    | ['-', '-'] => .ok { d with trailing := true }
    | '-' :: '-' :: rest => d.readLong rest
    | '-' :: c :: rest => d.readLetters (c :: rest)
    | _ => d.readPlain word

/-- The arguments, once all words are read. The configuration that the surroundings name counts if the
command line names none. A message needs a pattern. -/
def finish (d : Draft) (config : Option String) : Except Halt Arguments := do
  let d ← d.settle
  let config ← match d.config, config with
    | none, some named => (path named).map some
    | given, _ => .ok given
  if d.paths.isEmpty || (d.message.isSome && d.patterns.isEmpty) then .error .missingArgument
  else
    return {
      paths := d.paths
      patterns := d.patterns
      message := d.message
      severity := d.severity.getD .error
      config := config
      output := d.output.getD .text
      color := d.color.getD .auto
      noColor := d.noColor
      verbose := d.verbose }

end Draft

end CommandLine

/-- Reads the words of a command line behind the program's name. `config` is the configuration that
the surroundings name. -/
def Arguments.read (words : List String) (config : Option String) :
    Except CommandLine.Halt Arguments := do
  (← words.foldlM CommandLine.Draft.readWord {}).finish config

end CodeShape
