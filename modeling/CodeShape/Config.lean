import CodeShape.Rule
import CodeShape.Toml.Document

/-!
# Configurations

A configuration is a TOML document: a version, the limits of every search, and rules. Keys that mean
nothing are named by `unknownKeys` and are otherwise ignored. A record, which is the whole document,
the limits or a rule, is written as a table, or as an array that gives its fields in order.
-/

namespace CodeShape

/-- A configuration. -/
structure Config where
  version : Option Int := none
  limits : Pattern.Limits := {}
  rules : List RuleEntry := []
deriving Repr, DecidableEq

namespace Config

/-- The name of the file that is looked for. -/
def fileName : String := "cgrep.toml"

/-- The only version there is. -/
def supportedVersion : Int := 1

/-! ## Keys -/

/-- The keys of a document. -/
def documentKeys : List String := ["version", "engine", "rule"]

/-- The keys of the limits, in the order of an array that gives them. -/
def limitKeys : List String := ["max_matches", "backtrack_limit"]

/-- The keys of a rule, in the order of an array that gives them. -/
def ruleKeys : List String := ["name", "pattern", "message", "severity", "extensions"]

/-- The keys of a table that are not among the known ones. -/
def strayKeys (known : List String) (t : Toml.Table) : List String :=
  (t.map Prod.fst).filter (!known.contains ·)

/-- The stray keys of the rules from number `i` on. What is no table has none. -/
def strayRuleKeys (i : Nat) : List Toml.Value → List String
  | [] => []
  | .table t :: rest =>
    (strayKeys ruleKeys t).map ("rule[" ++ toString i ++ "]." ++ ·) ++ strayRuleKeys (i + 1) rest
  | _ :: rest => strayRuleKeys (i + 1) rest

/-- All keys of a document that mean nothing, each with the place where it stands. -/
def unknownKeys (t : Toml.Table) : List String :=
  strayKeys documentKeys t ++
    (match t.lookup "engine" with
      | some (.table engine) => (strayKeys limitKeys engine).map ("engine." ++ ·)
      | _ => []) ++
    (match t.lookup "rule" with
      | some (.array rules) => strayRuleKeys 0 rules
      | _ => [])

/-! ## Reading -/

/-- A text; a moment counts as the text that it is written as. -/
def readText : Toml.Value → Option String
  | .string s => some s
  | .dateTime d => some (String.ofList d.written)
  | _ => none

/-- An integer. -/
def readInteger : Toml.Value → Option Int
  | .integer n => some n
  | _ => none

/-- A count. -/
def readCount : Toml.Value → Option Nat
  | .integer (.ofNat n) => some n
  | _ => none

/-- A list of things of one kind. -/
def readList {α : Type} (read : Toml.Value → Option α) : Toml.Value → Option (List α)
  | .array vs => vs.mapM read
  | _ => none

/-- The fields of a record, by their keys. An array gives the fields in order and may leave out the
last ones. -/
def readFields (keys : List String) : Toml.Value → Option Toml.Table
  | .table t => some t
  | .array vs => if vs.length ≤ keys.length then some (keys.zip vs) else none
  | _ => none

/-- A field that may be missing. -/
def readOptional {α : Type} (read : Toml.Value → Option α) (t : Toml.Table) (key : String) :
    Option (Option α) :=
  match t.lookup key with
  | none => some none
  | some v => (read v).map some

/-- A field that has a default. -/
def readDefault {α : Type} (read : Toml.Value → Option α) (t : Toml.Table) (key : String)
    (default : α) : Option α :=
  (readOptional read t key).map (·.getD default)

/-- The limits. -/
def readLimits (v : Toml.Value) : Option Pattern.Limits := do
  let t ← readFields limitKeys v
  return {
    maxMatches := ← readDefault readCount t "max_matches" ({} : Pattern.Limits).maxMatches
    backtrackLimit :=
      ← readDefault readCount t "backtrack_limit" ({} : Pattern.Limits).backtrackLimit }

/-- A rule. -/
def readRule (v : Toml.Value) : Option RuleEntry := do
  let t ← readFields ruleKeys v
  return {
    name := ← (t.lookup "name").bind readText
    pattern := ← (t.lookup "pattern").bind readText
    message := ← readOptional readText t "message"
    severity := ← readDefault (fun v => (readText v).map Severity.ofName) t "severity" .error
    extensions := ← readDefault (readList readText) t "extensions" [] }

/-- A configuration, of whatever version. -/
def ofTable (t : Toml.Table) : Option Config := do
  return {
    version := ← readOptional readInteger t "version"
    limits := ← readDefault readLimits t "engine" {}
    rules := ← readDefault (readList readRule) t "rule" [] }

/-! ## Errors -/

/-- Why a configuration is refused. -/
inductive Error where
  | unreadable (path : Path) (why : ReadError)
  /-- The text is no configuration. -/
  | malformed (path : Path)
  | wrongVersion (path : Path) (found : Int)
  /-- A rule has a pattern that is refused. -/
  | badRule (name : String) (why : Pattern.Error)
deriving Repr, DecidableEq

/-- The text of an error, apart from its cause. -/
def Error.message : Error → String
  | unreadable path _ => "failed to read " ++ path.written
  | malformed path => "failed to parse " ++ path.written
  | wrongVersion path found =>
    "unsupported config version " ++ toString found ++ " in " ++ path.written ++ " (expected " ++
      toString supportedVersion ++ ")"
  | badRule name _ => "rule `" ++ name ++ "`"

/-- The text of the cause of an error. -/
def Error.cause? : Error → Option String
  | unreadable _ why => some why.message
  | badRule _ why => some why.message
  | malformed _ | wrongVersion _ _ => none

/-! ## The whole way -/

/-- Checks the version of a configuration, which may be missing. -/
def checkVersion (path : Path) (c : Config) : Except Error Config :=
  match c.version with
  | none => .ok c
  | some found => if found = supportedVersion then .ok c else .error (.wrongVersion path found)

/-- Reads the text of a configuration. The path is that of the file, to be named in messages. With the
result come the warnings, also those before an error. -/
def parse (path : Path) (text : List Char) : List Warning × Except Error Config :=
  match Toml.parse text with
  | none => ([], .error (.malformed path))
  | some t =>
    ((unknownKeys t).map (.unknownKey · path),
      match ofTable t with
      | none => .error (.malformed path)
      | some c => checkVersion path c)

/-- The rules of a configuration, ready to run, or the first one that cannot be. -/
def compile (c : Config) : Except Error (List Rule) :=
  c.rules.mapM fun e => (Rule.ofEntry e c.limits).mapError (.badRule e.name)

end Config

end CodeShape
