/-!
# The options of the command line
-/

namespace CodeShape.CommandLine

/-- An option that takes a value. -/
inductive Setting where
  | pattern
  | message
  | severity
  | config
  | output
  | color
deriving Repr, DecidableEq

/-- An option that stands by itself. -/
inductive Switch where
  | noColor
  | verbose
  | help
  | version
deriving Repr, DecidableEq

/-- An option. -/
inductive Flag where
  | setting (s : Setting)
  | switch (s : Switch)
deriving Repr, DecidableEq

/-- The option with the given letter. -/
def Flag.ofLetter? : Char → Option Flag
  | 'e' => some (.setting .pattern)
  | 'm' => some (.setting .message)
  | 'C' => some (.setting .config)
  | 'o' => some (.setting .output)
  | 'v' => some (.switch .verbose)
  | 'h' => some (.switch .help)
  | 'V' => some (.switch .version)
  | _ => none

/-- The option with the given name. Names are not abbreviated. -/
def Flag.ofName? : String → Option Flag
  | "pattern" => some (.setting .pattern)
  | "message" => some (.setting .message)
  | "severity" => some (.setting .severity)
  | "config" => some (.setting .config)
  | "output" => some (.setting .output)
  | "color" => some (.setting .color)
  | "no-color" => some (.switch .noColor)
  | "verbose" => some (.switch .verbose)
  | "help" => some (.switch .help)
  | "version" => some (.switch .version)
  | _ => none

end CodeShape.CommandLine
