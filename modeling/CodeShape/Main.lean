import CodeShape.Run

/-!
# The program

The outer layer: it looks at the paths that a run may need, lets the run take place on what it saw,
and prints the outcome. Reports go to the standard output, everything else to the standard error.
-/

namespace CodeShape.Program

/-- Looks at a path. -/
def lookAt (path : Path) : IO (Except ReadError Entry) := do
  try
    return .ok (.file (← IO.FS.readBinFile path.written))
  catch
    | .noFileOrDirectory _ _ _ => return .error .notFound
    | .inappropriateType _ code details =>
      if code = 21 then return .ok .directory
      else if code = 20 then return .error .notDirectory
      else return .error (.other (details ++ " (os error " ++ toString code ++ ")"))
    | e => return .error (.other (toString e))

/-- What was seen under some paths, as a function. -/
def seen (entries : List (Path × Except ReadError Entry)) : Look := fun path =>
  (entries.lookup path).getD (.error .notFound)

/-- Does the standard output show colours? -/
def showsColors : IO Bool := do
  let wanted := (← IO.getEnv "NO_COLOR").isNone && (← IO.getEnv "TERM") != some "dumb"
  return wanted && (← (← IO.getStdout).isTty)

end CodeShape.Program

open CodeShape in
def main (words : List String) : IO UInt32 := do
  let directory : Path := ⟨(← IO.currentDir).toString⟩
  let config ← IO.getEnv "CGREP_CONFIG"
  let paths := match Arguments.read words config with
    | .ok a => Run.consulted directory a
    | .error _ => []
  let entries ← paths.mapM fun path => do return (path, ← Program.lookAt path)
  let outcome := run {
    look := Program.seen entries
    directory := directory
    config := config
    terminal := ← Program.showsColors } words
  for warning in outcome.warnings do
    IO.eprintln ("WARN " ++ warning.message)
  IO.print outcome.output
  if let some why := outcome.failure? then
    IO.eprintln ("cgrep: " ++ why.message)
  return outcome.code.toUInt32
