import CodeShape.Path
import CodeShape.Text.Quoted

/-!
# Warnings

What a run says beside its report: things that were skipped, ignored or cut short.
-/

namespace CodeShape

/-- Why something in the file tree could not be read. -/
inductive ReadError where
  | notFound
  | isDirectory
  /-- A file stands where a directory is needed. -/
  | notDirectory
  /-- A name or a whole path is longer than the system allows. -/
  | nameTooLong
  /-- The contents are no text. -/
  | notText
  /-- Something else, in the words of the system. -/
  | other (text : String)
deriving Repr, DecidableEq

/-- The text of a read error. -/
def ReadError.message : ReadError → String
  | notFound => "No such file or directory (os error 2)"
  | isDirectory => "Is a directory (os error 21)"
  | notDirectory => "Not a directory (os error 20)"
  | nameTooLong => "File name too long (os error 36)"
  | notText => "stream did not contain valid UTF-8"
  | other text => text

/-- A warning of a run. -/
inductive Warning where
  /-- The configuration has a key that means nothing. -/
  | unknownKey (key : String) (config : Path)
  | skippedDirectory (path : Path)
  | unreadable (path : Path) (why : ReadError)
  | notText (path : Path)
  /-- A search spent its budget. -/
  | scanAborted (pattern : String)
  /-- A match came a second time, beginning at the given byte. -/
  | repeatedMatch (pattern : String) (offset : Nat)
  /-- A plain text could not be searched for. -/
  | unsearchable (text why : String)
deriving Repr, DecidableEq

/-- The text of a warning. -/
def Warning.message : Warning → String
  | unknownKey key config => "unknown config key `" ++ key ++ "` in " ++ config.written
  | skippedDirectory path => "skipping directory " ++ path.written
  | unreadable path why => "failed to read " ++ path.written ++ ": " ++ why.message
  | notText path => "skipping non-UTF-8 file " ++ path.written
  | scanAborted pattern =>
    "scan aborted: Error executing regex: Max limit for backtracking count exceeded pattern=" ++
      Text.quoted pattern
  | repeatedMatch pattern offset =>
    "non-advancing match pattern=" ++ Text.quoted pattern ++ " at=" ++ toString offset
  | unsearchable text why => "cannot search for " ++ Text.quoted text ++ ": " ++ why

end CodeShape
