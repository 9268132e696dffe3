import CodeShape.Text.Ends

/-!
# Paths

A path is a text whose components are separated by slashes. Empty components and single dots say
nothing, except a dot that comes first; two paths are the same if they agree in what is left.
-/

namespace CodeShape

/-- A path as it was written. -/
structure Path where
  written : String
deriving Repr, DecidableEq, Inhabited

namespace Path

/-- Splits a text at a separator; there is always one part more than there are separators. -/
def splitAt (separator : Char) : List Char → List (List Char)
  | [] => [[]]
  | c :: rest =>
    match splitAt separator rest with
    | part :: parts => if c = separator then [] :: part :: parts else (c :: part) :: parts
    | [] => [[c]]

/-- The parts of a path between its slashes. -/
def parts (p : Path) : List (List Char) :=
  splitAt '/' p.written.toList

/-- Does the path begin at the root? -/
def isAbsolute (p : Path) : Bool :=
  p.written.toList.head? == some '/'

/-- Does a part of a path name something, when it is not the first one? -/
def isName (part : List Char) : Bool :=
  !part.isEmpty && part != ['.']

/-- The components of a path: the parts that name something, and a dot that comes first. -/
def components (p : Path) : List (List Char) :=
  match p.parts with
  | [] => []
  | first :: rest => (if first.isEmpty then [] else [first]) ++ rest.filter isName

/-- Are two paths the same, however they are written? -/
def same (p q : Path) : Bool :=
  p.isAbsolute == q.isAbsolute && p.components == q.components

/-- The last component, if it is the name of a file or a directory. -/
def fileName? (p : Path) : Option (List Char) :=
  match p.components.getLast? with
  | some name => if name == ['.'] || name == ['.', '.'] then none else some name
  | none => none

/-- Splits a name at its last dot; a dot that comes first does not count. -/
def splitName (name : List Char) : List Char × Option (List Char) :=
  let extension := (name.reverse.takeWhile (· != '.')).reverse
  let stem := name.take (name.length - extension.length - 1)
  if stem.isEmpty then (name, none) else (stem, some extension)

/-- The name of the file without its extension. -/
def stem (p : Path) : List Char :=
  ((p.fileName?).map fun name => (splitName name).1).getD []

/-- The extension of the file, empty if it has none. -/
def extension (p : Path) : List Char :=
  ((p.fileName?).bind fun name => (splitName name).2).getD []

/-- Drops the last parts of a path, here given from the last one on, up to the last one that names
something, and this one too. -/
def dropLastName : List (List Char) → List (List Char)
  | [] => []
  | [_] => []
  | part :: rest => if isName part then rest else dropLastName rest

/-- Drops the last parts of a path, given from the last one on, that name nothing. -/
def dropNameless : List (List Char) → List (List Char)
  | [] => []
  | [first] => [first]
  | part :: rest => if isName part then part :: rest else dropNameless rest

/-- The path without its last component, if it has one. -/
def parent? (p : Path) : Option Path :=
  if p.components.isEmpty then none
  else
    let kept := (dropNameless (dropLastName p.parts.reverse)).reverse
    if p.isAbsolute && kept == [[]] then some ⟨"/"⟩
    else some ⟨String.ofList (['/'].intercalate kept)⟩

/-- The directory that holds the file, as the path writes it, without the slashes and backslashes at
its end. -/
def directory (p : Path) : List Char :=
  Text.dropEndWhile (fun c => c == '/' || c == '\\')
    (((p.parent?).map (·.written.toList)).getD [])

/-- The path of what has the given name in a directory. -/
def child (p : Path) (name : String) : Path :=
  if p.written.isEmpty || p.written.toList.getLast? == some '/' then ⟨p.written ++ name⟩
  else ⟨p.written ++ "/" ++ name⟩

/-- At most `fuel` paths: this one, the one without its last component, and so on. -/
def ancestorsFrom : Nat → Path → List Path
  | 0, _ => []
  | fuel + 1, p =>
    p :: (match p.parent? with
      | some q => ancestorsFrom fuel q
      | none => [])

/-- A path, the one without its last component, and so on until none is left. -/
def ancestors (p : Path) : List Path :=
  p.ancestorsFrom (p.components.length + 1)

end Path

end CodeShape
