import CodeShape.Warning

/-!
# File trees

What a run knows of the files is a function that says what stands under a path. `FileTree` is a tree
that is given as a whole; `FileTree.look` follows a path through it component by component, as an
operating system does.
-/

namespace CodeShape

/-- What stands at a place of a file tree. -/
inductive Entry where
  | directory
  | file (bytes : ByteArray)

/-- What stands under a path, or why nothing is seen there. -/
abbrev Look := Path → Except ReadError Entry

namespace Entry

/-- Is this a file? -/
def isFile : Entry → Bool
  | file _ => true
  | directory => false

/-- The text of a file. -/
def text : Entry → Except ReadError String
  | directory => .error .isDirectory
  | file bytes =>
    match String.fromUTF8? bytes with
    | some s => .ok s
    | none => .error .notText

end Entry

/-! ## Holding the bytes of a file -/

/-- How the bytes of a file are held. -/
inductive Holding where
  /-- They are read into memory. -/
  | owned
  /-- The file itself is mapped into memory. -/
  | mapped
deriving Repr, DecidableEq

/-- Files of this size and above are mapped. -/
def Holding.threshold : Nat := 65536

/-- How a file of the given size is held. -/
def Holding.ofSize (bytes : Nat) : Holding :=
  if bytes < threshold then owned else mapped

/-! ## A whole tree -/

/-- A place of a tree: the names on the way from the root. -/
abbrev Place := List String

/-- A tree, given by what stands at some of its places. The directories on the way to them are part of
the tree without being mentioned. -/
structure FileTree where
  entries : List (Place × Entry)

namespace FileTree

/-- What stands at a place. -/
def entry? (t : FileTree) (place : Place) : Option Entry :=
  match t.entries.lookup place with
  | some e => some e
  | none =>
    if place.isEmpty || t.entries.any (fun e => place.isPrefixOf e.1) then some .directory else none

/-- The greatest length of a name, in bytes. -/
def maxName : Nat := 255

/-- The greatest length of a path, in bytes. -/
def maxPath : Nat := 4095

/-- Follows names from a place on. Every name that is followed, the empty one included, has to be looked
up in a directory. -/
def walk (t : FileTree) (here : Place) : List String → Except ReadError Place
  | [] => .ok here
  | name :: rest =>
    match t.entry? here with
    | none => .error .notFound
    | some (.file _) => .error .notDirectory
    | some .directory =>
      if name.isEmpty || name = "." then t.walk here rest
      else if name = ".." then t.walk here.dropLast rest
      else if maxName < name.utf8ByteSize then .error .nameTooLong
      else if (t.entry? (here ++ [name])).isNone then .error .notFound
      else t.walk (here ++ [name]) rest

/-- The place that a path leads to, from the place where one stands. -/
def resolve (t : FileTree) (here : Place) (p : Path) : Except ReadError Place :=
  if p.written.isEmpty then .error .notFound
  else if maxPath < p.written.utf8ByteSize then .error .nameTooLong
  else t.walk (if p.isAbsolute then [] else here) (p.parts.map String.ofList)

/-- What stands under a path, from the place where one stands. -/
def look (t : FileTree) (here : Place) : Look := fun p => do
  match t.entry? (← t.resolve here p) with
  | some e => return e
  | none => .error .notFound

/-- The path of a place, from the root on. -/
def pathOf (place : Place) : Path :=
  ⟨"/" ++ "/".intercalate place⟩

end FileTree

end CodeShape
