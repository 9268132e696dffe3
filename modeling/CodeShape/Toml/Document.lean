import CodeShape.Toml.Quoted
import CodeShape.Toml.Tree

/-!
# Reading a TOML document

A document is a sequence of statements: headers and entries, each on a line of its own. `parse` reads
one statement after the other and puts it into the tree of tables at once. Values may lie inside each
other down to a fixed depth, on which the reader of values recurses; lists of elements take the
length of the text as fuel, since each element consumes a character at least.
-/

namespace CodeShape.Toml

/-! ## Blanks and comments -/

/-- Skips a comment up to the end of its line, which it may not go beyond. -/
def skipComment? : List Char → Option (List Char)
  | [] => some []
  | '\r' :: '\n' :: rest => some ('\r' :: '\n' :: rest)
  | '\n' :: rest => some ('\n' :: rest)
  | c :: rest => if isPlain c then skipComment? rest else none

/-- Skips blanks, comments and line ends. -/
def skipLines? : Nat → List Char → Option (List Char)
  | 0, cs => some cs
  | fuel + 1, cs =>
    let cs := cs.dropWhile isSpace
    match cs with
    | '#' :: rest => (skipComment? rest).bind (skipLines? fuel)
    | _ =>
      match dropNewline? cs with
      | some rest => skipLines? fuel rest
      | none => some cs

/-- Skips what may stand between the parts of a list that goes over several lines. -/
def skipGap? (cs : List Char) : Option (List Char) :=
  skipLines? cs.length cs

/-- Ends a statement: nothing but a comment may stand behind it in its line. -/
def endStatement? (cs : List Char) : Option (List Char) := do
  let cs ← match cs.dropWhile isSpace with
    | '#' :: rest => skipComment? rest
    | cs => some cs
  if cs.isEmpty then return [] else dropNewline? cs

/-! ## Keys -/

/-- May a character stand in a key without quotes? -/
def isBare (c : Char) : Bool :=
  c.isAlphanum || c == '_' || c == '-'

/-- Reads a key without dots. -/
def readSimpleKey? (cs : List Char) : Option (String × List Char) :=
  match cs with
  | '"' :: _ | '\'' :: _ => (readQuotedLine? cs).map fun (key, rest) => (String.ofList key, rest)
  | _ =>
    let key := cs.takeWhile isBare
    if key.isEmpty then none else some (String.ofList key, cs.dropWhile isBare)

/-- Reads a key: simple keys with dots between them. The last one is given apart from those before
it, which come in order. -/
def readDotted? : Nat → List String → List Char → Option ((List String × String) × List Char)
  | 0, _, _ => none
  | fuel + 1, path, cs => do
    let (key, cs) ← readSimpleKey? (cs.dropWhile isSpace)
    match cs.dropWhile isSpace with
    | '.' :: rest => readDotted? fuel (path ++ [key]) rest
    | cs => return ((path, key), cs)

/-- Reads a key, and the blanks around it. -/
def readKey? (cs : List Char) : Option ((List String × String) × List Char) :=
  readDotted? (cs.length + 1) [] cs

/-! ## Values -/

/-- A reader of values. -/
abbrev ValueReader := List Char → Option (Value × List Char)

/-- Reads a key, an equals sign and a value. -/
def readEntry? (value : ValueReader) (cs : List Char) :
    Option ((List String × String) × Value × List Char) := do
  let (key, cs) ← readKey? cs
  match cs with
  | '=' :: cs =>
    let (v, cs) ← value (cs.dropWhile isSpace)
    return (key, v, cs)
  | _ => none

/-- Reads the elements of an array to its closing bracket, those before them being given from the last
one on. A comma may stand behind the last element. -/
def readElements? (value : ValueReader) : Nat → List Value → List Char →
    Option (Value × List Char)
  | 0, _, _ => none
  | fuel + 1, found, cs => do
    match ← skipGap? cs with
    | ']' :: rest => return (.array found.reverse, rest)
    | cs =>
      let (v, cs) ← value cs
      match ← skipGap? cs with
      | ',' :: rest => readElements? value fuel (v :: found) rest
      | ']' :: rest => return (.array (v :: found).reverse, rest)
      | _ => none

/-- Reads the entries of a table in braces to the closing brace. A comma may stand behind the last
entry. -/
def readEntries? (value : ValueReader) : Nat → Branches → List Char → Option (Value × List Char)
  | 0, _, _ => none
  | fuel + 1, found, cs => do
    match ← skipGap? cs with
    | '}' :: rest => return (.table (branchesTable found), rest)
    | cs =>
      let ((path, key), v, cs) ← readEntry? value cs
      let found ← found.assign path key v
      match ← skipGap? cs with
      | ',' :: rest => readEntries? value fuel found rest
      | '}' :: rest => return (.table (branchesTable found), rest)
      | _ => none

/-- Reads a value. Arrays and tables in braces may lie inside each other `depth` deep. -/
def readValue? : Nat → ValueReader
  | depth, cs =>
    match depth, cs with
    | 0, '[' :: _ | 0, '{' :: _ => none
    | depth + 1, '[' :: rest => readElements? (readValue? depth) (rest.length + 1) [] rest
    | depth + 1, '{' :: rest => readEntries? (readValue? depth) (rest.length + 1) [] rest
    | _, '"' :: _ | _, '\'' :: _ =>
      (readQuoted? cs).map fun (text, rest) => (.string (String.ofList text), rest)
    | _, _ => readScalarFront? cs

/-! ## Statements -/

/-- How deep values may lie inside each other; a header counts as one level. -/
def maxDepth : Nat := 80

/-- How far a document has been read. -/
structure Progress where
  built : Branches := []
  /-- Where the table lies that entries go to. -/
  opened : List String := []
  depth : Nat := maxDepth

namespace Progress

/-- Opens a table under the given key. -/
def openAt (p : Progress) (path : List String) (key : String) (built : Branches) : Progress :=
  { p with built := built, opened := path ++ [key], depth := maxDepth - 1 }

/-- Reads a header or an entry. -/
def readStatement? (p : Progress) (cs : List Char) : Option (Progress × List Char) :=
  match cs with
  | '[' :: '[' :: rest => do
    let ((path, key), rest) ← readKey? rest
    match rest with
    | ']' :: ']' :: rest => return (p.openAt path key (← p.built.openNext path key), rest)
    | _ => none
  | '[' :: rest => do
    let ((path, key), rest) ← readKey? rest
    match rest with
    | ']' :: rest => return (p.openAt path key (← p.built.openTable path key), rest)
    | _ => none
  | _ => do
    let ((path, key), v, rest) ← readEntry? (readValue? p.depth) cs
    return ({ p with built := ← p.built.assignIn p.opened path key v }, rest)

/-- Reads statements to the end of the text. -/
def run? : Nat → Progress → List Char → Option Progress
  | 0, p, _ => some p
  | fuel + 1, p, cs => do
    match ← skipGap? cs with
    | [] => return p
    | cs =>
      let (p, rest) ← p.readStatement? cs
      run? fuel p (← endStatement? rest)

end Progress

/-- Reads a document. A byte order mark may stand in front of it. -/
def parse (cs : List Char) : Option Table := do
  let cs := match cs with
    | '\uFEFF' :: rest => rest
    | _ => cs
  let p ← Progress.run? (cs.length + 1) {} cs
  return branchesTable p.built

end CodeShape.Toml
