import CodeShape.Regex.Escape

/-!
# Bracketed classes

A class in brackets lists characters, ranges, named classes and nested classes, and combines them by
`&&` (both), `--` (the first but not the second) and `~~` (exactly one), all of one rank and grouped
to the left. Two steps read it. `Bracket.scan` finds where the class ends and resolves the escapes,
so that an escaped character can no longer be taken for punctuation; `Bracket.read` then builds the
set.
-/

namespace CodeShape.Regex.Bracket

/-- A character of a class after its escapes are resolved. -/
inductive Item where
  /-- A character as written, which may be punctuation. -/
  | plain (c : Char)
  /-- What an escape stood for. -/
  | escaped (e : Escaped)
deriving Repr, DecidableEq

/-- In a class these letters stand for themselves after a backslash. -/
def isLiteralLetter (c : Char) : Bool :=
  ['k', 'A', 'z', 'B', 'K', 'G', 'Z'].contains c

/-- Reads an escape inside a class. -/
def readClassEscape (ignoreCase : Bool) : List Char → Except Fault (Escaped × List Char)
  | 'b' :: rest => .ok (.char '\x08', rest)
  | c :: rest =>
    if isLiteralLetter c then .ok (.char c, rest) else readEscape ignoreCase (c :: rest)
  | [] => .error .trailingBackslash

/-- Collects the items of a class up to the bracket that closes it, `depth` brackets being open. -/
def scanFrom (ignoreCase : Bool) :
    Nat → Nat → List Item → List Char → Except Fault (List Item × List Char)
  | 0, _, _, _ => .error .unclosedClass
  | fuel + 1, depth, items, cs =>
    match cs with
    | [] => .error .unclosedClass
    | '\\' :: rest => do
      let (e, rest) ← readClassEscape ignoreCase rest
      scanFrom ignoreCase fuel depth (.escaped e :: items) rest
    | '[' :: rest => scanFrom ignoreCase fuel (depth + 1) (.plain '[' :: items) rest
    | ']' :: rest =>
      if depth = 0 then .ok (items.reverse, rest)
      else scanFrom ignoreCase fuel (depth - 1) (.plain ']' :: items) rest
    | c :: rest => scanFrom ignoreCase fuel depth (.plain c :: items) rest

/-- Splits a class, read from behind its opening bracket on, from what follows it. A closing bracket
that comes first, perhaps behind `^`, is a member of the class. -/
def scan (ignoreCase : Bool) (cs : List Char) : Except Fault (List Item × List Char) :=
  let (front, rest) : List Item × List Char :=
    match cs with
    | '^' :: ']' :: rest => ([.plain ']', .plain '^'], rest)
    | ']' :: rest => ([.plain ']'], rest)
    | _ => ([], cs)
  scanFrom ignoreCase (cs.length + 1) 0 front rest

/-- How two sets are combined. -/
inductive Operation where
  | inter
  | diff
  | symmDiff
deriving Repr, DecidableEq

/-- Carries out an operation. -/
def Operation.apply : Operation → CharSet → CharSet → CharSet
  | inter, s, t => .inter s t
  | diff, s, t => .diff s t
  | symmDiff, s, t => .symmDiff s t

/-- An open class: whether it is a complement, the operand before the last operation, and the union
of the members since. -/
structure Level where
  negated : Bool
  operand : Option (CharSet × Operation)
  members : CharSet
deriving Repr

/-- The set of the members read so far, operations carried out. -/
def Level.value (ignoreCase : Bool) (l : Level) : CharSet :=
  let members := l.members.withCase ignoreCase
  match l.operand with
  | none => members
  | some (s, op) => op.apply (s.withCase ignoreCase) members

/-- The set of the whole class. -/
def Level.close (ignoreCase : Bool) (l : Level) : CharSet :=
  let s := l.value ignoreCase
  if l.negated then .compl s else s

/-- Adds a member. -/
def Level.add (l : Level) (s : CharSet) : Level :=
  { l with members := .union l.members s }

/-- Begins the second operand of an operation. -/
def Level.combine (ignoreCase : Bool) (l : Level) (op : Operation) : Level :=
  { l with operand := some (l.value ignoreCase, op), members := .empty }

/-- Opens a class: `^` makes it a complement, hyphens that come first are members, and so is a
closing bracket before which nothing stands. -/
def openLevel (items : List Item) : Level × List Item :=
  let (negated, items) : Bool × List Item :=
    match items with
    | .plain '^' :: rest => (true, rest)
    | _ => (false, items)
  let hyphens := items.takeWhile (· == .plain '-')
  let rest := items.dropWhile (· == .plain '-')
  let members : CharSet := if hyphens.isEmpty then .empty else .single '-'
  match hyphens, rest with
  | [], .plain ']' :: rest => (⟨negated, none, .single ']'⟩, rest)
  | _, _ => (⟨negated, none, members⟩, rest)

/-- The characters as written at the front of a list of items. -/
def plainFront : List Item → List Char
  | .plain c :: rest => c :: plainFront rest
  | _ => []

/-- Reads `:name:]` or `:^name:]` behind an opening bracket, if it stands there. -/
def readNamed? (items : List Item) : Option (CharSet × List Item) :=
  match plainFront items with
  | ':' :: cs =>
    let (negated, cs) : Bool × List Char :=
      match cs with
      | '^' :: cs => (true, cs)
      | _ => (false, cs)
    match cs.span (· != ':') with
    | (name, ':' :: ']' :: _) =>
      (CharSet.ofAsciiName? (String.ofList name)).map fun s =>
        (if negated then .compl s else s,
          items.drop (name.length + (if negated then 4 else 3)))
    | _ => none
  | _ => none

/-- One end of a range, or a member by itself: an item together with the character it is, if it is
just one. -/
def Item.toEscaped : Item → Escaped
  | .plain c => .char c
  | .escaped e => e

/-- Reads a single member or a range. A hyphen at the end of the class or before another hyphen makes
no range. -/
def readMember (first : Item) (rest : List Item) : Except Fault (CharSet × List Item) :=
  let alone : CharSet × List Item := (first.toEscaped.toSet false, rest)
  match rest with
  | .plain '-' :: second :: rest =>
    if second == .plain ']' || second == .plain '-' then .ok alone
    else
      match first.toEscaped, second.toEscaped with
      | .char a, .char b =>
        if a ≤ b then .ok (.range a.toNat b.toNat, rest) else .error .badRange
      | _, _ => .error .badRange
  | _ => .ok alone

/-- Reads the items of the innermost open class, `outer` being the classes around it. -/
def readFrom (ignoreCase : Bool) : Nat → Level → List Level → List Item → Except Fault CharSet
  | 0, _, _, _ => .error .unclosedClass
  | fuel + 1, level, outer, items =>
    match items with
    | [] =>
      match outer with
      | [] => .ok (level.close ignoreCase)
      | _ :: _ => .error .unclosedClass
    | .plain '[' :: rest =>
      match readNamed? rest with
      | some (s, rest) => readFrom ignoreCase fuel (level.add s) outer rest
      | none =>
        let (inner, rest) := openLevel rest
        readFrom ignoreCase fuel inner (level :: outer) rest
    | .plain ']' :: rest =>
      match outer with
      | [] => .error .unclosedClass
      | parent :: outer =>
        readFrom ignoreCase fuel (parent.add (level.close ignoreCase)) outer rest
    | .plain '&' :: .plain '&' :: rest =>
      readFrom ignoreCase fuel (level.combine ignoreCase .inter) outer rest
    | .plain '-' :: .plain '-' :: rest =>
      readFrom ignoreCase fuel (level.combine ignoreCase .diff) outer rest
    | .plain '~' :: .plain '~' :: rest =>
      readFrom ignoreCase fuel (level.combine ignoreCase .symmDiff) outer rest
    | item :: rest => do
      let (s, rest) ← readMember item rest
      readFrom ignoreCase fuel (level.add s) outer rest

/-- Builds the set of a class from its items. -/
def read (ignoreCase : Bool) (items : List Item) : Except Fault CharSet :=
  let (level, rest) := openLevel items
  readFrom ignoreCase (items.length + 1) level [] rest

end CodeShape.Regex.Bracket
