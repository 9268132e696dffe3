import CodeShape.Regex.Bracket

/-!
# Reading a regular expression

The reader goes through the expression from left to right with a stack of the parentheses that are
open. Each step consumes at least one character and changes the innermost open level only: it adds
an item, begins a new branch, opens a level or closes one. An item that was just read stays
`pending` until it is known whether a quantifier follows it.
-/

namespace CodeShape.Regex

/-- The flags in force at a point of the expression. -/
structure Flags where
  /-- `i`: letter case is ignored. -/
  ignoreCase : Bool := false
  /-- `m`: `^` and `$` stand for the ends of lines. -/
  lines : Bool := false
  /-- `s`: `.` takes a newline too. -/
  dotAll : Bool := false
  /-- `U`: quantifiers are lazy, and greedy with `?`. -/
  swapGreed : Bool := false
  /-- `x`: blanks and comments in the expression are skipped. -/
  spaced : Bool := false
deriving Repr, DecidableEq

/-- Sets the flag with the given letter. `u` is always on and cannot be taken back. -/
def Flags.set? (f : Flags) (letter : Char) (on : Bool) : Option Flags :=
  match letter with
  | 'i' => some { f with ignoreCase := on }
  | 'm' => some { f with lines := on }
  | 's' => some { f with dotAll := on }
  | 'U' => some { f with swapGreed := on }
  | 'x' => some { f with spaced := on }
  | 'u' => if on then some f else none
  | _ => none

/-- What an open parenthesis will make of its contents. -/
inductive Opening where
  /-- Nothing but an item; the flags are restored behind it. -/
  | parens (restore : Flags)
  | group (index : Nat)
  | atomic
  | look (side : Side) (negated : Bool)
deriving Repr, DecidableEq

/-- Makes an item of the contents. -/
def Opening.close (contents : Expr) : Opening → Expr
  | parens _ => .parens contents
  | group i => .group i contents
  | atomic => .atomic contents
  | look side negated => .look side negated contents

/-- One level of parentheses: the finished branches and the items of the branch at hand, both with
the last one first. -/
structure Level where
  branches : List Expr := []
  items : List Expr := []
deriving Repr, DecidableEq

namespace Level

/-- Adds an item to the branch at hand; what is blank leaves no trace. -/
def add (l : Level) (e : Expr) : Level :=
  if e.isBlank then l else { l with items := e :: l.items }

/-- Finishes the branch at hand and begins another one. -/
def branch (l : Level) : Level :=
  { branches := Expr.cats l.items.reverse :: l.branches, items := [] }

/-- The expression of the whole level. -/
def expr (l : Level) : Expr :=
  Expr.alts (l.branch.branches.reverse)

end Level

/-- How far the expression has been read. -/
structure Reader where
  flags : Flags := {}
  /-- The number of groups opened so far. -/
  groups : Nat := 0
  /-- The names given so far, the latest first. -/
  names : List (List Char × Nat) := []
  /-- Has a group been referred to by `\1`? -/
  numbered : Bool := false
  /-- The levels around the innermost one, with what opened the level inside each. -/
  outer : List (Opening × Level) := []
  level : Level := {}
  /-- The item just read, as long as a quantifier may follow. -/
  pending : Option Expr := none
deriving Repr

namespace Reader

/-- Parentheses may be nested less deep than this. -/
def maxDepth : Nat := 64

/-- Puts the pending item into the branch at hand. -/
def settle (r : Reader) : Reader :=
  match r.pending with
  | none => r
  | some e => { r with level := r.level.add e, pending := none }

/-- Makes `e` the pending item. -/
def push (r : Reader) (e : Expr) : Reader :=
  { r.settle with pending := some e }

/-- Opens a level of parentheses. -/
def openLevel (r : Reader) (o : Opening) : Except Fault Reader :=
  let r := r.settle
  if maxDepth ≤ r.outer.length + 1 then .error .tooDeep
  else .ok { r with outer := (o, r.level) :: r.outer, level := {} }

/-- Opens a capturing group, named or not. -/
def openGroup (r : Reader) (name : Option (List Char)) : Except Fault Reader :=
  let index := r.groups + 1
  let names := match name with
    | none => r.names
    | some n => (n, index) :: r.names
  { r with groups := index, names := names }.openLevel (.group index)

/-- Checks a level that ends: without alternatives, it may not follow both a numbered reference and
a name. -/
def checkNumbers (r : Reader) : Except Fault Unit :=
  if r.level.branches.isEmpty && r.numbered && !r.names.isEmpty then .error .numberBesideNames
  else .ok ()

/-- Closes the innermost level. -/
def closeLevel (r : Reader) : Except Fault Reader := do
  let r := r.settle
  match r.outer with
  | [] => .error .strayClose
  | (o, around) :: outer =>
    r.checkNumbers
    let flags := match o with
      | .parens restore => restore
      | _ => r.flags
    return { r with
      flags := flags, outer := outer, level := around, pending := some (o.close r.level.expr) }

/-- Ends the expression. -/
def finish (r : Reader) : Except Fault Source := do
  let r := r.settle
  match r.outer with
  | _ :: _ => .error .unclosedGroup
  | [] =>
    r.checkNumbers
    return ⟨r.level.expr, r.groups, r.names.map fun (name, i) => (String.ofList name, i)⟩

end Reader

/-- What is being skipped between two items. -/
inductive Skipping where
  | blanks
  | line
  | comment
deriving Repr, DecidableEq

/-- Skips comments `(?#…)` and, in a spaced expression, blanks and line comments. -/
def skipBlanks (spaced : Bool) : Skipping → List Char → Except Fault (List Char)
  | .blanks, '(' :: '?' :: '#' :: rest => skipBlanks spaced .comment rest
  | .blanks, '#' :: rest => if spaced then skipBlanks spaced .line rest else .ok ('#' :: rest)
  | .blanks, c :: rest =>
    if spaced && [' ', '\r', '\n', '\t'].contains c then skipBlanks spaced .blanks rest
    else .ok (c :: rest)
  | .line, c :: rest => skipBlanks spaced (if c == '\n' then .blanks else .line) rest
  | .comment, ')' :: rest => skipBlanks spaced .blanks rest
  | .comment, '\\' :: _ :: rest => skipBlanks spaced .comment rest
  | .comment, _ :: rest => skipBlanks spaced .comment rest
  | .comment, [] => .error .unclosedGroup
  | _, [] => .ok []

namespace Reader

/-- Skips what the flags in force allow to skip. -/
def skip (r : Reader) (cs : List Char) : Except Fault (List Char) :=
  skipBlanks r.flags.spaced .blanks cs

/-- Reads a group name up to its closing delimiter. -/
def readName (stop : Char) (cs : List Char) : Except Fault (List Char × List Char) :=
  match cs.span fun c => c.isAlphanum || c == '_' || (0x80 ≤ c.toNat && Unicode.isWord c) with
  | (name, c :: rest) =>
    if name.isEmpty || c != stop then .error .badGroupName else .ok (name, rest)
  | _ => .error .badGroupName

/-- Refers to group `g`, which has to be opened already. -/
def pushBackref (r : Reader) (g : Nat) : Except Fault Reader :=
  if g ≤ r.groups then .ok (r.push (.backref g)) else .error .unknownGroup

/-- Refers to a group by name; a name that no group has may be its number. -/
def pushNamedBackref (r : Reader) (name : List Char) : Except Fault Reader :=
  match r.names.lookup name with
  | some g => r.pushBackref g
  | none =>
    match readDecimal? name with
    | some (g, []) => r.pushBackref g
    | _ => .error .unknownGroup

/-- Reads a reference by name, the name standing before `stop`; `-n` counts groups backwards. -/
def readBackref (r : Reader) (stop : Char) (cs : List Char) : Except Fault (Reader × List Char) :=
  match cs with
  | '-' :: rest => do
    let (name, rest) ← readName stop rest
    match readDecimal? name with
    | some (n, []) =>
      if n = 0 || r.groups < n then .error .unknownGroup
      else return (← r.pushBackref (r.groups + 1 - n), rest)
    | _ => .error .badGroupName
  | _ => do
    let (name, rest) ← readName stop cs
    return (← r.pushNamedBackref name, rest)

/-- Reads what follows a backslash. `len` is the length of the whole expression in bytes, which
bounds the numbers of groups. -/
def readBackslash (r : Reader) (len : Nat) (cs : List Char) : Except Fault (Reader × List Char) :=
  match cs with
  | [] => .error .trailingBackslash
  | 'k' :: '\'' :: rest => r.readBackref '\'' rest
  | 'k' :: '<' :: rest => r.readBackref '>' rest
  | 'k' :: _ => .error .badGroupName
  | 'A' :: rest => .ok (r.push (.assert .textStart), rest)
  | 'z' :: rest => .ok (r.push (.assert .textEnd), rest)
  | 'b' :: '{' :: _ => .error .unknownEscape
  | 'B' :: '{' :: _ => .error .unknownEscape
  | 'b' :: rest => .ok (r.push (.assert .wordEdge), rest)
  | 'B' :: rest => .ok (r.push (.assert .notWordEdge), rest)
  | '<' :: rest => .ok (r.push (.assert .wordStart), rest)
  | '>' :: rest => .ok (r.push (.assert .wordEnd), rest)
  | 'K' :: rest => .ok (r.push .keepOut, rest)
  | 'G' :: rest => .ok (r.push .searchStart, rest)
  | c :: _ =>
    if c.isDigit then
      match readDecimal? cs with
      | some (g, rest) =>
        if g < len / 2 then do
          let r ← r.pushBackref g
          return ({ r with numbered := true }, rest)
        else .error .unknownGroup
      | none => .error .unknownGroup
    else do
      let (e, rest) ← readEscape r.flags.ignoreCase cs
      return (r.push (.chars (e.toSet r.flags.ignoreCase)), rest)

/-- Reads flags, from behind `(?` on, up to `)` or `:`. `letters` counts what has been read, `before`
are the flags in force outside. -/
def readFlags (before : Flags) (letters : Nat) (negated : Bool) (last : Char) (r : Reader) :
    List Char → Except Fault (Reader × List Char)
  | [] => .error .unclosedGroup
  | ')' :: rest =>
    if letters = 0 || last == '-' then .error .unknownFlag else .ok (r.push .empty, rest)
  | ':' :: rest =>
    if last == '-' then .error .unknownFlag
    else do return (← r.openLevel (.parens before), rest)
  | '-' :: rest =>
    if negated then .error .unknownFlag else r.readFlags before (letters + 1) true '-' rest
  | c :: rest =>
    match r.flags.set? c (!negated) with
    | some flags => { r with flags := flags }.readFlags before (letters + 1) negated c rest
    | none => .error .unknownFlag

/-- Reads what follows an opening parenthesis. -/
def readOpen (r : Reader) (cs : List Char) : Except Fault (Reader × List Char) := do
  let look (side : Side) (negated : Bool) (rest : List Char) : Except Fault (Reader × List Char) :=
    do return (← r.openLevel (.look side negated), rest)
  let named (rest : List Char) : Except Fault (Reader × List Char) := do
    let (name, rest) ← readName '>' rest
    return (← r.openGroup (some name), rest)
  match ← r.skip cs with
  | '?' :: '=' :: rest => look .ahead false rest
  | '?' :: '!' :: rest => look .ahead true rest
  | '?' :: '<' :: '=' :: rest => look .behind false rest
  | '?' :: '<' :: '!' :: rest => look .behind true rest
  | '?' :: '<' :: rest => named rest
  | '?' :: 'P' :: '<' :: rest => named rest
  | '?' :: 'P' :: '=' :: rest => r.readBackref ')' rest
  | '?' :: '>' :: rest => return (← r.openLevel .atomic, rest)
  | '?' :: rest => r.settle.readFlags r.flags 0 false '?' rest
  | rest => return (← r.openGroup none, rest)

/-- Reads the limits of a repetition from behind its opening brace on. What is no such pair of limits
makes the brace an ordinary character. -/
def readLimits? (r : Reader) (cs : List Char) : Option ((Nat × Option Nat) × List Char) := do
  let skip (cs : List Char) : Option (List Char) := (r.skip cs).toOption
  let cs ← skip cs
  let (lo, cs) ← match cs with
    | ',' :: _ => some (0, cs)
    | _ => readDecimal? cs
  match ← skip cs with
  | '}' :: rest => some ((lo, some lo), rest)
  | ',' :: rest =>
    let rest ← skip rest
    let (hi, rest) := match readDecimal? rest with
      | some (hi, rest) => (some hi, rest)
      | none => (none, rest)
    match ← skip rest with
    | '}' :: rest => some ((lo, hi), rest)
    | _ => none
  | _ => none

/-- Applies a quantifier to the pending item: `?` behind it makes it lazy, `+` behind that forbids
giving anything back. -/
def quantify (r : Reader) (e : Expr) (lo : Nat) (hi : Option Nat) (cs : List Char) :
    Except Fault (Reader × List Char) := do
  if !e.isRepeatable then .error .nothingToRepeat
  else if hi.any (· < lo) then .error .emptyRepetition
  else
    let cs ← r.skip cs
    let (isLazy, cs) : Bool × List Char := match cs with
      | '?' :: rest => (true, rest)
      | _ => (false, cs)
    let item := Expr.repeated lo hi (isLazy == r.flags.swapGreed) e
    let (item, cs) : Expr × List Char := match cs with
      | '+' :: rest => (.atomic item, rest)
      | _ => (item, cs)
    return ({ r with level := r.level.add item, pending := none }, cs)

/-- The quantifier at the front of the text, if one stands there. -/
def readQuantifier? (r : Reader) : List Char → Option ((Nat × Option Nat) × List Char)
  | '?' :: rest => some ((0, some 1), rest)
  | '*' :: rest => some ((0, none), rest)
  | '+' :: rest => some ((1, none), rest)
  | '{' :: rest => r.readLimits? rest
  | _ => none

/-- Reads an item, from its first character on. -/
def readItem (r : Reader) (len : Nat) (c : Char) (rest : List Char) :
    Except Fault (Reader × List Char) :=
  match c with
  | '.' => .ok (r.push (.chars (if r.flags.dotAll then .all else .notNewline)), rest)
  | '^' => .ok (r.push (.assert (if r.flags.lines then .lineStart else .textStart)), rest)
  | '$' => .ok (r.push (.assert (if r.flags.lines then .lineEnd else .textEnd)), rest)
  | '(' => r.readOpen rest
  | ')' => do return (← r.closeLevel, rest)
  | '|' => .ok ({ r.settle with level := r.settle.level.branch }, rest)
  | '\\' => r.readBackslash len rest
  | '[' => do
    let (items, rest) ← Bracket.scan r.flags.ignoreCase rest
    return (r.push (.chars (← Bracket.read r.flags.ignoreCase items)), rest)
  | '?' | '*' | '+' => .error .nothingToRepeat
  | _ => .ok (r.push (.chars ((CharSet.single c).withCase r.flags.ignoreCase)), rest)

/-- Reads one item or the quantifier of the pending one. -/
def step (r : Reader) (len : Nat) (c : Char) (rest : List Char) :
    Except Fault (Reader × List Char) :=
  match r.pending with
  | some e =>
    match r.readQuantifier? (c :: rest) with
    | some ((lo, hi), rest) => r.quantify e lo hi rest
    | none => r.readItem len c rest
  | none => r.readItem len c rest

/-- Reads to the end of the text. Each step consumes a character, so the length of the text is fuel
enough. -/
def run (len : Nat) : Nat → Reader → List Char → Except Fault Reader
  | 0, r, _ => .ok r
  | fuel + 1, r, cs => do
    match ← r.skip cs with
    | [] => .ok r
    | c :: rest =>
      let (r, rest) ← r.step len c rest
      run len fuel r rest

end Reader

/-- The number of bytes that a text takes in UTF-8. -/
def byteLength : List Char → Nat
  | [] => 0
  | c :: cs => c.utf8Size + byteLength cs

/-- Reads a regular expression. -/
def parse (cs : List Char) : Except Fault Source := do
  (← Reader.run (byteLength cs) (cs.length + 1) {} cs).finish

end CodeShape.Regex
