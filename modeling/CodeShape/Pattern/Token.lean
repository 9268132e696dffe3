import CodeShape.Regex.Parser

/-!
# The pieces of a pattern

A pattern is code with placeholders. `extract` splits it, from left to right, into plain text and
placeholders (*tokens*): `$name`, `$12`, `$@` and `$@name`, `$#` and `$#name`, `$$`, `$$$` and
`REGEX(…)`. Names are taken as long as they go, and the body of `REGEX(…)` is taken as it stands up
to the parenthesis that closes it. `Piece.written` gives the text of a piece back.
-/

namespace CodeShape.Pattern

/-- What a token stands for. -/
inductive Category where
  | variable
  | literal
  | operator
  | keyword
  | block
  | other
deriving Repr, DecidableEq

/-- Who a token refers to within one pattern. -/
inductive Identity where
  /-- A name written in the pattern. -/
  | named (name : List Char)
  /-- An unnamed occurrence, numbered within the pattern. -/
  | anonymous (number : Nat)
deriving Repr, DecidableEq

/-- A placeholder. -/
inductive Token where
  | variable (id : Identity)
  | literal (id : Identity)
  | operator (id : Identity)
  | keyword (id : Identity)
  | block (greedy : Bool) (id : Identity)
  /-- A regular expression given in the pattern. -/
  | raw (body : List Char)
deriving Repr, DecidableEq

namespace Token

/-- The category of a token; a raw expression has the category `other`. -/
def category : Token → Category
  | .variable _ => .variable
  | .literal _ => .literal
  | .operator _ => .operator
  | .keyword _ => .keyword
  | .block .. => .block
  | .raw _ => .other

/-- The identity of a token; raw expressions have none. -/
def identity? : Token → Option Identity
  | .variable id | .literal id | .operator id | .keyword id | .block _ id => some id
  | .raw _ => none

/-- How many numbers an occurrence of the token uses up. -/
def numbersUsed (t : Token) : Nat :=
  match t.identity? with
  | some (.anonymous _) => 1
  | _ => 0

end Token

/-- A part of a pattern: plain text, or a token. -/
inductive Piece where
  | text (cs : List Char)
  | token (t : Token)
deriving Repr, DecidableEq

/-- The text that opens a raw expression. -/
def rawOpening : List Char := "REGEX(".toList

/-- The name of an identity as it is written; unnamed ones are not written. -/
def Identity.written : Identity → List Char
  | named name => name
  | anonymous _ => []

/-- A token as it is written in a pattern. -/
def Token.written : Token → List Char
  | .variable id | .literal id => '$' :: id.written
  | .operator id => '$' :: '@' :: id.written
  | .keyword id => '$' :: '#' :: id.written
  | .block false _ => ['$', '$']
  | .block true _ => ['$', '$', '$']
  | .raw body => rawOpening ++ body ++ [')']

/-- A piece as it is written in a pattern. -/
def Piece.written : Piece → List Char
  | text cs => cs
  | token t => t.written

/-! ## Reading one token -/

/-- Splits off a name: ASCII letters, then ASCII digits and underscores. -/
def readName? (cs : List Char) : Option (List Char × List Char) :=
  let letters := cs.takeWhile Char.isAlpha
  let rest := cs.dropWhile Char.isAlpha
  let isTail (c : Char) : Bool := c.isDigit || c == '_'
  if letters.isEmpty then none
  else some (letters ++ rest.takeWhile isTail, rest.dropWhile isTail)

/-- Splits off ASCII digits. -/
def readNumber? (cs : List Char) : Option (List Char × List Char) :=
  let digits := cs.takeWhile Char.isDigit
  if digits.isEmpty then none else some (digits, cs.dropWhile Char.isDigit)

/-- What is open at a point of a raw expression: parentheses, and perhaps a class in brackets. -/
structure Nesting where
  depth : Nat := 0
  inClass : Bool := false
deriving Repr, DecidableEq

/-- What is open behind an unescaped character. There is nothing behind the parenthesis that closes
the expression; parentheses between `[` and the next `]` do not count. -/
def Nesting.after (n : Nesting) (c : Char) : Option Nesting :=
  if n.inClass then some { n with inClass := c != ']' }
  else
    match c with
    | '[' => some { n with inClass := true }
    | '(' => some { n with depth := n.depth + 1 }
    | ')' => if n.depth = 0 then none else some { n with depth := n.depth - 1 }
    | _ => some n

/-- Splits a raw expression from what follows the parenthesis that closes it. A backslash is taken
together with the character behind it. -/
def readBody? (n : Nesting) : List Char → Option (List Char × List Char)
  | [] | ['\\'] => none
  | '\\' :: c :: rest =>
    (readBody? n rest).map fun (body, rest) => ('\\' :: c :: body, rest)
  | c :: rest =>
    match n.after c with
    | none => some ([], rest)
    | some n => (readBody? n rest).map fun (body, rest) => (c :: body, rest)

/-- What stands at the front of a text. -/
inductive Front where
  | token (t : Token) (rest : List Char)
  /-- No token begins here. -/
  | plain
  /-- A raw expression begins here and is not closed. -/
  | unclosed
deriving Repr, DecidableEq

/-- The identity of a token whose name may be left out, with what follows. -/
def readIdentity (number : Nat) (cs : List Char) : Identity × List Char :=
  match readName? cs with
  | some (name, rest) => (.named name, rest)
  | none => (.anonymous number, cs)

/-- Reads the token at the front of a text, `number` being the number of the next unnamed one. -/
def readToken (number : Nat) (cs : List Char) : Front :=
  match cs with
  | 'R' :: 'E' :: 'G' :: 'E' :: 'X' :: '(' :: rest =>
    match readBody? {} rest with
    | some (body, rest) => .token (.raw body) rest
    | none => .unclosed
  | '$' :: '$' :: '$' :: rest => .token (.block true (.anonymous number)) rest
  | '$' :: '$' :: rest => .token (.block false (.anonymous number)) rest
  | '$' :: '@' :: rest =>
    let named := readIdentity number rest
    .token (.operator named.1) named.2
  | '$' :: '#' :: rest =>
    let named := readIdentity number rest
    .token (.keyword named.1) named.2
  | '$' :: rest =>
    match readName? rest, readNumber? rest with
    | some (name, rest), _ => .token (.variable (.named name)) rest
    | none, some (digits, rest) => .token (.literal (.named digits)) rest
    | none, none => .plain
  | _ => .plain

/-! ## A token is never empty -/

theorem length_dropWhile_le {α : Type} (p : α → Bool) (l : List α) :
    (l.dropWhile p).length ≤ l.length :=
  (List.dropWhile_suffix p).length_le

theorem length_of_readName? {cs name rest : List Char} (h : readName? cs = some (name, rest)) :
    rest.length ≤ cs.length := by
  simp only [readName?] at h
  split at h
  · cases h
  · cases h
    exact Nat.le_trans (length_dropWhile_le _ _) (length_dropWhile_le _ _)

theorem length_of_readNumber? {cs digits rest : List Char}
    (h : readNumber? cs = some (digits, rest)) : rest.length ≤ cs.length := by
  simp only [readNumber?] at h
  split at h
  · cases h
  · cases h
    exact length_dropWhile_le _ _

theorem length_readIdentity_le (number : Nat) (cs : List Char) :
    (readIdentity number cs).2.length ≤ cs.length := by
  unfold readIdentity
  split
  next h => exact length_of_readName? h
  next => exact Nat.le_refl _

theorem length_of_readBody? {n : Nesting} {cs body rest : List Char}
    (h : readBody? n cs = some (body, rest)) : rest.length ≤ cs.length := by
  fun_induction readBody? n cs generalizing body rest with
  | case1 => cases h
  | case2 => cases h
  | case3 n c cs ih =>
    obtain ⟨⟨b, r⟩, hb, heq⟩ := Option.map_eq_some_iff.mp h
    cases heq
    have := ih hb
    simp only [List.length_cons]
    omega
  | case4 =>
    cases h
    simp
  | case5 n c cs _ _ n' _ ih =>
    obtain ⟨⟨b, r⟩, hb, heq⟩ := Option.map_eq_some_iff.mp h
    cases heq
    have := ih hb
    simp only [List.length_cons]
    omega

theorem length_of_readToken {number : Nat} {cs rest : List Char} {t : Token}
    (h : readToken number cs = .token t rest) : rest.length < cs.length := by
  unfold readToken at h
  split at h
  · split at h
    next hb =>
      cases h
      have := length_of_readBody? hb
      simp only [List.length_cons]
      omega
    next => cases h
  · cases h
    simp only [List.length_cons]
    omega
  · cases h
    simp only [List.length_cons]
    omega
  · injection h with _ hr
    rw [← hr]
    simp only [List.length_cons]
    exact Nat.lt_of_le_of_lt (length_readIdentity_le number _) (by omega)
  · injection h with _ hr
    rw [← hr]
    simp only [List.length_cons]
    exact Nat.lt_of_le_of_lt (length_readIdentity_le number _) (by omega)
  · split at h
    next hn =>
      cases h
      have := length_of_readName? hn
      simp only [List.length_cons]
      omega
    next hn =>
      cases h
      have := length_of_readNumber? hn
      simp only [List.length_cons]
      omega
    next => cases h
  · cases h

/-! ## Splitting a pattern -/

/-- Puts a character in front of the pieces: into the text that comes first, if one does. -/
def Piece.consText (c : Char) : List Piece → List Piece
  | .text cs :: rest => .text (c :: cs) :: rest
  | pieces => .text [c] :: pieces

/-- Splits a text, `number` being the number of the next unnamed token. If a raw expression is not
closed, the error is the text from its beginning on. -/
def extractFrom (number : Nat) (cs : List Char) : Except (List Char) (List Piece) :=
  match cs with
  | [] => .ok []
  | c :: rest =>
    match _h : readToken number (c :: rest) with
    | .token t rest => (extractFrom (number + t.numbersUsed) rest).map (.token t :: ·)
    | .plain => (extractFrom number rest).map (Piece.consText c)
    | .unclosed => .error (c :: rest)
termination_by cs.length
decreasing_by
  · exact length_of_readToken _h
  · simp

/-- Why a pattern is refused. -/
inductive Error where
  /-- A raw expression, beginning at byte `offset`, is not closed. -/
  | unbalanced (pattern : String) (offset : Nat)
  /-- The pattern makes no regular expression. -/
  | invalid (pattern : String)
deriving Repr, DecidableEq

/-- The text of an error. -/
def Error.message : Error → String
  | unbalanced pattern offset =>
    "unbalanced REGEX( at offset " ++ toString offset ++ " in pattern `" ++ pattern ++ "`"
  | invalid pattern => "invalid pattern `" ++ pattern ++ "`"

/-- Splits a pattern into text and tokens. -/
def extract (pattern : List Char) : Except Error (List Piece) :=
  match extractFrom 0 pattern with
  | .ok pieces => .ok pieces
  | .error rest =>
    .error (.unbalanced (String.ofList pattern)
      (Regex.byteLength pattern - Regex.byteLength rest))

end CodeShape.Pattern
