import CodeShape.Pattern.Fragment
import CodeShape.Pattern.MatchResult
import CodeShape.Regex.Search

/-!
# Compiled patterns and their matches

A pattern is compiled once into a `Matcher` and then scanned over any number of texts. A scan yields
the matches from left to right. It ends at the end of the text, after a given number of matches, at
a match that has been yielded before, or when a search has spent its budget.
-/

namespace CodeShape.Pattern

/-- The limits of every scan. -/
structure Limits where
  /-- The greatest number of matches of one scan. -/
  maxMatches : Nat := 50
  /-- How often one search may go back to another way of matching. -/
  backtrackLimit : Nat := 1000000
deriving Repr, DecidableEq

/-- A compiled pattern. -/
structure Matcher where
  /-- The pattern as written. -/
  source : List Char
  searcher : Regex.Searcher
  /-- The groups that have a name, in order, with their categories. -/
  groups : List (Nat × Category)
  limits : Limits
deriving Repr

/-- A text that can be searched: its characters, and how many bytes come before each of them and
before the end. -/
structure Text where
  chars : Array Char
  offsets : Array Nat
deriving Repr

namespace Text

/-- The byte offsets of the characters of a text, beginning with `start`. -/
def offsetsFrom (start : Nat) : List Char → List Nat
  | [] => [start]
  | c :: rest => start :: offsetsFrom (start + c.utf8Size) rest

/-- Prepares a text for searching. -/
def ofString (s : String) : Text :=
  let chars := s.toList
  ⟨chars.toArray, (offsetsFrom 0 chars).toArray⟩

/-- The byte offset of character `i`. -/
def offset (t : Text) (i : Nat) : Nat :=
  t.offsets.getD i 0

/-- The text from character `i` up to character `j`. -/
def slice (t : Text) (i j : Nat) : String :=
  String.ofList (t.chars.extract i j).toList

end Text

/-- A place of a text, in bytes, and what stands there. -/
structure Span where
  start : Nat
  stop : Nat
  text : String
deriving Repr, DecidableEq

/-- How a scan ended. -/
inductive ScanEnd where
  /-- There are no more matches. -/
  | noMore
  /-- The greatest number of matches was reached. -/
  | full
  /-- A match came again that begins at the given byte. -/
  | repeated (offset : Nat)
  /-- A search spent its budget. -/
  | exhausted
deriving Repr, DecidableEq

/-- The matches of a scan, and how it ended. -/
structure Scan where
  found : List Regex.Match
  ended : ScanEnd
deriving Repr

namespace Matcher

/-- Compiles an expression whose groups have the given captures. -/
def build (source expr : List Char) (captures : Captures) (limits : Limits) :
    Except Error Matcher :=
  match Regex.Searcher.compile expr with
  | .error _ => .error (.invalid (String.ofList source))
  | .ok searcher =>
    let groups := (List.range (searcher.groups + 1)).filterMap fun g =>
      (searcher.nameOf? g).map fun name => (g, captures.category name)
    .ok ⟨source, searcher, groups, limits⟩

/-- Compiles a pattern. -/
def compile (pattern : List Char) (limits : Limits) : Except Error Matcher := do
  let pieces ← extract pattern
  let (fragments, captures) := bind (normalize pieces)
  build pattern (assemble (relax fragments)) captures limits

/-- Compiles a text that has to be found as it stands. -/
def literal (text : List Char) (limits : Limits) : Except Error Matcher :=
  build text (Regex.quote text) {} limits

/-- The expression that is searched for. -/
def expr (m : Matcher) : List Char :=
  m.searcher.written

/-- Scans on from a cursor. `found` holds the matches yielded so far, the last one first. A scan cannot
yield more different matches than there are pairs of positions, which is what `fuel` counts. -/
def scanFrom (m : Matcher) (t : Text) : Nat → List Regex.Match → Regex.Cursor → Scan
  | 0, found, _ => ⟨found.reverse, .noMore⟩
  | fuel + 1, found, cursor =>
    match m.searcher.next m.limits.backtrackLimit t.chars cursor with
    | (.missing, _) => ⟨found.reverse, .noMore⟩
    | (.exhausted, _) => ⟨found.reverse, .exhausted⟩
    | (.found f, cursor) =>
      if m.limits.maxMatches ≤ found.length then ⟨found.reverse, .full⟩
      else if found.any fun g => g.start == f.start && g.stop == f.stop then
        ⟨found.reverse, .repeated (t.offset f.start)⟩
      else m.scanFrom t fuel (f :: found) cursor

/-- Scans a text from its beginning. -/
def scan (m : Matcher) (t : Text) : Scan :=
  m.scanFrom t ((t.chars.size + 1) * (t.chars.size + 1) + 1) [] {}

/-- The place of a match. -/
def spanOf (t : Text) (f : Regex.Match) : Span :=
  ⟨t.offset f.start, t.offset f.stop, t.slice f.start f.stop⟩

/-- The captures of a match by category. -/
def classify (m : Matcher) (t : Text) (f : Regex.Match) : MatchResult :=
  .classify (m.groups.filterMap fun (g, category) =>
    (f.span? g).map fun (i, j) => (category, t.slice i j))

/-- The places of all matches in a text. -/
def spans (m : Matcher) (t : Text) : List Span :=
  (m.scan t).found.map (spanOf t)

/-- All matches in a text, classified. -/
def findAll (m : Matcher) (t : Text) : List MatchResult :=
  (m.scan t).found.map (m.classify t)

/-- The first match in a text, or the empty result if there is none. -/
def findFirst (m : Matcher) (t : Text) : MatchResult :=
  (m.findAll t).head?.getD {}

/-- Does the text hold a match? -/
def isMatch (m : Matcher) (t : Text) : Bool :=
  !(m.scan t).found.isEmpty

end Matcher

end CodeShape.Pattern
