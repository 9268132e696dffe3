import CodeShape.Unicode.Boundaries
import CodeShape.Unicode.CaseFold
import CodeShape.Unicode.Word

/-!
# Sets of characters

A `CharSet` is a description of a set of characters, built from ranges, tables and the named classes
by the set operations. Membership is decided by walking the description; a description is never
turned into a list of its members.
-/

namespace CodeShape.Regex

/-- A described set of characters. -/
inductive CharSet where
  /-- No character at all. -/
  | empty
  /-- The code points from `first` to `last`, both included. -/
  | range (first last : Nat)
  /-- The code points given by the boundaries of a table. -/
  | table (bounds : List Nat)
  /-- White_Space. -/
  | blank
  /-- Decimal digits. -/
  | digit
  /-- Word characters. -/
  | word
  /-- Everything that is not in the set. -/
  | compl (s : CharSet)
  | union (s t : CharSet)
  | inter (s t : CharSet)
  /-- The set closed under change of letter case. -/
  | anyCase (s : CharSet)
deriving Repr, DecidableEq

namespace CharSet

/-- Does the set hold code point `n`? -/
def has : CharSet → Nat → Bool
  | empty, _ => false
  | range first last, n => first ≤ n && n ≤ last
  | table bounds, n => Unicode.within bounds n
  | blank, n => Unicode.isBlank (Char.ofNat n)
  | digit, n => Unicode.isDigit (Char.ofNat n)
  | word, n => Unicode.isWord (Char.ofNat n)
  | compl s, n => !s.has n
  | union s t, n => s.has n || t.has n
  | inter s t, n => s.has n && t.has n
  | anyCase s, n => (Unicode.caseVariants n).any s.has

/-- Does the set hold the character `c`? -/
def contains (s : CharSet) (c : Char) : Bool :=
  s.has c.toNat

/-- The set of one character. -/
def single (c : Char) : CharSet :=
  .range c.toNat c.toNat

/-- The set of all characters. -/
def all : CharSet :=
  .compl .empty

/-- All characters but the newline. -/
def notNewline : CharSet :=
  .compl (.single '\n')

/-- The characters of `s` that are not in `t`. -/
def diff (s t : CharSet) : CharSet :=
  .inter s (.compl t)

/-- The characters that are in exactly one of two sets. -/
def symmDiff (s t : CharSet) : CharSet :=
  .union (.diff s t) (.diff t s)

/-- The union of a list of sets. -/
def unions (sets : List CharSet) : CharSet :=
  sets.foldr .union .empty

/-- Closes a set under change of letter case if asked to. -/
def withCase (ignoreCase : Bool) (s : CharSet) : CharSet :=
  if ignoreCase then .anyCase s else s

/-- The hexadecimal digits. -/
def hexDigit : CharSet :=
  .unions [.range 0x30 0x39, .range 0x41 0x46, .range 0x61 0x66]

@[simp] theorem contains_single (c d : Char) : (single c).contains d = (c == d) := by
  rw [Bool.eq_iff_iff]
  simp only [single, contains, has, Bool.and_eq_true, decide_eq_true_eq, beq_iff_eq]
  constructor
  · intro h
    exact Char.ext (UInt32.toNat_inj.mp (Nat.le_antisymm h.1 h.2))
  · rintro rfl
    exact ⟨Nat.le_refl _, Nat.le_refl _⟩

@[simp] theorem contains_all (c : Char) : all.contains c = true := rfl

@[simp] theorem contains_union (s t : CharSet) (c : Char) :
    (CharSet.union s t).contains c = (s.contains c || t.contains c) := rfl

@[simp] theorem contains_compl (s : CharSet) (c : Char) :
    (CharSet.compl s).contains c = !s.contains c := rfl

end CharSet

end CodeShape.Regex
