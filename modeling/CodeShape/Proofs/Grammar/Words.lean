import Mathlib.Tactic.Tauto
import CodeShape.Pattern.Segment
import CodeShape.Proofs.Regex.Occurrences

/-!
# The words of each class

What a literal, an operator, a keyword and a variable are, said without regular expressions: which
characters they consist of and what may stand around them in the text. `Token.Stands` is the word
that a placeholder stands for where it is first used.
-/

namespace CodeShape

open Regex (Occurs)

namespace Grammar

/-- A character that goes on an identifier. -/
def isWordChar (c : Char) : Bool :=
  c == '$' || Unicode.isWord c

/-- The code points of the blanks. -/
def blankCodes : List Nat :=
  [9, 10, 11, 12, 13, 0x20, 0x85, 0xa0, 0x1680, 0x2000, 0x2001, 0x2002, 0x2003, 0x2004, 0x2005,
    0x2006, 0x2007, 0x2008, 0x2009, 0x200a, 0x2028, 0x2029, 0x202f, 0x205f, 0x3000]

theorem mem_blankCodes {c : Char} (h : Unicode.isBlank c = true) : c.toNat ∈ blankCodes := by
  unfold Unicode.isBlank at h
  simp only [blankCodes, List.mem_cons, List.not_mem_nil, or_false]
  by_cases hascii : c.toNat < 0x80
  · rw [if_pos hascii] at h
    have hspace : (c == ' ') = true → c.toNat = 0x20 := by
      intro hc
      rw [beq_iff_eq.mp hc]
      rfl
    simp only [Bool.or_eq_true, Bool.and_eq_true, decide_eq_true_eq] at h
    rcases h with h | h
    · have := hspace h
      omega
    · omega
  · rw [if_neg hascii] at h
    simp only [Unicode.blankBounds, Unicode.within] at h
    simp at h
    omega

/-- No blank goes on an identifier. -/
theorem isWordChar_of_isBlank {c : Char} (h : Unicode.isBlank c = true) : isWordChar c = false := by
  have hall : ∀ n ∈ blankCodes, isWordChar (Char.ofNat n) = false := by decide +kernel
  have hc := hall c.toNat (mem_blankCodes h)
  rw [Char.ofNat_toNat] at hc
  exact hc

theorem isAlpha_iff {c : Char} :
    c.isAlpha = true ↔ (65 ≤ c.toNat ∧ c.toNat ≤ 90) ∨ (97 ≤ c.toNat ∧ c.toNat ≤ 122) := by
  show (decide (c.val ≥ 65 ∧ c.val ≤ 90) || decide (c.val ≥ 97) && decide (c.val ≤ 122)) = true ↔ _
  simp only [Bool.or_eq_true, Bool.and_eq_true, decide_eq_true_eq, ge_iff_le,
    UInt32.le_iff_toNat_le]
  rfl

theorem isDigit_iff {c : Char} : c.isDigit = true ↔ 48 ≤ c.toNat ∧ c.toNat ≤ 57 := by
  show (decide (c.val ≥ 48) && decide (c.val ≤ 57)) = true ↔ _
  simp only [Bool.and_eq_true, decide_eq_true_eq, ge_iff_le, UInt32.le_iff_toNat_le]
  rfl

/-- Letters and digits are ASCII characters. -/
theorem toNat_lt_of_isAlphanum {c : Char} (h : c.isAlphanum = true) : c.toNat < 0x80 := by
  rw [Char.isAlphanum, Bool.or_eq_true, isAlpha_iff, isDigit_iff] at h
  omega

/-- What an identifier may hold goes on one. -/
theorem isWordChar_of_isIdentifierChar {c : Char} (h : Pattern.isIdentifierChar c = true) :
    isWordChar c = true := by
  simp only [Pattern.isIdentifierChar, Bool.or_eq_true, beq_iff_eq] at h
  rcases h with (h | rfl) | rfl
  · unfold isWordChar Unicode.isWord
    rw [if_pos (toNat_lt_of_isAlphanum h), h, Bool.true_or, Bool.or_true]
  · rfl
  · decide

theorem isIdentifierChar_of_isIdentifierStart {c : Char}
    (h : Pattern.isIdentifierStart c = true) : Pattern.isIdentifierChar c = true := by
  simp only [Pattern.isIdentifierStart, Bool.or_eq_true] at h
  simp only [Pattern.isIdentifierChar, Char.isAlphanum, Bool.or_eq_true]
  tauto

/-- An identifier may begin with whatever it holds but digits. -/
theorem isIdentifierStart_iff {c : Char} :
    Pattern.isIdentifierStart c = true ↔ Pattern.isIdentifierChar c = true ∧ c.isDigit = false := by
  have hletter : c.isAlpha = true → c.isDigit = false := by
    rw [Bool.eq_false_iff, ne_eq, isAlpha_iff, isDigit_iff]
    omega
  have hsign : c = '$' ∨ c = '_' → c.isDigit = false := by
    rintro (rfl | rfl) <;> rfl
  simp only [Pattern.isIdentifierStart, Pattern.isIdentifierChar, Char.isAlphanum,
    Bool.or_eq_true, beq_iff_eq]
  cases hdigit : c.isDigit with
  | false => simp only [Bool.false_eq_true, or_false, and_true]
  | true =>
    rw [hdigit] at hletter hsign
    tauto

/-- No identifier ends here. -/
def NotPreceded (text : Array Char) (i : Nat) : Prop :=
  ∀ c, 0 < i → text[i - 1]? = some c → isWordChar c = false

/-- No identifier goes on here. -/
def NotContinued (text : Array Char) (j : Nat) : Prop :=
  ∀ c, text[j]? = some c → isWordChar c = false

/-- One of some words, with no identifier going on behind it. -/
def WholeWord (text : Array Char) (words : List String) (i j : Nat) : Prop :=
  (∃ w ∈ words, Occurs text w.toList i j) ∧ NotContinued text j

/-- A keyword that is not part of an identifier. -/
def Keyword (text : Array Char) (i j : Nat) : Prop :=
  NotPreceded text i ∧ WholeWord text keywords i j

/-- The shape of an identifier. -/
def IsName (cs : List Char) : Prop :=
  ∃ c rest, cs = c :: rest ∧ Pattern.isIdentifierStart c = true ∧
    ∀ d ∈ rest, Pattern.isIdentifierChar d = true

/-- An identifier that begins where no other one ends and where no reserved word stands. It may end
anywhere. -/
def Variable (text : Array Char) (i j : Nat) : Prop :=
  NotPreceded text i ∧ (∀ k, ¬ WholeWord text (keywords ++ literalKeywords) i k) ∧
    ∃ cs, Occurs text cs i j ∧ IsName cs

/-- The delimiters of strings and regular expressions. -/
def delimiters : List Char := ['"', '\'', '\x60', '/']

/-- Anything between two delimiters of one kind. -/
def IsDelimited (cs : List Char) : Prop :=
  ∃ d ∈ delimiters, ∃ inside, cs = d :: (inside ++ [d])

/-- Digits, perhaps with a sign before them and letters behind them. -/
def IsNumber (cs : List Char) : Prop :=
  ∃ sign digits tail, cs = sign ++ (digits ++ tail) ∧ (sign = [] ∨ sign = ['-']) ∧
    (digits ≠ [] ∧ ∀ c ∈ digits, Unicode.isDigit c = true) ∧
    ∀ c ∈ tail, (Unicode.isWord c || c == '.') = true

/-- A string, a regular expression, a number or a literal keyword. -/
def IsLiteral (cs : List Char) : Prop :=
  IsDelimited cs ∨ IsNumber cs ∨ ∃ w ∈ literalKeywords, cs = w.toList

/-- An operator with one operand or two. -/
def IsOperator (cs : List Char) : Prop :=
  ∃ w ∈ unaryOperators ++ binaryOperators, cs = w.toList

end Grammar

open Grammar

/-- What stands from `i` to `j` is a word of the token's kind. -/
def Pattern.Token.Stands (text : Array Char) (i j : Nat) : Pattern.Token → Prop
  | .variable _ => Variable text i j
  | .literal _ => ∃ cs, Occurs text cs i j ∧ IsLiteral cs
  | .operator _ => ∃ cs, Occurs text cs i j ∧ IsOperator cs
  | .keyword _ => Keyword text i j
  | .block _ _ => i ≤ j ∧ j ≤ text.size
  | .raw _ => False

end CodeShape
