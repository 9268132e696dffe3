import CodeShape.Proofs.Pattern.Runs
import CodeShape.Proofs.Pattern.Spacing
import CodeShape.Proofs.Pattern.Splicing

/-!
# Identifiers in patterns

Padding sets identifiers apart and then looks for literals, in the identifiers as well: a digit or a
literal keyword is taken for a literal wherever it stands, and spaces are put around it. So an
identifier is searched for in one piece only if it is a literal keyword or nothing in it looks like a
literal (`Whole`); any other one is cut in two (`exists_cut`), and the pattern then matches the two
pieces with a space between them, where the identifier does not stand (`identifier_pieces`).
-/

namespace CodeShape.Pattern

open Grammar (literalKeywords)
open Regex (Occurs)

variable {cs ds w word after : List Char} {c : Char} {segs : List Segment}
  {next? : List Char → Option (List Char × List Char)}

/-! ## The first word -/

/-- Padding leaves a text as it is if no word stands in it. Else it goes on behind the first word. -/
theorem padWords_cases (hnext : Steady next?) (hsplits : SplitsOff next?) (cs : List Char) :
    (padWords next? cs = cs ∧ ∀ front back, cs = front ++ back → next? back = none) ∨
      ∃ front word after, cs = front ++ (word ++ after) ∧
        next? (word ++ after) = some (word, after) ∧
        padWords next? cs = front ++ (setApart word ++ padWords next? after) := by
  induction cs with
  | nil =>
    refine Or.inl ⟨by rw [padWords], fun front back hnil => ?_⟩
    rw [(List.append_eq_nil_iff.mp hnil.symm).2]
    exact hnext.setOff (AllBlank.setOff (List.forall_mem_nil _))
  | cons c cs ih =>
    cases hfound : next? (c :: cs) with
    | some split =>
      obtain ⟨word, after⟩ := split
      have hcs := hsplits _ _ _ hfound
      have hpad := padWords_some hfound (hnext.shorter hfound)
      rw [hcs] at hfound
      exact Or.inr ⟨[], word, after, hcs, hfound, hpad⟩
    | none =>
      rw [padWords_none hfound]
      rcases ih with ⟨hpad, hnone⟩ | ⟨front, word, after, rfl, hword, hpad⟩
      · rw [hpad]
        refine Or.inl ⟨rfl, fun front back hcs => ?_⟩
        cases front with
        | nil =>
          obtain rfl : c :: cs = back := hcs
          exact hfound
        | cons d front => exact hnone front back (List.cons.inj hcs).2
      · rw [hpad]
        exact Or.inr ⟨c :: front, word, after, rfl, hword, rfl⟩

theorem setApart_append (word after : List Char) :
    setApart word ++ after = ' ' :: (word ++ ' ' :: after) := by
  rw [setApart, List.cons_append, List.append_assoc]
  rfl

theorem spacedOut_concat (cs : List Char) : SpacedOut cs (cs ++ [' ']) := by
  have h := (SpacedOut.refl cs).append (.space .nil)
  rwa [List.append_nil] at h

/-! ## Literals -/

theorem literal?_eq_none (h : literal? cs = none) :
    number? cs = none ∧ ∀ v ∈ literalKeywords, ¬ v.toList <+: cs := by
  have hnone := List.findSome?_eq_none_iff.mp h
  refine ⟨hnone number? (by simp), fun v hv hprefix => ?_⟩
  have hword : word? v.toList cs = none :=
    hnone _ (List.mem_append_right _ (List.mem_map.mpr ⟨v, hv, rfl⟩))
  rw [word?, if_pos (List.isPrefixOf_iff_prefix.mpr hprefix)] at hword
  cases hword

/-- A digit begins a literal. -/
theorem literal?_digit (hc : Unicode.isDigit c = true) (cs : List Char) :
    literal? (c :: cs) ≠ none := by
  intro h
  have hnumber := (literal?_eq_none h).1
  have hsign : c ≠ '-' := by
    intro hc'
    rw [hc'] at hc
    revert hc
    decide
  have hunsigned : number? (c :: cs) = unsigned? (c :: cs) := by
    rw [number?]
    exact fun _ h => hsign (List.cons.inj h).1
  rw [hunsigned, unsigned?, if_pos hc] at hnumber
  cases hnumber

/-- A character with which a literal begins that is no keyword. -/
def OpensLiteral (c : Char) : Prop :=
  c ∈ ['"', '\'', '\x60', '/', '-'] ∨ Unicode.isDigit c = true

/-- A literal is a keyword, or its first character tells that it is a literal. -/
theorem literal?_cases (h : literal? cs = some (word, after)) :
    (∃ v ∈ literalKeywords, word = v.toList) ∨ ∃ c rest, cs = c :: rest ∧ OpensLiteral c := by
  rcases literal?_eq_some h with ⟨d, hd, hstring⟩ | hnumber | ⟨v, hv, hword⟩
  · obtain ⟨inside, -, -, rfl⟩ := delimited?_eq_some_iff.mp hstring
    exact Or.inr ⟨d, _, rfl, Or.inl (List.mem_append_left ['-'] hd)⟩
  · rcases number?_eq_some hnumber with hdigits | ⟨rest, -, rfl, -, -⟩
    · rw [unsigned?_eq_run?] at hdigits
      obtain ⟨c, rest, rfl, hc, -⟩ := run?_eq_some_iff.mp hdigits
      exact Or.inr ⟨c, rest, rfl, Or.inr hc⟩
    · exact Or.inr ⟨'-', rest, rfl, Or.inl (by simp)⟩
  · exact Or.inl ⟨v, hv, (word?_eq_some_iff.mp hword).1⟩

/-! ## Identifiers -/

/-- A letter or an underscore, and letters, digits and underscores behind it. -/
def IsWord (w : List Char) : Prop :=
  ∃ c rest, w = c :: rest ∧ (c.isAlpha = true ∨ c = '_') ∧
    ∀ d ∈ rest, d.isAlphanum = true ∨ d = '_'

/-- The identifier is a literal keyword, or nothing in it looks like a literal. -/
def Whole (w : List Char) : Prop :=
  String.ofList w ∈ literalKeywords ∨
    (∀ c ∈ w, c.isDigit = false) ∧ ∀ v ∈ literalKeywords, ¬ v.toList <:+: w

theorem IsWord.isName (h : IsWord w) : Grammar.IsName w := by
  obtain ⟨c, rest, rfl, hc, hrest⟩ := h
  refine ⟨c, rest, rfl, ?_, fun d hd => ?_⟩
  · unfold isIdentifierStart
    rcases hc with hc | rfl
    · rw [hc]
      rfl
    · rfl
  · unfold isIdentifierChar
    rcases hrest d hd with hd | rfl
    · rw [hd]
      rfl
    · rfl

theorem IsWord.not_dollar (h : IsWord w) : '$' ∉ w := by
  obtain ⟨c, rest, rfl, hc, hrest⟩ := h
  intro hmem
  rcases List.mem_cons.mp hmem with rfl | hmem
  · revert hc
    decide
  · have := hrest '$' hmem
    revert this
    decide

/-- What an identifier holds is an ASCII character, so that it is a digit in Unicode just if it is
one. -/
theorem isDigit_of_isIdentifierChar (hc : isIdentifierChar c = true) :
    Unicode.isDigit c = c.isDigit := by
  have hascii : c.toNat < 0x80 := by
    simp only [isIdentifierChar, Bool.or_eq_true, beq_iff_eq] at hc
    rcases hc with (hc | rfl) | rfl
    · exact Grammar.toNat_lt_of_isAlphanum hc
    · decide
    · decide
  unfold Unicode.isDigit
  exact if_pos hascii

theorem opensLiteral_of_isIdentifierChar (hc : isIdentifierChar c = true) :
    OpensLiteral c ↔ c.isDigit = true := by
  unfold OpensLiteral
  rw [isDigit_of_isIdentifierChar hc, or_iff_right]
  intro hmem
  simp only [List.mem_cons, List.not_mem_nil, or_false] at hmem
  rcases hmem with rfl | rfl | rfl | rfl | rfl <;> cases hc

/-- Identifiers hold no blanks and no brackets. -/
theorem isIdentifierChar_plain (hc : isIdentifierChar c = true) :
    Unicode.isBlank c = false ∧ isBoundary c = false := by
  refine ⟨?_, ?_⟩
  · rw [Bool.eq_false_iff]
    intro hblank
    rw [(not_word_of_isBlank hblank).1] at hc
    cases hc
  · rw [Bool.eq_false_iff]
    intro hboundary
    simp only [isBoundary, List.contains_eq_mem, List.mem_cons, List.not_mem_nil, or_false,
      decide_eq_true_eq] at hboundary
    rcases hboundary with rfl | rfl | rfl | rfl | rfl | rfl | rfl <;> cases hc

theorem space_not_mem (h : ∀ c ∈ w, isIdentifierChar c = true) : ' ' ∉ w :=
  fun hmem => Bool.false_ne_true (h ' ' hmem)

theorem space_not_mem_keyword {v : String} (hv : v ∈ literalKeywords) : ' ' ∉ v.toList :=
  space_not_mem (Grammar.identifier_of_mem_reserved v (List.mem_append_right _ hv))

/-- The first pass sets the identifier apart as a whole. -/
theorem padWords_identifier (h : Grammar.IsName w) : padWords identifier? w = setApart w := by
  obtain ⟨c, rest, rfl, hc, hrest⟩ := h
  have hfound : identifier? (c :: rest) = some (c :: rest, []) := by
    rw [identifier?_cons, if_pos hc, List.takeWhile_eq_self_iff.mpr hrest,
      List.dropWhile_eq_nil_iff.mpr hrest]
  rw [padWords_some hfound (Nat.succ_pos _), padWords, List.append_nil]

/-! ## Identifiers that are cut -/

/-- If no literal is found in an identifier, it is whole. -/
theorem whole_of_none (hchars : ∀ c ∈ w, isIdentifierChar c = true)
    (hnone : ∀ front back, setApart w = front ++ back → literal? back = none) : Whole w := by
  refine Or.inr ⟨fun c hc => ?_, fun v hv hinfix => ?_⟩
  · rw [Bool.eq_false_iff]
    intro hdigit
    rw [← isDigit_of_isIdentifierChar (hchars c hc)] at hdigit
    obtain ⟨front, back, rfl⟩ := List.append_of_mem hc
    exact literal?_digit hdigit _ (hnone (' ' :: front) (c :: (back ++ [' '])) (by simp [setApart]))
  · obtain ⟨front, back, rfl⟩ := hinfix
    have hback := hnone (' ' :: front) (v.toList ++ (back ++ [' '])) (by simp [setApart])
    exact (literal?_eq_none hback).2 v hv (List.prefix_append _ _)

/-- The first literal in an identifier begins at one of its characters. -/
theorem literal_inside {front : List Char} (hsplit : setApart w = front ++ (word ++ after))
    (hfound : literal? (word ++ after) = some (word, after)) :
    ∃ before rest, front = ' ' :: before ∧ w = before ++ rest ∧ rest ≠ [] ∧
      word ++ after = rest ++ [' '] := by
  have hink : ¬ SetOff (word ++ after) := by
    intro h
    rw [steady_literal?.setOff h] at hfound
    cases hfound
  have hspace (cs : List Char) : SetOff (' ' :: cs) := setOff_cons (by decide)
  cases front with
  | nil =>
    have h : ' ' :: (w ++ [' ']) = word ++ after := hsplit
    exact absurd (h ▸ hspace _) hink
  | cons d before =>
    obtain ⟨rfl, h⟩ := List.cons.inj hsplit
    rcases List.append_eq_append_iff.mp h with ⟨more, -, hlast⟩ | ⟨rest, hw, hrest⟩
    · have hblank : AllBlank (word ++ after) := by
        intro c hc
        have hmem : c ∈ [' '] := hlast ▸ List.mem_append_right more hc
        rw [List.mem_singleton.mp hmem]
        decide
      exact absurd hblank.setOff hink
    · refine ⟨before, rest, rfl, hw, fun hnil => ?_, hrest⟩
      rw [hnil] at hrest
      exact hink (hrest ▸ hspace [])

/-- A literal in front of an identifier that is not whole is a keyword, and the identifier goes on
behind it. -/
theorem keyword_in_front (hw : IsWord w) (hnot : ¬ Whole w) (hsplit : word ++ after = w ++ [' '])
    (hfound : literal? (word ++ after) = some (word, after)) :
    ∃ back, w = word ++ back ∧ word ≠ [] ∧ back ≠ [] ∧ after = back ++ [' '] := by
  have hkeyword : ∃ v ∈ literalKeywords, word = v.toList := by
    refine (literal?_cases hfound).resolve_right fun h => ?_
    obtain ⟨c, _, hcs, hopens⟩ := h
    obtain ⟨d, rest, rfl, hd, -⟩ := hw.isName
    rw [hsplit] at hcs
    obtain ⟨rfl, -⟩ := List.cons.inj hcs
    obtain ⟨hchar, hdigit⟩ := Grammar.isIdentifierStart_iff.mp hd
    rw [opensLiteral_of_isIdentifierChar hchar, hdigit] at hopens
    cases hopens
  obtain ⟨v, hv, rfl⟩ := hkeyword
  have hne : v.toList ≠ w := by
    rintro rfl
    exact hnot (Or.inl (by rw [String.ofList_toList]; exact hv))
  rcases List.append_eq_append_iff.mp hsplit with ⟨back, hback, hafter⟩ | ⟨more, hmore, hlast⟩
  · refine ⟨back, hback, (Grammar.plainWords_literalKeywords.2 v hv).1, fun hnil => ?_, hafter⟩
    rw [hnil, List.append_nil] at hback
    exact hne hback.symm
  · cases more with
    | nil => exact absurd (hmore.trans (List.append_nil w)) hne
    | cons d more =>
      obtain ⟨rfl, -⟩ := List.cons.inj hlast
      refine absurd ?_ (space_not_mem_keyword hv)
      rw [hmore]
      exact List.mem_append_right w List.mem_cons_self

/-- **An identifier that is not whole is cut in two** by the spaces that are put into it. -/
theorem exists_cut (hw : IsWord w) (hnot : ¬ Whole w) :
    ∃ front back, w = front ++ back ∧ front ≠ [] ∧ back ≠ [] ∧
      SpacedOut (front ++ ' ' :: back) (pad w) := by
  have hlater : SpacedOut (padWords literal? (setApart w)) (pad w) := by
    unfold pad
    rw [padWords_identifier hw.isName]
    exact spacedOut_boundaries _
  rcases padWords_cases steady_literal? splitsOff_literal? (setApart w) with
    ⟨-, hnone⟩ | ⟨front, word, after, hsplit, hfound, hpad⟩
  · exact absurd (whole_of_none (isIdentifierChar_of_isName hw.isName) hnone) hnot
  obtain ⟨before, rest, rfl, hwhole, hne, hrest⟩ := literal_inside hsplit hfound
  rw [hpad, setApart_append] at hlater
  have hafter := spacedOut_padWords splitsOff_literal? after
  by_cases hbefore : before = []
  · -- the literal stands in front, and a space comes behind it
    subst hbefore
    obtain rfl : w = rest := hwhole
    obtain ⟨back, hw', hword, hback, rfl⟩ := keyword_in_front hw hnot hrest hfound
    refine ⟨word, back, hw', hword, hback, .trans ?_ hlater⟩
    have hbehind := (SpacedOut.refl word).append (.keep ' ' ((spacedOut_concat back).trans hafter))
    exact .space (.space hbehind)
  · -- the literal stands behind something, and a space comes between them
    refine ⟨before, rest, hwhole, hbefore, hne, .trans ?_ hlater⟩
    have hback : SpacedOut (' ' :: rest) (' ' :: (word ++ ' ' :: padWords literal? after)) := by
      refine .trans (.keep ' ' (spacedOut_concat rest)) ?_
      rw [← hrest]
      exact .keep ' ' ((SpacedOut.refl word).append (.space hafter))
    exact .space ((SpacedOut.refl before).append hback)

/-! ## Identifiers that are whole -/

/-- No literal is found in an identifier without digits and literal keywords. -/
theorem padWords_literal_of_plain (hchars : ∀ c ∈ w, isIdentifierChar c = true)
    (hdigit : ∀ c ∈ w, c.isDigit = false) (hkeyword : ∀ v ∈ literalKeywords, ¬ v.toList <:+: w) :
    padWords literal? (setApart w) = setApart w := by
  rcases padWords_cases steady_literal? splitsOff_literal? (setApart w) with
    ⟨hpad, -⟩ | ⟨front, word, after, hsplit, hfound, -⟩
  · exact hpad
  exfalso
  obtain ⟨before, rest, -, rfl, hne, hrest⟩ := literal_inside hsplit hfound
  rcases literal?_cases hfound with ⟨v, hv, rfl⟩ | ⟨c, cs, hcs, hopens⟩
  · -- the keyword has no space in it, so it stands in the identifier
    have hinfix : v.toList <:+: rest ++ ' ' :: [] := hrest ▸ (List.prefix_append _ _).isInfix
    rcases infix_of_space hinfix (space_not_mem_keyword hv) with hin | hnil
    · exact hkeyword v hv (hin.trans (List.suffix_append _ _).isInfix)
    · exact (Grammar.plainWords_literalKeywords.2 v hv).1 (List.infix_nil.mp hnil)
  · obtain ⟨d, rest, rfl⟩ := List.exists_cons_of_ne_nil hne
    rw [hrest] at hcs
    obtain ⟨rfl, -⟩ := List.cons.inj hcs
    have hmem : d ∈ before ++ d :: rest := List.mem_append_right before List.mem_cons_self
    rw [opensLiteral_of_isIdentifierChar (hchars d hmem), hdigit d hmem] at hopens
    cases hopens

/-- What is set apart and holds no blanks is one run. -/
theorem layout_setApart (hne : w ≠ []) (hink : ∀ c ∈ w, Unicode.isBlank c = false) :
    layout (splitBlanks (setApart w)) = [.text (Regex.quote w)] := by
  obtain ⟨c, rest, rfl⟩ := List.exists_cons_of_ne_nil hne
  obtain ⟨hc, hrest⟩ := List.forall_mem_cons.mp hink
  have hspace : Unicode.isBlank ' ' = true := by decide
  let inText (d : Char) : Bool := !Unicode.isBlank d
  have hgo : ∀ d ∈ rest, inText d = true := by
    intro d hd
    show (!Unicode.isBlank d) = true
    rw [hrest d hd]
    rfl
  have hstop : ¬ inText ' ' = true := by
    show ¬ (!Unicode.isBlank ' ') = true
    rw [hspace]
    exact Bool.false_ne_true
  have hlast : splitBlanks [' '] = [.space] := by
    rw [splitBlanks, if_pos hspace, List.dropWhile_nil, splitBlanks]
  have hrun : splitBlanks (c :: (rest ++ [' '])) = [.text (Regex.quote (c :: rest)), .space] := by
    rw [splitBlanks, if_neg (Bool.eq_false_iff.mp hc)]
    show Segment.text (Regex.quote (c :: (rest ++ [' ']).takeWhile inText))
      :: splitBlanks ((rest ++ [' ']).dropWhile inText) = _
    rw [List.takeWhile_append_of_pos hgo, List.dropWhile_append_of_pos hgo,
      List.takeWhile_cons_of_neg hstop, List.dropWhile_cons_of_neg hstop, List.append_nil, hlast]
  have hsegs : splitBlanks (setApart (c :: rest))
      = [.space, .text (Regex.quote (c :: rest)), .space] := by
    show splitBlanks (' ' :: c :: (rest ++ [' '])) = _
    rw [splitBlanks, if_pos hspace, List.dropWhile_cons_of_neg (Bool.eq_false_iff.mp hc), hrun]
  rw [hsegs]
  rfl

/-- **An identifier that is whole stays in one piece.** -/
theorem plainSegments_whole (hw : IsWord w) (h : Whole w) :
    plainSegments w = [.text (Regex.quote w)] := by
  have hchars := isIdentifierChar_of_isName hw.isName
  rcases h with hkeyword | ⟨hdigit, hkeyword⟩
  · have hall : ∀ v ∈ literalKeywords, plainSegments v.toList = [.text (Regex.quote v.toList)] := by
      decide +kernel
    have h := hall _ hkeyword
    rwa [String.toList_ofList] at h
  · have hne : w ≠ [] := by
      obtain ⟨c, rest, rfl, -⟩ := hw
      exact List.cons_ne_nil c rest
    have hboundary : ∀ c ∈ setApart w, isBoundary c = false := by
      intro c hc
      have hmem : c = ' ' ∨ c ∈ w ∨ c = ' ' := by simpa [setApart] using hc
      rcases hmem with rfl | hc | rfl
      · rfl
      · exact (isIdentifierChar_plain (hchars c hc)).2
      · rfl
    unfold plainSegments pad
    rw [padWords_identifier hw.isName, padWords_literal_of_plain hchars hdigit hkeyword,
      flatMap_setApart_of_none hboundary]
    exact layout_setApart hne fun c hc => (isIdentifierChar_plain (hchars c hc)).1

/-! ## Searching for an identifier -/

/-- Without blanks at its ends, a text fits the layout of the segments that it fits. -/
theorem Fits.layout_of_noBlankEnds (h : Fits segs cs) (hends : NoBlankEnds cs) :
    Fits (Pattern.layout segs) cs := by
  obtain ⟨lead, mid, tail, rfl, hlead, htail, hmid⟩ := h.layout
  have hlead' : lead = [] := by
    cases lead with
    | nil => rfl
    | cons c lead =>
      have hc := hlead c List.mem_cons_self
      rw [hends.1 c rfl] at hc
      cases hc
  have htail' : tail = [] := by
    rcases List.eq_nil_or_concat tail with hnil | ⟨init, c, rfl⟩
    · exact hnil
    · have hc := htail c (by simp)
      rw [hends.2 c (by simp)] at hc
      cases hc
  rw [hlead', htail', List.append_nil]
  exact hmid

theorem noBlankEnds_of_forall (h : ∀ c ∈ cs, Unicode.isBlank c = false) : NoBlankEnds cs :=
  ⟨fun c hc => h c (List.mem_of_head? hc), fun c hc => h c (List.mem_of_getLast? hc)⟩

/-- A blank between two texts without blanks stands at no end. -/
theorem noBlankEnds_between {front back : List Char} (hfront : front ≠ []) (hback : back ≠ [])
    (h : ∀ c ∈ front ++ back, Unicode.isBlank c = false) :
    NoBlankEnds (front ++ ' ' :: back) := by
  constructor
  · intro c hc
    rw [List.head?_append_of_ne_nil _ hfront] at hc
    exact h c (List.mem_append_left back (List.mem_of_head? hc))
  · intro c hc
    rw [List.getLast?_append_of_ne_nil _ (List.cons_ne_nil _ _), List.getLast?_cons_of_ne_nil hback]
      at hc
    exact h c (List.mem_append_right front (List.mem_of_getLast? hc))

section Search

variable {pattern : List Char} {pieces : List Piece} {limits : Limits} {m : Matcher}

/-- Code matches a text just if something that fits its segments stands there. -/
theorem isMatch_iff_fits (hextract : extract pattern = .ok pieces)
    (hnone : ∀ t, .token t ∉ pieces) (hm : Matcher.compile pattern limits = .ok m)
    (hmax : 1 ≤ limits.maxMatches) (text : String) :
    m.isMatch (.ofString text) = true ↔
      ∃ part, part <:+: text.toList ∧ Fits (plainSegments pattern) part := by
  unfold Matcher.isMatch
  rw [Bool.not_eq_true', List.isEmpty_eq_false_iff]
  constructor
  · intro h
    obtain ⟨f, hf⟩ := List.exists_mem_of_ne_nil _ h
    obtain ⟨part, hpart, hfits, -⟩ := fits_of_found hextract hnone hm text hf
    obtain ⟨front, back, htext, -, -⟩ := Regex.occurs_toArray_iff.mp hpart
    exact ⟨part, ⟨front, back, by rw [htext, List.append_assoc]⟩, hfits⟩
  · intro h
    obtain ⟨part, ⟨front, back, htext⟩, hfits⟩ := h
    have hpart : Occurs text.toList.toArray part front.length (front.length + part.length) :=
      Regex.occurs_toArray_iff.mpr ⟨front, back, by rw [← htext, List.append_assoc], rfl, rfl⟩
    obtain ⟨f, hf, -⟩ := found_in_itself hextract hnone hm hmax (.ofString text) hpart hfits
    intro hempty
    rw [hempty] at hf
    cases hf

theorem extract_word (hw : IsWord w) : extract w = .ok (plainPieces w) := by
  have hne : w ≠ [] := by
    obtain ⟨c, rest, rfl, -⟩ := hw
    exact List.cons_ne_nil c rest
  rw [plainPieces, if_neg hne, extract_text_iff hne, hasToken_iff_of_isName hw.isName]
  intro h
  obtain ⟨front, c, back, rfl, -⟩ := h
  exact hw.not_dollar (List.mem_append_right front List.mem_cons_self)

theorem isBlank_of_mem_word (hw : IsWord w) : ∀ c ∈ w, Unicode.isBlank c = false :=
  fun c hc => (isIdentifierChar_plain (isIdentifierChar_of_isName hw.isName c hc)).1

/-- An identifier fits its own segments. -/
theorem fits_word (hw : IsWord w) : Fits (plainSegments w) w :=
  (fits_splitBlanks (spacedOut_pad w)).layout_of_noBlankEnds
    (noBlankEnds_of_forall (isBlank_of_mem_word hw))

/-- An identifier that is not whole fits its segments with a space put into it, too. -/
theorem fits_cut (hw : IsWord w) (hnot : ¬ Whole w) :
    ∃ front back, w = front ++ back ∧ front ≠ [] ∧ back ≠ [] ∧
      Fits (plainSegments w) (front ++ ' ' :: back) := by
  have hink := isBlank_of_mem_word hw
  obtain ⟨front, back, rfl, hfront, hback, hspaced⟩ := exists_cut hw hnot
  exact ⟨front, back, rfl, hfront, hback, (fits_splitBlanks hspaced).layout_of_noBlankEnds
    (noBlankEnds_between hfront hback hink)⟩

/-- With a space put into it, an identifier stands nowhere in a text any more. -/
theorem not_infix_cut (front back : List Char) (hw : IsWord (front ++ back)) (hfront : front ≠ [])
    (hback : back ≠ []) : ¬ front ++ back <:+: front ++ ' ' :: back := by
  intro h
  have hfront' := List.length_pos_of_ne_nil hfront
  have hback' := List.length_pos_of_ne_nil hback
  have hspace : ' ' ∉ front ++ back := space_not_mem (isIdentifierChar_of_isName hw.isName)
  rcases infix_of_space h hspace with hin | hin
  · have hlength := hin.length_le
    rw [List.length_append] at hlength
    omega
  · have hlength := hin.length_le
    rw [List.length_append] at hlength
    omega

/-- An identifier that is whole fits nothing but itself. -/
theorem eq_of_fits_whole (hw : IsWord w) (hwhole : Whole w) (h : Fits (plainSegments w) cs) :
    cs = w := by
  rw [plainSegments_whole hw hwhole] at h
  cases h with
  | text _ hnil =>
    cases hnil
    rw [unquote_quote, List.append_nil]

/-- An identifier that is not whole is found in a text in which it does not stand. -/
theorem isMatch_cut {name : String} (hname : IsWord name.toList) (hmax : 1 ≤ limits.maxMatches)
    (hm : Matcher.compile name.toList limits = .ok m) (hnot : ¬ Whole name.toList) :
    ∃ front back : String, name = front ++ back ∧ front ≠ "" ∧ back ≠ "" ∧
      m.isMatch (.ofString (front ++ " " ++ back)) = true ∧
      ¬ name.toList <:+: (front ++ " " ++ back).toList := by
  obtain ⟨front, back, hparts, hfront, hback, hfits⟩ := fits_cut hname hnot
  have htext : (String.ofList front ++ " " ++ String.ofList back).toList
      = front ++ ' ' :: back := by
    simp only [String.toList_append, String.toList_ofList, List.append_assoc]
    rfl
  refine ⟨.ofList front, .ofList back, ?_, ?_, ?_, ?_, ?_⟩
  · rw [← String.ofList_append, ← hparts, String.ofList_toList]
  · simpa using hfront
  · simpa using hback
  · rw [isMatch_iff_fits (extract_word hname) (token_not_mem_plainPieces _) hm hmax, htext]
    exact ⟨_, List.infix_rfl, hfits⟩
  · rw [htext, hparts]
    exact not_infix_cut front back (hparts ▸ hname) hfront hback

/-- Only its length keeps an identifier from being compiled. -/
theorem compile_word_iff (hw : IsWord w) :
    (∃ m, Matcher.compile w limits = .ok m) ↔
      w.length + (plainSegments w).count .space ≤ Regex.maxLeaves := by
  have hink : ink w = w := by
    refine List.filter_eq_self.mpr fun c hc => ?_
    rw [isBlank_of_mem_word hw c hc]
    rfl
  rw [compile_plain_iff (extract_word hw) (token_not_mem_plainPieces w), hink,
    normalize_plainPieces]
  rfl

/-- **Identifiers are searched for piece by piece.** Unless it is too long an identifier can be
compiled, and it is found wherever it stands. It is found there only, just if it is a literal keyword
or has no digits and no literal keywords in it. Any other one consists of two parts that are found
with a space between them as well. -/
theorem identifier_pieces {name : String} (hname : IsWord name.toList)
    (hmax : 1 ≤ limits.maxMatches) :
    ((∃ m, Matcher.compile name.toList limits = .ok m) ↔
        name.toList.length + (plainSegments name.toList).count .space ≤ Regex.maxLeaves) ∧
      ∀ m, Matcher.compile name.toList limits = .ok m →
        (∀ text : String, name.toList <:+: text.toList → m.isMatch (.ofString text) = true) ∧
        ((∀ text : String, m.isMatch (.ofString text) = true ↔ name.toList <:+: text.toList) ↔
          Whole name.toList) ∧
        (¬ Whole name.toList → ∃ front back : String, name = front ++ back ∧ front ≠ "" ∧
          back ≠ "" ∧ m.isMatch (.ofString (front ++ " " ++ back)) = true) := by
  refine ⟨compile_word_iff hname, fun m hm => ?_⟩
  have hmatch := isMatch_iff_fits (extract_word hname) (token_not_mem_plainPieces _) hm hmax
  have hself : ∀ text : String, name.toList <:+: text.toList → m.isMatch (.ofString text) = true :=
    fun text hin => (hmatch text).mpr ⟨_, hin, fits_word hname⟩
  refine ⟨hself, ⟨fun hall => ?_, fun hwhole text => ⟨fun h => ?_, hself text⟩⟩, fun hnot => ?_⟩
  · by_contra hnot
    obtain ⟨front, back, -, -, -, hfound, hout⟩ := isMatch_cut hname hmax hm hnot
    exact hout ((hall _).mp hfound)
  · obtain ⟨part, hpart, hfits⟩ := (hmatch text).mp h
    rw [eq_of_fits_whole hname hwhole hfits] at hpart
    exact hpart
  · obtain ⟨front, back, hparts, hfront, hback, hfound, -⟩ := isMatch_cut hname hmax hm hnot
    exact ⟨front, back, hparts, hfront, hback, hfound⟩

/-- `isNaN` ends with a literal keyword: it is found in `is NaN`, where it does not stand. -/
theorem identifier_pieces_isNaN :
    IsWord "isNaN".toList ∧ ¬ Whole "isNaN".toList ∧
      ∃ m, Matcher.compile "isNaN".toList {} = .ok m ∧
        m.isMatch (.ofString "is NaN") = true ∧ ¬ "isNaN".toList <:+: "is NaN".toList ∧
        ¬ ∀ text : String, m.isMatch (.ofString text) = true ↔ "isNaN".toList <:+: text.toList := by
  have hrest : ['s', 'N', 'a', 'N'].all Char.isAlphanum = true := rfl
  have hname : IsWord "isNaN".toList :=
    ⟨'i', ['s', 'N', 'a', 'N'], rfl, Or.inl rfl, fun d hd => Or.inl (List.all_eq_true.mp hrest d hd)⟩
  have hsegs : plainSegments "isNaN".toList = [.text ['i', 's'], .space, .text ['N', 'a', 'N']] := by
    decide +kernel
  have hnot : ¬ Whole "isNaN".toList := by
    rintro (hkeyword | ⟨-, hkeyword⟩)
    · rw [String.ofList_toList] at hkeyword
      exact absurd hkeyword (by decide)
    · exact hkeyword "NaN" (by decide) ⟨['i', 's'], [], rfl⟩
  have hmax : 1 ≤ ({} : Limits).maxMatches := by decide
  obtain ⟨hcompile, hall⟩ := identifier_pieces hname hmax
  obtain ⟨m, hm⟩ := hcompile.mpr (by rw [hsegs]; decide)
  obtain ⟨-, hwhole, -⟩ := hall m hm
  have hfits : Fits (plainSegments "isNaN".toList) "is NaN".toList := by
    have hblank : ∀ c ∈ [' '], Unicode.isBlank c = true := List.forall_mem_singleton.mpr (by decide)
    rw [hsegs]
    exact .text ['i', 's'] (.space hblank (.text ['N', 'a', 'N'] .nil))
  have hfound := (isMatch_iff_fits (extract_word hname) (token_not_mem_plainPieces _) hm hmax
    "is NaN").mpr ⟨_, List.infix_rfl, hfits⟩
  have hout : ¬ "isNaN".toList <:+: "is NaN".toList :=
    not_infix_cut ['i', 's'] ['N', 'a', 'N'] hname nofun nofun
  exact ⟨hname, hnot, m, hm, hfound, hout, fun h => hnot (hwhole.mp h)⟩

end Search

end CodeShape.Pattern
