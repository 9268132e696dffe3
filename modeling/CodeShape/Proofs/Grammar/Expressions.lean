import CodeShape.Pattern.Fragment
import CodeShape.Proofs.Grammar.Words
import CodeShape.Proofs.Regex.Reading

/-!
# The expressions of the words

The expression of each class of words, as the reader makes it of its text: the `spells` lemmas say
that the text is read as the items, and the `suitable` lemmas that the search keeps all ways of
these.
-/

namespace CodeShape

open Regex (CharSet Expr Occurs Slots Subject Way Ways)

/-! ## Sets of characters -/

namespace Regex.CharSet

theorem contains_range (first last : Nat) (c : Char) :
    (CharSet.range first last).contains c
      = (decide (first ≤ c.toNat) && decide (c.toNat ≤ last)) := rfl

theorem contains_word (c : Char) : CharSet.word.contains c = Unicode.isWord c := by
  show Unicode.isWord (Char.ofNat c.toNat) = Unicode.isWord c
  rw [Char.ofNat_toNat]

theorem contains_digit (c : Char) : CharSet.digit.contains c = Unicode.isDigit c := by
  show Unicode.isDigit (Char.ofNat c.toNat) = Unicode.isDigit c
  rw [Char.ofNat_toNat]

theorem contains_blank (c : Char) : CharSet.blank.contains c = Unicode.isBlank c := by
  show Unicode.isBlank (Char.ofNat c.toNat) = Unicode.isBlank c
  rw [Char.ofNat_toNat]

/-- The set of a class that only lists members. -/
def listing (members : List CharSet) : CharSet :=
  members.foldl .union .empty

theorem contains_listing (members : List CharSet) (c : Char) :
    (listing members).contains c = members.any (·.contains c) := by
  have h : ∀ (members : List CharSet) (s : CharSet),
      (members.foldl .union s).contains c = (s.contains c || members.any (·.contains c)) := by
    intro members
    induction members with
    | nil =>
      intro s
      rw [List.foldl_nil, List.any_nil, Bool.or_false]
    | cons m members ih =>
      intro s
      rw [List.foldl_cons, ih, contains_union, List.any_cons, Bool.or_assoc]
  exact h members .empty

end Regex.CharSet

namespace Grammar

/-- The characters that go on an identifier. -/
def wordChars : CharSet := .listing [.single '$', .word]

/-- The characters with which an identifier begins. -/
def nameStartChars : CharSet :=
  .listing [.single '$', .range 0x41 0x5a, .range 0x61 0x7a, .single '_']

/-- The characters of an identifier. -/
def nameChars : CharSet :=
  .listing [.single '$', .range 0x41 0x5a, .range 0x61 0x7a, .range 0x30 0x39, .single '_']

/-- The characters that may follow the digits of a number. -/
def numberTailChars : CharSet := .listing [.word, .single '.']

/-- All characters, as a class. -/
def anyChars : CharSet := .listing [.blank, .compl .blank]

theorem contains_wordChars (c : Char) : wordChars.contains c = isWordChar c := by
  rw [wordChars, CharSet.contains_listing, isWordChar, List.any_cons, List.any_cons, List.any_nil,
    CharSet.contains_single, CharSet.contains_word, Bool.or_false, BEq.comm]

theorem contains_nameStartChars (c : Char) :
    nameStartChars.contains c = Pattern.isIdentifierStart c := by
  rw [nameStartChars, CharSet.contains_listing, Bool.eq_iff_iff]
  simp only [List.any_cons, List.any_nil, CharSet.contains_single, CharSet.contains_range,
    Pattern.isIdentifierStart, isAlpha_iff, Bool.or_eq_true, Bool.and_eq_true, decide_eq_true_eq,
    beq_iff_eq, Bool.or_false]
  rw [eq_comm (a := c), eq_comm (a := c)]
  tauto

theorem contains_nameChars (c : Char) : nameChars.contains c = Pattern.isIdentifierChar c := by
  rw [nameChars, CharSet.contains_listing, Bool.eq_iff_iff]
  simp only [List.any_cons, List.any_nil, CharSet.contains_single, CharSet.contains_range,
    Pattern.isIdentifierChar, Char.isAlphanum, isAlpha_iff, isDigit_iff, Bool.or_eq_true,
    Bool.and_eq_true, decide_eq_true_eq, beq_iff_eq, Bool.or_false]
  rw [eq_comm (a := c), eq_comm (a := c)]
  tauto

theorem contains_numberTailChars (c : Char) :
    numberTailChars.contains c = (Unicode.isWord c || c == '.') := by
  rw [numberTailChars, CharSet.contains_listing, List.any_cons, List.any_cons, List.any_nil,
    CharSet.contains_single, CharSet.contains_word, Bool.or_false, BEq.comm (a := c)]

theorem contains_anyChars (c : Char) : anyChars.contains c = true := by
  rw [anyChars, CharSet.contains_listing, List.any_cons, List.any_cons, List.any_nil,
    CharSet.contains_compl, Bool.or_false, Bool.or_not_self]

/-! ## Items -/

/-- A word, character by character. -/
def wordExpr (word : List Char) : Expr :=
  Expr.cats (word.map fun c => .chars (.single c))

/-- One of some words. -/
def wordsExpr (words : List String) : Expr :=
  .parens (Expr.alts (words.map fun w => wordExpr w.toList))

/-- A place at which no identifier goes on. -/
def notContinuedExpr : Expr := .look .ahead true (.chars wordChars)

/-- A place at which no identifier ends. -/
def notPrecededExpr : Expr := .look .behind true (.chars wordChars)

/-- The items of a whole word. -/
def wholeWordItems (words : List String) : List Expr :=
  [wordsExpr (longestFirst (alphabetical words)), notContinuedExpr]

/-- The items of a keyword. -/
def keywordItems : List Expr :=
  notPrecededExpr :: wholeWordItems keywords

/-- The items of a variable. -/
def variableItems : List Expr :=
  [notPrecededExpr, .look .ahead true (Expr.cats (wholeWordItems (keywords ++ literalKeywords))),
    .chars nameStartChars, .repeated 0 none true (.chars nameChars)]

/-- The items of an operator. -/
def operatorItems : List Expr :=
  [wordsExpr (longestFirst (unaryOperators ++ binaryOperators))]

/-- The items of what stands between two delimiters. -/
def delimitedItems (d : Char) : List Expr :=
  [.chars (.single d), .repeated 0 none false (.chars anyChars), .chars (.single d)]

/-- The items of a number. -/
def numberItems : List Expr :=
  [.repeated 0 (some 1) true (.chars (.single '-')), .repeated 1 none true (.chars .digit),
    .repeated 0 none true (.chars numberTailChars)]

/-- The texts of the kinds of literals, with their items. -/
def literalParts : List (List Char × List Expr) :=
  [("\"[\\s\\S]*?\"".toList, delimitedItems '"'), ("'[\\s\\S]*?'".toList, delimitedItems '\''),
    ("`[\\s\\S]*?`".toList, delimitedItems '\x60'), ("-?\\d+[\\w.]*".toList, numberItems),
    ("/[\\s\\S]*?/".toList, delimitedItems '/')] ++
  literalKeywords.map fun w => (w.toList, w.toList.map fun c => .chars (.single c))

/-- The items of a literal. -/
def literalItems : List Expr :=
  [.parens (Expr.alts (literalParts.map (Expr.cats ·.2)))]

/-- The item of a block. -/
def blockItem (greedy : Bool) : Expr :=
  .repeated 0 none greedy (.chars anyChars)

/-- The item of blanks. -/
def blanksItem : Expr :=
  .repeated 0 none true (.chars .blank)

/-! ## Reading the texts -/

open Regex.Reader (Spells Fills Item)

theorem item_wordChars : Item identifierChar (.chars wordChars) :=
  Regex.Reader.item_class ['$', '\\', 'w', ']'] (fun _ => rfl) rfl

theorem item_nameStartChars : Item "[$A-Za-z_]".toList (.chars nameStartChars) :=
  Regex.Reader.item_class ['$', 'A', '-', 'Z', 'a', '-', 'z', '_', ']'] (fun _ => rfl) rfl

theorem item_nameChars : Item "[$A-Za-z0-9_]".toList (.chars nameChars) :=
  Regex.Reader.item_class
    ['$', 'A', '-', 'Z', 'a', '-', 'z', '0', '-', '9', '_', ']'] (fun _ => rfl) rfl

theorem item_numberTailChars : Item "[\\w.]".toList (.chars numberTailChars) :=
  Regex.Reader.item_class ['\\', 'w', '.', ']'] (fun _ => rfl) rfl

theorem item_anyChars : Item "[\\s\\S]".toList (.chars anyChars) :=
  Regex.Reader.item_class ['\\', 's', '\\', 'S', ']'] (fun _ => rfl) rfl

theorem item_blank : Item "\\s".toList (.chars .blank) :=
  Regex.Reader.item_escape (.set .blank) (fun _ _ _ hflags => by
    unfold Regex.Reader.readBackslash
    rw [hflags]
    rfl) rfl

theorem item_digit : Item "\\d".toList (.chars .digit) :=
  Regex.Reader.item_escape (.set .digit) (fun _ _ _ hflags => by
    unfold Regex.Reader.readBackslash
    rw [hflags]
    rfl) rfl

/-- A word without special characters is read as it stands. -/
theorem spells_word {word : List Char} (h : word.all (!Regex.isSpecial ·) = true) :
    Spells 0 word (word.map fun c => .chars (.single c)) := by
  have hquote : Regex.quote word = word := by
    induction word with
    | nil => rfl
    | cons c word ih =>
      rw [List.all_cons, Bool.and_eq_true, Bool.not_eq_true'] at h
      show (if Regex.isSpecial c then ['\\', c] else [c]) ++ Regex.quote word = c :: word
      rw [h.1, ih h.2]
      rfl
  have hspells := Regex.Reader.spells_quote word
  rwa [hquote] at hspells

/-- One of some texts, each read as items of its own. -/
theorem spells_oneOf {depth : Nat} {parts : List (List Char × List Expr)} (hne : parts ≠ [])
    (h : ∀ p ∈ parts, Spells depth p.1 p.2)
    (hblank : (Expr.alts (parts.map (Expr.cats ·.2))).isBlank = false) :
    Spells (depth + 1) (oneOf (parts.map (·.1)))
      [.parens (Expr.alts (parts.map (Expr.cats ·.2)))] := by
  have hread := (Regex.Reader.fills_alternatives hne h).enclosed Regex.Reader.opens_parens
    (fun f hf => (Regex.Opening.parens.inj hf).symm) hblank
  exact hread

theorem mem_insertWord {w v : String} {words : List String} :
    v ∈ insertWord w words ↔ v = w ∨ v ∈ words := by
  induction words with
  | nil => rw [insertWord, List.mem_singleton, or_iff_left List.not_mem_nil]
  | cons u words ih =>
    unfold insertWord
    split
    · exact List.mem_cons
    · rw [List.mem_cons, ih, List.mem_cons]
      exact or_left_comm

theorem mem_alphabetical {v : String} {words : List String} :
    v ∈ alphabetical words ↔ v ∈ words := by
  induction words with
  | nil => rfl
  | cons w words ih =>
    show v ∈ insertWord w (alphabetical words) ↔ v ∈ w :: words
    rw [mem_insertWord, ih, List.mem_cons]

theorem length_le_longest (words : List String) :
    ∀ w ∈ words, w.length ≤ (words.map String.length).foldr max 0 := by
  induction words with
  | nil => exact fun w hw => absurd hw List.not_mem_nil
  | cons v words ih =>
    intro w hw
    rw [List.map_cons, List.foldr_cons]
    rcases List.mem_cons.mp hw with rfl | hw
    · exact Nat.le_max_left _ _
    · exact Nat.le_trans (ih w hw) (Nat.le_max_right _ _)

/-- Ordering the words by their lengths neither loses nor adds any. -/
theorem mem_longestFirst {v : String} {words : List String} :
    v ∈ longestFirst words ↔ v ∈ words := by
  unfold longestFirst
  simp only [List.mem_flatMap, List.mem_reverse, List.mem_range, List.mem_filter, beq_iff_eq]
  constructor
  · intro h
    obtain ⟨n, -, hv, -⟩ := h
    exact hv
  · intro hv
    exact ⟨v.length, Nat.lt_succ_of_le (length_le_longest words v hv), hv, rfl⟩

/-- An expression for words that are not empty is not blank. -/
theorem alts_isBlank {es : List Expr} (hne : es ≠ []) (h : ∀ e ∈ es, e.isBlank = false) :
    (Expr.alts es).isBlank = false := by
  obtain ⟨e, es, rfl⟩ := List.exists_cons_of_ne_nil hne
  cases es with
  | nil => exact h e List.mem_cons_self
  | cons e' es => rfl

theorem wordExpr_isBlank {word : List Char} (hne : word ≠ []) :
    (wordExpr word).isBlank = false := by
  obtain ⟨c, word, rfl⟩ := List.exists_cons_of_ne_nil hne
  cases word with
  | nil => rfl
  | cons d word => rfl

/-- Words, each read as its characters. -/
theorem spells_words {words : List String} {text : String → List Char} (hne : words ≠ [])
    (hword : ∀ w ∈ words, w.toList ≠ [])
    (h : ∀ w ∈ words, Spells 0 (text w) (w.toList.map fun c => .chars (.single c))) :
    Spells 1 (oneOf (words.map text)) [wordsExpr words] := by
  have hparts : ∀ p ∈ words.map fun w => (text w, w.toList.map fun c => Expr.chars (.single c)),
      Spells 0 p.1 p.2 := by
    rw [List.forall_mem_map]
    exact h
  have hblank : ∀ e ∈ words.map fun w => wordExpr w.toList, e.isBlank = false := by
    rw [List.forall_mem_map]
    exact fun w hw => wordExpr_isBlank (hword w hw)
  have hnil {β : Type} (f : String → β) : words.map f ≠ [] := by
    rw [ne_eq, List.map_eq_nil_iff]
    exact hne
  have hread := spells_oneOf (hnil _) hparts (by
    rw [List.map_map]
    exact alts_isBlank (hnil _) hblank)
  rw [List.map_map, List.map_map] at hread
  exact hread

/-- Words that are neither empty nor need quoting. -/
def PlainWords (words : List String) : Prop :=
  words ≠ [] ∧ ∀ w ∈ words, w.toList ≠ [] ∧ w.toList.all (!Regex.isSpecial ·) = true

theorem plainWords_keywords : PlainWords keywords := by
  unfold PlainWords
  decide +kernel

theorem plainWords_literalKeywords : PlainWords literalKeywords := by
  unfold PlainWords
  decide

theorem plainWords_reserved : PlainWords (keywords ++ literalKeywords) :=
  ⟨List.append_ne_nil_of_left_ne_nil plainWords_keywords.1 _,
    List.forall_mem_append.mpr ⟨plainWords_keywords.2, plainWords_literalKeywords.2⟩⟩

/-- Reserved words consist of characters of identifiers. -/
theorem identifier_of_mem_reserved :
    ∀ w ∈ keywords ++ literalKeywords, ∀ c ∈ w.toList, Pattern.isIdentifierChar c = true := by
  have hall : (keywords ++ literalKeywords).all (·.toList.all Pattern.isIdentifierChar) = true := by
    decide +kernel
  intro w hw
  exact List.all_eq_true.mp (List.all_eq_true.mp hall w hw)

theorem spells_notContinued : Spells 1 notContinued [notContinuedExpr] :=
  (item_wordChars.spells rfl).fills.enclosed Regex.Reader.opens_ahead nofun rfl

theorem spells_notPreceded : Spells 1 notPreceded [notPrecededExpr] :=
  (item_wordChars.spells rfl).fills.enclosed Regex.Reader.opens_behind nofun rfl

theorem spells_wholeWord {words : List String} (h : PlainWords words) :
    Spells 1 (wholeWord words) (wholeWordItems words) := by
  have hmem : ∀ w ∈ longestFirst (alphabetical words), w ∈ words := by
    intro w hw
    exact mem_alphabetical.mp (mem_longestFirst.mp hw)
  have hne : longestFirst (alphabetical words) ≠ [] := by
    obtain ⟨w, hw⟩ := List.exists_mem_of_ne_nil words h.1
    exact List.ne_nil_of_mem (mem_longestFirst.mpr (mem_alphabetical.mpr hw))
  have hwords := spells_words hne (fun w hw => (h.2 w (hmem w hw)).1)
    fun w hw => spells_word (h.2 w (hmem w hw)).2
  exact hwords.append spells_notContinued

theorem spells_keyword : Spells 1 keyword keywordItems :=
  spells_notPreceded.append (spells_wholeWord plainWords_keywords)

theorem spells_variable : Spells 2 variableName variableItems := by
  have hreserved : Spells 2 (['(', '?', '!'] ++ (wholeWord (keywords ++ literalKeywords) ++ [')']))
      [.look .ahead true (Expr.cats (wholeWordItems (keywords ++ literalKeywords)))] :=
    (spells_wholeWord plainWords_reserved).fills.enclosed Regex.Reader.opens_ahead nofun rfl
  have hname : Spells 2 ("[$A-Za-z_]".toList ++ ("[$A-Za-z0-9_]".toList ++ ['*']))
      [.chars nameStartChars, .repeated 0 none true (.chars nameChars)] :=
    ((item_nameStartChars.spells rfl).append (item_nameChars.star rfl)).mono (Nat.zero_le 2)
  have hall := ((spells_notPreceded.mono (Nat.le_succ 1)).append hreserved).append hname
  unfold variableName
  rw [List.append_assoc _ _ [')']]
  exact hall

theorem spells_operator : Spells 1 operator operatorItems := by
  have hne : longestFirst (unaryOperators ++ binaryOperators) ≠ [] := by decide
  have hword : ∀ w ∈ unaryOperators ++ binaryOperators, w.toList ≠ [] := by decide
  exact spells_words hne (fun w hw => hword w (mem_longestFirst.mp hw))
    fun w _ => Regex.Reader.spells_quote w.toList

theorem spells_delimited {d : Char} (h : Regex.isSpecial d = false) :
    Spells 0 (d :: ("[\\s\\S]".toList ++ ['*', '?'] ++ [d])) (delimitedItems d) :=
  (((Regex.Reader.item_plain h).spells rfl).append (item_anyChars.lazyStar rfl)).append
    ((Regex.Reader.item_plain h).spells rfl)

theorem spells_number : Spells 0 "-?\\d+[\\w.]*".toList numberItems :=
  ((((Regex.Reader.item_plain rfl).optional rfl)).append (item_digit.plus rfl)).append
    (item_numberTailChars.star rfl)

theorem spells_literal : Spells 1 literal literalItems := by
  have hparts : ∀ p ∈ literalParts, Spells 0 p.1 p.2 := by
    intro p hp
    rcases List.mem_append.mp hp with hp | hp
    · simp only [List.mem_cons, List.not_mem_nil, or_false] at hp
      rcases hp with rfl | rfl | rfl | rfl | rfl
      · exact spells_delimited rfl
      · exact spells_delimited rfl
      · exact spells_delimited rfl
      · exact spells_number
      · exact spells_delimited rfl
    · obtain ⟨w, hw, rfl⟩ := List.mem_map.mp hp
      exact spells_word (plainWords_literalKeywords.2 w hw).2
  exact spells_oneOf nofun hparts rfl

theorem spells_blanks : Spells 0 blanks [blanksItem] :=
  item_blank.star rfl

/-! ## What the search does with the items -/

/-- An expression that the search keeps all ways of and that has no groups. -/
def Suitable (e : Expr) : Prop :=
  e.orderly = true ∧ e.tidy = true ∧ e.groups = []

/-- The search keeps all ways of a sequence of suitable items. -/
theorem cats_suitable {items : List Expr} (h : ∀ e ∈ items, Suitable e) :
    (Expr.cats items).orderly = true ∧ 0 ∉ (Expr.cats items).groups := by
  refine ⟨Expr.cats_orderly fun e he => ⟨(h e he).1, (h e he).2.1⟩, ?_⟩
  rw [Expr.cats_groups fun e he => (h e he).2.2]
  exact List.not_mem_nil

theorem suitable_wordExpr (word : List Char) : Suitable (wordExpr word) := by
  have hchar : ∀ e ∈ word.map fun c => Expr.chars (.single c),
      (e.orderly = true ∧ e.tidy = true) ∧ e.groups = [] := by
    rw [List.forall_mem_map]
    exact fun c _ => ⟨⟨rfl, rfl⟩, rfl⟩
  exact ⟨Expr.cats_orderly fun e he => (hchar e he).1, Expr.cats_tidy fun e he => (hchar e he).1.2,
    Expr.cats_groups fun e he => (hchar e he).2⟩

theorem minSize_wordExpr (word : List Char) : (wordExpr word).minSize = word.length := by
  rw [wordExpr, Expr.cats_minSize, List.foldr_map]
  induction word with
  | nil => rfl
  | cons c word ih => rw [List.foldr_cons, ih, List.length_cons, Expr.minSize, Nat.add_comm]

/-- One of some words: they may not all have the same length. -/
theorem suitable_wordsExpr {words : List String} {v w : String} (hv : v ∈ words) (hw : w ∈ words)
    (hne : v.toList.length ≠ w.toList.length) :
    Suitable (wordsExpr words) ∧ (wordsExpr words).fixedSize = false := by
  have hfix : (Expr.alts (words.map fun w => wordExpr w.toList)).fixedSize = false := by
    rw [Bool.eq_false_iff]
    intro hfix
    have hsize (u : String) (hu : u ∈ words) : u.toList.length = _ :=
      (minSize_wordExpr u.toList).symm.trans
        (Expr.minSize_of_alts_fixedSize hfix _ (List.mem_map.mpr ⟨u, hu, rfl⟩))
    exact hne ((hsize v hv).trans (hsize w hw).symm)
  have hword : ∀ e ∈ words.map fun w => wordExpr w.toList, Suitable e := by
    rw [List.forall_mem_map]
    exact fun w _ => suitable_wordExpr w.toList
  refine ⟨⟨Expr.alts_orderly fun e he => (hword e he).1, ?_,
    Expr.alts_groups fun e he => (hword e he).2.2⟩, hfix⟩
  show (!(Expr.alts _).fixedSize || _) = true
  rw [hfix]
  rfl

theorem suitable_notContinued : Suitable notContinuedExpr :=
  ⟨rfl, rfl, rfl⟩

theorem suitable_notPreceded : Suitable notPrecededExpr :=
  ⟨rfl, rfl, rfl⟩

theorem suitable_wholeWord {words : List String} {v w : String} (hv : v ∈ words) (hw : w ∈ words)
    (hne : v.toList.length ≠ w.toList.length) : ∀ e ∈ wholeWordItems words, Suitable e := by
  have hmem {u : String} (hu : u ∈ words) : u ∈ longestFirst (alphabetical words) :=
    mem_longestFirst.mpr (mem_alphabetical.mpr hu)
  have hwords := (suitable_wordsExpr (hmem hv) (hmem hw) hne).1
  exact List.forall_mem_cons.mpr ⟨hwords, List.forall_mem_singleton.mpr suitable_notContinued⟩

/-- Items of which one may take more or fewer characters. -/
theorem cats_not_fixed {es : List Expr} {e : Expr} (he : e ∈ es) (hfix : e.fixedSize = false) :
    (Expr.cats es).fixedSize = false := by
  rw [Bool.eq_false_iff]
  intro h
  rw [Expr.cats_fixedSize.mp h e he] at hfix
  exact absurd hfix Bool.false_ne_true.symm

theorem suitable_literalItems :
    (∀ e ∈ literalItems, Suitable e) ∧ (Expr.cats literalItems).fixedSize = false := by
  have hparts : ∀ e ∈ literalParts.map (Expr.cats ·.2), e.orderly = true ∧ e.groups = [] := by
    rw [List.forall_mem_map]
    intro p hp
    rcases List.mem_append.mp hp with hp | hp
    · simp only [List.mem_cons, List.not_mem_nil, or_false] at hp
      rcases hp with rfl | rfl | rfl | rfl | rfl <;> exact ⟨rfl, rfl⟩
    · obtain ⟨w, -, rfl⟩ := List.mem_map.mp hp
      have := suitable_wordExpr w.toList
      exact ⟨this.1, this.2.2⟩
  refine ⟨List.forall_mem_singleton.mpr ⟨Expr.alts_orderly fun e he => (hparts e he).1, rfl,
    Expr.alts_groups fun e he => (hparts e he).2⟩, rfl⟩

theorem suitable_operatorItems :
    (∀ e ∈ operatorItems, Suitable e) ∧ (Expr.cats operatorItems).fixedSize = false := by
  have hlong : "===" ∈ unaryOperators ++ binaryOperators := by decide
  have hshort : "+" ∈ unaryOperators ++ binaryOperators := by decide
  obtain ⟨hsuitable, hfix⟩ := suitable_wordsExpr (mem_longestFirst.mpr hlong)
    (mem_longestFirst.mpr hshort) (by decide)
  exact ⟨List.forall_mem_singleton.mpr hsuitable, hfix⟩

theorem suitable_keywordItems :
    (∀ e ∈ keywordItems, Suitable e) ∧ (Expr.cats keywordItems).fixedSize = false := by
  have hlong : "while" ∈ keywords := by decide
  have hshort : "if" ∈ keywords := by decide
  have hitems := suitable_wholeWord hlong hshort (by decide)
  obtain ⟨-, hfix⟩ := suitable_wordsExpr (mem_longestFirst.mpr (mem_alphabetical.mpr hlong))
    (mem_longestFirst.mpr (mem_alphabetical.mpr hshort)) (by decide)
  exact ⟨List.forall_mem_cons.mpr ⟨suitable_notPreceded, hitems⟩,
    cats_not_fixed (List.mem_cons_of_mem _ List.mem_cons_self) hfix⟩

theorem suitable_variableItems :
    (∀ e ∈ variableItems, Suitable e) ∧ (Expr.cats variableItems).fixedSize = false := by
  have hlong : "while" ∈ keywords ++ literalKeywords := by decide
  have hshort : "if" ∈ keywords ++ literalKeywords := by decide
  have hitems := suitable_wholeWord hlong hshort (by decide)
  have hinner : (Expr.cats (wholeWordItems (keywords ++ literalKeywords))).orderly = true :=
    Expr.cats_orderly fun e he => ⟨(hitems e he).1, (hitems e he).2.1⟩
  have hgroups : (Expr.cats (wholeWordItems (keywords ++ literalKeywords))).groups = [] :=
    Expr.cats_groups fun e he => (hitems e he).2.2
  have hreserved : Suitable
      (.look .ahead true (Expr.cats (wholeWordItems (keywords ++ literalKeywords)))) := by
    refine ⟨?_, rfl, hgroups⟩
    rw [Expr.orderly, hinner]
    rfl
  refine ⟨?_, rfl⟩
  intro e he
  simp only [variableItems, List.mem_cons, List.not_mem_nil, or_false] at he
  rcases he with rfl | rfl | rfl | rfl
  · exact suitable_notPreceded
  · exact hreserved
  · exact ⟨rfl, rfl, rfl⟩
  · exact ⟨rfl, rfl, rfl⟩

end Grammar

end CodeShape
