import CodeShape.Proofs.Grammar.Expressions

/-!
# The words that the expressions take

The ways of the items of each class of words are the words of that class. A placeholder has the
items of its kind where it is first used: its text is read as these items (`spells_body`), the
search keeps all their ways (`items_suitable`), and these are the words that it may stand for
(`mem_ways_items`).
-/

namespace CodeShape

open Regex (CharSet Expr Occurs Slots Subject Way Ways)

namespace Grammar

/-! ## Words -/

variable (t : Subject) {i : Nat} {slots : Slots} {w : Way}

theorem mem_ways_notContinued :
    w ∈ notContinuedExpr.ways t i slots ↔ w = (i, slots) ∧ NotContinued t.text i := by
  have hnil : (Expr.chars wordChars).ways t i slots = [] ↔ NotContinued t.text i := by
    unfold NotContinued
    simp only [Expr.ways]
    cases t.text[i]? with
    | none => simp
    | some c =>
      simp only [contains_wordChars, Option.some.injEq, forall_eq']
      cases isWordChar c <;> simp
  show w ∈ ((Expr.chars wordChars).ways t).looked true i slots ↔ _
  rw [Ways.mem_looked_true, hnil]

theorem mem_ways_notPreceded :
    w ∈ notPrecededExpr.ways t i slots ↔ w = (i, slots) ∧ NotPreceded t.text i := by
  have hnil : ((Expr.chars wordChars).ways t).upTo i slots = [] ↔ NotPreceded t.text i := by
    rw [List.eq_nil_iff_forall_not_mem]
    simp only [Ways.mem_upTo, Expr.mem_ways_chars, contains_wordChars]
    unfold NotPreceded
    constructor
    · intro h c hi hc
      refine Bool.eq_false_iff.mpr fun hword => ?_
      exact h (i, slots) ⟨rfl, i - 1, Nat.sub_le _ _, c, hc, hword, by
        rw [Nat.sub_add_cancel hi]⟩
    · rintro h v ⟨rfl, k, hk, c, hc, hword, hv⟩
      have hk : k = v.1 - 1 := by
        rw [hv]
        rfl
      have hpos : 0 < v.1 := by
        rw [hv]
        exact Nat.succ_pos k
      rw [h c hpos (hk ▸ hc)] at hword
      exact absurd hword Bool.false_ne_true
  show w ∈ ((Expr.chars wordChars).ways t).upTo.looked true i slots ↔ _
  rw [Ways.mem_looked_true, hnil]

theorem takes_words {words : List String} (hne : words ≠ []) :
    ((wordsExpr words).ways t).Takes t.text fun cs => ∃ w ∈ words, cs = w.toList := by
  have hword (w : String) (_ : w ∈ words) :
      ((wordExpr w.toList).ways t).Takes t.text (· = w.toList) :=
    Regex.takes_word t w.toList
  exact Regex.takes_alts t (fun w => wordExpr w.toList) (fun w cs => cs = w.toList) hne hword

theorem mem_ways_wholeWord {words : List String} (hne : words ≠ []) (hi : i ≤ t.text.size) :
    w ∈ (Expr.cats (wholeWordItems words)).ways t i slots ↔
      w.2 = slots ∧ WholeWord t.text words i w.1 := by
  have hmem {u : String} : u ∈ longestFirst (alphabetical words) ↔ u ∈ words :=
    mem_longestFirst.trans mem_alphabetical
  have hsorted : longestFirst (alphabetical words) ≠ [] := by
    obtain ⟨u, hu⟩ := List.exists_mem_of_ne_nil words hne
    exact List.ne_nil_of_mem (hmem.mpr hu)
  show w ∈ ((wordsExpr (longestFirst (alphabetical words))).ways t).andThen
    (notContinuedExpr.ways t) i slots ↔ _
  rw [Ways.mem_andThen]
  constructor
  · intro h
    obtain ⟨v, hv, hw⟩ := h
    obtain ⟨hslots, cs, hcs, u, hu, rfl⟩ := (takes_words t hsorted i slots v hi).mp hv
    obtain ⟨rfl, hnot⟩ := (mem_ways_notContinued t).mp hw
    exact ⟨hslots, ⟨u, hmem.mp hu, hcs⟩, hnot⟩
  · intro h
    obtain ⟨hslots, ⟨u, hu, hcs⟩, hnot⟩ := h
    have htakes := (takes_words t hsorted i slots w hi).mpr
      ⟨hslots, u.toList, hcs, u, hmem.mpr hu, rfl⟩
    exact ⟨w, htakes, (mem_ways_notContinued t).mpr ⟨rfl, hnot⟩⟩

theorem mem_ways_keyword (hi : i ≤ t.text.size) :
    w ∈ (Expr.cats keywordItems).ways t i slots ↔ w.2 = slots ∧ Keyword t.text i w.1 := by
  show w ∈ (notPrecededExpr.ways t).andThen ((Expr.cats (wholeWordItems keywords)).ways t) i slots
    ↔ _
  rw [Ways.mem_andThen]
  constructor
  · intro h
    obtain ⟨v, hv, hw⟩ := h
    obtain ⟨rfl, hnot⟩ := (mem_ways_notPreceded t).mp hv
    obtain ⟨hslots, hword⟩ := (mem_ways_wholeWord t plainWords_keywords.1 hi).mp hw
    exact ⟨hslots, hnot, hword⟩
  · intro h
    obtain ⟨hslots, hnot, hword⟩ := h
    exact ⟨(i, slots), (mem_ways_notPreceded t).mpr ⟨rfl, hnot⟩,
      (mem_ways_wholeWord t plainWords_keywords.1 hi).mpr ⟨hslots, hword⟩⟩

/-- A name is a first character and further ones. -/
theorem takes_name :
    (((Expr.chars nameStartChars).ways t).andThen
      ((Expr.repeated 0 none true (.chars nameChars)).ways t)).Takes t.text IsName := by
  refine ((Regex.takes_chars t nameStartChars).andThen (Regex.takes_star t nameChars true)).congr
    fun cs => ?_
  simp only [contains_nameStartChars, contains_nameChars, IsName]
  constructor
  · intro h
    obtain ⟨_, rest, rfl, ⟨c, rfl, hc⟩, hrest⟩ := h
    exact ⟨c, rest, rfl, hc, hrest⟩
  · intro h
    obtain ⟨c, rest, rfl, hc, hrest⟩ := h
    exact ⟨[c], rest, rfl, ⟨c, rfl, hc⟩, hrest⟩

theorem mem_ways_variable (hi : i ≤ t.text.size) :
    w ∈ (Expr.cats variableItems).ways t i slots ↔ w.2 = slots ∧ Variable t.text i w.1 := by
  have hreserved : (Expr.cats (wholeWordItems (keywords ++ literalKeywords))).ways t i slots = [] ↔
      ∀ k, ¬ WholeWord t.text (keywords ++ literalKeywords) i k := by
    rw [List.eq_nil_iff_forall_not_mem]
    constructor
    · intro h k hk
      exact h (k, slots) ((mem_ways_wholeWord t plainWords_reserved.1 hi).mpr ⟨rfl, hk⟩)
    · intro h v hv
      exact h v.1 ((mem_ways_wholeWord t plainWords_reserved.1 hi).mp hv).2
  show w ∈ (notPrecededExpr.ways t).andThen
    ((((Expr.cats (wholeWordItems (keywords ++ literalKeywords))).ways t).looked true).andThen
      (((Expr.chars nameStartChars).ways t).andThen
        ((Expr.repeated 0 none true (.chars nameChars)).ways t))) i slots ↔ _
  simp only [Ways.mem_andThen (f := notPrecededExpr.ways t)]
  constructor
  · intro h
    obtain ⟨v, hv, hw⟩ := h
    obtain ⟨rfl, hnot⟩ := (mem_ways_notPreceded t).mp hv
    obtain ⟨u, hu, hw⟩ := Ways.mem_andThen.mp hw
    obtain ⟨rfl, hnone⟩ := Ways.mem_looked_true.mp hu
    obtain ⟨hslots, hname⟩ := (takes_name t i slots w hi).mp hw
    exact ⟨hslots, hnot, hreserved.mp hnone, hname⟩
  · intro h
    obtain ⟨hslots, hnot, hnone, hname⟩ := h
    refine ⟨(i, slots), (mem_ways_notPreceded t).mpr ⟨rfl, hnot⟩, Ways.mem_andThen.mpr
      ⟨(i, slots), Ways.mem_looked_true.mpr ⟨rfl, hreserved.mpr hnone⟩, ?_⟩⟩
    exact (takes_name t i slots w hi).mpr ⟨hslots, hname⟩

theorem takes_operator : ((Expr.cats operatorItems).ways t).Takes t.text IsOperator := by
  have hne : longestFirst (unaryOperators ++ binaryOperators) ≠ [] :=
    List.ne_nil_of_mem (mem_longestFirst.mpr (List.mem_cons_self (a := "++")))
  refine (takes_words t hne).congr fun cs => ?_
  simp only [mem_longestFirst]
  rfl

theorem takes_delimited (d : Char) :
    ((Expr.cats (delimitedItems d)).ways t).Takes t.text
      fun cs => ∃ inside, cs = d :: (inside ++ [d]) := by
  have hd := Regex.takes_chars t (.single d)
  refine (hd.andThen ((Regex.takes_star t anyChars false).andThen hd)).congr fun cs => ?_
  simp only [CharSet.contains_single, beq_iff_eq, contains_anyChars]
  constructor
  · intro h
    obtain ⟨_, _, rfl, ⟨c, rfl, rfl⟩, inside, _, rfl, -, c', rfl, rfl⟩ := h
    exact ⟨inside, rfl⟩
  · intro h
    obtain ⟨inside, rfl⟩ := h
    exact ⟨[d], inside ++ [d], rfl, ⟨d, rfl, rfl⟩, inside, [d], rfl, fun _ _ => trivial,
      d, rfl, rfl⟩

theorem takes_number : ((Expr.cats numberItems).ways t).Takes t.text IsNumber := by
  refine ((Regex.takes_optional t (.single '-')).andThen
    ((Regex.takes_plus t .digit true).andThen (Regex.takes_star t numberTailChars true))).congr
      fun cs => ?_
  simp only [CharSet.contains_single, beq_iff_eq, CharSet.contains_digit, contains_numberTailChars]
  constructor
  · intro h
    obtain ⟨sign, _, rfl, hsign, digits, tail, rfl, hdigits, htail⟩ := h
    refine ⟨sign, digits, tail, rfl, ?_, hdigits, htail⟩
    rcases hsign with rfl | ⟨c, rfl, rfl⟩
    · exact Or.inl rfl
    · exact Or.inr rfl
  · intro h
    obtain ⟨sign, digits, tail, rfl, hsign, hdigits, htail⟩ := h
    refine ⟨sign, _, rfl, ?_, digits, tail, rfl, hdigits, htail⟩
    rcases hsign with rfl | rfl
    · exact Or.inl rfl
    · exact Or.inr ⟨'-', rfl, rfl⟩

/-- What stands between two delimiters `d`. -/
def DelimitedBy (d : Char) (cs : List Char) : Prop :=
  ∃ inside, cs = d :: (inside ++ [d])

/-- The kinds of literals: the expression of each and what it takes. -/
def literalKinds : List (Expr × (List Char → Prop)) :=
  [(Expr.cats (delimitedItems '"'), DelimitedBy '"'),
    (Expr.cats (delimitedItems '\''), DelimitedBy '\''),
    (Expr.cats (delimitedItems '\x60'), DelimitedBy '\x60'),
    (Expr.cats numberItems, IsNumber), (Expr.cats (delimitedItems '/'), DelimitedBy '/')] ++
  literalKeywords.map fun w => (wordExpr w.toList, (· = w.toList))

theorem isLiteral_iff {cs : List Char} : IsLiteral cs ↔ ∃ kind ∈ literalKinds, kind.2 cs := by
  have hwords : (∃ w ∈ literalKeywords, cs = w.toList) ↔
      ∃ kind ∈ literalKeywords.map fun w => (wordExpr w.toList, (· = w.toList)), kind.2 cs := by
    simp only [List.mem_map, exists_exists_and_eq_and]
  have hdelimited : IsDelimited cs ↔
      DelimitedBy '"' cs ∨ DelimitedBy '\'' cs ∨ DelimitedBy '\x60' cs ∨ DelimitedBy '/' cs := by
    unfold IsDelimited delimiters
    simp only [List.exists_mem_cons_iff, List.not_mem_nil, false_and, exists_false, or_false]
    rfl
  unfold IsLiteral literalKinds
  rw [hdelimited, hwords]
  simp only [List.mem_append, or_and_right, exists_or, List.exists_mem_cons_iff, List.not_mem_nil,
    false_and, exists_false, or_false]
  tauto

/-- The expression of each kind of literals takes the literals of that kind. -/
theorem takes_kind : ∀ kind ∈ literalKinds, (kind.1.ways t).Takes t.text kind.2 := by
  intro kind hkind
  rcases List.mem_append.mp hkind with hkind | hkind
  · simp only [List.mem_cons, List.not_mem_nil, or_false] at hkind
    rcases hkind with rfl | rfl | rfl | rfl | rfl
    · exact takes_delimited t '"'
    · exact takes_delimited t '\''
    · exact takes_delimited t '\x60'
    · exact takes_number t
    · exact takes_delimited t '/'
  · obtain ⟨w, -, rfl⟩ := List.mem_map.mp hkind
    exact Regex.takes_word t w.toList

/-- The items of a literal are the alternatives of its kinds. -/
theorem literalItems_eq : literalItems = [.parens (Expr.alts (literalKinds.map (·.1)))] := rfl

theorem takes_literal : ((Expr.cats literalItems).ways t).Takes t.text IsLiteral := by
  have hall := Regex.takes_alts t Prod.fst Prod.snd (List.cons_ne_nil _ _) (takes_kind t)
  rw [literalItems_eq]
  exact hall.congr fun cs => isLiteral_iff.symm

theorem mem_ways_block (greedy : Bool) (hi : i ≤ t.text.size) :
    w ∈ (blockItem greedy).ways t i slots ↔ w.2 = slots ∧ i ≤ w.1 ∧ w.1 ≤ t.text.size := by
  rw [blockItem, Regex.takes_star t anyChars greedy i slots w hi]
  simp only [contains_anyChars, implies_true, and_true]
  refine and_congr_right fun _ => ⟨?_, ?_⟩
  · intro h
    obtain ⟨cs, hcs⟩ := h
    exact ⟨hcs.le, hcs.le_size⟩
  · intro h
    obtain ⟨hle, hsize⟩ := h
    exact ⟨_, Regex.occurs_extract hle hsize⟩

theorem takes_blanks :
    (blanksItem.ways t).Takes t.text fun cs => ∀ c ∈ cs, Unicode.isBlank c = true := by
  refine (Regex.takes_star t .blank true).congr fun cs => ?_
  simp only [CharSet.contains_blank]

end Grammar

/-! ## Placeholders -/

open Grammar

namespace Pattern.Token

/-- The items of the expression that a placeholder stands for where it is first used. -/
def items : Token → List Expr
  | .variable _ => variableItems
  | .literal _ => literalItems
  | .operator _ => operatorItems
  | .keyword _ => keywordItems
  | .block greedy _ => [blockItem greedy]
  | .raw _ => []

/-- A placeholder that is no raw expression. -/
def IsPlain (token : Token) : Prop :=
  ∀ body, token ≠ .raw body

/-- The text of a placeholder is read as its items. -/
theorem spells_body {token : Token} (h : token.IsPlain) :
    Regex.Reader.Spells 2 token.body token.items := by
  cases token with
  | «variable» id => exact spells_variable
  | literal id => exact spells_literal.mono (Nat.le_succ 1)
  | operator id => exact spells_operator.mono (Nat.le_succ 1)
  | keyword id => exact spells_keyword.mono (Nat.le_succ 1)
  | block greedy id =>
    cases greedy with
    | true => exact (item_anyChars.star rfl).mono (Nat.zero_le 2)
    | false => exact (item_anyChars.lazyStar rfl).mono (Nat.zero_le 2)
  | raw body => exact absurd rfl (h body)

/-- The search keeps all ways of a placeholder. -/
theorem items_suitable {token : Token} (h : token.IsPlain) :
    (∀ e ∈ token.items, Suitable e) ∧ (Expr.cats token.items).fixedSize = false := by
  cases token with
  | «variable» id => exact suitable_variableItems
  | literal id => exact suitable_literalItems
  | operator id => exact suitable_operatorItems
  | keyword id => exact suitable_keywordItems
  | block greedy id => exact ⟨List.forall_mem_singleton.mpr ⟨rfl, rfl, rfl⟩, rfl⟩
  | raw body => exact absurd rfl (h body)

/-- **The ways of a placeholder are the words of its kind.** -/
theorem mem_ways_items (t : Subject) {token : Token} (h : token.IsPlain) {i : Nat} {slots : Slots}
    {w : Way} (hi : i ≤ t.text.size) :
    w ∈ (Expr.cats token.items).ways t i slots ↔ w.2 = slots ∧ token.Stands t.text i w.1 := by
  cases token with
  | «variable» id => exact mem_ways_variable t hi
  | literal id => exact takes_literal t i slots w hi
  | operator id => exact takes_operator t i slots w hi
  | keyword id => exact mem_ways_keyword t hi
  | block greedy id => exact mem_ways_block t greedy hi
  | raw body => exact absurd rfl (h body)

end Pattern.Token

end CodeShape
