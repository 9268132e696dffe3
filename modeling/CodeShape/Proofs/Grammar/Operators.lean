import CodeShape.Proofs.Grammar.Languages
import CodeShape.Proofs.Regex.Munching

/-!
# Operators are read by maximal munch

The expression of the operators tries the spellings from the longest to the shortest, so that no
spelling is cut short by another one with which it begins (`longest_operator`). A scan therefore takes
the longest spelling at the leftmost place, and goes on from there; and a text as a whole is accepted
if it is one of the spellings (`operator_munches`).
-/

namespace CodeShape

open Regex (Expr Occurs Searcher Slots Subject Way Ways)

namespace Grammar

/-- A spelling of an operator stands from `i` to `j`. -/
def OperatorAt (text : Array Char) (i j : Nat) : Prop :=
  ∃ cs, Occurs text cs i j ∧ IsOperator cs

/-! ## The longest spelling comes first -/

theorem longestFirst_sorted (words : List String) :
    (longestFirst words).Pairwise fun v w => w.length ≤ v.length := by
  have hlength {n : Nat} {w : String} (hw : w ∈ words.filter (·.length == n)) : w.length = n :=
    beq_iff_eq.mp (List.mem_filter.mp hw).2
  unfold longestFirst
  refine List.pairwise_flatMap.mpr ⟨fun n _ => ?_, ?_⟩
  · refine List.pairwise_of_forall_mem_list fun v hv w hw => ?_
    rw [hlength hv, hlength hw]
  · refine (List.pairwise_reverse.mpr List.pairwise_lt_range).imp fun {m n} hlt v hv w hw => ?_
    rw [hlength hv, hlength hw]
    exact Nat.le_of_lt hlt

/-- A word ends as many characters behind its beginning as it has. -/
theorem stop_of_mem_wordExpr (t : Subject) {word : List Char} {i : Nat} {slots : Slots} {w : Way}
    (hw : w ∈ (wordExpr word).ways t i slots) : w.1 = i + word.length := by
  have hfixed : (wordExpr word).fixedSize = true := by
    refine Expr.cats_fixedSize.mpr fun e he => ?_
    obtain ⟨c, -, rfl⟩ := List.mem_map.mp he
    rfl
  rw [Expr.eq_of_mem_ways_of_fixedSize t _ hfixed i slots w hw, minSize_wordExpr]

/-- Words that are listed by length are tried by length. -/
theorem ordered_words (t : Subject) {words : List String} (hne : words ≠ [])
    (hsorted : words.Pairwise fun v w => w.length ≤ v.length) :
    ((wordsExpr words).ways t).Ordered fun j k => k ≤ j := by
  have hmap : words.map (fun w => wordExpr w.toList) ≠ [] := by
    rw [ne_eq, List.map_eq_nil_iff]
    exact hne
  refine Ways.ordered_alts t hmap ?_ ?_
  · rw [List.forall_mem_map]
    intro word _ i slots
    refine List.pairwise_of_forall_mem_list fun v hv w hw => ?_
    rw [stop_of_mem_wordExpr t hv, stop_of_mem_wordExpr t hw]
  · rw [List.pairwise_map]
    refine hsorted.imp fun {u v} hle i slots x hx y hy => ?_
    rw [stop_of_mem_wordExpr t hx, stop_of_mem_wordExpr t hy, String.length_toList,
      String.length_toList]
    omega

/-- **Longer spellings are preferred.** -/
theorem longest_operator (t : Subject) :
    ((Expr.cats operatorItems).ways t).Ordered fun j k => k ≤ j := by
  refine ordered_words t ?_ (longestFirst_sorted _)
  exact List.ne_nil_of_mem (mem_longestFirst.mpr (List.mem_cons_self (a := "++")))

theorem nonempty_operatorAt {text : Array Char} {i j : Nat} (h : OperatorAt text i j) :
    i < j ∧ j ≤ text.size := by
  obtain ⟨cs, hcs, w, hw, rfl⟩ := h
  have hne : ∀ w ∈ unaryOperators ++ binaryOperators, 0 < w.toList.length := by decide
  have hlength := hcs.length_eq
  have hpos := hne w hw
  exact ⟨by omega, hcs.le_size⟩

/-! ## Between the ends of a text -/

/-- An expression that has to match from the beginning of a text to its end, as it is written. -/
def anchored (written : List Char) : List Char :=
  "^(?:".toList ++ written ++ ")$".toList

/-- The items of an expression between the ends of a text. -/
def anchoredItems (items : List Expr) : List Expr :=
  [.assert .textStart, .parens (Expr.cats items), .assert .textEnd]

theorem spells_anchored {depth : Nat} {written : List Char} {items : List Expr}
    (h : Regex.Reader.Spells depth written items) (hblank : (Expr.cats items).isBlank = false) :
    Regex.Reader.Spells (depth + 1) (anchored written) (anchoredItems items) := by
  have hstart : Regex.Reader.Item ['^'] (.assert .textStart) := by
    intro len r rest hflags
    refine ⟨rfl, Regex.Reader.leads_of_item hflags rfl ?_ (Nat.le_refl _)⟩
    unfold Regex.Reader.readItem
    rw [hflags]
    rfl
  have hstop : Regex.Reader.Item ['$'] (.assert .textEnd) := by
    intro len r rest hflags
    refine ⟨rfl, Regex.Reader.leads_of_item hflags rfl ?_ (Nat.le_refl _)⟩
    unfold Regex.Reader.readItem
    rw [hflags]
    rfl
  have hinner := h.fills.enclosed Regex.Reader.opens_parens
    (fun f hf => (Regex.Opening.parens.inj hf).symm) hblank
  have hall := (((hstart.spells rfl).mono (Nat.zero_le _)).append hinner).append
    ((hstop.spells rfl).mono (Nat.zero_le _))
  unfold anchored
  simp only [List.append_assoc] at hall ⊢
  exact hall

theorem holds_textStart {text : Array Char} {i : Nat} (hi : i ≤ text.size) :
    Regex.Assertion.textStart.holds text i = true ↔ i = 0 := by
  show (if i = 0 then none else text[i - 1]?).isNone = true ↔ i = 0
  by_cases hzero : i = 0
  · rw [if_pos hzero]
    exact iff_of_true rfl hzero
  · rw [if_neg hzero, Array.getElem?_eq_getElem (by omega)]
    exact iff_of_false Bool.false_ne_true hzero

theorem holds_textEnd {text : Array Char} {i : Nat} (hi : i ≤ text.size) :
    Regex.Assertion.textEnd.holds text i = true ↔ i = text.size := by
  show text[i]?.isNone = true ↔ i = text.size
  rw [Option.isNone_iff_eq_none, Array.getElem?_eq_none_iff]
  omega

/-- What takes words takes, between the ends of a text, the whole text or nothing. -/
theorem mem_ways_anchored (t : Subject) {items : List Expr} {L : List Char → Prop}
    (h : ((Expr.cats items).ways t).Takes t.text L) {i : Nat} {slots : Slots} {w : Way}
    (hi : i ≤ t.text.size) :
    w ∈ (Expr.cats (anchoredItems items)).ways t i slots ↔
      i = 0 ∧ w = (t.text.size, slots) ∧ L t.text.toList := by
  -- the only word from the first character to the end is the text itself
  have hwhole : L t.text.toList ↔ ∃ cs, Occurs t.text cs 0 t.text.size ∧ L cs := by
    have hall : Occurs t.text t.text.toList 0 t.text.size :=
      ⟨Nat.zero_le _, Nat.le_refl _, by rw [Array.extract_size]⟩
    constructor
    · intro hL
      exact ⟨t.text.toList, hall, hL⟩
    · intro hex
      obtain ⟨cs, hcs, hL⟩ := hex
      rw [hall.chars_eq hcs]
      exact hL
  show w ∈ ((Expr.assert .textStart).ways t).andThen
    (((Expr.cats items).ways t).andThen ((Expr.assert .textEnd).ways t)) i slots ↔ _
  rw [Ways.mem_andThen, hwhole]
  constructor
  · intro hw
    obtain ⟨v, hv, hw⟩ := hw
    obtain ⟨hstart, rfl⟩ := Expr.mem_ways_assert.mp hv
    obtain rfl := (holds_textStart hi).mp hstart
    obtain ⟨u, hu, hw⟩ := Ways.mem_andThen.mp hw
    obtain ⟨hslots, cs, hcs, hL⟩ := (h 0 slots u hi).mp hu
    obtain ⟨hstop, rfl⟩ := Expr.mem_ways_assert.mp hw
    have hsize := (holds_textEnd hcs.le_size).mp hstop
    rw [hsize] at hcs
    exact ⟨rfl, Prod.ext hsize hslots, cs, hcs, hL⟩
  · intro hw
    obtain ⟨rfl, rfl, cs, hcs, hL⟩ := hw
    have hstart := (holds_textStart hi).mpr rfl
    have hstop := (holds_textEnd (Nat.le_refl t.text.size)).mpr rfl
    refine ⟨(0, slots), Expr.mem_ways_assert.mpr ⟨hstart, rfl⟩, Ways.mem_andThen.mpr
      ⟨(t.text.size, slots), ?_, Expr.mem_ways_assert.mpr ⟨hstop, rfl⟩⟩⟩
    exact (h 0 slots (t.text.size, slots) hi).mpr ⟨rfl, cs, hcs, hL⟩

/-! ## Scanning for operators -/

/-- The operators are looked for by an automaton, so that no budget is spent. -/
theorem lasts_operator {s : Searcher}
    (h : s.Seeks (Expr.cats operatorItems) OperatorAt) (budget : Nat) (text : Array Char) :
    s.Lasts budget text := by
  intro start origin _ _
  exact Searcher.search_ne_exhausted h.method (by decide)

theorem exists_seeks_operator :
    ∃ s, Searcher.compile operator = .ok s ∧ s.Seeks (Expr.cats operatorItems) OperatorAt := by
  obtain ⟨horder, hzero⟩ := cats_suitable suitable_operatorItems.1
  obtain ⟨s, hs, hmethod⟩ :=
    Searcher.exists_compile spells_operator (by decide) horder (by decide)
  exact ⟨s, hs, horder, hzero, hmethod, fun t i slots w hi => takes_operator t i slots w hi,
    fun t i slots _ => longest_operator t i slots, nonempty_operatorAt⟩

/-- **Between the ends of a text, the spellings of the operators** are accepted and nothing else. -/
theorem exists_anchored_operator :
    ∃ s, Searcher.compile (anchored operator) = .ok s ∧ ∀ budget text,
      (s.isMatch budget text = true ↔ IsOperator text.toList) := by
  have horder : (Expr.cats (anchoredItems operatorItems)).orderly = true := by decide
  have hgroups : (Expr.cats (anchoredItems operatorItems)).groups = [] := by decide
  obtain ⟨s, hs, hmethod⟩ := Searcher.exists_compile
    (spells_anchored spells_operator (by decide)) (by decide) horder (by decide)
  refine ⟨s, hs, fun budget text => ?_⟩
  have hzero : 0 ∉ (Expr.cats (anchoredItems operatorItems)).groups := by
    rw [hgroups]
    exact List.not_mem_nil
  rw [Searcher.isMatch_iff horder hzero hmethod
    (Searcher.search_ne_exhausted hmethod (by decide))]
  have hways {q : Nat} (hq : q ≤ text.size) {w : Way} :
      w ∈ (Expr.cats (anchoredItems operatorItems)).ways ⟨text, some 0⟩ q [(0, some q)] ↔
        q = 0 ∧ w = (text.size, [(0, some q)]) ∧ IsOperator text.toList :=
    mem_ways_anchored ⟨text, some 0⟩ (takes_operator _) hq
  constructor
  · intro h
    obtain ⟨q, hq, hne⟩ := h
    obtain ⟨w, hw⟩ := List.exists_mem_of_ne_nil _ hne
    exact ((hways hq).mp hw).2.2
  · intro h
    exact ⟨0, Nat.zero_le _, List.ne_nil_of_mem ((hways (Nat.zero_le _)).mpr ⟨rfl, rfl, h⟩)⟩

/-- **Operators are read by maximal munch.** The expression of the operators compiles, and in any text
a scan for it takes the longest spelling at the leftmost place at which one stands, and goes on like
that from where it ends. Between the ends of a text the expression accepts the spellings and nothing
else. -/
theorem operator_munches :
    ∃ s whole, Searcher.compile operator = .ok s ∧
      Searcher.compile (anchored operator) = .ok whole ∧ ∀ (budget : Nat) (text : Array Char),
      (∀ limit, text.size ≤ limit →
        Regex.Munches (OperatorAt text) 0 (s.places budget text limit {})) ∧
      (whole.isMatch budget text = true ↔ IsOperator text.toList) := by
  obtain ⟨s, hs, hseeks⟩ := exists_seeks_operator
  obtain ⟨whole, hwhole, haccepts⟩ := exists_anchored_operator
  refine ⟨s, whole, hs, hwhole, fun budget text => ⟨fun limit hlimit => ?_, haccepts budget text⟩⟩
  exact hseeks.munches (c := {}) (lasts_operator hseeks budget text) (Nat.zero_le _) hlimit

end Grammar

end CodeShape
