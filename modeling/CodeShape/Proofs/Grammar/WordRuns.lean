import CodeShape.Pattern.Matcher
import CodeShape.Proofs.Grammar.Languages
import CodeShape.Proofs.Regex.Munching

/-!
# Keywords and variables are whole runs

A text is split into its maximal runs of identifier characters (`wordRuns`), without looking at any
expression. In a text of ASCII characters the expression of the keywords finds the runs that are
keywords, and that of the variables the runs that begin with no digit and are not reserved
(`words_partitioned`): at the places at which an expression matches at all a run begins, and the
longest match is the run.

Both look around the word, so that their searches go back and spend a budget. On the blanks before a
keyword all keywords are tried, and behind enough of them the budget is spent
(`places_behind_blanks`).
-/

namespace CodeShape

open Pattern (isIdentifierChar isIdentifierStart)
open Regex (Expr Munches Occurs Plan Searcher Slots Subject Way Ways)

namespace Grammar

/-! ## The runs of a text -/

/-- A run of identifier characters: where it begins, and its characters. -/
structure Run where
  start : Nat
  word : List Char
deriving Repr, DecidableEq

/-- Where a run begins and where it ends. -/
def Run.place (r : Run) : Nat × Nat :=
  (r.start, r.start + r.word.length)

/-- An identifier character stands at `i`, and none before it. -/
def beginsRun (text : Array Char) (i : Nat) : Bool :=
  text[i]?.any isIdentifierChar && (i == 0 || !text[i - 1]?.any isIdentifierChar)

/-- The identifier characters at `i` and behind it, as far as they go on. -/
def runAt (text : Array Char) (i : Nat) : List Char :=
  (text.toList.drop i).takeWhile isIdentifierChar

/-- The maximal runs of identifier characters, from left to right. -/
def wordRuns (text : Array Char) : List Run :=
  ((List.range text.size).filter (beginsRun text)).map fun i => ⟨i, runAt text i⟩

/-- The run is a keyword. -/
def Run.IsKeyword (r : Run) : Prop :=
  String.ofList r.word ∈ keywords

/-- The run does not begin with a digit and is neither a keyword nor a literal. -/
def Run.IsVariable (r : Run) : Prop :=
  (∀ c ∈ r.word.head?, c.isDigit = false) ∧
    String.ofList r.word ∉ keywords ∧ String.ofList r.word ∉ literalKeywords

instance : DecidablePred Run.IsKeyword :=
  fun r => inferInstanceAs (Decidable (String.ofList r.word ∈ keywords))

instance : DecidablePred Run.IsVariable :=
  fun r => inferInstanceAs (Decidable ((∀ c ∈ r.word.head?, c.isDigit = false) ∧
    String.ofList r.word ∉ keywords ∧ String.ofList r.word ∉ literalKeywords))

/-- The places of the runs of a kind. -/
def placesOf (P : Run → Prop) [DecidablePred P] (text : Array Char) : List (Nat × Nat) :=
  ((wordRuns text).filter (P ·)).map Run.place

variable {text : Array Char} {cs : List Char} {i j : Nat} {r : Run}

theorem beginsRun_iff :
    beginsRun text i = true ↔
      (∃ c, text[i]? = some c ∧ isIdentifierChar c = true) ∧
        ∀ c, 0 < i → text[i - 1]? = some c → isIdentifierChar c = false := by
  unfold beginsRun
  rw [Bool.and_eq_true, Option.any_eq_true]
  refine and_congr_right fun _ => ?_
  rw [Bool.or_eq_true, beq_iff_eq, Bool.not_eq_true', Option.any_eq_false]
  constructor
  · intro h c hi hc
    rcases h with hzero | hnone
    · omega
    · exact hnone c hc
  · intro h
    rcases Nat.eq_zero_or_pos i with hzero | hi
    · exact Or.inl hzero
    · exact Or.inr fun c hc => h c hi hc

theorem lt_size_of_beginsRun (h : beginsRun text i = true) : i < text.size := by
  obtain ⟨⟨c, hc, -⟩, -⟩ := beginsRun_iff.mp h
  exact (Array.getElem?_eq_some_iff.mp hc).1

theorem mem_wordRuns :
    r ∈ wordRuns text ↔ beginsRun text r.start = true ∧ r.word = runAt text r.start := by
  unfold wordRuns
  rw [List.mem_map]
  constructor
  · intro h
    obtain ⟨i, hi, rfl⟩ := h
    exact ⟨(List.mem_filter.mp hi).2, rfl⟩
  · intro h
    obtain ⟨hbegins, hword⟩ := h
    refine ⟨r.start, List.mem_filter.mpr ⟨?_, hbegins⟩, ?_⟩
    · exact List.mem_range.mpr (lt_size_of_beginsRun hbegins)
    · rw [← hword]

theorem occurs_runAt (hi : i ≤ text.size) :
    Occurs text (runAt text i) i (i + (runAt text i).length) := by
  obtain ⟨whole⟩ := text
  refine Regex.occurs_toArray_iff.mpr
    ⟨whole.take i, (whole.drop i).dropWhile isIdentifierChar, ?_, ?_, rfl⟩
  · show whole = whole.take i ++ ((whole.drop i).takeWhile isIdentifierChar ++ _)
    rw [List.takeWhile_append_dropWhile, List.take_append_drop]
  · exact (List.length_take_of_le hi).symm

theorem identifier_of_mem_runAt {c : Char} (hc : c ∈ runAt text i) : isIdentifierChar c = true :=
  List.mem_takeWhile_imp hc

/-- Behind a run stands no identifier character. -/
theorem not_identifier_behind {c : Char} (hc : text[i + (runAt text i).length]? = some c) :
    isIdentifierChar c = false := by
  have hnot := List.head?_dropWhile_not isIdentifierChar (text.toList.drop i)
  have hhead : ((text.toList.drop i).dropWhile isIdentifierChar).head? = some c := by
    have hsplit := List.takeWhile_append_dropWhile (p := isIdentifierChar)
      (l := text.toList.drop i)
    rw [List.head?_eq_getElem?, ← hc, ← Array.getElem?_toList, ← List.getElem?_drop, ← hsplit]
    show _ = (runAt text i ++ _)[(runAt text i).length]?
    rw [List.getElem?_append_right (Nat.le_refl _), Nat.sub_self, hsplit]
  rw [hhead] at hnot
  exact hnot

/-- What a text holds behind identifier characters goes on the run, or ends it. -/
theorem runAt_append (h : Occurs text cs i j) (hcs : ∀ c ∈ cs, isIdentifierChar c = true) :
    runAt text i = cs ++ runAt text j := by
  obtain ⟨whole⟩ := text
  obtain ⟨front, back, rfl, rfl, rfl⟩ := Regex.occurs_toArray_iff.mp h
  show ((front ++ (cs ++ back)).drop front.length).takeWhile isIdentifierChar
    = cs ++ ((front ++ (cs ++ back)).drop (front.length + cs.length)).takeWhile isIdentifierChar
  rw [List.drop_left, List.takeWhile_append_of_pos hcs, ← List.append_assoc front cs back,
    ← List.length_append, List.drop_left]

theorem runAt_of_beginsRun (h : beginsRun text i = true) :
    ∃ c rest, runAt text i = c :: rest ∧ ∀ d ∈ c :: rest, isIdentifierChar d = true := by
  obtain ⟨⟨c, hc, hident⟩, -⟩ := beginsRun_iff.mp h
  have hrun := runAt_append (Regex.occurs_singleton.mpr ⟨hc, rfl⟩) (by simpa using hident)
  refine ⟨c, runAt text (i + 1), hrun, fun d hd => ?_⟩
  have hmem : d ∈ runAt text i := by
    rw [hrun]
    exact hd
  exact identifier_of_mem_runAt hmem

/-- Identifier characters behind which no other one stands are the run. -/
theorem runAt_eq (h : Occurs text cs i j) (hcs : ∀ c ∈ cs, isIdentifierChar c = true)
    (hbehind : ∀ c, text[j]? = some c → isIdentifierChar c = false) : runAt text i = cs := by
  have hnone : runAt text j = [] := by
    by_contra hne
    obtain ⟨c, rest, hrun⟩ := List.exists_cons_of_ne_nil hne
    have hoccurs := occurs_runAt h.le_size
    rw [hrun] at hoccurs
    have hc := (Regex.occurs_cons.mp hoccurs).1
    have hident : isIdentifierChar c = true :=
      identifier_of_mem_runAt (hrun ▸ List.mem_cons_self)
    rw [hbehind c hc] at hident
    cases hident
  rw [runAt_append h hcs, hnone, List.append_nil]

/-- Runs do not touch each other: each ends before the next one begins. -/
theorem wordRuns_apart (text : Array Char) :
    (wordRuns text).Pairwise fun r r' => r.place.2 < r'.start := by
  unfold wordRuns
  rw [List.pairwise_map]
  refine (List.pairwise_lt_range.filter _).imp_of_mem fun {i j} hi hj hlt => ?_
  have hbegins := beginsRun_iff.mp (List.mem_filter.mp hj).2
  have hsize := lt_size_of_beginsRun (List.mem_filter.mp hi).2
  show i + (runAt text i).length < j
  by_contra hle
  -- an identifier character of the first run would stand before the second one
  obtain ⟨-, -, hget⟩ := Regex.occurs_iff.mp (occurs_runAt (Nat.le_of_lt hsize))
  have hlt' : j - 1 - i < (runAt text i).length := by omega
  have hchar : text[j - 1]? = some (runAt text i)[j - 1 - i] := by
    rw [← List.getElem?_eq_getElem hlt', ← hget _ hlt', show i + (j - 1 - i) = j - 1 by omega]
  have hident := identifier_of_mem_runAt (List.getElem_mem hlt')
  rw [hbegins.2 _ (by omega) hchar] at hident
  cases hident

/-- Two runs are the same, or one of them ends before the other one begins. -/
theorem eq_or_apart {r r' : Run} (hr : r ∈ wordRuns text) (hr' : r' ∈ wordRuns text) :
    r = r' ∨ r.place.2 < r'.start ∨ r'.place.2 < r.start := by
  let Apart (r r' : Run) : Prop := r = r' ∨ r.place.2 < r'.start ∨ r'.place.2 < r.start
  have hbefore : (wordRuns text).Pairwise Apart :=
    (wordRuns_apart text).imp fun h => Or.inr (Or.inl h)
  have hbehind : (wordRuns text).Pairwise (flip Apart) :=
    (wordRuns_apart text).imp fun h => Or.inr (Or.inr h)
  exact hbefore.forall_of_forall_of_flip (fun r _ => (Or.inl rfl : Apart r r)) hbehind hr hr'

/-! ## Whole words -/

/-- A whole word that consists of identifier characters is a run. -/
theorem runAt_of_wholeWord {words : List String}
    (hwords : ∀ w ∈ words, ∀ c ∈ w.toList, isIdentifierChar c = true)
    (h : WholeWord text words i j) :
    String.ofList (runAt text i) ∈ words ∧ j = i + (runAt text i).length := by
  obtain ⟨⟨w, hw, hoccurs⟩, hbehind⟩ := h
  have hrun : runAt text i = w.toList := by
    refine runAt_eq hoccurs (hwords w hw) fun c hc => ?_
    rw [Bool.eq_false_iff]
    intro hident
    have hword := isWordChar_of_isIdentifierChar hident
    rw [hbehind c hc] at hword
    cases hword
  rw [hrun, String.ofList_toList]
  exact ⟨hw, hoccurs.length_eq⟩

/-- In a text of ASCII characters, no others than those of identifiers go on an identifier. -/
theorem isWordChar_eq {c : Char} (hc : c.toNat < 0x80) : isWordChar c = isIdentifierChar c := by
  unfold isWordChar isIdentifierChar Unicode.isWord
  rw [if_pos hc, Bool.or_comm, Bool.or_right_comm]

/-- The text consists of ASCII characters. -/
def IsAscii (text : Array Char) : Prop :=
  ∀ (i : Nat) (c : Char), text[i]? = some c → c.toNat < 0x80

theorem notContinued_runAt (hascii : IsAscii text) (i : Nat) :
    NotContinued text (i + (runAt text i).length) := by
  intro c hc
  rw [isWordChar_eq (hascii _ c hc)]
  exact not_identifier_behind hc

theorem notPreceded_of_beginsRun (hascii : IsAscii text) (h : beginsRun text i = true) :
    NotPreceded text i := by
  intro c hi hc
  rw [isWordChar_eq (hascii _ c hc)]
  exact (beginsRun_iff.mp h).2 c hi hc

theorem wholeWord_runAt (hascii : IsAscii text) {words : List String} (hi : i ≤ text.size)
    (h : String.ofList (runAt text i) ∈ words) :
    WholeWord text words i (i + (runAt text i).length) := by
  refine ⟨⟨_, h, ?_⟩, notContinued_runAt hascii i⟩
  rw [String.toList_ofList]
  exact occurs_runAt hi

/-- A run begins with an identifier character that no identifier goes on to. -/
theorem beginsRun_of_notPreceded (h : NotPreceded text i) {c : Char} (hc : text[i]? = some c)
    (hident : isIdentifierChar c = true) : beginsRun text i = true := by
  refine beginsRun_iff.mpr ⟨⟨c, hc, hident⟩, fun d hi hd => ?_⟩
  rw [Bool.eq_false_iff]
  intro hd'
  have hword := isWordChar_of_isIdentifierChar hd'
  rw [h d hi hd] at hword
  cases hword

/-! ## Runs of a kind -/

theorem mem_placesOf {P : Run → Prop} [DecidablePred P] {a : Nat × Nat} :
    a ∈ placesOf P text ↔ beginsRun text a.1 = true ∧ P ⟨a.1, runAt text a.1⟩ ∧
      a.2 = a.1 + (runAt text a.1).length := by
  unfold placesOf
  simp only [List.mem_map, List.mem_filter, mem_wordRuns, decide_eq_true_eq]
  constructor
  · intro h
    obtain ⟨⟨start, word⟩, ⟨⟨hbegins, hword⟩, hP⟩, rfl⟩ := h
    dsimp only at hword
    subst hword
    exact ⟨hbegins, hP, rfl⟩
  · intro h
    obtain ⟨hbegins, hP, hstop⟩ := h
    exact ⟨⟨a.1, runAt text a.1⟩, ⟨⟨hbegins, rfl⟩, hP⟩, Prod.ext rfl hstop.symm⟩

/-- Words whose longest ones are the runs of a kind are taken from left to right with these. -/
theorem munches_placesOf {P : Run → Prop} [DecidablePred P] {Stands : Nat → Nat → Prop}
    (hnonempty : ∀ i j, Stands i j → i < j)
    (hstands : ∀ i, beginsRun text i = true → P ⟨i, runAt text i⟩ →
      Stands i (i + (runAt text i).length))
    (hall : ∀ i j, Stands i j → beginsRun text i = true ∧ P ⟨i, runAt text i⟩ ∧
      j ≤ i + (runAt text i).length) : Munches Stands 0 (placesOf P text) := by
  refine Munches.of_sorted hnonempty ?_ (fun a _ => Nat.zero_le a.1) ?_ ?_
  · unfold placesOf
    rw [List.pairwise_map]
    exact ((wordRuns_apart text).filter _).imp fun h => Nat.le_of_lt h
  · intro a ha
    obtain ⟨hbegins, hP, hstop⟩ := mem_placesOf.mp ha
    rw [hstop]
    exact hstands a.1 hbegins hP
  · intro i j _ h
    obtain ⟨hbegins, hP, hle⟩ := hall i j h
    exact ⟨i + (runAt text i).length, mem_placesOf.mpr ⟨hbegins, hP, rfl⟩, hle⟩

/-! ## Keywords -/

theorem identifier_of_mem_keywords :
    ∀ w ∈ keywords, ∀ c ∈ w.toList, isIdentifierChar c = true :=
  fun w hw => identifier_of_mem_reserved w (List.mem_append_left _ hw)

/-- A keyword is a run. -/
theorem runAt_of_keyword (h : Keyword text i j) :
    beginsRun text i = true ∧ String.ofList (runAt text i) ∈ keywords ∧
      j = i + (runAt text i).length := by
  obtain ⟨hnot, hword⟩ := h
  refine ⟨?_, runAt_of_wholeWord identifier_of_mem_keywords hword⟩
  obtain ⟨⟨w, hw, hoccurs⟩, -⟩ := hword
  obtain ⟨c, rest, hcs⟩ := List.exists_cons_of_ne_nil (plainWords_keywords.2 w hw).1
  rw [hcs] at hoccurs
  refine beginsRun_of_notPreceded hnot (Regex.occurs_cons.mp hoccurs).1 ?_
  exact identifier_of_mem_keywords w hw c (hcs ▸ List.mem_cons_self)

theorem nonempty_keyword (h : Keyword text i j) : i < j ∧ j ≤ text.size := by
  obtain ⟨-, ⟨w, hw, hoccurs⟩, -⟩ := h
  have hlength := hoccurs.length_eq
  have hpos := List.length_pos_of_ne_nil (plainWords_keywords.2 w hw).1
  exact ⟨by omega, hoccurs.le_size⟩

/-- **In a text of ASCII characters the keywords are the runs that are keywords**, from left to
right. -/
theorem munches_keyword (hascii : IsAscii text) :
    Munches (Keyword text) 0 (placesOf Run.IsKeyword text) := by
  refine munches_placesOf (fun i j h => (nonempty_keyword h).1) ?_ ?_
  · intro i hbegins hkeyword
    have hsize := lt_size_of_beginsRun hbegins
    exact ⟨notPreceded_of_beginsRun hascii hbegins,
      wholeWord_runAt hascii (Nat.le_of_lt hsize) hkeyword⟩
  · intro i j h
    obtain ⟨hbegins, hkeyword, hstop⟩ := runAt_of_keyword h
    exact ⟨hbegins, hkeyword, Nat.le_of_eq hstop⟩

/-! ## Variables -/

theorem nonempty_variable (h : Variable text i j) : i < j ∧ j ≤ text.size := by
  obtain ⟨-, -, cs, hoccurs, c, rest, rfl, -⟩ := h
  have hlength := hoccurs.length_eq
  rw [List.length_cons] at hlength
  exact ⟨by omega, hoccurs.le_size⟩

/-- **In a text of ASCII characters the longest variables are the runs that are variables**, from
left to right. -/
theorem munches_variable (hascii : IsAscii text) :
    Munches (Variable text) 0 (placesOf Run.IsVariable text) := by
  refine munches_placesOf (fun i j h => (nonempty_variable h).1) ?_ ?_
  · intro i hbegins hvariable
    obtain ⟨hdigit, hkeyword, hliteral⟩ := hvariable
    have hoccurs := occurs_runAt (Nat.le_of_lt (lt_size_of_beginsRun hbegins))
    refine ⟨notPreceded_of_beginsRun hascii hbegins, fun k hk => ?_, _, hoccurs, ?_⟩
    · obtain ⟨hreserved, -⟩ := runAt_of_wholeWord identifier_of_mem_reserved hk
      rcases List.mem_append.mp hreserved with h | h
      · exact hkeyword h
      · exact hliteral h
    · obtain ⟨c, rest, hrun, hrest⟩ := runAt_of_beginsRun hbegins
      rw [hrun] at hdigit ⊢
      obtain ⟨hident, hrest⟩ := List.forall_mem_cons.mp hrest
      exact ⟨c, rest, rfl, isIdentifierStart_iff.mpr ⟨hident, hdigit c rfl⟩, hrest⟩
  · intro i j h
    obtain ⟨hnot, hreserved, cs, hoccurs, c, rest, rfl, hstart, hrest⟩ := h
    have hident := (isIdentifierStart_iff.mp hstart).1
    have hrun := runAt_append hoccurs (List.forall_mem_cons.mpr ⟨hident, hrest⟩)
    have hbegins := beginsRun_of_notPreceded hnot (Regex.occurs_cons.mp hoccurs).1 hident
    have hsize := Nat.le_of_lt (lt_size_of_beginsRun hbegins)
    refine ⟨hbegins, ⟨?_, fun h => ?_, fun h => ?_⟩, ?_⟩
    · rw [hrun]
      intro d hd
      obtain rfl := Option.some.inj hd
      exact (isIdentifierStart_iff.mp hstart).2
    · exact hreserved _ (wholeWord_runAt hascii hsize (List.mem_append_left _ h))
    · exact hreserved _ (wholeWord_runAt hascii hsize (List.mem_append_right _ h))
    · rw [hoccurs.length_eq, hrun, List.length_append]
      omega

/-! ## Scanning for keywords and variables -/

theorem exists_seeks_keyword :
    ∃ s, Searcher.compile keyword = .ok s ∧ s.Seeks (Expr.cats keywordItems) Keyword := by
  obtain ⟨horder, hzero⟩ := cats_suitable suitable_keywordItems.1
  obtain ⟨s, hs, hmethod⟩ :=
    Searcher.exists_compile spells_keyword (by decide) horder (by cbv)
  refine ⟨s, hs, horder, hzero, hmethod, fun t i slots w hi => mem_ways_keyword t hi, ?_,
    nonempty_keyword⟩
  -- at every place one keyword stands at most
  intro t i slots hi
  refine List.pairwise_of_forall_mem_list fun v hv w hw => ?_
  obtain ⟨-, -, hstop⟩ := runAt_of_keyword ((mem_ways_keyword t hi).mp hv).2
  obtain ⟨-, -, hstop'⟩ := runAt_of_keyword ((mem_ways_keyword t hi).mp hw).2
  rw [hstop, hstop']

theorem exists_seeks_variable :
    ∃ s, Searcher.compile variableName = .ok s ∧ s.Seeks (Expr.cats variableItems) Variable := by
  obtain ⟨horder, hzero⟩ := cats_suitable suitable_variableItems.1
  obtain ⟨s, hs, hmethod⟩ :=
    Searcher.exists_compile spells_variable (by decide) horder (by decide)
  refine ⟨s, hs, horder, hzero, hmethod, fun t i slots w hi => mem_ways_variable t hi, ?_,
    nonempty_variable⟩
  -- what follows the first character of a variable is repeated as often as it can be
  intro t i slots _
  have hstar : ((Expr.repeated 0 none true (.chars nameChars)).ways t).Ordered fun j k => k ≤ j :=
    (Ways.ordered_star t nameChars true).imp fun j k hlt => Nat.le_of_lt hlt
  have hname := (Ways.single_chars t nameStartChars).andThen_ordered hstar
  have hreserved := Ways.single_looked
    ((Expr.cats (wholeWordItems (keywords ++ literalKeywords))).ways t)
  have hpreceded := Ways.single_looked ((Expr.chars wordChars).ways t).upTo
  exact hpreceded.andThen_ordered (hreserved.andThen_ordered hname) i slots

/-- What a searcher finds in a text are the runs of a kind: with every budget the first ones, all of
them if the budget lasts, and from some budget on it does. -/
structure FindsRuns (s : Searcher) (P : Run → Prop) [DecidablePred P] (text : Array Char) :
    Prop where
  first : ∀ budget limit, s.places budget text limit {} <+: placesOf P text
  all : ∀ budget limit, text.size ≤ limit → s.Lasts budget text →
    s.places budget text limit {} = placesOf P text
  lasts : ∃ enough, ∀ budget, enough ≤ budget → s.Lasts budget text

theorem findsRuns_of_munches {s : Searcher} {e : Expr} {Stands : Array Char → Nat → Nat → Prop}
    (h : s.Seeks e Stands) {P : Run → Prop} [DecidablePred P]
    (hruns : Munches (Stands text) 0 (placesOf P text)) : FindsRuns s P text := by
  refine ⟨fun budget limit => ?_, fun budget limit hlimit hlasts => ?_, s.exists_lasts text⟩
  · exact h.places_prefix (c := {}) (Nat.zero_le _) hruns
  · exact hruns.unique (h.munches (c := {}) hlasts (Nat.zero_le _) hlimit)

/-- A place of a run of some kind covers no part of another run. -/
theorem eq_or_apart_of_mem_placesOf {P : Run → Prop} [DecidablePred P] {a : Nat × Nat}
    (ha : a ∈ placesOf P text) (hr : r ∈ wordRuns text) :
    a = r.place ∨ a.2 < r.place.1 ∨ r.place.2 < a.1 := by
  obtain ⟨r', hr', rfl⟩ := List.mem_map.mp ha
  exact (eq_or_apart (List.mem_filter.mp hr').1 hr).imp (congrArg Run.place) id

theorem not_keyword_and_variable {a : Nat × Nat} (hkeyword : a ∈ placesOf Run.IsKeyword text) :
    a ∉ placesOf Run.IsVariable text := by
  intro hvariable
  exact (mem_placesOf.mp hvariable).2.1.2.1 (mem_placesOf.mp hkeyword).2.1

/-- **Keywords and variables partition the words of a text** of ASCII characters: what the expression
of the keywords finds are the runs of identifier characters that are keywords, and what that of the
variables finds are the runs that begin with no digit and are neither keywords nor literals. No run
is of both kinds, and nothing that is found covers a part of a run. -/
theorem words_partitioned :
    ∃ k v, Searcher.compile keyword = .ok k ∧ Searcher.compile variableName = .ok v ∧
      ∀ text, IsAscii text →
        FindsRuns k Run.IsKeyword text ∧ FindsRuns v Run.IsVariable text ∧
        (placesOf Run.IsKeyword text).Disjoint (placesOf Run.IsVariable text) ∧
        ∀ a ∈ placesOf Run.IsKeyword text ++ placesOf Run.IsVariable text, ∀ r ∈ wordRuns text,
          a = r.place ∨ a.2 < r.place.1 ∨ r.place.2 < a.1 := by
  obtain ⟨k, hk, hseeks⟩ := exists_seeks_keyword
  obtain ⟨v, hv, hseeks'⟩ := exists_seeks_variable
  refine ⟨k, v, hk, hv, fun text hascii => ⟨findsRuns_of_munches hseeks (munches_keyword hascii),
    findsRuns_of_munches hseeks' (munches_variable hascii), fun a => not_keyword_and_variable,
    fun a ha r hr => ?_⟩⟩
  rcases List.mem_append.mp ha with ha | ha
  · exact eq_or_apart_of_mem_placesOf ha hr
  · exact eq_or_apart_of_mem_placesOf ha hr

/-! ## Texts for which the budget does not last -/

theorem length_keywords : (longestFirst (alphabetical keywords)).length = 43 := by
  cbv

/-- The plan of the keywords: where no identifier ends, one of 43 alternatives is tried. -/
theorem exists_plan_keyword (recalled : List Nat) :
    ∃ inner ps last, Plan.ofExpr recalled true (Expr.cats keywordItems)
        = .ok (.cat (.forbid inner) (.cat (.alts ps) last)) ∧ ps.length = 43 ∧
      ∀ t, (Plan.forbid inner).ways t = notPrecededExpr.ways t ∧
        (Plan.alts ps).ways t = (wordsExpr (longestFirst (alphabetical keywords))).ways t := by
  have hexact : ∀ e ∈ keywordItems, Plan.Exact recalled e := fun e he =>
    Plan.exact_of_orderly recalled (suitable_keywordItems.1 e he).1
  obtain ⟨hfirst, hrest⟩ := List.forall_mem_cons.mp hexact
  obtain ⟨plans, hplan, hall⟩ :=
    Plan.ofExpr_cat true notPrecededExpr (Expr.cats (wholeWordItems keywords)) rfl hfirst hrest
  obtain ⟨p, _, ⟨hp, hpways⟩, hwhole, rfl⟩ := List.forall₂_cons_left_iff.mp hall
  obtain ⟨q, _, ⟨hq, hqways⟩, hbehind, rfl⟩ := List.forall₂_cons_left_iff.mp hwhole
  obtain ⟨last, _, -, hnil, rfl⟩ := List.forall₂_cons_left_iff.mp hbehind
  obtain rfl := List.forall₂_nil_left_iff.mp hnil
  obtain ⟨inner, hinner⟩ : ∃ inner, Plan.ofExpr recalled true notPrecededExpr
      = .ok (.forbid inner) := by
    rw [notPrecededExpr, Plan.ofExpr]
    exact ⟨_, rfl⟩
  have horder : ∀ e ∈ (longestFirst (alphabetical keywords)).map fun w => wordExpr w.toList,
      e.orderly = true :=
    List.forall_mem_map.mpr fun w _ => (suitable_wordExpr w.toList).1
  obtain ⟨ps, hps, hwords⟩ := Plan.ofExpr_alts recalled horder
  have hparens (e : Expr) : Plan.ofExpr recalled true (.parens e) = Plan.ofExpr recalled true e := by
    rw [Plan.ofExpr]
    rfl
  obtain rfl := Except.ok.inj (hp.symm.trans hinner)
  obtain rfl := Except.ok.inj (hq.symm.trans ((hparens _).trans hps))
  refine ⟨inner, ps, last, hplan, ?_, fun t => ⟨hpways t, hqways t⟩⟩
  rw [← hwords.length_eq, List.length_map, length_keywords]

/-- At a blank behind which no identifier ends, the search tries all keywords in vain. -/
theorem wastes_at_blank {inner : Plan} {ps : List Plan} (last : Plan) {t : Subject} {i : Nat}
    (hinner : (Plan.forbid inner).ways t = notPrecededExpr.ways t)
    (hwords : (Plan.alts ps).ways t
      = (wordsExpr (longestFirst (alphabetical keywords))).ways t)
    (hnot : NotPreceded t.text i) (hblank : t.text[i]? = some ' ') :
    t.Wastes (ps.length - 1)
      ⟨[.plan (.group 0 (.cat (.forbid inner) (.cat (.alts ps) last)))], i, []⟩ := by
  have hsize : i ≤ t.text.size := Nat.le_of_lt (Array.getElem?_eq_some_iff.mp hblank).1
  have hnone : (Plan.alts ps).ways t i [(0, some i)] = [] := by
    rw [hwords, List.eq_nil_iff_forall_not_mem]
    intro w hw
    have hne : longestFirst (alphabetical keywords) ≠ [] :=
      List.ne_nil_of_length_pos (by rw [length_keywords]; decide)
    obtain ⟨-, cs, hoccurs, u, hu, rfl⟩ := (takes_words t hne i _ w hsize).mp hw
    have hkeyword := mem_alphabetical.mp (mem_longestFirst.mp hu)
    obtain ⟨c, rest, hcs⟩ := List.exists_cons_of_ne_nil (plainWords_keywords.2 u hkeyword).1
    -- a keyword begins with a character of an identifier
    have hident := identifier_of_mem_keywords u hkeyword c (hcs ▸ List.mem_cons_self)
    rw [hcs, Regex.occurs_cons, hblank] at hoccurs
    obtain rfl := Option.some.inj hoccurs.1
    cases hident
  have hfree : inner.ways t i [(0, some i)] = [] := by
    have hway : (i, [(0, some i)]) ∈ (Plan.forbid inner).ways t i [(0, some i)] := by
      rw [hinner]
      exact (mem_ways_notPreceded t).mpr ⟨rfl, hnot⟩
    exact (Ways.mem_looked_true.mp hway).2
  refine .of_goes (Subject.goes_group ..) (.of_goes (Subject.goes_cat ..) ?_)
  refine .of_forbids hfree (.of_goes (Subject.goes_cat ..) ?_)
  exact Subject.wastes_alts hnone

/-- **A search for a keyword that begins with blanks** spends 43 returns on each of them. -/
theorem search_blanks {k : Searcher}
    (hk : Regex.Method.ofExpr (Expr.cats keywordItems) = .ok k.method) {n budget : Nat}
    (hblank : ∀ i < n, text[i]? = some ' ') (hbudget : budget < n * 43) (origin : Option Nat) :
    k.search budget text 0 origin = .exhausted := by
  obtain ⟨inner, ps, last, hplan, hlength, hways⟩ :=
    exists_plan_keyword (Expr.cats keywordItems).recalledGroups
  rcases Regex.method_cases hk with ⟨hregular, -⟩ | ⟨-, p, hp, hmethod⟩
  · exact absurd hregular (by decide)
  obtain rfl := Except.ok.inj (hp.symm.trans hplan)
  have hsize : n ≤ text.size := by
    by_contra hlt
    have := (Array.getElem?_eq_some_iff.mp (hblank text.size (by omega))).1
    omega
  have hwastes : ∀ q, 0 ≤ q → q < 0 + n → (Subject.mk text origin).Wastes 42
      ⟨[.plan (.group 0 (.cat (.forbid inner) (.cat (.alts ps) last)))], q, []⟩ := by
    intro q _ hlt
    have hq : q < n := by omega
    have hnot : NotPreceded text q := by
      intro c hpos hc
      rw [hblank (q - 1) (by omega)] at hc
      obtain rfl := Option.some.inj hc
      rfl
    obtain ⟨hinner, hwords⟩ := hways ⟨text, origin⟩
    have hwastes := wastes_at_blank last hinner hwords hnot (hblank q hq)
    rwa [hlength] at hwastes
  exact Searcher.search_spent hmethod (by omega) hwastes hbudget

/-- What stands behind so many blanks is not found. -/
theorem places_behind_blanks {k : Searcher}
    (hk : Regex.Method.ofExpr (Expr.cats keywordItems) = .ok k.method) {n budget : Nat}
    (hblank : ∀ i < n, text[i]? = some ' ') (hbudget : budget < n * 43) (limit : Nat) :
    k.places budget text limit {} = [] := by
  refine Searcher.places_of_not_found (c := {}) (Nat.zero_le _) (fun m => ?_) limit
  rw [search_blanks hk hblank hbudget]
  exact nofun

/-- A keyword behind `n` blanks. -/
def lateKeyword (n : Nat) : Array Char :=
  (List.replicate n ' ' ++ ['i', 'f']).toArray

theorem getElem?_lateKeyword {n i : Nat} (hi : i < n) : (lateKeyword n)[i]? = some ' ' := by
  rw [lateKeyword, List.getElem?_toArray,
    List.getElem?_append_left (by rw [List.length_replicate]; exact hi)]
  exact List.getElem?_replicate_of_lt hi

theorem isAscii_lateKeyword (n : Nat) : IsAscii (lateKeyword n) := by
  intro i c hc
  have hmem := List.mem_of_getElem? ((List.getElem?_toArray ..).symm.trans hc)
  rcases List.mem_append.mp hmem with hblank | hword'
  · rw [List.eq_of_mem_replicate hblank]
    decide
  · have hword : ∀ c ∈ ['i', 'f'], c.toNat < 0x80 := by simp
    exact hword c hword'

theorem mem_placesOf_lateKeyword (n : Nat) :
    (n, n + 2) ∈ placesOf Run.IsKeyword (lateKeyword n) := by
  have hfirst : (lateKeyword n)[n]? = some 'i' := by
    rw [lateKeyword, List.getElem?_toArray,
      List.getElem?_append_right (by rw [List.length_replicate]), List.length_replicate,
      Nat.sub_self]
    rfl
  have hrun : runAt (lateKeyword n) n = ['i', 'f'] := by
    show ((List.replicate n ' ' ++ ['i', 'f']).drop n).takeWhile isIdentifierChar = ['i', 'f']
    rw [List.drop_left' List.length_replicate]
    rfl
  refine mem_placesOf.mpr ⟨beginsRun_iff.mpr ⟨⟨'i', hfirst, rfl⟩, fun c hpos hc => ?_⟩, ?_, ?_⟩
  · rw [getElem?_lateKeyword (by omega)] at hc
    obtain rfl := Option.some.inj hc
    rfl
  · rw [hrun]
    show "if" ∈ keywords
    decide
  · rw [hrun]
    rfl

/-- A keyword behind 150,000 blanks is not found with the budget that patterns have. -/
theorem keyword_behind_blanks :
    ∃ k, Searcher.compile keyword = .ok k ∧ IsAscii (lateKeyword 150000) ∧
      (150000, 150002) ∈ placesOf Run.IsKeyword (lateKeyword 150000) ∧
      ∀ limit, k.places ({} : Pattern.Limits).backtrackLimit (lateKeyword 150000) limit {} = [] := by
  obtain ⟨k, hk, hseeks⟩ := exists_seeks_keyword
  refine ⟨k, hk, isAscii_lateKeyword 150000, mem_placesOf_lateKeyword 150000, ?_⟩
  exact places_behind_blanks hseeks.method (fun i hi => getElem?_lateKeyword hi) (by decide)

end Grammar

end CodeShape
