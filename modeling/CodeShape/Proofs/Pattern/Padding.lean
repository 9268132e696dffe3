import Mathlib.Data.List.TakeDrop
import CodeShape.Pattern.Segment
import CodeShape.Proofs.Regex.Consumption

/-!
# Padding only inserts spaces

The three passes of `pad` set words and brackets apart from what surrounds them. Whatever the words
are, a text is left as it is but for spaces that are put in (`spacedOut_pad`): each of the functions
that find a word splits the text into the word and what follows it (`SplitsOff`). What they find is
told by one equivalence for each kind of word (`run?_eq_some_iff`, `delimited?_eq_some_iff`,
`word?_eq_some_iff`).
-/

namespace CodeShape.Pattern

variable {cs ds es cs' ds' word after : List Char} {c : Char}
  {next? : List Char → Option (List Char × List Char)}

/-- The second text is the first one with spaces put in. -/
inductive SpacedOut : List Char → List Char → Prop
  | nil : SpacedOut [] []
  | keep {cs ds : List Char} (c : Char) (h : SpacedOut cs ds) : SpacedOut (c :: cs) (c :: ds)
  | space {cs ds : List Char} (h : SpacedOut cs ds) : SpacedOut cs (' ' :: ds)

namespace SpacedOut

theorem refl : ∀ cs : List Char, SpacedOut cs cs
  | [] => nil
  | c :: cs => keep c (refl cs)

theorem append (h : SpacedOut cs ds) (h' : SpacedOut cs' ds') :
    SpacedOut (cs ++ cs') (ds ++ ds') := by
  induction h with
  | nil => exact h'
  | keep c _ ih => exact keep c ih
  | space _ ih => exact space ih

/-- Spaces may be put in twice. -/
theorem trans (h : SpacedOut cs ds) (h' : SpacedOut ds es) : SpacedOut cs es := by
  induction h' generalizing cs with
  | nil => exact h
  | keep c _ ih =>
    cases h with
    | keep _ h => exact keep c (ih h)
    | space h => exact space (ih h)
  | space _ ih => exact space (ih h)

/-- The parts of a text come from parts of the text that the spaces were put into. -/
theorem of_append (h : SpacedOut cs (ds ++ ds')) :
    ∃ cs₁ cs₂, cs = cs₁ ++ cs₂ ∧ SpacedOut cs₁ ds ∧ SpacedOut cs₂ ds' := by
  induction ds generalizing cs with
  | nil => exact ⟨[], cs, rfl, nil, h⟩
  | cons d ds ih =>
    rw [List.cons_append] at h
    cases h with
    | keep _ h =>
      obtain ⟨cs₁, cs₂, rfl, h₁, h₂⟩ := ih h
      exact ⟨d :: cs₁, cs₂, rfl, keep d h₁, h₂⟩
    | space h =>
      obtain ⟨cs₁, cs₂, rfl, h₁, h₂⟩ := ih h
      exact ⟨cs₁, cs₂, rfl, space h₁, h₂⟩

/-- Nothing but spaces is put in. -/
theorem sublist (h : SpacedOut cs ds) : cs.Sublist ds := by
  induction h with
  | nil => exact List.Sublist.refl _
  | keep c _ ih => exact ih.cons_cons c
  | space _ ih => exact ih.cons _

/-- Where there is no space, none has been put in. -/
theorem eq_of_forall_ne (h : SpacedOut cs ds) (hds : ∀ c ∈ ds, c ≠ ' ') : cs = ds := by
  induction h with
  | nil => rfl
  | keep c _ ih =>
    obtain ⟨-, hds⟩ := List.forall_mem_cons.mp hds
    rw [ih hds]
  | space _ _ => exact absurd rfl (hds ' ' List.mem_cons_self)

end SpacedOut

theorem spacedOut_setApart (word : List Char) : SpacedOut word (setApart word) := by
  have h := (SpacedOut.refl word).append (.space .nil)
  rw [List.append_nil] at h
  exact .space h

/-! ## Words -/

/-- Splits off a character of one kind and those of another kind that follow it. -/
def run? (starts goesOn : Char → Bool) : List Char → Option (List Char × List Char)
  | [] => none
  | c :: rest =>
    if starts c then some (c :: rest.takeWhile goesOn, rest.dropWhile goesOn) else none

theorem run?_eq_some_iff {starts goesOn : Char → Bool} {word after : List Char} :
    run? starts goesOn cs = some (word, after) ↔ ∃ c rest, cs = c :: rest ∧ starts c = true ∧
      word = c :: rest.takeWhile goesOn ∧ after = rest.dropWhile goesOn := by
  constructor
  · intro h
    unfold run? at h
    split at h
    next => cases h
    next c rest =>
      split at h
      next hc =>
        cases h
        exact ⟨c, rest, rfl, hc, rfl, rfl⟩
      next => cases h
  · rintro ⟨c, rest, rfl, hc, rfl, rfl⟩
    exact if_pos hc

theorem identifier?_eq_run? : identifier? = run? isIdentifierStart isIdentifierChar := by
  funext cs
  cases cs <;> rfl

theorem unsigned?_eq_run? :
    unsigned? = run? Unicode.isDigit fun c => Unicode.isWord c || c == '.' := by
  funext cs
  cases cs <;> rfl

/-- A number is unsigned, or it is the rest behind a minus sign. -/
theorem number?_eq_some (h : number? cs = some (word, after)) :
    unsigned? cs = some (word, after) ∨ ∃ rest digits, cs = '-' :: rest ∧ word = '-' :: digits ∧
      unsigned? rest = some (digits, after) := by
  unfold number? at h
  split at h
  next rest =>
    obtain ⟨⟨digits, after'⟩, hdigits, heq⟩ := Option.map_eq_some_iff.mp h
    cases heq
    exact .inr ⟨rest, digits, rfl, rfl, hdigits⟩
  next => exact .inl h

/-- What a delimiter splits off ends at the next one. -/
theorem delimited?_eq_some_iff {delimiter : Char} {word after : List Char} :
    delimited? delimiter cs = some (word, after) ↔
      ∃ inside, delimiter ∉ inside ∧ word = delimiter :: (inside ++ [delimiter]) ∧
        cs = delimiter :: (inside ++ delimiter :: after) := by
  constructor
  · intro h
    unfold delimited? at h
    split at h
    next => cases h
    next c rest =>
      split at h
      next hc =>
        split at h
        next inside stop after' hspan =>
          cases h
          obtain ⟨rfl, hinside, hstop⟩ := Regex.span_eq_cons_iff.mp hspan
          obtain rfl : stop = delimiter := by simpa using hstop
          obtain rfl := beq_iff_eq.mp hc
          exact ⟨inside, fun hmem => by simpa using hinside _ hmem, rfl, rfl⟩
        next => cases h
      next => cases h
  · rintro ⟨inside, hinside, rfl, rfl⟩
    have hspan : (inside ++ delimiter :: after).span (· != delimiter) =
        (inside, delimiter :: after) := by
      refine Regex.span_eq_cons_iff.mpr ⟨rfl, fun c hc => bne_iff_ne.mpr ?_, by simp⟩
      exact fun heq => hinside (heq ▸ hc)
    rw [delimited?, if_pos (beq_self_eq_true delimiter), hspan]
    rfl

theorem word?_eq_some_iff {found : List Char} :
    word? word cs = some (found, after) ↔ found = word ∧ cs = word ++ after := by
  unfold word?
  constructor
  · intro h
    split at h
    next hprefix =>
      cases h
      obtain ⟨rest, rfl⟩ := List.isPrefixOf_iff_prefix.mp hprefix
      rw [List.drop_left]
      exact ⟨rfl, rfl⟩
    next => cases h
  · rintro ⟨rfl, rfl⟩
    rw [if_pos (List.isPrefixOf_iff_prefix.mpr (List.prefix_append found after)), List.drop_left]

/-- A literal stands between delimiters, or is a number or one of the keywords. -/
theorem literal?_eq_some (h : literal? cs = some (word, after)) :
    (∃ d ∈ ['"', '\'', '\x60', '/'], delimited? d cs = some (word, after)) ∨
      number? cs = some (word, after) ∨
        ∃ w ∈ Grammar.literalKeywords, word? w.toList cs = some (word, after) := by
  obtain ⟨read, hread, h⟩ := List.exists_of_findSome?_eq_some h
  rcases List.mem_append.mp hread with hread | hread
  · simp only [List.mem_cons, List.not_mem_nil, or_false] at hread
    rcases hread with rfl | rfl | rfl | rfl | rfl
    · exact .inl ⟨_, by simp, h⟩
    · exact .inl ⟨_, by simp, h⟩
    · exact .inl ⟨_, by simp, h⟩
    · exact .inr (.inl h)
    · exact .inl ⟨_, by simp, h⟩
  · obtain ⟨w, hw, rfl⟩ := List.mem_map.mp hread
    exact .inr (.inr ⟨w, hw, h⟩)

/-! ## Words are split off -/

/-- What finds the words of a text splits it into a word and what follows. -/
def SplitsOff (next? : List Char → Option (List Char × List Char)) : Prop :=
  ∀ cs word after, next? cs = some (word, after) → cs = word ++ after

theorem splitsOff_run? (starts goesOn : Char → Bool) : SplitsOff (run? starts goesOn) := by
  intro cs word after h
  obtain ⟨c, rest, rfl, -, rfl, rfl⟩ := run?_eq_some_iff.mp h
  rw [List.cons_append, List.takeWhile_append_dropWhile]

theorem splitsOff_identifier? : SplitsOff identifier? :=
  identifier?_eq_run? ▸ splitsOff_run? _ _

theorem splitsOff_number? : SplitsOff number? := by
  have hunsigned : SplitsOff unsigned? := unsigned?_eq_run? ▸ splitsOff_run? _ _
  intro cs word after h
  rcases number?_eq_some h with hdigits | ⟨rest, digits, rfl, rfl, hdigits⟩
  · exact hunsigned _ _ _ hdigits
  · rw [hunsigned _ _ _ hdigits, List.cons_append]

theorem splitsOff_literal? : SplitsOff literal? := by
  intro cs word after h
  rcases literal?_eq_some h with ⟨d, -, hstring⟩ | hnumber | ⟨w, -, hword⟩
  · obtain ⟨inside, -, rfl, rfl⟩ := delimited?_eq_some_iff.mp hstring
    simp
  · exact splitsOff_number? _ _ _ hnumber
  · obtain ⟨rfl, rfl⟩ := word?_eq_some_iff.mp hword
    rfl

/-! ## Padding -/

theorem spacedOut_padWords (hsplits : SplitsOff next?) (cs : List Char) :
    SpacedOut cs (padWords next? cs) := by
  fun_induction padWords next? cs with
  | case1 => exact .nil
  | case2 c rest word after hnext hlt ih =>
    rw [hsplits _ _ _ hnext]
    exact (spacedOut_setApart word).append ih
  | case3 c rest word after hnext hlt ih => exact .keep c ih
  | case4 c rest hnext ih => exact .keep c ih

theorem spacedOut_boundaries (cs : List Char) :
    SpacedOut cs (cs.flatMap fun c => if isBoundary c then setApart [c] else [c]) := by
  induction cs with
  | nil => exact .nil
  | cons d cs ih =>
    have hone : SpacedOut [d] (if isBoundary d then setApart [d] else [d]) := by
      split
      · exact spacedOut_setApart [d]
      · exact .refl [d]
    rw [List.flatMap_cons]
    exact hone.append ih

/-- The passes behind the first one only insert spaces as well. -/
theorem spacedOut_later (cs : List Char) : SpacedOut (padWords identifier? cs) (pad cs) :=
  (spacedOut_padWords splitsOff_literal? _).trans (spacedOut_boundaries _)

/-- **Padding only inserts spaces.** -/
theorem spacedOut_pad (cs : List Char) : SpacedOut cs (pad cs) :=
  (spacedOut_padWords splitsOff_identifier? cs).trans (spacedOut_later cs)

end CodeShape.Pattern
