import Mathlib.Data.List.Chain
import CodeShape.Proofs.Pattern.PlainText
import CodeShape.Proofs.Pattern.Tokens

/-!
# What padding sets apart

Padding puts spaces into a text and changes nothing else about it, and what it is for shows in the
segments that the padded text is split into: blanks and runs of other characters alternate, a bracket
or a semicolon is a run by itself, and a run with a character that begins identifiers is part of one
(`pad_apart`).

Two of the three passes of `pad` set words apart around all characters of a kind (`SetsApart`), and
so a run that holds such a character is part of a word (`SetsApart.part_of_word`). No later pass can
spoil this: where only spaces are put in, what has no space in it stood there before
(`SpacedOut.infix_before`).
-/

namespace CodeShape.Pattern

variable {special : Char → Bool} {IsWord : List Char → Prop} {cs ds run front back : List Char}
  {c : Char} {segs : List Segment}

/-! ## Runs between spaces -/

/-- Nothing without a space begins where a space stands. -/
theorem eq_nil_of_prefix_space (h : run <+: ' ' :: back) (hrun : ' ' ∉ run) : run = [] := by
  rcases List.prefix_cons_iff.mp h with hnil | ⟨more, heq, -⟩
  · exact hnil
  · rw [heq] at hrun
    exact absurd List.mem_cons_self hrun

/-- What has no space in it stands in front of a space or behind it. -/
theorem infix_of_space (h : run <:+: front ++ ' ' :: back) (hrun : ' ' ∉ run) :
    run <:+: front ∨ run <:+: back := by
  rcases List.infix_append_iff.mp h with hfront | hback | ⟨left, right, heq, hleft, hright⟩
  · exact .inl hfront
  · rcases List.infix_cons_iff.mp hback with hpre | hback
    · rw [eq_nil_of_prefix_space hpre hrun]
      exact .inl List.nil_infix
    · exact .inr hback
  · have hnil : right = [] :=
      eq_nil_of_prefix_space hright fun hmem => hrun (heq ▸ List.mem_append_right left hmem)
    rw [heq, hnil, List.append_nil]
    exact .inl hleft.isInfix

/-- Where only spaces are put in, what has no space in it stood there before. -/
theorem SpacedOut.infix_before (h : SpacedOut cs ds) (hds : run <:+: ds) (hrun : ' ' ∉ run) :
    run <:+: cs := by
  obtain ⟨front, back, rfl⟩ := hds
  obtain ⟨cs', cs₃, rfl, h', -⟩ := h.of_append
  obtain ⟨cs₁, cs₂, rfl, -, h₂⟩ := h'.of_append
  have hsame : cs₂ = run := by
    refine h₂.eq_of_forall_ne fun c hc hspace => ?_
    rw [hspace] at hc
    exact hrun hc
  rw [hsame]
  exact ⟨cs₁, cs₃, rfl⟩

/-- The characters of a text but for blanks stay as they are. -/
theorem SpacedOut.ink_eq (h : SpacedOut cs ds) : ink ds = ink cs := by
  have hspace : Unicode.isBlank ' ' = true := by decide
  induction h with
  | nil => rfl
  | keep c _ ih =>
    unfold ink at ih ⊢
    rw [List.filter_cons, List.filter_cons, ih]
  | space _ ih =>
    unfold ink at ih ⊢
    rw [List.filter_cons_of_neg (by simp [hspace]), ih]

/-! ## Words set apart -/

/-- A text of words that are set apart by spaces, and of single characters that are not special. -/
inductive SetsApart (special : Char → Bool) (IsWord : List Char → Prop) : List Char → Prop
  | nil : SetsApart special IsWord []
  | word {word rest : List Char} (hword : IsWord word) (hrest : SetsApart special IsWord rest) :
      SetsApart special IsWord (setApart word ++ rest)
  | char {c : Char} {rest : List Char} (hc : special c = false)
      (hrest : SetsApart special IsWord rest) : SetsApart special IsWord (c :: rest)

namespace SetsApart

/-- In front of the first space there is nothing special. -/
theorem not_special_in_front (h : SetsApart special IsWord ds) (hrun : run <+: ds)
    (hspace : ' ' ∉ run) (hc : c ∈ run) : special c = false := by
  induction h generalizing run with
  | nil =>
    rw [List.prefix_nil.mp hrun] at hc
    exact absurd hc List.not_mem_nil
  | word hword hrest ih =>
    rw [eq_nil_of_prefix_space hrun hspace] at hc
    exact absurd hc List.not_mem_nil
  | char hd hrest ih =>
    rcases List.prefix_cons_iff.mp hrun with hnil | ⟨more, heq, hmore⟩
    · rw [hnil] at hc
      exact absurd hc List.not_mem_nil
    · rw [heq] at hc hspace
      rcases List.mem_cons.mp hc with hfirst | hc
      · rw [hfirst]
        exact hd
      · exact ih hmore (fun hmem => hspace (List.mem_cons_of_mem _ hmem)) hc

/-- **A run with a special character in it is part of a word.** -/
theorem part_of_word (h : SetsApart special IsWord ds) (hrun : run <:+: ds) (hspace : ' ' ∉ run)
    (hc : c ∈ run) (hspecial : special c = true) : ∃ word, IsWord word ∧ run <:+: word := by
  induction h with
  | nil =>
    rw [List.infix_nil.mp hrun] at hc
    exact absurd hc List.not_mem_nil
  | @word word rest hword hrest ih =>
    have hspaces : setApart word ++ rest = [] ++ ' ' :: (word ++ ' ' :: rest) := by
      simp [setApart]
    rw [hspaces] at hrun
    rcases infix_of_space hrun hspace with hnil | hrun
    · rw [List.infix_nil.mp hnil] at hc
      exact absurd hc List.not_mem_nil
    · rcases infix_of_space hrun hspace with hinside | hbehind
      · exact ⟨word, hword, hinside⟩
      · exact ih hbehind
  | @char d rest hd hrest ih =>
    rcases List.infix_cons_iff.mp hrun with hpre | hbehind
    · -- the run would have to go on up to a space before anything special comes
      have hplain : special c = false :=
        (SetsApart.char hd hrest).not_special_in_front hpre hspace hc
      rw [hplain] at hspecial
      cases hspecial
    · exact ih hbehind

end SetsApart

theorem identifier?_cons (c : Char) (rest : List Char) :
    identifier? (c :: rest) = if isIdentifierStart c then
      some (c :: rest.takeWhile isIdentifierChar, rest.dropWhile isIdentifierChar) else none :=
  rfl

/-- The first pass sets identifiers apart. -/
theorem setsApart_identifiers (cs : List Char) :
    SetsApart isIdentifierStart (∀ c ∈ ·, isIdentifierChar c = true) (padWords identifier? cs) := by
  fun_induction padWords identifier? cs with
  | case1 => exact .nil
  | case2 c rest word after hnext hlt ih =>
    refine .word ?_ ih
    rw [identifier?_eq_run?] at hnext
    obtain ⟨_, _, ⟨⟩, hstart, rfl, -⟩ := run?_eq_some_iff.mp hnext
    refine List.forall_mem_cons.mpr ⟨Grammar.isIdentifierChar_of_isIdentifierStart hstart, ?_⟩
    intro d hd
    exact List.mem_takeWhile_imp hd
  | case3 c rest word after hnext hlong ih =>
    have hshort : after.length < (c :: rest).length := by
      rw [identifier?_eq_run?] at hnext
      obtain ⟨_, _, ⟨⟩, -, -, rfl⟩ := run?_eq_some_iff.mp hnext
      exact Nat.lt_succ_of_le (length_dropWhile_le _ _)
    exact absurd hshort hlong
  | case4 c rest hnext ih =>
    rw [identifier?_cons] at hnext
    split at hnext
    next => cases hnext
    next hstart => exact .char (eq_false_of_ne_true hstart) ih

/-- The last pass sets brackets and semicolons apart. -/
theorem setsApart_boundaries (ds : List Char) :
    SetsApart isBoundary (∃ c, · = [c])
      (ds.flatMap fun c => if isBoundary c then setApart [c] else [c]) := by
  induction ds with
  | nil => exact .nil
  | cons d ds ih =>
    rw [List.flatMap_cons]
    by_cases hd : isBoundary d = true
    · rw [if_pos hd]
      exact .word ⟨d, rfl⟩ ih
    · rw [if_neg hd]
      exact .char (eq_false_of_ne_true hd) ih

/-! ## The runs of a padded text -/

/-- A run of characters that is set apart: it is not empty, a bracket or a semicolon is all of it,
and where an identifier may begin it holds nothing but characters of identifiers. -/
structure IsApart (run : List Char) : Prop where
  nonempty : run ≠ []
  boundary : ∀ c ∈ run, isBoundary c = true → run = [c]
  identifier : ∀ c ∈ run, isIdentifierStart c = true → ∀ d ∈ run, isIdentifierChar d = true

/-- What stands between the blanks of a padded text is set apart. -/
theorem isApart_of_infix_pad (hrun : run <:+: pad cs) (hne : run ≠ []) (hspace : ' ' ∉ run) :
    IsApart run := by
  refine ⟨hne, fun c hc hboundary => ?_, fun c hc hstart => ?_⟩
  · have hall : SetsApart isBoundary (∃ c, · = [c]) (pad cs) := setsApart_boundaries _
    obtain ⟨word, ⟨d, rfl⟩, hword⟩ := hall.part_of_word hrun hspace hc hboundary
    have hlen : run.length = [d].length :=
      Nat.le_antisymm hword.length_le (List.length_pos_of_mem hc)
    obtain rfl : run = [d] := hword.eq_of_length hlen
    rw [List.mem_singleton.mp hc]
  · obtain ⟨word, hword, hpart⟩ := (setsApart_identifiers cs).part_of_word
      ((spacedOut_later cs).infix_before hrun hspace) hspace hc hstart
    intro d hd
    exact hword d (hpart.subset hd)

/-! ## The segments of a text -/

/-- What a segment stands for as plain text. -/
def Segment.run? : Segment → Option (List Char)
  | .text quoted => some (unquote quoted)
  | _ => none

/-- The runs of characters that segments stand for. -/
def runs (segs : List Segment) : List (List Char) :=
  segs.filterMap Segment.run?

/-- The first segment of a text tells whether the text begins with a blank. -/
theorem head?_splitBlanks {s : Segment} (h : (splitBlanks ds).head? = some s) :
    ∃ c, ds.head? = some c ∧ (s = .space ↔ Unicode.isBlank c = true) := by
  cases ds with
  | nil =>
    rw [splitBlanks] at h
    cases h
  | cons c rest =>
    refine ⟨c, rfl, ?_⟩
    rw [splitBlanks] at h
    split at h
    next hblank =>
      cases h
      exact iff_of_true rfl hblank
    next hblank =>
      cases h
      exact iff_of_false (by simp) hblank

/-- **Blanks and runs alternate.** -/
theorem isChain_splitBlanks (ds : List Char) :
    (splitBlanks ds).IsChain fun s s' => s = .space ↔ s' ≠ .space := by
  fun_induction splitBlanks ds with
  | case1 => exact .nil
  | case2 c rest hblank ih =>
    refine List.isChain_cons.mpr ⟨fun s' hs' => iff_of_true rfl ?_, ih⟩
    obtain ⟨d, hd, hs'⟩ := head?_splitBlanks hs'
    rw [Ne, hs', not_of_head?_dropWhile hd]
    exact Bool.false_ne_true
  | case3 c rest hblank inText ih =>
    refine List.isChain_cons.mpr ⟨fun s' hs' => iff_of_false (by simp) ?_, ih⟩
    obtain ⟨d, hd, hs'⟩ := head?_splitBlanks hs'
    have hend : inText d = false := not_of_head?_dropWhile hd
    rw [Ne, not_not, hs']
    simpa [inText] using hend

/-- Runs are all of a text but for its blanks. -/
theorem Fits.flatten_runs (h : Fits segs cs) (hrun : ∀ s ∈ segs, s.IsRun) :
    (runs segs).flatten = ink cs := by
  induction h with
  | nil => rfl
  | space hblank _ ih =>
    obtain ⟨-, hrest⟩ := List.forall_mem_cons.mp hrun
    rw [ink_append, ink_eq_nil.mpr hblank]
    exact ih hrest
  | text quoted _ ih =>
    obtain ⟨⟨-, hink⟩, hrest⟩ := List.forall_mem_cons.mp hrun
    have hsame : ink (unquote quoted) = unquote quoted := by
      refine List.filter_eq_self.mpr fun c hc => ?_
      rw [hink c hc]
      rfl
    rw [ink_append, hsame, ← ih hrest]
    rfl

/-- **Padding never alters code.** It only inserts spaces, so that all other characters stay as they
are. The segments of a text are blanks and quoted runs by turns; the runs make up the text but for
its blanks, and each of them is set apart. -/
theorem pad_apart (cs : List Char) :
    SpacedOut cs (pad cs) ∧ ink (pad cs) = ink cs ∧
      (normalize [.text cs]).IsChain (fun s s' => s = .space ↔ s' ≠ .space) ∧
      (runs (normalize [.text cs])).flatten = ink cs ∧
      ∀ s ∈ normalize [.text cs], s = .space ∨
        ∃ run, s = .text (Regex.quote run) ∧ s.run? = some run ∧ IsApart run := by
  have hsegs : normalize [.text cs] = splitBlanks (pad cs) := List.append_nil _
  have hspaced := spacedOut_pad cs
  refine ⟨hspaced, hspaced.ink_eq, ?_, ?_, fun s hs => ?_⟩
  · rw [hsegs]
    exact isChain_splitBlanks (pad cs)
  · rw [hsegs]
    exact (fits_splitBlanks hspaced).flatten_runs (splitBlanks_isRun (pad cs))
  · rw [hsegs] at hs
    rcases mem_splitBlanks hs with hspace | ⟨run, rfl, hne, hrun, hink⟩
    · exact .inl hspace
    · refine .inr ⟨run, rfl, congrArg some (unquote_quote run), ?_⟩
      refine isApart_of_infix_pad hrun hne fun hspace => ?_
      have hblank : Unicode.isBlank ' ' = true := by decide
      rw [hink ' ' hspace] at hblank
      cases hblank

end CodeShape.Pattern
