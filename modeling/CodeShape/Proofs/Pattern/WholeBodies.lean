import CodeShape.Proofs.Pattern.Extraction
import CodeShape.Proofs.Regex.Consumption
import CodeShape.Proofs.Regex.Reading

/-!
# Bodies that are taken whole

The body of a raw expression is split off without being read as an expression. Both ways of going
through it meet at every parenthesis, as long as each class in brackets and each comment, up to the
place where the reader of expressions sees its end, has its own parentheses in pairs
(`BalancedParts`). Each step of the reader then passes a text that closes as much as the reader has
closed (`step_passes`), and so an expression that can be read is balanced as a whole
(`balanced_of_parse`) and is taken whole (`body_taken_whole`). A class that begins with a closing
bracket shows that the condition is needed.
-/

namespace CodeShape.Pattern

open Regex

variable {spaced : Prop} {body cs ds rest : List Char} {r s t : Reader}

/-! ## Classes and comments that are balanced by themselves -/

/-- What may stand between a question mark and the end of the flags that follow it. -/
def flagLetters : List Char := ['i', 'm', 's', 'U', 'x', 'u', '-']

/-- The text ends in `rest`, and before that stand flags behind a question mark. -/
def BehindFlags (cs rest : List Char) : Prop :=
  ∃ letters, (∀ c ∈ letters, c ∈ flagLetters) ∧ '?' :: (letters ++ rest) <:+ cs

/-- The text sets the flag `x`, perhaps among others. -/
def SetsSpaced (cs : List Char) : Prop :=
  ∃ rest, BehindFlags cs ('x' :: rest)

theorem BehindFlags.next {c : Char} (h : BehindFlags body (c :: cs)) (hc : c ∈ flagLetters) :
    BehindFlags body cs := by
  obtain ⟨letters, hletters, hsuffix⟩ := h
  refine ⟨letters ++ [c], fun d hd => ?_, by simpa using hsuffix⟩
  rcases List.mem_append.mp hd with hd | hd
  · exact hletters d hd
  · exact List.mem_singleton.mp hd ▸ hc

/-- Each class in brackets and each comment of the text, up to the end that the expression gives it,
is balanced by itself; and where the flag `x` may be in force, there are no comments behind `#`. -/
inductive BalancedParts (spaced : Prop) : List Char → Prop where
  | nil : BalancedParts spaced []
  | escaped (c : Char) {rest : List Char} :
    BalancedParts spaced rest → BalancedParts spaced ('\\' :: c :: rest)
  | bracketed {text rest : List Char} (htext : ClassText text) (hbalanced : Balanced ('[' :: text)) :
    BalancedParts spaced rest → BalancedParts spaced ('[' :: (text ++ rest))
  | comment {text rest : List Char} (htext : CommentText text)
    (hbalanced : Balanced ('(' :: '?' :: '#' :: text)) :
    BalancedParts spaced rest → BalancedParts spaced ('(' :: '?' :: '#' :: (text ++ rest))
  | char {c : Char} {rest : List Char} (hbackslash : c ≠ '\\') (hbracket : c ≠ '[')
    (hcomment : ¬ ['(', '?', '#'] <+: c :: rest) (hhash : c = '#' → ¬ spaced) :
    BalancedParts spaced rest → BalancedParts spaced (c :: rest)

theorem BalancedParts.of_escaped {c : Char} (h : BalancedParts spaced ('\\' :: c :: rest)) :
    BalancedParts spaced rest := by
  cases h with
  | escaped _ h => exact h
  | char hbackslash => exact absurd rfl hbackslash

theorem BalancedParts.of_bracketed {text : List Char} (htext : ClassText text)
    (h : BalancedParts spaced ('[' :: (text ++ rest))) :
    Balanced ('[' :: text) ∧ BalancedParts spaced rest := by
  generalize hcs : text ++ rest = cs at h
  cases h with
  | bracketed htext' hbalanced h =>
    obtain ⟨rfl, rfl⟩ := htext.unique htext' hcs
    exact ⟨hbalanced, h⟩
  | char _ hbracket => exact absurd rfl hbracket

theorem BalancedParts.of_comment {text : List Char} (htext : CommentText text)
    (h : BalancedParts spaced ('(' :: '?' :: '#' :: (text ++ rest))) :
    Balanced ('(' :: '?' :: '#' :: text) ∧ BalancedParts spaced rest := by
  generalize hcs : text ++ rest = cs at h
  cases h with
  | comment htext' hbalanced h =>
    obtain ⟨rfl, rfl⟩ := htext.unique htext' hcs
    exact ⟨hbalanced, h⟩
  | char _ _ hcomment => exact absurd ⟨cs, rfl⟩ hcomment

theorem BalancedParts.of_char {c : Char} (h : BalancedParts spaced (c :: rest))
    (hbackslash : c ≠ '\\') (hbracket : c ≠ '[') (hcomment : ¬ ['(', '?', '#'] <+: c :: rest) :
    (c = '#' → ¬ spaced) ∧ BalancedParts spaced rest := by
  cases h with
  | escaped => exact absurd rfl hbackslash
  | bracketed => exact absurd rfl hbracket
  | comment => exact absurd ⟨_, rfl⟩ hcomment
  | char _ _ _ hhash h => exact ⟨hhash, h⟩

/-! ## Texts that leave the parentheses as they are -/

/-- What is left when a balanced text has been read. -/
def Crosses (spaced : Prop) (cs rest : List Char) : Prop :=
  ∃ front, cs = front ++ rest ∧ Balanced front ∧ BalancedParts spaced rest

theorem Crosses.refl (h : BalancedParts spaced cs) : Crosses spaced cs cs :=
  ⟨[], rfl, .nil, h⟩

theorem Crosses.trans (h : Crosses spaced cs ds) (h' : Crosses spaced ds rest) :
    Crosses spaced cs rest := by
  obtain ⟨front, rfl, hfront, -⟩ := h
  obtain ⟨back, rfl, hback, hrest⟩ := h'
  exact ⟨front ++ back, (List.append_assoc ..).symm, hfront.append hback, hrest⟩

theorem Crosses.balancedParts (h : Crosses spaced cs rest) : BalancedParts spaced rest :=
  let ⟨_, _, _, hrest⟩ := h
  hrest

theorem balanced_of_bare (h : Bare cs) : Balanced cs := by
  induction cs with
  | nil => exact .nil
  | cons c cs ih =>
    obtain ⟨hc, hcs⟩ := bare_cons.mp h
    exact .char (fun hmem => hc (by revert hmem; simp [delimiters]; tauto)) (ih hcs)

theorem BalancedParts.skims (h : BalancedParts spaced cs) (hskims : Skims cs rest) :
    Crosses spaced cs rest := by
  obtain ⟨front, rfl, hfront⟩ := hskims
  refine ⟨front, rfl, balanced_of_bare hfront, ?_⟩
  induction front with
  | nil => exact h
  | cons c front ih =>
    obtain ⟨hc, hfront⟩ := bare_cons.mp hfront
    refine ih hfront (h.of_char ?_ ?_ ?_).2
    · rintro rfl
      exact hc (by decide)
    · rintro rfl
      exact hc (by decide)
    · rintro ⟨back, heq⟩
      obtain rfl := (List.cons.inj heq).1
      exact hc (by decide)

theorem Crosses.skims (h : Crosses spaced cs ds) (hskims : Skims ds rest) : Crosses spaced cs rest :=
  h.trans (h.balancedParts.skims hskims)

theorem Crosses.next {c : Char} (h : Crosses spaced cs (c :: rest)) (hc : c ∉ delimiters) :
    Crosses spaced cs rest :=
  h.skims (.cons hc (.refl rest))

/-- What the reader skips is balanced. -/
theorem skipBlanks_crosses {blanks : Bool} (hblanks : blanks = true → spaced)
    (hcs : BalancedParts spaced cs) (h : skipBlanks blanks .blanks cs = .ok rest) :
    Crosses spaced cs rest := by
  induction hlen : cs.length using Nat.strong_induction_on generalizing cs with
  | _ n ih =>
    subst hlen
    unfold skipBlanks at h
    split at h
    -- a comment is skipped as a whole, and what is behind it is shorter
    next more heq =>
      obtain ⟨text, back, rfl, htext, hback⟩ := skipBlanks_comment h
      obtain ⟨hbalanced, hcontained⟩ := hcs.of_comment htext
      have hmore := ih back.length (by simp; omega) hcontained hback rfl
      refine Crosses.trans ⟨'(' :: '?' :: '#' :: text, rfl, hbalanced, hcontained⟩ hmore
    next more heq =>
      split at h
      next hspaced =>
        obtain ⟨hhash, -⟩ := hcs.of_char (by decide) (by decide) (fun hpre => by simp at hpre)
        -- blanks are ignored only in a spaced body, in which no number sign stands by itself
        exact absurd (hblanks hspaced) (hhash rfl)
      next =>
        cases h
        exact .refl hcs
    next c more _ _ heq =>
      split at h
      next hblank =>
        have hc : c ∈ [' ', '\r', '\n', '\t'] :=
          List.contains_iff_mem.mp (Bool.and_eq_true .. ▸ hblank).2
        have hbare : Bare [' ', '\r', '\n', '\t'] := by decide
        have hmore := (Crosses.refl hcs).next (hbare c hc)
        exact hmore.trans (ih more.length (by simp) hmore.balancedParts h rfl)
      next =>
        cases h
        exact .refl hcs
    next heq => cases heq
    next heq => cases heq
    next heq => cases heq
    next heq => cases heq
    next heq => cases heq
    next =>
      cases h
      exact .refl hcs

/-- The limits of a repetition from behind the lower one on: one limit for both, or a comma and
perhaps an upper one. -/
theorem limits_cross {skip : List Char → Option (List Char)} {lo : Nat}
    {limits : Nat × Option Nat}
    (hskip : ∀ cs ds, BalancedParts spaced cs → skip cs = some ds → Crosses spaced cs ds)
    (hcs : BalancedParts spaced cs)
    (h : (do
      match ← skip cs with
      | '}' :: rest => some ((lo, some lo), rest)
      | ',' :: rest =>
        let rest ← skip rest
        let (hi, rest) := match readDecimal? rest with
          | some (hi, rest) => (some hi, rest)
          | none => (none, rest)
        match ← skip rest with
        | '}' :: rest => some ((lo, hi), rest)
        | _ => none
      | _ => none) = some (limits, rest)) :
    Crosses spaced cs rest := by
  obtain ⟨cs₁, hcs₁, h⟩ := Option.bind_eq_some_iff.mp h
  have h₁ := hskip _ _ hcs hcs₁
  split at h
  next =>
    cases h
    exact h₁.next (by decide)
  next =>
    obtain ⟨cs₂, hcs₂, h⟩ := Option.bind_eq_some_iff.mp h
    have hcomma := h₁.next (by decide)
    have h₂ := hcomma.trans (hskip _ _ hcomma.balancedParts hcs₂)
    split at h
    next hi cs₃ hupper =>
      obtain ⟨cs₄, hcs₄, h⟩ := Option.bind_eq_some_iff.mp h
      have h₃ : Crosses spaced cs cs₃ := by
        split at hupper
        next hi' cs₃' hdecimal =>
          cases hupper
          exact h₂.skims (readDecimal?_skims hdecimal)
        next =>
          cases hupper
          exact h₂
      have h₄ := h₃.trans (hskip _ _ h₃.balancedParts hcs₄)
      split at h
      next =>
        cases h
        exact h₄.next (by decide)
      next => cases h
  next => cases h

/-- Repetition limits are balanced. -/
theorem readLimits?_crosses {limits : Nat × Option Nat} (hblanks : r.flags.spaced = true → spaced)
    (hcs : BalancedParts spaced cs) (h : r.readLimits? cs = some (limits, rest)) :
    Crosses spaced cs rest := by
  have hskip : ∀ cs ds, BalancedParts spaced cs → (r.skip cs).toOption = some ds →
      Crosses spaced cs ds := by
    intro cs ds hcs hskip
    refine skipBlanks_crosses hblanks hcs ?_
    change r.skip cs = .ok ds
    cases hr : r.skip cs with
    | error => rw [hr] at hskip; cases hskip
    | ok ds' => rw [hr] at hskip; cases hskip; rfl
  unfold Reader.readLimits? at h
  obtain ⟨cs₁, hcs₁, h⟩ := Option.bind_eq_some_iff.mp h
  have h₁ := hskip _ _ hcs hcs₁
  split at h
  next => exact h₁.trans (limits_cross hskip h₁.balancedParts h)
  next =>
    obtain ⟨⟨lo, cs₂⟩, hlo, h⟩ := Option.bind_eq_some_iff.mp h
    have h₂ := h₁.skims (readDecimal?_skims hlo)
    exact h₂.trans (limits_cross hskip h₂.balancedParts h)

/-! ## What a reader does to its levels and flags -/

/-- The flag `x` is in force, or comes back where a parenthesis is closed, only under a condition. -/
structure SpacedOnlyIf (spaced : Prop) (r : Reader) : Prop where
  now : r.flags.spaced = true → spaced
  later : ∀ before around, (Opening.parens before, around) ∈ r.outer → before.spaced = true → spaced

theorem SpacedOnlyIf.of_same (h : SpacedOnlyIf spaced r) (houter : s.outer = r.outer)
    (hflags : s.flags = r.flags) : SpacedOnlyIf spaced s :=
  ⟨hflags ▸ h.now, houter ▸ h.later⟩

theorem SpacedOnlyIf.of_opened {o : Opening} {around : Level} (h : SpacedOnlyIf spaced r)
    (houter : s.outer = (o, around) :: r.outer) (hflags : s.flags = r.flags)
    (ho : ∀ before, o = .parens before → before.spaced = true → spaced) :
    SpacedOnlyIf spaced s := by
  refine ⟨hflags ▸ h.now, fun before around' hmem => ?_⟩
  rw [houter] at hmem
  rcases List.mem_cons.mp hmem with heq | hmem
  · exact ho before (Prod.mk.inj heq).1.symm
  · exact h.later before around' hmem

@[simp] theorem push_outer (r : Reader) (e : Expr) : (r.push e).outer = r.outer :=
  Reader.settle_outer r

@[simp] theorem push_flags (r : Reader) (e : Expr) : (r.push e).flags = r.flags :=
  Reader.settle_flags r

theorem openLevel_outer {o : Opening} (h : r.openLevel o = .ok s) :
    (∃ around, s.outer = (o, around) :: r.outer) ∧ s.flags = r.flags := by
  obtain ⟨-, rfl⟩ := Reader.openLevel_ok_iff.mp h
  exact ⟨⟨r.settle.level, by rw [Reader.opened, Reader.settle_outer]⟩, Reader.settle_flags r⟩

theorem openGroup_outer {name : Option (List Char)} (h : r.openGroup name = .ok s) :
    (∃ index around, s.outer = (.group index, around) :: r.outer) ∧ s.flags = r.flags := by
  obtain ⟨⟨around, houter⟩, hflags⟩ := openLevel_outer h
  exact ⟨⟨_, around, houter⟩, hflags⟩

theorem pushBackref_outer {g : Nat} (h : r.pushBackref g = .ok s) :
    s.outer = r.outer ∧ s.flags = r.flags := by
  obtain ⟨-, rfl⟩ := Reader.pushBackref_ok_iff.mp h
  exact ⟨push_outer .., push_flags ..⟩

theorem readBackref_outer {stop : Char} (h : r.readBackref stop cs = .ok (s, rest)) :
    s.outer = r.outer ∧ s.flags = r.flags := by
  unfold Reader.readBackref at h
  split at h
  next =>
    obtain ⟨⟨name, rest'⟩, -, hrefer⟩ := bind_eq_ok_iff.mp h
    dsimp only at hrefer
    split at hrefer
    next =>
      split at hrefer
      next => cases hrefer
      next =>
        obtain ⟨s', hs', heq⟩ := bind_eq_ok_iff.mp hrefer
        cases heq
        exact pushBackref_outer hs'
    next => cases hrefer
  next =>
    obtain ⟨⟨name, rest'⟩, -, hrefer⟩ := bind_eq_ok_iff.mp h
    obtain ⟨s', hs', heq⟩ := bind_eq_ok_iff.mp hrefer
    cases heq
    obtain ⟨g, hg⟩ := Reader.exists_of_pushNamedBackref hs'
    exact pushBackref_outer hg

theorem readBackslash_outer {len : Nat} (h : r.readBackslash len cs = .ok (s, rest)) :
    s.outer = r.outer ∧ s.flags = r.flags := by
  unfold Reader.readBackslash at h
  split at h
  case h_2 | h_3 => exact readBackref_outer h
  case h_1 | h_4 | h_7 | h_8 => cases h
  case h_15 =>
    split at h
    next =>
      split at h
      next =>
        split at h
        next =>
          obtain ⟨s', hs', heq⟩ := bind_eq_ok_iff.mp h
          obtain ⟨houter, hflags⟩ := pushBackref_outer hs'
          cases heq
          exact ⟨houter, hflags⟩
        next => cases h
      next => cases h
    next =>
      obtain ⟨⟨e, rest'⟩, -, heq⟩ := bind_eq_ok_iff.mp h
      cases heq
      exact ⟨push_outer .., push_flags ..⟩
  all_goals
    cases h
    exact ⟨push_outer .., push_flags ..⟩

/-- A quantifier adds an item, and takes at most its two marks besides what is skipped. -/
theorem quantify_ok {e : Expr} {lo : Nat} {hi : Option Nat}
    (h : r.quantify e lo hi cs = .ok (s, rest)) :
    ∃ item ds, s = { r with level := r.level.add item, pending := none } ∧
      r.skip cs = .ok ds ∧ Skims ds rest := by
  unfold Reader.quantify at h
  split at h
  next => cases h
  next =>
    split at h
    next => cases h
    next =>
      obtain ⟨ds, hds, h⟩ := bind_eq_ok_iff.mp h
      split at h
      next _ isLazy ds' hlazy =>
        have hquestion : Skims ds ds' := by
          split at hlazy
          next =>
            obtain ⟨-, rfl⟩ := Prod.mk.inj hlazy
            exact .cons (by decide) (.refl _)
          next =>
            obtain ⟨-, rfl⟩ := Prod.mk.inj hlazy
            exact .refl _
        dsimp only at h
        split at h
        next =>
          cases h
          exact ⟨_, ds, rfl, hds, hquestion.trans (.cons (by decide) (.refl _))⟩
        next =>
          cases h
          exact ⟨_, ds, rfl, hds, hquestion⟩

/-! ## What one step passes -/

/-- From one character on, a step of the reader passes what closes as many parentheses as the step
does. -/
structure Passes (spaced : Prop) (r : Reader) (c : Char) (cs : List Char) (s : Reader)
    (rest : List Char) : Prop where
  taken : ∃ front, cs = front ++ rest ∧
    ∀ tail, Unwinds s.outer.length tail → Unwinds r.outer.length (c :: (front ++ tail))
  contained : BalancedParts spaced rest
  flags : SpacedOnlyIf spaced s

section Steps

variable {c : Char} {len : Nat}

/-- A step that neither opens nor closes anything. -/
theorem passes_of_balanced {front : List Char} (hfront : Balanced (c :: front))
    (hcontained : BalancedParts spaced rest) (hr : SpacedOnlyIf spaced r)
    (houter : s.outer = r.outer) (hflags : s.flags = r.flags) :
    Passes spaced r c (front ++ rest) s rest := by
  refine ⟨⟨front, rfl, fun tail htail => ?_⟩, hcontained, hr.of_same houter hflags⟩
  rw [houter] at htail
  exact htail.prepend hfront

/-- A step that opens a level. -/
theorem passes_of_opened {o : Opening} {around : Level} (hcs : Crosses spaced cs rest)
    (houter : s.outer = (o, around) :: r.outer) (hs : SpacedOnlyIf spaced s) :
    Passes spaced r '(' cs s rest := by
  obtain ⟨front, rfl, hfront, hcontained⟩ := hcs
  refine ⟨⟨front, rfl, fun tail htail => ?_⟩, hcontained, hs⟩
  rw [houter] at htail
  exact Unwinds.openParen (htail.prepend hfront)

/-- A step from one parenthesis to another that closes it. -/
theorem passes_of_pair (hcs : Crosses spaced cs (')' :: rest)) (houter : s.outer = r.outer)
    (hs : SpacedOnlyIf spaced s) : Passes spaced r '(' cs s rest := by
  obtain ⟨front, rfl, hfront, hcontained⟩ := hcs
  refine ⟨⟨front ++ [')'], by simp, fun tail htail => ?_⟩, ?_, hs⟩
  · rw [houter] at htail
    have hpair := htail.prepend (.parens hfront .nil)
    simpa using hpair
  · exact (hcontained.of_char (by decide) (by decide) (fun hpre => by simp at hpre)).2

/-- The flags that a letter sets. -/
theorem set?_spaced {f g : Flags} {on : Bool} (h : f.set? c on = some g) :
    c ∈ flagLetters ∧ (g.spaced = true → f.spaced = true ∨ c = 'x') := by
  unfold Flags.set? at h
  split at h
  case h_6 =>
    split at h
    next =>
      cases h
      exact ⟨by decide, .inl⟩
    next => cases h
  case h_7 => cases h
  all_goals
    cases h
    exact ⟨by decide, by tauto⟩

/-- Flags end at a parenthesis that closes them, or at a colon that opens a level. -/
theorem readFlags_passes {before : Flags} {count : Nat} {negated : Bool} {last : Char}
    (hbefore : before.spaced = true → SetsSpaced body) (hr : SpacedOnlyIf (SetsSpaced body) r)
    (hbehind : BehindFlags body cs)
    (h : r.readFlags before count negated last cs = .ok (s, rest)) :
    SpacedOnlyIf (SetsSpaced body) s ∧ ∃ front, Bare front ∧
      (cs = front ++ ')' :: rest ∧ s.outer = r.outer ∨
        cs = front ++ ':' :: rest ∧ ∃ o around, s.outer = (o, around) :: r.outer) := by
  fun_induction Reader.readFlags before count negated last r cs with
  | case1 => cases h
  | case2 => cases h
  | case3 =>
    cases h
    exact ⟨hr.of_same (push_outer ..) (push_flags ..), [], bare_nil, .inl ⟨rfl, push_outer ..⟩⟩
  | case4 => cases h
  | case5 =>
    obtain ⟨s', hs', heq⟩ := bind_eq_ok_iff.mp h
    cases heq
    obtain ⟨⟨around, houter⟩, hflags⟩ := openLevel_outer hs'
    refine ⟨hr.of_opened houter hflags ?_, [], bare_nil, .inr ⟨rfl, _, around, houter⟩⟩
    exact fun _ heq => Opening.parens.inj heq ▸ hbefore
  | case6 => cases h
  | case7 count negated last r cs _ ih =>
    obtain ⟨hs, front, hfront, hends⟩ := ih hr (hbehind.next (by decide)) h
    refine ⟨hs, '-' :: front, bare_cons.mpr ⟨by decide, hfront⟩, ?_⟩
    rcases hends with ⟨rfl, houter⟩ | ⟨rfl, houter⟩
    · exact .inl ⟨rfl, houter⟩
    · exact .inr ⟨rfl, houter⟩
  | case8 count negated last r c cs _ _ _ flags hset ih =>
    obtain ⟨hletter, hspaced⟩ := set?_spaced hset
    have hflags : flags.spaced = true → SetsSpaced body := fun h => by
      rcases hspaced h with h | rfl
      · exact hr.now h
      · exact ⟨cs, hbehind⟩
    obtain ⟨hs, front, hfront, hends⟩ := ih ⟨hflags, hr.later⟩ (hbehind.next hletter) h
    have hbare : Bare flagLetters := by decide
    refine ⟨hs, c :: front, bare_cons.mpr ⟨hbare c hletter, hfront⟩, ?_⟩
    rcases hends with ⟨rfl, houter⟩ | ⟨rfl, houter⟩
    · exact .inl ⟨rfl, houter⟩
    · exact .inr ⟨rfl, houter⟩
  | case9 => cases h

/-- What follows an opening parenthesis opens a level, or goes on to the parenthesis that closes
it. -/
theorem readOpen_passes (hr : SpacedOnlyIf (SetsSpaced body) r)
    (hcs : BalancedParts (SetsSpaced body) cs) (hsuffix : cs <:+ body)
    (h : r.readOpen cs = .ok (s, rest)) : Passes (SetsSpaced body) r '(' cs s rest := by
  unfold Reader.readOpen at h
  dsimp only at h
  obtain ⟨ds, hskip, h⟩ := bind_eq_ok_iff.mp h
  have hds : Crosses (SetsSpaced body) cs ds := skipBlanks_crosses hr.now hcs hskip
  -- whatever the kind of group, its marks are passed and a level is opened
  have opened : ∀ {o : Opening} {rest' : List Char},
      (do return (← r.openLevel o, rest')) = .ok (s, rest) →
      Crosses (SetsSpaced body) cs rest' → (∀ before, o ≠ .parens before) →
      Passes (SetsSpaced body) r '(' cs s rest := by
    intro o rest' h hcross ho
    obtain ⟨s', hs', heq⟩ := bind_eq_ok_iff.mp h
    cases heq
    obtain ⟨⟨around, houter⟩, hflags⟩ := openLevel_outer hs'
    exact passes_of_opened hcross houter
      (hr.of_opened houter hflags fun before h => absurd h (ho before))
  have grouped : ∀ {name : Option (List Char)} {rest' : List Char},
      (do return (← r.openGroup name, rest')) = .ok (s, rest) →
      Crosses (SetsSpaced body) cs rest' → Passes (SetsSpaced body) r '(' cs s rest := by
    intro name rest' h hcross
    obtain ⟨s', hs', heq⟩ := bind_eq_ok_iff.mp h
    cases heq
    obtain ⟨⟨index, around, houter⟩, hflags⟩ := openGroup_outer hs'
    exact passes_of_opened hcross houter (hr.of_opened houter hflags (by rintro _ ⟨⟩))
  have named : ∀ {more : List Char},
      (do let named ← Reader.readName '>' more
          return (← r.openGroup (some named.1), named.2)) = .ok (s, rest) →
      Crosses (SetsSpaced body) cs more → Passes (SetsSpaced body) r '(' cs s rest := by
    intro more h hcross
    obtain ⟨⟨name, rest'⟩, hname, hgroup⟩ := bind_eq_ok_iff.mp h
    obtain ⟨rfl, hbare⟩ := Reader.readName_eq hname
    exact grouped hgroup ((hcross.skims ⟨name, rfl, hbare⟩).next (by decide))
  split at h
  next => exact opened h ((hds.next (by decide)).next (by decide)) (by rintro _ ⟨⟩)
  next => exact opened h ((hds.next (by decide)).next (by decide)) (by rintro _ ⟨⟩)
  next => exact opened h (((hds.next (by decide)).next (by decide)).next (by decide)) (by rintro _ ⟨⟩)
  next => exact opened h (((hds.next (by decide)).next (by decide)).next (by decide)) (by rintro _ ⟨⟩)
  next => exact named h ((hds.next (by decide)).next (by decide))
  next => exact named h (((hds.next (by decide)).next (by decide)).next (by decide))
  next =>
    obtain ⟨name, rfl, hname⟩ := Reader.readBackref_eq h
    obtain ⟨houter, hflags⟩ := readBackref_outer h
    have hmark := ((hds.next (by decide)).next (by decide)).next (by decide)
    exact passes_of_pair (hmark.skims ⟨name, rfl, hname⟩) houter (hr.of_same houter hflags)
  next => exact opened h ((hds.next (by decide)).next (by decide)) (by rintro _ ⟨⟩)
  -- flags: they end the group, or a colon opens one that sets them
  next more _ _ _ _ _ _ _ _ =>
    have hbehind : BehindFlags body more := by
      obtain ⟨front, hfront, -⟩ := hds
      exact ⟨[], by rintro _ ⟨⟩, List.IsSuffix.trans ⟨front, hfront.symm⟩ hsuffix⟩
    have hsettle := hr.of_same (Reader.settle_outer r) (Reader.settle_flags r)
    obtain ⟨hs, front, hfront, hends⟩ := readFlags_passes hr.now hsettle hbehind h
    have hmark := hds.next (by decide)
    rcases hends with ⟨rfl, houter⟩ | ⟨rfl, o, around, houter⟩
    · exact passes_of_pair (hmark.skims ⟨front, rfl, hfront⟩)
        (houter.trans (Reader.settle_outer r)) hs
    · exact passes_of_opened ((hmark.skims ⟨front, rfl, hfront⟩).next (by decide))
        (houter.trans (by rw [Reader.settle_outer])) hs
  next => exact grouped h hds

/-- A closing parenthesis closes a level. -/
theorem closeLevel_passes (hr : SpacedOnlyIf spaced r) (hcs : BalancedParts spaced cs)
    (h : r.closeLevel = .ok s) : Passes spaced r ')' cs s cs := by
  obtain ⟨o, around, outer, houter, -, rfl⟩ := Reader.closeLevel_ok_iff.mp h
  refine ⟨⟨[], rfl, fun tail htail => ?_⟩, hcs, ?_, ?_⟩
  · rw [houter]
    exact ⟨[], tail, rfl, .nil, htail⟩
  · cases o with
    | parens restore => exact hr.later restore around (houter ▸ List.mem_cons_self)
    | group | atomic | look => exact Reader.settle_flags r ▸ hr.now
  · intro before around' hmem
    exact hr.later before around' (houter ▸ List.mem_cons_of_mem _ hmem)

/-- A character that stands for itself or is a mark of its own. -/
theorem passes_of_char (hr : SpacedOnlyIf spaced r) (hc : c ∉ ['\\', '[', '(', ')'])
    (hcs : BalancedParts spaced (c :: cs)) (houter : s.outer = r.outer)
    (hflags : s.flags = r.flags) : Passes spaced r c cs s cs := by
  refine passes_of_balanced (.char hc .nil) (hcs.of_char ?_ ?_ ?_).2 hr houter hflags
  · rintro rfl
    simp at hc
  · rintro rfl
    simp at hc
  · rintro ⟨back, heq⟩
    obtain rfl := (List.cons.inj heq).1
    simp at hc

theorem readItem_passes (hr : SpacedOnlyIf (SetsSpaced body) r)
    (hcs : BalancedParts (SetsSpaced body) (c :: cs)) (hcomment : ¬ ['(', '?', '#'] <+: c :: cs)
    (hsuffix : cs <:+ body) (h : r.readItem len c cs = .ok (s, rest)) :
    Passes (SetsSpaced body) r c cs s rest := by
  unfold Reader.readItem at h
  split at h
  next =>
    cases h
    exact passes_of_char hr (by decide) hcs (push_outer ..) (push_flags ..)
  next =>
    cases h
    exact passes_of_char hr (by decide) hcs (push_outer ..) (push_flags ..)
  next =>
    cases h
    exact passes_of_char hr (by decide) hcs (push_outer ..) (push_flags ..)
  next => exact readOpen_passes hr (hcs.of_char (by decide) (by decide) hcomment).2 hsuffix h
  next =>
    obtain ⟨s', hs', heq⟩ := bind_eq_ok_iff.mp h
    cases heq
    exact closeLevel_passes hr (hcs.of_char (by decide) (by decide) hcomment).2 hs'
  next =>
    cases h
    exact passes_of_char hr (by decide) hcs (Reader.settle_outer r) (Reader.settle_flags r)
  next =>
    obtain ⟨d, more, rfl, front, rfl, hfront⟩ := Reader.readBackslash_skims h
    obtain ⟨houter, hflags⟩ := readBackslash_outer h
    have hcrosses := hcs.of_escaped.skims ⟨front, rfl, hfront⟩
    exact passes_of_balanced (.escaped d (balanced_of_bare hfront)) hcrosses.balancedParts hr
      houter hflags
  next =>
    obtain ⟨⟨items, rest'⟩, hscan, h⟩ := bind_eq_ok_iff.mp h
    obtain ⟨set, -, heq⟩ := bind_eq_ok_iff.mp h
    cases heq
    obtain ⟨text, rfl, htext⟩ := Bracket.scan_class hscan
    obtain ⟨hbalanced, hcontained⟩ := hcs.of_bracketed htext
    exact passes_of_balanced hbalanced hcontained hr (push_outer ..) (push_flags ..)
  next => cases h
  next => cases h
  next => cases h
  next hopen hclose _ hbackslash hbracket _ _ _ =>
    cases h
    refine passes_of_char hr ?_ hcs (push_outer ..) (push_flags ..)
    simp only [List.mem_cons, List.not_mem_nil, or_false, not_or]
    exact ⟨hbackslash, hbracket, hopen, hclose⟩

theorem readQuantifier?_crosses {limits : Nat × Option Nat} (hr : SpacedOnlyIf spaced r)
    (hcs : BalancedParts spaced (c :: cs))
    (h : r.readQuantifier? (c :: cs) = some (limits, rest)) :
    c ∉ ['\\', '[', '(', ')'] ∧ Crosses spaced cs rest := by
  have hbehind : c ∈ ['?', '*', '+', '{'] → Crosses spaced cs cs := fun hc => by
    have hbare : Bare ['?', '*', '+', '{'] := by decide
    exact .refl ((Crosses.refl hcs).next (hbare c hc)).balancedParts
  unfold Reader.readQuantifier? at h
  split at h
  next heq =>
    cases heq
    cases h
    exact ⟨by decide, hbehind (by decide)⟩
  next heq =>
    cases heq
    cases h
    exact ⟨by decide, hbehind (by decide)⟩
  next heq =>
    cases heq
    cases h
    exact ⟨by decide, hbehind (by decide)⟩
  next heq =>
    cases heq
    exact ⟨by decide, readLimits?_crosses hr.now (hbehind (by decide)).balancedParts h⟩
  next => cases h

/-- **One step of the reader** passes a text that closes as many parentheses as the step does. -/
theorem step_passes (hr : SpacedOnlyIf (SetsSpaced body) r)
    (hcs : BalancedParts (SetsSpaced body) (c :: cs)) (hcomment : ¬ ['(', '?', '#'] <+: c :: cs)
    (hsuffix : cs <:+ body) (h : r.step len c cs = .ok (s, rest)) :
    Passes (SetsSpaced body) r c cs s rest := by
  unfold Reader.step at h
  split at h
  next e _ =>
    split at h
    next lo hi ds hlimits =>
      obtain ⟨item, ds', rfl, hskip, hmarks⟩ := quantify_ok h
      obtain ⟨hc, hds⟩ := readQuantifier?_crosses hr hcs hlimits
      have hall := (hds.trans (skipBlanks_crosses hr.now hds.balancedParts hskip)).skims hmarks
      obtain ⟨front, rfl, hfront, hcontained⟩ := hall
      exact passes_of_balanced (.char hc hfront) hcontained hr rfl rfl
    next => exact readItem_passes hr hcs hcomment hsuffix h
  next => exact readItem_passes hr hcs hcomment hsuffix h

end Steps

/-! ## Whole expressions -/

/-- A run of the reader goes through a text that closes all that is open. -/
theorem run_unwinds {len fuel : Nat} (hr : SpacedOnlyIf (SetsSpaced body) r)
    (hcs : BalancedParts (SetsSpaced body) cs) (hsuffix : cs <:+ body) (hfuel : cs.length < fuel)
    (hend : s.outer = []) (h : Reader.run len fuel r cs = .ok s) :
    Unwinds r.outer.length cs := by
  induction fuel generalizing r cs with
  | zero => exact absurd hfuel (Nat.not_lt_zero _)
  | succ fuel ih =>
    rw [Reader.run] at h
    obtain ⟨ds, hskip, hrun⟩ := bind_eq_ok_iff.mp h
    obtain ⟨front, rfl, hfront, hds⟩ := skipBlanks_crosses hr.now hcs hskip
    refine Unwinds.prepend hfront ?_
    split at hrun
    next =>
      cases hrun
      rw [hend]
      exact Balanced.nil
    next c ds =>
      obtain ⟨⟨t, rest⟩, hstep, hmore⟩ := bind_eq_ok_iff.mp hrun
      have hds' : ds <:+ body :=
        List.IsSuffix.trans ⟨front ++ [c], by simp⟩ hsuffix
      have hcomment : ¬ ['(', '?', '#'] <+: c :: ds := by
        rintro ⟨back, heq⟩
        exact not_comment_of_skipBlanks (heq ▸ hskip)
      obtain ⟨⟨taken, rfl, htaken⟩, hrest, ht⟩ := step_passes hr hds hcomment hds' hstep
      refine htaken rest (ih ht hrest (List.IsSuffix.trans ⟨taken, rfl⟩ hds') ?_ hmore)
      simp only [List.length_append, List.length_cons] at hfuel
      omega

/-- **An expression that can be read is balanced**, if its classes and comments are. -/
theorem balanced_of_parse {source : Source} (hbody : BalancedParts (SetsSpaced body) body)
    (h : parse body = .ok source) : Balanced body := by
  obtain ⟨r, hrun, hfinish⟩ := bind_eq_ok_iff.mp h
  refine run_unwinds (r := {}) ⟨nofun, nofun⟩ hbody (List.suffix_refl _) (Nat.lt_succ_self _) ?_ hrun
  exact (Reader.finish_ok_iff.mp hfinish).1

/-! ## Taking a body whole -/

/-- A raw expression is one token exactly if its body is balanced. -/
theorem extract_raw_iff :
    extract (rawOpening ++ body ++ [')']) = .ok [.token (.raw body)] ↔ Balanced body := by
  have hends : Thorough [.token (.raw body)] ↔ Balanced body := by
    rw [thorough_token_cons]
    exact ⟨fun h => isBody_iff.mp h.1, fun h => ⟨isBody_iff.mpr h, thorough_nil⟩⟩
  have htidy : Tidy 0 [.token (.raw body)] :=
    tidy_token_cons.mpr ⟨trivial, nofun, tidy_nil _⟩
  rw [extract_eq_ok_iff, hends]
  refine ⟨fun h => h.2.2, fun h => ⟨?_, htidy, h⟩⟩
  rw [written_token_cons, written_nil, List.append_nil, Token.written]

/-- **Bodies are taken whole** if they can be read as expressions and their classes and comments are
balanced by themselves. -/
theorem body_taken_whole {source : Source} (hreads : parse body = .ok source)
    (hbody : BalancedParts (SetsSpaced body) body) :
    extract (rawOpening ++ body ++ [')']) = .ok [.token (.raw body)] :=
  extract_raw_iff.mpr (balanced_of_parse hbody hreads)

/-- The expression `(\)[(a]|(?#;)b)+`: parentheses behind a backslash, in a class, around a comment
and around all of it. -/
def nestedBody : List Char :=
  ['(', '\\', ')', '[', '(', 'a', ']', '|', '(', '?', '#', ';', ')', 'b', ')', '+']

theorem balancedParts_nestedBody (spaced : Prop) : BalancedParts spaced nestedBody := by
  have hback : BalancedParts spaced ['b', ')', '+'] :=
    .char (by decide) (by decide) (by decide) nofun <|
      .char (by decide) (by decide) (by decide) nofun <|
        .char (by decide) (by decide) (by decide) nofun .nil
  have hcomment : BalancedParts spaced ('(' :: '?' :: '#' :: ([';', ')'] ++ ['b', ')', '+'])) := by
    refine .comment (.char (by decide) .close) ?_ hback
    show Balanced ('(' :: (['?', '#', ';'] ++ ')' :: []))
    exact .parens (.char (by decide) (.char (by decide) (.char (by decide) .nil))) .nil
  have hclass : BalancedParts spaced ('[' :: (['(', 'a', ']'] ++ '|' ::
      ['(', '?', '#', ';', ')', 'b', ')', '+'])) := by
    refine .bracketed (.plain (by decide) (by decide) ?_) ?_
      (.char (by decide) (by decide) (by decide) nofun hcomment)
    · exact .char (by decide) (.char (by decide) .close)
    · show Balanced ('[' :: (['(', 'a', ']'] ++ []))
      exact .bracketed (.char (by decide) (by decide) (.char (by decide) (by decide) .close)) .nil
  exact .char (by decide) (by decide) (by decide) nofun (.escaped ')' hclass)

theorem body_taken_whole_nested :
    ∃ source, parse nestedBody = .ok source ∧
      BalancedParts (SetsSpaced nestedBody) nestedBody ∧
      extract (rawOpening ++ nestedBody ++ [')']) = .ok [.token (.raw nestedBody)] := by
  have hreads : (parse nestedBody).isOk = true := by decide +kernel
  cases hparse : parse nestedBody with
  | error =>
    rw [hparse] at hreads
    cases hreads
  | ok source =>
    have hcontained := balancedParts_nestedBody (SetsSpaced nestedBody)
    exact ⟨source, rfl, hcontained, body_taken_whole hparse hcontained⟩

/-- A closing bracket that comes first in a class is a member of the class, but ends it here: the
expression is cut short. -/
example : (parse "[])]".toList).isOk = true ∧
    extract "REGEX([])])".toList = .ok [.token (.raw "[]".toList), .text "])".toList] := by
  decide +kernel

end CodeShape.Pattern
