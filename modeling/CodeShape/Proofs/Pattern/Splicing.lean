import CodeShape.Proofs.Pattern.PlainCode
import CodeShape.Proofs.Pattern.Reserved

/-!
# Patterns made of matched names

What a variable stood for may be put into a new pattern as it stands, to look for that very name
again. The new pattern reads it as plain text unless a token begins in it (`extract_text_iff`). A
variable may hold `$`, and a token begins with one: so the name stays what it is only as long as each
`$` in it comes last or before an underscore (`spliced_names`), and a name such as `$foo` becomes a
variable of the new pattern (`spliced_dollar`).
-/

namespace CodeShape.Pattern

open Grammar (IsName)

variable {cs : List Char}

/-- The pattern for what is assigned to the display name of a component. -/
def displayNameOf (name : String) : List Char :=
  name.toList ++ ".displayName =".toList

/-- Somewhere in a text a token begins. -/
def HasToken (cs : List Char) : Prop :=
  ∃ front back, cs = front ++ back ∧ OpensToken back

theorem OpensToken.ne_nil (h : OpensToken cs) : cs ≠ [] := by
  rintro rfl
  rcases h with h | ⟨c, rest, h, -⟩
  · exact absurd (List.prefix_nil.mp h) (by decide)
  · exact List.cons_ne_nil _ _ h.symm

/-- A text is read as plain text just if no token begins in it. -/
theorem extract_text_iff (hne : cs ≠ []) : extract cs = .ok [.text cs] ↔ ¬ HasToken cs := by
  rw [extract_eq_ok_iff]
  constructor
  · rintro ⟨-, -, hthorough⟩ ⟨front, back, hcs, hopens⟩
    refine hthorough.texts [] cs [] rfl front back hcs hopens.ne_nil ?_
    rwa [written_nil, List.append_nil]
  · intro hnone
    refine ⟨List.append_nil cs, tidy_text_cons.mpr ⟨hne, by simp, tidy_nil 0⟩,
      thorough_text_cons.mpr ⟨?_, thorough_nil⟩⟩
    rintro front back hcs - hopens
    rw [written_nil, List.append_nil] at hopens
    exact hnone ⟨front, back, hcs, hopens⟩

/-! ## A name with something behind it -/

/-- No token that begins before a dot needs what comes behind it. -/
theorem OpensToken.of_dot {rest : List Char} (h : OpensToken (cs ++ '.' :: rest)) (hne : cs ≠ []) :
    OpensToken cs := by
  rcases h with ⟨behind, h⟩ | ⟨c, behind, h, hc⟩
  · rcases List.append_eq_append_iff.mp h with ⟨back, h, -⟩ | ⟨back, h, hback⟩
    · exact .inl ⟨back, h.symm⟩
    · cases back with
      | nil => exact .inl ⟨[], by rw [h, List.append_nil, List.append_nil]⟩
      | cons d back =>
        obtain rfl : '.' = d := (List.cons.inj hback).1
        have hdot : '.' ∈ rawOpening := by rw [h]; simp
        exact absurd hdot (by decide)
  · obtain ⟨d, cs, rfl⟩ := List.exists_cons_of_ne_nil hne
    obtain ⟨rfl, hbehind⟩ := List.cons.inj h
    cases cs with
    | nil =>
      obtain rfl : '.' = c := (List.cons.inj hbehind).1
      exact absurd hc (by decide)
    | cons e cs =>
      obtain rfl : e = c := (List.cons.inj hbehind).1
      exact .inr ⟨e, cs, rfl, hc⟩

/-- The rest of the derived pattern brings no token, so any that it has begins in the name. -/
theorem hasToken_displayNameOf_iff (name : String) :
    HasToken (displayNameOf name) ↔ HasToken name.toList := by
  constructor
  · rintro ⟨front, back, h, hopens⟩
    have hrest : ¬ HasToken ".displayName =".toList :=
      (extract_text_iff (by decide)).mp (by cbv)
    rcases List.append_eq_append_iff.mp h with ⟨behind, -, hback⟩ | ⟨behind, hname, rfl⟩
    · exact absurd ⟨behind, back, hback, hopens⟩ hrest
    · by_cases hbehind : behind = []
      · rw [hbehind] at hopens
        exact absurd ⟨[], _, rfl, hopens⟩ hrest
      · exact ⟨front, behind, hname, hopens.of_dot hbehind⟩
  · rintro ⟨front, back, h, hopens⟩
    exact ⟨front, back ++ ".displayName =".toList, by rw [displayNameOf, h, List.append_assoc],
      hopens.append _⟩

theorem displayNameOf_ne_nil (name : String) : displayNameOf name ≠ [] := by
  simp [displayNameOf]

theorem isIdentifierChar_of_isName (h : IsName cs) : ∀ c ∈ cs, isIdentifierChar c = true := by
  obtain ⟨first, rest, rfl, hfirst, hrest⟩ := h
  exact List.forall_mem_cons.mpr ⟨Grammar.isIdentifierChar_of_isIdentifierStart hfirst, hrest⟩

/-- Of the tokens, an identifier can only hold those that begin with `$`, and it does unless an
underscore comes next. -/
theorem hasToken_iff_of_isName (h : IsName cs) :
    HasToken cs ↔ ∃ front c back, cs = front ++ '$' :: c :: back ∧ c ≠ '_' := by
  have hchars := isIdentifierChar_of_isName h
  constructor
  · rintro ⟨front, back, rfl, hraw | ⟨c, back, rfl, hc⟩⟩
    · have hparen : '(' ∈ front ++ back :=
        List.mem_append_right _ (hraw.subset (by decide : '(' ∈ rawOpening))
      exact absurd (hchars _ hparen) (by decide)
    · refine ⟨front, c, back, rfl, ?_⟩
      rintro rfl
      exact absurd hc (by decide)
  · rintro ⟨front, c, back, rfl, hc⟩
    refine ⟨front, _, rfl, .inr ⟨c, back, rfl, ?_⟩⟩
    have hchar := hchars c (by simp)
    simp only [isIdentifierChar, Char.isAlphanum, Bool.or_eq_true, beq_iff_eq] at hchar
    rcases hchar with ((hchar | hchar) | rfl) | rfl
    · exact .inr (.inl hchar)
    · exact .inr (.inr hchar)
    · exact .inl List.mem_cons_self
    · exact absurd rfl hc

/-! ## The derived pattern -/

section Reported

variable {pattern : List Char} {pieces : List Piece} {limits : Limits} {m : Matcher}

/-- What a variable stands for is an identifier. -/
theorem isName_of_mem_names (hextract : extract pattern = .ok pieces) (hplain : PlainPieces pieces)
    (hm : Matcher.compile pattern limits = .ok m) (text : Text) {result : MatchResult}
    (hresult : result ∈ m.findAll text) {name : String} (hname : name ∈ result.names) :
    IsName name.toList := by
  obtain ⟨f, hf, rfl⟩ := List.mem_map.mp hresult
  obtain ⟨ps, b, -, hsplits, hclassify⟩ := splits_of_found hextract hplain hm text hf
  rw [hclassify] at hname
  obtain ⟨p, -, -, hvariable, hocc⟩ := hsplits.first_of_name hname
  obtain ⟨cs, hcs, hshape⟩ := hvariable.2.2
  exact hocc.chars_eq hcs ▸ hshape

/-- **A name is found again as long as no token begins in it.** A pattern that is made of what a
variable stood for is plain text just if no token begins in the name; in an identifier one begins at
each `$` that does not come last and has no underscore behind it. As plain text, the pattern finds
nothing but its own characters, up to blanks. -/
theorem spliced_names (hextract : extract pattern = .ok pieces)
    (hm : Matcher.compile pattern limits = .ok m) (text : String) {result : MatchResult}
    (hresult : result ∈ m.findAll (.ofString text)) :
    ∀ name ∈ result.names,
      (extract (displayNameOf name) = .ok [.text (displayNameOf name)] ↔
        ¬ HasToken name.toList) ∧
      (PlainPieces pieces →
        (HasToken name.toList ↔
          ∃ front c back, name.toList = front ++ '$' :: c :: back ∧ c ≠ '_')) ∧
      (¬ HasToken name.toList → ∀ limits' m',
        Matcher.compile (displayNameOf name) limits' = .ok m' →
        ∀ other, ∀ span ∈ m'.spans (.ofString other),
          ink span.text.toList = ink (displayNameOf name)) := by
  intro name hname
  have hiff : extract (displayNameOf name) = .ok [.text (displayNameOf name)] ↔
      ¬ HasToken name.toList := by
    rw [extract_text_iff (displayNameOf_ne_nil name), hasToken_displayNameOf_iff]
  refine ⟨hiff, fun hplain => ?_, fun hnone limits' m' hm' other span hspan => ?_⟩
  · exact hasToken_iff_of_isName
      (isName_of_mem_names hextract hplain hm (.ofString text) hresult hname)
  · obtain ⟨f, hf, rfl⟩ := List.mem_map.mp hspan
    have htokens : ∀ t, Piece.token t ∉ [Piece.text (displayNameOf name)] := by simp
    obtain ⟨part, -, hfits, hpart⟩ := fits_of_found (hiff.mpr hnone) htokens hm' other hf
    rw [hpart]
    exact ink_eq_of_fits hfits

end Reported

/-! ## Names with a dollar sign -/

/-- The pieces of `$a`. -/
def variablePieces : List Piece :=
  [.token (.variable (.named ['a']))]

theorem extract_variable : extract "$a".toList = .ok variablePieces := by cbv

theorem plain_variable : PlainPieces variablePieces := by
  intro body h
  simp [variablePieces] at h

theorem layout_variable :
    layout (normalize variablePieces) = [.token (.variable (.named ['a']))] := by decide

set_option maxRecDepth 10000 in
theorem run_variable :
    (matcherOf "$a".toList [.token (.variable (.named ['a']))] {}).map
      (fun m => (m.findAll (.ofString "$foo"), m.findAll (.ofString "a$_b$"))) =
        .ok ([{ names := ["$foo"] }], [{ names := ["a$_b$"] }]) := by cbv

theorem findAll_variable : ∃ m, Matcher.compile "$a".toList {} = .ok m ∧
    m.findAll (.ofString "$foo") = [{ names := ["$foo"] }] ∧
    m.findAll (.ofString "a$_b$") = [{ names := ["a$_b$"] }] := by
  have hrun := run_variable
  rw [← layout_variable] at hrun
  obtain ⟨m, hm, h⟩ := exists_compile_of_run extract_variable plain_variable hrun
  exact ⟨m, hm, (Prod.mk.inj h).1, (Prod.mk.inj h).2⟩

theorem spliced_names_dollar :
    ∃ m result, Matcher.compile "$a".toList {} = .ok m ∧
      result ∈ m.findAll (.ofString "a$_b$") ∧ result.names = ["a$_b$"] ∧
      ¬ HasToken "a$_b$".toList ∧
      extract "a$_b$.displayName =".toList = .ok [.text "a$_b$.displayName =".toList] ∧
      ∀ limits' m', Matcher.compile (displayNameOf "a$_b$") limits' = .ok m' →
        ∀ other, ∀ span ∈ m'.spans (.ofString other),
          ink span.text.toList = "a$_b$.displayName=".toList := by
  obtain ⟨m, hm, -, hall⟩ := findAll_variable
  have hmem : ({ names := ["a$_b$"] } : MatchResult) ∈ m.findAll (.ofString "a$_b$") := by
    rw [hall]
    exact List.mem_singleton.mpr rfl
  obtain ⟨hiff, -, hspans⟩ := spliced_names extract_variable hm "a$_b$" hmem "a$_b$"
    List.mem_cons_self
  have htext : extract (displayNameOf "a$_b$") = .ok [.text (displayNameOf "a$_b$")] :=
    by decide +kernel
  have hnone := hiff.mp htext
  have hink : ink (displayNameOf "a$_b$") = "a$_b$.displayName=".toList := by decide +kernel
  exact ⟨m, _, hm, hmem, rfl, hnone, htext, fun limits' m' hm' other span hspan =>
    (hspans hnone limits' m' hm' other span hspan).trans hink⟩

/-- In `$foo` the variable of `$a` stands for `$foo`, which is a variable of the pattern made of
it. -/
theorem spliced_dollar :
    ∃ m result, Matcher.compile "$a".toList {} = .ok m ∧
      result ∈ m.findAll (.ofString "$foo") ∧ "$foo" ∈ result.names ∧
      extract (displayNameOf "$foo")
        = .ok [.token (.variable (.named "foo".toList)), .text ".displayName =".toList] ∧
      extract (displayNameOf "$foo") ≠ .ok [.text (displayNameOf "$foo")] := by
  obtain ⟨m, hm, hall, -⟩ := findAll_variable
  have hextract : extract (displayNameOf "$foo")
      = .ok [.token (.variable (.named "foo".toList)), .text ".displayName =".toList] :=
        by decide +kernel
  refine ⟨m, { names := ["$foo"] }, hm, ?_, List.mem_cons_self, hextract, ?_⟩
  · rw [hall]
    exact List.mem_singleton.mpr rfl
  · rw [hextract]
    intro h
    cases h

end CodeShape.Pattern
