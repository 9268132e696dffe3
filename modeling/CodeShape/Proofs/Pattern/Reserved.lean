import CodeShape.Proofs.Pattern.Preference
import CodeShape.Proofs.Pattern.Repetition

/-!
# Variables and reserved words

The expression of a variable looks ahead for reserved words only where the variable begins, and only
for whole words. What goes on behind a reserved word makes it the beginning of an identifier like any
other, and a variable may end anywhere in its identifier. So a variable that stands for a reserved
word is never the whole identifier, and it is as long as the rest of the pattern lets it be
(`names_not_whole_words`). But it can be the beginning of an identifier if something in the pattern
stands for the rest (`reserved_beginning`).
-/

namespace CodeShape.Pattern

open Regex (Occurs)
open Grammar (IsName NotContinued NotPreceded isWordChar keywords literalKeywords)

/-- What a split has as a variable between other parts: an identifier that begins where none ends. If
it is a reserved word, an identifier goes on behind it. It reaches as far as it can, in that the text
cannot be split with a longer variable there and the parts before it unchanged. -/
structure NamedAt (text : Array Char) (i : Nat) (pre : List Part) (p : Part) (post : List Part)
    (v : String) : Prop where
  isVariable : ∃ id, p.segment = .token (.variable id)
  occurs : Occurs text v.toList p.start p.stop
  isName : IsName v.toList
  notPreceded : NotPreceded text p.start
  reserved : v ∈ keywords ++ literalKeywords → ∃ c, text[p.stop]? = some c ∧ isWordChar c = true
  longest : ∀ stop more k b, p.stop < stop → more.map (·.segment) = post.map (·.segment) →
    ¬ Splits text [] i (pre ++ ⟨p.segment, p.start, stop⟩ :: more) k b

/-- Where a variable stands for a reserved word, an identifier goes on behind it. -/
theorem continued_of_reserved {text : Array Char} {w : String} {i j : Nat}
    (h : Grammar.Variable text i j) (hw : w ∈ keywords ++ literalKeywords)
    (hocc : Occurs text w.toList i j) : ∃ c, text[j]? = some c ∧ isWordChar c = true := by
  obtain ⟨-, hfree, -⟩ := h
  by_contra hnone
  have hnot : NotContinued text j := by
    intro c hc
    by_contra hword
    exact hnone ⟨c, hc, eq_true_of_ne_false hword⟩
  exact hfree j ⟨⟨w, hw, hocc⟩, hnot⟩

/-- What the variables of a split are listed to stand for, they stand for at their first uses. -/
theorem Splits.first_of_name {text : Array Char} {i k : Nat} {ps : List Part} {b : Bindings}
    (h : Splits text [] i ps k b) {v : String} (hv : v ∈ (MatchResult.classify b.texts).names) :
    ∃ p ∈ ps, (∃ id, p.segment = .token (.variable id)) ∧
      Grammar.Variable text p.start p.stop ∧ Occurs text v.toList p.start p.stop := by
  change v ∈ (MatchResult.classify b.texts).get .variable at hv
  obtain ⟨p, hp, t, id, hseg, hkey, hstands, hocc⟩ := h.first_of_text hv
  obtain rfl := Token.eq_variable hkey
  exact ⟨p, hp, ⟨id, hseg⟩, hstands, hocc⟩

/-! ## A variable before the rest of an identifier

The pattern `$a View` and the text `newView`, where the variable is only the beginning of an
identifier. -/

/-- The pieces of `$a View`. -/
def suffixPieces : List Piece :=
  [.token (.variable (.named ['a'])), .text " View".toList]

theorem extract_suffix : extract "$a View".toList = .ok suffixPieces := by decide +kernel

theorem plain_suffix : PlainPieces suffixPieces := by
  intro body h
  simp [suffixPieces] at h

theorem layout_suffix : layout (normalize suffixPieces)
    = [.token (.variable (.named ['a'])), .space, .text "View".toList] := by decide +kernel

set_option maxRecDepth 10000 in
theorem run_suffix :
    (matcherOf "$a View".toList
        [.token (.variable (.named ['a'])), .space, .text "View".toList] {}).map
      (·.findAll (.ofString "newView")) = .ok [{ names := ["new"] }] := by cbv

theorem findAll_suffix : ∃ m, Matcher.compile "$a View".toList {} = .ok m ∧
    m.findAll (.ofString "newView") = [{ names := ["new"] }] := by
  have hrun := run_suffix
  rw [← layout_suffix] at hrun
  exact exists_compile_of_run extract_suffix plain_suffix hrun

/-! ## What is reported -/

section Reported

variable {pattern : List Char} {pieces : List Piece} {limits : Limits} {m : Matcher}

/-- **No variable is a reserved word as a whole.** Every match is a split, and what its variables are
listed to stand for are identifiers that stand at their parts of it, none of them where an identifier
ends. One of these is a reserved word only if an identifier character comes right behind it, and only
if nothing longer would let the rest of the pattern match. -/
theorem names_not_whole_words (hextract : extract pattern = .ok pieces)
    (hplain : PlainPieces pieces) (hm : Matcher.compile pattern limits = .ok m) (text : String)
    {f : Regex.Match} (hf : f ∈ (m.scan (.ofString text)).found) :
    ∃ ps b, ps.map (·.segment) = layout (normalize pieces) ∧
      Splits text.toList.toArray [] f.start ps f.stop b ∧
      ∀ v ∈ (m.classify (.ofString text) f).names, ∃ pre p post, ps = pre ++ p :: post ∧
        NamedAt text.toList.toArray f.start pre p post v := by
  obtain ⟨ps, b, hps, hsplits, hpreferred, hclassify⟩ :=
    preferred_of_found hextract hplain hm (.ofString text) hf
  refine ⟨ps, b, hps, hsplits, fun v hv => ?_⟩
  rw [hclassify] at hv
  obtain ⟨p, hp, ⟨id, hseg⟩, hvariable, hocc⟩ := hsplits.first_of_name hv
  obtain ⟨pre, post, rfl⟩ := List.append_of_mem hp
  obtain ⟨cs, hcs, hname⟩ := hvariable.2.2
  have hlonger {stop : Nat} (hstop : p.stop < stop) : p.segment.Prefers stop p.stop := by
    rw [hseg]
    exact hstop
  exact ⟨pre, p, post, rfl, ⟨id, hseg⟩, hocc, hocc.chars_eq hcs ▸ hname, hvariable.1,
    fun hreserved => continued_of_reserved hvariable hreserved hocc,
    fun stop more k b' hstop hmore =>
      hpreferred pre p post rfl _ more k b' rfl hmore (hlonger hstop)⟩

end Reported

theorem names_not_whole_words_suffix :
    ∃ m f, Matcher.compile "$a View".toList {} = .ok m ∧
      f ∈ (m.scan (.ofString "newView")).found ∧
      (m.classify (.ofString "newView") f).names = ["new"] ∧
      ∃ ps b, ps.map (·.segment) = layout (normalize suffixPieces) ∧
        Splits "newView".toList.toArray [] f.start ps f.stop b ∧
        ∀ v ∈ (m.classify (.ofString "newView") f).names, ∃ pre p post, ps = pre ++ p :: post ∧
          NamedAt "newView".toList.toArray f.start pre p post v := by
  obtain ⟨m, hm, hall⟩ := findAll_suffix
  obtain ⟨f, fs, hfound, hresult, -⟩ := List.map_eq_cons_iff.mp hall
  have hf : f ∈ (m.scan (.ofString "newView")).found := by
    rw [hfound]
    exact List.mem_cons_self
  exact ⟨m, f, hm, hf, by rw [hresult],
    names_not_whole_words extract_suffix plain_suffix hm "newView" hf⟩

/-- In `newView` the variable of `$a View` stands for `new`. -/
theorem reserved_beginning :
    ∃ m result, extract "$a View".toList = .ok suffixPieces ∧ PlainPieces suffixPieces ∧
      Matcher.compile "$a View".toList {} = .ok m ∧ result ∈ m.findAll (.ofString "newView") ∧
      "new" ∈ result.names ∧ "new" ∈ keywords := by
  obtain ⟨m, hm, hall⟩ := findAll_suffix
  refine ⟨m, { names := ["new"] }, extract_suffix, plain_suffix, hm, ?_, ?_, by decide⟩
  · rw [hall]
    exact List.mem_singleton.mpr rfl
  · exact List.mem_singleton.mpr rfl

end CodeShape.Pattern
