import Mathlib
import CodeShape.Finding
import CodeShape.Proofs.Pattern.Soundness

/-!
# Matches are places of the text

A raw expression may move the beginning of a match with `\K`, also within a lookaround that gives
the text back afterwards, or to behind the end. Still every match of every matcher lies within the
text and does not begin behind its end (`Searcher.next_bounds`), so that its span begins and ends
between two characters and holds what stands there (`Span.Within`). With it so does every span of a
scan and every finding that is recorded (`matches_within`).
-/

namespace CodeShape.Pattern

open Regex (Cursor Searcher)

/-- A place of a text, in bytes: the span does not begin behind its end, it begins and ends between
two characters of the text, and it holds what stands from there to there. -/
structure Span.Within (span : Span) (text : String) : Prop where
  start_le_stop : span.start ≤ span.stop
  stop_le_size : span.stop ≤ text.utf8ByteSize
  start_isValid : String.Pos.Raw.IsValid text ⟨span.start⟩
  stop_isValid : String.Pos.Raw.IsValid text ⟨span.stop⟩
  stands : ∃ front back, text = front ++ span.text ++ back ∧ front.utf8ByteSize = span.start ∧
    (front ++ span.text).utf8ByteSize = span.stop

/-- What covers some characters is a place of the text. -/
theorem Span.Covers.within {span : Span} {text : String} {i j : Nat} (h : span.Covers text i j) :
    span.Within text := by
  obtain ⟨front, back, htext, rfl, -⟩ := Regex.occurs_toArray_iff.mp h.chars
  have hparts : text = String.ofList front ++ span.text ++ String.ofList back := by
    refine String.toList_injective ?_
    rw [String.toList_append, String.toList_append, String.toList_ofList, String.toList_ofList,
      List.append_assoc, htext]
  have hstart : span.start = (String.ofList front).utf8ByteSize := by
    rw [h.start, bytesBefore_append htext]
  have hstop : span.stop = (String.ofList front ++ span.text).utf8ByteSize := by
    rw [h.stop, bytesBefore_of_occurs h.chars, bytesBefore_append htext, String.ofList_toList,
      String.utf8ByteSize_append]
  refine ⟨?_, ?_, ?_, ?_, String.ofList front, String.ofList back, hparts, hstart.symm, hstop.symm⟩
  · rw [hstart, hstop, String.utf8ByteSize_append]
    exact Nat.le_add_right _ _
  · rw [hstop, hparts, String.utf8ByteSize_append (t := String.ofList back)]
    exact Nat.le_add_right _ _
  · rw [hstart]
    exact String.Pos.Raw.isValid_iff_exists_append.mpr
      ⟨String.ofList front, span.text ++ String.ofList back, by rw [hparts, String.append_assoc], rfl⟩
  · rw [hstop]
    exact String.Pos.Raw.isValid_iff_exists_append.mpr ⟨_, String.ofList back, hparts, rfl⟩

variable {m : Matcher} {limits : Limits}

/-- The span of what comes next is a place of the text. -/
theorem within_of_next (hmethod : ∃ e, Regex.Method.ofExpr e = .ok m.searcher.method)
    (text : String) {budget : Nat} {c c' : Cursor} {f : Regex.Match}
    (h : m.searcher.next budget (Text.ofString text).chars c = (.found f, c')) :
    f.start ≤ f.stop ∧ f.stop ≤ text.toList.length ∧
      (Matcher.spanOf (.ofString text) f).Within text := by
  obtain ⟨e, hmethod⟩ := hmethod
  obtain ⟨hle, -, hsize⟩ := Searcher.next_bounds hmethod h
  exact ⟨hle, hsize, (covers_spanOf text hle hsize).within⟩

/-- **Matches are places of the text**, whatever raw expressions the pattern has. Each match that a
scan may come upon, wherever its cursor stands, begins and ends within the text, and not behind its
end. So every span is a place of the text, and what is recorded for a file is recorded for such a
place of it. -/
theorem matches_within {source : List Char}
    (hm : Matcher.compile source limits = .ok m ∨ Matcher.literal source limits = .ok m)
    (text : String) :
    (∀ c c' f, m.searcher.next limits.backtrackLimit (Text.ofString text).chars c = (.found f, c') →
        f.start ≤ f.stop ∧ f.stop ≤ text.toList.length ∧
          (Matcher.spanOf (.ofString text) f).Within text) ∧
      (∀ span ∈ m.spans (.ofString text), span.Within text) ∧
      ∀ collector : Collector, collector.text = .ofString text → ∀ message severity,
        ∀ finding ∈ (collector.record m message severity).findings,
          finding ∈ collector.findings ∨ ∃ span : Span, span.Within text ∧
            finding = collector.findingAt message severity span := by
  obtain ⟨expr, captures, hbuild⟩ := build_of_compiled hm
  obtain ⟨rfl, hmethod⟩ := of_build hbuild
  have hspans : ∀ span ∈ m.spans (.ofString text), span.Within text := by
    intro span hspan
    obtain ⟨f, hf, rfl⟩ := List.mem_map.mp hspan
    rcases next_of_mem_scanFrom m _ hf with hnil | ⟨c, c', hnext⟩
    · exact absurd hnil List.not_mem_nil
    · exact (within_of_next hmethod text hnext).2.2
  refine ⟨fun c c' f hnext => within_of_next hmethod text hnext, hspans, ?_⟩
  intro collector htext message severity finding hfinding
  rcases List.mem_append.mp hfinding with hold | hnew
  · exact .inl hold
  · obtain ⟨span, hspan, rfl⟩ := List.mem_map.mp hnew
    rw [htext] at hspan
    exact .inr ⟨span, hspans span hspan, rfl⟩

/-- The lookahead moves the beginning of the match behind its end. -/
theorem matches_within_kept :
    ∃ m, Matcher.compile "REGEX((?=é.\\K)é)".toList {} = .ok m ∧
      m.spans (.ofString "éa") = [⟨2, 2, ""⟩] ∧
      (∀ c c' f, m.searcher.next 1000000 (Text.ofString "éa").chars c = (.found f, c') →
        f.start ≤ f.stop ∧ f.stop ≤ "éa".toList.length ∧
          (Matcher.spanOf (.ofString "éa") f).Within "éa") ∧
      (∀ span ∈ m.spans (.ofString "éa"), span.Within "éa") ∧
      ∀ collector : Collector, collector.text = .ofString "éa" → ∀ message severity,
        ∀ finding ∈ (collector.record m message severity).findings,
          finding ∈ collector.findings ∨ ∃ span : Span, span.Within "éa" ∧
            finding = collector.findingAt message severity span := by
  have hrun : (Matcher.compile "REGEX((?=é.\\K)é)".toList {}).map (·.spans (.ofString "éa"))
      = .ok [⟨2, 2, ""⟩] := by cbv
  obtain ⟨m, hm, hspans⟩ := map_eq_ok_iff.mp hrun
  exact ⟨m, hm, hspans, matches_within (.inl hm) "éa"⟩

end CodeShape.Pattern
