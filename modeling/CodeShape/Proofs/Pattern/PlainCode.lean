import CodeShape.Proofs.Pattern.Extraction
import CodeShape.Proofs.Pattern.Layout
import CodeShape.Proofs.Pattern.PlainText
import CodeShape.Proofs.Pattern.Soundness

/-!
# Patterns without placeholders

A pattern that is nothing but code is searched for as it stands, up to blanks. It has one segment
for each run of characters and for each gap, so that only its length can keep it from being compiled
(`compile_plain_iff`), and an automaton looks for it, without any budget. It is found in itself,
from its first character to its last one, and what is found in any text has the characters of the
pattern and no blanks at its ends (`plain_code`).
-/

namespace CodeShape.Pattern

open Regex (Expr Occurs)
open Regex.Automaton (leafCount)

variable {pattern cs : List Char} {pieces : List Piece} {limits : Limits} {m : Matcher}
  {segs : List Segment}

/-! ## Pieces -/

/-- The pieces of a text without tokens. -/
def plainPieces (cs : List Char) : List Piece :=
  if cs = [] then [] else [.text cs]

/-- A text in which there is no token is one piece. -/
theorem eq_plainPieces (h : extract cs = .ok pieces) (hnone : ∀ t, .token t ∉ pieces) :
    pieces = plainPieces cs := by
  obtain ⟨rfl, htidy, -⟩ := extract_eq_ok_iff.mp h
  match pieces with
  | [] => rfl
  | .token t :: _ => exact absurd List.mem_cons_self (hnone t)
  | .text _ :: .token t :: _ =>
    exact absurd (List.mem_cons_of_mem _ List.mem_cons_self) (hnone t)
  | .text _ :: .text _ :: _ =>
    exact absurd trivial ((tidy_text_cons.mp htidy).2.1 _ rfl)
  | [.text ds] =>
    rw [written_text_cons, written_nil, List.append_nil, plainPieces,
      if_neg (tidy_text_cons.mp htidy).1]

theorem token_not_mem_plainPieces (cs : List Char) (t : Token) : .token t ∉ plainPieces cs := by
  unfold plainPieces
  split
  · exact List.not_mem_nil
  · intro h
    cases List.mem_singleton.mp h

theorem normalize_plainPieces (cs : List Char) :
    normalize (plainPieces cs) = splitBlanks (pad cs) := by
  unfold plainPieces
  split
  next h =>
    rw [h]
    simp [normalize, pad, padWords, splitBlanks]
  next =>
    show splitBlanks (pad cs) ++ [] = _
    rw [List.append_nil]

/-! ## The expression -/

/-- A sequence of expressions with one leaf each has as many leaves as it is long. -/
theorem leafCount_cats {es : List Expr} (h : ∀ e ∈ es, leafCount e = 1) :
    leafCount (Expr.cats es) = es.length := by
  rw [Expr.cats_leafCount, List.map_congr_left h, List.map_const', List.sum_replicate_nat,
    Nat.mul_one]

/-- There is nothing to go back for in the items of plain segments. -/
theorem needsBacktracking_of_fits (h : Fits segs cs) (recalled : List Nat) (c : Captures) :
    (Expr.cats (itemsFrom c segs)).needsBacktracking recalled = false := by
  rw [Expr.cats_needsBacktracking]
  induction h with
  | nil => rfl
  | space _ _ ih =>
    rw [itemsFrom, List.any_append]
    exact ih
  | text quoted _ ih =>
    have hchars :
        (segmentItems c (.text quoted)).any (Expr.needsBacktracking recalled) = false := by
      rw [segmentItems, List.any_map, List.any_eq_false]
      exact fun ch _ => Bool.false_ne_true
    rw [itemsFrom, List.any_append, hchars, Bool.false_or]
    exact ih

/-- Each item of plain segments has one leaf. -/
theorem leafCount_item_of_fits (h : Fits segs cs) (c : Captures) :
    ∀ e ∈ itemsFrom c segs, leafCount e = 1 := by
  induction h with
  | nil => exact fun e he => absurd he List.not_mem_nil
  | space _ _ ih => exact List.forall_mem_cons.mpr ⟨rfl, ih⟩
  | text quoted _ ih =>
    rw [itemsFrom, segmentItems, List.forall_mem_append, List.forall_mem_map]
    exact ⟨fun ch _ => rfl, ih⟩

/-- There is one item for each character and one for each gap. -/
theorem length_itemsFrom_of_fits (h : Fits segs cs) (hrun : ∀ s ∈ segs, s.IsRun) (c : Captures) :
    (itemsFrom c segs).length = (ink cs).length + segs.count .space := by
  induction h with
  | nil => rfl
  | space hblank _ ih =>
    obtain ⟨-, hrest⟩ := List.forall_mem_cons.mp hrun
    rw [itemsFrom, segmentItems, List.length_append, List.length_singleton, ink_append,
      ink_eq_nil.mpr hblank, List.count_cons_self, List.nil_append]
    show 1 + (itemsFrom c _).length = _
    rw [ih hrest]
    omega
  | @text segs cs quoted _ ih =>
    obtain ⟨⟨-, hink⟩, hrest⟩ := List.forall_mem_cons.mp hrun
    have hself : ink (unquote quoted) = unquote quoted := by
      unfold ink
      rw [List.filter_eq_self]
      intro d hd
      rw [hink d hd]
      rfl
    have hne : Segment.text quoted ≠ .space := by rintro ⟨⟩
    rw [itemsFrom, segmentItems, List.length_append, List.length_map, ink_append, hself,
      List.length_append, List.count_cons_of_ne hne]
    show _ + (itemsFrom c segs).length = _
    rw [ih hrest]
    omega

/-! ## Trimmed spans -/

/-- The segments that a text without tokens is searched for by. -/
def plainSegments (cs : List Char) : List Segment :=
  layout (splitBlanks (pad cs))

theorem plainSegments_isRun (cs : List Char) : ∀ s ∈ plainSegments cs, s.IsRun :=
  fun s hs => splitBlanks_isRun _ s (mem_of_mem_layout hs)

theorem token_not_mem_plainSegments (cs : List Char) (t : Token) :
    .token t ∉ plainSegments cs :=
  fun h => plainSegments_isRun cs _ h

/-- What fits the segments of a text has no blanks at its ends. -/
theorem noBlankEnds_of_fits {part : List Char} (h : Fits (plainSegments cs) part) :
    NoBlankEnds part :=
  h.noBlankEnds (plainSegments_isRun cs) (layout_ends _).1 (layout_ends _).2

/-- A text fits its own segments, but for the blanks at its ends. -/
theorem fits_plainSegments (cs : List Char) :
    ∃ lead mid tail, cs = lead ++ (mid ++ tail) ∧ (∀ c ∈ lead, Unicode.isBlank c = true) ∧
      (∀ c ∈ tail, Unicode.isBlank c = true) ∧ Fits (plainSegments cs) mid :=
  (fits_splitBlanks (spacedOut_pad cs)).layout

/-- What fits the segments of a text has its characters. -/
theorem ink_eq_of_fits {part : List Char} (h : Fits (plainSegments cs) part) :
    ink part = ink cs := by
  obtain ⟨lead, mid, tail, rfl, hlead, htail, hmid⟩ := fits_plainSegments cs
  rw [h.ink_eq hmid, ink_append, ink_append, ink_eq_nil.mpr hlead, ink_eq_nil.mpr htail,
    List.append_nil, List.nil_append]

section Plain

variable (hextract : extract pattern = .ok pieces) (hnone : ∀ t, .token t ∉ pieces)

include hextract hnone

theorem plain_of_no_token :
    PlainPieces pieces ∧ layout (normalize pieces) = plainSegments pattern := by
  refine ⟨fun body h => hnone _ h, ?_⟩
  rw [eq_plainPieces hextract hnone, normalize_plainPieces]
  rfl

/-- **Only its length** keeps code from being compiled: its characters and the gaps between them
count. -/
theorem compile_plain_iff :
    (∃ m, Matcher.compile pattern limits = .ok m) ↔
      (ink pattern).length + (layout (normalize pieces)).count .space ≤ Regex.maxLeaves := by
  obtain ⟨hplain, hlayout⟩ := plain_of_no_token hextract hnone
  obtain ⟨lead, mid, tail, -, -, -, hmid⟩ := fits_plainSegments pattern
  have hlength := length_itemsFrom_of_fits hmid (plainSegments_isRun pattern) {}
  rw [ink_eq_of_fits hmid] at hlength
  rw [compile_ok_iff hextract hplain, hlayout, expressionOf,
    leafCount_cats (leafCount_item_of_fits hmid {}), hlength]

/-- What is found in a text fits the segments of the pattern. -/
theorem fits_of_found (hm : Matcher.compile pattern limits = .ok m) (text : String)
    {f : Regex.Match} (hf : f ∈ (m.scan (.ofString text)).found) :
    ∃ part, Occurs text.toList.toArray part f.start f.stop ∧ Fits (plainSegments pattern) part ∧
      (Matcher.spanOf (.ofString text) f).text.toList = part := by
  obtain ⟨hplain, hlayout⟩ := plain_of_no_token hextract hnone
  obtain ⟨ps, b, hps, hsplits, -⟩ := splits_of_found hextract hplain hm (.ofString text) hf
  rw [hlayout] at hps
  obtain ⟨part, hpart, hfits⟩ := hsplits.fits (by
    rw [hps]
    exact token_not_mem_plainSegments pattern)
  rw [hps] at hfits
  have hcovers := covers_spanOf text hsplits.le.1 hsplits.le.2
  exact ⟨part, hpart, hfits, hcovers.chars.chars_eq hpart⟩

/-- The pattern is found in itself, and nothing is found before it. -/
theorem found_in_itself (hm : Matcher.compile pattern limits = .ok m) (hmax : 1 ≤ limits.maxMatches)
    (text : Text) {part : List Char} {i j : Nat} (hpart : Occurs text.chars part i j)
    (hfits : Fits (plainSegments pattern) part) :
    ∃ f, (m.scan text).found.head? = some f ∧ ∀ part i j, Occurs text.chars part i j →
      Fits (plainSegments pattern) part → f.start ≤ i := by
  obtain ⟨hplain, hlayout⟩ := plain_of_no_token hextract hnone
  have hlasts : m.searcher.search limits.backtrackLimit text.chars 0 (some 0) ≠ .exhausted := by
    refine search_ne_exhausted hextract hplain hm ?_ _ _ _ _
    rw [hlayout]
    exact needsBacktracking_of_fits hfits _ _
  obtain ⟨ps, hps, hsplits⟩ := hfits.splits hpart []
  obtain ⟨f, hf, hleast⟩ := first_found hextract hplain hm hmax text hlasts
    ⟨ps, i, j, [], by rw [hps, hlayout], hsplits⟩
  refine ⟨f, hf, fun part i j hpart hfits => ?_⟩
  obtain ⟨ps, hps, hsplits⟩ := hfits.splits hpart []
  exact hleast ps i j [] (by rw [hps, hlayout]) hsplits

end Plain

end CodeShape.Pattern
