import CodeShape.Proofs.Pattern.Compilation
import CodeShape.Proofs.Pattern.Soundness

/-!
# A scan of an orderly expression goes forward

What a searcher offers from a cursor on is a list of matches, and then it has no more or its budget
is spent (`Matcher.Offers`). With `\K` in a lookbehind it may offer one match for ever, and that is
what a scan guards against. Patterns without raw expressions and literals are orderly: there the
cursor advances, so that the list ends (`Orderly.exists_offers`), each match begins behind the one
before and not before its end (`Offers.apart`), and a scan takes as many of them as it may
(`Offers.scanFrom_eq`). So the guard never stops such a scan (`scan_offered`).
-/

namespace CodeShape.Pattern

open Regex (Cursor Searcher)

/-- From a cursor on the searcher offers these matches one after the other, and then there are no
more, or its budget is spent. -/
inductive Matcher.Offers (m : Matcher) (t : Text) : Cursor → List Regex.Match → ScanEnd → Prop
  | noMore {c c' : Cursor}
      (h : m.searcher.next m.limits.backtrackLimit t.chars c = (.missing, c')) :
      m.Offers t c [] .noMore
  | exhausted {c c' : Cursor}
      (h : m.searcher.next m.limits.backtrackLimit t.chars c = (.exhausted, c')) :
      m.Offers t c [] .exhausted
  | found {c c' : Cursor} {f : Regex.Match} {fs : List Regex.Match} {ended : ScanEnd}
      (h : m.searcher.next m.limits.backtrackLimit t.chars c = (.found f, c'))
      (rest : m.Offers t c' fs ended) : m.Offers t c (f :: fs) ended

/-- A scan that takes the matches that are offered, up to a greatest number of them. -/
def Scan.upTo (max : Nat) (fs : List Regex.Match) (ended : ScanEnd) : Scan :=
  if max < fs.length then ⟨fs.take max, .full⟩ else ⟨fs, ended⟩

theorem Scan.found_upTo (max : Nat) (fs : List Regex.Match) (ended : ScanEnd) :
    (Scan.upTo max fs ended).found = fs.take max := by
  unfold upTo
  split
  next => rfl
  next h => exact (List.take_of_length_le (Nat.not_lt.mp h)).symm

/-- The matcher searches for an orderly expression. -/
def Matcher.Orderly (m : Matcher) : Prop :=
  ∃ e : Regex.Expr, e.orderly = true ∧ 0 ∉ e.groups ∧ Regex.Method.ofExpr e = .ok m.searcher.method

variable {m : Matcher} {t : Text} {c c' : Cursor} {f : Regex.Match} {fs : List Regex.Match}
  {ended : ScanEnd}

/-! ## One step -/

/-- **A match begins where the cursor stood or behind it**, ends within the text, and the cursor is
then behind where it begins and not before where it ends. -/
theorem Matcher.Orderly.advances (h : m.Orderly)
    (hnext : m.searcher.next m.limits.backtrackLimit t.chars c = (.found f, c')) :
    c.next ≤ f.start ∧ f.start < c'.next ∧ f.stop ≤ c'.next ∧ f.start ≤ f.stop ∧
      f.stop ≤ t.chars.size := by
  obtain ⟨e, horder, hzero, hmethod⟩ := h
  obtain ⟨hbegin, hbehind, hstop⟩ := Searcher.next_advances horder hzero hmethod hnext
  obtain ⟨hle, -, hsize⟩ := Searcher.next_bounds hmethod hnext
  exact ⟨hbegin, hbehind, hstop, hle, hsize⟩

/-! ## All steps -/

/-- **The matches come to an end.** -/
theorem Matcher.Orderly.exists_offers (h : m.Orderly) (t : Text) (c : Cursor) :
    ∃ fs ended, m.Offers t c fs ended := by
  -- what is left of the text behind the cursor becomes less with every match
  induction hleft : t.chars.size + 1 - c.next using Nat.strong_induction_on generalizing c with
  | h left ih =>
    cases hnext : m.searcher.next m.limits.backtrackLimit t.chars c with
    | mk answer c' =>
      cases answer with
      | missing => exact ⟨[], .noMore, .noMore hnext⟩
      | exhausted => exact ⟨[], .exhausted, .exhausted hnext⟩
      | found f =>
        have hstep := h.advances hnext
        obtain ⟨fs, ended, hrest⟩ := ih _ (by omega) c' rfl
        exact ⟨f :: fs, ended, .found hnext hrest⟩

namespace Matcher.Offers

theorem ended_ne_repeated (h : m.Offers t c fs ended) (offset : Nat) :
    ended ≠ .repeated offset := by
  induction h with
  | noMore h => exact nofun
  | exhausted h => exact nofun
  | found h rest ih => exact ih

/-- **The matches stand apart**: each begins behind the one before, and not before its end. -/
theorem apart (h : m.Offers t c fs ended) (horder : m.Orderly) :
    (∀ f ∈ fs, c.next ≤ f.start ∧ f.start ≤ f.stop ∧ f.stop ≤ t.chars.size) ∧
      fs.Pairwise fun f g => f.start < g.start ∧ f.stop ≤ g.start := by
  induction h with
  | noMore h => exact ⟨nofun, .nil⟩
  | exhausted h => exact ⟨nofun, .nil⟩
  | @found c c' f fs ended hnext rest ih =>
    obtain ⟨hlater, hapart⟩ := ih
    have hstep := horder.advances hnext
    refine ⟨List.forall_mem_cons.mpr ⟨by omega, fun g hg => ?_⟩,
      List.pairwise_cons.mpr ⟨fun g hg => ?_, hapart⟩⟩
    · have := hlater g hg
      omega
    · have := hlater g hg
      omega

/-- **A scan takes what is offered**, as long as it may take more. -/
theorem scanFrom_eq (h : m.Offers t c fs ended) (horder : m.Orderly) {fuel : Nat}
    {found : List Regex.Match} (hseen : ∀ g ∈ found, g.start < c.next)
    (hfuel : t.chars.size + 1 ≤ fuel + c.next) (hroom : found.length ≤ m.limits.maxMatches) :
    m.scanFrom t fuel found c = Scan.upTo m.limits.maxMatches (found.reverse ++ fs) ended := by
  have hshort {l : List Regex.Match} {ended : ScanEnd} (hl : l.length ≤ m.limits.maxMatches) :
      Scan.upTo m.limits.maxMatches (l.reverse ++ []) ended = ⟨l.reverse, ended⟩ := by
    rw [Scan.upTo, List.append_nil, List.length_reverse, if_neg (Nat.not_lt.mpr hl)]
  induction h generalizing fuel found with
  | @noMore c c' hnext =>
    rw [hshort hroom]
    cases fuel with
    | zero => rfl
    | succ fuel => exact scanFrom_of_missing hnext
  | @exhausted c c' hnext =>
    rw [hshort hroom]
    cases fuel with
    | zero =>
      rw [Searcher.next, if_pos (by omega)] at hnext
      cases hnext
    | succ fuel => exact scanFrom_of_exhausted hnext
  | @found c c' f fs ended hnext rest ih =>
    have hstep := horder.advances hnext
    -- all matches so far begin before the cursor, and so before this one
    have hnew : ¬ (found.any fun g => g.start == f.start && g.stop == f.stop) = true := by
      intro hany
      obtain ⟨g, hg, hsame⟩ := List.any_eq_true.mp hany
      rw [Bool.and_eq_true, beq_iff_eq] at hsame
      have := hseen g hg
      omega
    cases fuel with
    | zero => omega
    | succ fuel =>
      rw [scanFrom_of_found hnext]
      by_cases hfull : m.limits.maxMatches ≤ found.length
      · have hlen : found.reverse.length = m.limits.maxMatches := by
          rw [List.length_reverse]
          exact Nat.le_antisymm hroom hfull
        rw [if_pos hfull, Scan.upTo, if_pos (by simp; omega), ← hlen, List.take_left]
      · have hseen' : ∀ g ∈ f :: found, g.start < c'.next := by
          refine List.forall_mem_cons.mpr ⟨hstep.2.1, fun g hg => ?_⟩
          have := hseen g hg
          omega
        rw [if_neg hfull, if_neg hnew, ih hseen' (by omega) (by rw [List.length_cons]; omega),
          List.reverse_cons, List.append_assoc, List.singleton_append]

end Matcher.Offers

/-- **A whole scan takes what is offered from the beginning.** -/
theorem Matcher.Orderly.scan_eq (h : m.Orderly) (t : Text) :
    ∃ fs ended, m.Offers t {} fs ended ∧ m.scan t = Scan.upTo m.limits.maxMatches fs ended := by
  obtain ⟨fs, ended, hoffers⟩ := h.exists_offers t {}
  refine ⟨fs, ended, hoffers, hoffers.scanFrom_eq h nofun ?_ (Nat.zero_le _)⟩
  exact Nat.le_succ_of_le (Nat.le_mul_self _)

/-! ## What is compiled without raw expressions -/

/-- The matcher was compiled from a pattern without raw expressions, or from a literal. -/
inductive Matcher.Plain (limits : Limits) (m : Matcher) : Prop
  | pattern {pattern : List Char} {pieces : List Piece} (hextract : extract pattern = .ok pieces)
      (hplain : PlainPieces pieces) (hm : Matcher.compile pattern limits = .ok m)
  | literal {needle : List Char} (hm : Matcher.literal needle limits = .ok m)

theorem orderly_of_build {segs : List Segment} (hsegs : ∀ s ∈ segs, s.IsPlain)
    {source : List Char} {limits : Limits}
    (hm : Matcher.build source (assemble (bind segs).1) (bind segs).2 limits = .ok m) :
    m.Orderly ∧ m.limits = limits := by
  obtain ⟨hmethod, -, hlimits⟩ := build_eq hsegs hm
  exact ⟨⟨_, expressionOf_orderly hsegs, zero_not_mem_groups hsegs, hmethod⟩, hlimits⟩

theorem Matcher.Plain.orderly {limits : Limits} (h : m.Plain limits) :
    m.Orderly ∧ m.limits = limits := by
  cases h with
  | pattern hextract hplain hm =>
    rw [compile_eq hextract] at hm
    exact orderly_of_build (layout_isPlain hplain) hm
  | literal hm =>
    rw [literal_eq] at hm
    exact orderly_of_build (literalSegments_isPlain _) hm

/-- **A scan loses no match.** Without raw expressions, each span begins behind the one before and
not before its end. The scan never ends at a match that comes again: it takes what the searcher
offers, until it has the greatest number of matches or the searcher offers nothing more. -/
theorem scan_offered {limits : Limits} (hm : m.Plain limits) (text : String) :
    (m.spans (.ofString text)).Pairwise (fun a b => a.start < b.start ∧ a.stop ≤ b.start) ∧
      (∀ offset, (m.scan (.ofString text)).ended ≠ .repeated offset) ∧
      ∃ fs ended, m.Offers (.ofString text) {} fs ended ∧
        m.scan (.ofString text) = Scan.upTo limits.maxMatches fs ended := by
  obtain ⟨horder, rfl⟩ := hm.orderly
  obtain ⟨fs, ended, hoffers, hscan⟩ := horder.scan_eq (.ofString text)
  obtain ⟨hbounds, hapart⟩ := hoffers.apart horder
  refine ⟨?_, fun offset => ?_, fs, ended, hoffers, hscan⟩
  · rw [Matcher.spans, hscan, Scan.found_upTo, List.pairwise_map]
    refine (hapart.sublist (List.take_sublist _ fs)).imp_of_mem fun {f g} hf hg hfg => ?_
    obtain ⟨-, hle, hsize⟩ := hbounds f (List.mem_of_mem_take hf)
    obtain ⟨-, hle', hsize'⟩ := hbounds g (List.mem_of_mem_take hg)
    rw [(covers_spanOf text hle hsize).start, (covers_spanOf text hle hsize).stop,
      (covers_spanOf text hle' hsize').start]
    have hbegin := Nat.le_trans hle' hsize'
    exact ⟨bytesBefore_lt hfg.1 hbegin, bytesBefore_le hfg.2 hbegin⟩
  · rw [hscan, Scan.upTo]
    split
    · rintro ⟨⟩
    · exact hoffers.ended_ne_repeated offset

theorem scan_offered_block :
    ∃ m, Matcher.compile "$$".toList ⟨2, 10⟩ = .ok m ∧
      (m.spans (.ofString "aé")).Pairwise (fun a b => a.start < b.start ∧ a.stop ≤ b.start) ∧
      (∀ offset, (m.scan (.ofString "aé")).ended ≠ .repeated offset) ∧
      ∃ fs ended, m.Offers (.ofString "aé") {} fs ended ∧
        m.scan (.ofString "aé") = Scan.upTo 2 fs ended := by
  have hextract : extract "$$".toList = .ok [.token (.block false (.anonymous 0))] :=
    by decide +kernel
  have hplain : PlainPieces [.token (.block false (.anonymous 0))] := by
    intro body h
    simp at h
  obtain ⟨m, hm⟩ : ∃ m, Matcher.compile "$$".toList ⟨2, 10⟩ = .ok m :=
    (compile_ok_iff hextract hplain).mpr (by decide +kernel)
  exact ⟨m, hm, scan_offered (.pattern hextract hplain hm) "aé"⟩

end CodeShape.Pattern
