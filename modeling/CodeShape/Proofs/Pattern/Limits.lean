import CodeShape.Proofs.Pattern.Soundness

/-!
# Limits only cut a scan short

A matcher does not depend on its limits otherwise than by holding them (`Matcher.withLimits`), so
two scans of one text with different limits go through the same matches for as long as both go on.
With greater limits a scan goes on at least as far (`scanFrom_prefix`), and if only the greatest
number of matches differs, that number is all that is cut off (`scanFrom_take`). Both hold of every
pattern that compiles, whatever raw expressions it has, and however a scan ends.
-/

namespace CodeShape.Pattern

open Regex (Answer Cursor Searcher)

variable {m m' : Matcher} {limits limits' : Limits} {t : Text} {fuel : Nat}
  {found : List Regex.Match} {c : Cursor}

/-! ## Compiling with other limits -/

/-- The same matcher with other limits. -/
def Matcher.withLimits (m : Matcher) (limits : Limits) : Matcher :=
  { m with limits := limits }

theorem build_withLimits (source expr : List Char) (captures : Captures) (limits limits' : Limits) :
    Matcher.build source expr captures limits'
      = (Matcher.build source expr captures limits).map (·.withLimits limits') := by
  unfold Matcher.build
  cases Searcher.compile expr with
  | error fault => rfl
  | ok searcher => rfl

theorem compile_withLimits (pattern : List Char) (limits limits' : Limits) :
    Matcher.compile pattern limits'
      = (Matcher.compile pattern limits).map (·.withLimits limits') := by
  unfold Matcher.compile
  cases extract pattern with
  | error e => rfl
  | ok pieces => exact build_withLimits _ _ _ limits limits'

theorem literal_withLimits (text : List Char) (limits limits' : Limits) :
    Matcher.literal text limits'
      = (Matcher.literal text limits).map (·.withLimits limits') :=
  build_withLimits _ _ _ limits limits'

/-! ## Two scans of one text -/

section Scans

variable (hsearcher : m'.searcher = m.searcher)
  (hmax : m.limits.maxMatches ≤ m'.limits.maxMatches)

include hsearcher hmax

/-- **With greater limits a scan goes on at least as far**, through the same matches. -/
theorem scanFrom_prefix (hbudget : m.limits.backtrackLimit ≤ m'.limits.backtrackLimit) :
    (m.scanFrom t fuel found c).found <+: (m'.scanFrom t fuel found c).found := by
  fun_induction Matcher.scanFrom m t fuel found c with
  | case1 found c => exact prefix_scanFrom m' t 0 c found
  | case2 fuel found c c' hnext => exact prefix_scanFrom m' t (fuel + 1) c found
  | case3 fuel found c c' hnext => exact prefix_scanFrom m' t (fuel + 1) c found
  | case4 fuel found c f c' hnext hfull => exact prefix_scanFrom m' t (fuel + 1) c found
  | case5 fuel found c f c' hnext hroom hagain => exact prefix_scanFrom m' t (fuel + 1) c found
  | case6 fuel found c f c' hnext hroom hnew ih =>
    -- the step has not spent the smaller budget, so it is the same with the greater one
    have hlasts : (m.searcher.next m.limits.backtrackLimit t.chars c).1 ≠ .exhausted := by
      rw [hnext]
      rintro ⟨⟩
    have hnext' : m'.searcher.next m'.limits.backtrackLimit t.chars c = (.found f, c') := by
      rw [hsearcher, Searcher.next_budget hbudget hlasts, hnext]
    rw [scanFrom_of_found hnext', if_neg (by omega), if_neg hnew]
    exact ih

/-- **If only the greatest number of matches differs, that number is all that is cut off.** -/
theorem scanFrom_take (hbudget : m'.limits.backtrackLimit = m.limits.backtrackLimit)
    (hroom : found.length ≤ m.limits.maxMatches) :
    (m.scanFrom t fuel found c).found
      = (m'.scanFrom t fuel found c).found.take m.limits.maxMatches := by
  have hall {l : List Regex.Match} (hl : l.length ≤ m.limits.maxMatches) :
      l.reverse = l.reverse.take m.limits.maxMatches := by
    rw [List.take_of_length_le (by rwa [List.length_reverse])]
  have hsame {c c' : Cursor} {answer : Answer}
      (h : m.searcher.next m.limits.backtrackLimit t.chars c = (answer, c')) :
      m'.searcher.next m'.limits.backtrackLimit t.chars c = (answer, c') := by
    rw [hsearcher, hbudget, h]
  fun_induction Matcher.scanFrom m t fuel found c with
  | case1 found c => exact hall hroom
  | case2 fuel found c c' hnext =>
    rw [scanFrom_of_missing (hsame hnext)]
    exact hall hroom
  | case3 fuel found c c' hnext =>
    rw [scanFrom_of_exhausted (hsame hnext)]
    exact hall hroom
  | case4 fuel found c f c' hnext hfull =>
    have hlen : found.reverse.length = m.limits.maxMatches := by
      rw [List.length_reverse]
      exact Nat.le_antisymm hroom hfull
    have hfront := List.prefix_iff_eq_take.mp (prefix_scanFrom m' t (fuel + 1) c found)
    rwa [hlen] at hfront
  | case5 fuel found c f c' hnext hmore hagain =>
    rw [scanFrom_of_found (hsame hnext), if_neg (by omega), if_pos hagain]
    exact hall hroom
  | case6 fuel found c f c' hnext hmore hnew ih =>
    rw [scanFrom_of_found (hsame hnext), if_neg (by omega), if_neg hnew]
    refine ih ?_
    rw [List.length_cons]
    omega

end Scans

/-! ## What is reported -/

/-- **Limits only cut a scan short.** A pattern or a literal that compiles with some limits compiles
with any others. What is then reported about a text with smaller limits is what greater limits begin
with; and if only the greatest number of matches differs, it is the first so many of them. -/
theorem limits_truncate {compileWith : List Char → Limits → Except Error Matcher}
    (hkind : compileWith = Matcher.compile ∨ compileWith = Matcher.literal) {source : List Char}
    (hm : compileWith source limits = .ok m) (hmax : limits.maxMatches ≤ limits'.maxMatches)
    (hbudget : limits.backtrackLimit ≤ limits'.backtrackLimit) :
    ∃ m', compileWith source limits' = .ok m' ∧ ∀ t : Text,
      m.spans t <+: m'.spans t ∧ m.findAll t <+: m'.findAll t ∧
        (limits'.backtrackLimit = limits.backtrackLimit →
          m.spans t = (m'.spans t).take limits.maxMatches ∧
            m.findAll t = (m'.findAll t).take limits.maxMatches) := by
  obtain ⟨rfl, hm'⟩ : m.limits = limits ∧
      compileWith source limits' = .ok (m.withLimits limits') := by
    rcases hkind with rfl | rfl
    · obtain ⟨expr, captures, hbuild⟩ := build_of_compiled (.inl hm)
      refine ⟨(of_build hbuild).1, ?_⟩
      rw [compile_withLimits source limits limits', hm]
      rfl
    · refine ⟨(of_build hm).1, ?_⟩
      rw [literal_withLimits source limits limits', hm]
      rfl
  refine ⟨m.withLimits limits', hm', fun t => ?_⟩
  have hfront : (m.scan t).found <+: ((m.withLimits limits').scan t).found :=
    scanFrom_prefix rfl hmax hbudget
  refine ⟨hfront.map _, hfront.map _, fun hsame => ?_⟩
  have htake : (m.scan t).found
      = ((m.withLimits limits').scan t).found.take m.limits.maxMatches :=
    scanFrom_take rfl hmax hsame (Nat.zero_le _)
  unfold Matcher.spans Matcher.findAll
  rw [htake, List.map_take, List.map_take]
  exact ⟨rfl, rfl⟩

theorem limits_truncate_call :
    ∃ m m', Matcher.compile "f($1)".toList ⟨1, 3⟩ = .ok m ∧
      Matcher.compile "f($1)".toList ⟨2, 3⟩ = .ok m' ∧ ∀ t : Text,
      m.spans t <+: m'.spans t ∧ m.findAll t <+: m'.findAll t ∧
        m.spans t = (m'.spans t).take 1 ∧ m.findAll t = (m'.findAll t).take 1 := by
  obtain ⟨m, hm⟩ : ∃ m, Matcher.compile "f($1)".toList ⟨1, 3⟩ = .ok m := compile_call
  obtain ⟨m', hm', h⟩ : ∃ m', Matcher.compile "f($1)".toList ⟨2, 3⟩ = .ok m' ∧ _ :=
    limits_truncate (.inl rfl) hm (Nat.le_succ 1) (Nat.le_refl 3)
  exact ⟨m, m', hm, hm', fun t => ⟨(h t).1, (h t).2.1, (h t).2.2 rfl⟩⟩

end CodeShape.Pattern
