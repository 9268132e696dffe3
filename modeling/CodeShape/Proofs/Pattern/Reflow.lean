import Mathlib.Logic.Relation
import CodeShape.Proofs.Pattern.Assembly
import CodeShape.Proofs.Pattern.Spacing

/-!
# The layout of a pattern does not matter

A pattern may be broken into lines and indented otherwise, outside of raw expressions: it is then
compiled to the same matcher, or refused as before (`compile_reflowed`). Each run of blanks that is
written otherwise leaves what the pattern is laid out to as it is (`layoutOf?_reflowed`).
-/

namespace CodeShape.Pattern

variable {pattern pattern' cs front back bs bs' : List Char} {number : Nat}
  {pieces others : List Piece}

/-- The second pattern is the first one with a run of blanks written otherwise. Such a run stands
outside of raw expressions: what comes before it can be divided, so no raw expression is open there.
At the beginning and at the end of a pattern, blanks may also come or go. -/
inductive Reflowed : List Char → List Char → Prop
  | between {front back bs bs' : List Char} {pieces : List Piece} (hfront : extract front = .ok pieces)
      (hbs : AllBlank bs) (hbs' : AllBlank bs') (hne : bs ≠ []) (hne' : bs' ≠ []) :
      Reflowed (front ++ (bs ++ back)) (front ++ (bs' ++ back))
  | first {back bs bs' : List Char} (hbs : AllBlank bs) (hbs' : AllBlank bs') :
      Reflowed (bs ++ back) (bs' ++ back)
  | last {front bs bs' : List Char} (hbs : AllBlank bs) (hbs' : AllBlank bs') :
      Reflowed (front ++ bs) (front ++ bs')

/-! ## Dividing at blanks -/

theorem extractFrom_blanks (hbs : AllBlank bs) (hne : bs ≠ []) : extractFrom number (bs ++ back) =
    (extractFrom number back).map (Piece.before (.text bs)) := by
  induction bs with
  | nil => exact absurd rfl hne
  | cons b bs ih =>
    obtain ⟨hb, hbs⟩ := List.forall_mem_cons.mp hbs
    rw [List.cons_append, extractFrom_blank hb]
    cases bs with
    | nil =>
      refine congrArg (Except.map · _) (funext fun pieces => ?_)
      exact consText_eq_before b pieces
    | cons b' bs =>
      rw [ih hbs (List.cons_ne_nil b' bs)]
      cases extractFrom number back with
      | error fault => rfl
      | ok pieces =>
        show Except.ok (Piece.consText b (Piece.before _ pieces)) = Except.ok (Piece.before _ pieces)
        rw [consText_eq_before]
        cases pieces with
        | nil => rfl
        | cons p rest => cases p <;> rfl

/-- A raw expression that is not closed is not closed by blanks. -/
theorem readBody?_append_blanks (h : readBody? {} cs = none) (hbs : AllBlank bs) :
    readBody? {} (cs ++ bs) = none := by
  have hclose : ')' ∉ bs := by
    intro hmem
    have := hbs ')' hmem
    revert this
    decide
  cases hread : readBody? {} (cs ++ bs) with
  | none => rfl
  | some split =>
    obtain ⟨body, rest⟩ := split
    obtain ⟨heq, hbody⟩ := readBody?_eq_some_iff.mp hread
    rcases List.append_eq_append_iff.mp heq with ⟨more, -, hbs⟩ | ⟨more, hcs, hrest⟩
    · rw [hbs] at hclose
      exact absurd (List.mem_append_right _ List.mem_cons_self) hclose
    · cases more with
      | nil =>
        rw [List.nil_append] at hrest
        rw [← hrest] at hclose
        exact absurd List.mem_cons_self hclose
      | cons c more =>
        obtain ⟨rfl, -⟩ := List.cons.inj hrest
        rw [readBody?_eq_some_iff.mpr ⟨hcs, hbody⟩] at h
        cases h

/-- What cannot be divided cannot be divided in front of blanks. -/
theorem extractFrom_append_error {fault : List Char} (h : extractFrom number cs = .error fault)
    (hbs : AllBlank bs) : extractFrom number (cs ++ bs) = .error (fault ++ bs) := by
  fun_induction extractFrom number cs with
  | case1 => cases h
  | case2 number c cs t rest hread ih =>
    rw [extractFrom_token (readToken_token_append hread hbs.setOff), ih (map_eq_error_iff.mp h)]
    rfl
  | case3 number c cs hread ih =>
    have hplain : readToken number (c :: (cs ++ bs)) = .plain :=
      readToken_eq_plain_iff.mpr (not_opensToken_append (readToken_eq_plain_iff.mp hread)
        (List.cons_ne_nil c cs) hbs.setOff)
    rw [List.cons_append, extractFrom_plain hplain, ih (map_eq_error_iff.mp h)]
    rfl
  | case4 number c cs hread =>
    cases h
    obtain ⟨after, hcs, hafter⟩ := readToken_unclosed_iff.mp hread
    refine extractFrom_unclosed (readToken_unclosed_iff.mpr ⟨after ++ bs, ?_, ?_⟩)
    · rw [← List.append_assoc, ← hcs]
      rfl
    · exact readBody?_append_blanks hafter hbs

/-! ## The text at a seam -/

/-- Where a text is put behind pieces, it goes on the text that they end with, if they do. -/
theorem exists_foldr_before (pieces : List Piece) : ∃ init front, ∀ cs rest,
    pieces.foldr Piece.before (.text cs :: rest) = init ++ .text (front ++ cs) :: rest := by
  induction pieces with
  | nil => exact ⟨[], [], fun cs rest => rfl⟩
  | cons p pieces ih =>
    obtain ⟨init, front, h⟩ := ih
    cases p with
    | token t =>
      refine ⟨.token t :: init, front, fun cs rest => ?_⟩
      rw [List.foldr_cons, h]
      rfl
    | text ds =>
      cases init with
      | nil =>
        refine ⟨[], ds ++ front, fun cs rest => ?_⟩
        rw [List.foldr_cons, h, List.append_assoc]
        rfl
      | cons p init =>
        cases p with
        | token t =>
          refine ⟨.text ds :: .token t :: init, front, fun cs rest => ?_⟩
          rw [List.foldr_cons, h]
          rfl
        | text es =>
          refine ⟨.text (ds ++ es) :: init, front, fun cs rest => ?_⟩
          rw [List.foldr_cons, h]
          rfl

/-- An empty text behind pieces goes on the text that they end with, or comes behind them. -/
theorem foldr_before_empty (pieces : List Piece) :
    pieces.foldr Piece.before [.text []] = mergeTexts pieces ∨
      pieces.foldr Piece.before [.text []] = mergeTexts pieces ++ [.text []] := by
  induction pieces with
  | nil => exact .inr rfl
  | cons p pieces ih =>
    show Piece.before p _ = Piece.before p (mergeTexts pieces) ∨
      Piece.before p _ = Piece.before p (mergeTexts pieces) ++ _
    rcases ih with h | h
    · exact .inl (congrArg (Piece.before p) h)
    · rw [h]
      cases mergeTexts pieces with
      | nil =>
        cases p with
        | token t => exact .inr rfl
        | text cs =>
          left
          show [Piece.text (cs ++ [])] = [.text cs]
          rw [List.append_nil]
      | cons p' rest =>
        right
        cases p with
        | token t => rfl
        | text cs => cases p' <;> rfl

theorem normalize_append_text (init : List Piece) (cs : List Char) (rest : List Piece) :
    normalize (init ++ .text cs :: rest) =
      normalize init ++ (splitBlanks (pad cs) ++ normalize rest) := by
  unfold normalize
  rw [List.flatMap_append, List.flatMap_cons]
  rfl

/-- An empty text has no segments. -/
theorem normalize_concat_empty (pieces : List Piece) :
    normalize (pieces ++ [.text []]) = normalize pieces := by
  rw [normalize_append_text, pad, padWords, padWords, List.flatMap_nil, splitBlanks]
  exact List.append_nil _

theorem normalize_foldr_before_empty (pieces : List Piece) :
    normalize (pieces.foldr Piece.before [.text []]) = normalize (mergeTexts pieces) := by
  rcases foldr_before_empty pieces with h | h
  · rw [h]
  · rw [h, normalize_concat_empty]

/-- Pieces begin with a text that may be empty. -/
theorem exists_before (pieces : List Piece) : ∃ cs rest,
    (∀ bs, Piece.before (.text bs) pieces = .text (bs ++ cs) :: rest) ∧
      normalize pieces = splitBlanks (pad cs) ++ normalize rest := by
  cases pieces with
  | nil =>
    refine ⟨[], [], fun bs => ?_, (normalize_concat_empty []).symm⟩
    rw [List.append_nil]
    rfl
  | cons p pieces =>
    cases p with
    | text cs => exact ⟨cs, pieces, fun bs => rfl, normalize_append_text [] cs pieces⟩
    | token t =>
      refine ⟨[], .token t :: pieces, fun bs => ?_, ?_⟩
      · rw [List.append_nil]
        rfl
      · rw [pad, padWords, padWords, List.flatMap_nil, splitBlanks]
        rfl

/-! ## The layout of a reflowed pattern -/

/-- What a pattern is laid out to, if it can be divided. -/
def layoutOf? (pattern : List Char) : Option (List Segment) :=
  (extractFrom 0 pattern).toOption.map fun pieces => layout (normalize pieces)

theorem layoutOf?_eq_some_iff {segs : List Segment} : layoutOf? pattern = some segs ↔
    ∃ pieces, extract pattern = .ok pieces ∧ layout (normalize pieces) = segs := by
  unfold layoutOf? extract
  cases extractFrom 0 pattern with
  | error fault => exact iff_of_false nofun nofun
  | ok pieces =>
    constructor
    · intro h
      exact ⟨pieces, rfl, Option.some.inj h⟩
    · rintro ⟨_, ⟨⟩, rfl⟩
      rfl

/-- The blanks in front of a text are dropped where a pattern begins. -/
theorem layout_splitBlanks_append (cs : List Char) (more : List Segment) :
    layout (splitBlanks cs ++ more) = layout (splitBlanks (cs.dropWhile Unicode.isBlank) ++ more) := by
  cases cs with
  | nil => rfl
  | cons c cs =>
    by_cases hc : Unicode.isBlank c = true
    · rw [splitBlanks, if_pos hc, List.dropWhile_cons_of_pos hc]
      exact layout_space_cons _
    · rw [List.dropWhile_cons_of_neg hc]

/-- Blanks in front of a pattern make no difference. -/
theorem layoutOf?_append_left (hbs : AllBlank bs) (back : List Char) :
    layoutOf? (bs ++ back) = layoutOf? back := by
  by_cases hne : bs = []
  · rw [hne, List.nil_append]
  · unfold layoutOf?
    rw [extractFrom_blanks hbs hne]
    cases extractFrom 0 back with
    | error fault => rfl
    | ok pieces =>
      obtain ⟨cs, rest, hbefore, hnormalize⟩ := exists_before pieces
      show some (layout (normalize (Piece.before (.text bs) pieces))) = some (layout (normalize pieces))
      rw [hbefore, hnormalize]
      show some (layout (splitBlanks (pad (bs ++ cs)) ++ normalize rest)) = _
      rw [pad_blanks hbs, layout_splitBlanks_append, List.dropWhile_append_of_pos hbs,
        ← layout_splitBlanks_append]

/-- Blanks behind a pattern make no difference. -/
theorem layoutOf?_append_right (hbs : AllBlank bs) (front : List Char) :
    layoutOf? (front ++ bs) = layoutOf? front := by
  by_cases hne : bs = []
  · rw [hne, List.append_nil]
  · unfold layoutOf?
    cases hfront : extractFrom 0 front with
    | error fault =>
      rw [extractFrom_append_error hfront hbs]
      rfl
    | ok pieces =>
      have hblanks : extractFrom (0 + unnamedCount pieces) (bs ++ []) = _ :=
        extractFrom_blanks hbs hne
      rw [List.append_nil, extractFrom_nil] at hblanks
      rw [extractFrom_append hfront hbs.setOff, hblanks]
      show some (layout (normalize (pieces.foldr Piece.before [.text bs]))) =
        some (layout (normalize pieces))
      obtain ⟨init, front, hinit⟩ := exists_foldr_before pieces
      have hpieces : normalize pieces = normalize init ++ (splitBlanks (pad front) ++ []) := by
        have htidy := (extractFrom_ok hfront).2.1
        rw [← mergeTexts_of_tidy htidy, ← normalize_foldr_before_empty, hinit, List.append_nil]
        exact normalize_append_text init front []
      have hrespaced : Respaced true front (front ++ bs) := by
        have hends : Respaced true [] bs := .ends (List.forall_mem_nil _) hbs nofun
        have h := (Respaced.refl front).append hends
        rwa [List.append_nil] at h
      obtain ⟨segs, p, q, hp, hq, -⟩ := splitBlanks_respaced hrespaced.pad
      rw [hpieces, hinit, normalize_append_text, hp, hq]
      show some (layout (normalize init ++ (segs ++ gapIf q ++ []))) =
        some (layout (normalize init ++ (segs ++ gapIf p ++ [])))
      rw [List.append_nil, List.append_nil, ← List.append_assoc, ← List.append_assoc,
        layout_append_gapIf, layout_append_gapIf]

/-- Which blanks stand in a pattern makes no difference. -/
theorem layoutOf?_between (hfront : extract front = .ok pieces) (hbs : AllBlank bs)
    (hbs' : AllBlank bs') (hne : bs ≠ []) (hne' : bs' ≠ []) (back : List Char) :
    layoutOf? (front ++ (bs ++ back)) = layoutOf? (front ++ (bs' ++ back)) := by
  have hpieces : extractFrom 0 front = .ok pieces :=
    extractFrom_eq_ok_iff.mpr (extract_eq_ok_iff.mp hfront)
  unfold layoutOf?
  rw [extractFrom_append hpieces (hbs.setOff_append hne back),
    extractFrom_append hpieces (hbs'.setOff_append hne' back), extractFrom_blanks hbs hne,
    extractFrom_blanks hbs' hne']
  cases extractFrom (0 + unnamedCount pieces) back with
  | error fault => rfl
  | ok others =>
    obtain ⟨cs, rest, hbefore, -⟩ := exists_before others
    obtain ⟨init, front, hinit⟩ := exists_foldr_before pieces
    have hrespaced : Respaced false (front ++ (bs ++ cs)) (front ++ (bs' ++ cs)) :=
      (Respaced.refl front).append (.run hbs hbs' hne hne' (.refl cs))
    obtain ⟨segs, p, q, hp, hq, hgap⟩ := splitBlanks_respaced hrespaced.pad
    show some (layout (normalize (pieces.foldr Piece.before (Piece.before (.text bs) others)))) =
      some (layout (normalize (pieces.foldr Piece.before (Piece.before (.text bs') others))))
    rw [hbefore, hbefore, hinit, hinit, normalize_append_text, normalize_append_text, hp, hq,
      hgap rfl]

theorem layoutOf?_reflowed (h : Reflowed pattern pattern') : layoutOf? pattern = layoutOf? pattern' := by
  cases h with
  | between hfront hbs hbs' hne hne' => exact layoutOf?_between hfront hbs hbs' hne hne' _
  | first hbs hbs' => rw [layoutOf?_append_left hbs, layoutOf?_append_left hbs']
  | last hbs hbs' => rw [layoutOf?_append_right hbs, layoutOf?_append_right hbs']

/-! ## Matchers -/

/-- How a pattern was written makes no difference to what is found. -/
theorem scanFrom_source (m : Matcher) (source : List Char) (t : Text) (fuel : Nat)
    (found : List Regex.Match) (c : Regex.Cursor) :
    ({ m with source := source } : Matcher).scanFrom t fuel found c = m.scanFrom t fuel found c := by
  induction fuel generalizing found c with
  | zero => rfl
  | succ fuel ih => simp only [Matcher.scanFrom, ih]

/-- Patterns that are laid out to the same are compiled to the same. -/
theorem compile_of_layoutOf? {limits : Limits} {m : Matcher}
    (hlayout : layoutOf? pattern = layoutOf? pattern')
    (hm : Matcher.compile pattern limits = .ok m) :
    Matcher.compile pattern' limits = .ok { m with source := pattern' } := by
  obtain ⟨pieces, hextract, -⟩ := bind_eq_ok_iff.mp hm
  rw [layoutOf?_eq_some_iff.mpr ⟨pieces, hextract, rfl⟩] at hlayout
  obtain ⟨pieces', hextract', hsame⟩ := layoutOf?_eq_some_iff.mp hlayout.symm
  rw [compile_eq hextract] at hm
  rw [compile_eq hextract', hsame]
  obtain ⟨searcher, hcompile, rfl⟩ := build_eq_ok_iff.mp hm
  exact build_eq_ok_iff.mpr ⟨searcher, hcompile, rfl⟩

/-- **The layout of a pattern does not matter.** However the runs of blanks outside of its raw
expressions are written, and whatever blanks stand at its ends, a pattern is compiled or not, and
what it is compiled to has the same expression and the same groups and finds the same in every
text. -/
theorem compile_reflowed (h : Relation.ReflTransGen Reflowed pattern pattern') (limits : Limits) :
    ((∃ m, Matcher.compile pattern limits = .ok m) ↔
      ∃ m', Matcher.compile pattern' limits = .ok m') ∧
    ∀ m m', Matcher.compile pattern limits = .ok m → Matcher.compile pattern' limits = .ok m' →
      m'.expr = m.expr ∧ m'.groups = m.groups ∧
        ∀ t, m'.scan t = m.scan t ∧ m'.isMatch t = m.isMatch t ∧ m'.spans t = m.spans t ∧
          m'.findAll t = m.findAll t ∧ m'.findFirst t = m.findFirst t := by
  have hlayout : layoutOf? pattern = layoutOf? pattern' := by
    induction h with
    | refl => rfl
    | tail _ hstep ih => exact ih.trans (layoutOf?_reflowed hstep)
  refine ⟨⟨?_, ?_⟩, ?_⟩
  · rintro ⟨m, hm⟩
    exact ⟨_, compile_of_layoutOf? hlayout hm⟩
  · rintro ⟨m', hm'⟩
    exact ⟨_, compile_of_layoutOf? hlayout.symm hm'⟩
  · intro m m' hm hm'
    rw [compile_of_layoutOf? hlayout hm] at hm'
    cases hm'
    refine ⟨rfl, rfl, fun t => ?_⟩
    have hscan : ({ m with source := pattern' } : Matcher).scan t = m.scan t :=
      scanFrom_source m pattern' t _ _ _
    have hfind : ({ m with source := pattern' } : Matcher).findAll t = m.findAll t :=
      congrArg (fun scan => scan.found.map (m.classify t)) hscan
    refine ⟨hscan, ?_, ?_, hfind, ?_⟩
    · exact congrArg (fun scan => !scan.found.isEmpty) hscan
    · exact congrArg (fun scan => scan.found.map (Matcher.spanOf t)) hscan
    · exact congrArg (fun found => found.head?.getD {}) hfind

/-- An assignment on one line. -/
def assignment : List Char :=
  "$a".toList ++ ([' '] ++ "= REGEX(x y)".toList)

/-- The same on two lines of its own. -/
def brokenAssignment : List Char :=
  ['\n'] ++ ("$a".toList ++ (['\n', '\t'] ++ "= REGEX(x y)".toList))

theorem reflowed_assignment : Relation.ReflTransGen Reflowed assignment brokenAssignment := by
  have hfront : extract "$a".toList = .ok [.token (.variable (.named ['a']))] := by decide +kernel
  have hspace : AllBlank [' '] := List.forall_mem_singleton.mpr (by decide)
  have hline : AllBlank ['\n'] := List.forall_mem_singleton.mpr (by decide)
  have hindent : AllBlank ['\n', '\t'] :=
    List.forall_mem_cons.mpr ⟨by decide, List.forall_mem_singleton.mpr (by decide)⟩
  have hbetween : Reflowed assignment
      ("$a".toList ++ (['\n', '\t'] ++ "= REGEX(x y)".toList)) :=
    .between hfront hspace hindent (List.cons_ne_nil _ _) (List.cons_ne_nil _ _)
  have hfirst : Reflowed ([] ++ ("$a".toList ++ (['\n', '\t'] ++ "= REGEX(x y)".toList)))
      brokenAssignment :=
    .first (List.forall_mem_nil _) hline
  exact .tail (.single hbetween) hfirst

theorem compile_reflowed_assignment : Relation.ReflTransGen Reflowed assignment brokenAssignment ∧
    ∃ m m', Matcher.compile assignment {} = .ok m ∧ Matcher.compile brokenAssignment {} = .ok m' ∧
      m'.expr = m.expr ∧ m'.groups = m.groups ∧ ∀ t, m'.findAll t = m.findAll t := by
  obtain ⟨hiff, hsame⟩ := compile_reflowed reflowed_assignment {}
  have hok : (Matcher.compile assignment {}).isOk = true := by decide +kernel
  obtain ⟨m, hm⟩ : ∃ m, Matcher.compile assignment {} = .ok m := by
    cases hm : Matcher.compile assignment {} with
    | error e =>
      rw [hm] at hok
      cases hok
    | ok m => exact ⟨m, rfl⟩
  obtain ⟨m', hm'⟩ := hiff.mp ⟨m, hm⟩
  obtain ⟨hexpr, hgroups, hfound⟩ := hsame m m' hm hm'
  refine ⟨reflowed_assignment, m, m', hm, hm', hexpr, hgroups, fun t => ?_⟩
  obtain ⟨-, -, -, hfind, -⟩ := hfound t
  exact hfind

end CodeShape.Pattern
