import Mathlib.Data.List.Induction
import CodeShape.Proofs.Pattern.Records
import CodeShape.Proofs.Regex.Cursor

/-!
# The matches of a pattern are its splits

A way of a segment is a part that stands for it (`part_of_mem_ways`, `mem_ways_of_part`), the slots
of the captures telling what the placeholders stand for (`Tracks`). So the ways of the expression of
some segments are the splits of the text into parts for them (`splits_of_mem_ways`,
`mem_ways_of_splits`). From there to what a scan reports it is a short way: each match of a scan was
found by a search, so that it is the first of these ways (`ways_of_found`) and a split gives its
place and its classified captures (`splits_of_found`), and if there is a split at all, the first
match begins no later than any of them (`first_found`).
-/

namespace CodeShape.Pattern

open Regex (Expr Occurs Slots Subject Way Ways)
open Grammar (blanksItem)

variable {t : Subject} {c : Captures} {b b' : Bindings} {slots : Slots} {i j k : Nat}

/-! ## What the slots tell -/

/-- The slots hold where the placeholders have been used first: captures, bindings and groups are
numbered alike. -/
structure Tracks (text : Array Char) (c : Captures) (b : Bindings) (slots : Slots) : Prop where
  categories : c.categories = b.map (·.1.1)
  bound : ∀ key, c.bound.lookup key = none ↔ b.lookup key = none
  number : ∀ key n, c.bound.lookup key = some n → ∃ cs, b[n]? = some (key, cs) ∧
    b.lookup key = some cs
  slots : ∀ n key cs, b[n]? = some (key, cs) →
    ∃ i j, slots.span? (n + 1) = some (i, j) ∧ Occurs text cs i j

theorem Tracks.size_eq {text : Array Char} (h : Tracks text c b slots) : c.size = b.length := by
  unfold Captures.size
  rw [h.categories, List.length_map]

theorem tracks_empty (text : Array Char) (slots : Slots) : Tracks text {} [] slots :=
  ⟨rfl, fun _ => iff_of_true rfl rfl, nofun, nofun⟩

/-- What is tracked is held, each capture having the group behind its number. -/
theorem tracks_iff {text : Array Char} :
    Tracks text c b slots ↔ Holds (· + 1) text c b.taken slots := by
  constructor
  · intro h
    refine ⟨?_, fun key => ?_, fun key n hn => ?_, fun n r hn => ?_⟩
    · rw [h.categories, Bindings.taken, List.map_map]
      rfl
    · rw [Bindings.bindings_taken]
      exact h.bound key
    · obtain ⟨cs, hget, hlook⟩ := h.number key n hn
      rw [Bindings.bindings_taken]
      exact ⟨cs, Bindings.getElem?_taken.mpr hget, hlook⟩
    · obtain ⟨⟨key, cs⟩, hget, rfl⟩ : ∃ p, b[n]? = some p ∧ (some p.1, p.2) = r := by
        rw [Bindings.taken, List.getElem?_map] at hn
        exact Option.map_eq_some_iff.mp hn
      exact h.slots n key cs hget
  · intro h
    refine ⟨?_, fun key => ?_, fun key n hn => ?_, fun n key cs hn => ?_⟩
    · rw [h.categories, Bindings.taken, List.map_map]
      rfl
    · rw [h.bound key, Bindings.bindings_taken]
    · obtain ⟨cs, hget, hlook⟩ := h.number key n hn
      rw [Bindings.bindings_taken] at hlook
      exact ⟨cs, Bindings.getElem?_taken.mp hget, hlook⟩
    · exact h.slots n _ (Bindings.getElem?_taken.mpr hn)

/-! ## From ways to splits -/

/-- **A way of a segment is a part**: behind it the slots track what is bound then, and what is split
from there is what is split behind the part. -/
theorem part_of_mem_ways {s : Segment} (hs : s.IsPlain) {v : Way}
    (htracks : Tracks t.text c b slots) (hi : i ≤ t.text.size)
    (hv : v ∈ Ways.chain ((segmentItems c s).map (Expr.ways t)) i slots) :
    ∃ b₁, v.1 ≤ t.text.size ∧ Tracks t.text (bindOne c s).2 b₁ v.2 ∧
      ∀ ps k b', Splits t.text b i (⟨s, i, v.1⟩ :: ps) k b' ↔ Splits t.text b₁ v.1 ps k b' := by
  rw [← segmentItemsAt_succ] at hv
  have hnum : c.size < (bindOne c s).2.size → ∀ n < c.size, n + 1 ≠ c.size + 1 := by
    intro _ n hn
    omega
  obtain ⟨more, hsize, hholds, hpart⟩ := (tracks_iff.mp htracks).part hs hnum hi hv
  rw [Bindings.bindings_taken] at hpart
  have hboth : b.taken ++ more.taken = Bindings.taken (b ++ more) := List.map_append.symm
  exact ⟨b ++ more, hsize, tracks_iff.mpr (hboth ▸ hholds), hpart⟩

/-- **A part is a way of its segment.** -/
theorem mem_ways_of_part {p : Part} {ps : List Part} (hp : p.segment.IsPlain)
    (htracks : Tracks t.text c b slots) (h : Splits t.text b i (p :: ps) k b') :
    ∃ v ∈ Ways.chain ((segmentItems c p.segment).map (Expr.ways t)) i slots, v.1 = p.stop := by
  cases h with
  | @space _ _ _ j _ _ cs hcs hblank _ =>
    refine ⟨(j, slots), ?_, rfl⟩
    rw [segmentItems, List.map_singleton, Ways.chain_singleton]
    exact (Grammar.takes_blanks t i slots _ (Nat.le_trans hcs.le hcs.le_size)).mpr
      ⟨rfl, cs, hcs, hblank⟩
  | @text _ _ _ j _ _ quoted hcs _ =>
    exact ⟨(j, slots), (mem_ways_text (Nat.le_trans hcs.le hcs.le_size)).mpr ⟨rfl, hcs⟩, rfl⟩
  | @first _ _ _ j _ _ token key cs hkey hnew hword hcs _ =>
    obtain ⟨-, hitem⟩ := bindToken_first hkey ((htracks.bound key).mpr hnew)
    refine ⟨(j, (2 * (c.size + 1) + 1, some j) :: (2 * (c.size + 1), some i) :: slots), ?_, rfl⟩
    rw [segmentItems, List.map_singleton, Ways.chain_singleton, hitem]
    exact (mem_ways_first hp (Nat.le_trans hcs.le hcs.le_size)).mpr ⟨hword, rfl⟩
  | @again _ _ _ j _ _ token key cs hkey hbound hcs _ =>
    obtain ⟨n, hn⟩ : ∃ n, c.bound.lookup key = some n := by
      rw [← Option.ne_none_iff_exists']
      intro hnone
      rw [(htracks.bound key).mp hnone] at hbound
      cases hbound
    obtain ⟨-, hitem⟩ := bindToken_again hkey hn
    obtain ⟨cs', hget, hlook⟩ := htracks.number key n hn
    obtain rfl := Option.some.inj (hbound.symm.trans hlook)
    refine ⟨(j, slots), ?_, rfl⟩
    rw [segmentItems, List.map_singleton, Ways.chain_singleton, hitem]
    exact ((tracks_iff.mp htracks).mem_ways_again (Bindings.getElem?_taken.mpr hget)
      (Nat.le_trans hcs.le hcs.le_size)).mpr ⟨rfl, hcs⟩

/-- **Every way of the items is a split**, and the slots track its bindings. -/
theorem splits_of_mem_ways {segs : List Segment} (hsegs : ∀ s ∈ segs, s.IsPlain) {w : Way}
    (htracks : Tracks t.text c b slots) (hi : i ≤ t.text.size)
    (hw : w ∈ Ways.chain ((itemsFrom c segs).map (Expr.ways t)) i slots) :
    ∃ ps b', ps.map (·.segment) = segs ∧ Splits t.text b i ps w.1 b' ∧
      Tracks t.text (bindFrom c segs).2 b' w.2 := by
  induction segs generalizing c b i slots with
  | nil =>
    rw [itemsFrom, List.map_nil, Ways.chain_nil, List.mem_singleton] at hw
    rw [hw]
    exact ⟨[], b, rfl, .nil hi, htracks⟩
  | cons s segs ih =>
    obtain ⟨hs, hrest⟩ := List.forall_mem_cons.mp hsegs
    rw [itemsFrom, List.map_append, Ways.chain_append] at hw
    -- `v` is where the way stands behind the first segment, with the slots it has set by then
    obtain ⟨v, hv, hw⟩ := Ways.mem_andThen.mp hw
    obtain ⟨b₁, hsize, htracks₁, hpart⟩ := part_of_mem_ways hs htracks hi hv
    obtain ⟨ps, b', rfl, hsplits, htracks'⟩ := ih hrest htracks₁ hsize hw
    rw [bindFrom_cons]
    exact ⟨⟨s, i, v.1⟩ :: ps, b', rfl, (hpart ps w.1 b').mpr hsplits, htracks'⟩

/-- **Every split is a way of the items.** -/
theorem mem_ways_of_splits {ps : List Part} (hsegs : ∀ s ∈ ps.map (·.segment), s.IsPlain)
    (h : Splits t.text b i ps k b') (htracks : Tracks t.text c b slots) :
    ∃ w ∈ Ways.chain ((itemsFrom c (ps.map (·.segment))).map (Expr.ways t)) i slots,
      w.1 = k := by
  induction ps generalizing c b i slots with
  | nil =>
    refine ⟨(i, slots), ?_, h.stop_eq.symm⟩
    rw [List.map_nil, itemsFrom, List.map_nil, Ways.chain_nil]
    exact List.mem_singleton.mpr rfl
  | cons p ps ih =>
    rw [List.map_cons, List.forall_mem_cons] at hsegs
    have hi : i ≤ t.text.size := Nat.le_trans h.le.1 h.le.2
    obtain ⟨v, hv, hstop⟩ := mem_ways_of_part hsegs.1 htracks h
    obtain ⟨b₁, -, htracks₁, hpart⟩ := part_of_mem_ways hsegs.1 htracks hi hv
    have hp : p = ⟨p.segment, i, v.1⟩ := by rw [hstop, ← h.tail.1]
    rw [hp] at h
    obtain ⟨w, hw, hk⟩ := ih hsegs.2 ((hpart ps k b').mp h) htracks₁
    refine ⟨w, ?_, hk⟩
    rw [List.map_cons, itemsFrom, List.map_append, Ways.chain_append]
    exact Ways.mem_andThen.mpr ⟨v, hv, hw⟩

/-! ## What is built -/

/-- What is built holds the limits that it was built with, and searches for some expression. -/
theorem of_build {source expr : List Char} {captures : Captures} {limits : Limits} {m : Matcher}
    (h : Matcher.build source expr captures limits = .ok m) :
    m.limits = limits ∧ ∃ e, Regex.Method.ofExpr e = .ok m.searcher.method := by
  obtain ⟨searcher, hcompile, rfl⟩ := build_eq_ok_iff.mp h
  exact ⟨rfl, Regex.Searcher.exists_expr hcompile⟩

/-- A pattern is built from what its pieces are assembled into, and a literal text from its
quotation. -/
theorem build_of_compiled {source : List Char} {limits : Limits} {m : Matcher}
    (h : Matcher.compile source limits = .ok m ∨ Matcher.literal source limits = .ok m) :
    ∃ expr captures, Matcher.build source expr captures limits = .ok m := by
  rcases h with hcompile | hliteral
  · obtain ⟨pieces, -, hbuild⟩ := bind_eq_ok_iff.mp hcompile
    exact ⟨_, _, hbuild⟩
  · exact ⟨_, _, hliteral⟩

/-! ## What a scan reports -/

/-- The captured texts by category, in the order in which they were bound. -/
def Bindings.texts (b : Bindings) : List (Category × String) :=
  b.map fun p => (p.1.1, String.ofList p.2)

theorem filterMap_range_eq_map {α β : Type} {l : List α} {f : Nat → Option β} {g : α → β}
    (h : ∀ n a, l[n]? = some a → f n = some (g a)) :
    (List.range l.length).filterMap f = l.map g := by
  induction l using List.reverseRecOn with
  | nil => rfl
  | append_singleton l a ih =>
    have hlast : f l.length = some (g a) := h l.length a List.getElem?_concat_length
    have hinit : ∀ n a', l[n]? = some a' → f n = some (g a') := by
      intro n a' hn
      refine h n a' ?_
      rw [List.getElem?_append_left (List.getElem?_eq_some_iff.mp hn).1]
      exact hn
    rw [List.length_append, List.length_singleton, List.range_succ, List.filterMap_append,
      ih hinit, List.filterMap_cons, hlast, List.map_append]
    rfl

/-- What the groups of a matcher have captured is what the bindings hold. -/
theorem classify_eq {m : Matcher} (hgroups : m.groups = groupsOf c) (text : Text)
    (htracks : Tracks text.chars c b slots) (start stop : Nat) :
    m.classify text ⟨start, stop, Regex.Automaton.complete slots stop⟩
      = MatchResult.classify b.texts := by
  have hspan (n : Nat) : Regex.Match.span?
      ⟨start, stop, Regex.Automaton.complete slots stop⟩ (n + 1) = slots.span? (n + 1) := by
    unfold Regex.Match.span? Regex.Automaton.complete Slots.span?
    rw [if_neg (Nat.succ_ne_zero n)]
    dsimp only
    rw [Regex.Slots.get?_cons, Regex.Slots.get?_cons, if_neg (by omega), if_neg (by omega)]
  unfold Matcher.classify
  rw [hgroups, groupsOf, List.filterMap_filterMap, htracks.size_eq]
  congr 1
  refine filterMap_range_eq_map fun n p hp => ?_
  obtain ⟨⟨category, id⟩, cs⟩ := p
  obtain ⟨i, j, hij, hocc⟩ := htracks.slots n _ cs hp
  have hcategory : c.categories[n]? = some category := by
    rw [htracks.categories, List.getElem?_map, hp]
    rfl
  rw [hcategory, Option.map_some, Option.bind_some]
  dsimp only
  rw [hspan, hij, Option.map_some]
  show some (category, String.ofList (text.chars.extract i j).toList) = _
  rw [hocc.eq]

section Scan

variable {m : Matcher} {text : Text} {fuel : Nat} {found : List Regex.Match}
  {cursor cursor' : Regex.Cursor} {f : Regex.Match}

theorem scanFrom_of_missing
    (h : m.searcher.next m.limits.backtrackLimit text.chars cursor = (.missing, cursor')) :
    m.scanFrom text (fuel + 1) found cursor = ⟨found.reverse, .noMore⟩ := by
  rw [Matcher.scanFrom, h]

theorem scanFrom_of_exhausted
    (h : m.searcher.next m.limits.backtrackLimit text.chars cursor = (.exhausted, cursor')) :
    m.scanFrom text (fuel + 1) found cursor = ⟨found.reverse, .exhausted⟩ := by
  rw [Matcher.scanFrom, h]

theorem scanFrom_of_found
    (h : m.searcher.next m.limits.backtrackLimit text.chars cursor = (.found f, cursor')) :
    m.scanFrom text (fuel + 1) found cursor
      = if m.limits.maxMatches ≤ found.length then ⟨found.reverse, .full⟩
        else if found.any fun g => g.start == f.start && g.stop == f.stop then
          ⟨found.reverse, .repeated (text.offset f.start)⟩
        else m.scanFrom text fuel (f :: found) cursor' := by
  rw [Matcher.scanFrom, h]

end Scan

/-- Every match of a scan is what came next for some cursor. -/
theorem next_of_mem_scanFrom (m : Matcher) (text : Text) {fuel : Nat} {cursor : Regex.Cursor}
    {found : List Regex.Match} {f : Regex.Match}
    (hf : f ∈ (m.scanFrom text fuel found cursor).found) :
    f ∈ found ∨ ∃ c c', m.searcher.next m.limits.backtrackLimit text.chars c = (.found f, c') := by
  fun_induction Matcher.scanFrom m text fuel found cursor with
  | case1 found cursor => exact .inl (List.mem_reverse.mp hf)
  | case2 fuel found cursor cursor' hnext => exact .inl (List.mem_reverse.mp hf)
  | case3 fuel found cursor cursor' hnext => exact .inl (List.mem_reverse.mp hf)
  | case4 fuel found cursor g cursor' hnext hfull => exact .inl (List.mem_reverse.mp hf)
  | case5 fuel found cursor g cursor' hnext hroom hagain => exact .inl (List.mem_reverse.mp hf)
  | case6 fuel found cursor g cursor' hnext hroom hnew ih =>
    rcases ih hf with hmem | hlater
    · rcases List.mem_cons.mp hmem with rfl | hmem
      · exact .inr ⟨cursor, cursor', hnext⟩
      · exact .inl hmem
    · exact .inr hlater

/-- Every match of a scan has been found by a search. -/
theorem search_of_mem_scan (m : Matcher) (text : Text) {f : Regex.Match}
    (hf : f ∈ (m.scan text).found) :
    ∃ start origin, start ≤ text.chars.size ∧
      m.searcher.search m.limits.backtrackLimit text.chars start origin = .found f := by
  rcases next_of_mem_scanFrom m text hf with hnil | ⟨c, c', hnext⟩
  · exact absurd hnil List.not_mem_nil
  · obtain ⟨-, start, origin, -, hstart, hsearch⟩ := Regex.Searcher.next_moves hnext
    exact ⟨start, origin, hstart, hsearch⟩

/-- What has been found already stays in front. -/
theorem prefix_scanFrom (m : Matcher) (text : Text) (fuel : Nat) (cursor : Regex.Cursor)
    (found : List Regex.Match) :
    found.reverse <+: (m.scanFrom text fuel found cursor).found := by
  fun_induction Matcher.scanFrom m text fuel found cursor with
  | case1 found cursor => exact List.prefix_refl _
  | case2 fuel found cursor cursor' hnext => exact List.prefix_refl _
  | case3 fuel found cursor cursor' hnext => exact List.prefix_refl _
  | case4 fuel found cursor g cursor' hnext hfull => exact List.prefix_refl _
  | case5 fuel found cursor g cursor' hnext hroom hagain => exact List.prefix_refl _
  | case6 fuel found cursor g cursor' hnext hroom hnew ih =>
    refine List.IsPrefix.trans ?_ ih
    rw [List.reverse_cons]
    exact List.prefix_append _ _

/-- A scan begins with what the first search finds. -/
theorem head?_scan (m : Matcher) (text : Text) (hmax : 1 ≤ m.limits.maxMatches) {f : Regex.Match}
    (hf : m.searcher.search m.limits.backtrackLimit text.chars 0 (some 0) = .found f) :
    (m.scan text).found.head? = some f := by
  obtain ⟨cursor, hnext⟩ : ∃ cursor, m.searcher.next m.limits.backtrackLimit text.chars {}
      = (.found f, cursor) :=
    ⟨_, Prod.ext ((Regex.Searcher.next_first _ _ _).trans hf) rfl⟩
  obtain ⟨more, hmore⟩ := prefix_scanFrom m text
    ((text.chars.size + 1) * (text.chars.size + 1)) cursor [f]
  rw [Matcher.scan, scanFrom_of_found hnext, List.length_nil, if_neg (Nat.not_le.mpr hmax),
    if_neg nofun, ← hmore]
  rfl

/-! ## The matches of a compiled pattern -/

section Compiled

variable {pattern : List Char} {pieces : List Piece} {limits : Limits} {m : Matcher}

/-- Only its size can keep a pattern without raw expressions from being compiled. -/
theorem compile_ok_iff (hextract : extract pattern = .ok pieces) (hplain : PlainPieces pieces) :
    (∃ m, Matcher.compile pattern limits = .ok m) ↔
      Regex.Automaton.leafCount (expressionOf (layout (normalize pieces))) ≤ Regex.maxLeaves := by
  rw [compile_eq hextract]
  exact build_ok_iff (layout_isPlain hplain) pattern limits

/-- No search for a pattern spends its budget if there is nothing in it to go back for. -/
theorem search_ne_exhausted (hextract : extract pattern = .ok pieces)
    (hplain : PlainPieces pieces) (hm : Matcher.compile pattern limits = .ok m)
    (hregular : (expressionOf (layout (normalize pieces))).needsBacktracking
      (expressionOf (layout (normalize pieces))).recalledGroups = false)
    (budget : Nat) (text : Array Char) (start : Nat) (origin : Option Nat) :
    m.searcher.search budget text start origin ≠ .exhausted := by
  rw [compile_eq hextract] at hm
  obtain ⟨hmethod, -, -⟩ := build_eq (layout_isPlain hplain) hm
  exact Regex.Searcher.search_ne_exhausted hmethod hregular

/-- A match of a scan is the first way of the items, and its captures are what is bound there. -/
theorem ways_of_found (hextract : extract pattern = .ok pieces) (hplain : PlainPieces pieces)
    (hm : Matcher.compile pattern limits = .ok m) (text : Text) {f : Regex.Match}
    (hf : f ∈ (m.scan text).found) :
    ∃ origin slots ws, f.start ≤ text.chars.size ∧
      Ways.chain ((itemsFrom {} (layout (normalize pieces))).map (Expr.ways ⟨text.chars, origin⟩))
        f.start [(0, some f.start)] = (f.stop, slots) :: ws ∧
      ∀ b, Tracks text.chars (bindFrom {} (layout (normalize pieces))).2 b slots →
        m.classify text f = MatchResult.classify b.texts := by
  have hsegs := layout_isPlain hplain
  rw [compile_eq hextract] at hm
  obtain ⟨hmethod, hgroups, -⟩ := build_eq hsegs hm
  obtain ⟨start, origin, hstart, hsearch⟩ := search_of_mem_scan m text hf
  obtain ⟨-, hsize, -, slots, ws, hways, hslots⟩ := Regex.Searcher.search_found
    (expressionOf_orderly hsegs) (zero_not_mem_groups hsegs) hmethod hstart hsearch
  rw [expressionOf, Expr.ways_cats] at hways
  refine ⟨origin, slots, ws, hsize, hways, fun b htracks => ?_⟩
  rw [← classify_eq hgroups text htracks f.start f.stop, ← hslots]

/-- **Every match of a scan is a split** into the parts of the pattern, and what has been captured
is what the placeholders are bound to. -/
theorem splits_of_found (hextract : extract pattern = .ok pieces) (hplain : PlainPieces pieces)
    (hm : Matcher.compile pattern limits = .ok m) (text : Text) {f : Regex.Match}
    (hf : f ∈ (m.scan text).found) :
    ∃ ps b, ps.map (·.segment) = layout (normalize pieces) ∧
      Splits text.chars [] f.start ps f.stop b ∧
      m.classify text f = MatchResult.classify b.texts := by
  obtain ⟨origin, slots, ws, hsize, hways, hclassify⟩ := ways_of_found hextract hplain hm text hf
  obtain ⟨ps, b, hps, hsplits, htracks⟩ := splits_of_mem_ways (layout_isPlain hplain)
    (tracks_empty text.chars _) hsize (List.mem_of_head? (congrArg List.head? hways))
  exact ⟨ps, b, hps, hsplits, hclassify b htracks⟩

/-- **If there is a split at all**, something is found, and no split begins before it. -/
theorem first_found (hextract : extract pattern = .ok pieces) (hplain : PlainPieces pieces)
    (hm : Matcher.compile pattern limits = .ok m) (hmax : 1 ≤ limits.maxMatches) (text : Text)
    (hlasts : m.searcher.search limits.backtrackLimit text.chars 0 (some 0) ≠ .exhausted)
    (hsplit : ∃ ps i k b, ps.map (·.segment) = layout (normalize pieces) ∧
      Splits text.chars [] i ps k b) :
    ∃ f, (m.scan text).found.head? = some f ∧
      ∀ ps i k b, ps.map (·.segment) = layout (normalize pieces) →
        Splits text.chars [] i ps k b → f.start ≤ i := by
  have hsegs := layout_isPlain hplain
  rw [compile_eq hextract] at hm
  obtain ⟨hmethod, -, rfl⟩ := build_eq hsegs hm
  have hways {ps : List Part} {i k : Nat} {b : Bindings}
      (hps : ps.map (·.segment) = layout (normalize pieces))
      (h : Splits text.chars [] i ps k b) :
      (expressionOf (layout (normalize pieces))).ways ⟨text.chars, some 0⟩ i [(0, some i)]
        ≠ [] := by
    obtain ⟨w, hw, -⟩ := mem_ways_of_splits (t := ⟨text.chars, some 0⟩) (by rw [hps]; exact hsegs) h
      (tracks_empty text.chars [(0, some i)])
    rw [hps] at hw
    rw [expressionOf, Expr.ways_cats]
    exact List.ne_nil_of_mem hw
  cases hsearch : m.searcher.search m.limits.backtrackLimit text.chars 0 (some 0) with
  | exhausted => exact absurd hsearch hlasts
  | missing =>
    -- the split gives a way of the expression, but the search says that there is none
    obtain ⟨ps, i, k, b, hps, h⟩ := hsplit
    have hsize : i ≤ text.chars.size := Nat.le_trans h.le.1 h.le.2
    exact absurd (Regex.Searcher.search_missing (expressionOf_orderly hsegs)
      (zero_not_mem_groups hsegs) hmethod (Nat.zero_le _) hsearch (Nat.zero_le i) hsize)
      (hways hps h)
  | found f =>
    obtain ⟨-, -, hbefore, -⟩ := Regex.Searcher.search_found (expressionOf_orderly hsegs)
      (zero_not_mem_groups hsegs) hmethod (Nat.zero_le _) hsearch
    refine ⟨f, head?_scan m text hmax hsearch, fun ps i k b hps h => ?_⟩
    -- the search has passed every place before `f` because it has no way there
    by_contra hlt
    exact hways hps h (hbefore i (Nat.zero_le i) (Nat.not_le.mp hlt))

end Compiled

end CodeShape.Pattern
