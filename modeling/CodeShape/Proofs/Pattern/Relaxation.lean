import Mathlib.Algebra.Order.BigOperators.Group.List
import Mathlib.Algebra.Order.Group.Nat
import CodeShape.Proofs.Pattern.Layout
import CodeShape.Proofs.Pattern.Matching
import CodeShape.Proofs.Regex.Spending

/-!
# Relaxing does not change what matches

A pattern is searched for with its blanks merged and those at its ends dropped. A match may then begin
later and end earlier, and there are fewer ways to go back to, but whether there is a match does not
change (`relax_isMatch`): blanks stand for any number of blanks, also for none, so that a text can be
split into parts for the segments just if a part of it can be split for their layout
(`covers_layout`).
-/

namespace CodeShape.Pattern

open Regex (Expr Method Occurs Searcher)
open Regex.Automaton (leafCount)

variable {text : Array Char} {segs more : List Segment} {s : Segment} {b b' : Bindings} {i k : Nat}

/-! ## Texts that segments stand for -/

/-- From `i` to `k` the text can be split into parts for the segments. -/
def Covers (text : Array Char) (b : Bindings) (i : Nat) (segs : List Segment) (k : Nat)
    (b' : Bindings) : Prop :=
  ∃ ps, ps.map (·.segment) = segs ∧ Splits text b i ps k b'

theorem Covers.le (h : Covers text b i segs k b') : i ≤ k ∧ k ≤ text.size := by
  obtain ⟨ps, -, hsplits⟩ := h
  exact hsplits.le

theorem covers_append (segs more : List Segment) : Covers text b i (segs ++ more) k b' ↔
    ∃ j b₁, Covers text b i segs j b₁ ∧ Covers text b₁ j more k b' := by
  constructor
  · intro h
    obtain ⟨ps, hps, hsplits⟩ := h
    obtain ⟨qs, rs, rfl, hqs, hrs⟩ := List.map_eq_append_iff.mp hps
    obtain ⟨j, b₁, hfront, hback⟩ := hsplits.of_append
    exact ⟨j, b₁, ⟨qs, hqs, hfront⟩, ⟨rs, hrs, hback⟩⟩
  · intro h
    obtain ⟨j, b₁, ⟨qs, hqs, hfront⟩, ⟨rs, hrs, hback⟩⟩ := h
    exact ⟨qs ++ rs, by rw [List.map_append, hqs, hrs], hfront.append hback⟩

theorem covers_space : Covers text b i [.space] k b' ↔
    b' = b ∧ ∃ cs, Occurs text cs i k ∧ ∀ c ∈ cs, Unicode.isBlank c = true := by
  constructor
  · intro h
    obtain ⟨ps, hps, hsplits⟩ := h
    obtain ⟨p, rfl, hp⟩ := List.map_eq_singleton_iff.mp hps
    cases hsplits with
    | space hcs hblank rest =>
      cases rest
      exact ⟨rfl, _, hcs, hblank⟩
    | text _ _ => cases hp
    | first _ _ _ _ _ => cases hp
    | again _ _ _ _ => cases hp
  · intro h
    obtain ⟨rfl, cs, hcs, hblank⟩ := h
    exact ⟨[⟨.space, i, k⟩], rfl, .space hcs hblank (.nil hcs.le_size)⟩

/-- Blanks may be none. -/
theorem covers_no_blanks (b : Bindings) (hi : i ≤ text.size) : Covers text b i [.space] i b :=
  covers_space.mpr ⟨rfl, [], Regex.occurs_nil.mpr ⟨rfl, hi⟩, List.forall_mem_nil _⟩

/-! ## Dropping blanks -/

/-- Blanks beside blanks stand for nothing else than blanks. -/
theorem covers_two_spaces :
    Covers text b i [.space, .space] k b' ↔ Covers text b i [.space] k b' := by
  constructor
  · intro h
    obtain ⟨j, b₁, hfirst, hsecond⟩ := (covers_append [.space] _).mp h
    obtain ⟨rfl, cs, hcs, hblank⟩ := covers_space.mp hfirst
    obtain ⟨rfl, ds, hds, hblank'⟩ := covers_space.mp hsecond
    refine covers_space.mpr ⟨rfl, cs ++ ds, Regex.occurs_append.mpr ⟨j, hcs, hds⟩, ?_⟩
    exact List.forall_mem_append.mpr ⟨hblank, hblank'⟩
  · intro h
    have hi : i ≤ text.size := Nat.le_trans h.le.1 h.le.2
    exact (covers_append [.space] _).mpr ⟨i, b, covers_no_blanks b hi, h⟩

theorem covers_mergeBlanks (segs : List Segment) :
    Covers text b i (mergeBlanks segs) k b' ↔ Covers text b i segs k b' := by
  fun_induction mergeBlanks segs generalizing b i with
  | case1 rest ih =>
    calc Covers text b i (mergeBlanks (.space :: rest)) k b'
        ↔ Covers text b i ([.space] ++ rest) k b' := ih
      _ ↔ Covers text b i ([.space, .space] ++ rest) k b' := by
        rw [covers_append, covers_append]
        simp only [covers_two_spaces]
  | case2 s rest _ ih =>
    show Covers text b i ([s] ++ mergeBlanks rest) k b' ↔ Covers text b i ([s] ++ rest) k b'
    rw [covers_append, covers_append]
    simp only [ih]
  | case3 => exact Iff.rfl

/-- Without the blanks at the beginning, what is covered may begin later. -/
theorem covers_dropFirstBlank (segs : List Segment) :
    (∃ i, Covers text b i (dropFirstBlank segs) k b') ↔ ∃ i, Covers text b i segs k b' := by
  cases segs with
  | nil => exact Iff.rfl
  | cons s rest =>
    cases s with
    | text quoted => exact Iff.rfl
    | token t => exact Iff.rfl
    | space =>
      constructor
      · intro h
        obtain ⟨i, h⟩ := h
        have hi : i ≤ text.size := Nat.le_trans h.le.1 h.le.2
        exact ⟨i, (covers_append [.space] _).mpr ⟨i, b, covers_no_blanks b hi, h⟩⟩
      · intro h
        obtain ⟨i, h⟩ := h
        obtain ⟨j, b₁, hblanks, hrest⟩ := (covers_append [.space] _).mp h
        obtain ⟨rfl, -⟩ := covers_space.mp hblanks
        exact ⟨j, hrest⟩

/-- Without the blanks at the end, what is covered may end earlier. -/
theorem covers_dropLastBlank (segs : List Segment) :
    (∃ k, Covers text b i (dropLastBlank segs) k b') ↔ ∃ k, Covers text b i segs k b' := by
  rcases List.eq_nil_or_concat segs with rfl | ⟨init, s, rfl⟩
  · exact Iff.rfl
  rw [List.concat_eq_append, dropLastBlank_concat]
  by_cases hs : s = .space
  · subst hs
    rw [if_pos rfl]
    constructor
    · intro h
      obtain ⟨k, h⟩ := h
      exact ⟨k, (covers_append _ [.space]).mpr ⟨k, b', h, covers_no_blanks b' h.le.2⟩⟩
    · intro h
      obtain ⟨k, h⟩ := h
      obtain ⟨j, b₁, hinit, hblanks⟩ := (covers_append _ [.space]).mp h
      obtain ⟨rfl, -⟩ := covers_space.mp hblanks
      exact ⟨j, hinit⟩
  · rw [if_neg hs]

/-- **A text has a part for the layout of segments** just if it has one for the segments. -/
theorem covers_layout (segs : List Segment) :
    (∃ i k, Covers text b i (layout segs) k b') ↔ ∃ i k, Covers text b i segs k b' := by
  have hfirst (k : Nat) : (∃ i, Covers text b i (dropFirstBlank (mergeBlanks segs)) k b') ↔
      ∃ i, Covers text b i segs k b' := by
    rw [covers_dropFirstBlank]
    exact exists_congr fun i => covers_mergeBlanks segs
  unfold layout
  simp only [covers_dropLastBlank]
  rw [exists_comm, exists_comm (p := fun i k => Covers text b i segs k b')]
  exact exists_congr hfirst

/-! ## Sizes -/

theorem itemsFrom_mergeBlanks (c : Captures) (segs : List Segment) :
    (itemsFrom c (mergeBlanks segs)).Sublist (itemsFrom c segs) := by
  fun_induction mergeBlanks segs generalizing c with
  | case1 rest ih => exact (ih c).cons _
  | case2 s rest _ ih => exact (List.Sublist.refl _).append (ih _)
  | case3 => exact .refl _

/-- Laying out drops items and adds none. -/
theorem itemsFrom_layout (c : Captures) (segs : List Segment) :
    (itemsFrom c (layout segs)).Sublist (itemsFrom c segs) := by
  have hfirst (segs : List Segment) :
      (itemsFrom c (dropFirstBlank segs)).Sublist (itemsFrom c segs) := by
    cases segs with
    | nil => exact .refl _
    | cons s rest =>
      cases s with
      | space => exact List.sublist_cons_self _ _
      | text quoted => exact .refl _
      | token t => exact .refl _
  have hlast (segs : List Segment) :
      (itemsFrom c (dropLastBlank segs)).Sublist (itemsFrom c segs) := by
    rcases List.eq_nil_or_concat segs with rfl | ⟨init, s, rfl⟩
    · exact .refl _
    rw [List.concat_eq_append, dropLastBlank_concat]
    split
    · rw [itemsFrom_append]
      exact List.sublist_append_left _ _
    · exact .refl _
  exact (hlast _).trans ((hfirst _).trans (itemsFrom_mergeBlanks c segs))

theorem leafCount_layout (segs : List Segment) :
    leafCount (expressionOf (layout segs)) ≤ leafCount (expressionOf segs) := by
  unfold expressionOf
  rw [Expr.cats_leafCount, Expr.cats_leafCount]
  exact ((itemsFrom_layout {} segs).map leafCount).sum_le_sum fun _ _ => Nat.zero_le _

/-! ## Searching -/

/-- What is compiled searches for the expression of the segments. -/
theorem method_of_compile (hsegs : ∀ s ∈ segs, s.IsPlain) {s : Searcher}
    (hs : Searcher.compile (assemble (bind segs).1) = .ok s) :
    Method.ofExpr (expressionOf segs) = .ok s.method := by
  rw [compile_assemble hsegs] at hs
  obtain ⟨method, hmethod, rfl⟩ := map_eq_ok_iff.mp hs
  exact hmethod

theorem compile_assemble_ok_iff (hsegs : ∀ s ∈ segs, s.IsPlain) :
    (∃ s, Searcher.compile (assemble (bind segs).1) = .ok s) ↔
      leafCount (expressionOf segs) ≤ Regex.maxLeaves := by
  rw [← Regex.method_ok_iff (expressionOf_orderly hsegs)]
  constructor
  · intro h
    obtain ⟨s, hs⟩ := h
    exact ⟨s.method, method_of_compile hsegs hs⟩
  · intro h
    obtain ⟨method, hmethod⟩ := h
    rw [compile_assemble hsegs, hmethod]
    exact ⟨_, rfl⟩

/-- Laid out segments are no larger than before. -/
theorem compile_layout (hsegs : ∀ s ∈ segs, s.IsPlain)
    (h : ∃ s, Searcher.compile (assemble (bind segs).1) = .ok s) :
    ∃ s, Searcher.compile (assemble (bind (layout segs)).1) = .ok s := by
  rw [compile_assemble_ok_iff hsegs] at h
  rw [compile_assemble_ok_iff fun s hs => hsegs s (mem_of_mem_layout hs)]
  exact Nat.le_trans (leafCount_layout segs) h

/-- **There is a match** just if a part of the text can be split into parts for the segments. -/
theorem isMatch_iff_covers (hsegs : ∀ s ∈ segs, s.IsPlain) {s : Searcher} {budget : Nat}
    (hs : Searcher.compile (assemble (bind segs).1) = .ok s)
    (hlasts : s.search budget text 0 (some 0) ≠ .exhausted) :
    s.isMatch budget text = true ↔ ∃ b i k, Covers text [] i segs k b := by
  rw [Searcher.isMatch_iff (expressionOf_orderly hsegs) (zero_not_mem_groups hsegs)
    (method_of_compile hsegs hs) hlasts, expressionOf, Expr.ways_cats]
  constructor
  · intro h
    obtain ⟨i, hi, hne⟩ := h
    obtain ⟨w, hw⟩ := List.exists_mem_of_ne_nil _ hne
    obtain ⟨ps, b, hps, hsplits, -⟩ :=
      splits_of_mem_ways hsegs (tracks_empty text [(0, some i)]) hi hw
    exact ⟨b, i, w.1, ps, hps, hsplits⟩
  · intro h
    obtain ⟨b, i, k, ps, rfl, hsplits⟩ := h
    obtain ⟨w, hw, -⟩ := mem_ways_of_splits (t := ⟨text, some 0⟩) hsegs hsplits
      (tracks_empty text [(0, some i)])
    exact ⟨i, Nat.le_trans hsplits.le.1 hsplits.le.2, List.ne_nil_of_mem hw⟩

/-- **Relaxing does not change whether a text matches.** What the fragments of segments without raw
expressions are assembled to matches in a text just if what they are assembled to relaxed does,
whenever both can be compiled and both searches come to an answer. Whatever can be compiled can be
compiled relaxed. -/
theorem relax_isMatch (hsegs : ∀ s ∈ segs, s.IsPlain) :
    ((∃ s, Searcher.compile (assemble (bind segs).1) = .ok s) →
        ∃ s, Searcher.compile (assemble (relax (bind segs).1)) = .ok s) ∧
      ∀ s s', Searcher.compile (assemble (bind segs).1) = .ok s →
        Searcher.compile (assemble (relax (bind segs).1)) = .ok s' →
        ∀ text budget budget', s.search budget text 0 (some 0) ≠ .exhausted →
          s'.search budget' text 0 (some 0) ≠ .exhausted →
          (s'.isMatch budget' text = true ↔ s.isMatch budget text = true) := by
  have hlayout : (bind (layout segs)).1 = relax (bind segs).1 :=
    congrArg Prod.fst (bind_layout segs)
  rw [← hlayout]
  refine ⟨compile_layout hsegs, fun s s' hs hs' text budget budget' hlasts hlasts' => ?_⟩
  rw [isMatch_iff_covers hsegs hs hlasts,
    isMatch_iff_covers (fun s hs => hsegs s (mem_of_mem_layout hs)) hs' hlasts']
  exact exists_congr fun b => covers_layout segs

/-- The segments of ` $a  = $a `: an identifier, an equals sign and the identifier again, with blanks
around all of them. -/
def spacedSegments : List Segment :=
  [.space, .token (.variable (.named ['a'])), .space, .space, .text ['='], .space,
    .token (.variable (.named ['a'])), .space]

theorem plain_spaced : ∀ s ∈ spacedSegments, s.IsPlain := by
  intro s hs
  simp only [spacedSegments, List.mem_cons, List.not_mem_nil, or_false] at hs
  rcases hs with rfl | rfl | rfl | rfl | rfl | rfl | rfl | rfl
  · trivial
  · exact nofun
  · trivial
  · trivial
  · rfl
  · trivial
  · exact nofun
  · trivial

/-- For every text some budget is enough for both searches, and they agree. -/
theorem relax_isMatch_spaced :
    ∃ s s', Searcher.compile (assemble (bind spacedSegments).1) = .ok s ∧
      Searcher.compile (assemble (relax (bind spacedSegments).1)) = .ok s' ∧
      ∀ text, ∃ enough, ∀ budget, enough ≤ budget →
        (s'.isMatch budget text = true ↔ s.isMatch budget text = true) := by
  obtain ⟨hrelaxed, hiff⟩ := relax_isMatch plain_spaced
  have hsize : leafCount (expressionOf spacedSegments) ≤ Regex.maxLeaves := by decide
  obtain ⟨s, hs⟩ := (compile_assemble_ok_iff plain_spaced).mpr hsize
  obtain ⟨s', hs'⟩ := hrelaxed ⟨s, hs⟩
  refine ⟨s, s', hs, hs', fun text => ?_⟩
  obtain ⟨enough, hlasts⟩ := s.exists_lasts text
  obtain ⟨enough', hlasts'⟩ := s'.exists_lasts text
  refine ⟨max enough enough', fun budget hbudget => hiff s s' hs hs' text budget budget ?_ ?_⟩
  · exact hlasts budget (by omega) 0 (some 0) (Nat.zero_le _) (Or.inr rfl)
  · exact hlasts' budget (by omega) 0 (some 0) (Nat.zero_le _) (Or.inr rfl)

end CodeShape.Pattern
