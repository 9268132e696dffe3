import CodeShape.Proofs.Pattern.Matching
import CodeShape.Proofs.Regex.Order

/-!
# Which split is preferred

There may be many splits from one place, and a search prefers one of them. Blanks, variables and
greedy blocks would rather end late, lazy blocks early (`Segment.Prefers`), and the parts in front
have their way first. So no part of the preferred split could end where it would rather end unless a
part before it gave way (`Preferred`). The match that a search finds is split like that
(`preferred_of_found`).
-/

namespace CodeShape.Pattern

open Regex (Expr Slots Subject Way Ways)
open Regex.Ways (Ordered Prefers Single)

/-- Whether a segment would rather end at the first position than at the second. -/
def Segment.Prefers : Segment → Nat → Nat → Prop
  | .space, j, k => k < j
  | .token (.variable _), j, k => k < j
  | .token (.block greedy _), j, k => Regex.Ways.Prefers greedy j k
  | _, _, _ => False

/-- No part of a split could end where it would rather end, with the parts before it unchanged. -/
def Preferred (text : Array Char) (b : Bindings) (i : Nat) (ps : List Part) : Prop :=
  ∀ pre p post, ps = pre ++ p :: post → ∀ q more k b', q.segment = p.segment →
    more.map (·.segment) = post.map (·.segment) → p.segment.Prefers q.stop p.stop →
    ¬ Splits text b i (pre ++ q :: more) k b'

/-- The same with a preference that may depend on where a segment begins: `prefers s i j k` says that
`s`, which begins at `i`, would rather end at `j` than at `k`. -/
def PreferredBy (prefers : Segment → Nat → Nat → Nat → Prop) (text : Array Char) (b : Bindings)
    (i : Nat) (ps : List Part) : Prop :=
  ∀ pre p post, ps = pre ++ p :: post → ∀ q more k b', q.segment = p.segment →
    more.map (·.segment) = post.map (·.segment) → prefers p.segment p.start q.stop p.stop →
    ¬ Splits text b i (pre ++ q :: more) k b'

/-- The ways of each segment come in the order of a preference. -/
structure Ranks (t : Subject) (prefers : Segment → Nat → Nat → Nat → Prop) : Prop where
  irrefl : ∀ s i j, ¬ prefers s i j j
  ordered : ∀ c s i slots, i ≤ t.text.size →
    (Ways.chain ((segmentItems c s).map (Expr.ways t)) i slots).Pairwise
      fun v w => ¬ prefers s i w.1 v.1

variable {t : Subject} {c : Captures} {b : Bindings} {slots : Slots} {i j k : Nat}

/-! ## The ways of a segment -/

theorem prefers_asymm {greedy : Bool} (h : Prefers greedy j k) : ¬ Prefers greedy k j := by
  unfold Prefers at h ⊢
  cases greedy
  · exact Nat.not_lt.mpr (Nat.le_of_lt h)
  · exact Nat.not_lt.mpr (Nat.le_of_lt h)

theorem Segment.not_prefers_self (s : Segment) (j : Nat) : ¬ s.Prefers j j := by
  unfold Segment.Prefers
  split
  · exact Nat.lt_irrefl j
  · exact Nat.lt_irrefl j
  · exact fun h => prefers_asymm h h
  · exact id

/-- The longest name is preferred. -/
theorem ordered_variable (t : Subject) :
    ((Expr.cats Grammar.variableItems).ways t).Ordered (Prefers true) := by
  refine Single.andThen_ordered (Regex.Ways.single_looked _) ?_
  refine Single.andThen_ordered (Regex.Ways.single_looked _) ?_
  exact Single.andThen_ordered (Regex.Ways.single_chars t _) (Regex.Ways.ordered_star t _ true)

/-- **The ways of a segment come in the order of its preference.** -/
theorem Segment.ordered (t : Subject) (c : Captures) (s : Segment) :
    (Ways.chain ((segmentItems c s).map (Expr.ways t))).Ordered fun j k => ¬ s.Prefers k j := by
  have hstar (set : Regex.CharSet) (greedy : Bool) :=
    (Regex.Ways.ordered_star t set greedy).imp fun j k => prefers_asymm
  cases s with
  | space =>
    rw [segmentItems, List.map_singleton, Ways.chain_singleton]
    exact hstar .blank true
  | text quoted => exact fun pos slots => List.pairwise_of_forall fun _ _ => id
  | token token =>
    rw [segmentItems, List.map_singleton, Ways.chain_singleton, tokenItem]
    split
    · exact (Regex.Ways.single_backref t _).ordered _
    · refine Ordered.captured ?_ _
      cases token with
      | «variable» id => exact (ordered_variable t).imp fun j k => prefers_asymm
      | block greedy id => exact hstar Grammar.anyChars greedy
      | _ => exact fun pos slots => List.pairwise_of_forall fun _ _ => id

/-! ## The first way of all segments -/

/-- **The first way of the items is a preferred split.** -/
theorem preferredBy_of_head {prefers : Segment → Nat → Nat → Nat → Prop} (hranks : Ranks t prefers)
    {segs : List Segment} (hsegs : ∀ s ∈ segs, s.IsPlain) {w : Way}
    (htracks : Tracks t.text c b slots) (hi : i ≤ t.text.size)
    (hw : (Ways.chain ((itemsFrom c segs).map (Expr.ways t)) i slots).head? = some w) :
    ∃ ps b', ps.map (·.segment) = segs ∧ Splits t.text b i ps w.1 b' ∧
      Tracks t.text (bindFrom c segs).2 b' w.2 ∧ PreferredBy prefers t.text b i ps := by
  induction segs generalizing c b i slots with
  | nil =>
    rw [itemsFrom, List.map_nil, Ways.chain_nil, List.head?_cons, Option.some_inj] at hw
    rw [← hw]
    exact ⟨[], b, rfl, .nil hi, htracks, fun pre p post h => absurd h (by simp)⟩
  | cons s segs ih =>
    obtain ⟨hs, hrest⟩ := List.forall_mem_cons.mp hsegs
    rw [itemsFrom, List.map_append, Ways.chain_append] at hw
    -- the segment goes the first way `v` that the rest can go on from
    obtain ⟨front, v, back, hways, hfront, hw⟩ := Ways.head?_andThen hw
    have hv : v ∈ Ways.chain ((segmentItems c s).map (Expr.ways t)) i slots := by
      rw [hways]
      exact List.mem_append_right _ List.mem_cons_self
    obtain ⟨b₁, hsize, htracks₁, hpart⟩ := part_of_mem_ways hs htracks hi hv
    obtain ⟨ps, b', rfl, hsplits, htracks', hpreferred⟩ := ih hrest htracks₁ hsize hw
    rw [bindFrom_cons]
    refine ⟨⟨s, i, v.1⟩ :: ps, b', rfl, (hpart ps w.1 b').mpr hsplits, htracks', ?_⟩
    intro pre p post heq q more k b'' hseg hmore hprefers h
    cases pre with
    | cons p₀ pre =>
      -- the segment is not the one that ends elsewhere
      obtain ⟨rfl, rfl⟩ := List.cons.inj heq
      exact hpreferred pre p post rfl q more k b'' hseg hmore hprefers ((hpart _ k b'').mp h)
    | nil =>
      obtain ⟨rfl, rfl⟩ := List.cons.inj heq
      obtain rfl : q.segment = s := hseg
      rw [List.nil_append] at h
      obtain ⟨u, hu, hstop⟩ := mem_ways_of_part hs htracks h
      have hq : q = ⟨q.segment, i, u.1⟩ := by rw [hstop, ← h.tail.1]
      obtain ⟨b₂, -, htracks₂, hpart₂⟩ := part_of_mem_ways hs htracks hi hu
      have horder := hranks.ordered c q.segment i slots hi
      rw [hways] at hu horder
      rw [← hstop] at hprefers
      rcases List.mem_append.mp hu with hu | hu
      · -- the rest cannot go on from a way before `v`
        rw [hq] at h
        obtain ⟨w', hw', -⟩ := mem_ways_of_splits (by rw [hmore]; exact hrest)
          ((hpart₂ more k b'').mp h) htracks₂
        rw [hmore, hfront u hu] at hw'
        exact List.not_mem_nil hw'
      · rcases List.mem_cons.mp hu with rfl | hu
        · exact hranks.irrefl _ _ _ hprefers
        · exact (List.pairwise_cons.mp (List.pairwise_append.mp horder).2.1).1 u hu hprefers

section Reported

variable {pattern : List Char} {pieces : List Piece} {limits : Limits} {m : Matcher}

/-- **What a scan finds is split as it is preferred.** -/
theorem preferredBy_of_found {prefers : Segment → Nat → Nat → Nat → Prop} (text : Text)
    (hranks : ∀ origin, Ranks ⟨text.chars, origin⟩ prefers)
    (hextract : extract pattern = .ok pieces) (hplain : PlainPieces pieces)
    (hm : Matcher.compile pattern limits = .ok m) {f : Regex.Match}
    (hf : f ∈ (m.scan text).found) :
    ∃ ps b, ps.map (·.segment) = layout (normalize pieces) ∧
      Splits text.chars [] f.start ps f.stop b ∧ PreferredBy prefers text.chars [] f.start ps ∧
      m.classify text f = MatchResult.classify b.texts := by
  obtain ⟨origin, slots, ws, hsize, hways, hclassify⟩ := ways_of_found hextract hplain hm text hf
  obtain ⟨ps, b, hps, hsplits, htracks, hpreferred⟩ :=
    preferredBy_of_head (hranks origin) (layout_isPlain hplain) (tracks_empty text.chars _) hsize
      (congrArg List.head? hways)
  exact ⟨ps, b, hps, hsplits, hpreferred, hclassify b htracks⟩

theorem ranks_prefers (t : Subject) : Ranks t fun s _ => s.Prefers :=
  ⟨fun s _ => s.not_prefers_self, fun c s i slots _ => s.ordered t c i slots⟩

/-- No segment of what a scan finds could end where it would rather end. -/
theorem preferred_of_found (hextract : extract pattern = .ok pieces) (hplain : PlainPieces pieces)
    (hm : Matcher.compile pattern limits = .ok m) (text : Text) {f : Regex.Match}
    (hf : f ∈ (m.scan text).found) :
    ∃ ps b, ps.map (·.segment) = layout (normalize pieces) ∧
      Splits text.chars [] f.start ps f.stop b ∧ Preferred text.chars [] f.start ps ∧
      m.classify text f = MatchResult.classify b.texts :=
  preferredBy_of_found text (fun _ => ranks_prefers _) hextract hplain hm hf

end Reported

end CodeShape.Pattern
