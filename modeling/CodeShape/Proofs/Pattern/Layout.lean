import CodeShape.Proofs.Pattern.Blanks
import CodeShape.Proofs.Pattern.Splits

/-!
# Laying out parts of a pattern

Laying out is trimming (`layout_eq_trimmed`), so that a gap at either end of a pattern makes no
difference (`layout_space_cons`, `layout_concat_space`). A placeholder parts a pattern: what stands on
either side of it is laid out by itself (`layout_append_token`), but for a gap that is kept beside the
placeholder (`exists_layout_append`, `exists_append_layout`).
-/

namespace CodeShape.Pattern

/-! ## Trimming -/

/-- Merging is dropping every blank behind a blank. -/
theorem mergeBlanks_eq_merged (segs : List Segment) : mergeBlanks segs = merged .space segs := by
  fun_induction mergeBlanks segs with
  | case1 rest ih => rw [merged_cons_cons, if_neg fun h => h rfl rfl, ih]
  | case2 s rest hnot ih =>
    rw [ih]
    cases rest with
    | nil => rfl
    | cons s' rest =>
      have hadjoin : MayAdjoin .space s s' := fun hs hs' => hnot rest hs (by rw [hs'])
      rw [merged_cons_cons, if_pos hadjoin]
  | case3 => rfl

theorem dropFirstBlank_eq_withoutFirst (segs : List Segment) :
    dropFirstBlank segs = withoutFirst .space segs := by
  cases segs with
  | nil => rfl
  | cons s rest => cases s <;> rfl

theorem dropLastBlank_eq_withoutLast (segs : List Segment) :
    dropLastBlank segs = withoutLast .space segs :=
  rfl

theorem layout_eq_trimmed (segs : List Segment) : layout segs = trimmed .space segs := by
  rw [layout, mergeBlanks_eq_merged, dropFirstBlank_eq_withoutFirst, dropLastBlank_eq_withoutLast]
  rfl

theorem dropLastBlank_concat (segs : List Segment) (s : Segment) :
    dropLastBlank (segs ++ [s]) = if s = .space then segs else segs ++ [s] :=
  withoutLast_concat segs s

/-- What is laid out neither begins nor ends with blanks. -/
theorem layout_ends (segs : List Segment) :
    (layout segs).head? ≠ some .space ∧ (layout segs).getLast? ≠ some .space := by
  rw [layout_eq_trimmed]
  exact ⟨(isNormal_trimmed .space segs).first, (isNormal_trimmed .space segs).last⟩

/-! ## Placeholders -/

theorem layout_append_token (segs : List Segment) (t : Token) (more : List Segment) :
    layout (segs ++ .token t :: more) =
      dropFirstBlank (mergeBlanks segs) ++ .token t :: dropLastBlank (mergeBlanks more) := by
  have ht : Segment.token t ≠ .space := nofun
  rw [layout_eq_trimmed, trimmed_append segs ht, mergeBlanks_eq_merged, mergeBlanks_eq_merged,
    dropFirstBlank_eq_withoutFirst, dropLastBlank_eq_withoutLast]

/-- A gap that may be there or not. -/
def gapIf : Bool → List Segment
  | true => [.space]
  | false => []

/-- What dropping the first blanks leaves of merged segments is their layout, and maybe a gap. -/
theorem exists_layout_append (segs : List Segment) :
    ∃ p, dropFirstBlank (mergeBlanks segs) = layout segs ++ gapIf p := by
  unfold layout dropLastBlank
  by_cases hlast : (dropFirstBlank (mergeBlanks segs)).getLast? = some .space
  · obtain ⟨init, hinit⟩ := List.getLast?_eq_some_iff.mp hlast
    refine ⟨true, ?_⟩
    rw [if_pos hlast, hinit, List.dropLast_concat]
    rfl
  · refine ⟨false, ?_⟩
    rw [if_neg hlast]
    exact (List.append_nil _).symm

/-- What dropping the last blanks leaves of merged segments is maybe a gap, and their layout. -/
theorem exists_append_layout (segs : List Segment) :
    ∃ q, dropLastBlank (mergeBlanks segs) = gapIf q ++ layout segs := by
  have horder : layout segs = dropFirstBlank (dropLastBlank (mergeBlanks segs)) := by
    rw [layout, dropFirstBlank_eq_withoutFirst, dropFirstBlank_eq_withoutFirst]
    exact (withoutFirst_withoutLast _).symm
  rw [horder]
  generalize dropLastBlank (mergeBlanks segs) = rest
  cases rest with
  | nil => exact ⟨false, rfl⟩
  | cons s rest =>
    cases s with
    | space => exact ⟨true, rfl⟩
    | text quoted => exact ⟨false, rfl⟩
    | token t => exact ⟨false, rfl⟩

/-! ## Gaps at the ends -/

theorem layout_space_cons (segs : List Segment) : layout (.space :: segs) = layout segs := by
  unfold layout
  cases segs with
  | nil => rfl
  | cons s segs =>
    cases s with
    | space => rfl
    | text quoted => rfl
    | token t => rfl

theorem layout_concat_space (segs : List Segment) : layout (segs ++ [.space]) = layout segs := by
  rw [layout_eq_trimmed, layout_eq_trimmed]
  exact trimmed_concat_blank segs

theorem layout_append_gapIf (segs : List Segment) (p : Bool) :
    layout (segs ++ gapIf p) = layout segs := by
  cases p with
  | true => exact layout_concat_space segs
  | false => exact congrArg layout (List.append_nil segs)

end CodeShape.Pattern
