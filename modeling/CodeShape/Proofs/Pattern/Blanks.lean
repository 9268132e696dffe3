import Mathlib.Data.List.Chain
import Mathlib.Data.List.Destutter

/-!
# Lists with blanks among their entries

Segments and fragments alike are lists in which one entry stands for blanks. Such a list is brought into
normal form by merging blanks that stand side by side and dropping those at the ends (`trimmed`,
`isNormal_trimmed`); what is in normal form stays as it is (`IsNormal.trimmed_eq`). An entry that is no
blank parts the list: what stands before it and what stands behind it are dealt with apart
(`trimmed_append`).
-/

namespace CodeShape.Pattern

variable {α : Type} {blank x : α} {as : List α}

/-- Two entries may stand side by side: they are not both blanks. -/
abbrev MayAdjoin (blank a b : α) : Prop :=
  a = blank → b ≠ blank

variable [DecidableEq α]

/-- Drops every blank behind a blank. -/
def merged (blank : α) (as : List α) : List α :=
  as.destutter (MayAdjoin blank)

/-- Drops a blank at the beginning. -/
def withoutFirst (blank : α) : List α → List α
  | [] => []
  | a :: as => if a = blank then as else a :: as

/-- Drops a blank at the end. -/
def withoutLast (blank : α) (as : List α) : List α :=
  if as.getLast? = some blank then as.dropLast else as

/-- A list with its blanks merged, and without blanks at its ends. -/
def trimmed (blank : α) (as : List α) : List α :=
  withoutLast blank (withoutFirst blank (merged blank as))

/-! ## Merging -/

theorem filter_blank_cons {a : α} (ha : a = blank) (as : List α) :
    (a :: as).filter (· ≠ blank) = as.filter (· ≠ blank) :=
  List.filter_cons_of_neg fun hne => of_decide_eq_true hne ha

theorem merged_cons_cons (a b : α) (as : List α) : merged blank (a :: b :: as) =
    if MayAdjoin blank a b then a :: merged blank (b :: as) else merged blank (b :: as) := by
  unfold merged
  rw [List.destutter_cons_cons, List.destutter_cons']
  split
  next => rfl
  next hboth =>
    obtain ⟨ha, hb⟩ := Classical.not_imp.mp hboth
    rw [ha, not_not.mp hb]

theorem merged_cons (hx : x ≠ blank) (as : List α) :
    merged blank (x :: as) = x :: merged blank as := by
  cases as with
  | nil => rfl
  | cons a as => rw [merged_cons_cons, if_pos fun h => absurd h hx]

theorem merged_append (front : List α) (hx : x ≠ blank) (more : List α) :
    merged blank (front ++ x :: more) = merged blank front ++ x :: merged blank more := by
  induction front with
  | nil => exact merged_cons hx more
  | cons a front ih =>
    cases front with
    | nil =>
      rw [List.singleton_append, merged_cons_cons, if_pos fun _ => hx, merged_cons hx]
      rfl
    | cons b front =>
      rw [List.cons_append, List.cons_append, merged_cons_cons, merged_cons_cons,
        ← List.cons_append, ih]
      split <;> rfl

/-- Of blanks alone the first is left. -/
theorem merged_blanks (h : ∀ a ∈ as, a = blank) : merged blank as = as.take 1 := by
  induction as with
  | nil => rfl
  | cons a as ih =>
    obtain ⟨rfl, has⟩ := List.forall_mem_cons.mp h
    cases as with
    | nil => rfl
    | cons b as =>
      rw [merged_cons_cons, if_neg fun hadjoin => hadjoin rfl (List.forall_mem_cons.mp has).1,
        ih has, (List.forall_mem_cons.mp has).1]
      rfl

theorem filter_merged (as : List α) :
    (merged blank as).filter (· ≠ blank) = as.filter (· ≠ blank) := by
  induction as with
  | nil => rfl
  | cons a as ih =>
    cases as with
    | nil => rfl
    | cons b as =>
      rw [merged_cons_cons]
      split
      next =>
        show ([a] ++ merged blank (b :: as)).filter (· ≠ blank) = ([a] ++ b :: as).filter (· ≠ blank)
        rw [List.filter_append, ih, List.filter_append]
      next hboth => rw [ih, filter_blank_cons (Classical.not_imp.mp hboth).1]

/-! ## Dropping the ends -/

theorem withoutFirst_cons (a : α) (as : List α) :
    withoutFirst blank (a :: as) = if a = blank then as else a :: as :=
  rfl

theorem withoutFirst_of_head? (h : as.head? ≠ some blank) : withoutFirst blank as = as := by
  cases as with
  | nil => rfl
  | cons a as => exact if_neg fun ha => h (congrArg some ha)

theorem withoutFirst_append (front : List α) (hx : x ≠ blank) (more : List α) :
    withoutFirst blank (front ++ x :: more) = withoutFirst blank front ++ x :: more := by
  cases front with
  | nil => exact if_neg hx
  | cons a front =>
    rw [List.cons_append, withoutFirst_cons, withoutFirst_cons]
    split <;> rfl

theorem withoutLast_concat (as : List α) (a : α) :
    withoutLast blank (as ++ [a]) = if a = blank then as else as ++ [a] := by
  simp only [withoutLast, List.getLast?_concat, List.dropLast_concat, Option.some.injEq]

theorem withoutLast_append (front : List α) (hx : x ≠ blank) (more : List α) :
    withoutLast blank (front ++ x :: more) = front ++ x :: withoutLast blank more := by
  rcases List.eq_nil_or_concat more with rfl | ⟨init, a, rfl⟩
  · rw [withoutLast_concat, if_neg hx]
    rfl
  · rw [List.concat_eq_append, ← List.cons_append, ← List.append_assoc, withoutLast_concat,
      withoutLast_concat]
    split
    · rfl
    · rw [List.append_assoc, List.cons_append]

theorem withoutLast_cons (hne : as ≠ []) (a : α) :
    withoutLast blank (a :: as) = a :: withoutLast blank as := by
  obtain ⟨init, b, rfl⟩ := (List.eq_nil_or_concat as).resolve_left hne
  rw [List.concat_eq_append, ← List.cons_append, withoutLast_concat, withoutLast_concat]
  split <;> rfl

/-- The ends can be dropped in any order. -/
theorem withoutFirst_withoutLast (as : List α) :
    withoutFirst blank (withoutLast blank as) = withoutLast blank (withoutFirst blank as) := by
  cases as with
  | nil => rfl
  | cons a as =>
    cases as with
    | nil =>
      rw [← List.nil_append [a], withoutLast_concat, List.nil_append, withoutFirst_cons]
      split
      next => rfl
      next ha => rw [withoutFirst_cons, if_neg ha, ← List.nil_append [a], withoutLast_concat, if_neg ha]
    | cons b as =>
      rw [withoutLast_cons (List.cons_ne_nil b as), withoutFirst_cons, withoutFirst_cons]
      split
      next => rfl
      next => rw [withoutLast_cons (List.cons_ne_nil b as)]

theorem filter_withoutFirst (as : List α) :
    (withoutFirst blank as).filter (· ≠ blank) = as.filter (· ≠ blank) := by
  cases as with
  | nil => rfl
  | cons a as =>
    rw [withoutFirst_cons]
    split
    next ha => rw [filter_blank_cons ha]
    next => rfl

theorem filter_withoutLast (as : List α) :
    (withoutLast blank as).filter (· ≠ blank) = as.filter (· ≠ blank) := by
  rcases List.eq_nil_or_concat as with rfl | ⟨init, a, rfl⟩
  · rfl
  rw [List.concat_eq_append, withoutLast_concat]
  split
  next ha => rw [List.filter_append, filter_blank_cons ha, List.filter_nil, List.append_nil]
  next => rfl

/-- A blank more at the end is a blank that is dropped again. -/
theorem merged_concat_blank (as : List α) :
    merged blank (as ++ [blank]) = withoutLast blank (merged blank as) ++ [blank] := by
  induction as with
  | nil => rfl
  | cons a as ih =>
    cases as with
    | nil =>
      rw [List.singleton_append, merged_cons_cons]
      show _ = withoutLast blank ([] ++ [a]) ++ [blank]
      rw [withoutLast_concat]
      split <;> split
      next hadjoin ha => exact absurd rfl (hadjoin ha)
      next => rfl
      next => rfl
      next hboth ha => exact absurd (Classical.not_imp.mp hboth).1 ha
    | cons b as =>
      have hne : merged blank (b :: as) ≠ [] := by
        unfold merged
        rw [ne_eq, List.destutter_eq_nil]
        exact List.cons_ne_nil b as
      rw [List.cons_append, List.cons_append, merged_cons_cons, merged_cons_cons,
        ← List.cons_append, ih]
      split
      next => rw [withoutLast_cons hne, List.cons_append]
      next => rfl

/-! ## Trimming -/

theorem filter_trimmed (as : List α) :
    (trimmed blank as).filter (· ≠ blank) = as.filter (· ≠ blank) := by
  rw [trimmed, filter_withoutLast, filter_withoutFirst, filter_merged]

theorem trimmed_append (front : List α) (hx : x ≠ blank) (more : List α) :
    trimmed blank (front ++ x :: more) =
      withoutFirst blank (merged blank front) ++ x :: withoutLast blank (merged blank more) := by
  rw [trimmed, merged_append front hx, withoutFirst_append _ hx, withoutLast_append _ hx]

theorem trimmed_concat_blank (as : List α) : trimmed blank (as ++ [blank]) = trimmed blank as := by
  rw [trimmed, trimmed, merged_concat_blank, ← withoutFirst_withoutLast,
    ← withoutFirst_withoutLast, withoutLast_concat, if_pos rfl]

/-! ## Normal forms -/

/-- A list is in normal form if it has no blanks at its ends and no two of them stand side by side. -/
structure IsNormal (blank : α) (as : List α) : Prop where
  first : as.head? ≠ some blank
  last : as.getLast? ≠ some blank
  apart : as.IsChain (MayAdjoin blank)

/-- **What is in normal form is not changed.** -/
theorem IsNormal.trimmed_eq (h : IsNormal blank as) : trimmed blank as = as := by
  rw [trimmed, merged, List.destutter_of_isChain _ _ h.apart, withoutFirst_of_head? h.first,
    withoutLast, if_neg h.last]

/-- **Trimming brings a list into normal form.** -/
theorem isNormal_trimmed (blank : α) (as : List α) : IsNormal blank (trimmed blank as) := by
  have hmerged : (merged blank as).IsChain (MayAdjoin blank) := List.isChain_destutter _ _
  obtain ⟨hapart, hfirst⟩ : (withoutFirst blank (merged blank as)).IsChain (MayAdjoin blank) ∧
      (withoutFirst blank (merged blank as)).head? ≠ some blank := by
    cases hbody : merged blank as with
    | nil => exact ⟨.nil, nofun⟩
    | cons a rest =>
      rw [hbody] at hmerged
      rw [withoutFirst_cons]
      split
      next ha => exact ⟨hmerged.tail, fun h => (List.isChain_cons.mp hmerged).1 _ h ha rfl⟩
      next ha => exact ⟨hmerged, fun h => ha (Option.some.inj h)⟩
  unfold trimmed
  rcases List.eq_nil_or_concat (withoutFirst blank (merged blank as)) with hnil | ⟨init, a, heq⟩
  · rw [hnil]
    exact ⟨nofun, nofun, .nil⟩
  rw [List.concat_eq_append] at heq
  rw [heq] at hapart hfirst
  rw [heq, withoutLast_concat]
  obtain ⟨hinit, -, hseam⟩ := List.isChain_append.mp hapart
  split
  next ha =>
    subst ha
    refine ⟨fun h => ?_, fun h => hseam _ h _ rfl rfl rfl, hinit⟩
    obtain ⟨rest, rfl⟩ := List.head?_eq_some_iff.mp h
    exact hfirst rfl
  next ha =>
    refine ⟨hfirst, fun h => ha ?_, hapart⟩
    rw [List.getLast?_concat] at h
    exact Option.some.inj h

end CodeShape.Pattern
