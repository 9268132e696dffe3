import CodeShape.Pattern.Fragment
import CodeShape.Proofs.Pattern.Blanks

/-!
# The normal form of a list of fragments

Relaxing keeps the fragments that are not blanks, and tells of the blanks no more than whether there
were any between two of them (`relax_normal`). Nothing else is left of them: a relaxed list is in normal
form (`isNormal_relax`), and so it is relaxed already. As a fragment that is not a blank parts the list,
the blanks between two such fragments are merged by themselves (`Neighbours.relax`).
-/

namespace CodeShape.Pattern

variable {fragments front front' more more' gap gap' back back' : List Fragment}
  {x x' y y' : Fragment}

/-! ## Fragments that are not blanks -/

/-- The fragments that are not blanks, in order. -/
def solid (fragments : List Fragment) : List Fragment :=
  fragments.filter (· ≠ .space)

/-- In a list of fragments, `x` and `y` follow each other but for the blanks `gap` between them. -/
structure Neighbours (fragments front : List Fragment) (x : Fragment) (gap : List Fragment)
    (y : Fragment) (back : List Fragment) : Prop where
  eq_append : fragments = front ++ x :: (gap ++ y :: back)
  left : x ≠ .space
  right : y ≠ .space
  blank : ∀ f ∈ gap, f = .space

theorem solid_append (front back : List Fragment) :
    solid (front ++ back) = solid front ++ solid back :=
  List.filter_append _ _

theorem solid_space_cons (more : List Fragment) : solid (.space :: more) = solid more :=
  rfl

theorem solid_cons (hx : x ≠ .space) (more : List Fragment) :
    solid (x :: more) = x :: solid more :=
  List.filter_cons_of_pos (decide_eq_true hx)

theorem solid_eq_nil : solid fragments = [] ↔ ∀ f ∈ fragments, f = .space := by
  simp only [solid, List.filter_eq_nil_iff, decide_eq_true_eq, ne_eq, not_not]

/-- A list is parted in one way only by a fragment that is not a blank, if it is known what stands
before it apart from blanks. -/
theorem eq_of_parted (h : front ++ x :: more = front' ++ x' :: more') (hx : x ≠ .space)
    (hx' : x' ≠ .space) (hsolid : solid front = solid front') :
    front = front' ∧ x = x' ∧ more = more' := by
  induction front generalizing front' with
  | nil =>
    cases front' with
    | nil => exact ⟨rfl, List.cons.inj h⟩
    | cons f front' =>
      have hf : f = .space := solid_eq_nil.mp hsolid.symm f List.mem_cons_self
      exact absurd ((List.cons.inj h).1.trans hf) hx
  | cons f front ih =>
    cases front' with
    | nil =>
      have hf : f = .space := solid_eq_nil.mp hsolid f List.mem_cons_self
      exact absurd ((List.cons.inj h).1.symm.trans hf) hx'
    | cons f' front' =>
      obtain ⟨rfl, hrest⟩ := List.cons.inj h
      have hsolid' : solid front = solid front' := by
        by_cases hf : f = .space
        · rwa [hf, solid_space_cons, solid_space_cons] at hsolid
        · rw [solid_cons hf, solid_cons hf] at hsolid
          exact (List.cons.inj hsolid).2
      obtain ⟨rfl, hmore⟩ := ih hrest hsolid'
      exact ⟨rfl, hmore⟩

namespace Neighbours

theorem solid_eq (h : Neighbours fragments front x gap y back) :
    solid fragments = solid front ++ x :: y :: solid back := by
  rw [h.eq_append, solid_append, solid_cons h.left, solid_append, solid_eq_nil.mpr h.blank,
    List.nil_append, solid_cons h.right]

/-- The blanks between two neighbours are given by what stands before both. -/
theorem gap_unique (h : Neighbours fragments front x gap y back)
    (h' : Neighbours fragments front' x' gap' y' back') (hsolid : solid front = solid front') :
    gap = gap' := by
  obtain ⟨-, -, hrest⟩ :=
    eq_of_parted (h.eq_append.symm.trans h'.eq_append) h.left h'.left hsolid
  have hgap : solid gap = solid gap' := by
    rw [solid_eq_nil.mpr h.blank, solid_eq_nil.mpr h'.blank]
  exact (eq_of_parted hrest h.right h'.right hgap).1

/-- What follows each other apart from blanks are neighbours. -/
theorem of_solid {before after : List Fragment}
    (h : solid fragments = before ++ x :: y :: after) :
    ∃ front gap back, Neighbours fragments front x gap y back ∧ solid front = before ∧
      solid back = after := by
  obtain ⟨front, rest, rfl, hfront, hrest⟩ := List.filter_eq_append_iff.mp h
  obtain ⟨lead, rest, rfl, hlead, hx, hrest⟩ := List.filter_eq_cons_iff.mp hrest
  obtain ⟨gap, back, rfl, hgap, hy, hback⟩ := List.filter_eq_cons_iff.mp hrest
  have hblank {fs : List Fragment} (hfs : ∀ f ∈ fs, ¬ decide (f ≠ .space) = true) :
      ∀ f ∈ fs, f = .space :=
    fun f hf => not_not.mp fun hne => hfs f hf (decide_eq_true hne)
  refine ⟨front ++ lead, gap, back, ⟨?_, of_decide_eq_true hx, of_decide_eq_true hy, hblank hgap⟩,
    ?_, hback⟩
  · rw [List.append_assoc]
  · rw [solid_append, solid_eq_nil.mpr (hblank hlead), List.append_nil]
    exact hfront

end Neighbours

/-! ## Relaxing -/

/-- Merging is dropping every blank behind a blank. -/
theorem mergeSpaces_eq_merged (fragments : List Fragment) :
    mergeSpaces fragments = merged .space fragments := by
  fun_induction mergeSpaces fragments with
  | case1 rest ih => rw [merged_cons_cons, if_neg fun h => h rfl rfl, ih]
  | case2 f rest hnot ih =>
    rw [ih]
    cases rest with
    | nil => rfl
    | cons g rest =>
      have hadjoin : MayAdjoin .space f g := fun hf hg => hnot rest hf (by rw [hg])
      rw [merged_cons_cons, if_pos hadjoin]
  | case3 => rfl

theorem dropFirstSpace_eq_withoutFirst (fragments : List Fragment) :
    dropFirstSpace fragments = withoutFirst .space fragments := by
  cases fragments with
  | nil => rfl
  | cons f rest => cases f <;> rfl

theorem relax_eq_trimmed (fragments : List Fragment) :
    relax fragments = trimmed .space fragments := by
  rw [relax, mergeSpaces_eq_merged, dropFirstSpace_eq_withoutFirst]
  rfl

/-- A relaxed list is in normal form. -/
theorem isNormal_relax (fragments : List Fragment) : IsNormal .space (relax fragments) := by
  rw [relax_eq_trimmed]
  exact isNormal_trimmed .space fragments

theorem solid_relax (fragments : List Fragment) : solid (relax fragments) = solid fragments := by
  rw [relax_eq_trimmed]
  exact filter_trimmed fragments

/-- **Neighbours stay neighbours**, with one blank between them if there was any. -/
theorem Neighbours.relax (h : Neighbours fragments front x gap y back) :
    Neighbours (relax fragments) (withoutFirst .space (merged .space front)) x (gap.take 1) y
      (withoutLast .space (merged .space back)) where
  eq_append := by
    rw [h.eq_append, relax_eq_trimmed, trimmed_append _ h.left, merged_append _ h.right,
      merged_blanks h.blank, withoutLast_append _ h.right]
  left := h.left
  right := h.right
  blank f hf := h.blank f (List.mem_of_mem_take hf)

theorem space_mem_take_one (hgap : ∀ f ∈ gap, f = .space) :
    .space ∈ gap.take 1 ↔ Fragment.space ∈ gap := by
  cases gap with
  | nil => exact Iff.rfl
  | cons f rest =>
    have hf : Fragment.space = f := (hgap f List.mem_cons_self).symm
    exact iff_of_true (List.mem_singleton.mpr hf) (hf ▸ List.mem_cons_self)

/-- **Relaxing brings fragments into normal form.** The fragments that are not blanks stay as they are
and in order. What is left neither begins nor ends with a blank, and no two blanks stand side by side
in it. Whatever two fragments follow each other but for blanks do so afterwards too, and those that do
so afterwards did so before; they have a blank between them just if there was one. Relaxing again
changes nothing. -/
theorem relax_normal (fragments : List Fragment) :
    solid (relax fragments) = solid fragments ∧
      (relax fragments).head? ≠ some .space ∧ (relax fragments).getLast? ≠ some .space ∧
      ¬ [.space, .space] <:+: relax fragments ∧
      (∀ front x gap y back, Neighbours fragments front x gap y back →
        ∃ front' gap' back', Neighbours (relax fragments) front' x gap' y back' ∧
          solid front' = solid front ∧ solid back' = solid back ∧
          (.space ∈ gap' ↔ .space ∈ gap)) ∧
      (∀ front' x gap' y back', Neighbours (relax fragments) front' x gap' y back' →
        ∃ front gap back, Neighbours fragments front x gap y back ∧
          solid front' = solid front ∧ solid back' = solid back ∧
          (.space ∈ gap' ↔ .space ∈ gap)) ∧
      relax (relax fragments) = relax fragments := by
  obtain ⟨hfirst, hlast, hapart⟩ := isNormal_relax fragments
  have hfront (front : List Fragment) :
      solid (withoutFirst .space (merged .space front)) = solid front :=
    (filter_withoutFirst _).trans (filter_merged front)
  refine ⟨solid_relax fragments, hfirst, hlast, fun h => ?_, ?_, ?_,
    (relax_eq_trimmed _).trans (isNormal_relax fragments).trimmed_eq⟩
  · obtain ⟨lead, tail, heq⟩ := h
    rw [← heq, List.append_assoc, List.isChain_append] at hapart
    exact (List.isChain_cons_cons.mp hapart.2.1).1 rfl rfl
  · intro front x gap y back h
    have hback : solid (withoutLast .space (merged .space back)) = solid back :=
      (filter_withoutLast _).trans (filter_merged back)
    exact ⟨_, _, _, h.relax, hfront front, hback, space_mem_take_one h.blank⟩
  · intro front' x gap' y back' h'
    have hsolid := h'.solid_eq
    rw [solid_relax] at hsolid
    obtain ⟨front, gap, back, h, hbefore, hafter⟩ := Neighbours.of_solid hsolid
    refine ⟨front, gap, back, h, hbefore.symm, hafter.symm, ?_⟩
    -- Both splits of the relaxed list have the same in front, so they have the same blanks.
    have hgap : gap' = gap.take 1 :=
      h'.gap_unique h.relax (hbefore.symm.trans (hfront front).symm)
    rw [hgap]
    exact space_mem_take_one h.blank

/-- Blanks at both ends, between two equal fragments, and none between the last two. -/
theorem relax_normal_ends :
    let fragments : List Fragment :=
      [.space, .expr ['a'], .space, .space, .expr ['a'], .raw ['b'], .space, .space]
    relax fragments = [.expr ['a'], .space, .expr ['a'], .raw ['b']] ∧
      Neighbours fragments [.space] (.expr ['a']) [.space, .space] (.expr ['a'])
        [.raw ['b'], .space, .space] ∧
      ∃ front gap back, Neighbours (relax fragments) front (.expr ['a']) gap (.expr ['a']) back ∧
        solid front = [] ∧ solid back = [.raw ['b']] ∧ .space ∈ gap := by
  intro fragments
  have h : Neighbours fragments [.space] (.expr ['a']) [.space, .space] (.expr ['a'])
      [.raw ['b'], .space, .space] := ⟨rfl, nofun, nofun, by decide⟩
  obtain ⟨-, -, -, -, hkept, -⟩ := relax_normal fragments
  obtain ⟨front, gap, back, hrelaxed, hfront, hback, hgap⟩ := hkept _ _ _ _ _ h
  exact ⟨by decide, h, front, gap, back, hrelaxed, hfront, hback, hgap.mpr List.mem_cons_self⟩

end CodeShape.Pattern
