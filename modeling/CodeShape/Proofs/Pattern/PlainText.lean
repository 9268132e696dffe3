import Mathlib.Data.List.DropRight
import CodeShape.Proofs.Pattern.Padding
import CodeShape.Proofs.Pattern.Splits

/-!
# Texts that plain segments stand for

Without placeholders, what a list of segments stands for does not depend on where it stands: `Fits`
tells which texts these are. They all have the same characters but for blanks (`Fits.ink_eq`), and a
text fits the segments that are made of it (`fits_splitBlanks`). Laying out the segments takes just
the blanks at the ends off (`Fits.layout`), where then none are left (`Fits.noBlankEnds`).
-/

namespace CodeShape.Pattern

open Regex (Occurs)

variable {segs more : List Segment} {cs ds : List Char} {text : Array Char} {b b' : Bindings}
  {i j k : Nat} {ps : List Part}

/-- The text consists of what the segments stand for, none of which is a placeholder. -/
inductive Fits : List Segment → List Char → Prop
  | nil : Fits [] []
  | space {segs : List Segment} {blanks cs : List Char}
      (hblank : ∀ c ∈ blanks, Unicode.isBlank c = true) (rest : Fits segs cs) :
      Fits (.space :: segs) (blanks ++ cs)
  | text {segs : List Segment} {cs : List Char} (quoted : List Char) (rest : Fits segs cs) :
      Fits (.text quoted :: segs) (unquote quoted ++ cs)

/-- The characters of a text but for blanks. -/
def ink (cs : List Char) : List Char :=
  cs.filter fun c => !Unicode.isBlank c

theorem ink_append (cs ds : List Char) : ink (cs ++ ds) = ink cs ++ ink ds :=
  List.filter_append ..

theorem ink_eq_nil : ink cs = [] ↔ ∀ c ∈ cs, Unicode.isBlank c = true := by
  unfold ink
  rw [List.filter_eq_nil_iff]
  refine forall₂_congr fun c _ => ?_
  cases Unicode.isBlank c <;> simp

namespace Fits

/-- **All texts that fit have the same characters** but for blanks. -/
theorem ink_eq (h : Fits segs cs) (h' : Fits segs ds) : ink cs = ink ds := by
  induction h generalizing ds with
  | nil =>
    cases h'
    rfl
  | space hblank _ ih =>
    cases h' with
    | space hblank' rest' =>
      rw [ink_append, ink_append, ink_eq_nil.mpr hblank, ink_eq_nil.mpr hblank', ih rest']
  | text quoted _ ih =>
    cases h' with
    | text _ rest' => rw [ink_append, ink_append, ih rest']

theorem of_append (h : Fits (segs ++ more) cs) :
    ∃ cs₁ cs₂, cs = cs₁ ++ cs₂ ∧ Fits segs cs₁ ∧ Fits more cs₂ := by
  induction segs generalizing cs with
  | nil => exact ⟨[], cs, rfl, nil, h⟩
  | cons s segs ih =>
    rw [List.cons_append] at h
    cases h with
    | @space _ blanks _ hblank rest =>
      obtain ⟨cs₁, cs₂, rfl, h₁, h₂⟩ := ih rest
      exact ⟨blanks ++ cs₁, cs₂, (List.append_assoc ..).symm, space hblank h₁, h₂⟩
    | text quoted rest =>
      obtain ⟨cs₁, cs₂, rfl, h₁, h₂⟩ := ih rest
      exact ⟨unquote quoted ++ cs₁, cs₂, (List.append_assoc ..).symm, text quoted h₁, h₂⟩

/-! ## Splits into plain parts -/

/-- Where a text that fits occurs, there is a split. -/
theorem splits (h : Fits segs cs) (hcs : Occurs text cs i k) (b : Bindings) :
    ∃ ps, ps.map (·.segment) = segs ∧ Splits text b i ps k b := by
  induction h generalizing i with
  | nil =>
    obtain ⟨rfl, hi⟩ := Regex.occurs_nil.mp hcs
    exact ⟨[], rfl, .nil hi⟩
  | space hblank _ ih =>
    obtain ⟨j, hblanks, hrest⟩ := Regex.occurs_append.mp hcs
    obtain ⟨ps, rfl, hps⟩ := ih hrest
    exact ⟨⟨.space, i, j⟩ :: ps, rfl, .space hblanks hblank hps⟩
  | text quoted _ ih =>
    obtain ⟨j, hquoted, hrest⟩ := Regex.occurs_append.mp hcs
    obtain ⟨ps, rfl, hps⟩ := ih hrest
    exact ⟨⟨.text quoted, i, j⟩ :: ps, rfl, .text hquoted hps⟩

end Fits

/-- What is split into plain parts fits their segments. -/
theorem Splits.fits (h : Splits text b i ps k b')
    (hplain : ∀ t, .token t ∉ ps.map (·.segment)) :
    ∃ cs, Occurs text cs i k ∧ Fits (ps.map (·.segment)) cs := by
  induction h with
  | nil hi => exact ⟨[], Regex.occurs_nil.mpr ⟨rfl, hi⟩, .nil⟩
  | @space _ _ _ j _ _ blanks hblanks hblank _ ih =>
    obtain ⟨cs, hcs, hfits⟩ := ih fun t ht => hplain t (List.mem_cons_of_mem _ ht)
    exact ⟨blanks ++ cs, Regex.occurs_append.mpr ⟨j, hblanks, hcs⟩, .space hblank hfits⟩
  | @text _ _ _ j _ _ quoted hquoted _ ih =>
    obtain ⟨cs, hcs, hfits⟩ := ih fun t ht => hplain t (List.mem_cons_of_mem _ ht)
    exact ⟨unquote quoted ++ cs, Regex.occurs_append.mpr ⟨j, hquoted, hcs⟩, .text quoted hfits⟩
  | @first _ _ _ _ _ _ t _ _ _ _ _ _ _ _ => exact absurd List.mem_cons_self (hplain t)
  | @again _ _ _ _ _ _ t _ _ _ _ _ _ _ => exact absurd List.mem_cons_self (hplain t)

/-! ## Blanks and runs -/

/-- Blanks, or a run of other characters. -/
def Segment.IsRun : Segment → Prop
  | .space => True
  | .text quoted => unquote quoted ≠ [] ∧ ∀ c ∈ unquote quoted, Unicode.isBlank c = false
  | .token _ => False

theorem splitBlanks_isRun (cs : List Char) : ∀ s ∈ splitBlanks cs, s.IsRun := by
  intro s hs
  rcases mem_splitBlanks hs with rfl | ⟨run, rfl, hne, -, hink⟩
  · trivial
  · rw [Segment.IsRun, unquote_quote]
    exact ⟨hne, hink⟩

/-- **A text fits the segments that it is split into** once spaces have been put in. -/
theorem fits_splitBlanks (h : SpacedOut cs ds) : Fits (splitBlanks ds) cs := by
  have hspace : Unicode.isBlank ' ' = true := by decide
  fun_induction splitBlanks ds generalizing cs with
  | case1 =>
    cases h
    exact .nil
  | case2 c rest hblank ih =>
    rw [← List.takeWhile_append_dropWhile (p := Unicode.isBlank) (l := rest),
      ← List.cons_append] at h
    obtain ⟨blanks, cs', rfl, hblanks, hrest⟩ := h.of_append
    refine .space (fun d hd => ?_) (ih hrest)
    rcases List.mem_cons.mp (hblanks.sublist.subset hd) with rfl | hd
    · exact hblank
    · exact List.mem_takeWhile_imp hd
  | case3 c rest hblank inText =>
    rename_i ih
    rw [← List.takeWhile_append_dropWhile (p := inText) (l := rest), ← List.cons_append] at h
    obtain ⟨run, cs', rfl, hrun, hrest⟩ := h.of_append
    -- there is no space in the run that could have been put in
    have heq : run = c :: rest.takeWhile inText := by
      refine hrun.eq_of_forall_ne fun d hd => ?_
      intro h
      subst h
      rcases List.mem_cons.mp hd with rfl | hd
      · exact hblank hspace
      · have hin : inText ' ' = true := List.mem_takeWhile_imp hd
        change (!Unicode.isBlank ' ') = true at hin
        rw [hspace] at hin
        cases hin
    have hfits := Fits.text (Regex.quote (c :: rest.takeWhile inText)) (ih hrest)
    rw [unquote_quote] at hfits
    rw [heq]
    exact hfits

/-! ## Blanks at the ends -/

theorem Fits.mergeBlanks (h : Fits segs cs) : Fits (mergeBlanks segs) cs := by
  fun_induction Pattern.mergeBlanks segs generalizing cs with
  | case1 rest ih =>
    cases h with
    | space hblank h =>
      cases h with
      | space hblank' h =>
        rw [← List.append_assoc]
        exact ih (.space (List.forall_mem_append.mpr ⟨hblank, hblank'⟩) h)
  | case2 s rest _ ih =>
    cases h with
    | space hblank h => exact .space hblank (ih h)
    | text quoted h => exact .text quoted (ih h)
  | case3 => exact h

theorem Fits.dropFirstBlank (h : Fits segs cs) :
    ∃ lead mid, cs = lead ++ mid ∧ (∀ c ∈ lead, Unicode.isBlank c = true) ∧
      Fits (dropFirstBlank segs) mid := by
  cases h with
  | nil => exact ⟨[], [], rfl, nofun, .nil⟩
  | @space _ lead mid hblank rest => exact ⟨lead, mid, rfl, hblank, rest⟩
  | text quoted rest => exact ⟨[], _, rfl, nofun, .text quoted rest⟩

theorem Fits.dropLastBlank (h : Fits segs cs) :
    ∃ mid tail, cs = mid ++ tail ∧ (∀ c ∈ tail, Unicode.isBlank c = true) ∧
      Fits (dropLastBlank segs) mid := by
  unfold Pattern.dropLastBlank
  by_cases hlast : segs.getLast? = some .space
  · obtain ⟨init, rfl⟩ := List.getLast?_eq_some_iff.mp hlast
    rw [if_pos hlast, List.dropLast_concat]
    obtain ⟨mid, tail, rfl, hmid, htail⟩ := h.of_append
    refine ⟨mid, tail, rfl, ?_, hmid⟩
    cases htail with
    | space hblank rest =>
      cases rest
      rw [List.append_nil]
      exact hblank
  · rw [if_neg hlast]
    exact ⟨cs, [], (List.append_nil cs).symm, nofun, h⟩

/-- **Laying out takes the blanks at the ends off**, and nothing else. -/
theorem Fits.layout (h : Fits segs cs) :
    ∃ lead mid tail, cs = lead ++ (mid ++ tail) ∧ (∀ c ∈ lead, Unicode.isBlank c = true) ∧
      (∀ c ∈ tail, Unicode.isBlank c = true) ∧ Fits (layout segs) mid := by
  obtain ⟨lead, rest, rfl, hlead, hrest⟩ := h.mergeBlanks.dropFirstBlank
  obtain ⟨mid, tail, rfl, htail, hmid⟩ := hrest.dropLastBlank
  exact ⟨lead, mid, tail, rfl, hlead, htail, hmid⟩

/-- A text has no blanks at its ends. -/
def NoBlankEnds (cs : List Char) : Prop :=
  (∀ c, cs.head? = some c → Unicode.isBlank c = false) ∧
    ∀ c, cs.getLast? = some c → Unicode.isBlank c = false

/-- What fits runs of characters at both ends has no blanks there. -/
theorem Fits.noBlankEnds (h : Fits segs cs) (hrun : ∀ s ∈ segs, s.IsRun)
    (hfirst : segs.head? ≠ some .space) (hlast : segs.getLast? ≠ some .space) :
    NoBlankEnds cs := by
  constructor
  · intro c hc
    cases h with
    | nil => cases hc
    | space => exact absurd rfl hfirst
    | text quoted rest =>
      obtain ⟨hne, hink⟩ := hrun _ List.mem_cons_self
      rw [List.head?_append_of_ne_nil _ hne] at hc
      exact hink c (List.mem_of_head? hc)
  · intro c hc
    rcases List.eq_nil_or_concat segs with rfl | ⟨init, s, rfl⟩
    · cases h
      cases hc
    · rw [List.concat_eq_append] at h hrun hlast
      obtain ⟨cs₁, cs₂, rfl, -, hend⟩ := h.of_append
      cases hend with
      | space => exact absurd List.getLast?_concat hlast
      | text quoted rest =>
        cases rest
        obtain ⟨hne, hink⟩ := hrun _ (List.mem_append_right _ List.mem_cons_self)
        rw [List.append_nil, List.getLast?_append_of_ne_nil _ hne] at hc
        exact hink c (List.mem_of_getLast? hc)

/-! ## Trimming -/

end CodeShape.Pattern
