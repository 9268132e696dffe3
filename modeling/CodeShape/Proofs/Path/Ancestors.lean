import Mathlib
import CodeShape.Path

/-!
# The ancestors of a path

A path without its last component has all components but the last one, however many slashes and dots
there are in between (`components_parent`). So going from parent to parent one loses one component
after the other (`components_of_ancestor?`) until there is none (`exists_ancestor?`), and the list of
ancestors is complete (`getElem?_ancestors`).
-/

namespace CodeShape.Path

/-! ## Parts -/

theorem splitAt_eq_splitOn (separator : Char) (cs : List Char) :
    splitAt separator cs = cs.splitOn separator := by
  induction cs with
  | nil => rfl
  | cons c cs ih =>
    rw [splitAt, ih, List.splitOn_cons_eq_if_modifyHead]
    cases hparts : cs.splitOn separator with
    | nil => exact absurd hparts (List.splitOn_ne_nil _ _)
    | cons part parts =>
      dsimp only
      by_cases hc : c = separator
      · rw [if_pos hc, if_pos (beq_iff_eq.mpr hc)]
      · rw [if_neg hc, if_neg (by rwa [beq_iff_eq])]
        rfl

/-- There is no separator in a part. -/
theorem not_mem_of_mem_splitAt {separator : Char} {cs part : List Char}
    (h : part ∈ splitAt separator cs) : separator ∉ part := by
  induction cs generalizing part with
  | nil =>
    rw [List.mem_singleton.mp h]
    exact List.not_mem_nil
  | cons c cs ih =>
    rw [splitAt] at h
    split at h
    next first parts hparts =>
      rw [hparts] at ih
      split at h
      next =>
        rcases List.mem_cons.mp h with rfl | h
        · exact List.not_mem_nil
        · exact ih h
      next hc =>
        rcases List.mem_cons.mp h with rfl | h
        · rw [List.mem_cons, not_or]
          exact ⟨fun heq => hc heq.symm, ih List.mem_cons_self⟩
        · exact ih (List.mem_cons_of_mem _ h)
    next hparts =>
      rw [splitAt_eq_splitOn] at hparts
      exact absurd hparts (List.splitOn_ne_nil _ _)

/-- What is written with slashes between its parts has these parts. -/
theorem parts_intercalate {kept : List (List Char)} (hne : kept ≠ [])
    (hkept : ∀ part ∈ kept, '/' ∉ part) :
    parts ⟨String.ofList (['/'].intercalate kept)⟩ = kept := by
  rw [parts, String.toList_ofList, splitAt_eq_splitOn]
  exact List.splitOn_intercalate '/' hkept hne

/-! ## Components -/

/-- The components of a path with the given parts. -/
def named : List (List Char) → List (List Char)
  | [] => []
  | first :: rest => (if first.isEmpty then [] else [first]) ++ rest.filter isName

theorem components_eq (p : Path) : p.components = named p.parts := rfl

theorem named_reverse_cons {back : List (List Char)} (hne : back ≠ []) (part : List Char) :
    named (part :: back).reverse
      = named back.reverse ++ if isName part then [part] else [] := by
  obtain ⟨first, rest, hback⟩ := List.exists_cons_of_ne_nil (List.reverse_eq_nil_iff.not.mpr hne)
  rw [List.reverse_cons, hback, List.cons_append, named, named, List.filter_append,
    List.filter_singleton, List.append_assoc]
  cases isName part <;> rfl

/-- Dropping the last name, and what names nothing behind it, drops the last component. -/
theorem named_dropLastName (back : List (List Char)) :
    named (dropLastName back).reverse = (named back.reverse).dropLast := by
  fun_induction dropLastName back with
  | case1 => rfl
  | case2 part =>
    rw [List.reverse_nil, List.reverse_singleton, named, named, List.filter_nil, List.append_nil]
    split <;> rfl
  | case3 part rest hne hname =>
    rw [named_reverse_cons hne, if_pos hname, List.dropLast_concat]
  | case4 part rest hne hname ih =>
    rw [named_reverse_cons hne, if_neg hname, List.append_nil, ih]

/-- Dropping parts that name nothing from the end drops no component. -/
theorem named_dropNameless (back : List (List Char)) :
    named (dropNameless back).reverse = named back.reverse := by
  fun_induction dropNameless back with
  | case1 => rfl
  | case2 part => rfl
  | case3 part rest hne hname => rfl
  | case4 part rest hne hname ih =>
    rw [named_reverse_cons hne, if_neg hname, List.append_nil, ih]

theorem dropLastName_suffix (back : List (List Char)) : dropLastName back <:+ back := by
  fun_induction dropLastName back with
  | case1 => exact List.suffix_refl _
  | case2 part => exact List.nil_suffix
  | case3 part rest hne hname => exact List.suffix_cons part rest
  | case4 part rest hne hname ih => exact ih.trans (List.suffix_cons part rest)

theorem dropNameless_suffix (back : List (List Char)) : dropNameless back <:+ back := by
  fun_induction dropNameless back with
  | case1 => exact List.suffix_refl _
  | case2 part => exact List.suffix_refl _
  | case3 part rest hne hname => exact List.suffix_refl _
  | case4 part rest hne hname ih => exact ih.trans (List.suffix_cons part rest)

/-- **A path without its last component has all components but the last one.** -/
theorem components_parent {p q : Path} (h : p.parent? = some q) :
    p.components ≠ [] ∧ q.components = p.components.dropLast := by
  unfold parent? at h
  split at h
  next => cases h
  next hne =>
    refine ⟨by rwa [List.isEmpty_iff] at hne, ?_⟩
    set kept := (dropNameless (dropLastName p.parts.reverse)).reverse with hkept
    have hnamed : named kept = p.components.dropLast := by
      rw [hkept, named_dropNameless, named_dropLastName, List.reverse_reverse, components_eq]
    have hclean : ∀ part ∈ kept, '/' ∉ part := by
      intro part hpart
      have hback := ((dropNameless_suffix _).trans (dropLastName_suffix _)).subset
        (List.mem_reverse.mp hpart)
      exact not_mem_of_mem_splitAt (List.mem_reverse.mp hback)
    rw [← hnamed]
    dsimp only at h
    split at h
    next hroot =>
      cases h
      rw [Bool.and_eq_true, beq_iff_eq] at hroot
      rw [hroot.2]
      rfl
    next =>
      cases h
      by_cases hnil : kept = []
      · rw [hnil]
        rfl
      · rw [components_eq, parts_intercalate hnil hclean]

theorem parent?_eq_none_iff {p : Path} : p.parent? = none ↔ p.components = [] := by
  unfold parent?
  rw [← List.isEmpty_iff]
  split
  next h => exact ⟨fun _ => h, fun _ => rfl⟩
  next h =>
    refine ⟨fun hnone => ?_, fun hnil => absurd hnil h⟩
    dsimp only at hnone
    split at hnone <;> cases hnone

/-! ## Ancestors -/

/-- What one comes to from a path by going from parent to parent so many times, if there are as many
ancestors. -/
def ancestor? (p : Path) : Nat → Option Path
  | 0 => some p
  | n + 1 => (p.ancestor? n).bind parent?

theorem ancestor?_succ (p : Path) (n : Nat) :
    p.ancestor? (n + 1) = p.parent?.bind (·.ancestor? n) := by
  induction n with
  | zero => exact (Option.bind_fun_some _).symm
  | succ n ih =>
    rw [ancestor?, ih, Option.bind_assoc]
    rfl

/-- An ancestor has all components of the path but the last ones. -/
theorem components_of_ancestor? {p q : Path} {n : Nat} (h : p.ancestor? n = some q) :
    n ≤ p.components.length ∧ q.components = p.components.take (p.components.length - n) := by
  induction n generalizing q with
  | zero =>
    cases h
    exact ⟨Nat.zero_le _, (List.take_length).symm⟩
  | succ n ih =>
    obtain ⟨r, hr, hq⟩ := Option.bind_eq_some_iff.mp h
    obtain ⟨-, hcomponents⟩ := ih hr
    obtain ⟨hne, hlast⟩ := components_parent hq
    have hlength : r.components.length = p.components.length - n := by
      rw [hcomponents, List.length_take, Nat.min_eq_left (Nat.sub_le _ _)]
    have hpos := List.length_pos_iff.mpr hne
    refine ⟨by omega, ?_⟩
    rw [hlast, List.dropLast_eq_take, hlength, hcomponents, List.take_take,
      Nat.min_eq_left (Nat.sub_le _ _), Nat.sub_sub]

/-- There is an ancestor for each component, up to one without any. -/
theorem exists_ancestor? {p : Path} {n : Nat} (h : n ≤ p.components.length) :
    ∃ q, p.ancestor? n = some q := by
  induction n with
  | zero => exact ⟨p, rfl⟩
  | succ n ih =>
    obtain ⟨r, hr⟩ := ih (Nat.le_of_succ_le h)
    obtain ⟨-, hcomponents⟩ := components_of_ancestor? hr
    cases hparent : r.parent? with
    | none =>
      have hlength := congrArg List.length hcomponents
      rw [parent?_eq_none_iff.mp hparent, List.length_nil, List.length_take] at hlength
      omega
    | some q => exact ⟨q, Option.bind_eq_some_iff.mpr ⟨r, hr, hparent⟩⟩

theorem getElem?_ancestorsFrom {fuel : Nat} {p : Path} (hfuel : p.components.length < fuel) (n : Nat) :
    (p.ancestorsFrom fuel)[n]? = p.ancestor? n := by
  induction fuel generalizing p n with
  | zero => exact absurd hfuel (Nat.not_lt_zero _)
  | succ fuel ih =>
    cases n with
    | zero => rfl
    | succ n =>
      rw [ancestorsFrom, List.getElem?_cons_succ, ancestor?_succ]
      cases hparent : p.parent? with
      | none => rfl
      | some q =>
        obtain ⟨hne, hcomponents⟩ := components_parent hparent
        have hpos := List.length_pos_iff.mpr hne
        refine ih ?_ n
        rw [hcomponents, List.length_dropLast]
        omega

/-- **The list of ancestors is complete.** -/
theorem getElem?_ancestors (p : Path) (n : Nat) : p.ancestors[n]? = p.ancestor? n :=
  getElem?_ancestorsFrom (Nat.lt_succ_self _) n

end CodeShape.Path
