import CodeShape.Pattern.Token

/-!
# The bodies of raw expressions

The body of a raw expression is a text in which parentheses come in pairs (`Balanced`); those behind
backslashes and in bracketed classes are no parentheses. It ends at the first parenthesis that
closes nothing in it (`IsBody`). The reader counts what is open instead; `Nesting.Unwinds` tells
which texts close all of it, and so the reader splits off exactly the bodies
(`readBody?_eq_some_iff`).
-/

namespace CodeShape.Pattern

variable {cs body rest : List Char}

/-! ## The grammar of bodies -/

/-- The inside of a class in brackets, together with the bracket that closes it. A backslash is taken
together with the character behind it. -/
inductive ClassTail : List Char → Prop where
  | close : ClassTail [']']
  | escaped (c : Char) {rest : List Char} : ClassTail rest → ClassTail ('\\' :: c :: rest)
  | char {c : Char} {rest : List Char} (hbackslash : c ≠ '\\') (hclose : c ≠ ']') :
    ClassTail rest → ClassTail (c :: rest)

/-- A text in which parentheses come in pairs, those aside that stand in classes or behind
backslashes. -/
inductive Balanced : List Char → Prop where
  | nil : Balanced []
  | escaped (c : Char) {rest : List Char} : Balanced rest → Balanced ('\\' :: c :: rest)
  | bracketed {tail rest : List Char} :
    ClassTail tail → Balanced rest → Balanced ('[' :: (tail ++ rest))
  | parens {inside rest : List Char} :
    Balanced inside → Balanced rest → Balanced ('(' :: (inside ++ ')' :: rest))
  | char {c : Char} {rest : List Char} (hplain : c ∉ ['\\', '[', '(', ')']) :
    Balanced rest → Balanced (c :: rest)

theorem Balanced.append {front back : List Char} (h : Balanced front) (h' : Balanced back) :
    Balanced (front ++ back) := by
  induction h with
  | nil => exact h'
  | escaped c _ ih => exact .escaped c ih
  | bracketed htail _ ih =>
    rw [List.cons_append, List.append_assoc]
    exact .bracketed htail ih
  | parens hinside _ _ ih =>
    rw [List.cons_append, List.append_assoc, List.cons_append]
    exact .parens hinside ih
  | char hplain _ ih => exact .char hplain ih

/-- The body of a raw expression: it is followed by the first parenthesis that closes nothing in
it. -/
def IsBody (body : List Char) : Prop :=
  Balanced body ∧ ∀ shorter, Balanced shorter → ¬ shorter ++ [')'] <+: body

/-! ## Reading a body -/

/-- A text that closes `depth` parentheses and is balanced but for these. -/
def Unwinds : Nat → List Char → Prop
  | 0, cs => Balanced cs
  | depth + 1, cs =>
    ∃ inside rest, cs = inside ++ ')' :: rest ∧ Balanced inside ∧ Unwinds depth rest

theorem Unwinds.prepend {depth : Nat} {front : List Char} (hfront : Balanced front)
    (h : Unwinds depth cs) : Unwinds depth (front ++ cs) := by
  cases depth with
  | zero => exact hfront.append h
  | succ depth =>
    obtain ⟨inside, rest, rfl, hinside, hrest⟩ := h
    exact ⟨front ++ inside, rest, (List.append_assoc ..).symm, hfront.append hinside, hrest⟩

theorem Unwinds.openParen {depth : Nat} (h : Unwinds (depth + 1) cs) :
    Unwinds depth ('(' :: cs) := by
  obtain ⟨inside, rest, rfl, hinside, hrest⟩ := h
  have hpair : Balanced ('(' :: (inside ++ [')'])) := .parens hinside .nil
  have hall := hrest.prepend hpair
  rw [List.cons_append, List.append_assoc] at hall
  exact hall

/-- A text that closes all that is open. -/
def Nesting.Unwinds (n : Nesting) (cs : List Char) : Prop :=
  if n.inClass then ∃ tail rest, cs = tail ++ rest ∧ ClassTail tail ∧ Pattern.Unwinds n.depth rest
  else Pattern.Unwinds n.depth cs

section Nesting

variable {n n' : Nesting} {c : Char}

theorem Nesting.Unwinds.escaped (h : n.Unwinds cs) (c : Char) : n.Unwinds ('\\' :: c :: cs) := by
  unfold Nesting.Unwinds at h ⊢
  split
  next hclass =>
    rw [if_pos hclass] at h
    obtain ⟨tail, rest, rfl, htail, hrest⟩ := h
    exact ⟨'\\' :: c :: tail, rest, rfl, .escaped c htail, hrest⟩
  next hclass =>
    rw [if_neg hclass] at h
    exact h.prepend (.escaped c .nil)

/-- A character that leaves something open goes in front of what closes that. -/
theorem Nesting.Unwinds.cons (h : n'.Unwinds cs) (hafter : n.after c = some n')
    (hbackslash : c ≠ '\\') : n.Unwinds (c :: cs) := by
  obtain ⟨depth, inClass⟩ := n
  unfold Nesting.Unwinds
  cases inClass with
  -- in a class everything but its bracket leaves it open
  | true =>
    obtain rfl : ⟨depth, c != ']'⟩ = n' := Option.some.inj hafter
    by_cases hclose : c = ']'
    · rw [hclose] at h ⊢
      exact ⟨[']'], cs, rfl, .close, h⟩
    · rw [Nesting.Unwinds, if_pos (bne_iff_ne.mpr hclose)] at h
      obtain ⟨tail, rest, rfl, htail, hrest⟩ := h
      exact ⟨c :: tail, rest, rfl, .char hbackslash hclose htail, hrest⟩
  | false =>
    show Pattern.Unwinds depth (c :: cs)
    unfold Nesting.after at hafter
    dsimp only at hafter
    rw [if_neg Bool.false_ne_true] at hafter
    split at hafter
    next =>
      cases hafter
      obtain ⟨tail, rest, rfl, htail, hrest⟩ := h
      have hall := hrest.prepend (.bracketed htail .nil)
      rw [List.append_nil] at hall
      exact hall
    next =>
      cases hafter
      exact Unwinds.openParen h
    next =>
      split at hafter
      next => cases hafter
      next hdepth =>
        cases hafter
        obtain ⟨depth, rfl⟩ := Nat.exists_eq_succ_of_ne_zero hdepth
        exact ⟨[], cs, rfl, .nil, h⟩
    next hbracket hopen hclose =>
      cases hafter
      refine Unwinds.prepend (.char ?_ .nil) h
      simp only [List.mem_cons, List.not_mem_nil, or_false, not_or]
      exact ⟨hbackslash, hbracket, hopen, hclose⟩

/-- Nothing stands behind the parenthesis that closes the expression. -/
theorem Nesting.unwinds_of_after_none (h : n.after c = none) : c = ')' ∧ n.Unwinds [] := by
  obtain ⟨depth, inClass⟩ := n
  cases inClass with
  | true => cases h
  | false =>
    unfold Nesting.after at h
    dsimp only at h
    rw [if_neg Bool.false_ne_true] at h
    split at h
    next => cases h
    next => cases h
    next =>
      split at h
      next hdepth =>
        refine ⟨rfl, ?_⟩
        rw [hdepth]
        exact Balanced.nil
      next => cases h
    next => cases h

/-- A body that is read closes what is open, and a parenthesis follows it. -/
theorem readBody?_some (h : readBody? n cs = some (body, rest)) :
    cs = body ++ ')' :: rest ∧ n.Unwinds body := by
  fun_induction readBody? n cs generalizing body rest with
  | case1 => cases h
  | case2 => cases h
  | case3 n c cs ih =>
    obtain ⟨⟨inner, after⟩, hinner, heq⟩ := Option.map_eq_some_iff.mp h
    cases heq
    obtain ⟨rfl, hunwinds⟩ := ih hinner
    exact ⟨rfl, hunwinds.escaped c⟩
  | case4 n c cs _ _ hafter =>
    cases h
    obtain ⟨rfl, hunwinds⟩ := Nesting.unwinds_of_after_none hafter
    exact ⟨rfl, hunwinds⟩
  | case5 n c cs hlone hpair n' hafter ih =>
    obtain ⟨⟨inner, after⟩, hinner, heq⟩ := Option.map_eq_some_iff.mp h
    cases heq
    obtain ⟨rfl, hunwinds⟩ := ih hinner
    refine ⟨rfl, hunwinds.cons hafter ?_⟩
    intro hbackslash
    cases hrest : inner ++ ')' :: rest with
    | nil => exact hlone hbackslash hrest
    | cons d more => exact hpair d more hbackslash hrest

theorem readBody?_cons (hbackslash : c ≠ '\\') (hafter : n.after c = some n') :
    readBody? n (c :: cs) = (readBody? n' cs).map fun (body, rest) => (c :: body, rest) := by
  rw [readBody?, hafter]
  · exact fun h _ => hbackslash h
  · exact fun _ _ h _ => hbackslash h

/-- A class is read to its end. -/
theorem readBody?_classTail {tail : List Char} (h : ClassTail tail) (depth : Nat) :
    readBody? ⟨depth, true⟩ (tail ++ cs)
      = (readBody? ⟨depth, false⟩ cs).map fun (body, rest) => (tail ++ body, rest) := by
  induction h with
  | close => exact readBody?_cons (by decide) rfl
  | escaped c _ ih =>
    rw [List.cons_append, List.cons_append, readBody?, ih, Option.map_map]
    rfl
  | @char c rest hbackslash hclose _ ih =>
    have hafter : (⟨depth, true⟩ : Nesting).after c = some ⟨depth, true⟩ := by
      unfold Nesting.after
      rw [if_pos rfl, bne_iff_ne.mpr hclose]
    rw [List.cons_append, readBody?_cons hbackslash hafter, ih, Option.map_map]
    rfl

/-- A balanced text is read through, and as much is open behind it as before it. -/
theorem readBody?_balanced {front : List Char} (h : Balanced front) (depth : Nat) :
    readBody? ⟨depth, false⟩ (front ++ cs)
      = (readBody? ⟨depth, false⟩ cs).map fun (body, rest) => (front ++ body, rest) := by
  induction h generalizing depth cs with
  | nil => exact (Option.map_id' ..).symm
  | escaped c _ ih =>
    rw [List.cons_append, List.cons_append, readBody?, ih, Option.map_map]
    rfl
  | @bracketed tail rest htail _ ih =>
    rw [List.cons_append, List.append_assoc, readBody?_cons (by decide) rfl,
      readBody?_classTail htail, ih, Option.map_map, Option.map_map]
    simp [Function.comp_def]
  | @parens inside rest _ _ ihInside ihRest =>
    have hclose : (⟨depth + 1, false⟩ : Nesting).after ')' = some ⟨depth, false⟩ := rfl
    rw [List.cons_append, List.append_assoc, List.cons_append, readBody?_cons (by decide) rfl,
      ihInside, readBody?_cons (by decide) hclose, ihRest, Option.map_map, Option.map_map,
      Option.map_map]
    simp [Function.comp_def]
  | @char c rest hplain _ ih =>
    simp only [List.mem_cons, List.not_mem_nil, or_false, not_or] at hplain
    obtain ⟨hbackslash, hbracket, hopen, hclose⟩ := hplain
    have hafter : (⟨depth, false⟩ : Nesting).after c = some ⟨depth, false⟩ := by
      unfold Nesting.after
      rw [if_neg Bool.false_ne_true]
      split
      next => exact absurd rfl hbracket
      next => exact absurd rfl hopen
      next => exact absurd rfl hclose
      next => rfl
    rw [List.cons_append, readBody?_cons hbackslash hafter, ih, Option.map_map]
    rfl

/-- The parenthesis behind a balanced text closes the expression. -/
theorem readBody?_append (h : Balanced body) (rest : List Char) :
    readBody? {} (body ++ ')' :: rest) = some (body, rest) := by
  rw [readBody?_balanced h]
  show some (body ++ [], rest) = _
  rw [List.append_nil]

/-- Only one balanced text stands before a parenthesis that closes nothing in it. -/
theorem eq_of_balanced {body' rest' : List Char} (h : body ++ ')' :: rest = body' ++ ')' :: rest')
    (hbody : Balanced body) (hbody' : Balanced body') : body = body' ∧ rest = rest' := by
  have heq := (readBody?_append hbody rest).symm.trans
    ((congrArg (readBody? {}) h).trans (readBody?_append hbody' rest'))
  injection heq with heq
  exact Prod.ext_iff.mp heq

theorem isBody_iff : IsBody body ↔ Balanced body := by
  refine ⟨fun h => h.1, fun h => ⟨h, fun shorter hshorter hpre => ?_⟩⟩
  obtain ⟨more, rfl⟩ := hpre
  have heq : (shorter ++ [')'] ++ more) ++ ')' :: [] = shorter ++ ')' :: (more ++ [')']) := by simp
  have hlen := congrArg List.length (eq_of_balanced heq h hshorter).1
  simp at hlen

/-- **A raw expression is closed where its body ends**, and nowhere else. -/
theorem readBody?_eq_some_iff :
    readBody? {} cs = some (body, rest) ↔ cs = body ++ ')' :: rest ∧ IsBody body := by
  rw [isBody_iff]
  constructor
  · exact readBody?_some
  · rintro ⟨rfl, h⟩
    exact readBody?_append h rest

end Nesting

end CodeShape.Pattern
