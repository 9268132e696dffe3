import Mathlib.Data.List.Basic
import CodeShape.Regex.Backtrack

/-!
# The ways in which an expression matches

`Expr.ways` is the meaning of a regular expression by itself, without automata, plans, stacks or
budgets: from a position and the slots set so far it lists every way in which the expression
matches, the preferred one first. The searches are proved to answer with the head of such a list.

What the rest of the theory needs to know about the lists is here too:

* `Expr.ways_within`: a way never ends before it begins, nor behind the end of the text;
* `Expr.minSize_le_of_mem_ways` and `Expr.eq_of_mem_ways_of_fixedSize`: the two measures of an
  expression tell how far a way gets;
* `Expr.ways_adding`: without backtracking parts, the slots that a way sets do not depend on those
  set before, and neither does whether there is a way at all (`Ways.Adding.eq_nil_iff`).
-/

namespace CodeShape.Regex

/-- Where a way of matching ends, and the slots then set. -/
abbrev Way := Nat × Slots

/-- The ways from a position on with slots set before. -/
abbrev Ways := Nat → Slots → List Way

namespace Ways

/-- One way after the other. -/
def andThen (f g : Ways) : Ways := fun pos slots =>
  (f pos slots).flatMap fun w => g w.1 w.2

/-- The ways of all parts, one after the other. -/
def chain : List Ways → Ways
  | [] => fun pos slots => [(pos, slots)]
  | f :: fs => f.andThen (chain fs)

/-- The rounds of a repetition, `need` of which have to follow and `more` may. Where `isOpen`, a
round that may follow is refused if the one before it began at the same place `since`. -/
def rounds (body : Ways) (isOpen greedy : Bool) : Nat → Nat → Option Nat → Ways
  | 0, 0, _ => fun pos slots => [(pos, slots)]
  | 0, more + 1, since => fun pos slots =>
    if isOpen && since == some pos then []
    else
      let again := body.andThen (rounds body isOpen greedy 0 more (some pos)) pos slots
      if greedy then again ++ [(pos, slots)] else (pos, slots) :: again
  | need + 1, more, since => body.andThen (rounds body isOpen greedy need more since)

/-- A group that records where it begins and ends. -/
def captured (index : Nat) (f : Ways) : Ways := fun pos slots =>
  (f pos ((2 * index, some pos) :: slots)).map fun w => (w.1, (2 * index + 1, some w.1) :: w.2)

/-- The ways that begin at or before a position and end there. -/
def upTo (f : Ways) : Ways := fun pos slots =>
  (List.range (pos + 1)).flatMap fun k => (f k slots).filter (·.1 == pos)

/-- A look at what would match, from which the position comes back unchanged. -/
def looked (negated : Bool) (f : Ways) : Ways := fun pos slots =>
  if negated then (if (f pos slots).isEmpty then [(pos, slots)] else [])
  else (f pos slots).map fun w => (pos, w.2)

end Ways

/-- The ways in which an expression matches, the preferred one first. -/
@[grind =]
def Expr.ways (t : Subject) : Expr → Ways
  | .empty => fun pos slots => [(pos, slots)]
  | .chars set => fun pos slots =>
    match t.text[pos]? with
    | some c => if set.contains c then [(pos + 1, slots)] else []
    | none => []
  | .assert a => fun pos slots => if a.holds t.text pos then [(pos, slots)] else []
  | .cat a b => (a.ways t).andThen (b.ways t)
  | .alt a b => fun pos slots => a.ways t pos slots ++ b.ways t pos slots
  | .parens e => e.ways t
  | .group i e => (e.ways t).captured i
  | .repeated lo hi greedy e =>
    Ways.rounds (e.ways t) hi.isNone greedy lo (roundLimit t.text.size lo hi) none
  | .look .ahead negated e => (e.ways t).looked negated
  | .look .behind negated e => (e.ways t).upTo.looked negated
  | .backref g => fun pos slots =>
    match slots.span? g with
    | some span => if t.standsAt span pos then [(pos + (span.2 - span.1), slots)] else []
    | none => []
  | .atomic e => fun pos slots => (e.ways t pos slots).take 1
  | .keepOut => fun pos slots => [(pos, (0, some pos) :: slots)]
  | .searchStart => fun pos slots => if t.origin == some pos then [(pos, slots)] else []

attribute [grind =] Ways.chain Ways.rounds Expr.cats Expr.alts Expr.items Expr.minSize Expr.fixedSize
  Expr.needsBacktracking Expr.recalledGroups Expr.groups

namespace Ways

variable {f g h : Ways} {pos stop : Nat} {slots after : Slots}

/-! ## Sequences -/

theorem mem_andThen {w : Way} :
    w ∈ f.andThen g pos slots ↔ ∃ v ∈ f pos slots, w ∈ g v.1 v.2 := by
  simp [andThen, List.mem_flatMap]

theorem andThen_assoc : (f.andThen g).andThen h = f.andThen (g.andThen h) := by
  funext pos slots
  simp only [andThen, List.flatMap_assoc]

theorem pure_andThen : (andThen (fun pos slots => [(pos, slots)]) f) = f := by
  funext pos slots
  simp [andThen]

theorem andThen_pure : f.andThen (fun pos slots => [(pos, slots)]) = f := by
  funext pos slots
  simp [andThen]

theorem andThen_eq_nil :
    f.andThen g pos slots = [] ↔ ∀ w ∈ f pos slots, g w.1 w.2 = [] := by
  rw [andThen, List.flatMap_eq_nil_iff]

@[simp] theorem chain_nil : chain [] = fun pos slots => [(pos, slots)] := rfl

@[simp] theorem chain_cons (fs : List Ways) : chain (f :: fs) = f.andThen (chain fs) := rfl

theorem chain_append (fs gs : List Ways) :
    chain (fs ++ gs) = (chain fs).andThen (chain gs) := by
  induction fs with
  | nil => rw [List.nil_append, chain_nil, pure_andThen]
  | cons f fs ih => rw [List.cons_append, chain_cons, chain_cons, ih, andThen_assoc]

theorem chain_singleton : chain [f] = f := by
  rw [chain_cons, chain_nil, andThen_pure]

/-! ## Repetitions -/

@[simp] theorem rounds_zero_zero (isOpen greedy : Bool) (since : Option Nat) :
    rounds f isOpen greedy 0 0 since = fun pos slots => [(pos, slots)] := by
  rw [rounds]

theorem rounds_need (isOpen greedy : Bool) (need more : Nat) (since : Option Nat) :
    rounds f isOpen greedy (need + 1) more since
      = f.andThen (rounds f isOpen greedy need more since) := by
  rw [rounds]

theorem rounds_more (isOpen greedy : Bool) (more : Nat) (since : Option Nat)
    (hs : (isOpen && since == some pos) = false) :
    rounds f isOpen greedy 0 (more + 1) since pos slots
      = if greedy then f.andThen (rounds f isOpen greedy 0 more (some pos)) pos slots
            ++ [(pos, slots)]
        else (pos, slots) :: f.andThen (rounds f isOpen greedy 0 more (some pos)) pos slots := by
  simp only [rounds, hs, Bool.false_eq_true, if_false]

/-- The rounds that have to follow, and then those that may. -/
theorem rounds_eq_andThen (isOpen greedy : Bool) (more : Nat) (since : Option Nat) :
    ∀ need, f.rounds isOpen greedy need more since
      = (f.rounds isOpen greedy need 0 since).andThen (f.rounds isOpen greedy 0 more since)
  | 0 => by rw [rounds_zero_zero, pure_andThen]
  | need + 1 => by
    rw [rounds_need, rounds_need, andThen_assoc, ← rounds_eq_andThen isOpen greedy more since need]

/-- All rounds but one that have to follow, the last one of them, and then those that may. -/
theorem rounds_succ_eq_andThen (isOpen greedy : Bool) (more : Nat) (since : Option Nat) :
    ∀ need, f.rounds isOpen greedy (need + 1) more since
      = (f.rounds isOpen greedy need 0 since).andThen
          (f.andThen (f.rounds isOpen greedy 0 more since))
  | 0 => by rw [rounds_zero_zero, pure_andThen, rounds_need]
  | need + 1 => by
    rw [rounds_need, rounds_succ_eq_andThen isOpen greedy more since need, rounds_need,
      andThen_assoc]

/-- Ways stay within a text of `size` characters if they do not go backwards and do not end behind
the text unless they took nothing. -/
def Within (size : Nat) (f : Ways) : Prop :=
  ∀ pos slots, ∀ w ∈ f pos slots, pos ≤ w.1 ∧ (w.1 = pos ∨ w.1 ≤ size)

theorem within_pure (size : Nat) : Within size fun pos slots => [(pos, slots)] := by
  intro pos slots w hw
  rw [List.mem_singleton] at hw
  rw [hw]
  exact ⟨Nat.le_refl _, Or.inl rfl⟩

theorem Within.andThen {size : Nat} (hf : Within size f) (hg : Within size g) :
    Within size (f.andThen g) := by
  intro pos slots w hw
  obtain ⟨v, hv, hw⟩ := mem_andThen.mp hw
  have h₁ := hf pos slots v hv
  have h₂ := hg v.1 v.2 w hw
  omega

theorem Within.rounds {size : Nat} (hf : Within size f) (isOpen greedy : Bool) :
    ∀ (need more : Nat) (since : Option Nat),
      Within size (rounds f isOpen greedy need more since)
  | 0, 0, since => by
    rw [rounds_zero_zero]
    exact within_pure size
  | 0, more + 1, since => by
    intro pos slots w hw
    have hagain := hf.andThen (Within.rounds hf isOpen greedy 0 more (some pos)) pos slots
    simp only [Ways.rounds] at hw
    split at hw
    · exact absurd hw List.not_mem_nil
    · split at hw
      · rcases List.mem_append.mp hw with hw | hw
        · exact hagain w hw
        · exact within_pure size pos slots w hw
      · rcases List.mem_cons.mp hw with rfl | hw
        · exact ⟨Nat.le_refl _, Or.inl rfl⟩
        · exact hagain w hw
  | need + 1, more, since => by
    rw [rounds_need]
    exact hf.andThen (Within.rounds hf isOpen greedy need more since)

/-- Rounds of which none changes what `view` shows of the slots do not change it. -/
theorem invariant_rounds {α : Type} (view : Slots → α)
    (hf : ∀ pos slots, ∀ w ∈ f pos slots, view w.2 = view slots) (isOpen greedy : Bool) :
    ∀ (need more : Nat) (since : Option Nat) (pos : Nat) (slots : Slots),
      ∀ w ∈ f.rounds isOpen greedy need more since pos slots, view w.2 = view slots
  | 0, 0, since, pos, slots => by
    intro w hw
    rw [rounds_zero_zero] at hw
    rw [List.mem_singleton.mp hw]
  | 0, more + 1, since, pos, slots => by
    intro w hw
    have hagain : ∀ w ∈ f.andThen (f.rounds isOpen greedy 0 more (some pos)) pos slots,
        view w.2 = view slots := by
      intro w hw
      obtain ⟨v, hv, hw⟩ := mem_andThen.mp hw
      rw [invariant_rounds view hf isOpen greedy 0 more (some pos) v.1 v.2 w hw, hf pos slots v hv]
    simp only [Ways.rounds] at hw
    split at hw
    · exact absurd hw List.not_mem_nil
    · split at hw
      · rcases List.mem_append.mp hw with hw | hw
        · exact hagain w hw
        · rw [List.mem_singleton.mp hw]
      · rcases List.mem_cons.mp hw with rfl | hw
        · rfl
        · exact hagain w hw
  | need + 1, more, since, pos, slots => by
    intro w hw
    rw [rounds_need] at hw
    obtain ⟨v, hv, hw⟩ := mem_andThen.mp hw
    rw [invariant_rounds view hf isOpen greedy need more since v.1 v.2 w hw, hf pos slots v hv]

theorem mem_captured {index : Nat} {w : Way} :
    w ∈ f.captured index pos slots ↔
      ∃ v ∈ f pos ((2 * index, some pos) :: slots),
        w = (v.1, (2 * index + 1, some v.1) :: v.2) := by
  simp [captured, eq_comm]

theorem mem_upTo {w : Way} :
    w ∈ f.upTo pos slots ↔ w.1 = pos ∧ ∃ k ≤ pos, w ∈ f k slots := by
  simp only [upTo, List.mem_flatMap, List.mem_range, List.mem_filter, beq_iff_eq]
  constructor
  · intro h
    obtain ⟨k, hk, hw, he⟩ := h
    exact ⟨he, k, by omega, hw⟩
  · intro h
    obtain ⟨he, k, hk, hw⟩ := h
    exact ⟨k, by omega, hw, he⟩

theorem pos_of_mem_looked {negated : Bool} {w : Way} (hw : w ∈ f.looked negated pos slots) :
    w.1 = pos := by
  unfold looked at hw
  split at hw
  · split at hw
    · rw [List.mem_singleton.mp hw]
    · exact absurd hw List.not_mem_nil
  · obtain ⟨v, -, rfl⟩ := List.mem_map.mp hw
    rfl

/-- A negated look changes nothing. -/
theorem slots_of_mem_looked {w : Way} (hw : w ∈ f.looked true pos slots) : w.2 = slots := by
  simp only [looked, if_true] at hw
  split at hw
  · rw [List.mem_singleton.mp hw]
  · exact absurd hw List.not_mem_nil

/-- A negated look leads nowhere but back, and only where there is nothing to see. -/
theorem mem_looked_true {w : Way} :
    w ∈ f.looked true pos slots ↔ w = (pos, slots) ∧ f pos slots = [] := by
  simp only [looked, if_true]
  split
  next h => rw [List.mem_singleton, and_iff_left (List.isEmpty_iff.mp h)]
  next h => exact iff_of_false List.not_mem_nil fun hw => h (List.isEmpty_iff.mpr hw.2)

end Ways

namespace Subject

/-- What stands at a position ends within the text, if it is not empty. -/
theorem standsAt_within {t : Subject} {what : Nat × Nat} {pos : Nat} (h : t.standsAt what pos) :
    pos + (what.2 - what.1) = pos ∨ pos + (what.2 - what.1) ≤ t.text.size := by
  rcases Nat.eq_zero_or_pos (what.2 - what.1) with hz | hz
  · left
    omega
  · right
    rw [standsAt, List.all_eq_true] at h
    have hlast := h (what.2 - what.1 - 1) (List.mem_range.mpr (by omega))
    rw [Bool.and_eq_true, beq_iff_eq] at hlast
    have hsome : (t.text[pos + (what.2 - what.1 - 1)]?).isSome := hlast.2 ▸ hlast.1
    have := (Array.getElem?_eq_some_iff.mp (Option.eq_some_of_isSome hsome)).1
    omega

end Subject

namespace Expr

variable {t : Subject}

/-- A set of characters takes one of them. -/
theorem mem_ways_chars {set : CharSet} {pos : Nat} {slots : Slots} {w : Way} :
    w ∈ (chars set).ways t pos slots ↔
      ∃ c, t.text[pos]? = some c ∧ set.contains c = true ∧ w = (pos + 1, slots) := by
  simp only [ways]
  cases t.text[pos]? with
  | none => simp
  | some c =>
    cases hset : set.contains c with
    | true => simp [hset]
    | false => simp [hset]

/-- An assertion takes nothing where it holds. -/
theorem mem_ways_assert {a : Assertion} {pos : Nat} {slots : Slots} {w : Way} :
    w ∈ (Expr.assert a).ways t pos slots ↔ a.holds t.text pos = true ∧ w = (pos, slots) := by
  simp only [ways]
  cases hholds : a.holds t.text pos with
  | true => simp
  | false => simp

/-- A reference takes what its group holds, if it has taken part and the same stands here. -/
theorem mem_ways_backref {g pos : Nat} {slots : Slots} {w : Way} :
    w ∈ (backref g).ways t pos slots ↔ ∃ span, slots.span? g = some span ∧
      t.standsAt span pos = true ∧ w = (pos + (span.2 - span.1), slots) := by
  simp only [ways]
  cases slots.span? g with
  | none => simp
  | some span =>
    cases hstands : t.standsAt span pos with
    | true => simp [hstands]
    | false => simp [hstands]

theorem mem_ways_searchStart {pos : Nat} {slots : Slots} {w : Way} :
    w ∈ searchStart.ways t pos slots ↔ t.origin = some pos ∧ w = (pos, slots) := by
  simp only [ways, beq_iff_eq]
  by_cases h : t.origin = some pos
  · simp [h]
  · simp [h]

/-- No way goes backwards, and none ends behind the text. -/
theorem ways_within (t : Subject) (e : Expr) : Ways.Within t.text.size (e.ways t) := by
  induction e with
  | empty => exact Ways.within_pure _
  | chars set =>
    intro pos slots w hw
    obtain ⟨c, hc, -, rfl⟩ := mem_ways_chars.mp hw
    have hlt := (Array.getElem?_eq_some_iff.mp hc).1
    exact ⟨Nat.le_succ _, Or.inr hlt⟩
  | assert a =>
    intro pos slots w hw
    obtain ⟨-, rfl⟩ := mem_ways_assert.mp hw
    exact ⟨Nat.le_refl _, Or.inl rfl⟩
  | cat a b iha ihb => exact iha.andThen ihb
  | alt a b iha ihb =>
    intro pos slots w hw
    rcases List.mem_append.mp hw with hw | hw
    · exact iha pos slots w hw
    · exact ihb pos slots w hw
  | parens e ih => exact ih
  | group i e ih =>
    intro pos slots w hw
    obtain ⟨v, hv, rfl⟩ := Ways.mem_captured.mp hw
    exact ih pos _ v hv
  | repeated lo hi greedy e ih => exact ih.rounds _ _ _ _ _
  | look side negated e ih =>
    intro pos slots w hw
    have hpos : w.1 = pos := by
      cases side <;> exact Ways.pos_of_mem_looked hw
    exact ⟨Nat.le_of_eq hpos.symm, Or.inl hpos⟩
  | backref g =>
    intro pos slots w hw
    obtain ⟨span, -, hstands, rfl⟩ := mem_ways_backref.mp hw
    exact ⟨Nat.le_add_right _ _, Subject.standsAt_within hstands⟩
  | atomic e ih =>
    intro pos slots w hw
    exact ih pos slots w (List.mem_of_mem_take hw)
  | keepOut =>
    intro pos slots w hw
    rw [List.mem_singleton.mp hw]
    exact ⟨Nat.le_refl _, Or.inl rfl⟩
  | searchStart =>
    intro pos slots w hw
    obtain ⟨-, rfl⟩ := mem_ways_searchStart.mp hw
    exact ⟨Nat.le_refl _, Or.inl rfl⟩

/-! ## The measures of an expression -/

/-- Rounds that take at least `n` characters each get at least `need * n` characters far. -/
theorem minSize_le_of_mem_rounds {f : Ways} {n size : Nat} (hw : Ways.Within size f)
    (hf : ∀ pos slots, ∀ w ∈ f pos slots, pos + n ≤ w.1) (isOpen greedy : Bool) (more : Nat) :
    ∀ (need : Nat) (since : Option Nat) (pos : Nat) (slots : Slots),
      ∀ w ∈ f.rounds isOpen greedy need more since pos slots, pos + need * n ≤ w.1
  | 0, since, pos, slots => by
    intro w hmem
    have := (hw.rounds isOpen greedy 0 more since pos slots w hmem).1
    omega
  | need + 1, since, pos, slots => by
    intro w hmem
    rw [Ways.rounds_need] at hmem
    obtain ⟨v, hv, hmem⟩ := Ways.mem_andThen.mp hmem
    have h₁ := hf pos slots v hv
    have h₂ := minSize_le_of_mem_rounds hw hf isOpen greedy more need since v.1 v.2 w hmem
    rw [Nat.succ_mul]
    omega

/-- Every way takes at least `minSize` characters. -/
theorem minSize_le_of_mem_ways (t : Subject) (e : Expr) :
    ∀ pos slots, ∀ w ∈ e.ways t pos slots, pos + e.minSize ≤ w.1 := by
  induction e with
  | chars set =>
    intro pos slots w hw
    obtain ⟨-, -, -, rfl⟩ := mem_ways_chars.mp hw
    exact Nat.le_refl _
  | cat a b iha ihb =>
    intro pos slots w hw
    obtain ⟨v, hv, hw⟩ := Ways.mem_andThen.mp hw
    have h₁ := iha pos slots v hv
    have h₂ := ihb v.1 v.2 w hw
    simp only [minSize]
    omega
  | alt a b iha ihb =>
    intro pos slots w hw
    simp only [minSize]
    rcases List.mem_append.mp hw with hw | hw
    · have := iha pos slots w hw
      omega
    · have := ihb pos slots w hw
      omega
  | parens e ih => exact ih
  | group i e ih =>
    intro pos slots w hw
    obtain ⟨v, hv, rfl⟩ := Ways.mem_captured.mp hw
    exact ih pos _ v hv
  | repeated lo hi greedy e ih =>
    exact minSize_le_of_mem_rounds (ways_within t e) ih _ _ _ lo none
  | atomic e ih =>
    intro pos slots w hw
    exact ih pos slots w (List.mem_of_mem_take hw)
  | empty | assert _ | look _ _ _ | backref _ | keepOut | searchStart =>
    intro pos slots w hw
    exact (ways_within t _ pos slots w hw).1

/-- Rounds that take `n` characters each, with none that may follow, take `need * n` characters. -/
theorem eq_of_mem_rounds_of_fixed {f : Ways} {n : Nat}
    (hf : ∀ pos slots, ∀ w ∈ f pos slots, w.1 = pos + n) (isOpen greedy : Bool) :
    ∀ (need : Nat) (since : Option Nat) (pos : Nat) (slots : Slots),
      ∀ w ∈ f.rounds isOpen greedy need 0 since pos slots, w.1 = pos + need * n
  | 0, since, pos, slots => by
    intro w hmem
    rw [Ways.rounds_zero_zero] at hmem
    rw [List.mem_singleton.mp hmem]
    omega
  | need + 1, since, pos, slots => by
    intro w hmem
    rw [Ways.rounds_need] at hmem
    obtain ⟨v, hv, hmem⟩ := Ways.mem_andThen.mp hmem
    have h₁ := hf pos slots v hv
    have h₂ := eq_of_mem_rounds_of_fixed hf isOpen greedy need since v.1 v.2 w hmem
    rw [Nat.succ_mul]
    omega

/-- Every way of an expression of fixed size takes exactly `minSize` characters. -/
theorem eq_of_mem_ways_of_fixedSize (t : Subject) (e : Expr) (hfix : e.fixedSize = true) :
    ∀ pos slots, ∀ w ∈ e.ways t pos slots, w.1 = pos + e.minSize := by
  induction e with
  | empty | keepOut =>
    intro pos slots w hw
    rw [List.mem_singleton.mp hw]
    rfl
  | chars set =>
    intro pos slots w hw
    obtain ⟨-, -, -, rfl⟩ := mem_ways_chars.mp hw
    rfl
  | assert a =>
    intro pos slots w hw
    obtain ⟨-, rfl⟩ := mem_ways_assert.mp hw
    rfl
  | searchStart =>
    intro pos slots w hw
    obtain ⟨-, rfl⟩ := mem_ways_searchStart.mp hw
    rfl
  | cat a b iha ihb =>
    intro pos slots w hw
    rw [fixedSize, Bool.and_eq_true] at hfix
    obtain ⟨v, hv, hw⟩ := Ways.mem_andThen.mp hw
    have h₁ := iha hfix.1 pos slots v hv
    have h₂ := ihb hfix.2 v.1 v.2 w hw
    simp only [minSize]
    omega
  | alt a b iha ihb =>
    intro pos slots w hw
    simp only [fixedSize, Bool.and_eq_true, beq_iff_eq] at hfix
    obtain ⟨⟨ha, hb⟩, hab⟩ := hfix
    simp only [minSize]
    rcases List.mem_append.mp hw with hw | hw
    · have := iha ha pos slots w hw
      omega
    · have := ihb hb pos slots w hw
      omega
  | parens e ih => exact ih hfix
  | group i e ih =>
    intro pos slots w hw
    obtain ⟨v, hv, rfl⟩ := Ways.mem_captured.mp hw
    exact ih hfix pos _ v hv
  | repeated lo hi greedy e ih =>
    intro pos slots w hw
    simp only [fixedSize, Bool.and_eq_true, beq_iff_eq] at hfix
    obtain ⟨he, rfl⟩ := hfix
    have hzero : roundLimit t.text.size lo (some lo) = 0 := Nat.sub_self lo
    simp only [ways, hzero] at hw
    exact eq_of_mem_rounds_of_fixed (ih he) _ _ lo none pos slots w hw
  | look side negated e ih =>
    intro pos slots w hw
    cases side <;> exact Ways.pos_of_mem_looked hw
  | backref g => exact absurd hfix Bool.false_ne_true
  | atomic e ih =>
    intro pos slots w hw
    exact ih hfix pos slots w (List.mem_of_mem_take hw)

end Expr

/-! ## Ways that do not look at the slots -/

namespace Ways

variable {f g : Ways}

/-- The ways of `f` only add to the slots set before and do not depend on them. -/
def Adding (f : Ways) : Prop :=
  ∀ pos slots, f pos slots = (f pos []).map fun w => (w.1, w.2 ++ slots)

theorem adding_pure : Adding fun pos slots => [(pos, slots)] :=
  fun _ _ => rfl

theorem Adding.andThen (hf : Adding f) (hg : Adding g) : Adding (f.andThen g) := by
  intro pos slots
  unfold Ways.andThen
  rw [hf pos slots, List.flatMap_map, List.map_flatMap]
  refine List.flatMap_congr fun w _ => ?_
  rw [hg w.1 (w.2 ++ slots), hg w.1 w.2, List.map_map]
  refine List.map_congr_left fun v _ => ?_
  simp only [Function.comp_apply, List.append_assoc]

theorem Adding.append (hf : Adding f) (hg : Adding g) :
    Adding fun pos slots => f pos slots ++ g pos slots := by
  intro pos slots
  simp only [hf pos slots, hg pos slots, List.map_append]

theorem Adding.rounds (hf : Adding f) (isOpen greedy : Bool) :
    ∀ (need more : Nat) (since : Option Nat), Adding (f.rounds isOpen greedy need more since)
  | 0, 0, since => by
    rw [rounds_zero_zero]
    exact adding_pure
  | 0, more + 1, since => by
    intro pos slots
    have hagain := hf.andThen (Adding.rounds hf isOpen greedy 0 more (some pos)) pos slots
    simp only [Ways.rounds]
    split
    · rfl
    · split
      · rw [hagain, List.map_append]
        rfl
      · rw [hagain, List.map_cons]
        rfl
  | need + 1, more, since => by
    rw [rounds_need]
    exact hf.andThen (Adding.rounds hf isOpen greedy need more since)

theorem Adding.captured (hf : Adding f) (index : Nat) : Adding (f.captured index) := by
  intro pos slots
  unfold Ways.captured
  rw [hf pos (_ :: slots), hf pos [_], List.map_map, List.map_map, List.map_map]
  refine List.map_congr_left fun w _ => ?_
  simp

theorem Adding.eq_nil_iff (hf : Adding f) (pos : Nat) (slots after : Slots) :
    f pos slots = [] ↔ f pos after = [] := by
  rw [hf pos slots, hf pos after, List.map_eq_nil_iff, List.map_eq_nil_iff]

end Ways

/-- The ways of an expression without backtracking parts do not look at the slots. -/
theorem Expr.ways_adding {recalled : List Nat} (t : Subject) (e : Expr)
    (h : e.needsBacktracking recalled = false) : Ways.Adding (e.ways t) := by
  induction e with
  | empty => exact Ways.adding_pure
  | chars set =>
    intro pos slots
    simp only [ways]
    split
    · split
      · rfl
      · rfl
    · rfl
  | assert a =>
    intro pos slots
    simp only [ways]
    split
    · rfl
    · rfl
  | cat a b iha ihb =>
    simp only [needsBacktracking, Bool.or_eq_false_iff] at h
    exact (iha h.1).andThen (ihb h.2)
  | alt a b iha ihb =>
    simp only [needsBacktracking, Bool.or_eq_false_iff] at h
    exact (iha h.1).append (ihb h.2)
  | parens e ih => exact ih h
  | group i e ih =>
    simp only [needsBacktracking, Bool.or_eq_false_iff] at h
    exact (ih h.2).captured i
  | repeated lo hi greedy e ih => exact (ih h).rounds _ _ _ _ _
  | look | backref | atomic | keepOut | searchStart =>
    simp only [needsBacktracking, Bool.true_eq_false] at h

end CodeShape.Regex
