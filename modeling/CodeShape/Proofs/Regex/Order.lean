import CodeShape.Proofs.Regex.Ways

/-!
# The order of the ways

The ways of an expression are listed in the order in which a search prefers them. A repetition of
characters prefers the longest way if it is greedy, and else the shortest (`ordered_star`). That
remains so behind parts which have one way at most (`Single.andThen_ordered`) and within a group
(`Ordered.captured`). Alternatives are in order if they end in the order in which they are listed
(`ordered_alts`). Of a sequence, the first way goes on from the first way of the front from which
there is any (`head?_andThen`).
-/

namespace CodeShape.Regex.Ways

variable {f g : Ways} {r : Nat → Nat → Prop} {pos : Nat} {slots : Slots}

/-- From every position, the ways are listed in an order of where they end. -/
def Ordered (r : Nat → Nat → Prop) (f : Ways) : Prop :=
  ∀ pos slots, (f pos slots).Pairwise fun v w => r v.1 w.1

/-- There is one way at most from every position. -/
def Single (f : Ways) : Prop :=
  ∀ pos slots, (f pos slots).length ≤ 1

/-- Which of two ends is preferred: the later one by what is greedy, the earlier one by what is
not. -/
def Prefers (greedy : Bool) (j k : Nat) : Prop :=
  if greedy then k < j else j < k

/-! ## One way at most -/

theorem Single.ordered (h : f.Single) (r : Nat → Nat → Prop) : f.Ordered r := by
  intro pos slots
  have hone := h pos slots
  cases hf : f pos slots with
  | nil => exact .nil
  | cons v vs =>
    rw [hf, List.length_cons] at hone
    obtain rfl := List.length_eq_zero_iff.mp (Nat.le_zero.mp (Nat.le_of_succ_le_succ hone))
    exact List.pairwise_singleton _ v

theorem Single.andThen_ordered (hf : f.Single) (hg : g.Ordered r) : (f.andThen g).Ordered r := by
  intro pos slots
  have hone := hf pos slots
  unfold andThen
  cases hv : f pos slots with
  | nil => exact .nil
  | cons v vs =>
    rw [hv, List.length_cons] at hone
    obtain rfl := List.length_eq_zero_iff.mp (Nat.le_zero.mp (Nat.le_of_succ_le_succ hone))
    rw [List.flatMap_singleton]
    exact hg v.1 v.2

theorem single_looked (f : Ways) : (f.looked true).Single := by
  intro pos slots
  unfold looked
  rw [if_pos rfl]
  split
  · exact Nat.le_refl 1
  · exact Nat.zero_le 1

theorem single_chars (t : Subject) (set : CharSet) : ((Expr.chars set).ways t).Single := by
  intro pos slots
  unfold Expr.ways
  split
  · split
    · exact Nat.le_refl 1
    · exact Nat.zero_le 1
  · exact Nat.zero_le 1

theorem single_backref (t : Subject) (g : Nat) : ((Expr.backref g).ways t).Single := by
  intro pos slots
  unfold Expr.ways
  split
  · split
    · exact Nat.le_refl 1
    · exact Nat.zero_le 1
  · exact Nat.zero_le 1

/-! ## Ordered ways -/

theorem Ordered.imp {r' : Nat → Nat → Prop} (h : f.Ordered r) (himp : ∀ j k, r j k → r' j k) :
    f.Ordered r' :=
  fun pos slots => (h pos slots).imp fun hr => himp _ _ hr

/-- A group ends where its inside does. -/
theorem Ordered.captured (h : f.Ordered r) (index : Nat) : (f.captured index).Ordered r := by
  intro pos slots
  unfold Ways.captured
  rw [List.pairwise_map]
  exact h pos _

/-- What a round of characters goes on to ends behind where the round began. -/
theorem lt_of_mem_again {t : Subject} {set : CharSet} {isOpen greedy : Bool} {more : Nat}
    {since : Option Nat} {w : Way}
    (hw : w ∈ ((Expr.chars set).ways t).andThen
      (((Expr.chars set).ways t).rounds isOpen greedy 0 more since) pos slots) : pos < w.1 := by
  obtain ⟨v, hv, hw⟩ := mem_andThen.mp hw
  obtain ⟨-, -, -, rfl⟩ := Expr.mem_ways_chars.mp hv
  exact ((Expr.ways_within t (.chars set)).rounds isOpen greedy 0 more since _ _ w hw).1

theorem ordered_rounds (t : Subject) (set : CharSet) (greedy : Bool) (more : Nat)
    (since : Option Nat) :
    (((Expr.chars set).ways t).rounds true greedy 0 more since).Ordered (Prefers greedy) := by
  induction more generalizing since with
  | zero =>
    intro pos slots
    rw [rounds_zero_zero]
    exact List.pairwise_singleton _ _
  | succ more ih =>
    intro pos slots
    have hagain := (single_chars t set).andThen_ordered (ih (some pos)) pos slots
    unfold rounds
    split
    · exact .nil
    cases greedy with
    | true =>
      rw [if_pos rfl, List.pairwise_append]
      refine ⟨hagain, List.pairwise_singleton _ _, fun v hv w hw => ?_⟩
      rw [List.mem_singleton.mp hw]
      exact lt_of_mem_again hv
    | false =>
      rw [if_neg Bool.false_ne_true, List.pairwise_cons]
      exact ⟨fun w hw => lt_of_mem_again hw, hagain⟩

/-- **A greedy repetition prefers the longest way**, any other one the shortest. -/
theorem ordered_star (t : Subject) (set : CharSet) (greedy : Bool) :
    ((Expr.repeated 0 none greedy (.chars set)).ways t).Ordered (Prefers greedy) :=
  ordered_rounds t set greedy _ none

/-- The ways of alternatives are the ways of each in turn. -/
theorem ways_alts_eq_flatMap (t : Subject) (es : List Expr) (hne : es ≠ []) (pos : Nat)
    (slots : Slots) :
    (Expr.alts es).ways t pos slots = es.flatMap fun e => e.ways t pos slots := by
  induction es with
  | nil => exact absurd rfl hne
  | cons e es ih =>
    cases es with
    | nil => rw [List.flatMap_singleton]; rfl
    | cons e' es =>
      rw [List.flatMap_cons, ← ih (List.cons_ne_nil _ _)]
      rfl

/-- Alternatives are in order if each one is, and all ends of an earlier one come before those of a
later one. -/
theorem ordered_alts (t : Subject) {es : List Expr} (hne : es ≠ [])
    (hone : ∀ e ∈ es, (e.ways t).Ordered r)
    (hall : es.Pairwise fun e e' => ∀ pos slots, ∀ v ∈ e.ways t pos slots,
      ∀ w ∈ e'.ways t pos slots, r v.1 w.1) :
    ((Expr.alts es).ways t).Ordered r := by
  intro pos slots
  rw [ways_alts_eq_flatMap t es hne]
  refine List.pairwise_flatMap.mpr ⟨fun e he => hone e he pos slots, ?_⟩
  exact hall.imp fun h => h pos slots

/-! ## The first way -/

/-- **The first way of a sequence** goes on from the first way of its front that can be gone on
from. -/
theorem head?_andThen {w : Way} (h : (f.andThen g pos slots).head? = some w) :
    ∃ front v back, f pos slots = front ++ v :: back ∧ (∀ u ∈ front, g u.1 u.2 = []) ∧
      (g v.1 v.2).head? = some w := by
  unfold andThen at h
  generalize f pos slots = ways at h ⊢
  induction ways with
  | nil => cases h
  | cons v vs ih =>
    rw [List.flatMap_cons] at h
    cases hv : g v.1 v.2 with
    | nil =>
      rw [hv, List.nil_append] at h
      obtain ⟨front, v', back, rfl, hfront, hw⟩ := ih h
      exact ⟨v :: front, v', back, rfl, List.forall_mem_cons.mpr ⟨hv, hfront⟩, hw⟩
    | cons u us =>
      rw [hv, List.cons_append, List.head?_cons] at h
      exact ⟨[], v, vs, rfl, nofun, by rw [hv, List.head?_cons, h]⟩

end CodeShape.Regex.Ways
