import Mathlib.Data.Finset.Lattice.Fold
import CodeShape.Proofs.Regex.Budget
import CodeShape.Proofs.Regex.SearchWays

/-!
# What a search spends of its budget

A search pays for each return to its stack. It returns finitely often, whatever the plan: from every
choice on there is a budget with which it comes to an answer or back to the stack beneath
(`settles`), so that for every text there is a budget which lasts for all searches of it
(`Searcher.exists_lasts`). In the other direction, giving up a choice between alternatives costs a
return for each of them but the last (`Wastes`), and a search that has to pass over more positions
than its budget can pay for comes to no answer (`explore_spent`).
-/

namespace CodeShape.Regex

namespace Subject

/-! ## The steps of a search -/

/-- The search goes on with `c'` in place of `c`, and has the same ways open. -/
structure Goes (t : Subject) (c c' : Choice) : Prop where
  ways : c.ways t = c'.ways t
  explore : ∀ budget stack, t.explore budget (some c) stack = t.explore budget (some c') stack

/-- The search gives `c` up. -/
def Fails (t : Subject) (c : Choice) : Prop :=
  ∀ budget stack, t.explore budget (some c) stack = t.explore budget none stack

/-- The search goes on with `c'` in place of `c`, and `c''` waits on the stack with the other ways. -/
structure Branches (t : Subject) (c c' c'' : Choice) : Prop where
  ways : c.ways t = c'.ways t ++ c''.ways t
  explore : ∀ budget stack,
    t.explore budget (some c) stack = t.explore budget (some c') (c'' :: stack)

/-- What a search does next with a choice: but for lookarounds and atomic parts, it goes on with
less to do, leaves something to do on the stack, or fails. -/
inductive Step (t : Subject) : Choice → Prop
  | met {pos : Nat} {slots : Slots} : Step t ⟨[], pos, slots⟩
  | goes {c c' : Choice} (hless : costs t.text.size c'.goals < costs t.text.size c.goals)
      (h : t.Goes c c') : Step t c
  | fails {c : Choice} (h : t.Fails c) : Step t c
  | branches {c c' c'' : Choice} (hless : costs t.text.size c'.goals < costs t.text.size c.goals)
      (hless' : costs t.text.size c''.goals < costs t.text.size c.goals) (h : t.Branches c c' c'') :
      Step t c
  | forbids {p : Plan} {rest : List Goal} {pos : Nat} {slots : Slots} :
      Step t ⟨.plan (.forbid p) :: rest, pos, slots⟩
  | isolates {p : Plan} {rest : List Goal} {pos : Nat} {slots : Slots} :
      Step t ⟨.plan (.atomic p) :: rest, pos, slots⟩

section Steps

variable (t : Subject) (p q : Plan) (rest : List Goal) (pos : Nat) (slots : Slots)

theorem goes_mark (slot : Nat) :
    t.Goes ⟨.mark slot :: rest, pos, slots⟩ ⟨rest, pos, (slot, some pos) :: slots⟩ :=
  ⟨ways_of_one (w := (pos, (slot, some pos) :: slots)) rfl, fun budget stack => by rw [explore]⟩

theorem goes_goTo (target : Nat) :
    t.Goes ⟨.goTo target :: rest, pos, slots⟩ ⟨rest, target, slots⟩ :=
  ⟨ways_of_one (w := (target, slots)) rfl, fun budget stack => by rw [explore]⟩

theorem goes_round (need more : Nat) (isOpen greedy : Bool) (since : Option Nat) :
    t.Goes ⟨.rounds (need + 1) more isOpen greedy since p :: rest, pos, slots⟩
      ⟨.plan p :: .rounds need more isOpen greedy since p :: rest, pos, slots⟩ :=
  ⟨ways_rounds_need need more isOpen greedy since p, fun budget stack => by rw [explore]⟩

theorem goes_no_round (isOpen greedy : Bool) (since : Option Nat) :
    t.Goes ⟨.rounds 0 0 isOpen greedy since p :: rest, pos, slots⟩ ⟨rest, pos, slots⟩ := by
  refine ⟨ways_of_one (w := (pos, slots)) ?_, fun budget stack => by rw [explore]⟩
  rw [Goal.ways, Ways.rounds_zero_zero]

theorem goes_cat :
    t.Goes ⟨.plan (.cat p q) :: rest, pos, slots⟩ ⟨.plan p :: .plan q :: rest, pos, slots⟩ :=
  ⟨ways_cat p q, fun budget stack => by rw [explore]⟩

theorem goes_group (i : Nat) :
    t.Goes ⟨.plan (.group i p) :: rest, pos, slots⟩
      ⟨.plan p :: .mark (2 * i + 1) :: rest, pos, (2 * i, some pos) :: slots⟩ :=
  ⟨ways_group i p, fun budget stack => by rw [explore]⟩

theorem goes_repeated (lo : Nat) (hi : Option Nat) (greedy : Bool) :
    t.Goes ⟨.plan (.repeated lo hi greedy p) :: rest, pos, slots⟩
      ⟨.rounds lo (roundLimit t.text.size lo hi) hi.isNone greedy none p :: rest, pos, slots⟩ :=
  ⟨rfl, fun budget stack => by rw [explore]⟩

theorem goes_peek :
    t.Goes ⟨.plan (.peek p) :: rest, pos, slots⟩
      ⟨.plan p :: .goTo pos :: rest, pos, slots⟩ :=
  ⟨ways_peek p, fun budget stack => by rw [explore]⟩

theorem branches_alt :
    t.Branches ⟨.plan (.alt p q) :: rest, pos, slots⟩ ⟨.plan p :: rest, pos, slots⟩
      ⟨.plan q :: rest, pos, slots⟩ :=
  ⟨ways_alt p q, fun budget stack => by rw [explore]⟩

variable {pos} {isOpen : Bool} {since : Option Nat}

theorem branches_greedy (more : Nat) (hgo : ¬ (isOpen && since == some pos) = true) :
    t.Branches ⟨.rounds 0 (more + 1) isOpen true since p :: rest, pos, slots⟩
      ⟨.plan p :: .rounds 0 more isOpen true (some pos) p :: rest, pos, slots⟩
      ⟨rest, pos, slots⟩ := by
  refine ⟨ways_rounds_more more true p hgo, fun budget stack => ?_⟩
  rw [explore, if_neg hgo]
  rfl

theorem branches_lazy (more : Nat) (hgo : ¬ (isOpen && since == some pos) = true) :
    t.Branches ⟨.rounds 0 (more + 1) isOpen false since p :: rest, pos, slots⟩
      ⟨rest, pos, slots⟩
      ⟨.plan p :: .rounds 0 more isOpen false (some pos) p :: rest, pos, slots⟩ := by
  refine ⟨ways_rounds_more more false p hgo, fun budget stack => ?_⟩
  rw [explore, if_neg hgo]
  rfl

end Steps

variable {t : Subject} {c c' c'' : Choice} {p q : Plan} {pos : Nat} {slots : Slots}
  {rest : List Goal}

/-- A plan without choices and without parts is met at once or fails. -/
theorem step_simple (hways : p.ways t pos slots = (t.simple? p pos slots).toList)
    (hexplore : ∀ budget stack, t.explore budget (some ⟨.plan p :: rest, pos, slots⟩) stack
      = t.explore budget ((t.simple? p pos slots).map fun w => ⟨rest, w.1, w.2⟩) stack) :
    Step t ⟨.plan p :: rest, pos, slots⟩ := by
  cases hsimple : t.simple? p pos slots with
  | none =>
    refine .fails fun budget stack => ?_
    rw [hexplore, hsimple, Option.map_none]
  | some w =>
    have hcost := p.one_le_cost t.text.size
    have hless : costs t.text.size rest < costs t.text.size (.plan p :: rest) := by
      simp only [costs_cons, Goal.cost]
      omega
    have hgoes : t.Goes ⟨.plan p :: rest, pos, slots⟩ ⟨rest, w.1, w.2⟩ := by
      refine ⟨?_, fun budget stack => ?_⟩
      · rw [ways_simple hways, hsimple, Option.map_some, Option.toList_some, List.flatMap_singleton]
      · rw [hexplore, hsimple, Option.map_some]
    exact .goes hless hgoes

/-- **What a search does with a choice** is one of the steps. -/
theorem step (t : Subject) (c : Choice) : Step t c := by
  obtain ⟨goals, pos, slots⟩ := c
  cases goals with
  | nil => exact .met
  | cons goal rest =>
    cases goal with
    | mark slot =>
      refine .goes ?_ (goes_mark t rest pos slots slot)
      simp only [costs_cons, Goal.cost]
      omega
    | goTo target =>
      refine .goes ?_ (goes_goTo t rest pos slots target)
      simp only [costs_cons, Goal.cost]
      omega
    -- rounds that have to follow come first; each one that may follow is a choice against going on,
    -- but none follows a round that took nothing
    | rounds need more isOpen greedy since p =>
      cases need with
      | succ need =>
        refine .goes ?_ (goes_round t p rest pos slots need more isOpen greedy since)
        simp only [costs_cons, Goal.cost]
        rw [show need + 1 + more = need + more + 1 by omega, Nat.succ_mul]
        omega
      | zero =>
        cases more with
        | zero =>
          refine .goes ?_ (goes_no_round t p rest pos slots isOpen greedy since)
          simp only [costs_cons, Goal.cost]
          omega
        | succ more =>
          by_cases hrefused : (isOpen && since == some pos) = true
          · refine .fails fun budget stack => ?_
            rw [explore, if_pos hrefused]
          have hagain :
              costs t.text.size (.plan p :: .rounds 0 more isOpen greedy (some pos) p :: rest)
                < costs t.text.size (.rounds 0 (more + 1) isOpen greedy since p :: rest) := by
            simp only [costs_cons, Goal.cost]
            rw [show 0 + (more + 1) = 0 + more + 1 by omega, Nat.succ_mul]
            omega
          have honward : costs t.text.size rest
              < costs t.text.size (.rounds 0 (more + 1) isOpen greedy since p :: rest) := by
            simp only [costs_cons, Goal.cost]
            omega
          cases greedy with
          | true => exact .branches hagain honward (branches_greedy t p rest slots more hrefused)
          | false => exact .branches honward hagain (branches_lazy t p rest slots more hrefused)
    | plan p =>
      cases p with
      | cat p q =>
        refine .goes ?_ (goes_cat t p q rest pos slots)
        simp only [costs_cons, Goal.cost, Plan.cost]
        omega
      | alt p q =>
        refine .branches ?_ ?_ (branches_alt t p q rest pos slots)
        · simp only [costs_cons, Goal.cost, Plan.cost]
          omega
        · simp only [costs_cons, Goal.cost, Plan.cost]
          omega
      | group i p =>
        refine .goes ?_ (goes_group t p rest pos slots i)
        simp only [costs_cons, Goal.cost, Plan.cost]
        omega
      | repeated lo hi greedy p =>
        refine .goes ?_ (goes_repeated t p rest pos slots lo hi greedy)
        have hrounds := Nat.mul_le_mul_right (p.cost t.text.size + 1)
          (Nat.add_le_add_left (roundLimit_le t.text.size lo hi) lo)
        simp only [costs_cons, Goal.cost, Plan.cost]
        omega
      | peek p =>
        refine .goes ?_ (goes_peek t p rest pos slots)
        simp only [costs_cons, Goal.cost, Plan.cost]
        omega
      | forbid p => exact .forbids
      | atomic p => exact .isolates
      | nothing | delegate | chars | assert | back | copyOf | keepOut | searchStart =>
        -- all others have no parts to search for
        refine step_simple rfl fun budget stack => ?_
        rw [explore] <;> (intros; contradiction)

/-! ## Some budget is enough -/

/-- With some budget, the search from a choice on comes to an answer or back to the stack. Whatever
there is more of the budget is then still there. -/
def Settles (t : Subject) (c : Choice) : Prop :=
  ∃ enough, ∀ extra stack,
    (∃ pos slots left, extra ≤ left ∧
        t.explore (enough + extra) (some c) stack = .found pos slots left) ∨
      ∃ left, extra ≤ left ∧
        t.explore (enough + extra) (some c) stack = t.explore left none stack

/-- The search goes on with `c'` after it has spent no more than `enough`. -/
theorem Settles.of_spent (enough : Nat) (hsettles : t.Settles c')
    (h : ∀ more stack, ∃ left, more ≤ left ∧
      t.explore (enough + more) (some c) stack = t.explore left (some c') stack) : t.Settles c := by
  obtain ⟨enough', hc'⟩ := hsettles
  refine ⟨enough + enough', fun extra stack => ?_⟩
  obtain ⟨left, hleft, heq⟩ := h (enough' + extra) stack
  obtain ⟨more, rfl⟩ : ∃ more, left = enough' + (extra + more) :=
    ⟨left - (enough' + extra), by omega⟩
  rw [Nat.add_assoc, heq]
  rcases hc' (extra + more) stack with ⟨pos, slots, left, hmore, hfound⟩ | ⟨left, hmore, hback⟩
  · exact Or.inl ⟨pos, slots, left, by omega, hfound⟩
  · exact Or.inr ⟨left, by omega, hback⟩

theorem Settles.of_goes (h : t.Goes c c') (hsettles : t.Settles c') : t.Settles c := by
  refine hsettles.of_spent 0 fun more stack => ⟨more, Nat.le_refl more, ?_⟩
  rw [h.explore, Nat.zero_add]

theorem Settles.of_fails (h : t.Fails c) : t.Settles c := by
  refine ⟨0, fun extra stack => Or.inr ⟨extra, Nat.le_refl extra, ?_⟩⟩
  rw [h, Nat.zero_add]

/-- Both ways of going on get their share, and the return between them is paid. -/
theorem Settles.of_branches (h : t.Branches c c' c'') (hsettles : t.Settles c')
    (hsettles' : t.Settles c'') : t.Settles c := by
  obtain ⟨enough, hc'⟩ := hsettles
  obtain ⟨enough', hc''⟩ := hsettles'
  refine ⟨enough + (enough' + 1), fun extra stack => ?_⟩
  rw [h.explore, Nat.add_assoc]
  rcases hc' (enough' + 1 + extra) (c'' :: stack) with ⟨pos, slots, left, hleft, heq⟩ | ⟨left, hleft, heq⟩
  · exact Or.inl ⟨pos, slots, left, by omega, heq⟩
  · obtain ⟨more, rfl⟩ : ∃ more, left = enough' + (extra + more) + 1 :=
      ⟨left - (enough' + extra + 1), by omega⟩
    rw [heq, explore]
    rcases hc'' (extra + more) stack with ⟨pos, slots, left, hleft, heq⟩ | ⟨left, hleft, heq⟩
    · exact Or.inl ⟨pos, slots, left, by omega, heq⟩
    · exact Or.inr ⟨left, by omega, heq⟩

/-- What settles has an answer when it stands alone. -/
theorem Settles.answers (h : t.Settles c) :
    ∃ enough, t.explore enough (some c) [] ≠ .exhausted := by
  obtain ⟨enough, hc⟩ := h
  refine ⟨enough, ?_⟩
  rcases hc 0 [] with ⟨pos, slots, left, -, heq⟩ | ⟨left, -, heq⟩
  · rw [Nat.add_zero] at heq
    rw [heq]
    intro h
    cases h
  · rw [Nat.add_zero] at heq
    rw [heq, explore]
    intro h
    cases h

theorem Settles.of_forbids (hinner : t.Settles ⟨[.plan p], pos, slots⟩)
    (hrest : t.Settles ⟨rest, pos, slots⟩) :
    t.Settles ⟨.plan (.forbid p) :: rest, pos, slots⟩ := by
  obtain ⟨enough, hanswer⟩ := hinner.answers
  -- the search within has the same outcome when more of the budget is set aside for the rest
  have hraise (more : Nat) := explore_raise t more enough (some ⟨[.plan p], pos, slots⟩) [] hanswer
  cases hout : t.explore enough (some ⟨[.plan p], pos, slots⟩) [] with
  | exhausted => exact absurd hout hanswer
  | found j s left =>
    refine ⟨enough, fun extra stack => Or.inr ⟨min (left + extra) (enough + extra), by omega, ?_⟩⟩
    rw [explore, hraise extra, hout]
    rfl
  | missing left =>
    refine hrest.of_spent (enough + 1) fun more stack =>
      ⟨min (left + more) (enough + (1 + more)), by omega, ?_⟩
    rw [explore, Nat.add_assoc, hraise (1 + more), hout, Outcome.raise,
      show left + (1 + more) = left + more + 1 by omega]

theorem Settles.of_isolates (hinner : t.Settles ⟨[.plan p], pos, slots⟩)
    (hrest : ∀ j s, t.Settles ⟨rest, j, s⟩) :
    t.Settles ⟨.plan (.atomic p) :: rest, pos, slots⟩ := by
  obtain ⟨enough, hanswer⟩ := hinner.answers
  have hraise (more : Nat) := explore_raise t more enough (some ⟨[.plan p], pos, slots⟩) [] hanswer
  cases hout : t.explore enough (some ⟨[.plan p], pos, slots⟩) [] with
  | exhausted => exact absurd hout hanswer
  | missing left =>
    refine ⟨enough, fun extra stack => Or.inr ⟨min (left + extra) (enough + extra), by omega, ?_⟩⟩
    rw [explore, hraise extra, hout]
    rfl
  | found j s left =>
    refine (hrest j s).of_spent enough fun more stack =>
      ⟨min (left + more) (enough + more), by omega, ?_⟩
    rw [explore, hraise more, hout]
    rfl

/-- **From every choice on, some budget is enough.** -/
theorem settles (t : Subject) (c : Choice) : t.Settles c := by
  induction hcost : costs t.text.size c.goals using Nat.strongRecOn generalizing c with
  | ind cost ih =>
    subst hcost
    cases t.step c with
    | @met pos slots =>
      refine ⟨0, fun extra stack => Or.inl ⟨pos, slots, extra, Nat.le_refl extra, ?_⟩⟩
      rw [Nat.zero_add, explore]
    | goes hless h => exact .of_goes h (ih _ hless _ rfl)
    | fails h => exact .of_fails h
    | branches hless hless' h => exact .of_branches h (ih _ hless _ rfl) (ih _ hless' _ rfl)
    | @forbids p rest pos slots =>
      refine .of_forbids (ih _ ?_ _ rfl) (ih _ ?_ _ rfl)
      · simp only [costs_cons, costs_nil, Goal.cost, Plan.cost]
        omega
      · simp only [costs_cons, Goal.cost, Plan.cost]
        omega
    | @isolates p rest pos slots =>
      refine .of_isolates (ih _ ?_ _ rfl) fun j s => ih _ ?_ _ rfl
      · simp only [costs_cons, costs_nil, Goal.cost, Plan.cost]
        omega
      · simp only [costs_cons, Goal.cost, Plan.cost]
        omega

/-! ## What is spent in vain -/

/-- The search gives the choice up, and at least `lost` of its budget with it. -/
def Wastes (t : Subject) (lost : Nat) (c : Choice) : Prop :=
  ∀ budget stack, t.explore budget (some c) stack = .exhausted ∨
    ∃ left, left + lost ≤ budget ∧ t.explore budget (some c) stack = t.explore left none stack

variable {lost lost' : Nat}

theorem Wastes.of_fails (h : t.Fails c) : t.Wastes 0 c := by
  intro budget stack
  exact Or.inr ⟨budget, Nat.le_refl budget, h budget stack⟩

theorem Wastes.of_goes (h : t.Goes c c') (hwastes : t.Wastes lost c') : t.Wastes lost c := by
  intro budget stack
  rw [h.explore]
  exact hwastes budget stack

/-- What is lost on both ways, and the return between them. -/
theorem Wastes.of_branches (h : t.Branches c c' c'') (hwastes : t.Wastes lost c')
    (hwastes' : t.Wastes lost' c'') : t.Wastes (lost + 1 + lost') c := by
  intro budget stack
  rw [h.explore]
  rcases hwastes budget (c'' :: stack) with hspent | ⟨left, hleft, heq⟩
  · exact Or.inl hspent
  cases left with
  | zero =>
    rw [heq, explore]
    exact Or.inl rfl
  | succ left =>
    rw [heq, explore]
    rcases hwastes' left stack with hspent | ⟨left', hleft', heq'⟩
    · exact Or.inl hspent
    · exact Or.inr ⟨left', by omega, heq'⟩

theorem Wastes.mono (h : t.Wastes lost c) (hle : lost' ≤ lost) : t.Wastes lost' c := by
  intro budget stack
  rcases h budget stack with hspent | ⟨left, hleft, heq⟩
  · exact Or.inl hspent
  · exact Or.inr ⟨left, by omega, heq⟩

/-- A part that must not match and does not gives nothing back. -/
theorem Wastes.of_forbids (hnone : p.ways t pos slots = [])
    (hwastes : t.Wastes lost ⟨rest, pos, slots⟩) :
    t.Wastes lost ⟨.plan (.forbid p) :: rest, pos, slots⟩ := by
  intro budget stack
  have htells := explore_tells t budget (some ⟨[.plan p], pos, slots⟩) []
  rw [openWays_single, hnone] at htells
  rw [explore]
  cases hout : t.explore budget (some ⟨[.plan p], pos, slots⟩) [] with
  | found j s left =>
    rw [hout] at htells
    cases htells
  | exhausted => exact Or.inl rfl
  | missing left =>
    cases left with
    | zero => exact Or.inl rfl
    | succ left =>
      rcases hwastes (min left budget) stack with hspent | ⟨left', hleft', heq⟩
      · exact Or.inl hspent
      · exact Or.inr ⟨left', by omega, heq⟩

/-- A part that must not match but does has the choice given up. -/
theorem wastes_forbidden (hsome : p.ways t pos slots ≠ []) :
    t.Wastes 0 ⟨.plan (.forbid p) :: rest, pos, slots⟩ := by
  intro budget stack
  have htells := explore_tells t budget (some ⟨[.plan p], pos, slots⟩) []
  rw [openWays_single] at htells
  rw [explore]
  cases hout : t.explore budget (some ⟨[.plan p], pos, slots⟩) [] with
  | exhausted => exact Or.inl rfl
  | missing left =>
    rw [hout] at htells
    exact absurd htells hsome
  | found j s left => exact Or.inr ⟨min left budget, Nat.min_le_right _ _, rfl⟩

/-- An atomic part has the choice given up if its first way leads nowhere. -/
theorem Wastes.of_isolates
    (hrest : ∀ j s, (p.ways t pos slots).head? = some (j, s) → t.Wastes 0 ⟨rest, j, s⟩) :
    t.Wastes 0 ⟨.plan (.atomic p) :: rest, pos, slots⟩ := by
  intro budget stack
  have htells := explore_tells t budget (some ⟨[.plan p], pos, slots⟩) []
  rw [openWays_single] at htells
  rw [explore]
  cases hout : t.explore budget (some ⟨[.plan p], pos, slots⟩) [] with
  | exhausted => exact Or.inl rfl
  | missing left => exact Or.inr ⟨min left budget, Nat.min_le_right _ _, rfl⟩
  | found j s left =>
    rw [hout] at htells
    rcases hrest j s htells (min left budget) stack with hspent | ⟨left', hleft', heq⟩
    · exact Or.inl hspent
    · exact Or.inr ⟨left', by omega, heq⟩

/-- **A choice without a way is given up.** -/
theorem wastes_of_no_way (t : Subject) (c : Choice) (hnone : c.ways t = []) : t.Wastes 0 c := by
  induction hcost : costs t.text.size c.goals using Nat.strongRecOn generalizing c with
  | ind cost ih =>
    subst hcost
    cases t.step c with
    | met => exact absurd hnone (List.cons_ne_nil _ _)
    | goes hless h => exact .of_goes h (ih _ hless _ (h.ways.symm.trans hnone) rfl)
    | fails h => exact .of_fails h
    | branches hless hless' h =>
      obtain ⟨hc', hc''⟩ := List.append_eq_nil_iff.mp (h.ways.symm.trans hnone)
      exact (Wastes.of_branches h (ih _ hless _ hc' rfl) (ih _ hless' _ hc'' rfl)).mono
        (Nat.zero_le _)
    | @forbids p rest pos slots =>
      have hless : costs t.text.size rest < costs t.text.size (.plan (.forbid p) :: rest) := by
        simp only [costs_cons, Goal.cost, Plan.cost]
        omega
      by_cases hp : p.ways t pos slots = []
      · rw [ways_forbid, hp, List.isEmpty_nil, if_pos rfl] at hnone
        exact .of_forbids hp (ih _ hless _ hnone rfl)
      · exact wastes_forbidden hp
    | @isolates p rest pos slots =>
      have hless : costs t.text.size rest < costs t.text.size (.plan (.atomic p) :: rest) := by
        simp only [costs_cons, Goal.cost, Plan.cost]
        omega
      refine .of_isolates fun j s hhead => ih _ hless _ ?_ rfl
      obtain ⟨ws, hws⟩ := List.head?_eq_some_iff.mp hhead
      rw [ways_atomic, hws, List.take_succ_cons, List.flatMap_cons, List.append_eq_nil_iff] at hnone
      exact hnone.1

/-- A choice between alternatives none of which has a way is given up, and a return is paid for each
alternative but the last. -/
theorem wastes_alts {ps : List Plan} (hnone : (Plan.alts ps).ways t pos slots = []) :
    t.Wastes (ps.length - 1) ⟨.plan (.alts ps) :: rest, pos, slots⟩ := by
  have hway {p : Plan} (hp : p.ways t pos slots = []) :
      t.Wastes 0 ⟨.plan p :: rest, pos, slots⟩ := by
    refine wastes_of_no_way t _ ?_
    show (p.ways t pos slots).flatMap _ = []
    rw [hp, List.flatMap_nil]
  induction ps with
  | nil => exact hway hnone
  | cons p ps ih =>
    cases ps with
    | nil => exact hway hnone
    | cons p' ps =>
      obtain ⟨hfirst, hothers⟩ := List.append_eq_nil_iff.mp hnone
      refine (Wastes.of_branches (branches_alt ..) (hway hfirst) (ih hothers)).mono ?_
      simp only [List.length_cons]
      omega

/-- **A search that has to pass over more positions than its budget pays for** comes to no
answer. -/
theorem explore_spent (t : Subject) {more n : Nat} {since : Option Nat} {budget : Nat}
    (hpass : ∀ q, pos ≤ q → q < pos + n → q < t.text.size ∧ t.Wastes lost ⟨rest, q, slots⟩)
    (hmore : n ≤ more) (hsince : since ≠ some pos) (hbudget : budget < n * (lost + 1)) :
    t.explore budget (some ⟨.rounds 0 more true false since (.chars .all) :: rest, pos, slots⟩) []
      = .exhausted := by
  induction n generalizing pos more since budget with
  | zero => omega
  | succ n ih =>
    obtain ⟨more, rfl⟩ : ∃ k, more = k + 1 := ⟨more - 1, by omega⟩
    obtain ⟨hsize, hwastes⟩ := hpass pos (Nat.le_refl pos) (by omega)
    have hgo : ¬ (true && since == some pos) = true := by
      rw [Bool.true_and, beq_iff_eq]
      exact hsince
    rw [(branches_lazy t (.chars .all) rest slots more hgo).explore]
    rcases hwastes budget [⟨.plan (.chars .all) :: .rounds 0 more true false (some pos)
        (.chars .all) :: rest, pos, slots⟩] with hspent | ⟨left, hleft, heq⟩
    · exact hspent
    rw [heq]
    cases left with
    | zero => rw [explore]
    | succ left =>
      -- the return leads on to the next position
      have hchar : t.simple? (.chars .all) pos slots = some (pos + 1, slots) := by
        unfold simple?
        rw [Array.getElem?_eq_getElem hsize]
        rfl
      have honward (budget : Nat) (stack : List Choice) :
          t.explore budget (some ⟨.plan (.chars .all) :: .rounds 0 more true false (some pos)
              (.chars .all) :: rest, pos, slots⟩) stack
            = t.explore budget (some ⟨.rounds 0 more true false (some pos)
                (.chars .all) :: rest, pos + 1, slots⟩) stack := by
        rw [explore, hchar, Option.map_some] <;> (intros; contradiction)
      rw [explore, honward]
      have hpass' : ∀ q, pos + 1 ≤ q → q < pos + 1 + n →
          q < t.text.size ∧ t.Wastes lost ⟨rest, q, slots⟩ := by
        intro q hq hlt
        exact hpass q (by omega) (by omega)
      rw [Nat.succ_mul] at hbudget
      refine ih hpass' (by omega) ?_ (by omega)
      simp only [ne_eq, Option.some.injEq]
      omega

end Subject

/-! ## The budget of a searcher -/

namespace Searcher

variable {s : Searcher} {budget : Nat} {text : Array Char} {start : Nat} {origin : Option Nat}

/-- The budget lasts for every search of the text. -/
def Lasts (s : Searcher) (budget : Nat) (text : Array Char) : Prop :=
  ∀ start origin, start ≤ text.size → origin = none ∨ origin = some start →
    s.search budget text start origin ≠ .exhausted

theorem search_ne_exhausted_iff {plan : Plan} (hmethod : s.method = .backtracking plan) :
    s.search budget text start origin ≠ .exhausted ↔
      (Subject.mk text origin).explore budget (some ⟨[.plan plan], start, []⟩) []
        ≠ .exhausted := by
  unfold search
  rw [hmethod]
  dsimp only
  cases (Subject.mk text origin).explore budget (some ⟨[.plan plan], start, []⟩) [] with
  | exhausted => exact iff_of_false (fun h => h rfl) fun h => h rfl
  | missing left => exact iff_of_true (by rintro ⟨⟩) (by rintro ⟨⟩)
  | found pos slots left =>
    refine iff_of_true ?_ (by rintro ⟨⟩)
    dsimp only
    cases Match.ofSlots? slots with
    | none => rintro ⟨⟩
    | some m => rintro ⟨⟩

/-- For every search some budget is enough. -/
theorem exists_budget (s : Searcher) (text : Array Char) (start : Nat) (origin : Option Nat) :
    ∃ enough, s.search enough text start origin ≠ .exhausted := by
  cases hmethod : s.method with
  | automaton a => exact ⟨0, search_automaton hmethod⟩
  | backtracking plan =>
    obtain ⟨enough, hanswer⟩ := (Subject.settles ⟨text, origin⟩ ⟨[.plan plan], start, []⟩).answers
    exact ⟨enough, (search_ne_exhausted_iff hmethod).mpr hanswer⟩

/-- **For every text there is a budget that lasts**, and so does every greater one. -/
theorem exists_lasts (s : Searcher) (text : Array Char) :
    ∃ enough, ∀ budget, enough ≤ budget → s.Lasts budget text := by
  choose enough hanswer using s.exists_budget text
  let most := (Finset.range (text.size + 1)).sup fun start =>
    max (enough start none) (enough start (some start))
  refine ⟨most, fun budget hbudget start origin hstart horigin => ?_⟩
  have hmost : max (enough start none) (enough start (some start)) ≤ most :=
    Finset.le_sup (f := fun start => max (enough start none) (enough start (some start)))
      (Finset.mem_range.mpr (Nat.lt_succ_of_le hstart))
  have hle : enough start origin ≤ budget := by
    rcases horigin with rfl | rfl <;> omega
  rw [search_budget hle (hanswer start origin)]
  exact hanswer start origin

/-- A search by a plan comes to no answer if there are more positions to pass over than its budget
pays for. -/
theorem search_spent {plan : Plan} (hmethod : s.method = .backtracking plan.anywhere) {lost n : Nat}
    (hsize : start + n ≤ text.size)
    (hwastes : ∀ q, start ≤ q → q < start + n →
      (Subject.mk text origin).Wastes lost ⟨[.plan (.group 0 plan)], q, []⟩)
    (hbudget : budget < n * (lost + 1)) : s.search budget text start origin = .exhausted := by
  by_contra hanswer
  refine (search_ne_exhausted_iff hmethod).mp hanswer ?_
  rw [Plan.anywhere, (Subject.goes_cat ..).explore, (Subject.goes_repeated ..).explore]
  refine Subject.explore_spent _ (fun q hq hlt => ⟨?_, hwastes q hq hlt⟩) ?_ nofun hbudget
  · show q < text.size
    omega
  · show n ≤ text.size + 2
    omega

end Searcher

end CodeShape.Regex
