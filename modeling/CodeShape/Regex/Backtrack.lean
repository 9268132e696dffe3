import CodeShape.Regex.Plan

/-!
# The backtracking search

The search works on a list of goals at a position of the text. A goal that leaves a choice puts the
other way on a stack; when a goal fails, the search goes on with the way on top of the stack. Each
such return is paid from a budget, and a search whose budget is spent gives up with no answer.

`explore` terminates because a return lowers the budget and every other step lowers the total
`Goal.cost` of the goals: even a repetition without an upper limit has at most two rounds more than
there are characters, since a round that takes nothing is not repeated.
-/

namespace CodeShape.Regex

/-- What the search still has to match. -/
inductive Goal where
  | plan (p : Plan)
  /-- Sets a slot to the position. -/
  | mark (slot : Nat)
  /-- Goes back to a position. -/
  | goTo (pos : Nat)
  /-- The next round of a repetition: `need` rounds have to follow and `more` may. An `open`
  repetition has no upper limit; it fails where an optional round has taken nothing, and `since` is
  the position at which the last optional round began. -/
  | rounds (need more : Nat) (isOpen greedy : Bool) (since : Option Nat) (p : Plan)
deriving Repr

namespace Plan

/-- A bound for the number of steps that a plan takes by itself in a text of `size` characters. -/
def cost (size : Nat) : Plan → Nat
  | nothing | delegate .. | chars _ | assert _ | back _ | copyOf _ | keepOut | searchStart => 1
  | cat p q | alt p q => p.cost size + q.cost size + 1
  | group _ p | peek p | forbid p | atomic p => p.cost size + 2
  | repeated lo hi _ p => (lo + hi.getD (size + 2)) * (p.cost size + 1) + 2

theorem one_le_cost (size : Nat) (p : Plan) : 1 ≤ p.cost size := by
  cases p <;> simp only [cost] <;> omega

end Plan

/-- How many rounds of a repetition may follow the ones that have to. Without an upper limit, two more
than there are characters: each round but the last takes one. -/
def roundLimit (size lo : Nat) : Option Nat → Nat
  | none => size + 2
  | some hi => hi - lo

theorem roundLimit_le (size lo : Nat) (hi : Option Nat) :
    roundLimit size lo hi ≤ hi.getD (size + 2) := by
  cases hi <;> simp [roundLimit]

/-- A bound for the number of steps that a goal takes by itself. -/
def Goal.cost (size : Nat) : Goal → Nat
  | plan p => p.cost size
  | mark _ | goTo _ => 1
  | rounds need more _ _ _ p => (need + more) * (p.cost size + 1) + 1

/-- A bound for the number of steps that a list of goals takes. -/
def costs (size : Nat) : List Goal → Nat
  | [] => 0
  | g :: goals => g.cost size + costs size goals

@[simp] theorem costs_nil (size : Nat) : costs size [] = 0 := rfl

@[simp] theorem costs_cons (size : Nat) (g : Goal) (goals : List Goal) :
    costs size (g :: goals) = g.cost size + costs size goals := rfl

/-- A way that has not been tried yet. -/
structure Choice where
  goals : List Goal
  pos : Nat
  slots : Slots
deriving Repr

/-- A bound for the number of steps that remain until the next return. -/
def weight (size : Nat) : Option Choice → Nat
  | none => 0
  | some c => costs size c.goals + 1

/-- How a search ends, with what is left of the budget. -/
inductive Outcome where
  /-- All goals are met at `pos`. -/
  | found (pos : Nat) (slots : Slots) (left : Nat)
  /-- There is no way to meet the goals. -/
  | missing (left : Nat)
  /-- The budget was spent before an answer was found. -/
  | exhausted
deriving Repr

/-- What a search is about: the text, and the position at which the search began, if a match may be
tied to it. -/
structure Subject where
  text : Array Char
  origin : Option Nat

namespace Subject

/-- Does the text of `what` stand at position `pos`? -/
def standsAt (t : Subject) (what : Nat × Nat) (pos : Nat) : Bool :=
  (List.range (what.2 - what.1)).all fun k =>
    t.text[what.1 + k]?.isSome && t.text[what.1 + k]? == t.text[pos + k]?

/-- The slots that an automaton sets, the groups it decides about being cleared before. -/
def delegatedSlots (groups : List Nat) (found slots : Slots) : Slots :=
  groups.foldr (fun g s =>
    (2 * g, found.get? (2 * g)) :: (2 * g + 1, found.get? (2 * g + 1)) :: s) slots

/-- The position behind a simple plan that is matched at `pos` and the slots then set, if it does
match. Only plans without choices and without parts are simple. -/
def simple? (t : Subject) (p : Plan) (pos : Nat) (slots : Slots) : Option (Nat × Slots) :=
  match p with
  | .nothing => some (pos, slots)
  | .delegate groups a =>
    match a.find t.text true pos with
    | some found => (found.get? 1).map fun stop => (stop, delegatedSlots groups found slots)
    | none => none
  | .chars s =>
    match t.text[pos]? with
    | some c => if s.contains c then some (pos + 1, slots) else none
    | none => none
  | .assert a => if a.holds t.text pos then some (pos, slots) else none
  | .back n => if n ≤ pos then some (pos - n, slots) else none
  | .copyOf g =>
    match slots.span? g with
    | some span => if t.standsAt span pos then some (pos + (span.2 - span.1), slots) else none
    | none => none
  | .keepOut => some (pos, (0, some pos) :: slots)
  | .searchStart => if t.origin == some pos then some (pos, slots) else none
  | _ => none

/-- Goes on with `now` or, if that has failed, with the choice on top of the stack, until all goals of
one way are met. -/
def explore (t : Subject) (budget : Nat) (now : Option Choice) (stack : List Choice) : Outcome :=
  match now with
  | none =>
    match stack, budget with
    | [], left => .missing left
    | _ :: _, 0 => .exhausted
    | c :: stack, left + 1 => t.explore left (some c) stack
  | some ⟨[], pos, slots⟩ => .found pos slots budget
  | some ⟨goal :: rest, pos, slots⟩ =>
    match goal with
    | .mark slot => t.explore budget (some ⟨rest, pos, (slot, some pos) :: slots⟩) stack
    | .goTo pos => t.explore budget (some ⟨rest, pos, slots⟩) stack
    | .rounds (need + 1) more isOpen greedy since p =>
      t.explore budget
        (some ⟨.plan p :: .rounds need more isOpen greedy since p :: rest, pos, slots⟩) stack
    | .rounds 0 0 .. => t.explore budget (some ⟨rest, pos, slots⟩) stack
    | .rounds 0 (more + 1) isOpen greedy since p =>
      if isOpen && since == some pos then t.explore budget none stack
      else
        let again : Choice :=
          ⟨.plan p :: .rounds 0 more isOpen greedy (some pos) p :: rest, pos, slots⟩
        let onward : Choice := ⟨rest, pos, slots⟩
        if greedy then t.explore budget (some again) (onward :: stack)
        else t.explore budget (some onward) (again :: stack)
    | .plan (.cat p q) => t.explore budget (some ⟨.plan p :: .plan q :: rest, pos, slots⟩) stack
    | .plan (.alt p q) =>
      t.explore budget (some ⟨.plan p :: rest, pos, slots⟩) (⟨.plan q :: rest, pos, slots⟩ :: stack)
    | .plan (.group i p) =>
      t.explore budget
        (some ⟨.plan p :: .mark (2 * i + 1) :: rest, pos, (2 * i, some pos) :: slots⟩) stack
    | .plan (.repeated lo hi greedy p) =>
      let more := roundLimit t.text.size lo hi
      t.explore budget (some ⟨.rounds lo more hi.isNone greedy none p :: rest, pos, slots⟩) stack
    | .plan (.peek p) => t.explore budget (some ⟨.plan p :: .goTo pos :: rest, pos, slots⟩) stack
    | .plan (.forbid p) =>
      match t.explore budget (some ⟨[.plan p], pos, slots⟩) [] with
      | .found _ _ left => t.explore (min left budget) none stack
      | .missing 0 => .exhausted
      | .missing (left + 1) => t.explore (min left budget) (some ⟨rest, pos, slots⟩) stack
      | .exhausted => .exhausted
    | .plan (.atomic p) =>
      match t.explore budget (some ⟨[.plan p], pos, slots⟩) [] with
      | .found pos slots left => t.explore (min left budget) (some ⟨rest, pos, slots⟩) stack
      | .missing left => t.explore (min left budget) none stack
      | .exhausted => .exhausted
    | .plan p =>
      t.explore budget ((t.simple? p pos slots).map fun (pos, slots) => ⟨rest, pos, slots⟩) stack
termination_by (budget, weight t.text.size now)
decreasing_by
  all_goals simp only [Prod.lex_def, weight, costs_cons, costs_nil, Goal.cost, Plan.cost,
    Nat.lt_irrefl, true_and, false_or, Nat.succ_eq_add_one]
  all_goals try omega
  · rw [show need + 1 + more = need + more + 1 by omega, Nat.succ_mul]
    omega
  · rw [show 0 + (more + 1) = 0 + more + 1 by omega, Nat.succ_mul]
    omega
  · have := Nat.mul_le_mul_right (p.cost t.text.size + 1)
      (Nat.add_le_add_left (roundLimit_le t.text.size lo hi) lo)
    omega
  · have := p.one_le_cost t.text.size
    cases t.simple? p pos slots <;> simp <;> omega

end Subject

end CodeShape.Regex
