import CodeShape.Proofs.Regex.BacktrackWays
import CodeShape.Regex.Search

/-!
# A greater budget changes no answer

A budget is only ever counted down, and the search looks at it for nothing but whether it is spent.
So a search that has come to an answer goes the same way with a greater budget and comes to the same
answer, with as much more left as there was more of it to begin with (`explore_raise`). What a
lookaround or an atomic part leaves over is what its surroundings go on with, so that the claim has
to be about what is left as well.
-/

namespace CodeShape.Regex

/-- The outcome with `extra` more left. A search that has spent its budget leaves nothing. -/
def Outcome.raise (extra : Nat) : Outcome → Outcome
  | .found pos slots left => .found pos slots (left + extra)
  | .missing left => .missing (left + extra)
  | .exhausted => .exhausted

namespace Subject

/-- **With a greater budget, the search has the same outcome**, unless the budget was spent. -/
theorem explore_raise (t : Subject) (extra budget : Nat) (now : Option Choice)
    (stack : List Choice) (h : t.explore budget now stack ≠ .exhausted) :
    t.explore (budget + extra) now stack = (t.explore budget now stack).raise extra := by
  fun_induction t.explore budget now stack with
  | case1 left =>
    rw [explore]
    rfl
  | case2 c stack => exact absurd rfl h
  | case3 c stack left ih =>
    -- a return is paid from either budget
    rw [Nat.succ_add, explore]
    exact ih h
  | case4 budget stack pos slots =>
    rw [explore]
    rfl
  | case9 budget stack rest pos slots more isOpen greedy since p hrefused ih =>
    rw [explore, if_pos hrefused]
    exact ih h
  | case10 budget stack rest pos slots more isOpen since p hgo again onward ih =>
    rw [explore, if_neg hgo]
    exact ih h
  | case11 budget stack rest pos slots more isOpen greedy since p hgo again onward hlazy ih =>
    rw [explore, if_neg hgo]
    dsimp only
    rw [if_neg hlazy]
    exact ih h
  | case17 budget stack rest pos slots p j s left hinner ihinner ih =>
    -- the search behind a lookaround or an atomic part goes on with what this has left, which is
    -- as much more as the budget was
    rw [explore, ihinner (by rw [hinner]; rintro ⟨⟩), hinner]
    dsimp only [Outcome.raise]
    rw [Nat.add_min_add_right]
    exact ih h
  | case18 budget stack rest pos slots p hinner ihinner => exact absurd rfl h
  | case19 budget stack rest pos slots p left hinner ihinner ih =>
    rw [explore, ihinner (by rw [hinner]; rintro ⟨⟩), hinner]
    dsimp only [Outcome.raise]
    rw [Nat.succ_add]
    dsimp only
    rw [Nat.add_min_add_right]
    exact ih h
  | case20 budget stack rest pos slots p hinner ihinner => exact absurd rfl h
  | case21 budget stack rest pos slots p j s left hinner ihinner ih =>
    rw [explore, ihinner (by rw [hinner]; rintro ⟨⟩), hinner]
    dsimp only [Outcome.raise]
    rw [Nat.add_min_add_right]
    exact ih h
  | case22 budget stack rest pos slots p left hinner ihinner ih =>
    rw [explore, ihinner (by rw [hinner]; rintro ⟨⟩), hinner]
    dsimp only [Outcome.raise]
    rw [Nat.add_min_add_right]
    exact ih h
  | case23 budget stack rest pos slots p hinner ihinner => exact absurd rfl h
  | case24 budget stack rest pos slots p hcat halt hgroup hrepeated hpeek hforbid hatomic ih =>
    rw [explore]
    · exact ih h
    all_goals assumption
  | case5 | case6 | case7 | case8 | case12 | case13 | case14 | case15 | case16 =>
    -- these steps are taken whatever the budget
    rename_i ih
    rw [explore]
    exact ih h

end Subject

namespace Searcher

variable {s : Searcher} {budget budget' : Nat} {text : Array Char} {start : Nat}
  {origin : Option Nat}

/-- A search that has an answer has the same answer with a greater budget. -/
theorem search_budget (hle : budget ≤ budget')
    (hlasts : s.search budget text start origin ≠ .exhausted) :
    s.search budget' text start origin = s.search budget text start origin := by
  obtain ⟨extra, rfl⟩ := Nat.exists_eq_add_of_le hle
  unfold search at hlasts ⊢
  cases hmethod : s.method with
  | automaton a => rfl
  | backtracking p =>
    rw [hmethod] at hlasts
    dsimp only at hlasts ⊢
    have hexplore : (Subject.mk text origin).explore budget (some ⟨[.plan p], start, []⟩) []
        ≠ .exhausted := by
      intro hspent
      rw [hspent] at hlasts
      exact hlasts rfl
    rw [Subject.explore_raise _ extra _ _ _ hexplore]
    cases (Subject.mk text origin).explore budget (some ⟨[.plan p], start, []⟩) [] with
    | found pos slots left => rfl
    | missing left => rfl
    | exhausted => rfl

/-- What is found is found with a greater budget, too. -/
theorem search_budget_found (hle : budget ≤ budget') {m : Match}
    (hfound : s.search budget text start origin = .found m) :
    s.search budget' text start origin = .found m := by
  rw [search_budget hle (by rw [hfound]; nofun), hfound]

end Searcher

end CodeShape.Regex
