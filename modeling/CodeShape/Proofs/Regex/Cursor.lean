import CodeShape.Proofs.Regex.Bounds
import CodeShape.Proofs.Regex.Budget

/-!
# One match after the other

A cursor moves through a text from match to match. What one move does is said once (`next_moves`):
the match has been found by a search that began at the cursor or behind it, and the cursor is put
behind the match. From there it is a short way to what holds of every move: the match lies within
the text (`next_bounds`), a greater budget makes no difference (`next_budget`), and for orderly
expressions the match begins where the cursor stood or behind it, so that the cursor advances
(`next_advances`).
-/

namespace CodeShape.Regex

namespace Cursor

/-- The position to which a search from a cursor is tied. -/
def origin (c : Cursor) : Option Nat :=
  if c.last.any (· < c.next) then none else some c.next

/-- The cursor behind a match. Behind an empty match the search goes on one character further. -/
def behind (m : Match) : Cursor :=
  ⟨if m.start = m.stop then m.stop + 1 else m.stop, some m.stop⟩

end Cursor

namespace Searcher

variable {s : Searcher} {e : Expr} {budget budget' : Nat} {text : Array Char} {c c' : Cursor}
  {m : Match}

/-- The step from a match that has been found: it is what comes next, unless it is empty and stands
right behind the last one. -/
theorem next_of_found (hle : c.next ≤ text.size)
    (hfound : s.search budget text c.next c.origin = .found m) :
    s.next budget text c
      = if m.start = m.stop ∧ c.last = some m.stop ∧ c.next ≤ m.stop then
          s.next budget text { c with next := m.stop + 1 }
        else (.found m, .behind m) := by
  unfold Cursor.origin at hfound
  rw [next, if_neg (Nat.not_lt.mpr hle)]
  dsimp only
  rw [hfound]
  dsimp only [Cursor.behind]
  by_cases hempty : m.start = m.stop
  · rw [if_pos hempty, if_pos hempty]
    simp only [hempty, true_and]
  · rw [if_neg hempty, if_neg hempty, if_neg (fun h => hempty h.1)]

/-- If a search finds nothing, its answer is what comes next. -/
theorem next_of_not_found (hle : c.next ≤ text.size)
    (hnone : ∀ m, s.search budget text c.next c.origin ≠ .found m) :
    s.next budget text c = (s.search budget text c.next c.origin, c) := by
  unfold Cursor.origin at hnone ⊢
  rw [next, if_neg (Nat.not_lt.mpr hle)]
  dsimp only
  split
  next m hm => exact absurd hm (hnone m)
  next => rfl

/-- **What a move does**: the match that comes next has been found by a search that began at the
cursor or behind it, and the cursor is then behind the match. -/
theorem next_moves (h : s.next budget text c = (.found m, c')) :
    c' = .behind m ∧ ∃ start origin, c.next ≤ start ∧ start ≤ text.size ∧
      s.search budget text start origin = .found m := by
  fun_induction s.next budget text c with
  | case1 c hlt => cases h
  | case2 c hlt origin f hf hempty hpassed ih =>
    obtain ⟨hc', start, origin', hle, hsize, hfound⟩ := ih h
    refine ⟨hc', start, origin', ?_, hsize, hfound⟩
    dsimp only at hle
    omega
  | case3 c hlt origin f hf hempty hpassed =>
    obtain ⟨hm, rfl⟩ := Prod.mk.inj h
    obtain rfl := Answer.found.inj hm
    refine ⟨?_, c.next, origin, Nat.le_refl _, Nat.not_lt.mp hlt, hf⟩
    rw [Cursor.behind, if_pos hempty]
  | case4 c hlt origin f hf hempty =>
    obtain ⟨hm, rfl⟩ := Prod.mk.inj h
    obtain rfl := Answer.found.inj hm
    refine ⟨?_, c.next, origin, Nat.le_refl _, Nat.not_lt.mp hlt, hf⟩
    rw [Cursor.behind, if_neg hempty]
  | case5 c hlt origin hnot => exact absurd (Prod.mk.inj h).1 (hnot m)

/-- What comes first is what the search from the beginning answers. -/
theorem next_first (s : Searcher) (budget : Nat) (text : Array Char) :
    (s.next budget text {}).1 = s.search budget text 0 (some 0) := by
  by_cases hfound : ∃ m, s.search budget text 0 (some 0) = .found m
  · obtain ⟨m, hm⟩ := hfound
    rw [next_of_found (Nat.zero_le _) hm, if_neg (by rintro ⟨-, h, -⟩; cases h), hm]
  · rw [next_of_not_found (Nat.zero_le _) fun m hm => hfound ⟨m, hm⟩]
    rfl

/-- **A move is the same with a greater budget**, unless the budget was spent. -/
theorem next_budget (hle : budget ≤ budget') (hlasts : (s.next budget text c).1 ≠ .exhausted) :
    s.next budget' text c = s.next budget text c := by
  fun_induction s.next budget text c with
  | case1 c hlt => rw [next, if_pos hlt]
  | case2 c hlt origin f hf hempty hpassed ih =>
    rw [next_of_found (Nat.not_lt.mp hlt) (search_budget_found hle hf), if_pos ⟨hempty, hpassed⟩]
    exact ih hlasts
  | case3 c hlt origin f hf hempty hpassed =>
    rw [next_of_found (Nat.not_lt.mp hlt) (search_budget_found hle hf),
      if_neg fun h => hpassed h.2, Cursor.behind, if_pos hempty]
  | case4 c hlt origin f hf hempty =>
    rw [next_of_found (Nat.not_lt.mp hlt) (search_budget_found hle hf),
      if_neg fun h => hempty h.1, Cursor.behind, if_neg hempty]
  | case5 c hlt origin hnot =>
    have hsame := search_budget hle hlasts
    rw [next_of_not_found (Nat.not_lt.mp hlt) fun m hm => hnot m (hsame.symm.trans hm)]
    exact congrArg (·, c) hsame

/-- **What comes next lies within the text**, and ends no earlier than the cursor stood. -/
theorem next_bounds (hmethod : Method.ofExpr e = .ok s.method)
    (h : s.next budget text c = (.found m, c')) :
    m.start ≤ m.stop ∧ c.next ≤ m.stop ∧ m.stop ≤ text.size := by
  obtain ⟨-, start, origin, hle, hstart, hfound⟩ := next_moves h
  obtain ⟨hm, hstop, hsize⟩ := search_bounds hmethod hstart hfound
  exact ⟨hm, Nat.le_trans hle hstop, hsize⟩

/-- **The cursor advances** if the expression is orderly: what comes next begins where the cursor
stood or behind it, and the cursor is then behind where it begins, and not before where it ends. -/
theorem next_advances (horder : e.orderly = true) (hzero : 0 ∉ e.groups)
    (hmethod : Method.ofExpr e = .ok s.method) (h : s.next budget text c = (.found m, c')) :
    c.next ≤ m.start ∧ m.start < c'.next ∧ m.stop ≤ c'.next := by
  obtain ⟨rfl, start, origin, hle, hstart, hfound⟩ := next_moves h
  have hbegin := (search_found horder hzero hmethod hstart hfound).1
  have hbounds := search_bounds hmethod hstart hfound
  refine ⟨Nat.le_trans hle hbegin, ?_⟩
  dsimp only [Cursor.behind]
  split <;> omega

end Searcher

end CodeShape.Regex
