import CodeShape.Proofs.Fallible
import CodeShape.Proofs.Regex.Marks
import CodeShape.Proofs.Regex.PlanWays
import CodeShape.Regex.Search

/-!
# A search finds the first match of all

Both methods of searching answer alike for an orderly expression: a match that is found begins as
early as any match can, and is the preferred one of those that begin there (`search_found`); if none
is found, there is none (`search_missing`). Only the budget can keep the search by plans from an
answer, and only the size of the expression keeps it from being searched for at all
(`method_ok_iff`).
-/

namespace CodeShape.Regex

/-- An orderly expression marks its groups and nothing else. -/
theorem Expr.marks_of_orderly {e : Expr} (horder : e.orderly = true) : e.marks = e.groups := by
  induction e with
  | cat a b iha ihb =>
    simp only [orderly, Bool.and_eq_true] at horder
    rw [marks, groups, iha horder.1.1, ihb horder.1.2]
  | alt a b iha ihb =>
    simp only [orderly, Bool.and_eq_true] at horder
    rw [marks, groups, iha horder.1, ihb horder.2]
  | parens e ih => exact ih horder
  | group i e ih => rw [marks, groups, ih horder]
  | repeated lo hi greedy e ih =>
    simp only [orderly, Bool.and_eq_true] at horder
    exact ih horder.1.1
  | look side negated e ih =>
    simp only [orderly, Bool.and_eq_true] at horder
    exact ih horder.1.2
  | empty | chars _ | assert _ | backref _ => rfl
  | atomic _ _ | keepOut | searchStart => exact absurd horder Bool.false_ne_true

/-! ## The matches of an expression -/

/-- The slots of all matches that begin at `start` or later, those that begin earlier first and of
those that begin together the preferred one first. -/
def Expr.matchesFrom (t : Subject) (e : Expr) (start : Nat) : List Slots :=
  (List.range' start (t.text.size + 1 - start)).flatMap fun p =>
    (e.ways t p [(0, some p)]).map fun w => Automaton.complete w.2 w.1

theorem laterRuns_ofExpr {recalled : List Nat} (t : Subject) {e : Expr}
    (hreg : e.needsBacktracking recalled = false) (hprog : e.progressing = true) (start : Nat) :
    (Automaton.ofExpr e).laterRuns t.text start = e.matchesFrom t start := by
  refine List.flatMap_congr fun p _ => ?_
  exact Automaton.edgeRuns_ofExpr t e hreg hprog p [(0, some p)]

/-- Going over any characters, as few as possible first, leads to all positions in turn. -/
theorem rounds_any (t : Subject) (slots : Slots) :
    ∀ (more pos : Nat) (since : Option Nat), pos ≤ t.text.size → t.text.size < pos + more →
      since ≠ some pos →
      ((Plan.chars .all).ways t).rounds true false 0 more since pos slots
        = (List.range' pos (t.text.size + 1 - pos)).map fun p => (p, slots) := by
  intro more
  induction more with
  | zero => omega
  | succ more ih =>
    intro pos since hpos hmore hsince
    have hgo : (true && since == some pos) = false := by
      rw [Bool.true_and, beq_eq_false_iff_ne]
      exact hsince
    have hsize : t.text.size + 1 - pos = t.text.size + 1 - (pos + 1) + 1 := by omega
    rw [Ways.rounds_more _ _ _ _ hgo, if_neg Bool.false_ne_true, hsize, List.range'_succ,
      List.map_cons, Ways.andThen]
    congr 1
    rcases Nat.lt_or_ge pos t.text.size with hlt | hge
    · have hone : (Plan.chars .all).ways t pos slots = [(pos + 1, slots)] := by
        rw [Plan.ways_chars]
        simp only [Expr.ways, Array.getElem?_eq_getElem hlt]
        rfl
      rw [hone, List.flatMap_cons, List.flatMap_nil, List.append_nil]
      exact ih (pos + 1) (some pos) hlt (by omega) (by simp)
    · have hnone : (Plan.chars .all).ways t pos slots = [] := by
        rw [Plan.ways_chars]
        simp only [Expr.ways, Array.getElem?_eq_none hge]
      rw [hnone, show t.text.size + 1 - (pos + 1) = 0 by omega]
      rfl

/-- The plan for a match anywhere offers all matches from the start on. -/
theorem ways_anywhere (t : Subject) {e : Expr} {p : Plan} (hp : p.ways t = e.ways t) {start : Nat}
    (hstart : start ≤ t.text.size) :
    (p.anywhere.ways t start []).map (·.2) = e.matchesFrom t start := by
  have hrounds : (Plan.repeated 0 none false (.chars .all)).ways t start []
      = (List.range' start (t.text.size + 1 - start)).map fun q => (q, []) :=
    rounds_any t [] (t.text.size + 2) start none hstart (by omega) nofun
  have hsplit : p.anywhere.ways t start []
      = ((Plan.repeated 0 none false (.chars .all)).ways t start []).flatMap
          fun w => (p.ways t).captured 0 w.1 w.2 := rfl
  rw [hsplit, hrounds, hp, List.flatMap_map, List.map_flatMap]
  refine List.flatMap_congr fun q _ => ?_
  rw [Ways.captured, List.map_map]
  rfl

/-! ## Searching -/

/-- An expression is searched for by an automaton or, where that cannot do, by a plan for it. -/
theorem method_cases {e : Expr} {method : Method} (h : Method.ofExpr e = .ok method) :
    (e.needsBacktracking e.recalledGroups = false ∧ method = .automaton (Automaton.ofExpr e)) ∨
      (e.needsBacktracking e.recalledGroups = true ∧ ∃ p,
        Plan.ofExpr e.recalledGroups true e = .ok p ∧ method = .backtracking p.anywhere) := by
  unfold Method.ofExpr at h
  by_cases hsize : maxLeaves < Automaton.leafCount e
  · rw [if_pos hsize] at h
    cases h
  rw [if_neg hsize] at h
  cases hback : e.needsBacktracking e.recalledGroups with
  | true =>
    rw [hback, if_pos rfl] at h
    obtain ⟨p, hp, h⟩ := bind_eq_ok_iff.mp h
    exact .inr ⟨rfl, p, hp, (Except.ok.inj h).symm⟩
  | false =>
    rw [hback, if_neg Bool.false_ne_true] at h
    exact .inl ⟨rfl, (Except.ok.inj h).symm⟩

/-- What is compiled is what has been read, with a method for its expression. -/
theorem Searcher.compile_ok_iff {written : List Char} {s : Searcher} :
    Searcher.compile written = .ok s ↔ ∃ source method, parse written = .ok source ∧
      Method.ofExpr source.expr = .ok method ∧
        s = ⟨written, source.groups, source.names, method⟩ := by
  constructor
  · intro h
    obtain ⟨source, hsource, h⟩ := bind_eq_ok_iff.mp h
    obtain ⟨method, hmethod, h⟩ := bind_eq_ok_iff.mp h
    exact ⟨source, method, hsource, hmethod, (Except.ok.inj h).symm⟩
  · rintro ⟨source, method, hsource, hmethod, rfl⟩
    exact bind_eq_ok_iff.mpr ⟨source, hsource, bind_eq_ok_iff.mpr ⟨method, hmethod, rfl⟩⟩

/-- What is compiled searches for some expression. -/
theorem Searcher.exists_expr {written : List Char} {s : Searcher}
    (h : Searcher.compile written = .ok s) : ∃ e, Method.ofExpr e = .ok s.method := by
  obtain ⟨source, method, -, hmethod, rfl⟩ := Searcher.compile_ok_iff.mp h
  exact ⟨source.expr, hmethod⟩

/-- Only the size of an expression keeps it from being searched for. -/
theorem method_ok_iff {e : Expr} (horder : e.orderly = true) :
    (∃ method, Method.ofExpr e = .ok method) ↔ Automaton.leafCount e ≤ maxLeaves := by
  unfold Method.ofExpr
  by_cases hsize : maxLeaves < Automaton.leafCount e
  · rw [if_pos hsize]
    exact iff_of_false (fun ⟨_, h⟩ => nomatch h) (Nat.not_le.mpr hsize)
  · rw [if_neg hsize]
    refine iff_of_true ?_ (Nat.not_lt.mp hsize)
    by_cases hback : e.needsBacktracking e.recalledGroups = true
    · obtain ⟨p, hp, -⟩ := Plan.exact_of_orderly e.recalledGroups horder
      rw [if_pos hback, hp]
      exact ⟨.backtracking p.anywhere, rfl⟩
    · rw [if_neg hback]
      exact ⟨.automaton (Automaton.ofExpr e), rfl⟩

/-- The first match of all is the head of the ways at the first position at which there are any. -/
theorem Expr.head?_matchesFrom (t : Subject) (e : Expr) (start : Nat) :
    (∃ p w ws, start ≤ p ∧ p ≤ t.text.size ∧ e.ways t p [(0, some p)] = w :: ws ∧
        (∀ q, start ≤ q → q < p → e.ways t q [(0, some q)] = []) ∧
        (e.matchesFrom t start).head? = some (Automaton.complete w.2 w.1)) ∨
      ((∀ q, start ≤ q → q ≤ t.text.size → e.ways t q [(0, some q)] = []) ∧
        (e.matchesFrom t start).head? = none) := by
  unfold matchesFrom
  generalize hn : t.text.size + 1 - start = n
  induction n generalizing start with
  | zero =>
    right
    refine ⟨fun q hq hle => ?_, rfl⟩
    omega
  | succ n ih =>
    rw [List.range'_succ, List.flatMap_cons]
    cases hways : e.ways t start [(0, some start)] with
    | cons w ws =>
      left
      refine ⟨start, w, ws, Nat.le_refl _, by omega, hways, fun q hq hlt => ?_, rfl⟩
      omega
    | nil =>
      rw [List.map_nil, List.nil_append]
      rcases ih (start + 1) (by omega) with ⟨p, w, ws, hp, hle, hw, hbefore, hhead⟩ | ⟨hnone, hhead⟩
      · left
        refine ⟨p, w, ws, by omega, hle, hw, fun q hq hlt => ?_, hhead⟩
        rcases Nat.eq_or_lt_of_le hq with rfl | hq
        · exact hways
        · exact hbefore q hq hlt
      · right
        refine ⟨fun q hq hle => ?_, hhead⟩
        rcases Nat.eq_or_lt_of_le hq with rfl | hq
        · exact hways
        · exact hnone q hq hle

/-- The slots of the first of all matches tell where it begins and ends. -/
theorem ofSlots?_complete {t : Subject} {e : Expr} (horder : e.orderly = true)
    (hzero : 0 ∉ e.groups) {p : Nat} {w : Way} (hw : w ∈ e.ways t p [(0, some p)]) :
    Match.ofSlots? (Automaton.complete w.2 w.1) = some ⟨p, w.1, Automaton.complete w.2 w.1⟩ := by
  have hstart : w.2.get? 0 = some p := by
    rw [← Expr.marks_of_orderly horder] at hzero
    rw [Expr.ways_keeps t e p _ w hw 0 hzero, Slots.get?_cons, if_pos rfl]
  have hspan : (Automaton.complete w.2 w.1).span? 0 = some (p, w.1) := by
    unfold Slots.span? Automaton.complete
    rw [Slots.get?_cons, Slots.get?_cons, if_neg (by omega), if_pos (by omega), hstart]
  have hle : p ≤ w.1 := (Expr.ways_within t e p _ w hw).1
  rw [Match.ofSlots?, hspan, Option.map_some]
  dsimp only
  rw [Nat.min_eq_left hle]

namespace Searcher

variable {s : Searcher} {e : Expr}

/-- Whichever way it goes about it, a search answers with the first of all matches from its start
on, if its budget lasts. -/
theorem search_eq (horder : e.orderly = true) (hmethod : Method.ofExpr e = .ok s.method)
    (budget : Nat) (text : Array Char) {start : Nat} (origin : Option Nat)
    (hstart : start ≤ text.size) :
    s.search budget text start origin = .exhausted ∨
      s.search budget text start origin
        = match (e.matchesFrom ⟨text, origin⟩ start).head?.bind Match.ofSlots? with
          | some m => .found m
          | none => .missing := by
  -- the automaton looks at every later run, the plan goes to every later position itself
  rcases method_cases hmethod with ⟨hreg, hm⟩ | ⟨-, p, hp, hm⟩
  · have hmatches := laterRuns_ofExpr ⟨text, origin⟩ hreg (Expr.progressing_of_orderly horder) start
    unfold search
    rw [hm]
    dsimp only
    rw [Automaton.find_eq_head _ _ hstart, hmatches]
    right
    cases (e.matchesFrom ⟨text, origin⟩ start).head? with
    | none => rfl
    | some slots => rfl
  · obtain ⟨q, hq, hways⟩ := Plan.exact_of_orderly e.recalledGroups horder
    obtain rfl : p = q := Except.ok.inj (hp.symm.trans hq)
    have htells := Subject.explore_tells ⟨text, origin⟩ budget
      (some ⟨[.plan p.anywhere], start, []⟩) []
    have hmatches := ways_anywhere ⟨text, origin⟩ (hways _) hstart
    unfold search
    rw [hm]
    dsimp only
    cases hout : (Subject.mk text origin).explore budget
        (some ⟨[.plan p.anywhere], start, []⟩) [] with
    | exhausted => exact Or.inl rfl
    | missing left =>
      rw [hout, Subject.Tells, Subject.openWays_single] at htells
      rw [htells] at hmatches
      rw [← hmatches]
      exact Or.inr rfl
    | found pos slots left =>
      rw [hout, Subject.Tells, Subject.openWays_single] at htells
      rw [← hmatches, List.head?_map, htells]
      right
      rfl

variable {budget : Nat} {text : Array Char} {start : Nat} {origin : Option Nat}

/-- **A match that is found** is the preferred one at the first position at which there is one. -/
theorem search_found (horder : e.orderly = true) (hzero : 0 ∉ e.groups)
    (hmethod : Method.ofExpr e = .ok s.method) (hstart : start ≤ text.size) {m : Match}
    (hfound : s.search budget text start origin = .found m) :
    start ≤ m.start ∧ m.start ≤ text.size ∧
      (∀ q, start ≤ q → q < m.start → e.ways ⟨text, origin⟩ q [(0, some q)] = []) ∧
      ∃ slots ws, e.ways ⟨text, origin⟩ m.start [(0, some m.start)] = (m.stop, slots) :: ws ∧
        m.slots = Automaton.complete slots m.stop := by
  rcases search_eq horder hmethod budget text origin hstart with hex | heq
  · rw [hex] at hfound
    cases hfound
  · rcases Expr.head?_matchesFrom ⟨text, origin⟩ e start with
      ⟨p, w, ws, hp, hle, hw, hbefore, hhead⟩ | ⟨-, hhead⟩
    · have hmem : w ∈ e.ways ⟨text, origin⟩ p [(0, some p)] := by
        rw [hw]
        exact List.mem_cons_self
      rw [heq, hhead, Option.bind_some, ofSlots?_complete horder hzero hmem] at hfound
      injection hfound with hm
      rw [← hm]
      exact ⟨hp, hle, hbefore, w.2, ws, hw, rfl⟩
    · rw [heq, hhead] at hfound
      cases hfound

/-- **If nothing is found**, there is no match. -/
theorem search_missing (horder : e.orderly = true) (hzero : 0 ∉ e.groups)
    (hmethod : Method.ofExpr e = .ok s.method) (hstart : start ≤ text.size)
    (hmissing : s.search budget text start origin = .missing) {q : Nat} (hq : start ≤ q)
    (hsize : q ≤ text.size) : e.ways ⟨text, origin⟩ q [(0, some q)] = [] := by
  rcases search_eq horder hmethod budget text origin hstart with hex | heq
  · rw [hex] at hmissing
    cases hmissing
  · rcases Expr.head?_matchesFrom ⟨text, origin⟩ e start with
      ⟨p, w, ws, -, -, hw, -, hhead⟩ | ⟨hnone, -⟩
    · have hmem : w ∈ e.ways ⟨text, origin⟩ p [(0, some p)] := by
        rw [hw]
        exact List.mem_cons_self
      rw [heq, hhead, Option.bind_some, ofSlots?_complete horder hzero hmem] at hmissing
      cases hmissing
    · exact hnone q hq hsize

/-- **There is a match** if the expression has a way from some position on, provided that the search
comes to an answer. -/
theorem isMatch_iff (horder : e.orderly = true) (hzero : 0 ∉ e.groups)
    (hmethod : Method.ofExpr e = .ok s.method)
    (hlasts : s.search budget text 0 (some 0) ≠ .exhausted) :
    s.isMatch budget text = true ↔
      ∃ q, q ≤ text.size ∧ e.ways ⟨text, some 0⟩ q [(0, some q)] ≠ [] := by
  unfold isMatch
  cases hsearch : s.search budget text 0 (some 0) with
  | exhausted => exact absurd hsearch hlasts
  | missing =>
    refine iff_of_false Bool.false_ne_true ?_
    rintro ⟨q, hq, hne⟩
    exact hne (search_missing horder hzero hmethod (Nat.zero_le _) hsearch (Nat.zero_le q) hq)
  | found m =>
    obtain ⟨-, hsize, -, slots, ws, hways, -⟩ :=
      search_found horder hzero hmethod (Nat.zero_le _) hsearch
    refine iff_of_true rfl ⟨m.start, hsize, ?_⟩
    rw [hways]
    exact List.cons_ne_nil _ _

/-- A search by an automaton needs no budget. -/
theorem search_automaton {a : Automaton} (hmethod : s.method = .automaton a) :
    s.search budget text start origin ≠ .exhausted := by
  unfold search
  rw [hmethod]
  dsimp only
  cases a.find text false start with
  | none => exact nofun
  | some slots =>
    dsimp only
    cases Match.ofSlots? slots with
    | none => exact nofun
    | some m => exact nofun

/-- Without backtracking parts, no search runs out of its budget. -/
theorem search_ne_exhausted (hmethod : Method.ofExpr e = .ok s.method)
    (hreg : e.needsBacktracking e.recalledGroups = false) :
    s.search budget text start origin ≠ .exhausted := by
  rcases method_cases hmethod with ⟨-, hm⟩ | ⟨hback, -⟩
  · exact search_automaton hm
  · rw [hreg] at hback
    cases hback

end Searcher

end CodeShape.Regex
