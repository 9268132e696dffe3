import CodeShape.Proofs.Regex.Ways

/-!
# The backtracking search goes through the ways of a plan in order

`Plan.ways` lists the ways in which a plan matches, as `Expr.ways` does for an expression, and
`Goal.ways` and `Choice.ways` carry this over to what the search keeps on its stack. The main
result, `explore_tells`, is independent of how the plan was made: a search that finds something has
found the first of all ways that were open, and one that reports nothing had no way open. Only a
spent budget says nothing.
-/

namespace CodeShape.Regex

/-- The ways in which a plan matches, the preferred one first. -/
@[grind =]
def Plan.ways (t : Subject) : Plan → Ways
  | .cat p q => (p.ways t).andThen (q.ways t)
  | .alt p q => fun pos slots => p.ways t pos slots ++ q.ways t pos slots
  | .group i p => (p.ways t).captured i
  | .repeated lo hi greedy p =>
    Ways.rounds (p.ways t) hi.isNone greedy lo (roundLimit t.text.size lo hi) none
  | .peek p => (p.ways t).looked false
  | .forbid p => (p.ways t).looked true
  | .atomic p => fun pos slots => (p.ways t pos slots).take 1
  | p => fun pos slots => (t.simple? p pos slots).toList

/-- The ways to meet a goal. -/
@[grind =]
def Goal.ways (t : Subject) : Goal → Ways
  | plan p => p.ways t
  | mark slot => fun pos slots => [(pos, (slot, some pos) :: slots)]
  | goTo pos => fun _ slots => [(pos, slots)]
  | rounds need more isOpen greedy since p => Ways.rounds (p.ways t) isOpen greedy need more since

/-- The ways to meet all goals of a choice. -/
def Choice.ways (t : Subject) (c : Choice) : List Way :=
  Ways.chain (c.goals.map (Goal.ways t)) c.pos c.slots

attribute [grind =] Subject.simple? Plan.cost Goal.cost roundLimit

namespace Subject

/-- All ways that are open: those of the choice at hand, then those on the stack. -/
def openWays (t : Subject) (now : Option Choice) (stack : List Choice) : List Way :=
  (now.toList ++ stack).flatMap (Choice.ways t)

variable {t : Subject} {pos : Nat} {slots : Slots} {rest : List Goal} {stack : List Choice}

theorem openWays_none (t : Subject) (stack : List Choice) :
    t.openWays none stack = stack.flatMap (Choice.ways t) := rfl

theorem openWays_some (t : Subject) (c : Choice) (stack : List Choice) :
    t.openWays (some c) stack = c.ways t ++ stack.flatMap (Choice.ways t) := by
  rw [openWays, Option.toList_some, List.singleton_append, List.flatMap_cons]

/-- The ways of a choice whose first goal is `g`. -/
theorem ways_cons (g : Goal) :
    Choice.ways t ⟨g :: rest, pos, slots⟩
      = (g.ways t pos slots).flatMap fun w => Choice.ways t ⟨rest, w.1, w.2⟩ := rfl

theorem ways_nil : Choice.ways t ⟨[], pos, slots⟩ = [(pos, slots)] := rfl

/-- A goal that is met in one way only. -/
theorem ways_of_one {g : Goal} {w : Way} (h : g.ways t pos slots = [w]) :
    Choice.ways t ⟨g :: rest, pos, slots⟩ = Choice.ways t ⟨rest, w.1, w.2⟩ := by
  rw [ways_cons, h, List.flatMap_cons, List.flatMap_nil, List.append_nil]

/-- What the outcome of a search says about the ways that were open. -/
def Tells (ways : List Way) : Outcome → Prop
  | .found pos slots _ => ways.head? = some (pos, slots)
  | .missing _ => ways = []
  | .exhausted => True

/-- A step that replaces the first goal by others with the same ways changes nothing. -/
theorem openWays_congr {c c' : Choice} (h : c.ways t = c'.ways t) (stack : List Choice) :
    t.openWays (some c) stack = t.openWays (some c') stack := by
  rw [openWays_some, openWays_some, h]

/-- A choice that cannot be met is given up for the stack. -/
theorem openWays_of_eq_nil {c : Choice} (h : c.ways t = []) (stack : List Choice) :
    t.openWays (some c) stack = t.openWays none stack := by
  rw [openWays_some, openWays_none, h, List.nil_append]

/-- A choice whose ways are those of two others leaves the second one on the stack. -/
theorem openWays_of_eq_append {c c' c'' : Choice} (h : c.ways t = c'.ways t ++ c''.ways t)
    (stack : List Choice) :
    t.openWays (some c) stack = t.openWays (some c') (c'' :: stack) := by
  rw [openWays_some, openWays_some, h, List.flatMap_cons, List.append_assoc]

/-- The ways of a choice whose only goal is a plan are those of the plan. -/
theorem openWays_single (p : Plan) :
    t.openWays (some ⟨[.plan p], pos, slots⟩) [] = p.ways t pos slots := by
  rw [openWays_some, List.flatMap_nil, List.append_nil, Choice.ways, List.map_cons, List.map_nil,
    Ways.chain_singleton]
  rfl

/-! ## What one step does to the ways that are open -/

theorem ways_rounds_need (need more : Nat) (isOpen greedy : Bool) (since : Option Nat) (p : Plan) :
    Choice.ways t ⟨.rounds (need + 1) more isOpen greedy since p :: rest, pos, slots⟩
      = Choice.ways t ⟨.plan p :: .rounds need more isOpen greedy since p :: rest, pos, slots⟩ := by
  rw [ways_cons, ways_cons]
  simp only [Goal.ways, Ways.rounds_need, Ways.andThen, List.flatMap_assoc]
  rfl

theorem ways_rounds_refused (more : Nat) {isOpen : Bool} (greedy : Bool) {since : Option Nat}
    (p : Plan) (h : (isOpen && since == some pos) = true) :
    Choice.ways t ⟨.rounds 0 (more + 1) isOpen greedy since p :: rest, pos, slots⟩ = [] := by
  rw [ways_cons, Goal.ways]
  simp only [Ways.rounds, h, if_true, List.flatMap_nil]

theorem ways_rounds_more (more : Nat) {isOpen : Bool} (greedy : Bool) {since : Option Nat}
    (p : Plan) (h : ¬(isOpen && since == some pos) = true) :
    Choice.ways t ⟨.rounds 0 (more + 1) isOpen greedy since p :: rest, pos, slots⟩
      = if greedy then
          Choice.ways t
              ⟨.plan p :: .rounds 0 more isOpen greedy (some pos) p :: rest, pos, slots⟩
            ++ Choice.ways t ⟨rest, pos, slots⟩
        else
          Choice.ways t ⟨rest, pos, slots⟩
            ++ Choice.ways t
              ⟨.plan p :: .rounds 0 more isOpen greedy (some pos) p :: rest, pos, slots⟩ := by
  rw [ways_cons, Goal.ways, Ways.rounds_more _ _ _ _ (Bool.eq_false_iff.mpr h)]
  cases greedy
  · simp only [Bool.false_eq_true, if_false, List.flatMap_cons, Ways.andThen, List.flatMap_assoc]
    rfl
  · simp only [if_true, List.flatMap_append, Ways.andThen, List.flatMap_assoc, List.flatMap_cons,
      List.flatMap_nil, List.append_nil]
    rfl

theorem ways_cat (p q : Plan) :
    Choice.ways t ⟨.plan (.cat p q) :: rest, pos, slots⟩
      = Choice.ways t ⟨.plan p :: .plan q :: rest, pos, slots⟩ := by
  rw [ways_cons, ways_cons, Goal.ways, Plan.ways, Ways.andThen, List.flatMap_assoc]
  rfl

theorem ways_alt (p q : Plan) :
    Choice.ways t ⟨.plan (.alt p q) :: rest, pos, slots⟩
      = Choice.ways t ⟨.plan p :: rest, pos, slots⟩
        ++ Choice.ways t ⟨.plan q :: rest, pos, slots⟩ := by
  rw [ways_cons, ways_cons, ways_cons, Goal.ways, Plan.ways, List.flatMap_append]
  rfl

theorem ways_group (i : Nat) (p : Plan) :
    Choice.ways t ⟨.plan (.group i p) :: rest, pos, slots⟩
      = Choice.ways t
          ⟨.plan p :: .mark (2 * i + 1) :: rest, pos, (2 * i, some pos) :: slots⟩ := by
  rw [ways_cons, ways_cons, Goal.ways, Plan.ways, Ways.captured, List.flatMap_map]
  refine List.flatMap_congr fun w _ => ?_
  rw [ways_of_one (w := (w.1, (2 * i + 1, some w.1) :: w.2)) rfl]

theorem ways_peek (p : Plan) :
    Choice.ways t ⟨.plan (.peek p) :: rest, pos, slots⟩
      = Choice.ways t ⟨.plan p :: .goTo pos :: rest, pos, slots⟩ := by
  rw [ways_cons, ways_cons, Goal.ways, Plan.ways]
  simp only [Ways.looked, Bool.false_eq_true, if_false, List.flatMap_map]
  refine List.flatMap_congr fun w _ => ?_
  rw [ways_of_one (w := (pos, w.2)) rfl]

theorem ways_forbid (p : Plan) :
    Choice.ways t ⟨.plan (.forbid p) :: rest, pos, slots⟩
      = if (p.ways t pos slots).isEmpty then Choice.ways t ⟨rest, pos, slots⟩ else [] := by
  rw [ways_cons, Goal.ways, Plan.ways]
  simp only [Ways.looked, if_true]
  split
  · rw [List.flatMap_cons, List.flatMap_nil, List.append_nil]
  · rfl

theorem ways_atomic (p : Plan) :
    Choice.ways t ⟨.plan (.atomic p) :: rest, pos, slots⟩
      = ((p.ways t pos slots).take 1).flatMap fun w => Choice.ways t ⟨rest, w.1, w.2⟩ := rfl

theorem ways_simple {p : Plan} (h : p.ways t pos slots = (t.simple? p pos slots).toList) :
    Choice.ways t ⟨.plan p :: rest, pos, slots⟩
      = ((t.simple? p pos slots).map fun w => (⟨rest, w.1, w.2⟩ : Choice)).toList.flatMap
          (Choice.ways t) := by
  rw [ways_cons, Goal.ways, h]
  cases t.simple? p pos slots <;> simp

/-- **The search answers with the first way that is open.** -/
theorem explore_tells (t : Subject) (budget : Nat) (now : Option Choice) (stack : List Choice) :
    Tells (t.openWays now stack) (t.explore budget now stack) := by
  fun_induction t.explore budget now stack with
  | case1 left => rfl
  -- no goals and no choices: there is no way left
  | case2 c stack => trivial
  -- the budget is spent, and no answer is given
  | case3 c stack left ih => exact ih
  -- back to the choice on top of the stack
  | case4 budget stack pos slots =>
    -- all goals of this choice are met: it leads first of all
    rw [Tells, openWays_some, ways_nil, List.singleton_append, List.head?_cons]
  | case5 budget stack rest pos slots slot ih =>
    -- setting a slot
    rw [openWays_congr (ways_of_one rfl)]
    exact ih
  | case6 budget stack rest pos slots target ih =>
    -- going back to a position
    rw [openWays_congr (ways_of_one rfl)]
    exact ih
  | case7 budget stack rest pos slots need more isOpen greedy since p ih =>
    -- a round that has to follow
    rw [openWays_congr (ways_rounds_need need more isOpen greedy since p)]
    exact ih
  | case8 budget stack rest pos slots isOpen greedy since p ih =>
    -- no further round may follow
    rw [openWays_congr (ways_of_one (by rw [Goal.ways, Ways.rounds_zero_zero]))]
    exact ih
  | case9 budget stack rest pos slots more isOpen greedy since p hrefused ih =>
    -- a round behind one that took nothing is refused
    rw [openWays_of_eq_nil (ways_rounds_refused more greedy p hrefused)]
    exact ih
  | case10 budget stack rest pos slots more isOpen since p hgo again onward ih =>
    -- a greedy repetition: one more round first, then onward
    rw [openWays_of_eq_append (ways_rounds_more more true p hgo)]
    exact ih
  | case11 budget stack rest pos slots more isOpen greedy since p hgo again onward hlazy ih =>
    -- a lazy one: onward first
    have h : Choice.ways t ⟨.rounds 0 (more + 1) isOpen greedy since p :: rest, pos, slots⟩ = _ :=
      ways_rounds_more more greedy p hgo
    rw [if_neg hlazy] at h
    rw [openWays_of_eq_append h]
    exact ih
  | case12 budget stack rest pos slots p q ih =>
    -- one part behind the other
    rw [openWays_congr (ways_cat p q)]
    exact ih
  | case13 budget stack rest pos slots p q ih =>
    -- the second alternative waits on the stack
    rw [openWays_of_eq_append (ways_alt p q)]
    exact ih
  | case14 budget stack rest pos slots i p ih =>
    -- a group: its slots are set before and behind the part
    rw [openWays_congr (ways_group i p)]
    exact ih
  | case15 budget stack rest pos slots lo hi greedy p more ih => exact ih
  -- a repetition begins
  | case16 budget stack rest pos slots p ih =>
    -- a look ahead: the part is matched, then the search goes back
    rw [openWays_congr (ways_peek p)]
    exact ih
  | case17 budget stack rest pos slots p j s left hinner ihinner ih =>
    -- what must not match does, so that this choice leads nowhere
    rw [hinner, Tells, openWays_single] at ihinner
    have hsome : (p.ways t pos slots).isEmpty = false := by
      rw [List.isEmpty_eq_false_iff]
      intro hnil
      rw [hnil] at ihinner
      cases ihinner
    rw [openWays_of_eq_nil (by rw [ways_forbid, hsome]; rfl)]
    exact ih
  | case18 budget stack rest pos slots p hinner ihinner => trivial
  | case19 budget stack rest pos slots p left hinner ihinner ih =>
    -- what must not match does not, and the search goes on behind it
    rw [hinner, Tells, openWays_single] at ihinner
    have hgo : Choice.ways t ⟨.plan (.forbid p) :: rest, pos, slots⟩
        = Choice.ways t ⟨rest, pos, slots⟩ := by
      rw [ways_forbid, ihinner]
      rfl
    rw [openWays_congr hgo]
    exact ih
  | case20 budget stack rest pos slots p hinner ihinner => trivial
  | case21 budget stack rest pos slots p j s left hinner ihinner ih =>
    -- of the ways of an atomic part only the first one counts
    rw [hinner, Tells, openWays_single] at ihinner
    have htake : (p.ways t pos slots).take 1 = [(j, s)] := by
      obtain ⟨ws, hws⟩ := List.head?_eq_some_iff.mp ihinner
      rw [hws]
      rfl
    have hgo : Choice.ways t ⟨.plan (.atomic p) :: rest, pos, slots⟩
        = Choice.ways t ⟨rest, j, s⟩ := by
      rw [ways_atomic, htake, List.flatMap_cons, List.flatMap_nil, List.append_nil]
    rw [openWays_congr hgo]
    exact ih
  | case22 budget stack rest pos slots p left hinner ihinner ih =>
    -- an atomic part without a way
    rw [hinner, Tells, openWays_single] at ihinner
    rw [openWays_of_eq_nil (by rw [ways_atomic, ihinner]; rfl)]
    exact ih
  | case23 budget stack rest pos slots p hinner ihinner => trivial
  | case24 budget stack rest pos slots p hcat halt hgroup hrepeated hpeek hforbid hatomic ih =>
    -- all other plans have one way or none
    have hsimple : p.ways t pos slots = (t.simple? p pos slots).toList := by
      cases p with
      | cat p q => exact absurd rfl (hcat p q)
      | alt p q => exact absurd rfl (halt p q)
      | group i p => exact absurd rfl (hgroup i p)
      | repeated lo hi greedy p => exact absurd rfl (hrepeated lo hi greedy p)
      | peek p => exact absurd rfl (hpeek p)
      | forbid p => exact absurd rfl (hforbid p)
      | atomic p => exact absurd rfl (hatomic p)
      | _ => rfl
    rw [openWays_some, ways_simple hsimple, ← List.flatMap_append]
    exact ih

end Subject

end CodeShape.Regex
