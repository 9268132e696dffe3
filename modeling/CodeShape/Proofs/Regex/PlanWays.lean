import Mathlib.Algebra.GroupWithZero.Nat
import Mathlib.Data.List.Forall2
import Mathlib.Data.List.TakeWhile
import CodeShape.Proofs.Regex.AutomatonWays
import CodeShape.Proofs.Regex.BacktrackWays

/-!
# A plan matches as its expression does

A plan hands parts of an expression to automata, and an automaton offers its first way only. For an
`orderly` expression this takes nothing away: the parts that are handed over in the middle of a
sequence have one way at most, and behind a negated lookaround it only matters whether there is a
way at all. So `exact_of_orderly` gives a plan with the very ways of the expression, in the same
order, wherever the search may come back for another way, and `plans_of_orderly` adds that where it
may not, the plan still matches wherever the expression does.
-/

namespace CodeShape.Regex

namespace Expr

/-- An expression without choices: it matches in one way at most. -/
@[grind =]
def single : Expr → Bool
  | empty | chars _ | assert _ | look _ _ _ => true
  | cat a b => a.single && b.single
  | parens e => e.single
  | alt .. | group .. | repeated .. | backref _ | atomic _ | keepOut | searchStart => false

/-- An item of a sequence that an automaton may take over if it has a fixed size. -/
def tidy (e : Expr) : Bool :=
  !e.fixedSize || e.single

/-- An expression of which a plan keeps all ways: repetitions make progress, lookarounds are negated
and can be planned, and items of sequences are tidy. -/
@[grind =]
def orderly : Expr → Bool
  | empty | chars _ | assert _ | backref _ => true
  | cat a b => a.orderly && b.orderly && (a.tidy && b.tidy)
  | alt a b => a.orderly && b.orderly
  | parens e | group _ e => e.orderly
  | repeated lo hi _ e => e.orderly && hi.all (lo ≤ ·) && (hi.isSome || 0 < e.minSize)
  | look side negated e => negated && e.orderly && (side == .ahead || e.fixedSize)
  | atomic _ | keepOut | searchStart => false

attribute [grind =] Plan.cats Plan.alts Plan.delegated Plan.ofExpr Plan.ofItems Plan.ofBranches

variable {t : Subject} {recalled : List Nat} {e : Expr}

theorem progressing_of_orderly (h : e.orderly = true) : e.progressing = true := by
  induction e with
  | cat a b iha ihb =>
    simp only [orderly, Bool.and_eq_true] at h
    rw [progressing, iha h.1.1, ihb h.1.2]
    rfl
  | alt a b iha ihb =>
    simp only [orderly, Bool.and_eq_true] at h
    rw [progressing, iha h.1, ihb h.2]
    rfl
  | parens e ih => exact ih h
  | group i e ih => exact ih h
  | repeated lo hi greedy e ih =>
    simp only [orderly, Bool.and_eq_true] at h
    rw [progressing, ih h.1.1, h.1.2, h.2]
    rfl
  | look side negated e ih =>
    simp only [orderly, Bool.and_eq_true] at h
    exact ih h.1.2
  | empty | chars _ | assert _ | backref _ => rfl
  | atomic _ _ | keepOut | searchStart => exact absurd h Bool.false_ne_true

/-! ## Sequences -/

theorem cats_cons_cons (e e' : Expr) (es : List Expr) :
    cats (e :: e' :: es) = cat e (cats (e' :: es)) := rfl

theorem ways_cats (es : List Expr) : (cats es).ways t = Ways.chain (es.map (ways t)) := by
  induction es with
  | nil => rfl
  | cons e es ih =>
    cases es with
    | nil => rw [List.map_cons, List.map_nil, Ways.chain_singleton, cats]
    | cons e' es =>
      rw [List.map_cons, Ways.chain_cons, ← ih]
      rfl

theorem ways_items (e : Expr) : Ways.chain (e.items.map (ways t)) = e.ways t := by
  induction e with
  | cat a b _ ihb =>
    rw [items, List.map_cons, Ways.chain_cons, ihb]
    rfl
  | _ => exact Ways.chain_singleton

theorem cats_fixedSize {es : List Expr} :
    (cats es).fixedSize = true ↔ ∀ e ∈ es, e.fixedSize = true := by
  induction es with
  | nil => exact iff_of_true rfl fun e he => absurd he List.not_mem_nil
  | cons e es ih =>
    rw [List.forall_mem_cons, ← ih]
    cases es with
    | nil => exact (and_iff_left rfl).symm
    | cons e' es => rw [cats_cons_cons, fixedSize, Bool.and_eq_true]

theorem cats_single {es : List Expr} (h : ∀ e ∈ es, e.single = true) :
    (cats es).single = true := by
  induction es with
  | nil => rfl
  | cons e es ih =>
    obtain ⟨he, hes⟩ := List.forall_mem_cons.mp h
    cases es with
    | nil => exact he
    | cons e' es =>
      rw [cats_cons_cons, single, he, ih hes]
      rfl

theorem single_of_tidy (h : e.tidy = true) (hfix : e.fixedSize = true) : e.single = true := by
  rw [tidy, hfix] at h
  exact h

theorem cats_tidy {es : List Expr} (h : ∀ e ∈ es, e.tidy = true) : (cats es).tidy = true := by
  unfold tidy
  cases hfix : (cats es).fixedSize with
  | false => rfl
  | true =>
    rw [cats_fixedSize] at hfix
    exact cats_single fun e he => single_of_tidy (h e he) (hfix e he)

theorem cats_orderly {es : List Expr} (h : ∀ e ∈ es, e.orderly = true ∧ e.tidy = true) :
    (cats es).orderly = true := by
  induction es with
  | nil => rfl
  | cons e es ih =>
    obtain ⟨he, hes⟩ := List.forall_mem_cons.mp h
    cases es with
    | nil => exact he.1
    | cons e' es =>
      rw [cats_cons_cons, orderly, he.1, he.2, ih hes, cats_tidy fun x hx => (hes x hx).2]
      rfl

theorem groups_cats (es : List Expr) : (cats es).groups = es.flatMap groups := by
  induction es with
  | nil => rfl
  | cons e es ih =>
    cases es with
    | nil => rw [cats, List.flatMap_singleton]
    | cons e' es => rw [cats_cons_cons, groups, ih, List.flatMap_cons (x := e)]

theorem cats_groups {es : List Expr} (h : ∀ e ∈ es, e.groups = []) : (cats es).groups = [] := by
  rw [groups_cats, List.flatMap_eq_nil_iff]
  exact h

theorem not_mem_groups_cats {es : List Expr} {i : Nat} (h : ∀ e ∈ es, i ∉ e.groups) :
    i ∉ (cats es).groups := by
  rw [groups_cats, List.mem_flatMap]
  intro h
  obtain ⟨e, he, hi⟩ := h
  exact h e he hi

theorem recalledGroups_cats (es : List Expr) :
    (cats es).recalledGroups = es.flatMap recalledGroups := by
  induction es with
  | nil => rfl
  | cons e es ih =>
    cases es with
    | nil => rw [cats, List.flatMap_singleton]
    | cons e' es => rw [cats_cons_cons, recalledGroups, ih, List.flatMap_cons (x := e)]

theorem cats_minSize (es : List Expr) : (cats es).minSize = es.foldr (fun e n => e.minSize + n) 0 := by
  induction es with
  | nil => rfl
  | cons e es ih =>
    cases es with
    | nil => rfl
    | cons e' es =>
      rw [cats_cons_cons, minSize, ih]
      rfl

theorem cats_leafCount (es : List Expr) :
    Automaton.leafCount (cats es) = (es.map Automaton.leafCount).sum := by
  induction es with
  | nil => rfl
  | cons e es ih =>
    cases es with
    | nil => exact (List.sum_singleton).symm
    | cons e' es =>
      rw [cats_cons_cons, Automaton.leafCount, ih]
      rfl

theorem cats_needsBacktracking (es : List Expr) :
    (cats es).needsBacktracking recalled = es.any (needsBacktracking recalled) := by
  induction es with
  | nil => rfl
  | cons e es ih =>
    cases es with
    | nil => simp [cats]
    | cons e' es => rw [cats_cons_cons, needsBacktracking, ih, List.any_cons (a := e)]

/-! ## Alternatives -/

theorem alts_cons_cons (e e' : Expr) (es : List Expr) :
    alts (e :: e' :: es) = alt e (alts (e' :: es)) := rfl

theorem alts_orderly {es : List Expr} (h : ∀ e ∈ es, e.orderly = true) :
    (alts es).orderly = true := by
  induction es with
  | nil => rfl
  | cons e es ih =>
    obtain ⟨he, hes⟩ := List.forall_mem_cons.mp h
    cases es with
    | nil => exact he
    | cons e' es =>
      rw [alts_cons_cons, orderly, he, ih hes]
      rfl

theorem alts_groups {es : List Expr} (h : ∀ e ∈ es, e.groups = []) : (alts es).groups = [] := by
  induction es with
  | nil => rfl
  | cons e es ih =>
    obtain ⟨he, hes⟩ := List.forall_mem_cons.mp h
    cases es with
    | nil => exact he
    | cons e' es => rw [alts_cons_cons, groups, he, ih hes, List.append_nil]

/-- Alternatives of one fixed size each have this size. -/
theorem minSize_of_alts_fixedSize {es : List Expr} (h : (alts es).fixedSize = true) :
    ∀ e ∈ es, e.minSize = (alts es).minSize := by
  induction es with
  | nil => exact fun e he => absurd he List.not_mem_nil
  | cons e es ih =>
    cases es with
    | nil =>
      intro x hx
      rw [List.mem_singleton.mp hx]
      rfl
    | cons e' es =>
      rw [alts_cons_cons, fixedSize, Bool.and_eq_true, Bool.and_eq_true, beq_iff_eq] at h
      obtain ⟨⟨-, hes⟩, hsize⟩ := h
      rw [alts_cons_cons, minSize, ← hsize, Nat.min_self]
      refine List.forall_mem_cons.mpr ⟨rfl, fun x hx => ?_⟩
      rw [ih hes x hx, ← hsize]

theorem items_orderly {a b : Expr} (h : (cat a b).orderly = true) :
    ∀ x ∈ (cat a b).items, x.orderly = true ∧ x.tidy = true := by
  induction b generalizing a with
  | cat b b' _ ih =>
    simp only [orderly, Bool.and_eq_true] at h
    refine List.forall_mem_cons.mpr ⟨⟨h.1.1, h.2.1⟩, ih ?_⟩
    simp only [orderly, Bool.and_eq_true]
    exact h.1.2
  | _ =>
    rw [orderly, Bool.and_eq_true, Bool.and_eq_true, Bool.and_eq_true] at h
    refine List.forall_mem_cons.mpr ⟨⟨h.1.1, h.2.1⟩, fun x hx => ?_⟩
    rw [List.mem_singleton.mp hx]
    exact ⟨h.1.2, h.2.2⟩

/-! ## Parts with one way at most -/

/-- What an automaton takes in the middle of a sequence sets no slots and has one way at most. -/
theorem one_way (h : e.single = true) (hreg : e.needsBacktracking recalled = false) :
    e.groups = [] ∧ ∀ pos slots, e.ways t pos slots = [] ∨
      e.ways t pos slots = [(pos + e.minSize, slots)] := by
  induction e with
  | empty => exact ⟨rfl, fun pos slots => Or.inr rfl⟩
  | chars set =>
    refine ⟨rfl, fun pos slots => ?_⟩
    simp only [ways]
    split
    · split
      · exact Or.inr rfl
      · exact Or.inl rfl
    · exact Or.inl rfl
  | assert a =>
    refine ⟨rfl, fun pos slots => ?_⟩
    simp only [ways]
    split
    · exact Or.inr rfl
    · exact Or.inl rfl
  | cat a b iha ihb =>
    simp only [single, Bool.and_eq_true] at h
    simp only [needsBacktracking, Bool.or_eq_false_iff] at hreg
    obtain ⟨hga, ha⟩ := iha h.1 hreg.1
    obtain ⟨hgb, hb⟩ := ihb h.2 hreg.2
    refine ⟨by rw [groups, hga, hgb]; rfl, fun pos slots => ?_⟩
    rw [ways, Ways.andThen]
    rcases ha pos slots with ha | ha
    · left
      rw [ha, List.flatMap_nil]
    · rw [ha, List.flatMap_cons, List.flatMap_nil, List.append_nil, minSize, ← Nat.add_assoc]
      exact hb (pos + a.minSize) slots
  | parens e ih => exact ih h hreg
  | look _ _ _ _ => exact absurd hreg Bool.false_ne_true.symm
  | alt _ _ _ _ | group _ _ _ | repeated _ _ _ _ _ | backref _ | atomic _ _ | keepOut
    | searchStart => exact absurd h Bool.false_ne_true

end Expr

namespace Plan

variable {t : Subject} {recalled : List Nat} {e : Expr}

theorem ways_cats (ps : List Plan) : (cats ps).ways t = Ways.chain (ps.map (ways t)) := by
  induction ps with
  | nil => rfl
  | cons p ps ih =>
    cases ps with
    | nil => rw [List.map_cons, List.map_nil, Ways.chain_singleton, cats]
    | cons p' ps =>
      rw [List.map_cons, Ways.chain_cons, ← ih]
      rfl

/-- What an automaton makes of an expression: its first way, begun without slots. -/
theorem ways_delegating (hreg : e.needsBacktracking recalled = false)
    (hprog : e.progressing = true) (pos : Nat) (slots : Slots) :
    (delegating e).ways t pos slots
      = ((e.ways t pos [(0, some pos)]).head?.map fun w =>
          (w.1, Subject.delegatedSlots e.groups (Automaton.complete w.2 w.1) slots)).toList := by
  show (t.simple? (.delegate e.groups (Automaton.ofExpr e)) pos slots).toList = _
  simp only [Subject.simple?]
  rw [Automaton.find_anchored_eq_head, Automaton.edgeRuns_ofExpr t e hreg hprog, List.head?_map]
  cases (e.ways t pos [(0, some pos)]).head? with
  | none => rfl
  | some w => rfl

theorem ways_delegating_eq_nil (hreg : e.needsBacktracking recalled = false)
    (hprog : e.progressing = true) (pos : Nat) (slots : Slots) :
    (delegating e).ways t pos slots = [] ↔ e.ways t pos slots = [] := by
  rw [ways_delegating hreg hprog, Option.toList_eq_nil_iff, Option.map_eq_none_iff,
    List.head?_eq_none_iff]
  exact (Expr.ways_adding t e hreg).eq_nil_iff pos _ _

theorem ways_delegating_of_one_way (h : e.orderly = true) (hsingle : e.single = true)
    (hreg : e.needsBacktracking recalled = false) : (delegating e).ways t = e.ways t := by
  funext pos slots
  obtain ⟨hgroups, hways⟩ := Expr.one_way (t := t) hsingle hreg
  have hnil := (Expr.ways_adding t e hreg).eq_nil_iff pos slots [(0, some pos)]
  rw [ways_delegating hreg (Expr.progressing_of_orderly h), hgroups]
  rcases hways pos slots with hs | hs
  · rw [hs, hnil.mp hs]
    rfl
  · rcases hways pos [(0, some pos)] with h0 | h0
    · rw [hnil.mpr h0] at hs
      exact absurd hs.symm (List.cons_ne_nil _ _)
    · rw [hs, h0]
      rfl

/-! ## Plans of sequences -/

/-- Where other ways may be asked for, the plan of the expression has all its ways. -/
def Exact (recalled : List Nat) (e : Expr) : Prop :=
  ∃ p, ofExpr recalled true e = .ok p ∧ ∀ t, p.ways t = e.ways t

/-- Where no other way is asked for, the plan of the expression matches if the expression does. -/
def Faithful (recalled : List Nat) (e : Expr) : Prop :=
  ∃ p, ofExpr recalled false e = .ok p ∧
    ∀ t pos slots, p.ways t pos slots = [] ↔ e.ways t pos slots = []

/-- Plans of the items of a sequence, item by item. -/
def ItemPlans (recalled : List Nat) : List Expr → List Plan → Prop :=
  List.Forall₂ fun e p => ofExpr recalled true e = .ok p ∧ ∀ t, p.ways t = e.ways t

theorem ItemPlans.ways {es : List Expr} {ps : List Plan} (h : ItemPlans recalled es ps)
    (t : Subject) : ps.map (ways t) = es.map (Expr.ways t) := by
  induction h with
  | nil => rfl
  | cons hep _ ih => rw [List.map_cons, List.map_cons, hep.2, ih]

theorem ofItems_exact (a b : Expr) (ha : Exact recalled a)
    (hb : ∀ x ∈ b.items, Exact recalled x) :
    ∃ ps, ofItems recalled (.cat a b) = .ok ps ∧ ItemPlans recalled (a :: b.items) ps := by
  induction b generalizing a with
  | cat b b' _ ih =>
    obtain ⟨p, hp, hpw⟩ := ha
    obtain ⟨ps, hps, hall⟩ := ih b (hb b List.mem_cons_self)
      fun x hx => hb x (List.mem_cons_of_mem _ hx)
    refine ⟨p :: ps, ?_, List.Forall₂.cons ⟨hp, hpw⟩ hall⟩
    rw [ofItems, hp]
    simp only [hps]
    rfl
  | _ =>
    obtain ⟨p, hp, hpw⟩ := ha
    obtain ⟨q, hq, hqw⟩ := hb _ (List.mem_singleton.mpr rfl)
    refine ⟨[p, q], ?_, List.Forall₂.cons ⟨hp, hpw⟩ (List.Forall₂.cons ⟨hq, hqw⟩ .nil)⟩
    rw [ofItems, hp]
    simp only [hq]
    rfl

/-- The plan of a sequence is made of plans of its items. -/
theorem ofExpr_cat (delicate : Bool) (a b : Expr)
    (hgo : (!delicate && !(Expr.cat a b).needsBacktracking recalled) = false)
    (ha : Exact recalled a) (hb : ∀ x ∈ b.items, Exact recalled x) :
    ∃ ps, ofExpr recalled delicate (.cat a b)
        = .ok (sequence recalled delicate (a :: b.items) ps) ∧
      ItemPlans recalled (a :: b.items) ps := by
  cases b with
  | cat b b' =>
    obtain ⟨p, hp, hpw⟩ := ha
    obtain ⟨ps, hps, hall⟩ := ofItems_exact b b' (hb b List.mem_cons_self)
      fun x hx => hb x (List.mem_cons_of_mem _ hx)
    refine ⟨p :: ps, ?_, List.Forall₂.cons ⟨hp, hpw⟩ hall⟩
    rw [ofExpr, hgo, hp]
    simp only [Bool.false_eq_true, if_false, hps]
    rfl
  | _ =>
    obtain ⟨p, hp, hpw⟩ := ha
    obtain ⟨q, hq, hqw⟩ := hb _ (List.mem_singleton.mpr rfl)
    refine ⟨[p, q], ?_, List.Forall₂.cons ⟨hp, hpw⟩ (List.Forall₂.cons ⟨hq, hqw⟩ .nil)⟩
    rw [ofExpr, hgo, hp]
    simp only [Bool.false_eq_true, if_false, hq]
    rfl

/-- What may be delegated item by item may be delegated as one sequence. -/
theorem cats_needsBacktracking_of_mayDelegate {delicate : Bool} {es : List Expr}
    (hes : ∀ e ∈ es, mayDelegate recalled delicate e = true) :
    (Expr.cats es).needsBacktracking recalled = false := by
  rw [Expr.cats_needsBacktracking, List.any_eq_false]
  intro x hx
  have := hes x hx
  simp only [mayDelegate, Bool.and_eq_true, Bool.not_eq_true'] at this
  rw [this.1]
  exact Bool.false_ne_true

/-- Items that an automaton takes at the front of a sequence. -/
theorem chain_delegated_of_one_way {es : List Expr}
    (horder : ∀ e ∈ es, e.orderly = true ∧ e.tidy = true)
    (hes : ∀ e ∈ es, mayDelegate recalled true e = true) (t : Subject) :
    Ways.chain ((delegated es).map (ways t)) = Ways.chain (es.map (Expr.ways t)) := by
  cases es with
  | nil => rfl
  | cons e es =>
    rw [delegated, List.map_cons, List.map_nil, Ways.chain_singleton, ← Expr.ways_cats]
    · refine ways_delegating_of_one_way (Expr.cats_orderly horder) ?_
        (cats_needsBacktracking_of_mayDelegate hes)
      refine Expr.cats_single fun x hx => Expr.single_of_tidy (horder x hx).2 ?_
      have := hes x hx
      simp only [mayDelegate, Bool.and_eq_true, Bool.not_true, Bool.false_or] at this
      exact this.2
    · exact nofun

/-- Items that an automaton takes at the end of a sequence, after which nothing can fail. -/
theorem chain_delegated_eq_nil {es : List Expr}
    (horder : ∀ e ∈ es, e.orderly = true ∧ e.tidy = true)
    (hes : ∀ e ∈ es, mayDelegate recalled false e = true) (t : Subject) (pos : Nat)
    (slots : Slots) :
    Ways.chain ((delegated es).map (ways t)) pos slots = [] ↔
      Ways.chain (es.map (Expr.ways t)) pos slots = [] := by
  cases es with
  | nil => exact Iff.rfl
  | cons e es =>
    rw [delegated, List.map_cons, List.map_nil, Ways.chain_singleton, ← Expr.ways_cats]
    · exact ways_delegating_eq_nil (cats_needsBacktracking_of_mayDelegate hes)
        (Expr.progressing_of_orderly (Expr.cats_orderly horder)) pos slots
    · exact nofun

/-- The middle of a sequence: what stands before it and what stands behind it may be delegated. -/
theorem middle_split (recalled : List Nat) (delicate : Bool) (items : List Expr) :
    ∃ front mid back, items = front ++ (mid ++ back) ∧
      middle recalled delicate items = (front.length, front.length + mid.length) ∧
      (∀ e ∈ front, mayDelegate recalled true e = true) ∧
      ∀ e ∈ back, mayDelegate recalled delicate e = true := by
  have hitems : items.takeWhile (mayDelegate recalled true)
      ++ items.dropWhile (mayDelegate recalled true) = items :=
    List.takeWhile_append_dropWhile
  have hdrop : items.drop (items.takeWhile (mayDelegate recalled true)).length
      = items.dropWhile (mayDelegate recalled true) := by
    conv => lhs; arg 2; rw [← hitems]
    exact List.drop_left
  generalize hf : items.takeWhile (mayDelegate recalled true) = front at hitems hdrop
  generalize items.dropWhile (mayDelegate recalled true) = rest at hitems hdrop
  have hrest := List.takeWhile_append_dropWhile (p := mayDelegate recalled delicate)
    (l := rest.reverse)
  generalize hb : rest.reverse.takeWhile (mayDelegate recalled delicate) = back at hrest
  generalize rest.reverse.dropWhile (mayDelegate recalled delicate) = mid at hrest
  have hsplit : rest = mid.reverse ++ back.reverse := by
    rw [← List.reverse_append, hrest, List.reverse_reverse]
  refine ⟨front, mid.reverse, back.reverse, ?_, ?_, ?_, ?_⟩
  · rw [← hsplit, hitems]
  · unfold middle
    simp only [hf, hdrop, hb]
    rw [← hitems, hsplit]
    simp only [List.length_append, List.length_reverse, Prod.mk.injEq, true_and]
    omega
  · intro e he
    rw [← hf] at he
    exact List.mem_takeWhile_imp he
  · intro e he
    rw [List.mem_reverse, ← hb] at he
    exact List.mem_takeWhile_imp he

/-- A plan of a sequence: automata around the plans of the items in the middle. -/
theorem sequence_eq (delicate : Bool) {R : Expr → Plan → Prop} {items : List Expr} {ps : List Plan}
    (hps : List.Forall₂ R items ps) :
    ∃ front mid back pmid, items = front ++ (mid ++ back) ∧
      sequence recalled delicate items ps
        = cats (delegated front ++ pmid ++ delegated back) ∧
      List.Forall₂ R mid pmid ∧
      (∀ e ∈ front, mayDelegate recalled true e = true) ∧
      ∀ e ∈ back, mayDelegate recalled delicate e = true := by
  obtain ⟨front, mid, back, hitems, hmiddle, hfront, hback⟩ :=
    middle_split recalled delicate items
  rw [hitems] at hps
  refine ⟨front, mid, back, (ps.drop front.length).take mid.length, hitems, ?_, ?_, hfront, hback⟩
  · unfold sequence
    simp only [hmiddle]
    congr 2
    · rw [hitems, List.take_left, List.drop_take, Nat.add_sub_cancel_left]
    · rw [hitems, ← List.append_assoc, ← List.length_append, List.drop_left]
  · have hmid := List.forall₂_take mid.length (List.forall₂_drop front.length hps)
    rwa [List.drop_left, List.take_left] at hmid

/-- A sequence of orderly items is planned exactly where other ways may be asked for. -/
theorem ways_sequence {items : List Expr} {ps : List Plan} (hps : ItemPlans recalled items ps)
    (horder : ∀ e ∈ items, e.orderly = true ∧ e.tidy = true) (t : Subject) :
    (sequence recalled true items ps).ways t = Ways.chain (items.map (Expr.ways t)) := by
  obtain ⟨front, mid, back, pmid, rfl, hseq, hmid, hfront, hback⟩ := sequence_eq true hps
  rw [hseq, ways_cats, List.map_append, List.map_append, Ways.chain_append, Ways.chain_append,
    ItemPlans.ways hmid,
    chain_delegated_of_one_way (fun e he => horder e (List.mem_append_left _ he)) hfront,
    chain_delegated_of_one_way (fun e he => horder e (List.mem_append_right _
      (List.mem_append_right _ he))) hback]
  rw [List.map_append, List.map_append, Ways.chain_append, Ways.chain_append, Ways.andThen_assoc]

/-- A sequence of orderly items is planned faithfully where no other way is asked for. -/
theorem ways_sequence_eq_nil {items : List Expr} {ps : List Plan}
    (hps : ItemPlans recalled items ps)
    (horder : ∀ e ∈ items, e.orderly = true ∧ e.tidy = true) (t : Subject) (pos : Nat)
    (slots : Slots) :
    (sequence recalled false items ps).ways t pos slots = [] ↔
      Ways.chain (items.map (Expr.ways t)) pos slots = [] := by
  obtain ⟨front, mid, back, pmid, rfl, hseq, hmid, hfront, hback⟩ := sequence_eq false hps
  rw [hseq, ways_cats, List.map_append, List.map_append, Ways.chain_append, Ways.chain_append,
    ItemPlans.ways hmid,
    chain_delegated_of_one_way (fun e he => horder e (List.mem_append_left _ he)) hfront]
  rw [List.map_append, List.map_append, Ways.chain_append, Ways.chain_append,
    ← Ways.andThen_assoc, Ways.andThen_eq_nil, Ways.andThen_eq_nil]
  -- the front and the middle have the same ways, so only what lies behind them is compared
  refine forall_congr' fun w => forall_congr' fun _ => ?_
  exact chain_delegated_eq_nil (fun e he => horder e (List.mem_append_right _
    (List.mem_append_right _ he))) hback t w.1 w.2

/-! ## Plans of orderly expressions -/

/-- An expression without backtracking parts goes to an automaton as a whole. -/
theorem faithful_of_delegating (horder : e.orderly = true)
    (hreg : e.needsBacktracking recalled = false) : Faithful recalled e := by
  refine ⟨delegating e, ?_, fun t pos slots =>
    ways_delegating_eq_nil hreg (Expr.progressing_of_orderly horder) pos slots⟩
  unfold ofExpr
  rw [hreg]
  rfl

/-- What has an exact plan whatever follows it is planned faithfully. -/
theorem faithful_of_exact {p : Plan} (hp : ofExpr recalled false e = .ok p)
    (hways : ∀ t, p.ways t = e.ways t) : Faithful recalled e :=
  ⟨p, hp, fun t pos slots => by rw [hways]⟩

/-- A negated look asks only whether there is a way. -/
theorem looked_congr {f g : Ways} (h : ∀ pos slots, f pos slots = [] ↔ g pos slots = []) :
    f.looked true = g.looked true := by
  funext pos slots
  simp only [Ways.looked, if_true, List.isEmpty_iff, h]

/-- Looking behind from `minSize` characters back finds what ends here. -/
theorem ways_behind_eq_nil {p : Plan} (hfix : e.fixedSize = true)
    (hp : ∀ t pos slots, p.ways t pos slots = [] ↔ e.ways t pos slots = []) (t : Subject)
    (pos : Nat) (slots : Slots) :
    (behind e.minSize p).ways t pos slots = [] ↔ (e.ways t).upTo pos slots = [] := by
  have hback : (back e.minSize).ways t pos slots
      = if e.minSize ≤ pos then [(pos - e.minSize, slots)] else [] := by
    show (t.simple? (back e.minSize) pos slots).toList = _
    simp only [Subject.simple?]
    split <;> rfl
  rw [behind, ways, Ways.andThen_eq_nil, hback]
  constructor
  · intro h
    rw [List.eq_nil_iff_forall_not_mem]
    intro w hw
    obtain ⟨hpos, k, hk, hw⟩ := Ways.mem_upTo.mp hw
    -- all words of the expression have one size, so that it can only have begun that far back
    have hsize := Expr.eq_of_mem_ways_of_fixedSize t e hfix k slots w hw
    have hle : e.minSize ≤ pos := by omega
    rw [if_pos hle] at h
    have hnil := (hp t _ _).mp (h _ List.mem_cons_self)
    rw [show pos - e.minSize = k by omega] at hnil
    rw [hnil] at hw
    exact absurd hw List.not_mem_nil
  · intro h w hw
    split at hw
    next hle =>
      rw [List.mem_singleton.mp hw, hp, List.eq_nil_iff_forall_not_mem]
      intro v hv
      have hsize := Expr.eq_of_mem_ways_of_fixedSize t e hfix _ _ v hv
      refine List.eq_nil_iff_forall_not_mem.mp h v (Ways.mem_upTo.mpr ⟨?_, _, ?_, hv⟩)
      · dsimp only at hsize
        omega
      · exact Nat.sub_le _ _
    next => exact absurd hw List.not_mem_nil

/-- A lookaround is planned in one way only, whatever follows it. -/
theorem ofExpr_look (delicate : Bool) {side : Side} {negated : Bool}
    (horder : (Expr.look side negated e).orderly = true) (he : Faithful recalled e) :
    ∃ p, ofExpr recalled delicate (.look side negated e) = .ok p ∧
      ∀ t, p.ways t = (Expr.look side negated e).ways t := by
  simp only [Expr.orderly, Bool.and_eq_true, Bool.or_eq_true] at horder
  obtain ⟨⟨rfl, -⟩, hside⟩ := horder
  obtain ⟨p, hp, hnil⟩ := he
  have hgo : (!delicate && !(Expr.look side true e).needsBacktracking recalled) = false := by
    rw [Expr.needsBacktracking]
    simp
  cases side with
  | ahead =>
    refine ⟨forbid p, ?_, fun t => looked_congr (hnil t)⟩
    rw [ofExpr, hgo, hp]
    rfl
  | behind =>
    have hfix : e.fixedSize = true := hside.resolve_left (by decide)
    refine ⟨forbid (behind e.minSize p), ?_, fun t =>
      looked_congr (ways_behind_eq_nil hfix hnil t)⟩
    rw [ofExpr, hgo, hp]
    simp only [Bool.false_eq_true, if_false, hfix, if_true]
    rfl

/-! ### Parts that are planned as they are -/

theorem ways_chars (t : Subject) (set : CharSet) :
    (chars set).ways t = (Expr.chars set).ways t := by
  funext pos slots
  show (t.simple? (chars set) pos slots).toList = _
  simp only [Subject.simple?, Expr.ways]
  cases t.text[pos]? with
  | none => rfl
  | some c =>
    dsimp only
    split <;> rfl

theorem ways_assert (t : Subject) (cond : Assertion) :
    (assert cond).ways t = (Expr.assert cond).ways t := by
  funext pos slots
  show (t.simple? (assert cond) pos slots).toList = _
  simp only [Subject.simple?, Expr.ways]
  split <;> rfl

theorem ways_copyOf (t : Subject) (g : Nat) : (copyOf g).ways t = (Expr.backref g).ways t := by
  funext pos slots
  show (t.simple? (copyOf g) pos slots).toList = _
  simp only [Subject.simple?, Expr.ways]
  cases slots.span? g with
  | none => rfl
  | some span =>
    dsimp only
    split <;> rfl

/-! ### Parts that are planned part by part -/

variable {a b : Expr}

theorem exact_alt (ha : Exact recalled a) (hb : Exact recalled b) : Exact recalled (.alt a b) := by
  obtain ⟨p, hp, hpw⟩ := ha
  obtain ⟨q, hq, hqw⟩ := hb
  refine ⟨alt p q, ?_, fun t => ?_⟩
  · rw [ofExpr, hp, hq]
    rfl
  · rw [ways, hpw, hqw]
    rfl

theorem faithful_alt (hback : (Expr.alt a b).needsBacktracking recalled = true)
    (ha : Faithful recalled a) (hb : Faithful recalled b) : Faithful recalled (.alt a b) := by
  obtain ⟨p, hp, hpw⟩ := ha
  obtain ⟨q, hq, hqw⟩ := hb
  refine ⟨alt p q, ?_, fun t pos slots => ?_⟩
  · rw [ofExpr, hback, hp, hq]
    rfl
  · rw [ways, Expr.ways, List.append_eq_nil_iff, List.append_eq_nil_iff, hpw, hqw]

theorem exact_group (i : Nat) (he : Exact recalled e) : Exact recalled (.group i e) := by
  obtain ⟨p, hp, hpw⟩ := he
  refine ⟨group i p, ?_, fun t => ?_⟩
  · rw [ofExpr, hp]
    rfl
  · rw [ways, hpw]
    rfl

theorem faithful_group (i : Nat) (hback : (Expr.group i e).needsBacktracking recalled = true)
    (he : Faithful recalled e) : Faithful recalled (.group i e) := by
  obtain ⟨p, hp, hpw⟩ := he
  refine ⟨group i p, ?_, fun t pos slots => ?_⟩
  · rw [ofExpr, hback, hp]
    rfl
  · rw [ways, Expr.ways, Ways.captured, Ways.captured, List.map_eq_nil_iff, List.map_eq_nil_iff,
      hpw]

theorem exact_repeated (lo : Nat) (hi : Option Nat) (greedy : Bool) (he : Exact recalled e) :
    Exact recalled (.repeated lo hi greedy e) := by
  obtain ⟨p, hp, hpw⟩ := he
  refine ⟨repeated lo hi greedy p, ?_, fun t => ?_⟩
  · rw [ofExpr]
    simp only [Bool.not_true, Bool.false_and, Bool.false_eq_true, if_false, Bool.true_or, hp]
    rfl
  · rw [ways, hpw]
    rfl

theorem rounds_one_ne_nil {f : Ways} (greedy : Bool) (since : Option Nat) (pos : Nat)
    (slots : Slots) : f.rounds false greedy 0 1 since pos slots ≠ [] := by
  rw [Ways.rounds_more _ _ _ _ rfl]
  cases greedy <;> simp

theorem faithful_repeated (lo : Nat) (hi : Option Nat) (greedy : Bool)
    (hback : (Expr.repeated lo hi greedy e).needsBacktracking recalled = true)
    (he : Exact recalled e ∧ Faithful recalled e) :
    Faithful recalled (.repeated lo hi greedy e) := by
  cases hopt : lo == 0 && hi == some 1 with
  | true =>
    -- one optional round: there always is a way
    rw [Bool.and_eq_true, beq_iff_eq, beq_iff_eq] at hopt
    obtain ⟨rfl, rfl⟩ := hopt
    obtain ⟨p, hp, -⟩ := he.2
    refine ⟨repeated 0 (some 1) greedy p, ?_, fun t pos slots => ?_⟩
    · rw [ofExpr, hback]
      simp only [Bool.not_true, Bool.and_false, Bool.false_eq_true, if_false, beq_self_eq_true,
        Bool.and_self, Bool.or_self, hp]
      rfl
    · exact iff_of_false (rounds_one_ne_nil greedy none pos slots)
        (rounds_one_ne_nil greedy none pos slots)
  | false =>
    obtain ⟨p, hp, hpw⟩ := he.1
    refine faithful_of_exact (p := repeated lo hi greedy p) ?_ fun t => ?_
    · rw [ofExpr, hback, hopt]
      simp only [Bool.not_true, Bool.and_false, Bool.false_eq_true, if_false, Bool.not_false,
        Bool.or_true, hp]
      rfl
    · rw [ways, hpw]
      rfl

theorem exact_cat (ha : Exact recalled a) (hb : ∀ x ∈ b.items, Exact recalled x)
    (horder : (Expr.cat a b).orderly = true) : Exact recalled (.cat a b) := by
  obtain ⟨ps, hps, hitems⟩ := ofExpr_cat true a b rfl ha hb
  refine ⟨_, hps, fun t => ?_⟩
  rw [ways_sequence hitems (Expr.items_orderly horder), ← Expr.ways_items]
  rfl

theorem faithful_cat (hback : (Expr.cat a b).needsBacktracking recalled = true)
    (ha : Exact recalled a) (hb : ∀ x ∈ b.items, Exact recalled x)
    (horder : (Expr.cat a b).orderly = true) : Faithful recalled (.cat a b) := by
  obtain ⟨ps, hps, hitems⟩ := ofExpr_cat false a b (by rw [hback]; rfl) ha hb
  refine ⟨_, hps, fun t pos slots => ?_⟩
  rw [ways_sequence_eq_nil hitems (Expr.items_orderly horder), ← Expr.ways_items]
  rfl

/-- **Orderly expressions are planned exactly** where other ways may be asked for, faithfully where
they may not, and so are the items of a sequence. -/
theorem plans_of_orderly (recalled : List Nat) (e : Expr) (horder : e.orderly = true) :
    (Exact recalled e ∧ Faithful recalled e) ∧ ∀ x ∈ e.items, Exact recalled x := by
  -- what is no sequence has itself as its only item, and without backtracking parts it goes to an
  -- automaton where no other way is asked for
  have hself (e : Expr) (horder : e.orderly = true) (hitems : e.items = [e])
      (hexact : Exact recalled e)
      (hfaithful : e.needsBacktracking recalled = true → Faithful recalled e) :
      (Exact recalled e ∧ Faithful recalled e) ∧ ∀ x ∈ e.items, Exact recalled x := by
    refine ⟨⟨hexact, ?_⟩, fun x hx => ?_⟩
    · cases hreg : e.needsBacktracking recalled with
      | true => exact hfaithful hreg
      | false => exact faithful_of_delegating horder hreg
    · rw [hitems] at hx
      rw [List.mem_singleton.mp hx]
      exact hexact
  induction e with
  | empty =>
    exact hself _ horder rfl ⟨nothing, by rw [ofExpr]; rfl, fun t => rfl⟩
      fun h => absurd h Bool.false_ne_true
  | chars set =>
    exact hself _ horder rfl ⟨chars set, by rw [ofExpr]; rfl, fun t => ways_chars t set⟩
      fun h => absurd h Bool.false_ne_true
  | assert cond =>
    refine hself _ horder rfl ⟨assert cond, by rw [ofExpr]; rfl, fun t => ways_assert t cond⟩
      fun h => ?_
    exact faithful_of_exact (by rw [ofExpr, h]; rfl) fun t => ways_assert t cond
  | backref g =>
    refine hself _ horder rfl ⟨copyOf g, by rw [ofExpr]; rfl, fun t => ways_copyOf t g⟩
      fun h => ?_
    exact faithful_of_exact (by rw [ofExpr, h]; rfl) fun t => ways_copyOf t g
  | cat a b iha ihb =>
    have hab := horder
    simp only [Expr.orderly, Bool.and_eq_true] at hab
    -- a sequence is planned item by item: exactly the first one, and the items of the rest
    obtain ⟨⟨hexact, -⟩, -⟩ := iha hab.1.1
    obtain ⟨-, hitems⟩ := ihb hab.1.2
    refine ⟨⟨exact_cat hexact hitems horder, ?_⟩, fun x hx => ?_⟩
    · cases hreg : (Expr.cat a b).needsBacktracking recalled with
      | true => exact faithful_cat hreg hexact hitems horder
      | false => exact faithful_of_delegating horder hreg
    · rcases List.mem_cons.mp hx with rfl | hx
      · exact hexact
      · exact hitems x hx
  | alt a b iha ihb =>
    have hab := horder
    simp only [Expr.orderly, Bool.and_eq_true] at hab
    obtain ⟨⟨hea, hfa⟩, -⟩ := iha hab.1
    obtain ⟨⟨heb, hfb⟩, -⟩ := ihb hab.2
    exact hself _ horder rfl (exact_alt hea heb) fun h => faithful_alt h hfa hfb
  | parens e ih =>
    -- parentheses leave no trace in a plan
    obtain ⟨⟨⟨p, hp, hpw⟩, ⟨q, hq, hqw⟩⟩, -⟩ := ih horder
    refine hself _ horder rfl ⟨p, by rw [ofExpr, ← hp]; rfl, hpw⟩ fun h => ⟨q, ?_, hqw⟩
    rw [ofExpr, h, ← hq]
    rfl
  | group i e ih =>
    obtain ⟨⟨hexact, hfaithful⟩, -⟩ := ih horder
    exact hself _ horder rfl (exact_group i hexact) fun h => faithful_group i h hfaithful
  | repeated lo hi greedy e ih =>
    have he := horder
    simp only [Expr.orderly, Bool.and_eq_true] at he
    obtain ⟨hboth, -⟩ := ih he.1.1
    exact hself _ horder rfl (exact_repeated lo hi greedy hboth.1)
      fun h => faithful_repeated lo hi greedy h hboth
  | look side negated e ih =>
    have he := horder
    simp only [Expr.orderly, Bool.and_eq_true] at he
    obtain ⟨⟨-, hfaithful⟩, -⟩ := ih he.1.2
    refine hself _ horder rfl (ofExpr_look true horder hfaithful) fun _ => ?_
    obtain ⟨p, hp, hpw⟩ := ofExpr_look false horder hfaithful
    exact faithful_of_exact hp hpw
  | atomic _ _ | keepOut | searchStart => exact absurd horder Bool.false_ne_true

/-- The plan that a search is begun with has exactly the ways of an orderly expression. -/
theorem exact_of_orderly (recalled : List Nat) {e : Expr} (horder : e.orderly = true) :
    Exact recalled e :=
  (plans_of_orderly recalled e horder).1.1

/-- A choice is planned alternative by alternative. -/
theorem ofExpr_alts (recalled : List Nat) {es : List Expr} (h : ∀ e ∈ es, e.orderly = true) :
    ∃ ps, ofExpr recalled true (Expr.alts es) = .ok (alts ps) ∧ ItemPlans recalled es ps := by
  induction es with
  | nil => exact ⟨[], by rw [Expr.alts, ofExpr]; rfl, .nil⟩
  | cons e es ih =>
    obtain ⟨he, hes⟩ := List.forall_mem_cons.mp h
    obtain ⟨p, hp, hways⟩ := exact_of_orderly recalled he
    obtain ⟨ps, hps, hall⟩ := ih hes
    refine ⟨p :: ps, ?_, .cons ⟨hp, hways⟩ hall⟩
    cases hall with
    | nil => exact hp
    | cons _ _ =>
      rw [Expr.alts_cons_cons, ofExpr, hp, hps]
      rfl

end Plan

end CodeShape.Regex
