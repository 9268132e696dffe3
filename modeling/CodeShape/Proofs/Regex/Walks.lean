import CodeShape.Proofs.Regex.Bounds
import CodeShape.Proofs.Regex.Passages

/-!
# Searching a sequence of which some items are not known exactly

The expression of a pattern is a sequence. Most of its items are known exactly, and a search takes
one of their ways; others are groups around any expression, of which a search is only known not to
go backwards and to set no slots but those of the groups in them. A `Walk` goes over such a sequence,
item by item, and **what a search finds is a walk** (`Searcher.search_walk`), be it found by an
automaton, by a plan, or by a plan that leaves the ends of the sequence to automata.
-/

namespace CodeShape.Regex

/-- An item of a sequence. -/
inductive Link where
  /-- An expression whose ways are known. -/
  | exact (e : Expr)
  /-- A group around any expression. -/
  | loose (index : Nat) (e : Expr)
deriving Repr, DecidableEq

namespace Link

/-- The item as an expression. -/
def expr : Link → Expr
  | exact e => e
  | loose i e => .group i e

/-- The groups whose slots may be set on the way over the item. -/
def marks (l : Link) : List Nat :=
  l.expr.marks

/-- The groups of which it is known how the item sets their slots. -/
def owned : Link → List Nat
  | exact e => e.groups
  | loose i _ => [i]

/-- What is asked of an item: if it is known exactly, it is one item, and the search follows its ways
exactly; else the group is not set again inside. -/
def Suits : Link → Prop
  | exact e => e.items = [e] ∧ e.orderly = true ∧ e.tidy = true ∧ 0 ∉ e.groups
  | loose i e => e.bounded = true ∧ i ∉ e.marks ∧ i ≠ 0

/-- Going over the item leads from one position, with slots, to another. -/
def Takes (t : Subject) : Link → Way → Way → Prop
  | exact e, v, w => w ∈ e.ways t v.1 v.2
  | loose i e, v, w => Roams t.text.size (i :: e.marks) v w ∧ w.2.span? i = some (v.1, w.1)

end Link

/-- Later items leave the groups of earlier ones alone. -/
def Apart (links : List Link) : Prop :=
  links.Pairwise fun l l' => ∀ g ∈ l.owned, g ∉ l'.marks

/-- Going over the items one after the other. -/
inductive Walk (t : Subject) : List Link → Way → Way → Prop
  | nil (w : Way) : Walk t [] w w
  | cons {l : Link} {ls : List Link} {u v w : Way} (head : l.Takes t u v) (tail : Walk t ls v w) :
      Walk t (l :: ls) u w

/-- The items of a sequence are those it was made of, if none is a sequence itself. -/
theorem Expr.items_cats {es : List Expr} (hne : es ≠ []) (h : ∀ e ∈ es, e.items = [e]) :
    (cats es).items = es := by
  fun_induction cats es with
  | case1 => exact absurd rfl hne
  | case2 e => exact h e List.mem_cons_self
  | case3 e rest hrest ih =>
    rw [items, ih hrest fun x hx => h x (List.mem_cons_of_mem e hx)]

/-- An expression whose ways are known lets no match begin elsewhere. -/
theorem Expr.movesStart_of_orderly {e : Expr} (h : e.orderly = true) : e.movesStart = false := by
  induction e with
  | cat a b iha ihb =>
    simp only [orderly, Bool.and_eq_true] at h
    rw [movesStart, iha h.1.1, ihb h.1.2]
    rfl
  | alt a b iha ihb =>
    obtain ⟨ha, hb⟩ := Bool.and_eq_true_iff.mp h
    rw [movesStart, iha ha, ihb hb]
    rfl
  | parens e ih | group _ e ih => exact ih h
  | repeated lo hi greedy e ih =>
    simp only [orderly, Bool.and_eq_true] at h
    exact ih h.1.1
  | look side negated e ih =>
    simp only [orderly, Bool.and_eq_true] at h
    exact ih h.1.2
  | atomic e _ | keepOut => cases h
  | empty | chars _ | assert _ | backref _ | searchStart => rfl

/-- So it sets no slots but those of its groups. -/
theorem Expr.mem_groups_of_marks {e : Expr} (h : e.orderly = true) {g : Nat} (hg : g ∈ e.marks) :
    g ∈ e.groups := by
  rcases (mem_marks_iff e).mp hg with hg | ⟨-, hmoves⟩
  · exact hg
  · rw [movesStart_of_orderly h] at hmoves
    cases hmoves

variable {t : Subject} {l : Link} {links front back : List Link} {u v w : Way}
  {recalled : List Nat}

namespace Link

theorem Suits.items (h : l.Suits) : l.expr.items = [l.expr] := by
  cases l with
  | exact e => exact h.1
  | loose i e => rfl

theorem Suits.bounded (h : l.Suits) : l.expr.bounded = true := by
  cases l with
  | exact e => exact Expr.bounded_of_progressing (Expr.progressing_of_orderly h.2.1)
  | loose i e => exact h.1

theorem Suits.owned_ne_zero (h : l.Suits) {g : Nat} (hg : g ∈ l.owned) : g ≠ 0 := by
  rintro rfl
  cases l with
  | exact e => exact h.2.2.2 hg
  | loose i e => exact h.2.2 (List.mem_singleton.mp hg).symm

/-- Going over an item roams. -/
theorem Takes.roams (h : l.Takes t v w) : Roams t.text.size l.marks v w := by
  cases l with
  | exact e =>
    have hwithin := e.ways_within t v.1 v.2 w h
    exact ⟨hwithin.1, hwithin.2, e.ways_keeps t v.1 v.2 w h⟩
  | loose i e => exact h.1

/-- Over a group around anything, from the way over what is inside. -/
theorem takes_captured {i : Nat} {e : Expr} (hi : i ∉ e.marks)
    (h : Roams t.text.size e.marks (v.1, (2 * i, some v.1) :: v.2) w) :
    (loose i e).Takes t v (w.1, (2 * i + 1, some w.1) :: w.2) := by
  have hopen : (2 * i) / 2 = i := by omega
  have hclose : (2 * i + 1) / 2 = i := by omega
  refine ⟨⟨h.le, h.within, fun slot hslot => ?_⟩, ?_⟩
  · rw [List.mem_cons, not_or] at hslot
    rw [Slots.get?_cons, if_neg (by rintro rfl; exact hslot.1 hclose), h.keeps slot hslot.2,
      Slots.get?_cons, if_neg (by rintro rfl; exact hslot.1 hopen)]
  · have hstart : w.2.get? (2 * i) = some v.1 := by
      rw [h.keeps _ (by rwa [hopen]), Slots.get?_cons, if_pos rfl]
    unfold Slots.span?
    rw [Slots.get?_cons, if_neg (by omega), hstart, Slots.get?_cons, if_pos rfl]

end Link

namespace Walk

theorem append (h : Walk t front u v) (h' : Walk t back v w) : Walk t (front ++ back) u w := by
  induction h with
  | nil => exact h'
  | cons head _ ih => exact .cons head (ih h')

/-- A walk first goes one of the ways of the items that are known exactly. -/
theorem of_exact {es : List Expr} (h : Walk t (es.map .exact ++ links) u w) :
    ∃ v ∈ Ways.chain (es.map (Expr.ways t)) u.1 u.2, Walk t links v w := by
  induction es generalizing u with
  | nil => exact ⟨u, List.mem_singleton.mpr rfl, h⟩
  | cons e es ih =>
    cases h with
    | cons head tail =>
      obtain ⟨v, hv, hwalk⟩ := ih tail
      exact ⟨v, Ways.mem_andThen.mpr ⟨_, head, hv⟩, hwalk⟩

/-- A walk roams. -/
theorem roams (h : Walk t links v w) : Roams t.text.size (links.flatMap Link.marks) v w := by
  induction h with
  | nil w => exact Roams.refl _ _ w
  | cons head _ ih =>
    exact (head.roams.mono (List.subset_append_left _ _)).trans
      (ih.mono (List.subset_append_right _ _))

end Walk

/-! ## Automata -/

namespace Automaton

variable {a : Automaton} {first pos : Nat} {onward : List Edge} {slots r : Slots}

/-- A run over the fragment of an item takes the item. -/
theorem takes_of_run (hl : l.Suits) (hreg : l.expr.needsBacktracking recalled = false)
    (hembed : a.Embedded first (fragment l.expr first onward).leaves)
    (hr : r ∈ a.edgeRuns t.text (fragment l.expr first onward).start pos slots) :
    ∃ w, l.Takes t (pos, slots) w ∧ r ∈ a.edgeRuns t.text onward w.1 w.2 := by
  cases l with
  | exact e =>
    have hbuilds := builds_fragment a t e hreg (Expr.progressing_of_orderly hl.2.1)
    rw [Link.expr, hbuilds.runs first onward hembed] at hr
    exact List.mem_flatMap.mp hr
  | loose i e =>
    rw [Link.expr, fragment, edgeRuns_setting] at hr
    obtain ⟨w, hw, hr⟩ := roams_fragment hl.1 hembed hr
    rw [edgeRuns_setting] at hr
    exact ⟨_, Link.takes_captured hl.2.1 hw, hr⟩

/-- **A run over the fragment of a sequence is a walk.** -/
theorem walk_of_run (hlinks : ∀ l ∈ links, l.Suits)
    (hreg : ∀ l ∈ links, l.expr.needsBacktracking recalled = false)
    (hembed : a.Embedded first (fragment (Expr.cats (links.map Link.expr)) first onward).leaves)
    (hr : r ∈ a.edgeRuns t.text (fragment (Expr.cats (links.map Link.expr)) first onward).start
      pos slots) :
    ∃ w, Walk t links (pos, slots) w ∧ r ∈ a.edgeRuns t.text onward w.1 w.2 := by
  induction links generalizing first pos slots with
  | nil => exact ⟨_, .nil _, hr⟩
  | cons l links ih =>
    obtain ⟨hl, hrest⟩ := List.forall_mem_cons.mp hlinks
    obtain ⟨hlreg, hrestreg⟩ := List.forall_mem_cons.mp hreg
    cases links with
    | nil =>
      obtain ⟨w, hw, hr⟩ := takes_of_run hl hlreg hembed hr
      exact ⟨w, .cons hw (.nil w), hr⟩
    | cons l' links =>
      have hlength := (contains_fragment l.expr hl.bounded).length first
      have hright := hembed.right
      rw [hlength] at hright
      obtain ⟨v, hv, hr⟩ := takes_of_run hl hlreg hembed.left hr
      obtain ⟨w, hw, hr⟩ := ih hrest hrestreg hright hr
      exact ⟨w, .cons hv hw, hr⟩

theorem embedded_ofExpr (e : Expr) : (ofExpr e).Embedded 0 (fragment e 0 [.accept]).leaves := by
  intro k l hk
  rw [Nat.zero_add, ofExpr, List.getElem?_toArray]
  exact hk

/-- A run of the automaton of a sequence is a walk over all of it. -/
theorem walk_of_mem_edgeRuns (hlinks : ∀ l ∈ links, l.Suits)
    (hreg : (Expr.cats (links.map Link.expr)).needsBacktracking recalled = false)
    (hr : r ∈ (ofExpr (Expr.cats (links.map Link.expr))).edgeRuns t.text
      (ofExpr (Expr.cats (links.map Link.expr))).start pos slots) :
    ∃ w, Walk t links (pos, slots) w ∧ r = complete w.2 w.1 := by
  have hitems : ∀ l ∈ links, l.expr.needsBacktracking recalled = false := by
    rw [Expr.cats_needsBacktracking, List.any_eq_false] at hreg
    exact fun l hl => Bool.eq_false_iff.mpr (hreg _ (List.mem_map_of_mem hl))
  obtain ⟨w, hw, hr⟩ := walk_of_run hlinks hitems (embedded_ofExpr _) hr
  refine ⟨w, hw, ?_⟩
  rw [edgeRuns_accept rfl rfl] at hr
  exact List.mem_singleton.mp hr

end Automaton

/-! ## Plans -/

theorem Slots.span?_congr {s s' : Slots} {g : Nat}
    (h : ∀ slot, slot / 2 = g → s'.get? slot = s.get? slot) : s'.span? g = s.span? g := by
  unfold span?
  rw [h (2 * g) (by omega), h (2 * g + 1) (by omega)]

theorem Roams.span? {size g : Nat} {gs : List Nat} (h : Roams size gs v w) (hg : g ∉ gs) :
    w.2.span? g = v.2.span? g :=
  Slots.span?_congr fun slot hslot => h.keeps slot (hslot ▸ hg)

theorem Subject.span?_delegatedSlots {groups : List Nat} (found slots : Slots) {g : Nat}
    (hg : g ∈ groups) : (delegatedSlots groups found slots).span? g = found.span? g :=
  Slots.span?_congr fun slot hslot => by
    rw [get?_delegatedSlots, if_pos (hslot ▸ hg)]

theorem Automaton.span?_complete (slots : Slots) (stop : Nat) {g : Nat} (hg : g ≠ 0) :
    (complete slots stop).span? g = slots.span? g :=
  Slots.span?_congr fun slot hslot => by
    rw [complete, Slots.get?_cons, if_neg (by omega)]

/-- A simple item of fixed size takes the same characters whatever the slots are. -/
theorem Link.takes_of_single {e : Expr} (hsuits : (exact e).Suits)
    (hregular : Plan.mayDelegate recalled true e = true) (h : (exact e).Takes t v w)
    (slots : Slots) : e.groups = [] ∧ (exact e).Takes t (v.1, slots) (w.1, slots) := by
  simp only [Plan.mayDelegate, Bool.and_eq_true, Bool.not_eq_true', Bool.not_true,
    Bool.false_or] at hregular
  obtain ⟨hgroups, hways⟩ :=
    Expr.one_way (t := t) (Expr.single_of_tidy hsuits.2.2.1 hregular.2) hregular.1
  have hmem : w ∈ e.ways t v.1 v.2 := h
  have hnil := (Expr.ways_adding t e hregular.1).eq_nil_iff v.1 v.2 slots
  refine ⟨hgroups, ?_⟩
  change (w.1, slots) ∈ e.ways t v.1 slots
  rcases hways v.1 v.2 with hv | hv
  · rw [hv] at hmem
    exact absurd hmem List.not_mem_nil
  · rcases hways v.1 slots with hs | hs
    · rw [hnil.mpr hs] at hmem
      exact absurd hmem List.not_mem_nil
    · rw [hv] at hmem
      rw [hs, List.mem_singleton.mp hmem]
      exact List.mem_cons_self

/-- What an automaton finds at the end of a walk may be told to slots that other items have set: where
the groups of the walk are concerned, the slots found count, and elsewhere the slots so far. -/
theorem Walk.delegated (h : Walk t links v w) (hlinks : ∀ l ∈ links, l.Suits) (happart : Apart links)
    (hregular : ∀ l ∈ links, Plan.mayDelegate recalled true l.expr = true) {found : Slots}
    (hfound : ∀ l ∈ links, ∀ g ∈ l.owned, found.span? g = w.2.span? g) (gs : List Nat)
    (slots : Slots) :
    Walk t links (v.1, Subject.delegatedSlots gs found slots)
      (w.1, Subject.delegatedSlots (gs ++ (links.map Link.expr).flatMap Expr.groups) found slots) := by
  -- along the walk, `gs` being the groups of the items that have been passed
  induction h generalizing gs with
  | nil w =>
    rw [List.map_nil, List.flatMap_nil, List.append_nil]
    exact .nil _
  | @cons l ls u v w head tail ih =>
    obtain ⟨hl, hls⟩ := List.forall_mem_cons.mp hlinks
    obtain ⟨hlapart, hlsapart⟩ := List.pairwise_cons.mp happart
    obtain ⟨hlreg, hlsreg⟩ := List.forall_mem_cons.mp hregular
    obtain ⟨hlfound, hlsfound⟩ := List.forall_mem_cons.mp hfound
    have hrest := ih hls hlsapart hlsreg hlsfound (gs ++ l.expr.groups)
    rw [List.map_cons, List.flatMap_cons, ← List.append_assoc]
    refine .cons ?_ hrest
    cases l with
    | exact e =>
      obtain ⟨hgroups, htakes⟩ :=
        Link.takes_of_single hl hlreg head (Subject.delegatedSlots gs found slots)
      rw [Link.expr, hgroups, List.append_nil]
      exact htakes
    | loose i e =>
      have hsub : (Expr.group i e).groups ⊆ i :: e.marks := (Expr.group i e).groups_subset_marks
      have hmem : i ∈ gs ++ (Expr.group i e).groups :=
        List.mem_append_right _ List.mem_cons_self
      refine ⟨⟨head.1.le, head.1.within, fun slot hslot => ?_⟩, ?_⟩
      · -- outside its own groups the item is told nothing
        have hiff : slot / 2 ∈ gs ++ (Expr.group i e).groups ↔ slot / 2 ∈ gs := by
          rw [List.mem_append]
          exact or_iff_left fun hin => hslot (hsub hin)
        change (Subject.delegatedSlots _ _ _).get? slot = (Subject.delegatedSlots _ _ _).get? slot
        rw [Subject.get?_delegatedSlots, Subject.get?_delegatedSlots]
        exact if_congr hiff rfl rfl
      · -- the slots at the end hold what the item has set, since no later one has the group
        have hlater : i ∉ ls.flatMap Link.marks := by
          intro hin
          obtain ⟨l', hl', hin⟩ := List.mem_flatMap.mp hin
          exact hlapart l' hl' i (List.mem_singleton.mpr rfl) hin
        rw [← head.2, ← tail.roams.span? hlater, ← hlfound i (List.mem_singleton.mpr rfl)]
        exact Subject.span?_delegatedSlots found slots hmem

namespace Plan

/-- The plan of an item takes the item. -/
theorem takes_of_plan (hl : l.Suits) {p : Plan} (hp : ofExpr recalled true l.expr = .ok p)
    (hw : w ∈ p.ways t v.1 v.2) : l.Takes t v w := by
  cases l with
  | exact e =>
    obtain ⟨q, hq, hways⟩ := exact_of_orderly recalled hl.2.1
    obtain rfl : q = p := Except.ok.inj (hq.symm.trans hp)
    rwa [hways] at hw
  | loose i e =>
    have hserves := (ofExpr_serves recalled e).plan true
    rw [Link.expr, ofExpr] at hp
    obtain ⟨q, hq, hp⟩ := bind_eq_ok_iff.mp hp
    cases hp
    obtain ⟨u, hu, rfl⟩ := Ways.mem_captured.mp hw
    have hwithin := ways_within t (hserves q hq).forward _ _ u hu
    refine Link.takes_captured hl.2.1 ⟨hwithin.1, hwithin.2, fun slot hslot => ?_⟩
    exact ways_keeps t q _ _ u hu slot fun hmem => hslot ((hserves q hq).marks hmem)

/-- The plans of the items of a sequence are made for the middle of one. -/
theorem plans_of_ofItems {a b : Expr} {ps : List Plan} (h : ofItems recalled (.cat a b) = .ok ps) :
    List.Forall₂ (fun e p => ofExpr recalled true e = .ok p) (a :: b.items) ps := by
  induction b generalizing a ps with
  | cat b b' _ ih =>
    rw [ofItems] at h
    obtain ⟨p, hp, h⟩ := bind_eq_ok_iff.mp h
    obtain ⟨qs, hqs, h⟩ := bind_eq_ok_iff.mp h
    cases h
    exact .cons hp (ih hqs)
  | _ =>
    rw [ofItems] at h
    obtain ⟨p, hp, h⟩ := bind_eq_ok_iff.mp h
    obtain ⟨q, hq, h⟩ := bind_eq_ok_iff.mp h
    cases h
    exact .cons hp (.cons hq .nil)

/-- The plan of a sequence is made of plans of its items. -/
theorem sequence_of_ofExpr {a b : Expr} {p : Plan} (h : ofExpr recalled true (.cat a b) = .ok p) :
    ∃ ps, List.Forall₂ (fun e p => ofExpr recalled true e = .ok p) (a :: b.items) ps ∧
      p = sequence recalled true (a :: b.items) ps := by
  rw [ofExpr] at h
  obtain ⟨q, hq, h⟩ := bind_eq_ok_iff.mp h
  cases b with
  | cat b b' =>
    obtain ⟨qs, hqs, h⟩ := bind_eq_ok_iff.mp h
    cases h
    exact ⟨q :: qs, .cons hq (plans_of_ofItems hqs), rfl⟩
  | _ =>
    obtain ⟨q', hq', h⟩ := bind_eq_ok_iff.mp h
    cases h
    exact ⟨[q, q'], .cons hq (.cons hq' .nil), rfl⟩

/-- A walk over the items in the middle of a sequence. -/
theorem walk_of_plans (hlinks : ∀ l ∈ links, l.Suits) {ps : List Plan}
    (hps : List.Forall₂ (fun e p => ofExpr recalled true e = .ok p) (links.map Link.expr) ps)
    (hw : w ∈ Ways.chain (ps.map (ways t)) v.1 v.2) : Walk t links v w := by
  induction links generalizing v ps with
  | nil =>
    cases hps
    rw [List.mem_singleton.mp hw]
    exact .nil _
  | cons l links ih =>
    obtain ⟨hl, hrest⟩ := List.forall_mem_cons.mp hlinks
    cases hps with
    | cons hp hps =>
      obtain ⟨u, hu, hw⟩ := Ways.mem_andThen.mp hw
      exact .cons (takes_of_plan hl hp hu) (ih hrest hps hw)

/-- A walk over the items at an end of a sequence, which an automaton takes. -/
theorem walk_of_delegated (hlinks : ∀ l ∈ links, l.Suits) (happart : Apart links)
    (hregular : ∀ e ∈ links.map Link.expr, mayDelegate recalled true e = true)
    (hw : w ∈ Ways.chain ((delegated (links.map Link.expr)).map (ways t)) v.1 v.2) :
    Walk t links v w := by
  cases links with
  | nil =>
    rw [List.mem_singleton.mp hw]
    exact .nil _
  | cons l links =>
    have hone : delegated ((l :: links).map Link.expr)
        = [delegating (Expr.cats ((l :: links).map Link.expr))] := rfl
    rw [hone, List.map_cons, List.map_nil, Ways.chain_singleton] at hw
    have hreg := cats_needsBacktracking_of_mayDelegate hregular
    change w ∈ (t.simple? (delegating _) v.1 v.2).toList at hw
    simp only [delegating, Subject.simple?] at hw
    split at hw
    next found hfind =>
      rw [Automaton.find_anchored_eq_head] at hfind
      obtain ⟨w', hwalk, rfl⟩ :=
        Automaton.walk_of_mem_edgeRuns hlinks hreg (List.mem_of_head? hfind)
      have hstop : (Automaton.complete w'.2 w'.1).get? 1 = some w'.1 := by
        rw [Automaton.complete, Slots.get?_cons, if_pos rfl]
      rw [hstop, Option.map_some, Option.toList_some, Expr.groups_cats] at hw
      rw [List.mem_singleton.mp hw]
      exact hwalk.delegated hlinks happart (List.forall_mem_map.mp hregular)
        (fun l hl g hg => Automaton.span?_complete _ _ ((hlinks l hl).owned_ne_zero hg)) [] v.2
    next => exact absurd hw List.not_mem_nil

/-- **What the plan of a sequence finds is a walk.** -/
theorem walk_of_mem_ways (hlinks : ∀ l ∈ links, l.Suits) (happart : Apart links) {p : Plan}
    (hp : ofExpr recalled true (Expr.cats (links.map Link.expr)) = .ok p)
    (hw : w ∈ p.ways t v.1 v.2) : Walk t links v w := by
  match links with
  | [] =>
    cases hp
    rw [List.mem_singleton.mp hw]
    exact .nil _
  | [l] =>
    obtain ⟨hl, -⟩ := List.forall_mem_cons.mp hlinks
    exact .cons (takes_of_plan hl hp hw) (.nil w)
  | l :: l' :: rest =>
    obtain ⟨ps, hps, rfl⟩ := sequence_of_ofExpr hp
    have hitems : (Expr.cats ((l' :: rest).map Link.expr)).items = (l' :: rest).map Link.expr :=
      Expr.items_cats (List.cons_ne_nil _ _)
        (List.forall_mem_map.mpr fun k hk => (hlinks k (List.mem_cons_of_mem l hk)).items)
    rw [hitems, ← List.map_cons] at hps hw
    -- automata take the items at both ends, and the plans of the items those in the middle
    obtain ⟨front, mid, back, pmid, hsplit, hseq, hmid, hfront, hback⟩ := sequence_eq true hps
    obtain ⟨front, others, hlist, rfl, hothers⟩ := List.map_eq_append_iff.mp hsplit
    obtain ⟨mid, back, rfl, rfl, rfl⟩ := List.map_eq_append_iff.mp hothers
    rw [hlist] at hlinks happart ⊢
    obtain ⟨hlinksFront, hlinks⟩ := List.forall_mem_append.mp hlinks
    obtain ⟨hlinksMid, hlinksBack⟩ := List.forall_mem_append.mp hlinks
    obtain ⟨happartFront, happart, -⟩ := List.pairwise_append.mp happart
    obtain ⟨-, happartBack, -⟩ := List.pairwise_append.mp happart
    rw [hseq, ways_cats, List.map_append, List.map_append, Ways.chain_append,
      Ways.chain_append, Ways.andThen_assoc] at hw
    obtain ⟨u, hu, hw⟩ := Ways.mem_andThen.mp hw
    obtain ⟨u', hu', hw⟩ := Ways.mem_andThen.mp hw
    exact (walk_of_delegated hlinksFront happartFront hfront hu).append
      ((walk_of_plans hlinksMid hmid hu').append
        (walk_of_delegated hlinksBack happartBack hback hw))

end Plan

/-! ## Searches -/

/-- A search by a plan for a match anywhere goes to a place from the start on and matches there. -/
theorem mem_ways_anywhere {p : Plan} {start : Nat} (hstart : start ≤ t.text.size)
    (hw : w ∈ p.anywhere.ways t start []) :
    ∃ q v, start ≤ q ∧ q ≤ t.text.size ∧ v ∈ p.ways t q [(0, some q)] ∧
      w = (v.1, Automaton.complete v.2 v.1) := by
  obtain ⟨u, hu, hw⟩ := Ways.mem_andThen.mp hw
  have hrounds : (Plan.repeated 0 none false (.chars .all)).ways t start []
      = (List.range' start (t.text.size + 1 - start)).map fun q => (q, []) :=
    rounds_any t [] (t.text.size + 2) start none hstart (by omega) nofun
  rw [hrounds] at hu
  obtain ⟨q, hq, rfl⟩ := List.mem_map.mp hu
  obtain ⟨hle, hlt⟩ := List.mem_range'_1.mp hq
  obtain ⟨v, hv, rfl⟩ := Ways.mem_captured.mp hw
  exact ⟨q, v, hle, by omega, hv, rfl⟩

/-- **What a search finds is a walk over the items of the expression.** -/
theorem Searcher.search_walk {s : Searcher} {budget start : Nat} {text : Array Char}
    {origin : Option Nat} {m : Match} (hlinks : ∀ l ∈ links, l.Suits) (happart : Apart links)
    (hmethod : Method.ofExpr (Expr.cats (links.map Link.expr)) = .ok s.method)
    (hstart : start ≤ text.size) (hfound : s.search budget text start origin = .found m) :
    ∃ p slots, start ≤ p ∧ p ≤ text.size ∧
      Walk ⟨text, origin⟩ links (p, [(0, some p)]) (m.stop, slots) ∧
      m.slots = Automaton.complete slots m.stop ∧ Match.ofSlots? m.slots = some m := by
  obtain ⟨found, hm, hfound⟩ := slots_of_found hfound
  obtain rfl : m.slots = found := by
    obtain ⟨_, -, rfl⟩ := Option.map_eq_some_iff.mp hm
    rfl
  have hstop := (Match.of_ofSlots? hm).2
  -- an automaton gives the slots of a run, a plan those that hold at the end of a way
  obtain ⟨p, w, hle, hsize, hwalk, hslots⟩ : ∃ p w, start ≤ p ∧ p ≤ text.size ∧
      Walk ⟨text, origin⟩ links (p, [(0, some p)]) w ∧
      m.slots = Automaton.complete w.2 w.1 := by
    rcases hfound with ⟨a, ha, hfind⟩ | ⟨q, pos, left, hq, hexplore⟩
    · rcases method_cases hmethod with ⟨hreg, hmethod⟩ | ⟨-, q, -, hmethod⟩
      · obtain rfl : a = Automaton.ofExpr _ := Method.automaton.inj (ha.symm.trans hmethod)
        rw [Automaton.find_eq_head _ _ hstart] at hfind
        obtain ⟨p, hp, hr⟩ := List.mem_flatMap.mp (List.mem_of_head? hfind)
        obtain ⟨hle, hlt⟩ := List.mem_range'_1.mp hp
        obtain ⟨w, hwalk, hslots⟩ :=
          Automaton.walk_of_mem_edgeRuns (t := ⟨text, origin⟩) hlinks hreg hr
        exact ⟨p, w, hle, by omega, hwalk, hslots⟩
      · rw [ha] at hmethod
        cases hmethod
    · rcases method_cases hmethod with ⟨-, hmethod⟩ | ⟨-, p, hp, hmethod⟩
      · rw [hq] at hmethod
        cases hmethod
      · obtain rfl : q = p.anywhere := Method.backtracking.inj (hq.symm.trans hmethod)
        have hway := Subject.explore_tells ⟨text, origin⟩ budget
          (some ⟨[.plan p.anywhere], start, []⟩) []
        rw [hexplore, Subject.Tells, Subject.openWays_single] at hway
        obtain ⟨place, v, hle, hsize, hv, heq⟩ :=
          mem_ways_anywhere (t := ⟨text, origin⟩) hstart (List.mem_of_head? hway)
        exact ⟨place, v, hle, hsize, Plan.walk_of_mem_ways hlinks happart hp hv,
          (Prod.mk.inj heq).2⟩
  have hend : (Automaton.complete w.2 w.1).get? 1 = some w.1 := by
    rw [Automaton.complete, Slots.get?_cons, if_pos rfl]
  have hw : w.1 = m.stop := Option.some.inj (hend.symm.trans (hslots ▸ hstop))
  rw [← hw]
  exact ⟨p, w.2, hle, hsize, hwalk, hslots, hm⟩

end CodeShape.Regex
