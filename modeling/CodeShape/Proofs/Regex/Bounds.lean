import CodeShape.Proofs.Regex.SearchWays

/-!
# What a search finds lies within the text

For orderly expressions this is part of what `search_found` says. Here it is proved for every
expression that can be searched for, be it as crooked as lookarounds and `\K` allow
(`search_bounds`).

A run of an automaton is complete behind the place where it began and within the text
(`Automaton.stop_of_mem_edgeRuns`). A plan does go back in the text, but only inside of a lookaround,
which returns to where it began: the plan of an expression is forward (`Plan.ofExpr_serves`), and
no way of a forward plan ends before it begins (`Plan.ways_within`). Where the match is reported to
begin does not matter, since it is never reported to begin behind its end.
-/

namespace CodeShape.Regex

namespace Automaton

variable {a : Automaton} {text : Array Char} {pos : Nat}

/-- A run is complete behind the position at which it reached a leaf, and within the text. -/
theorem stop_of_mem_runs {leaf : Nat} {slots r : Slots} (hr : r ∈ a.runs text leaf pos slots) :
    ∃ stop s, r = complete s stop ∧ pos ≤ stop ∧ stop ≤ text.size := by
  fun_induction a.runs text leaf pos slots with
  | case1 leaf pos slots hlt hleaf => exact absurd hr List.not_mem_nil
  | case2 leaf pos slots hlt l hleaf hset ih =>
    obtain ⟨e, -, hr⟩ := List.mem_flatMap.mp hr
    split at hr
    next hcond =>
      cases hnext : e.leaf with
      | none =>
        rw [hnext] at hr
        rw [List.mem_singleton.mp hr]
        exact ⟨pos + 1, _, rfl, Nat.le_succ pos, hlt⟩
      | some next =>
        rw [hnext] at hr
        obtain ⟨stop, s, hs, hle, hsize⟩ := ih e next hr
        exact ⟨stop, s, hs, Nat.le_of_succ_le hle, hsize⟩
    next => exact absurd hr List.not_mem_nil
  | case3 leaf pos slots hlt l hleaf hset => exact absurd hr List.not_mem_nil
  | case4 leaf pos slots hlt => exact absurd hr List.not_mem_nil

/-- A run that begins at a position is complete there or behind it. -/
theorem stop_of_mem_edgeRuns {edges : List Edge} {slots r : Slots}
    (hr : r ∈ a.edgeRuns text edges pos slots) :
    ∃ stop s, r = complete s stop ∧ pos ≤ stop ∧ (stop = pos ∨ stop ≤ text.size) := by
  obtain ⟨e, -, hr⟩ := List.mem_flatMap.mp hr
  split at hr
  next =>
    cases hnext : e.leaf with
    | none =>
      rw [hnext] at hr
      rw [List.mem_singleton.mp hr]
      exact ⟨pos, _, rfl, Nat.le_refl pos, .inl rfl⟩
    | some next =>
      rw [hnext] at hr
      obtain ⟨stop, s, hs, hle, hsize⟩ := stop_of_mem_runs hr
      exact ⟨stop, s, hs, hle, .inr hsize⟩
  next => exact absurd hr List.not_mem_nil

/-- What an automaton finds lies between where it began to search and the end of the text. -/
theorem stop_of_find {slots : Slots} (hpos : pos ≤ text.size)
    (hfind : a.find text false pos = some slots) :
    ∃ stop s, slots = complete s stop ∧ pos ≤ stop ∧ stop ≤ text.size := by
  rw [find_eq_head a text hpos] at hfind
  obtain ⟨p, hp, hr⟩ := List.mem_flatMap.mp (List.mem_of_head? hfind)
  obtain ⟨hle, hlt⟩ := List.mem_range'_1.mp hp
  obtain ⟨stop, s, hs, hstop, hsize⟩ := stop_of_mem_edgeRuns hr
  refine ⟨stop, s, hs, Nat.le_trans hle hstop, ?_⟩
  omega

end Automaton

/-! ## Plans -/

namespace Plan

/-- A plan that never goes back, but to where a lookaround began. -/
@[grind =]
def isForward : Plan → Bool
  | back _ => false
  | cat p q | alt p q => p.isForward && q.isForward
  | group _ p | repeated _ _ _ p | atomic p => p.isForward
  | nothing | delegate .. | chars _ | assert _ | peek _ | forbid _ | copyOf _ | keepOut
  | searchStart => true

/-- The plan does what a plan for an expression with the given marks may do: it is forward and sets no
slots but those of the marks. -/
structure Serves (gs : List Nat) (p : Plan) : Prop where
  forward : p.isForward = true
  marks : p.marks ⊆ gs

variable {gs hs : List Nat} {p q : Plan} {ps : List Plan} {es : List Expr}

theorem serves_of_marks_eq_nil (hforward : p.isForward = true) (hmarks : p.marks = []) :
    p.Serves gs :=
  ⟨hforward, hmarks ▸ List.nil_subset gs⟩

theorem Serves.mono (h : p.Serves gs) (hle : gs ⊆ hs) : p.Serves hs :=
  ⟨h.forward, List.Subset.trans h.marks hle⟩

theorem Serves.cat (hp : p.Serves gs) (hq : q.Serves gs) : (cat p q).Serves gs := by
  refine ⟨?_, List.append_subset.mpr ⟨hp.marks, hq.marks⟩⟩
  rw [isForward, hp.forward, hq.forward]
  rfl

theorem Serves.alt (hp : p.Serves gs) (hq : q.Serves gs) : (alt p q).Serves gs := by
  refine ⟨?_, List.append_subset.mpr ⟨hp.marks, hq.marks⟩⟩
  rw [isForward, hp.forward, hq.forward]
  rfl

theorem cats_serves (h : ∀ p ∈ ps, p.Serves gs) : (cats ps).Serves gs := by
  induction ps with
  | nil => exact serves_of_marks_eq_nil rfl rfl
  | cons p ps ih =>
    obtain ⟨hp, hps⟩ := List.forall_mem_cons.mp h
    cases ps with
    | nil => exact hp
    | cons q ps => exact hp.cat (ih hps)

theorem alts_serves (h : ∀ p ∈ ps, p.Serves gs) : (alts ps).Serves gs := by
  induction ps with
  | nil => exact serves_of_marks_eq_nil rfl rfl
  | cons p ps ih =>
    obtain ⟨hp, hps⟩ := List.forall_mem_cons.mp h
    cases ps with
    | nil => exact hp
    | cons q ps => exact hp.alt (ih hps)

theorem delegating_serves (e : Expr) : (delegating e).Serves e.marks :=
  ⟨rfl, e.groups_subset_marks⟩

theorem delegated_serves (h : ∀ e ∈ es, e.marks ⊆ gs) : ∀ p ∈ delegated es, p.Serves gs := by
  cases es with
  | nil => exact nofun
  | cons e es =>
    refine List.forall_mem_singleton.mpr ⟨rfl, ?_⟩
    change (Expr.cats (e :: es)).groups ⊆ gs
    rw [Expr.groups_cats]
    intro g hg
    obtain ⟨x, hx, hg⟩ := List.mem_flatMap.mp hg
    exact h x hx (x.groups_subset_marks hg)

theorem sequence_serves (recalled : List Nat) (delicate : Bool) {items : List Expr}
    (hitems : ∀ e ∈ items, e.marks ⊆ gs) (h : ∀ p ∈ ps, p.Serves gs) :
    (sequence recalled delicate items ps).Serves gs := by
  refine cats_serves fun p hp => ?_
  rcases List.mem_append.mp hp with hp | hp
  · rcases List.mem_append.mp hp with hp | hp
    · exact delegated_serves (fun e he => hitems e (List.mem_of_mem_take he)) p hp
    · exact h p (List.mem_of_mem_take (List.mem_of_mem_drop hp))
  · exact delegated_serves (fun e he => hitems e (List.mem_of_mem_drop he)) p hp

/-- A lookaround returns to where it began, wherever its part may go. -/
theorem lookaround_serves (negated : Bool) (h : p.marks ⊆ gs) :
    (lookaround negated p).Serves gs := by
  cases negated <;> exact ⟨rfl, h⟩

/-- What comes out, if anything does, has a property. -/
def Yields {α : Type} (P : α → Prop) (x : Except Fault α) : Prop :=
  ∀ a, x = .ok a → P a

theorem yields_ok {α : Type} {P : α → Prop} {a : α} (h : P a) : Yields P (.ok a) := by
  rintro _ ⟨⟩
  exact h

theorem Yields.mono {α : Type} {P Q : α → Prop} {x : Except Fault α} (h : Yields P x)
    (hle : ∀ a, P a → Q a) : Yields Q x :=
  fun a ha => hle a (h a ha)

theorem Yields.bind {α β : Type} {P : α → Prop} {Q : β → Prop} {x : Except Fault α}
    {f : α → Except Fault β} (hx : Yields P x) (hf : ∀ a, P a → Yields Q (f a)) :
    Yields Q (x >>= f) := by
  cases x with
  | error fault => exact nofun
  | ok a => exact hf a (hx a rfl)

theorem lookbehinds_serves (negated : Bool) {parts : List (Expr × Plan)}
    (h : ∀ part ∈ parts, part.2.marks ⊆ gs) :
    Yields (Serves gs) (lookbehinds negated parts) := by
  unfold lookbehinds
  refine Yields.bind (P := fun looks => ∀ p ∈ looks, p.Serves gs) ?_ fun looks hlooks => ?_
  · induction parts with
    | nil => exact yields_ok nofun
    | cons part parts ih =>
      obtain ⟨e, p⟩ := part
      obtain ⟨hp, hparts⟩ := List.forall_mem_cons.mp h
      rw [List.mapM_cons]
      refine Yields.bind (P := Serves gs) ?_ fun look hlook =>
        (ih hparts).bind fun looks hlooks => yields_ok (List.forall_mem_cons.mpr ⟨hlook, hlooks⟩)
      dsimp only
      split
      · exact yields_ok (lookaround_serves _ hp)
      · exact nofun
  · cases negated with
    | true => exact yields_ok (cats_serves hlooks)
    | false => exact yields_ok (alts_serves hlooks)

/-- The plans of the items of a sequence serve if those made for each of them do. -/
theorem ofItems_serves {recalled : List Nat} {e : Expr}
    (h : ∀ x ∈ e.items, Yields (Serves gs) (ofExpr recalled true x)) :
    Yields (∀ p ∈ ·, p.Serves gs) (ofItems recalled e) := by
  induction e with
  | cat a b _ ihb =>
    obtain ⟨ha, hb⟩ := List.forall_mem_cons.mp h
    rw [ofItems.eq_def]
    refine ha.bind fun p hp => ?_
    cases b with
    | cat b b' =>
      exact (ihb hb).bind fun ps hps => yields_ok (List.forall_mem_cons.mpr ⟨hp, hps⟩)
    | _ =>
      refine (hb _ List.mem_cons_self).bind fun q hq => yields_ok ?_
      exact List.forall_mem_cons.mpr ⟨hp, List.forall_mem_singleton.mpr hq⟩
  | _ =>
    rw [ofItems.eq_def]
    exact yields_ok nofun

/-- Whatever is made of an expression serves it: its plan, the plans of its items, if it is a sequence,
and the plans of its branches, if it is a choice. -/
structure Served (recalled : List Nat) (e : Expr) : Prop where
  plan : ∀ delicate, Yields (Serves e.marks) (ofExpr recalled delicate e)
  items : ∀ x ∈ e.items, Yields (Serves e.marks) (ofExpr recalled true x)
  branches : Yields (∀ part ∈ ·, part.2.marks ⊆ e.marks) (ofBranches recalled e)

variable {recalled : List Nat} {a b e : Expr}

/-- What is neither a sequence nor a choice is served if its own plan serves it. -/
theorem served_of_plan (hitems : e.items = [e]) (hbranches : ofBranches recalled e = .ok [])
    (h : ∀ delicate, Yields (Serves e.marks) (ofExpr recalled delicate e)) : Served recalled e := by
  refine ⟨h, ?_, ?_⟩
  · rw [hitems]
    exact List.forall_mem_singleton.mpr (h true)
  · rw [hbranches]
    exact yields_ok nofun

theorem served_cat (ha : Served recalled a) (hb : Served recalled b) :
    Served recalled (.cat a b) := by
  have hfirst : Yields (Serves (Expr.cat a b).marks) (ofExpr recalled true a) :=
    (ha.plan true).mono fun _ h => h.mono (List.subset_append_left _ _)
  have hitems : ∀ x ∈ b.items, Yields (Serves (Expr.cat a b).marks) (ofExpr recalled true x) :=
    fun x hx => (hb.items x hx).mono fun _ h => h.mono (List.subset_append_right _ _)
  refine ⟨fun delicate => ?_, List.forall_mem_cons.mpr ⟨hfirst, hitems⟩, ?_⟩
  · have hall : ∀ x ∈ (Expr.cat a b).items, x.marks ⊆ (Expr.cat a b).marks :=
      fun x hx => Expr.marks_of_mem_items hx
    rw [ofExpr]
    split
    · exact yields_ok (delegating_serves _)
    · refine hfirst.bind fun p hp => ?_
      have hrest := ofItems_serves hitems
      cases b with
      | cat b b' =>
        refine hrest.bind fun ps hps => yields_ok ?_
        exact sequence_serves _ _ hall (List.forall_mem_cons.mpr ⟨hp, hps⟩)
      | _ =>
        refine (hitems _ List.mem_cons_self).bind fun q hq => yields_ok ?_
        exact sequence_serves _ _ hall
          (List.forall_mem_cons.mpr ⟨hp, List.forall_mem_singleton.mpr hq⟩)
  · rw [ofBranches.eq_def]
    exact yields_ok nofun

theorem served_alt (ha : Served recalled a) (hb : Served recalled b) :
    Served recalled (.alt a b) := by
  have hone : ∀ delicate, Yields (Serves (Expr.alt a b).marks) (ofExpr recalled delicate a) :=
    fun _ => (ha.plan _).mono fun _ h => h.mono (List.subset_append_left _ _)
  have hother : ∀ delicate, Yields (Serves (Expr.alt a b).marks) (ofExpr recalled delicate b) :=
    fun _ => (hb.plan _).mono fun _ h => h.mono (List.subset_append_right _ _)
  have hplan : ∀ delicate, Yields (Serves (Expr.alt a b).marks)
      (ofExpr recalled delicate (.alt a b)) := by
    intro delicate
    rw [ofExpr]
    split
    · exact yields_ok (delegating_serves _)
    · exact (hone _).bind fun p hp => (hother _).bind fun q hq => yields_ok (hp.alt hq)
  refine ⟨hplan, List.forall_mem_singleton.mpr (hplan true), ?_⟩
  rw [ofBranches.eq_def]
  refine (hone false).bind fun p hp => ?_
  cases b with
  | alt b b' =>
    refine hb.branches.bind fun parts hparts => yields_ok (List.forall_mem_cons.mpr ⟨hp.marks, ?_⟩)
    exact fun part hpart =>
      List.Subset.trans (hparts part hpart) (List.subset_append_right _ _)
  | _ =>
    refine (hother false).bind fun q hq => yields_ok ?_
    exact List.forall_mem_cons.mpr ⟨hp.marks, List.forall_mem_singleton.mpr hq.marks⟩

theorem served_look (side : Side) (negated : Bool) (he : Served recalled e) :
    Served recalled (.look side negated e) := by
  refine served_of_plan rfl (by rw [ofBranches.eq_def]) fun delicate => ?_
  cases side with
  | ahead =>
    rw [ofExpr]
    split
    · exact yields_ok (delegating_serves _)
    · exact (he.plan false).bind fun p hp => yields_ok (lookaround_serves negated hp.marks)
  | behind =>
    rw [ofExpr]
    split
    · exact yields_ok (delegating_serves _)
    · refine (he.plan false).bind fun p hp => ?_
      split
      · exact yields_ok (lookaround_serves negated hp.marks)
      · refine he.branches.bind fun parts hparts => ?_
        split
        · rintro _ ⟨⟩
        · exact lookbehinds_serves negated hparts

/-- **The plan of an expression is forward and sets no slots but those that the expression marks.** -/
theorem ofExpr_serves (recalled : List Nat) (e : Expr) : Served recalled e := by
  induction e with
  | empty | chars _ | assert _ | backref _ | searchStart =>
    refine served_of_plan rfl (by rw [ofBranches.eq_def]) fun delicate => ?_
    rw [ofExpr]
    split
    · exact yields_ok (delegating_serves _)
    · exact yields_ok (serves_of_marks_eq_nil rfl rfl)
  | keepOut =>
    refine served_of_plan rfl (by rw [ofBranches.eq_def]) fun delicate => ?_
    rw [ofExpr]
    split
    · exact yields_ok (delegating_serves _)
    · exact yields_ok ⟨rfl, List.Subset.refl _⟩
  | cat a b iha ihb => exact served_cat iha ihb
  | alt a b iha ihb => exact served_alt iha ihb
  | parens e ih =>
    -- a choice in parentheses still has its alternatives as branches
    have hplan : ∀ delicate, Yields (Serves e.marks) (ofExpr recalled delicate (.parens e)) := by
      intro delicate
      rw [ofExpr]
      split
      · exact yields_ok (delegating_serves (.parens e))
      · exact ih.plan delicate
    refine ⟨hplan, List.forall_mem_singleton.mpr (hplan true), ?_⟩
    rw [ofBranches.eq_def]
    exact ih.branches
  | group i e ih =>
    refine served_of_plan rfl (by rw [ofBranches.eq_def]) fun delicate => ?_
    rw [ofExpr]
    split
    · exact yields_ok (delegating_serves _)
    · exact (ih.plan delicate).bind fun p hp =>
        yields_ok ⟨hp.forward, List.cons_subset_cons i hp.marks⟩
  | repeated lo hi greedy e ih =>
    refine served_of_plan rfl (by rw [ofBranches.eq_def]) fun delicate => ?_
    rw [ofExpr]
    split
    · exact yields_ok (delegating_serves _)
    · exact (ih.plan _).bind fun p hp => yields_ok ⟨hp.forward, hp.marks⟩
  | atomic e ih =>
    refine served_of_plan rfl (by rw [ofBranches.eq_def]) fun delicate => ?_
    rw [ofExpr]
    split
    · exact yields_ok (delegating_serves _)
    · exact (ih.plan false).bind fun p hp => yields_ok ⟨hp.forward, hp.marks⟩
  | look side negated e ih => exact served_look side negated ih

/-- No way of a forward plan goes backwards, and none ends behind the text. -/
theorem ways_within (t : Subject) {p : Plan} (h : p.isForward = true) :
    Ways.Within t.text.size (p.ways t) := by
  induction p with
  | nothing => exact Ways.within_pure _
  | delegate groups a =>
    intro pos slots w hw
    -- what an automaton finds is the end of one of its runs, and these only go forward
    obtain ⟨found, hfind, hw⟩ : ∃ found, a.find t.text true pos = some found ∧
        w ∈ ((found.get? 1).map fun stop =>
          (stop, Subject.delegatedSlots groups found slots)).toList := by
      change w ∈ (t.simple? (.delegate groups a) pos slots).toList at hw
      simp only [Subject.simple?] at hw
      split at hw
      next found hfind => exact ⟨found, hfind, hw⟩
      next => exact absurd hw List.not_mem_nil
    rw [Automaton.find_anchored_eq_head] at hfind
    obtain ⟨stop, s, rfl, hle, hsize⟩ :=
      Automaton.stop_of_mem_edgeRuns (List.mem_of_head? hfind)
    have hstop : (Automaton.complete s stop).get? 1 = some stop := by
      rw [Automaton.complete, Slots.get?_cons, if_pos rfl]
    rw [hstop, Option.map_some, Option.toList_some] at hw
    rw [List.mem_singleton.mp hw]
    exact ⟨hle, hsize⟩
  | chars set =>
    rw [ways_chars]
    exact Expr.ways_within t _
  | assert cond =>
    rw [ways_assert]
    exact Expr.ways_within t _
  | cat p q ihp ihq =>
    obtain ⟨hp, hq⟩ := (Bool.and_eq_true _ _).mp h
    exact (ihp hp).andThen (ihq hq)
  | alt p q ihp ihq =>
    obtain ⟨hp, hq⟩ := (Bool.and_eq_true _ _).mp h
    intro pos slots w hw
    rcases List.mem_append.mp hw with hw | hw
    · exact ihp hp pos slots w hw
    · exact ihq hq pos slots w hw
  | group i p ih =>
    intro pos slots w hw
    obtain ⟨v, hv, rfl⟩ := Ways.mem_captured.mp hw
    exact ih h pos _ v hv
  | repeated lo hi greedy p ih => exact (ih h).rounds _ _ _ _ _
  | back n => exact absurd h Bool.false_ne_true
  | peek p | forbid p =>
    intro pos slots w hw
    have hpos : w.1 = pos := Ways.pos_of_mem_looked hw
    exact ⟨Nat.le_of_eq hpos.symm, Or.inl hpos⟩
  | copyOf g =>
    rw [ways_copyOf]
    exact Expr.ways_within t _
  | atomic p ih =>
    intro pos slots w hw
    exact ih h pos slots w (List.mem_of_mem_take hw)
  | keepOut =>
    intro pos slots w hw
    rw [List.mem_singleton.mp hw]
    exact ⟨Nat.le_refl _, Or.inl rfl⟩
  | searchStart =>
    intro pos slots w hw
    change w ∈ (t.simple? .searchStart pos slots).toList at hw
    simp only [Subject.simple?] at hw
    split at hw
    · exact Ways.within_pure _ pos slots w hw
    · exact absurd hw List.not_mem_nil

end Plan

/-! ## Searches -/

/-- What a plan finds ends where group 0 does. -/
theorem get?_of_mem_ways_anywhere {t : Subject} {p : Plan} {pos : Nat} {w : Way}
    (hw : w ∈ p.anywhere.ways t pos []) : w.2.get? 1 = some w.1 := by
  obtain ⟨v, -, hw⟩ := Ways.mem_andThen.mp hw
  obtain ⟨u, -, rfl⟩ := Ways.mem_captured.mp hw
  rw [Slots.get?_cons, if_pos rfl]

/-- The place of a match is told by its slots, but it never begins behind its end. -/
theorem Match.of_ofSlots? {slots : Slots} {m : Match} (h : Match.ofSlots? slots = some m) :
    m.start ≤ m.stop ∧ slots.get? 1 = some m.stop := by
  obtain ⟨⟨i, j⟩, hspan, rfl⟩ := Option.map_eq_some_iff.mp h
  refine ⟨Nat.min_le_right _ _, ?_⟩
  unfold Slots.span? at hspan
  split at hspan
  next k l _ hl =>
    obtain ⟨-, rfl⟩ := Prod.mk.inj (Option.some.inj hspan)
    exact hl
  next => cases hspan

namespace Searcher

variable {s : Searcher} {e : Expr} {budget : Nat} {text : Array Char} {start : Nat}
  {origin : Option Nat}

/-- An answer that finds a match has read it off the slots. -/
theorem ofSlots?_of_answer {slots : Slots} {m : Match} (h : (match Match.ofSlots? slots with
    | some m => Answer.found m
    | none => .missing) = .found m) : Match.ofSlots? slots = some m := by
  cases hm : Match.ofSlots? slots with
  | none =>
    rw [hm] at h
    cases h
  | some m' =>
    rw [hm] at h
    exact congrArg some (Answer.found.inj h)

/-- What is found has been told by the slots of an automaton, or of a plan. -/
theorem slots_of_found {m : Match} (hfound : s.search budget text start origin = .found m) :
    ∃ slots, Match.ofSlots? slots = some m ∧
      ((∃ a, s.method = .automaton a ∧ a.find text false start = some slots) ∨
        ∃ p pos left, s.method = .backtracking p ∧
          (Subject.mk text origin).explore budget (some ⟨[.plan p], start, []⟩) []
            = .found pos slots left) := by
  unfold search at hfound
  cases hmethod : s.method with
  | automaton a =>
    rw [hmethod] at hfound
    dsimp only at hfound
    split at hfound
    next slots hfind => exact ⟨slots, ofSlots?_of_answer hfound, .inl ⟨a, rfl, hfind⟩⟩
    next => cases hfound
  | backtracking p =>
    rw [hmethod] at hfound
    dsimp only at hfound
    split at hfound
    next pos slots left hexplore =>
      exact ⟨slots, ofSlots?_of_answer hfound, .inr ⟨p, pos, left, rfl, hexplore⟩⟩
    next => cases hfound
    next => cases hfound

/-- **What a search finds lies within the text**: it does not begin behind its end, and it ends
neither before the search began nor behind the text. -/
theorem search_bounds (hmethod : Method.ofExpr e = .ok s.method) (hstart : start ≤ text.size)
    {m : Match} (hfound : s.search budget text start origin = .found m) :
    m.start ≤ m.stop ∧ start ≤ m.stop ∧ m.stop ≤ text.size := by
  obtain ⟨slots, hm, hslots⟩ := slots_of_found hfound
  obtain ⟨hle, hstop⟩ := Match.of_ofSlots? hm
  refine ⟨hle, ?_⟩
  rcases hslots with ⟨a, -, hfind⟩ | ⟨p, pos, left, hp, hexplore⟩
  · obtain ⟨stop, s, rfl, hle, hsize⟩ := Automaton.stop_of_find hstart hfind
    rw [Automaton.complete, Slots.get?_cons, if_pos rfl] at hstop
    rw [← Option.some.inj hstop]
    exact ⟨hle, hsize⟩
  · rcases method_cases hmethod with ⟨-, hm⟩ | ⟨-, q, hq, hm⟩
    · rw [hp] at hm
      cases hm
    obtain rfl : p = q.anywhere := Method.backtracking.inj (hp.symm.trans hm)
    have hway := Subject.explore_tells ⟨text, origin⟩ budget
      (some ⟨[.plan q.anywhere], start, []⟩) []
    rw [hexplore, Subject.Tells, Subject.openWays_single] at hway
    have hmem := List.mem_of_head? hway
    have hforward : q.anywhere.isForward = true :=
      ((Plan.ofExpr_serves e.recalledGroups e).plan true q hq).forward
    have hwithin := Plan.ways_within ⟨text, origin⟩ hforward start [] _ hmem
    obtain rfl : pos = m.stop :=
      Option.some.inj ((get?_of_mem_ways_anywhere hmem).symm.trans hstop)
    dsimp only at hwithin
    omega

end Searcher

end CodeShape.Regex
