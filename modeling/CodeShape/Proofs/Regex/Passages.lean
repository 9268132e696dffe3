import CodeShape.Proofs.Regex.AutomatonWays
import CodeShape.Proofs.Regex.Numbering

/-!
# Runs through the fragment of any expression

An automaton runs along the ways of an expression only if each round of an unlimited repetition
takes a character (`Automaton.builds_fragment`). Of any other expression less is true, but enough to
separate it from what stands around it: a run that enters its fragment leaves it by one of the edges
onward, not before the position at which it entered, and has then set no slots but those of the
groups in the expression (`Automaton.roams_fragment`).

This needs only what each edge of a fragment does, `Edge.Stays`. That edges of one fragment may lead
on to another one is `Edge.Stays.trans`, and everything else follows from it, repetitions included.
-/

namespace CodeShape.Regex

theorem Expr.bounded_of_progressing {e : Expr} (h : e.progressing = true) : e.bounded = true := by
  induction e with
  | cat a b iha ihb | alt a b iha ihb =>
    obtain ⟨ha, hb⟩ := (Bool.and_eq_true _ _).mp h
    exact Bool.and_eq_true_iff.mpr ⟨iha ha, ihb hb⟩
  | parens e ih | group _ e ih | look _ _ e ih | atomic e ih => exact ih h
  | repeated lo hi greedy e ih =>
    simp only [progressing, Bool.and_eq_true] at h
    exact Bool.and_eq_true_iff.mpr ⟨h.1.2, ih h.1.1⟩
  | empty | chars _ | assert _ | backref _ | keepOut | searchStart => rfl

/-- From one position and slots to others that may be reached by setting slots of the given groups. -/
structure Roams (size : Nat) (gs : List Nat) (v w : Way) : Prop where
  le : v.1 ≤ w.1
  within : w.1 = v.1 ∨ w.1 ≤ size
  keeps : ∀ slot, slot / 2 ∉ gs → w.2.get? slot = v.2.get? slot

namespace Roams

variable {size : Nat} {gs hs : List Nat} {u v w : Way}

theorem refl (size : Nat) (gs : List Nat) (w : Way) : Roams size gs w w :=
  ⟨Nat.le_refl _, .inl rfl, fun _ _ => rfl⟩

theorem trans (h : Roams size gs u v) (h' : Roams size gs v w) : Roams size gs u w := by
  refine ⟨Nat.le_trans h.le h'.le, ?_, fun slot hslot => ?_⟩
  · rcases h'.within with heq | hle
    · rw [heq]
      exact h.within
    · exact .inr hle
  · rw [h'.keeps slot hslot, h.keeps slot hslot]

theorem mono (h : Roams size gs v w) (hle : gs ⊆ hs) : Roams size hs v w :=
  ⟨h.le, h.within, fun slot hslot => h.keeps slot fun hmem => hslot (hle hmem)⟩

end Roams

/-- Marking slots of the given groups changes no others. -/
theorem Slots.get?_mark {gs : List Nat} (s : Slots) {slots : List Nat}
    (h : ∀ slot ∈ slots, slot / 2 ∈ gs) (pos : Nat) {slot : Nat} (hslot : slot / 2 ∉ gs) :
    (s.mark slots pos).get? slot = s.get? slot := by
  induction slots generalizing s with
  | nil => rfl
  | cons k slots ih =>
    obtain ⟨hk, hslots⟩ := List.forall_mem_cons.mp h
    change (Slots.mark ((k, some pos) :: s) slots pos).get? slot = _
    rw [ih _ hslots, Slots.get?_cons, if_neg]
    rintro rfl
    exact hslot hk

/-! ## Edges of a fragment -/

/-- The edge leads to one of the leaves `first, …, first + size - 1`, or it is one of the edges onward
with more conditions; it sets no slots but those of the given groups, and those that the edge onward
sets. -/
inductive Edge.Stays (gs : List Nat) (first size : Nat) (onward : List Edge) (e : Edge) : Prop
  | inside {leaf : Nat} (hleaf : e.leaf = some leaf) (hle : first ≤ leaf)
      (hlt : leaf < first + size) (hslots : ∀ slot ∈ e.slots, slot / 2 ∈ gs) :
      Stays gs first size onward e
  | onward {o : Edge} {pre : List Nat} (ho : o ∈ onward) (hleaf : e.leaf = o.leaf)
      (hconditions : o.conditions ⊆ e.conditions) (hslots : e.slots = pre ++ o.slots)
      (hpre : ∀ slot ∈ pre, slot / 2 ∈ gs) : Stays gs first size onward e

namespace Edge

variable {gs hs : List Nat} {first size first' size' : Nat} {between onward : List Edge} {e : Edge}

theorem stays_of_mem (h : e ∈ onward) : e.Stays gs first size onward :=
  .onward h rfl (List.Subset.refl _) (List.nil_append _).symm nofun

theorem Stays.mono (h : e.Stays gs first' size' onward) (hle : gs ⊆ hs) (hfirst : first ≤ first')
    (hsize : first' + size' ≤ first + size) : e.Stays hs first size onward := by
  cases h with
  | inside hleaf hge hlt hslots =>
    exact .inside hleaf (Nat.le_trans hfirst hge) (Nat.lt_of_lt_of_le hlt hsize)
      fun slot hslot => hle (hslots slot hslot)
  | onward ho hleaf hconditions hslots hpre =>
    exact .onward ho hleaf hconditions hslots fun slot hslot => hle (hpre slot hslot)

/-- An edge that leads on to edges that stay stays. -/
theorem Stays.trans (h : e.Stays gs first size between)
    (hbetween : ∀ o ∈ between, o.Stays gs first size onward) : e.Stays gs first size onward := by
  cases h with
  | inside hleaf hge hlt hslots => exact .inside hleaf hge hlt hslots
  | @onward o pre ho hleaf hconditions hslots hpre =>
    cases hbetween o ho with
    | inside hleaf' hge hlt hslots' =>
      refine .inside (hleaf.trans hleaf') hge hlt ?_
      rw [hslots]
      exact List.forall_mem_append.mpr ⟨hpre, hslots'⟩
    | @onward o' pre' ho' hleaf' hconditions' hslots' hpre' =>
      refine .onward ho' (hleaf.trans hleaf')
        (List.Subset.trans hconditions' hconditions) ?_ (List.forall_mem_append.mpr ⟨hpre, hpre'⟩)
      rw [hslots, hslots', List.append_assoc]

theorem Stays.setting {slot : Nat} (h : e.Stays gs first size onward) (hslot : slot / 2 ∈ gs) :
    (e.setting slot).Stays gs first size onward := by
  cases h with
  | inside hleaf hge hlt hslots =>
    exact .inside hleaf hge hlt (List.forall_mem_cons.mpr ⟨hslot, hslots⟩)
  | @onward o pre ho hleaf hconditions hslots hpre =>
    have hslots' : (e.setting slot).slots = (slot :: pre) ++ o.slots :=
      congrArg (List.cons slot) hslots
    exact .onward ho hleaf hconditions hslots' (List.forall_mem_cons.mpr ⟨hslot, hpre⟩)

theorem Stays.requiring (h : e.Stays gs first size onward) (cond : Assertion) :
    (e.requiring cond).Stays gs first size onward := by
  cases h with
  | inside hleaf hge hlt hslots => exact .inside hleaf hge hlt hslots
  | onward ho hleaf hconditions hslots hpre =>
    exact .onward ho hleaf (List.subset_cons_of_subset cond hconditions) hslots hpre

end Edge

namespace Automaton

/-- The builder makes `size` leaves, and all edges of what it builds stay. -/
structure Contains (gs : List Nat) (size : Nat) (body : Builder) : Prop where
  length : ∀ first onward, (body first onward).leaves.length = size
  start : ∀ first onward, ∀ e ∈ (body first onward).start, e.Stays gs first size onward
  next : ∀ first onward, ∀ l ∈ (body first onward).leaves, ∀ e ∈ l.next,
    e.Stays gs first size onward

variable {gs hs : List Nat} {m n size : Nat} {p q body : Builder}

theorem contains_pure (gs : List Nat) : Contains gs 0 fun _ onward => ⟨onward, []⟩ where
  length _ _ := rfl
  start _ _ _ he := Edge.stays_of_mem he
  next _ _ _ hl := absurd hl List.not_mem_nil

theorem Contains.mono (h : Contains gs size body) (hle : gs ⊆ hs) : Contains hs size body where
  length := h.length
  start first onward e he := (h.start first onward e he).mono hle (Nat.le_refl _) (Nat.le_refl _)
  next first onward l hl e he :=
    (h.next first onward l hl e he).mono hle (Nat.le_refl _) (Nat.le_refl _)

theorem Contains.andThen (hp : Contains gs m p) (hq : Contains gs n q) :
    Contains gs (m + n) fun first onward =>
      ⟨(p first (q (first + m) onward).start).start,
        (p first (q (first + m) onward).start).leaves ++ (q (first + m) onward).leaves⟩ := by
  have hright {first : Nat} {onward : List Edge} {e : Edge}
      (he : e.Stays gs (first + m) n onward) : e.Stays gs first (m + n) onward :=
    he.mono (List.Subset.refl _) (Nat.le_add_right _ _) (Nat.le_of_eq (Nat.add_assoc _ _ _))
  have hleft {first : Nat} {onward : List Edge} {e : Edge}
      (he : e.Stays gs first m (q (first + m) onward).start) : e.Stays gs first (m + n) onward :=
    (he.mono (List.Subset.refl _) (Nat.le_refl _) (by omega)).trans fun o ho =>
      hright (hq.start _ _ o ho)
  refine ⟨fun first onward => ?_, fun first onward e he => hleft (hp.start _ _ e he),
    fun first onward l hl e he => ?_⟩
  · rw [List.length_append, hp.length, hq.length]
  · rcases List.mem_append.mp hl with hl | hl
    · exact hleft (hp.next _ _ l hl e he)
    · exact hright (hq.next _ _ l hl e he)

theorem Contains.alt (hp : Contains gs m p) (hq : Contains gs n q) :
    Contains gs (m + n) fun first onward =>
      ⟨(p first onward).start ++ (q (first + m) onward).start,
        (p first onward).leaves ++ (q (first + m) onward).leaves⟩ := by
  have hright {first : Nat} {onward : List Edge} {e : Edge}
      (he : e.Stays gs (first + m) n onward) : e.Stays gs first (m + n) onward :=
    he.mono (List.Subset.refl _) (Nat.le_add_right _ _) (Nat.le_of_eq (Nat.add_assoc _ _ _))
  have hleft {first : Nat} {onward : List Edge} {e : Edge}
      (he : e.Stays gs first m onward) : e.Stays gs first (m + n) onward :=
    he.mono (List.Subset.refl _) (Nat.le_refl _) (by omega)
  refine ⟨fun first onward => ?_, fun first onward e he => ?_, fun first onward l hl e he => ?_⟩
  · rw [List.length_append, hp.length, hq.length]
  · rcases List.mem_append.mp he with he | he
    · exact hleft (hp.start _ _ e he)
    · exact hright (hq.start _ _ e he)
  · rcases List.mem_append.mp hl with hl | hl
    · exact hleft (hp.next _ _ l hl e he)
    · exact hright (hq.next _ _ l hl e he)

theorem Contains.captured (hp : Contains gs size p) (i : Nat) :
    Contains (i :: gs) size fun first onward =>
      ⟨(p first (onward.map (.setting (2 * i + 1)))).start.map (.setting (2 * i)),
        (p first (onward.map (.setting (2 * i + 1)))).leaves⟩ := by
  have hinner {first : Nat} {onward : List Edge} {e : Edge}
      (he : e.Stays gs first size (onward.map (.setting (2 * i + 1)))) :
      e.Stays (i :: gs) first size onward := by
    refine (he.mono (List.subset_cons_self _ _) (Nat.le_refl _) (Nat.le_refl _)).trans
      fun o ho => ?_
    obtain ⟨o', ho', rfl⟩ := List.mem_map.mp ho
    refine (Edge.stays_of_mem ho').setting ?_
    rw [show (2 * i + 1) / 2 = i by omega]
    exact List.mem_cons_self
  refine ⟨fun first onward => hp.length _ _, fun first onward e he => ?_,
    fun first onward l hl e he => hinner (hp.next _ _ l hl e he)⟩
  obtain ⟨e', he', rfl⟩ := List.mem_map.mp he
  refine (hinner (hp.start _ _ e' he')).setting ?_
  rw [Nat.mul_div_cancel_left i Nat.two_pos]
  exact List.mem_cons_self

theorem Contains.copies (hb : Contains gs size body) :
    ∀ n, Contains gs (n * size) (copies size body n)
  | 0 => by
    rw [Nat.zero_mul]
    exact contains_pure gs
  | n + 1 => by
    rw [Nat.succ_mul, Nat.add_comm (n * size)]
    exact hb.andThen (Contains.copies hb n)

theorem mem_prefer {greedy : Bool} {again onward : List Edge} {e : Edge} :
    e ∈ prefer greedy again onward ↔ e ∈ again ∨ e ∈ onward := by
  cases greedy
  · exact List.mem_append.trans or_comm
  · exact List.mem_append

theorem Contains.optionals (hb : Contains gs size body) (greedy : Bool) :
    ∀ n, Contains gs (n * size) (optionals greedy size body n)
  | 0 => by
    rw [Nat.zero_mul]
    exact contains_pure gs
  | n + 1 => by
    have hmore := hb.andThen (Contains.optionals hb greedy n)
    rw [Nat.succ_mul, Nat.add_comm (n * size)]
    refine ⟨hmore.length, fun first onward e he => ?_, hmore.next⟩
    rcases mem_prefer.mp he with he | he
    · exact hmore.start first onward e he
    · exact Edge.stays_of_mem he

/-- Going round again stays. -/
theorem Contains.loop (hb : Contains gs size body) (greedy : Bool) (first : Nat)
    (onward : List Edge) :
    ∀ e ∈ prefer greedy (body first []).start onward, e.Stays gs first size onward := by
  intro e he
  rcases mem_prefer.mp he with he | he
  · exact (hb.start first [] e he).trans nofun
  · exact Edge.stays_of_mem he

theorem Contains.plus (hb : Contains gs size body) (greedy : Bool) :
    Contains gs size (plus greedy body) where
  length _ _ := hb.length _ _
  start first onward e he := hb.start first onward e he
  next first onward l hl e he := (hb.next _ _ l hl e he).trans (hb.loop greedy first onward)

theorem Contains.star (hb : Contains gs size body) (greedy : Bool) :
    Contains gs size (star greedy body) := by
  refine ⟨fun _ _ => hb.length _ _, fun first onward e he => ?_, (hb.plus greedy).next⟩
  cases greedy with
  | true =>
    rcases List.mem_append.mp he with he | he
    · exact hb.start first onward e he
    · exact Edge.stays_of_mem he
  | false => exact hb.loop false first onward e he

/-- All edges of the fragment of an expression stay. -/
theorem contains_fragment (e : Expr) (h : e.bounded = true) :
    Contains e.marks (leafCount e) (fragment e) := by
  induction e with
  | empty | look _ _ _ _ | backref _ | keepOut | searchStart => exact contains_pure _
  | chars set =>
    refine ⟨fun _ _ => rfl, fun first onward e he => ?_, fun first onward l hl e he => ?_⟩
    · rw [List.mem_singleton.mp he]
      exact .inside rfl (Nat.le_refl _) (Nat.lt_succ_self _) nofun
    · rw [List.mem_singleton.mp hl] at he
      exact Edge.stays_of_mem he
  | assert cond =>
    refine ⟨fun _ _ => rfl, fun first onward e he => ?_, nofun⟩
    obtain ⟨o, ho, rfl⟩ := List.mem_map.mp he
    exact (Edge.stays_of_mem ho).requiring cond
  | cat a b iha ihb =>
    obtain ⟨ha, hb⟩ := (Bool.and_eq_true _ _).mp h
    exact ((iha ha).mono (List.subset_append_left _ _)).andThen
      ((ihb hb).mono (List.subset_append_right _ _))
  | alt a b iha ihb =>
    obtain ⟨ha, hb⟩ := (Bool.and_eq_true _ _).mp h
    exact ((iha ha).mono (List.subset_append_left _ _)).alt
      ((ihb hb).mono (List.subset_append_right _ _))
  | parens e ih => exact ih h
  | atomic e ih => exact ih h
  | group i e ih => exact (ih h).captured i
  | repeated lo hi greedy e ih =>
    obtain ⟨hlimits, he⟩ := (Bool.and_eq_true _ _).mp h
    have hbody := ih he
    cases hi with
    | some hi =>
      -- copies for the rounds that have to follow, then as many more that may
      have hle : lo ≤ hi := of_decide_eq_true hlimits
      have hsize : leafCount (.repeated lo (some hi) greedy e)
          = lo * leafCount e + (hi - lo) * leafCount e := by
        rw [← Nat.add_mul, Nat.add_sub_cancel' hle]
        rfl
      rw [hsize]
      exact (hbody.copies lo).andThen (hbody.optionals greedy (hi - lo))
    | none =>
      -- a loop for the last of the rounds that have to follow, or for all of them
      cases lo with
      | zero =>
        have hsize : leafCount (.repeated 0 none greedy e) = leafCount e := Nat.one_mul _
        rw [hsize]
        exact hbody.star greedy
      | succ lo =>
        have hsize : leafCount (.repeated (lo + 1) none greedy e)
            = lo * leafCount e + leafCount e := by
          rw [← Nat.succ_mul]
          exact congrArg (· * leafCount e) (Nat.max_eq_left (Nat.succ_le_succ (Nat.zero_le lo)))
        rw [hsize]
        exact (hbody.copies lo).andThen (hbody.plus greedy)

/-! ## Runs -/

variable {a : Automaton} {text : Array Char} {pos : Nat} {slots r : Slots} {first : Nat}
  {onward : List Edge}

theorem mem_edgeRuns {edges : List Edge} :
    r ∈ a.edgeRuns text edges pos slots ↔ ∃ e ∈ edges, r ∈ a.edgeRuns text [e] pos slots := by
  simp only [edgeRuns, List.mem_flatMap, List.mem_singleton, exists_eq_left]

/-- A run along an edge onward that sets more slots before it. -/
theorem mem_edgeRuns_onward {e o : Edge} {pre : List Nat} (hleaf : e.leaf = o.leaf)
    (hconditions : o.conditions ⊆ e.conditions) (hslots : e.slots = pre ++ o.slots)
    (hr : r ∈ a.edgeRuns text [e] pos slots) :
    r ∈ a.edgeRuns text [o] pos (slots.mark pre pos) := by
  by_cases hholds : e.conditions.all (·.holds text pos) = true
  · have hholds' : o.conditions.all (·.holds text pos) = true :=
      List.all_eq_true.mpr fun cond hcond => List.all_eq_true.mp hholds cond (hconditions hcond)
    have hmark : slots.mark e.slots pos = (slots.mark pre pos).mark o.slots pos := by
      rw [hslots, Slots.mark, List.foldl_append]
      rfl
    cases ho : o.leaf with
    | none =>
      rw [edgeRuns_accept hholds (hleaf.trans ho), hmark] at hr
      rwa [edgeRuns_accept hholds' ho]
    | some leaf =>
      rw [edgeRuns_enter hholds (hleaf.trans ho), hmark] at hr
      rwa [edgeRuns_enter hholds' ho]
  · rw [edgeRuns_blocked hholds] at hr
    exact absurd hr List.not_mem_nil

/-- A run from a leaf takes a character and goes on along an edge of the leaf. -/
theorem mem_runs {leaf : Nat} (hr : r ∈ a.runs text leaf pos slots) :
    pos < text.size ∧
      ∃ l, a.leaves[leaf]? = some l ∧ r ∈ a.edgeRuns text l.next (pos + 1) slots := by
  rcases Nat.lt_or_ge pos text.size with hlt | hge
  · rw [runs_of_lt hlt] at hr
    split at hr
    · exact absurd hr List.not_mem_nil
    next l hl =>
      split at hr
      · exact ⟨hlt, l, hl, hr⟩
      · exact absurd hr List.not_mem_nil
  · rw [runs_of_size_le hge] at hr
    exact absurd hr List.not_mem_nil

/-- A run along an edge that stays leaves by one of the edges onward. -/
theorem roams_of_stays {leaves : List Leaf} {pos : Nat} {slots : Slots}
    (hembed : a.Embedded first leaves) (hsize : leaves.length = size)
    (hnext : ∀ l ∈ leaves, ∀ e ∈ l.next, e.Stays gs first size onward) {e : Edge}
    (he : e.Stays gs first size onward) (hr : r ∈ a.edgeRuns text [e] pos slots) :
    ∃ w, Roams text.size gs (pos, slots) w ∧ r ∈ a.edgeRuns text onward w.1 w.2 := by
  have hmark {pre : List Nat} (hpre : ∀ slot ∈ pre, slot / 2 ∈ gs) :
      Roams text.size gs (pos, slots) (pos, slots.mark pre pos) :=
    ⟨Nat.le_refl _, .inl rfl, fun _ hslot => Slots.get?_mark slots hpre pos hslot⟩
  cases he with
  | @inside leaf hleaf hge hlt hslots =>
    by_cases hholds : e.conditions.all (·.holds text pos) = true
    · rw [edgeRuns_enter hholds hleaf] at hr
      obtain ⟨hpos, l, hl, hr⟩ := mem_runs hr
      have hmem : l ∈ leaves := by
        have hk : leaf - first < leaves.length := by omega
        have hfound := hembed _ _ (List.getElem?_eq_getElem hk)
        rw [Nat.add_sub_cancel' hge, hl] at hfound
        exact Option.some.inj hfound ▸ List.getElem_mem hk
      obtain ⟨o, ho, hr⟩ := mem_edgeRuns.mp hr
      obtain ⟨w, hw, hr⟩ := roams_of_stays hembed hsize hnext (hnext l hmem o ho) hr
      have hstep : Roams text.size gs (pos, slots.mark e.slots pos)
          (pos + 1, slots.mark e.slots pos) := ⟨Nat.le_succ pos, .inr hpos, fun _ _ => rfl⟩
      exact ⟨w, ((hmark hslots).trans hstep).trans hw, hr⟩
    · rw [edgeRuns_blocked hholds] at hr
      exact absurd hr List.not_mem_nil
  | @onward o pre ho hleaf hconditions hslots hpre =>
    exact ⟨_, hmark hpre,
      mem_edgeRuns.mpr ⟨o, ho, mem_edgeRuns_onward hleaf hconditions hslots hr⟩⟩
termination_by text.size - pos

/-- **A run that enters the fragment of an expression leaves it by one of the edges onward**, and has
set no slots but those that the expression marks. -/
theorem roams_fragment {e : Expr} (h : e.bounded = true)
    (hembed : a.Embedded first (fragment e first onward).leaves)
    (hr : r ∈ a.edgeRuns text (fragment e first onward).start pos slots) :
    ∃ w, Roams text.size e.marks (pos, slots) w ∧ r ∈ a.edgeRuns text onward w.1 w.2 := by
  have hcontains := contains_fragment e h
  obtain ⟨edge, hedge, hr⟩ := mem_edgeRuns.mp hr
  exact roams_of_stays hembed (hcontains.length first onward) (hcontains.next first onward)
    (hcontains.start first onward edge hedge) hr

end Automaton

end CodeShape.Regex
