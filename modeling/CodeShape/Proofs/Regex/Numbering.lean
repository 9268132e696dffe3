import CodeShape.Proofs.Regex.Lexemes
import CodeShape.Proofs.Regex.Marks

/-!
# Groups and their numbers

Groups are numbered in the order in which they are opened. So all groups of what has been read have
numbers between 1 and the number of groups, names are given to groups in order, and the limits of a
repetition are in order too, since others are refused (`Reader.take_proper`).

`Expr.shifted` raises the numbers of the groups of an expression, and forgets which groups it refers
to: that is all that can change when the expression stands behind others.
-/

namespace CodeShape.Regex

namespace Expr

/-! ## Limits in order -/

/-- Are the limits of all repetitions in order? -/
@[grind =]
def bounded : Expr → Bool
  | cat a b | alt a b => a.bounded && b.bounded
  | parens e | group _ e | look _ _ e | atomic e => e.bounded
  | repeated lo hi _ e => hi.all (lo ≤ ·) && e.bounded
  | empty | chars _ | assert _ | backref _ | keepOut | searchStart => true

/-- Does the expression let the match begin elsewhere? -/
@[grind =]
def movesStart : Expr → Bool
  | cat a b | alt a b => a.movesStart || b.movesStart
  | parens e | group _ e | repeated _ _ _ e | look _ _ e | atomic e => e.movesStart
  | keepOut => true
  | empty | chars _ | assert _ | backref _ | searchStart => false

theorem mem_marks_iff {g : Nat} (e : Expr) :
    g ∈ e.marks ↔ g ∈ e.groups ∨ g = 0 ∧ e.movesStart = true := by
  induction e with
  | cat a b iha ihb | alt a b iha ihb =>
    simp only [marks, groups, movesStart, List.mem_append, Bool.or_eq_true, iha, ihb]
    tauto
  | parens e ih | repeated _ _ _ e ih | look _ _ e ih | atomic e ih => exact ih
  | group i e ih =>
    simp only [marks, groups, movesStart, List.mem_cons, ih]
    tauto
  | keepOut => simp [marks, groups, movesStart]
  | empty | chars _ | assert _ | backref _ | searchStart => simp [marks, groups, movesStart]

/-- The expression is one of `n` groups, with all limits in order. -/
structure Proper (n : Nat) (e : Expr) : Prop where
  bounded : e.bounded = true
  groups : ∀ g ∈ e.groups, 0 < g ∧ g ≤ n

variable {n m k : Nat} {a b e : Expr} {es : List Expr}

theorem Proper.mono (h : e.Proper n) (hle : n ≤ m) : e.Proper m :=
  ⟨h.bounded, fun g hg => ⟨(h.groups g hg).1, Nat.le_trans (h.groups g hg).2 hle⟩⟩

theorem proper_of_groups_eq_nil (hbounded : e.bounded = true) (hgroups : e.groups = []) :
    e.Proper n :=
  ⟨hbounded, by rw [hgroups]; exact nofun⟩

theorem Proper.cat (ha : a.Proper n) (hb : b.Proper n) : (cat a b).Proper n :=
  ⟨Bool.and_eq_true_iff.mpr ⟨ha.bounded, hb.bounded⟩,
    List.forall_mem_append.mpr ⟨ha.groups, hb.groups⟩⟩

theorem Proper.alt (ha : a.Proper n) (hb : b.Proper n) : (alt a b).Proper n :=
  ⟨Bool.and_eq_true_iff.mpr ⟨ha.bounded, hb.bounded⟩,
    List.forall_mem_append.mpr ⟨ha.groups, hb.groups⟩⟩

theorem cats_proper (h : ∀ e ∈ es, e.Proper n) : (cats es).Proper n := by
  fun_induction cats es with
  | case1 => exact proper_of_groups_eq_nil rfl rfl
  | case2 e => exact h e (List.mem_singleton.mpr rfl)
  | case3 e rest _ ih =>
    obtain ⟨he, hrest⟩ := List.forall_mem_cons.mp h
    exact he.cat (ih hrest)

theorem alts_proper (h : ∀ e ∈ es, e.Proper n) : (alts es).Proper n := by
  fun_induction alts es with
  | case1 => exact proper_of_groups_eq_nil rfl rfl
  | case2 e => exact h e (List.mem_singleton.mpr rfl)
  | case3 e rest _ ih =>
    obtain ⟨he, hrest⟩ := List.forall_mem_cons.mp h
    exact he.alt (ih hrest)

/-! ## Shifted numbers -/

/-- The expression with the numbers of its groups raised by `k`, and without the numbers of the groups
that it refers to. -/
@[grind =]
def shifted (k : Nat) : Expr → Expr
  | cat a b => cat (a.shifted k) (b.shifted k)
  | alt a b => alt (a.shifted k) (b.shifted k)
  | parens e => parens (e.shifted k)
  | group i e => group (i + k) (e.shifted k)
  | repeated lo hi greedy e => repeated lo hi greedy (e.shifted k)
  | look side negated e => look side negated (e.shifted k)
  | atomic e => atomic (e.shifted k)
  | backref _ => backref 0
  | empty => empty
  | chars s => chars s
  | assert a => assert a
  | keepOut => keepOut
  | searchStart => searchStart

@[simp] theorem groups_shifted (k : Nat) (e : Expr) :
    (e.shifted k).groups = e.groups.map (· + k) := by
  induction e with
  | cat a b iha ihb | alt a b iha ihb => simp only [shifted, groups, List.map_append, iha, ihb]
  | parens e ih | repeated _ _ _ e ih | look _ _ e ih | atomic e ih => exact ih
  | group i e ih => simp only [shifted, groups, List.map_cons, ih]
  | empty | chars _ | assert _ | backref _ | keepOut | searchStart => rfl

@[simp] theorem bounded_shifted (k : Nat) (e : Expr) : (e.shifted k).bounded = e.bounded := by
  induction e with
  | cat a b iha ihb | alt a b iha ihb => simp only [shifted, bounded, iha, ihb]
  | parens e ih | group _ e ih | look _ _ e ih | atomic e ih => exact ih
  | repeated lo hi greedy e ih => simp only [shifted, bounded, ih]
  | empty | chars _ | assert _ | backref _ | keepOut | searchStart => rfl

@[simp] theorem movesStart_shifted (k : Nat) (e : Expr) :
    (e.shifted k).movesStart = e.movesStart := by
  induction e with
  | cat a b iha ihb | alt a b iha ihb => simp only [shifted, movesStart, iha, ihb]
  | parens e ih | group _ e ih | repeated _ _ _ e ih | look _ _ e ih | atomic e ih => exact ih
  | empty | chars _ | assert _ | backref _ | keepOut | searchStart => rfl

@[simp] theorem isBlank_shifted (k : Nat) (e : Expr) : (e.shifted k).isBlank = e.isBlank := by
  induction e with
  | parens e ih => exact ih
  | _ => rfl

theorem shifted_cats (k : Nat) (es : List Expr) :
    (cats es).shifted k = cats (es.map (shifted k)) := by
  fun_induction cats es with
  | case1 => rfl
  | case2 e => rfl
  | case3 e rest hrest ih =>
    rw [shifted, ih, List.map_cons, cats]
    exact fun h => hrest (List.map_eq_nil_iff.mp h)

theorem shifted_alts (k : Nat) (es : List Expr) :
    (alts es).shifted k = alts (es.map (shifted k)) := by
  fun_induction alts es with
  | case1 => rfl
  | case2 e => rfl
  | case3 e rest hrest ih =>
    rw [shifted, ih, List.map_cons, alts]
    exact fun h => hrest (List.map_eq_nil_iff.mp h)

/-- The groups of an expression with shifted numbers lie behind the others. -/
theorem marks_of_shifted {e' : Expr} (he : e.Proper n) (h : e'.shifted 0 = e.shifted k) {g : Nat}
    (hg : g ∈ e'.marks) : g = 0 ∧ e.movesStart = true ∨ k < g ∧ g ≤ n + k := by
  have hgroups := congrArg groups h
  have hmoves := congrArg movesStart h
  simp only [groups_shifted, movesStart_shifted, Nat.add_zero, List.map_id'] at hgroups hmoves
  rcases (mem_marks_iff e').mp hg with hg | ⟨hzero, hg⟩
  · rw [hgroups] at hg
    obtain ⟨i, hi, rfl⟩ := List.mem_map.mp hg
    have := he.groups i hi
    exact .inr (by omega)
  · exact .inl ⟨hzero, by rw [← hmoves]; exact hg⟩

end Expr

/-! ## What has been read -/

/-- All expressions of a level are proper. -/
def Level.Proper (n : Nat) (l : Level) : Prop :=
  ∀ e ∈ l.branches ++ l.items, e.Proper n

/-- A group has one of the numbers that have been given. -/
def Opening.Proper (n : Nat) : Opening → Prop
  | group i => 0 < i ∧ i ≤ n
  | parens _ | atomic | look .. => True

section Levels

variable {n m : Nat} {l : Level} {o : Opening} {e : Expr}

theorem Level.Proper.mono (h : l.Proper n) (hle : n ≤ m) : l.Proper m :=
  fun e he => (h e he).mono hle

theorem Opening.Proper.mono (h : o.Proper n) (hle : n ≤ m) : o.Proper m := by
  cases o with
  | group i => exact ⟨h.1, Nat.le_trans h.2 hle⟩
  | _ => trivial

theorem Level.proper_empty (n : Nat) : Level.Proper n {} := nofun

theorem Level.Proper.add (h : l.Proper n) (he : e.Proper n) : (l.add e).Proper n := by
  unfold Level.add
  split
  · exact h
  · intro e' he'
    obtain hmem | rfl : e' ∈ l.branches ++ l.items ∨ e' = e := by
      simp only [List.mem_append, List.mem_cons] at he' ⊢
      tauto
    · exact h e' hmem
    · exact he

theorem Level.Proper.branch (h : l.Proper n) : l.branch.Proper n := by
  intro e he
  unfold Level.branch at he
  rw [List.append_nil, List.mem_cons] at he
  rcases he with rfl | he
  · exact Expr.cats_proper fun e' he' =>
      h e' (List.mem_append_right _ (List.mem_reverse.mp he'))
  · exact h e (List.mem_append_left _ he)

theorem Level.Proper.expr (h : l.Proper n) : l.expr.Proper n :=
  Expr.alts_proper fun e he => h.branch e (List.mem_append_left _ (List.mem_reverse.mp he))

theorem Opening.Proper.close (h : o.Proper n) (he : e.Proper n) : (o.close e).Proper n := by
  cases o with
  | group i => exact ⟨he.bounded, List.forall_mem_cons.mpr ⟨h, he.groups⟩⟩
  | parens _ | atomic | look _ _ => exact ⟨he.bounded, he.groups⟩

end Levels

namespace Reader

/-- Everything that has been read is proper, and names have been given to groups in order. -/
structure Proper (r : Reader) : Prop where
  pending : ∀ e, r.pending = some e → e.Proper r.groups
  level : r.level.Proper r.groups
  outer : ∀ p ∈ r.outer, p.1.Proper r.groups ∧ p.2.Proper r.groups
  ordered : (r.names.map (·.2)).Pairwise (· > ·)
  named : ∀ p ∈ r.names, p.2 ≤ r.groups

variable {r s : Reader} {e : Expr} {o : Opening} {len fuel : Nat} {cs rest : List Char}

theorem proper_empty : Proper {} :=
  ⟨nofun, Level.proper_empty 0, nofun, List.Pairwise.nil, nofun⟩

theorem Proper.settle (h : r.Proper) : r.settle.Proper := by
  unfold Reader.settle
  split
  · exact h
  next e he => exact ⟨nofun, h.level.add (h.pending e he), h.outer, h.ordered, h.named⟩

theorem Proper.push (h : r.Proper) (he : e.Proper r.groups) : (r.push e).Proper := by
  have hsettle := h.settle
  refine ⟨?_, hsettle.level, hsettle.outer, hsettle.ordered, hsettle.named⟩
  intro e' he'
  obtain rfl : e = e' := Option.some.inj he'
  exact (settle_groups r).symm ▸ he

theorem Proper.openLevel (h : r.Proper) (ho : o.Proper r.groups) (hs : r.openLevel o = .ok s) :
    s.Proper := by
  have hsettle := h.settle
  obtain ⟨-, rfl⟩ := openLevel_ok_iff.mp hs
  refine ⟨hsettle.pending, Level.proper_empty _, List.forall_mem_cons.mpr ⟨⟨?_, hsettle.level⟩,
    hsettle.outer⟩, hsettle.ordered, hsettle.named⟩
  exact (settle_groups r).symm ▸ ho

/-- A group is opened with a number that is new. -/
theorem Proper.openGroup {name : Option (List Char)} (h : r.Proper)
    (hs : r.openGroup name = .ok s) : s.Proper := by
  unfold Reader.openGroup at hs
  dsimp only at hs
  have hle := Nat.le_succ r.groups
  refine Proper.openLevel ?_ (o := .group (r.groups + 1)) ⟨Nat.succ_pos _, Nat.le_refl _⟩ hs
  have hnamed : ∀ p ∈ r.names, p.2 ≤ r.groups + 1 := fun p hp => Nat.le_succ_of_le (h.named p hp)
  refine ⟨fun e he => (h.pending e he).mono hle, h.level.mono hle,
    fun p hp => ⟨(h.outer p hp).1.mono hle, (h.outer p hp).2.mono hle⟩, ?_, ?_⟩
  · cases name with
    | none => exact h.ordered
    | some n =>
      refine List.pairwise_cons.mpr ⟨fun i hi => ?_, h.ordered⟩
      obtain ⟨p, hp, rfl⟩ := List.mem_map.mp hi
      exact Nat.lt_succ_of_le (h.named p hp)
  · cases name with
    | none => exact hnamed
    | some n => exact List.forall_mem_cons.mpr ⟨Nat.le_refl _, hnamed⟩

theorem Proper.closeLevel (h : r.Proper) (hs : r.closeLevel = .ok s) : s.Proper := by
  have hsettle := h.settle
  obtain ⟨o, around, outer, houter, -, rfl⟩ := closeLevel_ok_iff.mp hs
  have houters := hsettle.outer
  rw [settle_outer, houter] at houters
  obtain ⟨⟨ho, haround⟩, houters⟩ := List.forall_mem_cons.mp houters
  refine ⟨?_, haround, houters, hsettle.ordered, hsettle.named⟩
  intro e he
  obtain rfl : o.close r.settle.level.expr = e := Option.some.inj he
  exact ho.close hsettle.level.expr

theorem Proper.refer {target : Reference} (h : r.Proper) (hs : r.refer target = .ok s) :
    s.Proper := by
  obtain ⟨g, b, -, rfl⟩ := refer_ok hs
  have hpush : (r.push (.backref g)).Proper := h.push (Expr.proper_of_groups_eq_nil rfl rfl)
  exact ⟨hpush.pending, hpush.level, hpush.outer, hpush.ordered, hpush.named⟩

theorem Proper.repeatPending {lo : Nat} {hi : Option Nat} {greedy possessive : Bool}
    (h : r.Proper) (hs : r.repeatPending lo hi greedy possessive = .ok s) : s.Proper := by
  obtain ⟨e, he, -, hhi, rfl⟩ := repeatPending_ok_iff.mp hs
  have hproper := h.pending e he
  have hitem : (Expr.repeated lo hi greedy e).Proper r.groups := by
    refine ⟨Bool.and_eq_true_iff.mpr ⟨?_, hproper.bounded⟩, hproper.groups⟩
    cases hi with
    | none => rfl
    | some hi => simpa using hhi
  refine ⟨nofun, h.level.add ?_, h.outer, h.ordered, h.named⟩
  split
  · exact ⟨hitem.bounded, hitem.groups⟩
  · exact hitem

/-- **Whatever a step does, what has been read stays proper.** -/
theorem take_proper {a : Lexeme} (h : r.Proper) (hs : r.take a = .ok s) : s.Proper := by
  have hsettle := h.settle
  cases a with
  | chars | assert | keepOut | searchStart =>
    cases hs
    exact h.push (Expr.proper_of_groups_eq_nil rfl rfl)
  | reference target => exact h.refer hs
  | flags f =>
    cases hs
    refine Proper.push ?_ (Expr.proper_of_groups_eq_nil rfl rfl)
    exact ⟨hsettle.pending, hsettle.level, hsettle.outer, hsettle.ordered, hsettle.named⟩
  | parens inside =>
    refine Proper.openLevel ?_ (o := .parens r.flags) trivial hs
    exact ⟨hsettle.pending, hsettle.level, hsettle.outer, hsettle.ordered, hsettle.named⟩
  | group name => exact h.openGroup hs
  | atomic => exact h.openLevel (o := .atomic) trivial hs
  | look side negated => exact h.openLevel (o := .look side negated) trivial hs
  | close => exact h.closeLevel hs
  | bar =>
    cases hs
    exact ⟨hsettle.pending, hsettle.level.branch, hsettle.outer, hsettle.ordered, hsettle.named⟩
  | quantifier lo hi greedy possessive => exact h.repeatPending hs

theorem run_proper (h : r.Proper) (hs : run len fuel r cs = .ok s) : s.Proper :=
  run_preserves (fun _ _ _ => take_proper) h hs

end Reader

end CodeShape.Regex
