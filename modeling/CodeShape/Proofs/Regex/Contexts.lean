import CodeShape.Proofs.Regex.Locality
import CodeShape.Proofs.Regex.Numbering

/-!
# Reading in a context

A text that can be read on its own may stand between parentheses in a larger text. The reader then
goes through it step by step as it would go through the text alone: it stands deeper, and the groups
have higher numbers (`Mirrors`), but what stands at the front is the same, since no lexeme reaches
beyond the closing parenthesis, and the readers are changed alike (`take_mirrors`). So the
parenthesis behind the text is the one that closes it (`run_mirrors`).

One difference remains: what a reference by number refers to. The numbers of groups that references
hold are not compared.
-/

namespace CodeShape.Regex

/-! ## Shifted levels -/

/-- The level with the numbers of its groups raised. -/
def Level.shifted (k : Nat) (l : Level) : Level :=
  ⟨l.branches.map (Expr.shifted k), l.items.map (Expr.shifted k)⟩

/-- The opening with the number of its group raised. -/
def Opening.shifted (k : Nat) : Opening → Opening
  | group i => group (i + k)
  | parens restore => parens restore
  | atomic => atomic
  | look side negated => look side negated

section Levels

variable {k : Nat} {l : Level} {o : Opening} {e : Expr}

theorem Level.shifted_add : (l.add e).shifted k = (l.shifted k).add (e.shifted k) := by
  unfold Level.add
  rw [Expr.isBlank_shifted]
  split <;> rfl

theorem Level.shifted_branch : l.branch.shifted k = (l.shifted k).branch := by
  unfold Level.branch Level.shifted
  rw [← List.map_reverse, ← Expr.shifted_cats]
  rfl

theorem Level.shifted_expr : l.expr.shifted k = (l.shifted k).expr := by
  unfold Level.expr
  rw [Expr.shifted_alts, ← Level.shifted_branch, List.map_reverse]
  rfl

theorem Opening.shifted_close : (o.close e).shifted k = (o.shifted k).close (e.shifted k) := by
  cases o <;> rfl

end Levels

namespace Reader

/-! ## Two readers side by side -/

/-- The reader `r'` stands in a context as `r` stands at the same place of the text alone: `base` is
the reader at the beginning of the text, where `k` groups have been opened. -/
structure Mirrors (k : Nat) (base r r' : Reader) : Prop where
  flags : r'.flags = r.flags
  groups : r'.groups = r.groups + k
  names : r'.names = (r.names.map fun p => (p.1, p.2 + k)) ++ base.names
  outer : ∃ upper, r'.outer = upper ++ base.outer ∧
    upper.map (fun p => (p.1.shifted 0, p.2.shifted 0))
      = r.outer.map fun p => (p.1.shifted k, p.2.shifted k)
  level : r'.level.shifted 0 = r.level.shifted k
  pending : r'.pending.map (Expr.shifted 0) = r.pending.map (Expr.shifted k)

variable {k len len' fuel fuel' : Nat} {base r r' s s' t z : Reader} {e e' : Expr}
  {o o' : Opening} {cs more : List Char}

/-- At the beginning of the text. -/
theorem mirrors_base (hgroups : base.groups = k) (hflags : base.flags = {})
    (hlevel : base.level = {}) (hpending : base.pending = none) : Mirrors k base {} base :=
  ⟨hflags, hgroups.trans (Nat.zero_add k).symm, rfl, ⟨[], rfl, rfl⟩, by rw [hlevel]; rfl,
    by rw [hpending]; rfl⟩

namespace Mirrors

theorem isSome_pending (h : Mirrors k base r r') : r'.pending.isSome = r.pending.isSome := by
  have hpending := congrArg Option.isSome h.pending
  rwa [Option.isSome_map, Option.isSome_map] at hpending

/-- An item is pending for both readers or for none. -/
theorem pending_cases (h : Mirrors k base r r') :
    r.pending = none ∧ r'.pending = none ∨
      ∃ e e', r.pending = some e ∧ r'.pending = some e' ∧ e'.shifted 0 = e.shifted k := by
  have hpending := h.pending
  rcases hr : r.pending with _ | e <;> rcases hr' : r'.pending with _ | e'
  · exact .inl ⟨rfl, rfl⟩
  · rw [hr, hr'] at hpending
    cases hpending
  · rw [hr, hr'] at hpending
    cases hpending
  · rw [hr, hr'] at hpending
    exact .inr ⟨e, e', rfl, rfl, Option.some.inj hpending⟩

theorem settle (h : Mirrors k base r r') : Mirrors k base r.settle r'.settle := by
  rcases h.pending_cases with ⟨hr, hr'⟩ | ⟨e, e', hr, hr', he⟩
  · rwa [settle_of_none hr, settle_of_none hr']
  · have hlevel : (r'.level.add e').shifted 0 = (r.level.add e).shifted k := by
      rw [Level.shifted_add, Level.shifted_add, h.level, he]
    unfold Reader.settle
    rw [hr, hr']
    exact ⟨h.flags, h.groups, h.names, h.outer, hlevel, rfl⟩

theorem push (h : Mirrors k base r r') (he : e'.shifted 0 = e.shifted k) :
    Mirrors k base (r.push e) (r'.push e') :=
  ⟨h.settle.flags, h.settle.groups, h.settle.names, h.settle.outer, h.settle.level,
    congrArg some he⟩

theorem openLevel (h : Mirrors k base r r') (ho : o'.shifted 0 = o.shifted k)
    (hs : r.openLevel o = .ok s) (hs' : r'.openLevel o' = .ok s') : Mirrors k base s s' := by
  obtain ⟨-, rfl⟩ := openLevel_ok_iff.mp hs
  obtain ⟨-, rfl⟩ := openLevel_ok_iff.mp hs'
  have hsettle := h.settle
  obtain ⟨upper, hupper, hshift⟩ := hsettle.outer
  refine ⟨hsettle.flags, hsettle.groups, hsettle.names,
    ⟨(o', r'.settle.level) :: upper, congrArg _ hupper, ?_⟩, rfl, hsettle.pending⟩
  rw [List.map_cons, ho, hsettle.level, hshift]
  rfl

theorem openGroup {name : Option (List Char)} (h : Mirrors k base r r')
    (hs : r.openGroup name = .ok s) (hs' : r'.openGroup name = .ok s') :
    Mirrors k base s s' := by
  have hgroups : r'.groups + 1 = r.groups + 1 + k := by
    rw [h.groups]
    omega
  have hopening : (Opening.group (r'.groups + 1)).shifted 0
      = (Opening.group (r.groups + 1)).shifted k := congrArg Opening.group hgroups
  cases name with
  | none =>
    have hopened : Mirrors k base { r with groups := r.groups + 1 }
        { r' with groups := r'.groups + 1 } :=
      ⟨h.flags, hgroups, h.names, h.outer, h.level, h.pending⟩
    exact hopened.openLevel hopening hs hs'
  | some n =>
    have hopened : Mirrors k base
        { r with groups := r.groups + 1, names := (n, r.groups + 1) :: r.names }
        { r' with groups := r'.groups + 1, names := (n, r'.groups + 1) :: r'.names } :=
      ⟨h.flags, hgroups, congrArg₂ (fun g names => (n, g) :: names) hgroups h.names, h.outer,
        h.level, h.pending⟩
    exact hopened.openLevel hopening hs hs'

theorem closeLevel (h : Mirrors k base r r') (hs : r.closeLevel = .ok s)
    (hs' : r'.closeLevel = .ok s') : Mirrors k base s s' := by
  have hsettle := h.settle
  obtain ⟨upper, hupper, hshift⟩ := h.outer
  obtain ⟨o, around, outer, houter, -, rfl⟩ := closeLevel_ok_iff.mp hs
  obtain ⟨o', around', outer', houter', -, rfl⟩ := closeLevel_ok_iff.mp hs'
  rw [houter] at hshift
  obtain ⟨first, upper, rfl, hhead, htail⟩ := List.map_eq_cons_iff.mp hshift
  cases houter'.symm.trans hupper
  obtain ⟨ho, haround⟩ := Prod.mk.inj hhead
  refine ⟨?_, hsettle.groups, hsettle.names, ⟨upper, rfl, htail⟩, haround, ?_⟩
  · have hflags := hsettle.flags
    cases o <;> cases o' <;> cases ho <;> first | exact hflags | rfl
  · refine congrArg some ?_
    rw [Opening.shifted_close, Opening.shifted_close, Level.shifted_expr, Level.shifted_expr,
      hsettle.level, ho]

theorem refer {target : Reference} (h : Mirrors k base r r') (hs : r.refer target = .ok s)
    (hs' : r'.refer target = .ok s') : Mirrors k base s s' := by
  obtain ⟨g, b, -, rfl⟩ := refer_ok hs
  obtain ⟨g', b', -, rfl⟩ := refer_ok hs'
  have hpush : Mirrors k base (r.push (.backref g)) (r'.push (.backref g')) := h.push rfl
  exact ⟨hpush.flags, hpush.groups, hpush.names, hpush.outer, hpush.level, hpush.pending⟩

theorem repeatPending {lo : Nat} {hi : Option Nat} {greedy possessive : Bool}
    (h : Mirrors k base r r') (hs : r.repeatPending lo hi greedy possessive = .ok s)
    (hs' : r'.repeatPending lo hi greedy possessive = .ok s') : Mirrors k base s s' := by
  obtain ⟨e, hr, -, -, rfl⟩ := repeatPending_ok_iff.mp hs
  obtain ⟨e', hr', -, -, rfl⟩ := repeatPending_ok_iff.mp hs'
  have he : e'.shifted 0 = e.shifted k := by
    have hpending := h.pending
    rw [hr, hr'] at hpending
    exact Option.some.inj hpending
  refine ⟨h.flags, h.groups, h.names, h.outer, ?_, rfl⟩
  rw [Level.shifted_add, Level.shifted_add, h.level]
  cases possessive <;> simp only [Expr.shifted, he, if_true, Bool.false_eq_true, if_false]

end Mirrors

/-- **The same lexeme changes both readers alike.** -/
theorem take_mirrors {a : Lexeme} (h : Mirrors k base r r') (hs : r.take a = .ok s)
    (hs' : r'.take a = .ok s') : Mirrors k base s s' := by
  have hsettle := h.settle
  cases a with
  | chars | assert | keepOut | searchStart =>
    cases hs
    cases hs'
    exact h.push rfl
  | reference target => exact h.refer hs hs'
  | flags f =>
    cases hs
    cases hs'
    have hchanged : Mirrors k base { r.settle with flags := f } { r'.settle with flags := f } :=
      ⟨rfl, hsettle.groups, hsettle.names, hsettle.outer, hsettle.level, hsettle.pending⟩
    exact hchanged.push rfl
  | parens inside =>
    have hinside : Mirrors k base { r.settle with flags := inside }
        { r'.settle with flags := inside } :=
      ⟨rfl, hsettle.groups, hsettle.names, hsettle.outer, hsettle.level, hsettle.pending⟩
    have hopening : (Opening.parens r'.flags).shifted 0 = (Opening.parens r.flags).shifted k :=
      congrArg Opening.parens h.flags
    exact hinside.openLevel hopening hs hs'
  | group name => exact h.openGroup hs hs'
  | atomic =>
    have hopening : Opening.atomic.shifted 0 = Opening.atomic.shifted k := rfl
    exact h.openLevel hopening hs hs'
  | look side negated =>
    have hopening : (Opening.look side negated).shifted 0
        = (Opening.look side negated).shifted k := rfl
    exact h.openLevel hopening hs hs'
  | close => exact h.closeLevel hs hs'
  | bar =>
    cases hs
    cases hs'
    refine ⟨hsettle.flags, hsettle.groups, hsettle.names, hsettle.outer, ?_, hsettle.pending⟩
    rw [Level.shifted_branch, Level.shifted_branch, hsettle.level]
  | quantifier lo hi greedy possessive => exact h.repeatPending hs hs'

/-! ## A whole text in its context -/

/-- **A text that is read to its end alone is read in a context up to the parenthesis behind it**, and
there the context is closed. -/
theorem run_mirrors (hlen : len ≤ len') (h : Mirrors k base r r')
    (hrun : run len fuel r cs = .ok t) (hfuel : cs.length < fuel) (hspaced : t.flags.spaced = false)
    (hrun' : run len' fuel' r' (cs ++ ')' :: more) = .ok z)
    (hfuel' : (cs ++ ')' :: more).length < fuel') :
    ∃ t' u left, Mirrors k base t t' ∧ t'.closeLevel = .ok u ∧ more.length < left ∧
      run len' left u more = .ok z := by
  induction fuel generalizing r r' cs fuel' with
  | zero => exact absurd hfuel (Nat.not_lt_zero _)
  | succ fuel ih =>
    obtain ⟨fuel', rfl⟩ := Nat.exists_eq_succ_of_ne_zero (Nat.ne_zero_of_lt hfuel')
    have hends := EndsWell.of_run hrun hfuel hspaced
    have hskip {ds : List Char} (hds : r.skip cs = .ok ds) :
        r'.skip (cs ++ ')' :: more) = .ok (ds ++ ')' :: more) := by
      unfold Reader.skip at hds ⊢
      rw [h.flags]
      refine skipBlanks_append hds (fun hnil => ?_) more
      exact EndsWell.not_spaced (hnil ▸ hends.skip_eq hds)
    rcases run_succ_ok_iff.mp hrun with ⟨hread, rfl⟩ | ⟨c, ds, a, s, rest, hread, hlex, hs, hgo⟩
    · -- nothing is left of the text, and the parenthesis is read
      rcases run_succ_ok_iff.mp hrun' with
        ⟨hnil, -⟩ | ⟨c', ds', a', u, rest', hread', hlex', hu, hgo'⟩
      · cases (hskip hread).symm.trans hnil
      · cases (hskip hread).symm.trans hread'
        obtain ⟨rfl, rfl⟩ := lex_close hlex'
        refine ⟨r', u, fuel', h, hu, ?_, hgo'⟩
        simp only [List.length_append, List.length_cons] at hfuel'
        omega
    · rcases run_succ_ok_iff.mp hrun' with
        ⟨hnil, -⟩ | ⟨c', ds', a', s', rest', hread', hlex', hs', hgo'⟩
      · cases (hskip hread).symm.trans hnil
      · cases (hskip hread).symm.trans hread'
        have hshort : rest.length < cs.length := by
          have h₁ := (lex_suffix hlex).length_le
          have h₂ := (skipping_suffix hread).length_le
          rw [List.length_cons] at h₂
          omega
        have hfound := lex_append hlen hlex (fun hkeeps => by
          have := EndsWell.of_run hgo (by omega) hspaced
          rwa [take_flags hkeeps hs] at this) more
        rw [h.flags, h.isSome_pending] at hlex'
        cases hfound.symm.trans hlex'
        refine ih (take_mirrors h hs hs') hgo (by omega) hgo' ?_
        simp only [List.length_append, List.length_cons] at hfuel' ⊢
        omega

/-! ## Forgetting references by number -/

/-- The reader, with another record of whether a group has been referred to by number. -/
def recording (r : Reader) (b : Bool) : Reader :=
  { r with numbered := b }

section Recording

variable {b : Bool}

@[simp] theorem settle_recording (r : Reader) (b : Bool) :
    (r.recording b).settle = r.settle.recording b := by
  obtain ⟨flags, groups, names, numbered, outer, level, pending⟩ := r
  cases pending <;> rfl

theorem push_recording (r : Reader) (b : Bool) (e : Expr) :
    (r.recording b).push e = (r.push e).recording b := by
  unfold push
  rw [settle_recording]
  rfl

theorem openLevel_recording (hs : r.openLevel o = .ok s) :
    (r.recording b).openLevel o = .ok (s.recording b) ∧ s.numbered = r.numbered := by
  obtain ⟨hdepth, rfl⟩ := openLevel_ok_iff.mp hs
  refine ⟨openLevel_ok_iff.mpr ⟨hdepth, ?_⟩, settle_numbered r⟩
  rw [settle_recording]
  rfl

theorem closeLevel_recording (hb : b = true → r.numbered = true) (hs : r.closeLevel = .ok s) :
    (r.recording b).closeLevel = .ok (s.recording b) ∧ s.numbered = r.numbered := by
  obtain ⟨o, around, outer, houter, hcheck, rfl⟩ := closeLevel_ok_iff.mp hs
  -- what is forgotten only makes the check easier
  have hcheck' : (r.settle.recording b).checkNumbers = .ok () := by
    cases b with
    | false =>
      unfold Reader.checkNumbers recording
      rw [Bool.and_false, Bool.false_and]
      rfl
    | true =>
      have hsame : r.settle.recording true = r.settle := by
        rw [recording, ← hb rfl, ← settle_numbered r]
      rw [hsame]
      exact hcheck
  refine ⟨closeLevel_ok_iff.mpr ⟨o, around, outer, houter, ?_⟩, settle_numbered r⟩
  rw [settle_recording]
  exact ⟨hcheck', rfl⟩

theorem pushBackref_recording {g : Nat} (hs : r.pushBackref g = .ok s) :
    (r.recording b).pushBackref g = .ok (s.recording b) ∧ s.numbered = r.numbered := by
  obtain ⟨hle, rfl⟩ := pushBackref_ok_iff.mp hs
  exact ⟨pushBackref_ok_iff.mpr ⟨hle, (push_recording ..).symm⟩, settle_numbered r⟩

theorem pushNamedBackref_recording {name : List Char} (hs : r.pushNamedBackref name = .ok s) :
    (r.recording b).pushNamedBackref name = .ok (s.recording b) ∧ s.numbered = r.numbered := by
  have hnames : (r.recording b).names = r.names := rfl
  unfold pushNamedBackref at hs ⊢
  rw [hnames]
  cases hg : r.names.lookup name with
  | some g =>
    rw [hg] at hs
    exact pushBackref_recording hs
  | none =>
    rw [hg] at hs
    dsimp only at hs ⊢
    rcases hnumber : readDecimal? name with _ | ⟨g, _ | ⟨c, left⟩⟩ <;> rw [hnumber] at hs
    · cases hs
    · exact pushBackref_recording hs
    · cases hs

/-- What a lexeme makes of a reader does not depend on the record, but for the check at the end of a
level. -/
theorem take_recording {a : Lexeme} (hb : b = true → r.numbered = true) (hs : r.take a = .ok s) :
    ∃ b', (r.recording b).take a = .ok (s.recording b') ∧ (b' = true → s.numbered = true) := by
  -- no lexeme but a reference by number changes the record, and so most of them keep `b`
  have hsame {x : Except Fault Reader} (h : x = .ok (s.recording b) ∧ s.numbered = r.numbered) :
      ∃ b', x = .ok (s.recording b') ∧ (b' = true → s.numbered = true) :=
    ⟨b, h.1, fun h' => h.2.trans (hb h')⟩
  cases a with
  | chars | assert | keepOut | searchStart =>
    cases hs
    exact hsame ⟨congrArg Except.ok (push_recording ..), settle_numbered r⟩
  | reference target =>
    cases target with
    -- the reference itself is what is recorded, whatever has been before
    | number g =>
      obtain ⟨u, hu, heq⟩ := bind_eq_ok_iff.mp hs
      cases heq
      refine ⟨true, ?_, fun _ => rfl⟩
      change (do return { ← (r.recording b).pushBackref g with numbered := true }) = _
      rw [(pushBackref_recording hu).1]
      rfl
    | name name => exact hsame (pushNamedBackref_recording hs)
    | back n =>
      refine hsame ?_
      rw [take, refer] at hs ⊢
      split at hs
      · cases hs
      next hn =>
        have hpush := pushBackref_recording hs (b := b)
        exact ⟨(if_neg hn).trans hpush.1, hpush.2⟩
  | flags f =>
    cases hs
    refine hsame ⟨?_, (settle_numbered _).trans (settle_numbered r)⟩
    rw [take, settle_recording]
    exact congrArg Except.ok (push_recording { r.settle with flags := f } b .empty)
  | parens inside =>
    have hopened : ({ r.settle with flags := inside } : Reader).openLevel (.parens r.flags)
      = .ok s := hs
    obtain ⟨hopened, hnumbered⟩ := openLevel_recording hopened (b := b)
    refine hsame ⟨?_, hnumbered.trans (settle_numbered r)⟩
    rw [take, settle_recording]
    exact hopened
  | group name =>
    cases name with
    | none => exact hsame (openLevel_recording (r := { r with groups := r.groups + 1 }) hs)
    | some n =>
      exact hsame (openLevel_recording (r := { r with
        groups := r.groups + 1
        names := (n, r.groups + 1) :: r.names }) hs)
  | atomic => exact hsame (openLevel_recording hs)
  | look side negated => exact hsame (openLevel_recording hs)
  | close => exact hsame (closeLevel_recording hb hs)
  | bar =>
    cases hs
    refine hsame ⟨?_, settle_numbered r⟩
    rw [take, settle_recording]
    rfl
  | quantifier lo hi greedy possessive =>
    obtain ⟨e, he, hrep, hhi, rfl⟩ := repeatPending_ok_iff.mp hs
    exact hsame ⟨repeatPending_ok_iff.mpr ⟨e, he, hrep, hhi, rfl⟩, rfl⟩

/-- **A run that succeeds succeeds too where references by number are forgotten**, and leads to the same
reader but for the record of them. -/
theorem run_recording (hb : b = true → r.numbered = true) (hs : run len fuel r cs = .ok s) :
    ∃ b', run len fuel (r.recording b) cs = .ok (s.recording b') := by
  induction fuel generalizing r cs b with
  | zero =>
    cases hs
    exact ⟨b, rfl⟩
  | succ fuel ih =>
    rcases run_succ_ok_iff.mp hs with ⟨hskip, rfl⟩ | ⟨c, ds, a, u, rest, hskip, hlex, hu, hgo⟩
    · exact ⟨b, run_succ_ok_iff.mpr (.inl ⟨hskip, rfl⟩)⟩
    · obtain ⟨b', hu', hb'⟩ := take_recording hb hu
      obtain ⟨b'', hgo'⟩ := ih hb' hgo
      exact ⟨b'', run_succ_ok_iff.mpr
        (.inr ⟨c, ds, a, u.recording b', rest, hskip, hlex, hu', hgo'⟩)⟩

end Recording

/-! ## A text in a named group -/

/-- The reader in a named group that has just been opened. -/
theorem openGroup_eq {name : List Char} (h : r.openGroup (some name) = .ok s) :
    s = { r.settle with
      groups := r.groups + 1
      names := (name, r.groups + 1) :: r.names
      outer := (.group (r.groups + 1), r.settle.level) :: r.outer
      level := {} } := by
  obtain ⟨-, rfl⟩ := openLevel_ok_iff.mp h
  obtain ⟨flags, groups, names, numbered, outer, level, pending⟩ := r
  cases pending <;> rfl

/-- The reader behind a group. -/
theorem closeLevel_eq {i : Nat} {around : Level} {outer : List (Opening × Level)}
    (houter : r.settle.outer = (.group i, around) :: outer) (h : r.closeLevel = .ok s) :
    s = { r.settle with
      outer := outer
      level := around
      pending := some (.group i r.settle.level.expr) } := by
  obtain ⟨o, around', outer', houter', -, rfl⟩ := closeLevel_ok_iff.mp h
  rw [settle_outer, houter'] at houter
  cases houter
  rfl

/-- A named group is opened. -/
theorem run_opening {name : List Char} (hname : IsName name) (hflags : r.flags = {})
    (hrun : run len fuel r ('(' :: '?' :: 'P' :: '<' :: (name ++ '>' :: cs)) = .ok z)
    (hfuel : (name ++ '>' :: cs).length + 4 < fuel) :
    ∃ s left, r.openGroup (some name) = .ok s ∧ run len left s cs = .ok z ∧ cs.length < left := by
  obtain ⟨fuel, rfl⟩ := Nat.exists_eq_succ_of_ne_zero (Nat.ne_zero_of_lt hfuel)
  have hskip : r.skip ('(' :: '?' :: 'P' :: '<' :: (name ++ '>' :: cs))
      = .ok ('(' :: '?' :: 'P' :: '<' :: (name ++ '>' :: cs)) := skip_of_clear hflags rfl
  have hlex (quantifiable : Bool) :
      lex r.flags quantifiable len '(' ('?' :: 'P' :: '<' :: (name ++ '>' :: cs))
        = .ok (.group (some name), cs) := by
    have hopening : lexName (name ++ '>' :: cs) = .ok (.group (some name), cs) := by
      rw [lexName, readName_append hname]
      rfl
    rw [hflags]
    cases quantifiable <;> exact hopening
  rcases run_succ_ok_iff.mp hrun with ⟨hnil, -⟩ | ⟨c, ds, a, s, rest, hread, hfound, hs, hgo⟩
  · cases hskip.symm.trans hnil
  · cases hskip.symm.trans hread
    cases (hlex _).symm.trans hfound
    refine ⟨s, fuel, hs, hgo, ?_⟩
    simp only [List.length_append, List.length_cons] at hfuel
    omega

end Reader

/-- The flags in force behind a text that is read alone, if it can be read. -/
def flagsBehind (cs : List Char) : Flags :=
  match Reader.run (byteLength cs) (cs.length + 1) {} cs with
  | .ok r => r.flags
  | .error _ => {}

/-- A text that can be read alone. -/
theorem run_of_parse {cs : List Char} {source : Source} (h : parse cs = .ok source) :
    ∃ t, Reader.run (byteLength cs) (cs.length + 1) {} cs = .ok t ∧ t.finish = .ok source ∧
      flagsBehind cs = t.flags := by
  obtain ⟨t, ht, hsource⟩ := bind_eq_ok_iff.mp h
  refine ⟨t, ht, hsource, ?_⟩
  rw [flagsBehind, ht]

/-- What is read alone is proper. -/
theorem proper_of_parse {cs : List Char} {source : Source} (h : parse cs = .ok source) :
    source.expr.Proper source.groups := by
  obtain ⟨t, ht, hsource, -⟩ := run_of_parse h
  obtain ⟨-, -, rfl⟩ := Reader.finish_ok_iff.mp hsource
  exact (Reader.run_proper Reader.proper_empty ht).settle.level.expr

namespace Reader

variable {k len len' fuel fuel' : Nat} {base r r' s s' t u z : Reader} {e e' : Expr}
  {o o' : Opening} {cs more : List Char}

/-- The reader behind a group of the given name around a text that is read alone as `source`. -/
structure Passed (name : List Char) (source : Source) (r u : Reader) (e : Expr) : Prop where
  outer : u.outer = r.outer
  groups : u.groups = r.groups + 1 + source.groups
  names : ∃ added, u.names = added ++ (name, r.groups + 1) :: r.names ∧
    added.map (fun p => (String.ofList p.1, p.2))
      = source.names.map fun p => (p.1, p.2 + (r.groups + 1))
  level : u.settle.level = (r.settle.put [.group (r.groups + 1) e]).level
  shifted : e.shifted 0 = source.expr.shifted (r.groups + 1)

/-- **A text that can be read alone is read in a named group as it is read alone**: the group is
closed by the parenthesis behind the text. -/
theorem run_captured {name : List Char} {source : Source} (hname : IsName name)
    (hflags : r.flags = {}) (hlen : byteLength cs ≤ len) (hsource : parse cs = .ok source)
    (hspaced : (flagsBehind cs).spaced = false)
    (hrun : run len fuel r ('(' :: '?' :: 'P' :: '<' :: (name ++ '>' :: (cs ++ ')' :: more)))
      = .ok z)
    (hfuel : (name ++ '>' :: (cs ++ ')' :: more)).length + 4 < fuel) :
    ∃ u e left, Passed name source r u e ∧ u.flags = flagsBehind cs ∧
      run len left u more = .ok z ∧ more.length < left := by
  obtain ⟨t, halone, hsource, hbehind⟩ := run_of_parse hsource
  rw [hbehind] at hspaced ⊢
  obtain ⟨base, left, hopen, hbase, hleft⟩ := run_opening hname hflags hrun hfuel
  have hopened := openGroup_eq hopen
  have hmirrors : Mirrors (r.groups + 1) base {} base := by
    rw [hopened]
    exact mirrors_base rfl ((settle_flags r).trans hflags) rfl (settle_pending r)
  obtain ⟨t', u, left, ht', hclose, hleft, hmore⟩ :=
    run_mirrors hlen hmirrors halone (Nat.lt_succ_self _) hspaced hbase hleft
  obtain ⟨houter, -, rfl⟩ := finish_ok_iff.mp hsource
  have hsettle := ht'.settle
  -- alone, no parenthesis is open at the end, so the group is the innermost one in the context
  have houter' : t'.settle.outer = (.group (r.groups + 1), r.settle.level) :: r.outer := by
    obtain ⟨upper, hupper, hshift⟩ := hsettle.outer
    rw [settle_outer, houter] at hshift
    rw [hupper, List.map_eq_nil_iff.mp hshift, hopened]
    rfl
  obtain rfl := closeLevel_eq houter' hclose
  have hgroups : t'.settle.groups = r.groups + 1 + t.settle.groups := by
    rw [hsettle.groups]
    omega
  have hnames : t'.settle.names = (t.settle.names.map fun p => (p.1, p.2 + (r.groups + 1)))
      ++ (name, r.groups + 1) :: r.names := by
    rw [hsettle.names, hopened]
  have hadded : (t.settle.names.map fun p => (p.1, p.2 + (r.groups + 1))).map
      (fun p => (String.ofList p.1, p.2))
        = (t.settle.names.map fun p => (String.ofList p.1, p.2)).map
          fun p => (p.1, p.2 + (r.groups + 1)) := by
    simp only [List.map_map]
    rfl
  have hshifted : t'.settle.level.expr.shifted 0 = t.settle.level.expr.shifted (r.groups + 1) := by
    rw [Level.shifted_expr, Level.shifted_expr, hsettle.level]
  refine ⟨_, t'.settle.level.expr, left, ?_, ?_, hmore, hleft⟩
  · exact ⟨rfl, hgroups, ⟨_, hnames, hadded⟩, rfl, hshifted⟩
  · exact hsettle.flags.trans (settle_flags t)

end Reader

end CodeShape.Regex
