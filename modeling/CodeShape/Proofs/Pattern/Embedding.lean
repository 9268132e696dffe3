import CodeShape.Proofs.Pattern.Compilation
import CodeShape.Proofs.Regex.Contexts
import CodeShape.Proofs.Regex.Walks

/-!
# Patterns with raw expressions

A raw expression is written into the assembled text as it stands. If it can be read alone, leaves no
flags behind and names no group as a capture is named, it is read in its capture as it would be read
alone, and what stands around it is read as in a pattern without raw expressions
(`links_of_run`): blanks, quoted text and placeholders become items that are known exactly, and a
raw expression becomes a loose one. Only the numbers of the groups are others, since groups inside
of raw expressions count too; `Stands` says which group each capture has.
-/

namespace CodeShape.Pattern

open Regex (Expr Reader Fault Link Source)
open Regex.Reader (Leads Spells clear)
open Grammar (blanksItem)

/-! ## Items with given groups -/

variable {c c' : Captures} {s : Segment} {t : Token} {num num' : Nat → Nat}

/-- Only the groups of the captures up to the segment matter. -/
theorem segmentItemsAt_congr (hs : s.IsPlain) (hc : c.Consistent)
    (h : ∀ n < (bindOne c s).2.size, num n = num' n) :
    segmentItemsAt num c s = segmentItemsAt num' c s := by
  cases s with
  | space | text _ => rfl
  | token t =>
    obtain ⟨key, hkey⟩ := exists_key hs
    change ∀ n < (bindToken c t).2.size, _ at h
    cases hbound : c.bound.lookup key with
    | some n =>
      rw [(bindToken_again hkey hbound).1] at h
      simp only [segmentItemsAt, tokenItemAt_again hkey hbound, h n (hc key n hbound)]
    | none =>
      rw [(bindToken_first hkey hbound).1] at h
      have hsize : c.size < (c.bind key).size := by
        rw [Captures.size_bind]
        exact Nat.lt_succ_self _
      simp only [segmentItemsAt, tokenItemAt_first hkey hbound, h c.size hsize]

/-! ## Reading -/

/-- The reader stands outside of any group, and capture `n` has the group `groups[n]`. Names that look
like those of the first `total` captures are given to captures only. -/
structure Stands (total : Nat) (c : Captures) (groups : List Nat) (r : Reader) : Prop where
  outer : r.outer = []
  size : groups.length = c.size
  named : ∀ n g, groups[n]? = some g → r.names.lookup (captureName n).toList = some g
  only : ∀ p ∈ r.names, ∀ n < total, p.1 = (captureName n).toList → groups[n]? = some p.2
  ordered : groups.Pairwise (· < ·)
  bounds : ∀ g ∈ groups, 0 < g ∧ g ≤ r.groups

/-- The group of each capture. -/
def groupOf (groups : List Nat) (n : Nat) : Nat :=
  groups.getD n 0

theorem groupOf_mem {groups : List Nat} {n : Nat} (h : n < groups.length) :
    groupOf groups n ∈ groups := by
  rw [groupOf, List.getD_eq_getElem?_getD, List.getElem?_eq_getElem h]
  exact List.getElem_mem h

theorem groupOf_concat {groups : List Nat} {n : Nat} (h : groups.length = n) (g : Nat) :
    groupOf (groups ++ [g]) n = g := by
  rw [groupOf, List.getD_eq_getElem?_getD, getElem?_concat_eq_some_iff.mpr (.inr ⟨h.symm, rfl⟩)]
  rfl

variable {total len fuel : Nat} {groups groups' : List Nat} {r r' u z : Reader}
  {rest : List Char}

/-- Where the readers differ in nothing that concerns groups, they stand alike. -/
theorem Stands.congr (h : Stands total c groups r) (houter : r'.outer = r.outer)
    (hnames : r'.names = r.names) (hgroups : r'.groups = r.groups) :
    Stands total c groups r' :=
  ⟨houter.trans h.outer, h.size, hnames ▸ h.named, hnames ▸ h.only, h.ordered,
    hgroups ▸ h.bounds⟩

/-- Behind one more capture, which has a new group. Whatever else has been named in between has no name
like a capture. -/
theorem Stands.define (h : Stands total c groups r) (hsize : c'.size = c.size + 1)
    (htotal : c'.size ≤ total) (houter : r'.outer = []) (hgroups : r.groups < r'.groups)
    {added : List (List Char × Nat)}
    (hadded : ∀ p ∈ added, ∀ n < total, p.1 ≠ (captureName n).toList)
    (hnames : r'.names = added ++ ((captureName c.size).toList, r.groups + 1) :: r.names) :
    Stands total c' (groups ++ [r.groups + 1]) r' := by
  -- what has been named in between is passed by, and the new capture comes before all older ones
  have hlookup {n : Nat} (hn : n < total) : r'.names.lookup (captureName n).toList
      = if n = c.size then some (r.groups + 1) else r.names.lookup (captureName n).toList := by
    have hnone : added.lookup (captureName n).toList = none := by
      rw [List.lookup_eq_none_iff]
      exact fun p hp => bne_iff_ne.mpr (hadded p hp n hn).symm
    rw [hnames, List.lookup_append, hnone, Option.none_or, List.lookup_cons]
    by_cases heq : n = c.size
    · rw [if_pos heq, heq, beq_self_eq_true]
    · have hne : ((captureName n).toList == (captureName c.size).toList) = false := by
        rw [beq_eq_false_iff_ne]
        exact fun hname => heq (captureName_inj (String.toList_injective hname))
      rw [if_neg heq, hne]
  refine ⟨houter, ?_, fun n g hg => ?_, fun p hp n hn hname => ?_, ?_, ?_⟩
  · rw [List.length_append, h.size, hsize, List.length_singleton]
  · rcases getElem?_concat_eq_some_iff.mp hg with hg | ⟨hn, rfl⟩
    · have hn : n < c.size := h.size ▸ (List.getElem?_eq_some_iff.mp hg).1
      rw [hlookup (by omega), if_neg (Nat.ne_of_lt hn)]
      exact h.named n g hg
    · rw [h.size] at hn
      rw [hlookup (by omega), if_pos hn]
  · rw [hnames] at hp
    rcases List.mem_append.mp hp with hp | hp
    · exact absurd hname (hadded p hp n hn)
    · rcases List.mem_cons.mp hp with rfl | hp
      · have heq : c.size = n := captureName_inj (String.toList_injective hname)
        exact getElem?_concat_eq_some_iff.mpr (.inr ⟨heq ▸ h.size.symm, rfl⟩)
      · exact getElem?_concat_eq_some_iff.mpr (.inl (h.only p hp n hn hname))
  · rw [List.pairwise_append]
    refine ⟨h.ordered, List.pairwise_singleton _ _, fun g hg x hx => ?_⟩
    rw [List.mem_singleton.mp hx]
    exact Nat.lt_succ_of_le (h.bounds g hg).2
  · intro g hg
    rcases List.mem_append.mp hg with hg | hg
    · have := h.bounds g hg
      exact ⟨this.1, by omega⟩
    · rw [List.mem_singleton.mp hg]
      exact ⟨Nat.succ_pos _, hgroups⟩

/-- The reader `r'` stands where `items` have been read from `r` on. -/
structure Follows (total : Nat) (c : Captures) (groups : List Nat) (items : List Expr)
    (r r' : Reader) : Prop where
  stands : Stands total c groups r'
  numbered : r'.numbered = false
  level : r'.settle.level = (r.settle.put items).level
  le : r.groups ≤ r'.groups

/-- More groups, each with a number above the given one. -/
def Extends (k : Nat) (groups groups' : List Nat) : Prop :=
  ∃ more, groups' = groups ++ more ∧ ∀ g ∈ more, k < g

theorem extends_refl (k : Nat) (groups : List Nat) : Extends k groups groups :=
  ⟨[], (List.append_nil groups).symm, nofun⟩

theorem extends_concat (k : Nat) (groups : List Nat) : Extends k groups (groups ++ [k + 1]) :=
  ⟨[k + 1], rfl, List.forall_mem_singleton.mpr (Nat.lt_succ_self k)⟩

theorem Extends.trans {k k' : Nat} {groups'' : List Nat} (h : Extends k groups groups')
    (h' : Extends k' groups' groups'') (hle : k ≤ k') : Extends k groups groups'' := by
  obtain ⟨more, rfl, hmore⟩ := h
  obtain ⟨more', rfl, hmore'⟩ := h'
  refine ⟨more ++ more', List.append_assoc _ _ _, List.forall_mem_append.mpr ⟨hmore, ?_⟩⟩
  exact fun g hg => Nat.lt_of_le_of_lt hle (hmore' g hg)

theorem Extends.groupOf {k n : Nat} (h : Extends k groups groups') (hn : n < groups.length) :
    groupOf groups' n = groupOf groups n := by
  obtain ⟨more, rfl, -⟩ := h
  rw [Pattern.groupOf, Pattern.groupOf, List.getD_eq_getElem?_getD, List.getD_eq_getElem?_getD,
    List.getElem?_append_left hn]

/-- Blanks and quoted text are read wherever they stand. -/
theorem Stands.spelled (h : Stands total c groups r) (len : Nat) {cs : List Char}
    {items : List Expr} (hflags : r.flags = {}) (hnum : r.numbered = false)
    (hspells : Spells 0 cs items) (hclear : clear rest = true) :
    ∃ r', Follows total c groups items r r' ∧ r'.flags = {} ∧ Leads len r (cs ++ rest) r' rest := by
  obtain ⟨-, r', hr', hlead⟩ := hspells len r rest hflags hnum (by rw [h.outer]; decide) hclear
  obtain ⟨hflags', hnum', houter⟩ := Reader.kept_of_settle hr'
  have hnames : r'.names = r.names := by
    rw [← Reader.settle_names r', hr']
    exact Reader.settle_names r
  have hgroups : r'.groups = r.groups := by
    rw [← Reader.settle_groups r', hr']
    exact Reader.settle_groups r
  exact ⟨r', ⟨h.congr houter hnames hgroups, hnum'.trans hnum, by rw [hr'], hgroups.ge⟩,
    hflags'.trans hflags, hlead⟩

/-- A reference is read as a reference to the group of its capture. -/
theorem Stands.referenced (h : Stands total c groups r) (len : Nat) {n : Nat}
    (hflags : r.flags = {}) (hnum : r.numbered = false) (hn : n < c.size) (rest : List Char) :
    ∃ r', Follows total c groups [.backref (groupOf groups n)] r r' ∧ r'.flags = {} ∧
      Leads len r (reference n ++ rest) r' rest := by
  have hget : groups[n]? = some (groupOf groups n) := by
    rw [groupOf, List.getD_eq_getElem?_getD, List.getElem?_eq_getElem (h.size ▸ hn)]
    rfl
  have hlead : Leads len r ('\\' :: 'k' :: '<' :: ((captureName n).toList ++ '>' :: rest))
      (r.push (.backref (groupOf groups n))) rest :=
    Reader.leads_reference (isName_captureName n) hflags (h.named n _ hget)
      (h.bounds _ (List.mem_of_getElem? hget)).2 rest
  refine ⟨r.push (.backref (groupOf groups n)), ⟨?_, ?_, ?_, ?_⟩, ?_, ?_⟩
  · exact h.congr (Reader.settle_outer r) (Reader.settle_names r) (Reader.settle_groups r)
  · exact (Reader.settle_numbered r).trans hnum
  · rw [Reader.push_settle rfl]
  · exact (Reader.settle_groups r).ge
  · exact (Reader.settle_flags r).trans hflags
  · rw [reference_append]
    exact hlead

/-- A capture is read as a new group with the capture's name. -/
theorem Stands.captured (h : Stands total c groups r) (len : Nat) (hflags : r.flags = {})
    (hnum : r.numbered = false) (ht : t.IsPlain) (hsize : c'.size = c.size + 1)
    (htotal : c'.size ≤ total) (rest : List Char) :
    ∃ groups' r', Extends r.groups groups groups' ∧
      Follows total c' groups' [.group (groupOf groups' c.size) (Expr.cats t.items)] r r' ∧
      r'.flags = {} ∧ Leads len r (capture c.size t.body ++ rest) r' rest := by
  obtain ⟨r', hr', hlead⟩ : ∃ r', r'.settle = r.settle.capture (captureName c.size).toList
      (Expr.cats t.items) ∧ Leads len r ('(' :: '?' :: 'P' :: '<' ::
        ((captureName c.size).toList ++ '>' :: (t.body ++ ')' :: rest))) r' rest :=
    (Token.spells_body ht).fills.captured (isName_captureName c.size) hflags hnum
      (by rw [h.outer]; decide) rest
  have hkept : r'.flags = r.flags ∧ r'.numbered = r.numbered ∧ r'.outer = r.outer ∧
      r'.groups = r.groups + 1 ∧
      r'.names = ((captureName c.size).toList, r.groups + 1) :: r.names := by
    rw [← Reader.settle_flags r', ← Reader.settle_numbered r', ← Reader.settle_outer r',
      ← Reader.settle_groups r', ← Reader.settle_names r', hr', Reader.capture,
      Reader.settle_groups, Reader.settle_names]
    exact ⟨Reader.settle_flags r, Reader.settle_numbered r, Reader.settle_outer r, rfl, rfl⟩
  obtain ⟨hflags', hnum', houter, hgroups, hnames⟩ := hkept
  have hgroup : groupOf (groups ++ [r.groups + 1]) c.size = r.groups + 1 :=
    groupOf_concat h.size _
  refine ⟨groups ++ [r.groups + 1], r', extends_concat _ _, ⟨?_, hnum'.trans hnum, ?_, ?_⟩,
    hflags'.trans hflags, ?_⟩
  · exact h.define hsize htotal (houter.trans h.outer) (hgroups ▸ Nat.lt_succ_self _)
      (List.forall_mem_nil _) hnames
  · rw [hr', hgroup, Reader.capture, Reader.settle_groups]
    rfl
  · exact hgroups ▸ Nat.le_succ _
  · rw [capture_append]
    exact hlead

theorem put_level {items : List Expr} (h : r'.settle.level = (r.settle.put items).level)
    (more : List Expr) :
    (r'.settle.put more).level = (r.settle.put (items ++ more)).level := by
  rw [← Reader.put_put]
  change ({ r'.settle.level with items := more.reverse ++ r'.settle.level.items } : Regex.Level) = _
  rw [h]
  rfl

/-- **A segment that is no raw expression is read as its items.** -/
theorem Stands.segment (h : Stands total c groups r) (len : Nat) (hflags : r.flags = {})
    (hnum : r.numbered = false) (hs : s.IsPlain) (hc : c.Consistent)
    (htotal : (bindOne c s).2.size ≤ total) (hclear : clear rest = true) :
    ∃ groups' r', Extends r.groups groups groups' ∧
      Follows total (bindOne c s).2 groups' (segmentItemsAt (groupOf groups') c s) r r' ∧
      r'.flags = {} ∧ Leads len r ((bindOne c s).1.written ++ rest) r' rest := by
  cases s with
  | space =>
    obtain ⟨r', hr'⟩ := h.spelled len hflags hnum Grammar.spells_blanks hclear
    exact ⟨groups, r', extends_refl _ _, hr'⟩
  | text quoted =>
    have hquote := Reader.spells_quote (unquote quoted)
    rw [hs] at hquote
    obtain ⟨r', hr'⟩ := h.spelled len hflags hnum hquote hclear
    exact ⟨groups, r', extends_refl _ _, hr'⟩
  | token t =>
    obtain ⟨key, hkey⟩ := exists_key hs
    change (bindToken c t).2.size ≤ total at htotal
    change ∃ groups' r', Extends r.groups groups groups' ∧
      Follows total (bindToken c t).2 groups' [tokenItemAt (groupOf groups') c t] r r' ∧
      r'.flags = {} ∧ Leads len r ((bindToken c t).1.written ++ rest) r' rest
    cases hbound : c.bound.lookup key with
    | some n =>
      rw [(bindToken_again hkey hbound).1]
      obtain ⟨r', hr'⟩ := h.referenced len hflags hnum (hc key n hbound) rest
      refine ⟨groups, r', extends_refl _ _, ?_⟩
      rw [tokenItemAt_again hkey hbound]
      exact hr'
    | none =>
      rw [(bindToken_first hkey hbound).1] at htotal ⊢
      obtain ⟨groups', r', hgroups, hr'⟩ :=
        h.captured len hflags hnum hs (Captures.size_bind c key) htotal rest
      refine ⟨groups', r', hgroups, ?_⟩
      rw [tokenItemAt_first hkey hbound]
      exact hr'

/-! ## Raw expressions -/

/-- **A raw expression that can be read alone is read in its capture as it is read alone**, and what
stands behind it is read by a reader outside of any group. -/
theorem Stands.raw (h : Stands total c groups r) (hflags : r.flags = {}) {body : List Char}
    {source : Source} (hsource : Regex.parse body = .ok source)
    (hspaced : (Regex.flagsBehind body).spaced = false)
    (hnames : ∀ p ∈ source.names, ∀ n < total, p.1 ≠ captureName n)
    (hsize : c'.size = c.size + 1) (htotal : c'.size ≤ total)
    (hlen : Regex.byteLength body ≤ len)
    (hrun : Reader.run len fuel r (capture c.size body ++ rest) = .ok z)
    (hfuel : (capture c.size body ++ rest).length < fuel) :
    ∃ u e left b, Follows total c' (groups ++ [r.groups + 1]) [.group (r.groups + 1) e] r u ∧
      u.flags = Regex.flagsBehind body ∧ u.groups = r.groups + 1 + source.groups ∧
      e.shifted 0 = source.expr.shifted (r.groups + 1) ∧
      Reader.run len left u rest = .ok (z.recording b) ∧ rest.length < left := by
  rw [capture_append] at hrun hfuel
  obtain ⟨u, e, left, hpassed, hbehind, hgo, hleft⟩ :=
    Reader.run_captured (isName_captureName c.size) hflags hlen hsource hspaced hrun (by
      simpa using hfuel)
  obtain ⟨added, hadded, hlist⟩ := hpassed.names
  have hother : ∀ p ∈ added, ∀ n < total, p.1 ≠ (captureName n).toList := by
    intro p hp n hn heq
    have hmem : (String.ofList p.1, p.2) ∈ source.names.map fun p => (p.1, p.2 + (r.groups + 1)) :=
      hlist ▸ List.mem_map_of_mem hp
    obtain ⟨q, hq, hpair⟩ := List.mem_map.mp hmem
    refine hnames q hq n hn ?_
    rw [(Prod.mk.inj hpair).1, heq, String.ofList_toList]
  -- references by number in the body are forgotten: they could only make the rest unreadable
  obtain ⟨b, hgo⟩ := Reader.run_recording (b := false) nofun hgo
  refine ⟨u.recording false, e, left, b, ⟨?_, rfl, ?_, ?_⟩, hbehind, hpassed.groups,
    hpassed.shifted, hgo, hleft⟩
  · refine h.define hsize htotal (hpassed.outer.trans h.outer) ?_ hother hadded
    change r.groups < u.groups
    rw [hpassed.groups]
    omega
  · rw [Reader.settle_recording]
    exact hpassed.level
  · change r.groups ≤ u.groups
    rw [hpassed.groups]
    omega

/-! ## Whole patterns -/

/-- The raw expressions among the segments speak for themselves: each can be read alone and names no
group like one of the first `total` captures, and no flags are in force behind it, unless nothing
follows it. Even then blanks may not be skipped there, since a comment would go on behind it. -/
structure SelfContained (total : Nat) (segs : List Segment) : Prop where
  valid : ∀ body, .token (.raw body) ∈ segs → ∃ source, Regex.parse body = .ok source ∧
    ∀ p ∈ source.names, ∀ n < total, p.1 ≠ captureName n
  flags : ∀ front body back, segs = front ++ .token (.raw body) :: back →
    (Regex.flagsBehind body).spaced = false ∧ (back ≠ [] → Regex.flagsBehind body = {})

theorem SelfContained.tail {segs : List Segment} (h : SelfContained total (s :: segs)) :
    SelfContained total segs :=
  ⟨fun body hbody => h.valid body (List.mem_cons_of_mem s hbody),
    fun front body back hsplit => h.flags (s :: front) body back (congrArg (List.cons s) hsplit)⟩

/-- A raw expression. -/
def Segment.IsRaw (s : Segment) : Prop :=
  ∃ body, s = .token (.raw body)

theorem Captures.Consistent.step (hc : c.Consistent) (hs : s.IsPlain ∨ s.IsRaw) :
    (Pattern.bindOne c s).2.Consistent := by
  rcases hs with hs | ⟨body, rfl⟩
  · exact hc.bindOne hs
  · intro key n hn
    refine Nat.lt_of_lt_of_le (hc key n hn) ?_
    change c.categories.length ≤ (c.categories ++ [Category.other]).length
    rw [List.length_append]
    exact Nat.le_add_right _ _

theorem size_define (c : Captures) (category : Category) :
    (c.define category).size = c.size + 1 := by
  change (c.categories ++ [category]).length = _
  rw [List.length_append]
  rfl

/-- Captures are only added. -/
theorem size_le_bindOne (hs : s.IsPlain ∨ s.IsRaw) : c.size ≤ (bindOne c s).2.size := by
  rcases hs with hs | ⟨body, rfl⟩
  · cases s with
    | space | text _ => exact Nat.le_refl _
    | token t =>
      obtain ⟨key, hkey⟩ := exists_key hs
      change c.size ≤ (bindToken c t).2.size
      cases hbound : c.bound.lookup key with
      | some n => exact (bindToken_again hkey hbound).1 ▸ Nat.le_refl _
      | none =>
        rw [(bindToken_first hkey hbound).1, Captures.size_bind]
        exact Nat.le_succ _
  · exact size_define c .other ▸ Nat.le_succ _

theorem size_le_bindFrom {segs : List Segment} (hsegs : ∀ s ∈ segs, s.IsPlain ∨ s.IsRaw) :
    c.size ≤ (bindFrom c segs).2.size := by
  induction segs generalizing c with
  | nil => exact Nat.le_refl _
  | cons s segs ih =>
    obtain ⟨hs, hsegs⟩ := List.forall_mem_cons.mp hsegs
    rw [bindFrom_cons]
    exact Nat.le_trans (size_le_bindOne hs) (ih hsegs)

/-- What follows a part of the assembled text cannot be taken for more of that part. -/
theorem clear_assemble {segs : List Segment} (hsegs : ∀ s ∈ segs, s.IsPlain ∨ s.IsRaw)
    (hc : c.Consistent) : clear (assemble (bindFrom c segs).1) = true := by
  induction segs generalizing c with
  | nil => rfl
  | cons s segs ih =>
    obtain ⟨hs, hsegs⟩ := List.forall_mem_cons.mp hsegs
    rw [bindFrom_cons]
    have hrest := ih hsegs (hc.step hs)
    rcases hs with hs | ⟨body, rfl⟩
    · have hsome : Behind c { ({} : Reader) with
          groups := c.size, names := captureNames c.size } := ⟨rfl, rfl, rfl, rfl, rfl⟩
      exact (leads_segment 0 hs hc hsome hrest).1
    · rfl

/-- The links that the segments behind the captures `c` stand for, `num` telling the groups of all
captures, of which there are `total`. -/
inductive Linked (num : Nat → Nat) (total : Nat) : Captures → List Segment → List Link → Prop
  | nil (c : Captures) : Linked num total c [] []
  | plain {c : Captures} {s : Segment} {segs : List Segment} {links : List Link} (hs : s.IsPlain)
      (rest : Linked num total (bindOne c s).2 segs links) :
      Linked num total c (s :: segs) ((segmentItemsAt num c s).map .exact ++ links)
  | raw {c : Captures} {body : List Char} {segs : List Segment} {links : List Link} {e : Expr}
      {source : Source} {k : Nat} (hsource : Regex.parse body = .ok source)
      (hshifted : e.shifted 0 = source.expr.shifted k) (hmarks : ∀ n < total, num n ∉ e.marks)
      (rest : Linked num total (c.define .other) segs links) :
      Linked num total c (.token (.raw body) :: segs) (.loose (num c.size) e :: links)

/-- **The assembled text of segments is read as the links that they stand for.** -/
theorem links_of_run {segs : List Segment} (hsegs : ∀ s ∈ segs, s.IsPlain ∨ s.IsRaw)
    (hself : SelfContained total segs) (hc : c.Consistent)
    (htotal : (bindFrom c segs).2.size = total) (h : Stands total c groups r)
    (hflags : segs ≠ [] → r.flags = {}) (hnum : r.numbered = false)
    (hlen : ∀ body, .token (.raw body) ∈ segs → Regex.byteLength body ≤ len)
    (hrun : Reader.run len fuel r (assemble (bindFrom c segs).1) = .ok z)
    (hfuel : (assemble (bindFrom c segs).1).length < fuel) :
    ∃ groups' links, Extends r.groups groups groups' ∧
      Stands total (bindFrom c segs).2 groups' z ∧
      Linked (groupOf groups') total c segs links ∧
      z.settle.level = (r.settle.put (links.map Link.expr)).level := by
  -- the reader behind the first segment stands for the captures up to there, and reads on with the
  -- rest
  induction segs generalizing c groups r z fuel with
  | nil =>
    obtain ⟨fuel, rfl⟩ := Nat.exists_eq_succ_of_ne_zero (Nat.ne_zero_of_lt hfuel)
    obtain rfl : r = z := Except.ok.inj hrun
    exact ⟨groups, [], extends_refl _ _, h, .nil c, rfl⟩
  | cons s segs ih =>
    obtain ⟨hs, hrest⟩ := List.forall_mem_cons.mp hsegs
    have htext : assemble (bindFrom c (s :: segs)).1
        = (bindOne c s).1.written ++ assemble (bindFrom (bindOne c s).2 segs).1 := by
      rw [bindFrom_cons]
      rfl
    rw [bindFrom_cons] at htotal ⊢
    rw [htext] at hrun hfuel
    have hc' := hc.step hs
    have hsize : (bindOne c s).2.size ≤ total := htotal ▸ size_le_bindFrom hrest
    have hlen' := fun body hbody => hlen body (List.mem_cons_of_mem s hbody)
    rcases hs with hs | ⟨body, rfl⟩
    · obtain ⟨groups₁, r₁, hgroups₁, hfollows, hflags₁, hlead⟩ :=
        h.segment len (hflags (List.cons_ne_nil _ _)) hnum hs hc hsize (clear_assemble hrest hc')
      obtain ⟨left, hleft, hgo⟩ := hlead fuel hfuel
      rw [hgo] at hrun
      obtain ⟨groups', links, hgroups, hstands, hlinked, hlevel⟩ :=
        ih hrest hself.tail hc' htotal hfollows.stands (fun _ => hflags₁) hfollows.numbered hlen'
          hrun hleft
      refine ⟨groups', (segmentItemsAt (groupOf groups') c s).map .exact ++ links,
        hgroups₁.trans hgroups hfollows.le, hstands, .plain hs hlinked, ?_⟩
      -- the groups of later captures do not matter to what the first segment refers to
      have hitems : segmentItemsAt (groupOf groups₁) c s = segmentItemsAt (groupOf groups') c s :=
        segmentItemsAt_congr hs hc fun n hn =>
          (hgroups.groupOf (hfollows.stands.size.symm ▸ hn)).symm
      rw [hlevel, put_level hfollows.level, hitems, List.map_append, List.map_map]
      congr 2
      exact congrArg (· ++ _) (List.map_id _).symm
    · obtain ⟨source, hsource, hnames⟩ := hself.valid body List.mem_cons_self
      obtain ⟨hspaced, hbehind⟩ := hself.flags [] body segs rfl
      obtain ⟨u, e, left, b, hfollows, hflags₁, hcount, hshifted, hgo, hleft⟩ :=
        h.raw (hflags (List.cons_ne_nil _ _)) hsource hspaced hnames
          (size_define c .other) hsize (hlen body List.mem_cons_self) hrun hfuel
      obtain ⟨groups', links, hgroups, hstands, hlinked, hlevel⟩ :=
        ih hrest hself.tail hc' htotal hfollows.stands (fun hne => hflags₁.trans (hbehind hne))
          hfollows.numbered hlen' hgo hleft
      -- the group of the capture is the one that was opened next
      have hgroup : groupOf groups' c.size = r.groups + 1 := by
        rw [hgroups.groupOf (by rw [List.length_append, h.size]; exact Nat.lt_succ_self _),
          groupOf_concat h.size]
      refine ⟨groups', .loose (groupOf groups' c.size) e :: links,
        (extends_concat _ _).trans hgroups hfollows.le,
        hstands.congr rfl rfl rfl, .raw hsource hshifted ?_ hlinked, ?_⟩
      · -- the body has the numbers between its capture and all later ones
        intro n hn hmem
        have hgroup : groupOf groups' n ∈ groups' :=
          groupOf_mem (hstands.size.trans htotal ▸ hn)
        obtain ⟨more, rfl, hmore⟩ := hgroups
        have hmarks := Expr.marks_of_shifted (Regex.proper_of_parse hsource) hshifted hmem
        rcases List.mem_append.mp hgroup with hold | hlater
        · rcases List.mem_append.mp hold with hold | hown
          · have := h.bounds _ hold
            omega
          · have := List.mem_singleton.mp hown
            omega
        · have := hmore _ hlater
          omega
      · rw [Reader.settle_recording] at hlevel
        rw [List.map_cons, Link.expr, hgroup]
        exact hlevel.trans (put_level hfollows.level _)

end CodeShape.Pattern
