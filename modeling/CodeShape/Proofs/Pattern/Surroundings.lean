import CodeShape.Proofs.Pattern.Embedding

/-!
# What stands around raw expressions

A pattern with raw expressions means a way of splitting a text, too: a raw expression may stand for
any part of the text, and all that stands around it for what it stands for in a pattern without raw
expressions (`SplitsAround`). Without raw expressions this is just what `Splits` says
(`splitsAround_iff`). A walk over the links of some segments is such a split
(`splitsAround_of_walk`), since the links do not touch each other's groups
(`Linked.suits`, `Linked.apart`).
-/

namespace CodeShape.Pattern

open Regex (Expr Link Occurs Slots Subject Way Ways Walk Apart)

variable {text : Array Char} {b b' b₁ : Bindings} {i j k : Nat} {p : Part} {ps : List Part}

/-! ## Splits around raw expressions -/

/-- `SplitsAround text b i ps k b'`: from `i` to `k` the text consists of the parts `ps`, of which
those of raw expressions are any parts of the text, and the others are as in a pattern without raw
expressions. -/
inductive SplitsAround (text : Array Char) : Bindings → Nat → List Part → Nat → Bindings → Prop
  | nil {b : Bindings} {i : Nat} (hi : i ≤ text.size) : SplitsAround text b i [] i b
  | plain {b b₁ b' : Bindings} {i j k : Nat} {p : Part} {ps : List Part}
      (head : Splits text b i [p] j b₁) (rest : SplitsAround text b₁ j ps k b') :
      SplitsAround text b i (p :: ps) k b'
  | raw {b b' : Bindings} {i j k : Nat} {ps : List Part} {body : List Char} (hle : i ≤ j)
      (hsize : j ≤ text.size) (rest : SplitsAround text b j ps k b') :
      SplitsAround text b i (⟨.token (.raw body), i, j⟩ :: ps) k b'

/-- The texts of the parts of raw expressions. -/
def rawTexts (text : Array Char) (ps : List Part) : List (List Char) :=
  ps.filterMap fun p =>
    match p.segment with
    | .token (.raw _) => some (text.extract p.start p.stop).toList
    | _ => none

theorem rawTexts_cons_plain (hp : p.segment.IsPlain) (ps : List Part) :
    rawTexts text (p :: ps) = rawTexts text ps := by
  obtain ⟨s, i, j⟩ := p
  refine List.filterMap_cons_none ?_
  cases s with
  | token t =>
    cases t with
    | raw body => exact absurd rfl (hp body)
    | _ => rfl
  | _ => rfl

theorem rawTexts_cons_raw (text : Array Char) (body : List Char) (i j : Nat) (ps : List Part) :
    rawTexts text (⟨.token (.raw body), i, j⟩ :: ps)
      = (text.extract i j).toList :: rawTexts text ps :=
  rfl

namespace SplitsAround

/-- The parts lie within the text, one behind the other. -/
theorem le (h : SplitsAround text b i ps k b') : i ≤ k ∧ k ≤ text.size := by
  induction h with
  | nil hi => exact ⟨Nat.le_refl _, hi⟩
  | plain head _ ih => exact ⟨Nat.le_trans head.le.1 ih.1, ih.2⟩
  | raw hle _ _ ih => exact ⟨Nat.le_trans hle ih.1, ih.2⟩

/-- The parts behind the first one are split from where it ends. -/
theorem tail (h : SplitsAround text b i (p :: ps) k b') :
    p.start = i ∧ ∃ b₁, SplitsAround text b₁ p.stop ps k b' := by
  cases h with
  | raw _ _ rest => exact ⟨rfl, _, rest⟩
  | plain head rest =>
    obtain ⟨hstart, -, _, hnil⟩ := head.tail
    obtain rfl := hnil.stop_eq
    exact ⟨hstart, _, rest⟩

/-- No parts take nothing. -/
theorem stop_eq (h : SplitsAround text b i [] k b') : k = i := by
  cases h
  rfl

/-- Each placeholder is bound once. -/
theorem nodup (h : SplitsAround text b i ps k b') (hb : (b.map (·.1)).Nodup) :
    (b'.map (·.1)).Nodup := by
  induction h with
  | nil _ => exact hb
  | plain head _ ih => exact ih (head.nodup hb)
  | raw _ _ _ ih => exact ih hb

/-- The placeholders are bound to their first uses, in the order in which these come. -/
theorem eq_append_firstUses (h : SplitsAround text b i ps k b') :
    b' = b ++ Bindings.unbound b (firstUses text ps) := by
  induction h with
  | nil _ => exact (List.append_nil _).symm
  | raw _ _ _ ih => rw [firstUses_cons_none rfl, ← ih]
  | @plain b b₁ b' i j k p ps head _ ih =>
    have hhead := head.eq_append_firstUses
    cases hkey : p.segment.key? with
    | none =>
      rw [firstUses_cons_none hkey] at hhead ⊢
      obtain rfl : b₁ = b := hhead.trans (List.append_nil b)
      exact ih
    | some key =>
      rw [firstUses_cons_some hkey] at hhead ⊢
      cases hbound : b.lookup key with
      | none =>
        -- bound here, and used elsewhere only later
        rw [Bindings.unbound_cons_new hbound] at hhead ⊢
        have hb₁ : b₁ = b ++ [(key, (text.extract p.start p.stop).toList)] := hhead
        rw [← Bindings.unbound_bind, List.append_cons, ← hb₁]
        exact ih
      | some cs =>
        rw [Bindings.unbound_cons_old hbound] at hhead ⊢
        obtain rfl : b₁ = b := hhead.trans (List.append_nil b)
        rw [Bindings.unbound_filter hbound]
        exact ih

/-- Nothing being bound before, the placeholders are bound to their first uses. -/
theorem eq_firstUses (h : SplitsAround text [] i ps k b) : b = firstUses text ps := by
  rw [h.eq_append_firstUses, List.nil_append]
  exact List.filter_eq_self.mpr fun _ _ => rfl

/-- What is bound stays bound. -/
theorem lookup_mono (h : SplitsAround text b i ps k b') {key : Category × Identity}
    {cs : List Char} (hbound : b.lookup key = some cs) : b'.lookup key = some cs := by
  induction h with
  | nil _ => exact hbound
  | plain head _ ih => exact ih (head.lookup_mono hbound)
  | raw _ _ _ ih => exact ih hbound

/-- Each part but those of raw expressions is as in a pattern without raw expressions, and what is
bound by it stays bound. -/
theorem part_of_mem (h : SplitsAround text b i ps k b') (hp : p ∈ ps) (hraw : ¬ p.segment.IsRaw) :
    ∃ b₀ b₁, Splits text b₀ p.start [p] p.stop b₁ ∧
      ∀ key cs, b₁.lookup key = some cs → b'.lookup key = some cs := by
  induction h with
  | nil _ => exact absurd hp List.not_mem_nil
  | raw _ _ _ ih =>
    rcases List.mem_cons.mp hp with rfl | hp
    · exact absurd ⟨_, rfl⟩ hraw
    · exact ih hp
  | plain head rest ih =>
    rcases List.mem_cons.mp hp with rfl | hp
    · obtain ⟨b₁, hhead, hnil⟩ := head.uncons
      obtain rfl := hnil.stop_eq
      obtain rfl := head.tail.1
      exact ⟨_, _, head, fun key cs hbound => rest.lookup_mono hbound⟩
    · exact ih hp

/-- Plain text stands for its own characters. -/
theorem text_of_mem (h : SplitsAround text b i ps k b') (hp : p ∈ ps) {quoted : List Char}
    (hseg : p.segment = .text quoted) : Occurs text (unquote quoted) p.start p.stop := by
  obtain ⟨_, _, hpart, -⟩ := h.part_of_mem hp (by rw [hseg]; exact nofun)
  obtain ⟨s, i, j⟩ := p
  obtain rfl : s = .text quoted := hseg
  cases hpart with
  | text hcs _ => exact hcs

/-- Blanks stand for blanks. -/
theorem blanks_of_mem (h : SplitsAround text b i ps k b') (hp : p ∈ ps)
    (hseg : p.segment = .space) :
    ∃ cs, Occurs text cs p.start p.stop ∧ ∀ c ∈ cs, Unicode.isBlank c = true := by
  obtain ⟨_, _, hpart, -⟩ := h.part_of_mem hp (by rw [hseg]; exact nofun)
  obtain ⟨s, i, j⟩ := p
  obtain rfl : s = .space := hseg
  cases hpart with
  | space hcs hblank _ => exact ⟨_, hcs, hblank⟩

/-- Every use of a placeholder stands for what it is bound to. -/
theorem use_of_mem (h : SplitsAround text b i ps k b') (hp : p ∈ ps) {key : Category × Identity}
    (hkey : p.segment.key? = some key) :
    ∃ cs, b'.lookup key = some cs ∧ Occurs text cs p.start p.stop := by
  obtain ⟨s, i, j⟩ := p
  obtain ⟨t, rfl⟩ : ∃ t, s = .token t := by
    cases s with
    | token t => exact ⟨t, rfl⟩
    | _ => cases hkey
  have hraw : ¬ (Segment.token t).IsRaw := by
    rintro ⟨body, heq⟩
    cases heq
    cases hkey
  obtain ⟨b₀, _, hpart, hkept⟩ := h.part_of_mem hp hraw
  cases hpart with
  | @first _ _ _ _ _ _ _ key' cs hkey' hnew _ hcs hnil =>
    obtain rfl := Option.some.inj (hkey.symm.trans hkey')
    cases hnil
    refine ⟨cs, hkept _ cs ?_, hcs⟩
    rw [List.lookup_append, hnew, Option.none_or, List.lookup_cons_self]
  | @again _ _ _ _ _ _ _ key' cs hkey' hbound hcs hnil =>
    obtain rfl := Option.some.inj (hkey.symm.trans hkey')
    cases hnil
    exact ⟨cs, hkept _ cs hbound, hcs⟩

end SplitsAround

/-- **Without raw expressions, nothing is split otherwise.** -/
theorem splitsAround_iff (hps : ∀ q ∈ ps, q.segment.IsPlain) :
    SplitsAround text b i ps k b' ↔ Splits text b i ps k b' := by
  constructor
  · intro h
    induction h with
    | nil hi => exact .nil hi
    | plain head _ ih => exact head.append (ih (List.forall_mem_cons.mp hps).2)
    | raw _ _ _ _ => exact absurd rfl ((List.forall_mem_cons.mp hps).1 _)
  · intro h
    induction ps generalizing b i with
    | nil =>
      cases h with
      | nil hi => exact .nil hi
    | cons p ps ih =>
      obtain ⟨b₁, hhead, hrest⟩ := h.uncons
      exact .plain hhead (ih (List.forall_mem_cons.mp hps).2 hrest)

/-! ## Groups of links -/

variable {num : Nat → Nat} {total : Nat} {c : Captures} {s : Segment} {segs : List Segment}
  {links : List Link}

/-- The first `total` captures have different groups, none of which is that of the whole match. -/
structure Numbers (num : Nat → Nat) (total : Nat) : Prop where
  ne_zero : ∀ n < total, num n ≠ 0
  ne : ∀ n < total, ∀ m < n, num m ≠ num n

/-- Where the reader stands behind all captures, these have different groups. -/
theorem Stands.numbers {groups : List Nat} {r : Regex.Reader} (h : Stands total c groups r) :
    Numbers (groupOf groups) c.size := by
  refine ⟨fun n hn => ?_, fun n hn m hm => ?_⟩
  · exact Nat.ne_of_gt (h.bounds _ (groupOf_mem (h.size.symm ▸ hn))).1
  · have hn' : n < groups.length := h.size.symm ▸ hn
    have hm' : m < groups.length := Nat.lt_trans hm hn'
    have hlt := List.pairwise_iff_getElem.mp h.ordered m n hm' hn' hm
    unfold groupOf
    rw [List.getD_eq_getElem?_getD, List.getD_eq_getElem?_getD, List.getElem?_eq_getElem hm',
      List.getElem?_eq_getElem hn']
    exact Nat.ne_of_lt hlt

section Links

variable (hnum : Numbers num total)
include hnum

/-- The links behind some captures leave the groups of these alone. -/
theorem Linked.marks (h : Linked num total c segs links)
    (hsize : (bindFrom c segs).2.size ≤ total) (hsegs : ∀ s ∈ segs, s.IsPlain ∨ s.IsRaw) :
    ∀ l ∈ links, ∀ n < c.size, num n ∉ l.marks := by
  induction h with
  | nil c => exact nofun
  | @plain c s segs links hs _ ih =>
    obtain ⟨hs', hsegs⟩ := List.forall_mem_cons.mp hsegs
    rw [bindFrom_cons] at hsize
    have hle := size_le_bindOne (c := c) hs'
    have hmore : (bindOne c s).2.size ≤ total := Nat.le_trans (size_le_bindFrom hsegs) hsize
    intro l hl n hn
    rcases List.mem_append.mp hl with hl | hl
    · obtain ⟨e, he, rfl⟩ := List.mem_map.mp hl
      obtain ⟨-, horder, -, hgroups⟩ := segmentItemsAt_suitable num c hs e he
      intro hmem
      obtain ⟨heq, hgrows⟩ := hgroups _ (Expr.mem_groups_of_marks horder hmem)
      exact hnum.ne c.size (Nat.lt_of_lt_of_le hgrows hmore) n hn heq
    · exact ih hsize hsegs l hl n (Nat.lt_of_lt_of_le hn hle)
  | @raw c body segs links e source k _ _ hmarks _ ih =>
    obtain ⟨-, hsegs⟩ := List.forall_mem_cons.mp hsegs
    have hmore : c.size < total := by
      refine Nat.lt_of_lt_of_le ?_ (Nat.le_trans (size_le_bindFrom hsegs) hsize)
      exact size_define c .other ▸ Nat.lt_succ_self _
    intro l hl n hn
    rcases List.mem_cons.mp hl with rfl | hl
    · intro hmem
      rcases List.mem_cons.mp hmem with heq | hmem
      · exact hnum.ne c.size hmore n hn heq
      · exact hmarks n (Nat.lt_trans hn hmore) hmem
    · exact ih hsize hsegs l hl n (size_define c .other ▸ Nat.lt_succ_of_lt hn)

/-- The links own groups of later captures only. -/
theorem Linked.suits (h : Linked num total c segs links)
    (hsize : (bindFrom c segs).2.size ≤ total) (hsegs : ∀ s ∈ segs, s.IsPlain ∨ s.IsRaw) :
    ∀ l ∈ links, l.Suits := by
  induction h with
  | nil c => exact nofun
  | @plain c s segs links hs _ ih =>
    obtain ⟨-, hsegs⟩ := List.forall_mem_cons.mp hsegs
    rw [bindFrom_cons] at hsize
    have hmore : (bindOne c s).2.size ≤ total := Nat.le_trans (size_le_bindFrom hsegs) hsize
    refine List.forall_mem_append.mpr ⟨List.forall_mem_map.mpr fun e he => ?_, ih hsize hsegs⟩
    obtain ⟨hitems, horder, htidy, hgroups⟩ := segmentItemsAt_suitable num c hs e he
    refine ⟨hitems, horder, htidy, fun hzero => ?_⟩
    obtain ⟨heq, hgrows⟩ := hgroups 0 hzero
    exact hnum.ne_zero c.size (Nat.lt_of_lt_of_le hgrows hmore) heq.symm
  | @raw c body segs links e source k hsource hshifted hmarks _ ih =>
    obtain ⟨-, hsegs⟩ := List.forall_mem_cons.mp hsegs
    have hmore : c.size < total := by
      refine Nat.lt_of_lt_of_le ?_ (Nat.le_trans (size_le_bindFrom hsegs) hsize)
      exact size_define c .other ▸ Nat.lt_succ_self _
    refine List.forall_mem_cons.mpr ⟨⟨?_, hmarks _ hmore, hnum.ne_zero _ hmore⟩, ih hsize hsegs⟩
    have hbounded := congrArg Expr.bounded hshifted
    rw [Expr.bounded_shifted, Expr.bounded_shifted] at hbounded
    exact hbounded.trans (Regex.proper_of_parse hsource).bounded

/-- Later links leave the groups of earlier ones alone. -/
theorem Linked.apart (h : Linked num total c segs links)
    (hsize : (bindFrom c segs).2.size ≤ total) (hsegs : ∀ s ∈ segs, s.IsPlain ∨ s.IsRaw) :
    Apart links := by
  induction h with
  | nil c => exact List.Pairwise.nil
  | @plain c s segs links hs rest ih =>
    obtain ⟨-, hsegs⟩ := List.forall_mem_cons.mp hsegs
    rw [bindFrom_cons] at hsize
    have hmarks := Linked.marks hnum rest hsize hsegs
    have hsuitable := segmentItemsAt_suitable num c hs
    refine List.pairwise_append.mpr ⟨?_, ih hsize hsegs, ?_⟩
    · -- no two items of one segment have groups
      cases s with
      | space | token _ => exact List.pairwise_singleton _ _
      | text quoted =>
        refine List.pairwise_of_forall_mem_list fun l hl l' _ => ?_
        obtain ⟨e, he, rfl⟩ := List.mem_map.mp hl
        obtain ⟨ch, -, rfl⟩ := List.mem_map.mp he
        exact nofun
    · intro l hl l' hl' g hg
      obtain ⟨e, he, rfl⟩ := List.mem_map.mp hl
      obtain ⟨rfl, hgrows⟩ := (hsuitable e he).2.2.2 g hg
      exact hmarks l' hl' c.size hgrows
  | @raw c body segs links e source k _ _ _ rest ih =>
    obtain ⟨-, hsegs⟩ := List.forall_mem_cons.mp hsegs
    have hmarks := Linked.marks hnum rest hsize hsegs
    refine List.pairwise_cons.mpr ⟨fun l hl g hg => ?_, ih hsize hsegs⟩
    rw [List.mem_singleton.mp hg]
    exact hmarks l hl c.size (size_define c .other ▸ Nat.lt_succ_self _)

/-! ## From walks to splits -/

/-- **A walk over the links of some segments is a split around the raw expressions among them**, and
the slots hold what the captures have taken. -/
theorem splitsAround_of_walk {t : Subject} {taken : Taken} {slots : Slots} {w : Way}
    (h : Linked num total c segs links) (hsize : (bindFrom c segs).2.size ≤ total)
    (hsegs : ∀ s ∈ segs, s.IsPlain ∨ s.IsRaw) (hholds : Holds num t.text c taken slots)
    (hi : i ≤ t.text.size) (hwalk : Walk t links (i, slots) w) :
    ∃ ps taken', ps.map (·.segment) = segs ∧
      SplitsAround t.text taken.bindings i ps w.1 taken'.bindings ∧
      Holds num t.text (bindFrom c segs).2 taken' w.2 ∧
      taken'.raws = taken.raws ++ rawTexts t.text ps := by
  -- over the segments that are left, what the captures have taken so far being held by the slots
  induction h generalizing i slots taken with
  | nil c =>
    cases hwalk
    exact ⟨[], taken, rfl, .nil hi, hholds, (List.append_nil _).symm⟩
  | @plain c s segs links hs _ ih =>
    obtain ⟨-, hrest⟩ := List.forall_mem_cons.mp hsegs
    rw [bindFrom_cons] at hsize ⊢
    have hmore : (bindOne c s).2.size ≤ total := Nat.le_trans (size_le_bindFrom hrest) hsize
    obtain ⟨v, hv, hwalk⟩ := hwalk.of_exact
    obtain ⟨more, hvsize, hholds', hpart⟩ := hholds.part hs
      (fun hgrows => hnum.ne c.size (Nat.lt_of_lt_of_le hgrows hmore)) hi hv
    obtain ⟨ps, taken', hps, hsplits, hholds'', hraws⟩ := ih hsize hrest hholds' hvsize hwalk
    rw [Taken.bindings_append, Bindings.bindings_taken] at hsplits
    refine ⟨⟨s, i, v.1⟩ :: ps, taken', congrArg (s :: ·) hps, .plain ?_ hsplits, hholds'', ?_⟩
    · exact (hpart [] v.1 _).mpr (.nil hvsize)
    · rw [hraws, Taken.raws_append, Bindings.raws_taken, List.append_nil,
        rawTexts_cons_plain (p := ⟨s, i, v.1⟩) hs]
  | @raw c body segs links e source k _ _ hmarks _ ih =>
    obtain ⟨-, hrest⟩ := List.forall_mem_cons.mp hsegs
    have hmore : c.size < total := by
      refine Nat.lt_of_lt_of_le ?_ (Nat.le_trans (size_le_bindFrom hrest) hsize)
      exact size_define c .other ▸ Nat.lt_succ_self _
    cases hwalk with
    | @cons _ _ _ v _ head tail =>
      -- a raw expression may roam within the text, but it leaves the groups of all captures but its
      -- own alone
      obtain ⟨hroams, hspan⟩ := head
      have hvsize : v.1 ≤ t.text.size := hroams.within.elim (fun heq => heq ▸ hi) id
      have hle : i ≤ v.1 := hroams.le
      have hold : Holds num t.text c taken v.2 := hholds.congr fun n hn => by
        refine hroams.span? ?_
        rw [List.mem_cons, not_or]
        exact ⟨hnum.ne c.size hmore n hn, hmarks n (Nat.lt_trans hn hmore)⟩
      have hcs := Regex.occurs_extract hle hvsize
      obtain ⟨ps, taken', hps, hsplits, hholds', hraws⟩ :=
        ih hsize hrest (hold.define hcs hspan) hvsize tail
      have hbindings : Taken.bindings (taken ++ [(none, (t.text.extract i v.1).toList)])
          = taken.bindings := by
        rw [Taken.bindings_append]
        exact List.append_nil _
      rw [hbindings] at hsplits
      refine ⟨⟨.token (.raw body), i, v.1⟩ :: ps, taken', congrArg (_ :: ·) hps,
        .raw hle hvsize hsplits, hholds', ?_⟩
      rw [hraws, Taken.raws_append, rawTexts_cons_raw, List.append_cons]
      rfl

end Links

end CodeShape.Pattern
