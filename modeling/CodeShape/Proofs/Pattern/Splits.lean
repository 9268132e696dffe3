import Mathlib.Data.List.Nodup
import Mathlib.Data.List.TakeWhile
import CodeShape.Pattern.Fragment
import CodeShape.Proofs.Grammar.Words

/-!
# What a pattern means

A pattern means a way of splitting a text into consecutive parts, one for each of its segments
(`Splits`). Blanks stand for a run of blanks, plain text for itself, and a placeholder for a word of
its kind where it is used first and for the very same characters where it is used again; `Bindings`
keep what has been used first. The segments are those of the pattern as it is searched for, blanks
merged and dropped at the ends: `layout` does to segments what `relax` does to the fragments that
are made of them (`bind_layout`).
-/

namespace CodeShape.Pattern

open Regex (Occurs)

/-! ## Segments -/

/-- Takes the backslashes out of quoted text. -/
def unquote : List Char → List Char
  | '\\' :: c :: rest => c :: unquote rest
  | c :: rest => c :: unquote rest
  | [] => []

theorem unquote_quote (text : List Char) : unquote (Regex.quote text) = text := by
  induction text with
  | nil => rfl
  | cons c text ih =>
    have hquote : Regex.quote (c :: text)
        = (if Regex.isSpecial c then ['\\', c] else [c]) ++ Regex.quote text := rfl
    rw [hquote]
    by_cases hc : Regex.isSpecial c = true
    · rw [if_pos hc]
      show c :: unquote (Regex.quote text) = c :: text
      rw [ih]
    · rw [if_neg hc, List.singleton_append, unquote, ih]
      rintro _ _ rfl
      exact absurd rfl hc

/-- A segment that a pattern without raw expressions may have: its text is quoted, and its
placeholder is no raw expression. -/
def Segment.IsPlain : Segment → Prop
  | .space => True
  | .text quoted => Regex.quote (unquote quoted) = quoted
  | .token t => ∀ body, t ≠ .raw body

/-- A text is split into blanks and runs of what stands between them. -/
theorem mem_splitBlanks {ds : List Char} {s : Segment} (h : s ∈ splitBlanks ds) :
    s = .space ∨ ∃ run, s = .text (Regex.quote run) ∧ run ≠ [] ∧ run <:+: ds ∧
      ∀ c ∈ run, Unicode.isBlank c = false := by
  fun_induction splitBlanks ds with
  | case1 => exact absurd h List.not_mem_nil
  | case2 c rest hblank ih =>
    rcases List.mem_cons.mp h with hfirst | h
    · exact .inl hfirst
    · rcases ih h with hspace | ⟨run, hs, hne, hrun, hink⟩
      · exact .inl hspace
      · have hlater : rest.dropWhile Unicode.isBlank <:+: c :: rest :=
          ((List.dropWhile_suffix _).trans (List.suffix_cons c rest)).isInfix
        exact .inr ⟨run, hs, hne, hrun.trans hlater, hink⟩
  | case3 c rest hblank inText ih =>
    rcases List.mem_cons.mp h with hfirst | h
    · have hfront : c :: rest.takeWhile inText <:+: c :: rest :=
        ((List.prefix_cons_inj c).mpr (List.takeWhile_prefix _)).isInfix
      refine .inr ⟨_, hfirst, List.cons_ne_nil _ _, hfront, List.forall_mem_cons.mpr ⟨?_, ?_⟩⟩
      · exact eq_false_of_ne_true hblank
      · intro d hd
        have hin : inText d = true := List.mem_takeWhile_imp hd
        simpa [inText] using hin
    · rcases ih h with hspace | ⟨run, hs, hne, hrun, hink⟩
      · exact .inl hspace
      · have hlater : rest.dropWhile inText <:+: c :: rest :=
          ((List.dropWhile_suffix _).trans (List.suffix_cons c rest)).isInfix
        exact .inr ⟨run, hs, hne, hrun.trans hlater, hink⟩

/-- What a placeholder is bound by: its category together with its identity. -/
def Token.key? (t : Token) : Option (Category × Identity) :=
  t.identity?.map fun id => (t.category, id)

/-- What a segment is bound by, if it is a placeholder. -/
def Segment.key? : Segment → Option (Category × Identity)
  | .token t => t.key?
  | _ => none

/-! ## Layout -/

/-- Merges blanks that stand side by side. -/
def mergeBlanks : List Segment → List Segment
  | .space :: .space :: rest => mergeBlanks (.space :: rest)
  | s :: rest => s :: mergeBlanks rest
  | [] => []

/-- Drops the blanks at the end. -/
def dropLastBlank (segments : List Segment) : List Segment :=
  if segments.getLast? = some .space then segments.dropLast else segments

/-- Drops the blanks at the beginning. -/
def dropFirstBlank : List Segment → List Segment
  | .space :: rest => rest
  | segments => segments

/-- The segments that are searched for: blanks are merged and dropped at the ends. -/
def layout (segments : List Segment) : List Segment :=
  dropLastBlank (dropFirstBlank (mergeBlanks segments))

/-- The fragment of one segment, and the captures behind it. -/
def bindOne (c : Captures) : Segment → Fragment × Captures
  | .space => (.space, c)
  | .text quoted => (.expr quoted, c)
  | .token t => bindToken c t

theorem bindFrom_cons (c : Captures) (s : Segment) (rest : List Segment) :
    bindFrom c (s :: rest) = ((bindOne c s).1 :: (bindFrom (bindOne c s).2 rest).1,
      (bindFrom (bindOne c s).2 rest).2) := by
  cases s <;> rfl

theorem bindFrom_append (c : Captures) (segs more : List Segment) :
    bindFrom c (segs ++ more) = ((bindFrom c segs).1 ++ (bindFrom (bindFrom c segs).2 more).1,
      (bindFrom (bindFrom c segs).2 more).2) := by
  induction segs generalizing c with
  | nil => rfl
  | cons s segs ih =>
    rw [List.cons_append, bindFrom_cons, bindFrom_cons, ih]
    rfl

theorem bindToken_ne_space (c : Captures) (t : Token) : (bindToken c t).1 ≠ .space := by
  unfold bindToken
  dsimp only
  split
  · exact nofun
  · split
    · exact nofun
    · exact nofun

theorem bindOne_eq_space {c : Captures} {s : Segment} :
    (bindOne c s).1 = .space ↔ s = .space := by
  cases s with
  | space => exact iff_of_true rfl rfl
  | text quoted => exact iff_of_false nofun nofun
  | token t => exact iff_of_false (bindToken_ne_space c t) nofun

theorem bindFrom_mergeBlanks (c : Captures) (segs : List Segment) :
    bindFrom c (mergeBlanks segs) = (mergeSpaces (bindFrom c segs).1, (bindFrom c segs).2) := by
  fun_induction mergeBlanks segs generalizing c with
  | case1 rest ih =>
    rw [ih, bindFrom_cons, bindFrom_cons, bindFrom_cons]
    rfl
  | case2 s rest hnot ih =>
    rw [bindFrom_cons, bindFrom_cons, ih]
    have hmerge : mergeSpaces ((bindOne c s).1 :: (bindFrom (bindOne c s).2 rest).1)
        = (bindOne c s).1 :: mergeSpaces (bindFrom (bindOne c s).2 rest).1 := by
      rw [mergeSpaces]
      intro more hs hrest
      rw [bindOne_eq_space] at hs
      cases rest with
      | nil => cases hrest
      | cons s' rest =>
        rw [bindFrom_cons] at hrest
        have hs' := bindOne_eq_space.mp (List.cons.inj hrest).1
        exact hnot rest hs (by rw [hs'])
    rw [hmerge]
  | case3 => rfl

theorem bindFrom_dropFirstBlank (c : Captures) (segs : List Segment) :
    bindFrom c (dropFirstBlank segs)
      = (dropFirstSpace (bindFrom c segs).1, (bindFrom c segs).2) := by
  cases segs with
  | nil => rfl
  | cons s rest =>
    by_cases hs : s = .space
    · rw [hs]
      rfl
    · have hseg : dropFirstBlank (s :: rest) = s :: rest := by
        rw [dropFirstBlank]
        exact fun _ h => hs (List.cons.inj h).1
      have hfrag : dropFirstSpace (bindFrom c (s :: rest)).1 = (bindFrom c (s :: rest)).1 := by
        rw [bindFrom_cons, dropFirstSpace]
        exact fun _ h => hs (bindOne_eq_space.mp (List.cons.inj h).1)
      rw [hseg, hfrag]

theorem bindFrom_dropLastBlank (c : Captures) (segs : List Segment) :
    bindFrom c (dropLastBlank segs) = (dropLastSpace (bindFrom c segs).1, (bindFrom c segs).2) := by
  rcases List.eq_nil_or_concat segs with rfl | ⟨init, s, rfl⟩
  · rfl
  · have hlast : bindFrom c (init ++ [s])
        = ((bindFrom c init).1 ++ [(bindOne (bindFrom c init).2 s).1],
          (bindOne (bindFrom c init).2 s).2) := by
      rw [bindFrom_append, bindFrom_cons]
      rfl
    unfold dropLastBlank dropLastSpace
    rw [List.concat_eq_append, hlast]
    simp only [List.getLast?_concat, List.dropLast_concat, Option.some.injEq, bindOne_eq_space]
    by_cases hs : s = .space
    · rw [if_pos hs, if_pos hs, hs]
      rfl
    · rw [if_neg hs, if_neg hs, hlast]

/-- Laying out the segments is relaxing the fragments that are made of them. -/
theorem bind_layout (segs : List Segment) :
    bind (layout segs) = (relax (bind segs).1, (bind segs).2) := by
  unfold bind layout relax
  rw [bindFrom_dropLastBlank, bindFrom_dropFirstBlank, bindFrom_mergeBlanks]

theorem mem_mergeBlanks {s : Segment} (segs : List Segment) : s ∈ mergeBlanks segs → s ∈ segs := by
  fun_induction mergeBlanks segs with
  | case1 rest ih => exact fun h => List.mem_cons_of_mem _ (ih h)
  | case2 s' rest _ ih =>
    intro h
    rcases List.mem_cons.mp h with rfl | h
    · exact List.mem_cons_self
    · exact List.mem_cons_of_mem _ (ih h)
  | case3 => exact id

/-- Laying out adds no segments. -/
theorem mem_of_mem_layout {s : Segment} {segs : List Segment} (h : s ∈ layout segs) :
    s ∈ segs := by
  unfold layout dropLastBlank at h
  have hfirst : s ∈ dropFirstBlank (mergeBlanks segs) := by
    split at h
    · exact List.dropLast_subset _ h
    · exact h
  refine mem_mergeBlanks segs ?_
  unfold dropFirstBlank at hfirst
  split at hfirst
  next heq =>
    rw [heq]
    exact List.mem_cons_of_mem _ hfirst
  next => exact hfirst

/-! ## Splits -/

/-- What the placeholders of a pattern stand for, in the order of their first uses. -/
abbrev Bindings := List ((Category × Identity) × List Char)

/-- A part of a text, from `start` up to `stop`, and the segment that it belongs to. -/
structure Part where
  segment : Segment
  start : Nat
  stop : Nat
deriving Repr, DecidableEq

variable {text : Array Char} {b b' b'' b₁ : Bindings} {i j k : Nat} {p : Part} {ps qs : List Part}

/-- `Splits text b i ps k b'`: from `i` to `k` the text consists of the parts `ps`, where `b` holds
the placeholders used before and `b'` those used then. -/
inductive Splits (text : Array Char) : Bindings → Nat → List Part → Nat → Bindings → Prop
  | nil {b : Bindings} {i : Nat} (hi : i ≤ text.size) : Splits text b i [] i b
  | space {b b' : Bindings} {i j k : Nat} {ps : List Part} {cs : List Char}
      (hcs : Occurs text cs i j) (hblank : ∀ c ∈ cs, Unicode.isBlank c = true)
      (rest : Splits text b j ps k b') : Splits text b i (⟨.space, i, j⟩ :: ps) k b'
  | text {b b' : Bindings} {i j k : Nat} {ps : List Part} {quoted : List Char}
      (hcs : Occurs text (unquote quoted) i j) (rest : Splits text b j ps k b') :
      Splits text b i (⟨.text quoted, i, j⟩ :: ps) k b'
  | first {b b' : Bindings} {i j k : Nat} {ps : List Part} {t : Token}
      {key : Category × Identity} {cs : List Char} (hkey : t.key? = some key)
      (hnew : b.lookup key = none) (hword : t.Stands text i j) (hcs : Occurs text cs i j)
      (rest : Splits text (b ++ [(key, cs)]) j ps k b') :
      Splits text b i (⟨.token t, i, j⟩ :: ps) k b'
  | again {b b' : Bindings} {i j k : Nat} {ps : List Part} {t : Token}
      {key : Category × Identity} {cs : List Char} (hkey : t.key? = some key)
      (hbound : b.lookup key = some cs) (hcs : Occurs text cs i j)
      (rest : Splits text b j ps k b') : Splits text b i (⟨.token t, i, j⟩ :: ps) k b'

namespace Splits

/-- The parts of a split lie within the text, one behind the other. -/
theorem le (h : Splits text b i ps k b') : i ≤ k ∧ k ≤ text.size := by
  induction h with
  | nil hi => exact ⟨Nat.le_refl _, hi⟩
  | space hcs _ _ ih => exact ⟨Nat.le_trans hcs.le ih.1, ih.2⟩
  | text hcs _ ih => exact ⟨Nat.le_trans hcs.le ih.1, ih.2⟩
  | first _ _ _ hcs _ ih => exact ⟨Nat.le_trans hcs.le ih.1, ih.2⟩
  | again _ _ hcs _ ih => exact ⟨Nat.le_trans hcs.le ih.1, ih.2⟩

/-- No parts take nothing. -/
theorem stop_eq (h : Splits text b i [] k b') : k = i := by
  cases h
  rfl

/-- The parts behind the first one are split from where it ends. -/
theorem tail {p : Part} (h : Splits text b i (p :: ps) k b') :
    p.start = i ∧ p.start ≤ p.stop ∧ ∃ b'', Splits text b'' p.stop ps k b' := by
  cases h with
  | space hcs _ rest => exact ⟨rfl, hcs.le, _, rest⟩
  | text hcs rest => exact ⟨rfl, hcs.le, _, rest⟩
  | first _ _ _ hcs rest => exact ⟨rfl, hcs.le, _, rest⟩
  | again _ _ hcs rest => exact ⟨rfl, hcs.le, _, rest⟩

/-- Appended parts are split one after the other. -/
theorem of_append (h : Splits text b i (ps ++ qs) k b') :
    ∃ j b'', Splits text b i ps j b'' ∧ Splits text b'' j qs k b' := by
  induction ps generalizing b i with
  | nil => exact ⟨i, b, .nil (Nat.le_trans h.le.1 h.le.2), h⟩
  | cons p ps ih =>
    rw [List.cons_append] at h
    cases h with
    | space hcs hblank rest =>
      obtain ⟨j, b'', hps, hqs⟩ := ih rest
      exact ⟨j, b'', .space hcs hblank hps, hqs⟩
    | text hcs rest =>
      obtain ⟨j, b'', hps, hqs⟩ := ih rest
      exact ⟨j, b'', .text hcs hps, hqs⟩
    | first hkey hnew hword hcs rest =>
      obtain ⟨j, b'', hps, hqs⟩ := ih rest
      exact ⟨j, b'', .first hkey hnew hword hcs hps, hqs⟩
    | again hkey hbound hcs rest =>
      obtain ⟨j, b'', hps, hqs⟩ := ih rest
      exact ⟨j, b'', .again hkey hbound hcs hps, hqs⟩

/-- Parts behind others. -/
theorem append (h : Splits text b i ps j b'') (h' : Splits text b'' j qs k b') :
    Splits text b i (ps ++ qs) k b' := by
  induction h with
  | nil => exact h'
  | space hcs hblank _ ih => exact .space hcs hblank (ih h')
  | text hcs _ ih => exact .text hcs (ih h')
  | first hkey hnew hword hcs _ ih => exact .first hkey hnew hword hcs (ih h')
  | again hkey hbound hcs _ ih => exact .again hkey hbound hcs (ih h')

/-- The first of some parts alone. -/
theorem uncons (h : Splits text b i (p :: ps) k b') :
    ∃ b₁, Splits text b i [p] p.stop b₁ ∧ Splits text b₁ p.stop ps k b' := by
  have hsplit : Splits text b i ([p] ++ ps) k b' := h
  obtain ⟨j, b₁, hhead, hrest⟩ := hsplit.of_append
  obtain ⟨-, -, b₂, hnil⟩ := hhead.tail
  obtain rfl := hnil.stop_eq
  exact ⟨b₁, hhead, hrest⟩

/-- Each part lies within the split. -/
theorem bounds_of_mem (h : Splits text b i ps k b') {p : Part} (hp : p ∈ ps) :
    i ≤ p.start ∧ p.stop ≤ k := by
  obtain ⟨pre, post, rfl⟩ := List.append_of_mem hp
  obtain ⟨j, b'', hpre, hpost⟩ := h.of_append
  obtain ⟨hstart, -, _, hrest⟩ := hpost.tail
  have := hpre.le.1
  have := hrest.le.1
  omega

/-- What is bound stays bound. -/
theorem lookup_mono (h : Splits text b i ps k b') {key : Category × Identity} {cs : List Char}
    (hbound : b.lookup key = some cs) : b'.lookup key = some cs := by
  induction h with
  | nil _ => exact hbound
  | space _ _ _ ih => exact ih hbound
  | text _ _ ih => exact ih hbound
  | first _ _ _ _ _ ih =>
    refine ih ?_
    rw [List.lookup_append, hbound, Option.some_or]
  | again _ _ _ _ ih => exact ih hbound

/-- Each placeholder is bound once. -/
theorem nodup (h : Splits text b i ps k b') (hb : (b.map (·.1)).Nodup) :
    (b'.map (·.1)).Nodup := by
  induction h with
  | nil _ => exact hb
  | space _ _ _ ih => exact ih hb
  | text _ _ ih => exact ih hb
  | first _ hnew _ _ _ ih =>
    refine ih ?_
    rw [List.map_append, List.map_singleton]
    refine List.nodup_append.mpr ⟨hb, List.nodup_singleton _, ?_⟩
    rintro key hkey _ hmem rfl
    rw [List.mem_singleton.mp hmem] at hkey
    obtain ⟨p, hp, hpkey⟩ := List.mem_map.mp hkey
    have hne := List.lookup_eq_none_iff.mp hnew p hp
    rw [hpkey, bne_self_eq_false] at hne
    exact Bool.false_ne_true hne
  | again _ _ _ _ ih => exact ih hb

end Splits

/-! ## First uses -/

/-- What each placeholder of some parts stands for: the text of the first part that it has. -/
def firstUses (text : Array Char) : List Part → Bindings
  | [] => []
  | p :: ps =>
    match p.segment.key? with
    | none => firstUses text ps
    | some key =>
      (key, (text.extract p.start p.stop).toList) ::
        (firstUses text ps).filter fun use => use.1 != key

theorem firstUses_cons_none {p : Part} (h : p.segment.key? = none) :
    firstUses text (p :: ps) = firstUses text ps := by
  rw [firstUses, h]

theorem firstUses_cons_some {p : Part} {key : Category × Identity}
    (h : p.segment.key? = some key) :
    firstUses text (p :: ps) = (key, (text.extract p.start p.stop).toList) ::
      (firstUses text ps).filter fun use => use.1 != key := by
  rw [firstUses, h]

/-- The uses of what has not been bound before. -/
def Bindings.unbound (b uses : Bindings) : Bindings :=
  uses.filter fun use => (b.lookup use.1).isNone

theorem Bindings.unbound_cons_new {key : Category × Identity} (hnew : b.lookup key = none)
    (cs : List Char) (uses : Bindings) :
    Bindings.unbound b ((key, cs) :: uses) = (key, cs) :: Bindings.unbound b uses :=
  List.filter_cons_of_pos (by rw [hnew]; rfl)

theorem Bindings.unbound_cons_old {key : Category × Identity} {cs : List Char}
    (hbound : b.lookup key = some cs) (cs' : List Char) (uses : Bindings) :
    Bindings.unbound b ((key, cs') :: uses) = Bindings.unbound b uses :=
  List.filter_cons_of_neg (by rw [hbound]; exact Bool.false_ne_true)

/-- What is bound first is used elsewhere only later. -/
theorem Bindings.unbound_bind {key : Category × Identity} (cs : List Char) (uses : Bindings) :
    Bindings.unbound (b ++ [(key, cs)]) uses
      = Bindings.unbound b (uses.filter fun use => use.1 != key) := by
  unfold unbound
  rw [List.filter_filter]
  refine List.filter_congr fun use _ => ?_
  rw [List.lookup_append, Option.isNone_or, List.lookup_cons]
  by_cases hkey : use.1 = key
  · rw [hkey, beq_self_eq_true, bne_self_eq_false, Bool.and_false]
    exact Bool.and_false _
  · rw [beq_eq_false_iff_ne.mpr hkey, bne_iff_ne.mpr hkey]
    rfl

/-- Dropping the uses of a placeholder that is bound already makes no difference. -/
theorem Bindings.unbound_filter {key : Category × Identity} {cs : List Char}
    (hbound : b.lookup key = some cs) (uses : Bindings) :
    Bindings.unbound b (uses.filter fun use => use.1 != key) = Bindings.unbound b uses := by
  unfold unbound
  rw [List.filter_filter]
  refine List.filter_congr fun use _ => ?_
  by_cases hkey : use.1 = key
  · rw [hkey, hbound]
    rfl
  · rw [bne_iff_ne.mpr hkey, Bool.and_true]

/-- **A split binds the placeholders to their first uses**, in the order in which these come. -/
theorem Splits.eq_append_firstUses (h : Splits text b i ps k b') :
    b' = b ++ Bindings.unbound b (firstUses text ps) := by
  induction h with
  | nil _ => exact (List.append_nil _).symm
  | space _ _ _ ih => rw [firstUses_cons_none rfl, ← ih]
  | text _ _ ih => rw [firstUses_cons_none rfl, ← ih]
  | @first b b' i j k ps t key cs hkey hnew _ hcs _ ih =>
    have hpart : (⟨.token t, i, j⟩ : Part).segment.key? = some key := hkey
    rw [firstUses_cons_some hpart, hcs.eq, Bindings.unbound_cons_new hnew,
      ← Bindings.unbound_bind cs, List.append_cons b, ← ih]
  | @again b b' i j k ps t key cs hkey hbound hcs _ ih =>
    have hpart : (⟨.token t, i, j⟩ : Part).segment.key? = some key := hkey
    rw [firstUses_cons_some hpart, Bindings.unbound_cons_old hbound,
      Bindings.unbound_filter hbound, ← ih]

/-- Nothing being bound before, a split binds just the first uses. -/
theorem Splits.eq_firstUses (h : Splits text [] i ps k b) : b = firstUses text ps := by
  have happend := h.eq_append_firstUses
  rw [List.nil_append] at happend
  rw [happend]
  exact List.filter_eq_self.mpr fun _ _ => rfl

end CodeShape.Pattern
