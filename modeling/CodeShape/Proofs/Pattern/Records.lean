import CodeShape.Proofs.Pattern.Assembly

/-!
# What the captures have taken

The slots of a search hold what the captures of a pattern have taken, each one in its group (`Holds`).
Which group that is, `num` tells: without raw expressions it is the one behind the number of the
capture, else groups inside of raw expressions lie in between. A way of a segment without raw
expressions is a part that stands for it, and behind it the slots hold one capture more if the
segment is a placeholder that is new (`Holds.part`).
-/

namespace CodeShape.Pattern

open Regex (Expr Occurs Slots Subject Way Ways)

variable {c : Captures} {s : Segment} {num : Nat → Nat} {t : Subject} {slots slots' : Slots}
  {text : Array Char} {key : Category × Identity} {i j k : Nat}

/-! ## What has been taken -/

/-- What captures have taken, in order: by what each one is bound, unless it is that of a raw
expression, and its text. -/
abbrev Taken := List (Option (Category × Identity) × List Char)

namespace Taken

/-- What the placeholders are bound to. -/
def bindings (taken : Taken) : Bindings :=
  taken.filterMap fun r => r.1.map fun key => (key, r.2)

/-- What the raw expressions have taken. -/
def raws (taken : Taken) : List (List Char) :=
  taken.filterMap fun r => if r.1 = none then some r.2 else none

/-- The category of a capture. -/
def category (r : Option (Category × Identity) × List Char) : Category :=
  r.1.elim .other (·.1)

end Taken

/-- Placeholders alone. -/
def Bindings.taken (b : Bindings) : Taken :=
  b.map fun p => (some p.1, p.2)

variable {taken : Taken} {b more : Bindings}

@[simp] theorem Bindings.bindings_taken (b : Bindings) : b.taken.bindings = b := by
  unfold Bindings.taken Taken.bindings
  rw [List.filterMap_map]
  exact List.filterMap_some

@[simp] theorem Bindings.raws_taken (b : Bindings) : b.taken.raws = [] := by
  unfold Bindings.taken Taken.raws
  rw [List.filterMap_map]
  exact List.filterMap_eq_nil_iff.mpr fun _ _ => rfl

@[simp] theorem Taken.bindings_append (taken taken' : Taken) :
    Taken.bindings (taken ++ taken') = taken.bindings ++ taken'.bindings :=
  List.filterMap_append

@[simp] theorem Taken.raws_append (taken taken' : Taken) :
    Taken.raws (taken ++ taken') = taken.raws ++ taken'.raws :=
  List.filterMap_append

theorem Bindings.getElem?_taken {n : Nat} {cs : List Char} :
    b.taken[n]? = some (some key, cs) ↔ b[n]? = some (key, cs) := by
  unfold Bindings.taken
  rw [List.getElem?_map, Option.map_eq_some_iff]
  constructor
  · rintro ⟨⟨key', cs'⟩, hget, heq⟩
    cases heq
    exact hget
  · exact fun hget => ⟨_, hget, rfl⟩

/-- What a list holds at a position once it has one more element. -/
theorem getElem?_concat_eq_some_iff {α : Type} {l : List α} {a b : α} {n : Nat} :
    (l ++ [a])[n]? = some b ↔ l[n]? = some b ∨ n = l.length ∧ b = a := by
  rcases Nat.lt_trichotomy n l.length with hlt | rfl | hgt
  · rw [List.getElem?_append_left hlt]
    exact ⟨.inl, fun h => h.resolve_right fun hlast => Nat.ne_of_lt hlt hlast.1⟩
  · rw [List.getElem?_concat_length, List.getElem?_eq_none (Nat.le_refl _)]
    simp [eq_comm]
  · rw [List.getElem?_eq_none (by simp; omega), List.getElem?_eq_none (Nat.le_of_lt hgt)]
    exact iff_of_false (by rintro ⟨⟩) (by simp; omega)

/-- The slots hold what the captures have taken, each one in its group. -/
structure Holds (num : Nat → Nat) (text : Array Char) (c : Captures) (taken : Taken)
    (slots : Slots) : Prop where
  categories : c.categories = taken.map Taken.category
  bound : ∀ key, c.bound.lookup key = none ↔ taken.bindings.lookup key = none
  number : ∀ key n, c.bound.lookup key = some n → ∃ cs, taken[n]? = some (some key, cs) ∧
    taken.bindings.lookup key = some cs
  slots : ∀ n r, taken[n]? = some r →
    ∃ i j, slots.span? (num n) = some (i, j) ∧ Occurs text r.2 i j

namespace Holds

theorem size_eq (h : Holds num text c taken slots) : c.size = taken.length := by
  unfold Captures.size
  rw [h.categories, List.length_map]

theorem empty (num : Nat → Nat) (text : Array Char) (slots : Slots) : Holds num text {} [] slots :=
  ⟨rfl, fun _ => iff_of_true rfl rfl, nofun, nofun⟩

/-- Slots that hold the same in the groups of the captures are as good. -/
theorem congr (h : Holds num text c taken slots)
    (hslots : ∀ n < c.size, slots'.span? (num n) = slots.span? (num n)) :
    Holds num text c taken slots' := by
  refine ⟨h.categories, h.bound, h.number, fun n r hn => ?_⟩
  rw [hslots n (h.size_eq ▸ (List.getElem?_eq_some_iff.mp hn).1)]
  exact h.slots n r hn

/-- One more group holds what one more capture has taken. -/
theorem slots_concat (h : Holds num text c taken slots) {cs : List Char} (hcs : Occurs text cs i j)
    (hspan : slots.span? (num c.size) = some (i, j)) (key? : Option (Category × Identity)) (n : Nat)
    (r : Option (Category × Identity) × List Char) (hn : (taken ++ [(key?, cs)])[n]? = some r) :
    ∃ i j, slots.span? (num n) = some (i, j) ∧ Occurs text r.2 i j := by
  rcases getElem?_concat_eq_some_iff.mp hn with hn | ⟨rfl, rfl⟩
  · exact h.slots n r hn
  · rw [← h.size_eq]
    exact ⟨i, j, hspan, hcs⟩

/-- The capture of a raw expression has taken its text. -/
theorem define (h : Holds num text c taken slots) {cs : List Char} (hcs : Occurs text cs i j)
    (hspan : slots.span? (num c.size) = some (i, j)) :
    Holds num text (c.define .other) (taken ++ [(none, cs)]) slots := by
  have hbindings : Taken.bindings (taken ++ [(none, cs)]) = taken.bindings := by
    rw [Taken.bindings_append]
    exact List.append_nil _
  refine ⟨?_, fun key => ?_, fun key n hn => ?_, h.slots_concat hcs hspan none⟩
  · change c.categories ++ [.other] = _
    rw [h.categories, List.map_append]
    rfl
  · rw [hbindings]
    exact h.bound key
  · obtain ⟨cs', hget, hlook⟩ := h.number key n hn
    rw [hbindings]
    exact ⟨cs', getElem?_concat_eq_some_iff.mpr (.inl hget), hlook⟩

/-- The capture of a placeholder that is new has taken its text. -/
theorem bind (h : Holds num text c taken slots) (hnew : taken.bindings.lookup key = none)
    {cs : List Char} (hcs : Occurs text cs i j)
    (hspan : slots.span? (num c.size) = some (i, j)) :
    Holds num text (c.bind key) (taken ++ [(some key, cs)]) slots := by
  -- the new binding is looked up behind all others, and it is new, so it hides none
  have hlookup (key' : Category × Identity) :
      (Taken.bindings (taken ++ [(some key, cs)])).lookup key'
        = (taken.bindings.lookup key').or ([(key, cs)].lookup key') := by
    rw [Taken.bindings_append]
    exact List.lookup_append
  have hbound (key' : Category × Identity) :
      (c.bind key).bound.lookup key' = if key' = key then some c.size else c.bound.lookup key' := by
    show ((key, c.size) :: c.bound).lookup key' = _
    rw [List.lookup_cons]
    by_cases hkey : key' = key
    · rw [beq_iff_eq.mpr hkey, if_pos hkey]
    · rw [beq_eq_false_iff_ne.mpr hkey, if_neg hkey]
  refine ⟨?_, fun key' => ?_, fun key' n hn => ?_, h.slots_concat hcs hspan (some key)⟩
  · change c.categories ++ [key.1] = _
    rw [h.categories, List.map_append]
    rfl
  · rw [hbound, hlookup]
    by_cases hkey : key' = key
    · rw [if_pos hkey, hkey, hnew, Option.none_or, List.lookup_cons_self]
      exact iff_of_false nofun nofun
    · have hone : [(key, cs)].lookup key' = none := by
        rw [List.lookup_cons, beq_eq_false_iff_ne.mpr hkey]
        rfl
      rw [if_neg hkey, hone, Option.or_none]
      exact h.bound key'
  · rw [hbound] at hn
    by_cases hkey : key' = key
    · rw [if_pos hkey] at hn
      obtain rfl := Option.some.inj hn
      refine ⟨cs, getElem?_concat_eq_some_iff.mpr (.inr ⟨h.size_eq, by rw [hkey]⟩), ?_⟩
      rw [hlookup, hkey, hnew, Option.none_or, List.lookup_cons_self]
    · rw [if_neg hkey] at hn
      obtain ⟨cs', hget, hlook⟩ := h.number key' n hn
      refine ⟨cs', getElem?_concat_eq_some_iff.mpr (.inl hget), ?_⟩
      rw [hlookup, hlook, Option.some_or]

end Holds

/-! ## Ways of segments -/

/-- Setting the slots of one group leaves the spans of the others alone. -/
theorem span?_captured (slots : Slots) (g : Nat) (i j : Nat) (h : Nat) :
    Slots.span? ((2 * g + 1, some j) :: (2 * g, some i) :: slots) h
      = if h = g then some (i, j) else slots.span? h := by
  unfold Slots.span?
  rw [Regex.Slots.get?_cons, Regex.Slots.get?_cons, Regex.Slots.get?_cons, Regex.Slots.get?_cons]
  by_cases hg : h = g
  · rw [if_pos hg, hg, if_neg (by omega), if_pos rfl, if_pos rfl]
  · rw [if_neg hg, if_neg (by omega), if_neg (by omega), if_neg (by omega), if_neg (by omega)]

/-- The ways of quoted text lead behind the text itself. -/
theorem mem_ways_text {chars : List Char} {w : Way} (hi : i ≤ t.text.size) :
    w ∈ Ways.chain ((chars.map fun ch => Expr.chars (.single ch)).map (Expr.ways t)) i slots ↔
      w.2 = slots ∧ Occurs t.text chars i w.1 := by
  have htakes := Regex.takes_word t chars
  rw [Expr.ways_cats] at htakes
  rw [htakes i slots w hi]
  refine and_congr_right fun _ => ?_
  constructor
  · intro h
    obtain ⟨cs, hcs, rfl⟩ := h
    exact hcs
  · intro h
    exact ⟨chars, h, rfl⟩

/-- The ways of a placeholder that is used again lead behind the same characters. -/
theorem Holds.mem_ways_again {n : Nat} {r : Option (Category × Identity) × List Char} {w : Way}
    (h : Holds num t.text c taken slots) (hget : taken[n]? = some r) (hi : i ≤ t.text.size) :
    w ∈ (Expr.backref (num n)).ways t i slots ↔ w.2 = slots ∧ Occurs t.text r.2 i w.1 := by
  obtain ⟨a, z, hspan, hocc⟩ := h.slots n r hget
  have hstands := Subject.standsAt_iff hocc hi
  simp only [Expr.ways, hspan]
  have hlen := hocc.length_eq
  constructor
  · intro hw
    split at hw
    next hst =>
      rw [List.mem_singleton.mp hw]
      exact ⟨rfl, hstands.mp hst⟩
    next => exact absurd hw List.not_mem_nil
  · intro h
    obtain ⟨hslots, hw⟩ := h
    have hstop : w.1 = i + (z - a) := by
      rw [hw.length_eq]
      omega
    rw [hstop] at hw
    rw [if_pos (hstands.mpr hw), List.mem_singleton]
    exact Prod.ext hstop hslots

/-- The ways of a placeholder that is new lead behind the words of its kind and set its group. -/
theorem mem_ways_first {token : Token} (htoken : token.IsPlain) {g : Nat} {w : Way}
    (hi : i ≤ t.text.size) :
    w ∈ (Expr.group g (Expr.cats token.items)).ways t i slots ↔
      token.Stands t.text i w.1 ∧
        w.2 = (2 * g + 1, some w.1) :: (2 * g, some i) :: slots := by
  rw [Expr.ways, Ways.mem_captured]
  constructor
  · intro h
    obtain ⟨v, hv, rfl⟩ := h
    obtain ⟨hslots, hstands⟩ := (Token.mem_ways_items t htoken hi).mp hv
    exact ⟨hstands, by rw [hslots]⟩
  · intro h
    obtain ⟨hstands, hslots⟩ := h
    refine ⟨(w.1, (2 * g, some i) :: slots), ?_, Prod.ext rfl hslots⟩
    exact (Token.mem_ways_items t htoken hi).mpr ⟨rfl, hstands⟩

/-- What stands for a placeholder lies within the text. -/
theorem Token.Stands.le {token : Token} (h : token.Stands text i j) : i ≤ j ∧ j ≤ text.size := by
  cases token with
  | «variable» id =>
    obtain ⟨-, -, cs, hcs, -⟩ := h
    exact ⟨hcs.le, hcs.le_size⟩
  | literal id =>
    obtain ⟨cs, hcs, -⟩ := h
    exact ⟨hcs.le, hcs.le_size⟩
  | operator id =>
    obtain ⟨cs, hcs, -⟩ := h
    exact ⟨hcs.le, hcs.le_size⟩
  | keyword id =>
    obtain ⟨-, ⟨w, -, hcs⟩, -⟩ := h
    exact ⟨hcs.le, hcs.le_size⟩
  | block greedy id => exact h
  | raw body => exact h.elim

/-- **A way of a segment is a part**: behind it the slots hold what is bound there besides (`more`),
and what is split from there is what is split behind the part. Captures have different groups. -/
theorem Holds.part (h : Holds num t.text c taken slots) (hs : s.IsPlain)
    (hnum : c.size < (bindOne c s).2.size → ∀ n < c.size, num n ≠ num c.size) {v : Way}
    (hi : i ≤ t.text.size)
    (hv : v ∈ Ways.chain ((segmentItemsAt num c s).map (Expr.ways t)) i slots) :
    ∃ more : Bindings, v.1 ≤ t.text.size ∧
      Holds num t.text (bindOne c s).2 (taken ++ more.taken) v.2 ∧
      ∀ ps k b', Splits t.text taken.bindings i (⟨s, i, v.1⟩ :: ps) k b' ↔
        Splits t.text (taken.bindings ++ more) v.1 ps k b' := by
  have hnone : taken ++ Bindings.taken [] = taken := List.append_nil taken
  have hsame : taken.bindings ++ [] = taken.bindings := List.append_nil _
  cases s with
  | space =>
    -- blanks and text are bound by nothing, and so what is held stays as it is
    rw [segmentItemsAt, List.map_singleton, Ways.chain_singleton] at hv
    obtain ⟨hslots, cs, hcs, hblank⟩ := (Grammar.takes_blanks t i slots v hi).mp hv
    rw [← hslots] at h
    refine ⟨[], hcs.le_size, hnone.symm ▸ h, fun ps k b' => ?_⟩
    rw [hsame]
    refine ⟨fun hsplit => ?_, .space hcs hblank⟩
    cases hsplit with
    | space _ _ rest => exact rest
  | text quoted =>
    obtain ⟨hslots, hcs⟩ := (mem_ways_text hi).mp hv
    rw [← hslots] at h
    refine ⟨[], hcs.le_size, hnone.symm ▸ h, fun ps k b' => ?_⟩
    rw [hsame]
    refine ⟨fun hsplit => ?_, .text hcs⟩
    cases hsplit with
    | text _ rest => exact rest
  | token token =>
    rw [segmentItemsAt, List.map_singleton, Ways.chain_singleton] at hv
    obtain ⟨key, hkey⟩ := exists_key hs
    change c.size < (bindToken c token).2.size → _ at hnum
    change ∃ more : Bindings, _ ∧ Holds num t.text (bindToken c token).2 _ v.2 ∧ _
    cases hbound : c.bound.lookup key with
    | some n =>
      -- used again: the reference takes what the capture holds, and nothing new is bound
      obtain ⟨htoken, -⟩ := bindToken_again hkey hbound
      obtain ⟨cs, hget, hlook⟩ := h.number key n hbound
      rw [tokenItemAt_again hkey hbound] at hv
      obtain ⟨hslots, hcs⟩ := (h.mem_ways_again hget hi).mp hv
      rw [← hslots] at h
      rw [htoken]
      refine ⟨[], hcs.le_size, hnone.symm ▸ h, fun ps k b' => ?_⟩
      rw [hsame]
      refine ⟨fun hsplit => ?_, .again hkey hlook hcs⟩
      cases hsplit with
      | first hkey' hnew _ _ _ =>
        obtain rfl := Option.some.inj (hkey.symm.trans hkey')
        rw [hlook] at hnew
        cases hnew
      | again _ _ _ rest => exact rest
    | none =>
      obtain ⟨htoken, -⟩ := bindToken_first hkey hbound
      have hnew := (h.bound key).mp hbound
      rw [tokenItemAt_first hkey hbound] at hv
      -- the slots of the new group say where the placeholder stands: one more capture is held
      obtain ⟨hstands, hslots⟩ := (mem_ways_first hs hi).mp hv
      have hcs := Regex.occurs_extract hstands.le.1 hstands.le.2
      rw [htoken] at hnum ⊢
      rw [Captures.size_bind] at hnum
      have hold : Holds num t.text c taken v.2 := h.congr fun n hn => by
        rw [hslots, span?_captured, if_neg (hnum (Nat.lt_succ_self _) n hn)]
      have hspan : v.2.span? (num c.size) = some (i, v.1) := by
        rw [hslots, span?_captured, if_pos rfl]
      refine ⟨[(key, (t.text.extract i v.1).toList)], hcs.le_size,
        hold.bind hnew hcs hspan, fun ps k b' => ⟨fun hsplit => ?_, .first hkey hnew hstands hcs⟩⟩
      cases hsplit with
      | first hkey' _ _ hcs' rest =>
        obtain rfl := Option.some.inj (hkey.symm.trans hkey')
        rw [← hcs'.chars_eq hcs]
        exact rest
      | again hkey' hold _ _ =>
        obtain rfl := Option.some.inj (hkey.symm.trans hkey')
        rw [hnew] at hold
        cases hold

end CodeShape.Pattern
