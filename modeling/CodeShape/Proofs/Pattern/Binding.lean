import Mathlib.Data.Finset.Option
import CodeShape.Proofs.Pattern.Records

/-!
# What tokens are bound to

Binding goes through the segments of a pattern once and keeps the captures defined so far. What it
makes of a segment depends only on the segments in front of it, and can be told without these
captures (`BoundTo`): a token that comes first of its category and identity, and any raw expression,
defines the group whose number is the number of groups in front (`groupCount`); a token that comes
again is a reference to the group that the first one defined.

The captures record just that (`Captures.Records`), after each segment if before it
(`Captures.Records.bindOne`). Since each group that is defined is counted, groups have different
names and references lead back to earlier ones (`bind_wellBound`).
-/

namespace CodeShape.Pattern

variable {segs front front' before more : List Segment} {s : Segment} {t t' : Token}
  {c c' : Captures} {key : Category × Identity} {n : Nat}

/-! ## Groups that segments define -/

/-- What the placeholders among the segments are bound by. -/
def bindingKeys (segs : List Segment) : List (Category × Identity) :=
  segs.filterMap Segment.key?

/-- The body of a raw expression. -/
def Segment.raw? : Segment → Option (List Char)
  | .token (.raw body) => some body
  | _ => none

/-- The bodies of the raw expressions among the segments. -/
def rawBodies (segs : List Segment) : List (List Char) :=
  segs.filterMap Segment.raw?

/-- The number of groups that segments define: one for each identity of a category, and one for each
raw expression. -/
def groupCount (segs : List Segment) : Nat :=
  (bindingKeys segs).toFinset.card + (rawBodies segs).length

/-- The token has not come before: there is none of its category and identity in `front`. Raw
expressions never have. -/
def Token.IsFirst (front : List Segment) (t : Token) : Prop :=
  ∀ key, t.key? = some key → key ∉ bindingKeys front

/-- Right behind `front`, the segments have a token that defines a group. -/
def DefinesAt (segs front : List Segment) (t : Token) : Prop :=
  (∃ back, segs = front ++ .token t :: back) ∧ t.IsFirst front

theorem isFirst_iff (hkey : t.key? = some key) : t.IsFirst front ↔ key ∉ bindingKeys front := by
  unfold Token.IsFirst
  simp [hkey]

/-- A token that is bound by nothing is a raw expression. -/
theorem exists_raw_of_key? (h : t.key? = none) : ∃ body, t = .raw body := by
  cases t with
  | raw body => exact ⟨body, rfl⟩
  | _ => cases h

theorem raw?_of_key? (h : s.key? = some key) : s.raw? = none := by
  cases s with
  | space => rfl
  | text quoted => rfl
  | token t =>
    cases t with
    | raw body => cases h
    | _ => rfl

theorem category_eq_of_key? (h : t.key? = some key) : t.category = key.1 := by
  obtain ⟨id, -, rfl⟩ := Option.map_eq_some_iff.mp h
  rfl

theorem bindingKeys_append (front more : List Segment) :
    bindingKeys (front ++ more) = bindingKeys front ++ bindingKeys more :=
  List.filterMap_append

theorem groupCount_le_append (front more : List Segment) :
    groupCount front ≤ groupCount (front ++ more) := by
  unfold groupCount rawBodies
  rw [bindingKeys_append, List.filterMap_append, List.toFinset_append, List.length_append]
  exact Nat.add_le_add (Finset.card_le_card Finset.subset_union_left) (Nat.le_add_right _ _)

/-- One more segment may add its key to the keys, or itself to the raw expressions. -/
theorem groupCount_concat (front : List Segment) (s : Segment) :
    groupCount (front ++ [s]) =
      ((bindingKeys front).toFinset ∪ s.key?.toFinset).card +
        ((rawBodies front).length + s.raw?.toList.length) := by
  have hconcat : ∀ {α : Type} (f : Segment → Option α),
      (front ++ [s]).filterMap f = front.filterMap f ++ (f s).toList := by
    intro α f
    rw [List.filterMap_append]
    cases h : f s with
    | none =>
      rw [List.filterMap_cons_none h]
      rfl
    | some a =>
      rw [List.filterMap_cons_some h]
      rfl
  unfold groupCount bindingKeys rawBodies
  rw [hconcat, hconcat, List.toFinset_append, List.length_append]
  cases s.key? <;> rfl

/-- A token that has not come before defines one more group. -/
theorem groupCount_concat_first (h : t.IsFirst front) :
    groupCount (front ++ [.token t]) = groupCount front + 1 := by
  rw [groupCount_concat]
  cases hkey : (Segment.token t).key? with
  | none =>
    obtain ⟨body, rfl⟩ := exists_raw_of_key? hkey
    rw [Option.toFinset_none, Finset.union_empty]
    rfl
  | some key =>
    have hnew : key ∉ (bindingKeys front).toFinset := by
      rw [List.mem_toFinset]
      exact (isFirst_iff hkey).mp h
    rw [Option.toFinset_some, Finset.union_comm, ← Finset.insert_eq,
      Finset.card_insert_of_notMem hnew, raw?_of_key? hkey]
    unfold groupCount
    exact Nat.add_right_comm _ 1 _

/-- No other segment does. -/
theorem groupCount_concat_other (h : ∀ t, s = .token t → ¬ t.IsFirst front) :
    groupCount (front ++ [s]) = groupCount front := by
  have hraw : s.raw? = none := by
    unfold Segment.raw?
    split
    next body =>
      exact absurd (by intro key hkey; cases hkey) (h _ rfl)
    next => rfl
  have hkeys : (bindingKeys front).toFinset ∪ s.key?.toFinset = (bindingKeys front).toFinset := by
    rw [Finset.union_eq_left]
    intro key hkey
    rw [Option.mem_toFinset, Option.mem_def] at hkey
    rw [List.mem_toFinset]
    cases s with
    | space => cases hkey
    | text quoted => cases hkey
    | token t => exact not_not.mp (mt (isFirst_iff hkey).mpr (h t rfl))
  rw [groupCount_concat, hkeys, hraw]
  rfl

theorem definesAt_concat :
    DefinesAt (front ++ [s]) before t ↔
      DefinesAt front before t ∨ before = front ∧ s = .token t ∧ t.IsFirst front := by
  constructor
  · intro h
    obtain ⟨⟨back, hback⟩, hfirst⟩ := h
    rcases List.eq_nil_or_concat back with rfl | ⟨inner, last, rfl⟩
    · obtain ⟨rfl, hs⟩ := List.append_inj' hback rfl
      exact .inr ⟨rfl, (List.cons.inj hs).1, hfirst⟩
    · rw [List.concat_eq_append, ← List.cons_append, ← List.append_assoc] at hback
      exact .inl ⟨⟨inner, (List.append_inj' hback rfl).1⟩, hfirst⟩
  · intro h
    rcases h with ⟨⟨back, rfl⟩, hfirst⟩ | ⟨rfl, rfl, hfirst⟩
    · exact ⟨⟨back ++ [s], by rw [List.append_assoc, List.cons_append]⟩, hfirst⟩
    · exact ⟨⟨[], rfl⟩, hfirst⟩

/-- Whatever has come before has come first. -/
theorem exists_definesAt (h : key ∈ bindingKeys front) :
    ∃ before t, DefinesAt front before t ∧ t.key? = some key := by
  obtain ⟨keys, keys', hkeys, hnew⟩ := List.eq_append_cons_of_mem h
  obtain ⟨front₁, front₂, rfl, hfront₁, hfront₂⟩ := List.filterMap_eq_append_iff.mp hkeys
  obtain ⟨plain, s, back, rfl, hplain, hs, -⟩ := List.filterMap_eq_cons_iff.mp hfront₂
  cases s with
  | space => cases hs
  | text quoted => cases hs
  | token t =>
    refine ⟨front₁ ++ plain, t, ⟨⟨back, (List.append_assoc ..).symm⟩, ?_⟩, hs⟩
    have hnone : bindingKeys plain = [] := List.filterMap_eq_nil_iff.mpr hplain
    have hfront : bindingKeys (front₁ ++ plain) = keys := by
      rw [bindingKeys_append, hnone, List.append_nil]
      exact hfront₁
    rw [isFirst_iff hs, hfront]
    exact hnew

namespace DefinesAt

theorem mem_bindingKeys (h : DefinesAt segs front t) (hkey : t.key? = some key) :
    key ∈ bindingKeys segs := by
  obtain ⟨⟨back, rfl⟩, -⟩ := h
  refine List.mem_filterMap.mpr ⟨.token t, ?_, hkey⟩
  exact List.mem_append_right front List.mem_cons_self

/-- The groups in front of a token that defines one are fewer than those of the segments. -/
theorem groupCount_lt (h : DefinesAt segs front t) : groupCount front < groupCount segs := by
  obtain ⟨⟨back, rfl⟩, hfirst⟩ := h
  have hle := groupCount_le_append (front ++ [.token t]) back
  rw [groupCount_concat_first hfirst, List.append_assoc] at hle
  exact hle

/-- **Groups have different numbers.** -/
theorem front_eq (h : DefinesAt segs front t) (h' : DefinesAt segs front' t')
    (hcount : groupCount front = groupCount front') : front = front' := by
  obtain ⟨⟨back, hback⟩, hfirst⟩ := h
  obtain ⟨⟨back', hback'⟩, hfirst'⟩ := h'
  rcases List.append_eq_append_iff.mp (hback.symm.trans hback') with
    ⟨more, rfl, hmore⟩ | ⟨more, rfl, hmore⟩
  · cases more with
    | nil => exact (List.append_nil front).symm
    | cons s more =>
      -- the second token would stand behind the first one, and behind one more group
      obtain ⟨rfl, -⟩ := List.cons.inj hmore
      have hlt := groupCount_lt ⟨⟨more, rfl⟩, hfirst⟩
      omega
  · cases more with
    | nil => exact List.append_nil front'
    | cons s more =>
      obtain ⟨rfl, -⟩ := List.cons.inj hmore
      have hlt := groupCount_lt ⟨⟨more, rfl⟩, hfirst'⟩
      omega

end DefinesAt

/-! ## One segment -/

/-- The fragment of a segment behind `front`. -/
inductive BoundTo (front : List Segment) : Segment → Fragment → Prop where
  | space : BoundTo front .space .space
  | text (quoted : List Char) : BoundTo front (.text quoted) (.expr quoted)
  | raw (body : List Char) :
    BoundTo front (.token (.raw body)) (.raw (capture (groupCount front) body))
  | first {t : Token} {key : Category × Identity} (hkey : t.key? = some key)
    (hnew : key ∉ bindingKeys front) :
    BoundTo front (.token t) (.expr (capture (groupCount front) t.body))
  | again {t first : Token} {key : Category × Identity} {before : List Segment}
    (hkey : t.key? = some key) (hfirst : DefinesAt front before first)
    (hsame : first.key? = some key) :
    BoundTo front (.token t) (.expr (reference (groupCount before)))

/-- A token that comes first defines a group. -/
theorem BoundTo.eq_capture {f : Fragment} (h : BoundTo front (.token t) f)
    (hkey : t.key? = some key) (hnew : key ∉ bindingKeys front) :
    f = .expr (capture (groupCount front) t.body) := by
  cases h with
  | raw body => cases hkey
  | first _ _ => rfl
  | again hkey' hdefines hsame =>
    rw [Option.some.inj (hkey.symm.trans hkey')] at hnew
    exact absurd (hdefines.mem_bindingKeys hsame) hnew

/-- A token that comes again is a reference. -/
theorem BoundTo.eq_reference {f : Fragment} (h : BoundTo front (.token t) f)
    (hkey : t.key? = some key) (hold : key ∈ bindingKeys front) :
    ∃ before first, DefinesAt front before first ∧ first.key? = some key ∧
      f = .expr (reference (groupCount before)) := by
  cases h with
  | raw body => cases hkey
  | first hkey' hnew =>
    rw [Option.some.inj (hkey.symm.trans hkey')] at hold
    exact absurd hold hnew
  | again hkey' hdefines hsame =>
    rw [← Option.some.inj (hkey.symm.trans hkey')] at hsame
    exact ⟨_, _, hdefines, hsame, rfl⟩

/-- The captures behind `front` are the groups that it defines. -/
structure Captures.Records (c : Captures) (front : List Segment) : Prop where
  size : c.size = groupCount front
  bound : ∀ key n, c.bound.lookup key = some n ↔
    ∃ before t, DefinesAt front before t ∧ t.key? = some key ∧ n = groupCount before
  categories : ∀ n category, c.categories[n]? = some category ↔
    ∃ before t, DefinesAt front before t ∧ n = groupCount before ∧ category = t.category

namespace Captures.Records

theorem empty : ({} : Captures).Records [] := by
  have hnone : ∀ before t, ¬ DefinesAt [] before t := by
    intro before t h
    obtain ⟨⟨back, hback⟩, -⟩ := h
    exact List.append_ne_nil_of_right_ne_nil before (List.cons_ne_nil _ back) hback.symm
  refine ⟨rfl, fun key n => iff_of_false nofun ?_, fun n category => iff_of_false ?_ ?_⟩
  · intro h
    obtain ⟨before, t, h, -⟩ := h
    exact hnone before t h
  · simp
  · intro h
    obtain ⟨before, t, h, -⟩ := h
    exact hnone before t h

/-- What is not bound has not come before. -/
theorem notMem_of_lookup (h : c.Records front) (hnone : c.bound.lookup key = none) :
    key ∉ bindingKeys front := by
  intro hmem
  obtain ⟨before, t, hdefines, hkey⟩ := exists_definesAt hmem
  rw [(h.bound key _).mpr ⟨before, t, hdefines, hkey, rfl⟩] at hnone
  cases hnone

/-- A segment that defines no group leaves the captures as they are. -/
theorem keep (h : c.Records front) (hs : ∀ t, s = .token t → ¬ t.IsFirst front) :
    c.Records (front ++ [s]) := by
  have hsame : ∀ before t, DefinesAt (front ++ [s]) before t ↔ DefinesAt front before t := by
    intro before t
    rw [definesAt_concat]
    exact or_iff_left fun hnew => hs t hnew.2.1 hnew.2.2
  refine ⟨?_, fun key n => ?_, fun n category => ?_⟩
  · rw [groupCount_concat_other hs]
    exact h.size
  · simp only [hsame]
    exact h.bound key n
  · simp only [hsame]
    exact h.categories n category

/-- A token that has not come before is recorded with the next number. -/
theorem define (h : c.Records front) (hfirst : t.IsFirst front)
    (hcategories : c'.categories = c.categories ++ [t.category])
    (hbound : ∀ key n, c'.bound.lookup key = some n ↔
      c.bound.lookup key = some n ∨ t.key? = some key ∧ n = c.size) :
    c'.Records (front ++ [.token t]) := by
  refine ⟨?_, fun key n => ?_, fun n category => ?_⟩
  · unfold Captures.size
    rw [hcategories, groupCount_concat_first hfirst, ← h.size, List.length_append]
    rfl
  · rw [hbound, h.bound, h.size]
    constructor
    · intro hkey
      rcases hkey with ⟨before, t', hold, hkey⟩ | ⟨hkey, hn⟩
      · exact ⟨before, t', definesAt_concat.mpr (.inl hold), hkey⟩
      · exact ⟨front, t, definesAt_concat.mpr (.inr ⟨rfl, rfl, hfirst⟩), hkey, hn⟩
    · intro hkey
      obtain ⟨before, t', hdefines, hkey⟩ := hkey
      rcases definesAt_concat.mp hdefines with hold | ⟨rfl, heq, -⟩
      · exact .inl ⟨before, t', hold, hkey⟩
      · obtain rfl := Segment.token.inj heq
        exact .inr hkey
  · rw [hcategories, getElem?_concat_eq_some_iff, h.categories,
      show c.categories.length = groupCount front from h.size]
    constructor
    · intro hn
      rcases hn with ⟨before, t', hold, hn⟩ | ⟨hn, hcategory⟩
      · exact ⟨before, t', definesAt_concat.mpr (.inl hold), hn⟩
      · exact ⟨front, t, definesAt_concat.mpr (.inr ⟨rfl, rfl, hfirst⟩), hn, hcategory⟩
    · intro hn
      obtain ⟨before, t', hdefines, hn⟩ := hn
      rcases definesAt_concat.mp hdefines with hold | ⟨rfl, heq, -⟩
      · exact .inl ⟨before, t', hold, hn⟩
      · obtain rfl := Segment.token.inj heq
        exact .inr hn

/-- **One segment** is bound as what stands in front of it demands, and is then recorded itself. -/
theorem bindOne (h : c.Records front) (s : Segment) :
    BoundTo front s (bindOne c s).1 ∧ (bindOne c s).2.Records (front ++ [s]) := by
  cases s with
  | space => exact ⟨.space, h.keep nofun⟩
  | text quoted => exact ⟨.text quoted, h.keep nofun⟩
  | token t =>
    show BoundTo front (.token t) (bindToken c t).1 ∧
      (bindToken c t).2.Records (front ++ [.token t])
    cases hkey : t.key? with
    | none =>
      obtain ⟨body, rfl⟩ := exists_raw_of_key? hkey
      have hfragment : (bindToken c (.raw body)).1 = .raw (capture (groupCount front) body) := by
        rw [← h.size]
        rfl
      rw [hfragment]
      exact ⟨.raw body, h.define nofun rfl fun key n => (or_iff_left nofun).symm⟩
    -- used again, the token refers to its first use; used first, it is captured and recorded
    | some key =>
      cases hlookup : c.bound.lookup key with
      | some n =>
        obtain ⟨before, first, hdefines, hfirst, rfl⟩ := (h.bound key n).mp hlookup
        rw [(bindToken_again hkey hlookup).1]
        refine ⟨.again hkey hdefines hfirst, h.keep fun t' heq hnew => ?_⟩
        obtain rfl := Segment.token.inj heq
        exact hnew key hkey (hdefines.mem_bindingKeys hfirst)
      | none =>
        have hnew : key ∉ bindingKeys front := h.notMem_of_lookup hlookup
        rw [(bindToken_first hkey hlookup).1, h.size]
        refine ⟨.first hkey hnew, h.define ((isFirst_iff hkey).mpr hnew) ?_ fun key' n => ?_⟩
        · rw [category_eq_of_key? hkey]
          rfl
        · show ((key, c.size) :: c.bound).lookup key' = some n ↔ _
          rw [List.lookup_cons, hkey, Option.some_inj]
          by_cases heq : key' = key
          · rw [heq, beq_self_eq_true, hlookup, Option.some_inj]
            simp [eq_comm]
          · rw [beq_eq_false_iff_ne.mpr heq]
            exact (or_iff_left fun hn => heq hn.1.symm).symm

/-- Segments are recorded one after the other. -/
theorem bindFrom (h : c.Records front) (segs : List Segment) :
    (bindFrom c segs).2.Records (front ++ segs) := by
  induction segs generalizing c front with
  | nil =>
    rw [List.append_nil]
    exact h
  | cons s segs ih =>
    rw [bindFrom_cons, List.append_cons]
    exact ih (h.bindOne s).2

end Captures.Records

theorem records_bind (segs : List Segment) : (bind segs).2.Records segs :=
  Captures.Records.empty.bindFrom segs

/-! ## The table of captures -/

/-- The names of the captures with their categories. -/
def Captures.table (c : Captures) : List (String × Category) :=
  ((List.range c.size).map captureName).zip c.categories

theorem map_fst_table (c : Captures) :
    c.table.map Prod.fst = (List.range c.size).map captureName := by
  refine List.map_fst_zip ?_
  rw [List.length_map, List.length_range]
  exact Nat.le_refl _

theorem length_table (c : Captures) : c.table.length = c.size := by
  rw [← List.length_map Prod.fst, map_fst_table, List.length_map, List.length_range]

theorem nodup_table (c : Captures) : (c.table.map Prod.fst).Nodup := by
  rw [map_fst_table]
  exact List.nodup_range.map fun _ _ => captureName_inj

theorem mem_table {name : String} {category : Category} :
    (name, category) ∈ c.table ↔ ∃ n, name = captureName n ∧ c.categories[n]? = some category := by
  rw [List.mem_iff_getElem?]
  refine exists_congr fun n => ?_
  unfold Captures.table
  rw [List.getElem?_zip_eq_some, List.getElem?_map, Option.map_eq_some_iff]
  constructor
  · intro h
    obtain ⟨⟨m, hm, hname⟩, hcategory⟩ := h
    obtain ⟨hlt, heq⟩ := List.getElem?_eq_some_iff.mp hm
    rw [List.getElem_range] at heq
    rw [← heq] at hname
    exact ⟨hname.symm, hcategory⟩
  · intro h
    obtain ⟨rfl, hcategory⟩ := h
    have hlt : n < c.size := (List.getElem?_eq_some_iff.mp hcategory).1
    exact ⟨⟨n, List.getElem?_range hlt, rfl⟩, hcategory⟩

/-- A name that is not in the table is in the category `other`. -/
theorem category_of_notMem {name : String} (h : ∀ category, (name, category) ∉ c.table) :
    c.category name = .other := by
  have hnone : c.table.lookup name = none := by
    rw [List.lookup_eq_none_iff]
    intro entry hentry
    rw [bne_iff_ne]
    intro heq
    exact h entry.2 (heq ▸ hentry)
  show (c.table.lookup name).getD .other = .other
  rw [hnone]
  rfl

/-! ## All segments -/

/-- The fragments and the captures are those of the segments: there is one fragment for each
segment, bound as what stands in front of it demands, groups have different names, what comes again
refers to the earlier group of its category, and the table holds the groups that are defined and
nothing else. -/
structure WellBound (segs : List Segment) (fragments : List Fragment) (c : Captures) : Prop where
  length : fragments.length = segs.length
  bound : ∀ front s back, segs = front ++ s :: back →
    ∃ f, fragments[front.length]? = some f ∧ BoundTo front s f
  distinct : ∀ front t front' t', DefinesAt segs front t → DefinesAt segs front' t' →
    captureName (groupCount front) = captureName (groupCount front') → front = front'
  backward : ∀ front t back key, segs = front ++ .token t :: back → t.key? = some key →
    key ∈ bindingKeys front → ∃ before first, DefinesAt front before first ∧
      first.key? = some key ∧ first.category = t.category ∧
      fragments[before.length]? = some (.expr (capture (groupCount before) first.body)) ∧
      fragments[front.length]? = some (.expr (reference (groupCount before)))
  table : ∀ name category, (name, category) ∈ c.table ↔
    ∃ front t, DefinesAt segs front t ∧ name = captureName (groupCount front) ∧
      category = t.category
  nodup : (c.table.map Prod.fst).Nodup
  category : ∀ front t, DefinesAt segs front t →
    c.category (captureName (groupCount front)) = t.category
  other : ∀ name, (∀ front t, DefinesAt segs front t → name ≠ captureName (groupCount front)) →
    c.category name = .other
  size : c.table.length = groupCount segs

theorem length_bindFrom (c : Captures) (segs : List Segment) :
    (bindFrom c segs).1.length = segs.length := by
  induction segs generalizing c with
  | nil => rfl
  | cons s segs ih =>
    rw [bindFrom_cons]
    exact congrArg (· + 1) (ih (bindOne c s).2)

theorem getElem?_bind (front : List Segment) (s : Segment) (back : List Segment) :
    (bind (front ++ s :: back)).1[front.length]? = some (bindOne (bind front).2 s).1 := by
  unfold bind
  rw [bindFrom_append, bindFrom_cons, List.getElem?_append_right (length_bindFrom _ _).le,
    length_bindFrom, Nat.sub_self]
  rfl

theorem boundTo_bind (front : List Segment) (s : Segment) (back : List Segment) :
    ∃ f, (bind (front ++ s :: back)).1[front.length]? = some f ∧ BoundTo front s f :=
  ⟨_, getElem?_bind front s back, ((records_bind front).bindOne s).1⟩

theorem Captures.Records.mem_table_iff (h : c.Records front) {name : String}
    {category : Category} :
    (name, category) ∈ c.table ↔ ∃ before t, DefinesAt front before t ∧
      name = captureName (groupCount before) ∧ category = t.category := by
  rw [mem_table]
  constructor
  · intro hmem
    obtain ⟨n, hname, hn⟩ := hmem
    obtain ⟨before, t, hdefines, rfl, hcategory⟩ := (h.categories n category).mp hn
    exact ⟨before, t, hdefines, hname, hcategory⟩
  · intro hmem
    obtain ⟨before, t, hdefines, hname, hcategory⟩ := hmem
    exact ⟨_, hname, (h.categories _ category).mpr ⟨before, t, hdefines, rfl, hcategory⟩⟩

/-- A token that comes again refers to the group of the one that comes first, which stands in front
of it. -/
theorem bind_again {back : List Segment} (hsegs : segs = front ++ .token t :: back)
    (hkey : t.key? = some key) (hold : key ∈ bindingKeys front) :
    ∃ before first, DefinesAt front before first ∧ first.key? = some key ∧
      first.category = t.category ∧
      (bind segs).1[before.length]? = some (.expr (capture (groupCount before) first.body)) ∧
      (bind segs).1[front.length]? = some (.expr (reference (groupCount before))) := by
  obtain ⟨f, hf, hbinds⟩ := boundTo_bind front (.token t) back
  rw [← hsegs] at hf
  obtain ⟨before, first, hdefines, hfirst, rfl⟩ := hbinds.eq_reference hkey hold
  obtain ⟨⟨inner, hfront⟩, hnew⟩ := id hdefines
  have hearlier : segs = before ++ .token first :: (inner ++ .token t :: back) := by
    rw [hsegs, hfront, List.append_assoc, List.cons_append]
  obtain ⟨f', hf', hbinds'⟩ := boundTo_bind before (.token first) (inner ++ .token t :: back)
  rw [← hearlier] at hf'
  obtain rfl := hbinds'.eq_capture hfirst (hnew key hfirst)
  have hcategory : first.category = t.category := by
    rw [category_eq_of_key? hfirst, category_eq_of_key? hkey]
  exact ⟨before, first, hdefines, hfirst, hcategory, hf', hf⟩

/-- **Tokens are bound in order.** -/
theorem bind_wellBound (segs : List Segment) : WellBound segs (bind segs).1 (bind segs).2 := by
  have hrecords := records_bind segs
  refine
    { length := length_bindFrom {} segs
      bound := fun front s back hsegs => hsegs ▸ boundTo_bind front s back
      distinct := fun front t front' t' h h' hname => h.front_eq h' (captureName_inj hname)
      backward := fun front t back key => bind_again
      table := fun name category => hrecords.mem_table_iff
      nodup := nodup_table _
      category := fun front t h => category_captureName _
        ((hrecords.categories _ _).mpr ⟨front, t, h, rfl, rfl⟩)
      other := ?_
      size := (length_table _).trans hrecords.size }
  intro name hname
  refine category_of_notMem fun category hmem => ?_
  obtain ⟨front, t, hdefines, heq, -⟩ := hrecords.mem_table_iff.mp hmem
  exact hname front t hdefines heq

/-- A variable and a literal of one name are two groups. -/
example : (bind [.token (.variable (.named ['x'])), .token (.literal (.named ['x'])),
      .token (.raw "3+".toList), .token (.variable (.named ['x']))]).1 =
    [.expr (capture 0 Grammar.variableName), .expr (capture 1 Grammar.literal),
      .raw "(?P<__cg2>3+)".toList, .expr "\\k<__cg0>".toList] := by decide +kernel

end CodeShape.Pattern
