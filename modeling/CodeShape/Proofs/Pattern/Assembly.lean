import CodeShape.Pattern.Matcher
import CodeShape.Proofs.Grammar.Languages
import CodeShape.Proofs.Pattern.Splits
import CodeShape.Proofs.Regex.SearchWays

/-!
# The expression of a pattern

The segments of a pattern without raw expressions are assembled into one regular expression, and the
reader makes of its text exactly the items that the segments stand for (`parse_assemble`): quoted
text cannot be mistaken for anything else, and every capture gets the number and the name by which
it is referred to later. The expression can be searched for unless it is too large (`build_ok_iff`).
-/

namespace CodeShape.Pattern

open Regex (Expr Reader Fault Searcher)
open Regex.Reader (Leads Spells clear)
open Grammar (blanksItem Suitable)

/-! ## Names of captures -/

theorem captureName_toList (n : Nat) :
    (captureName n).toList = ['_', '_', 'c', 'g'] ++ Nat.toDigits 10 n := by
  have hdigits : (toString n).toList = Nat.toDigits 10 n := by
    rw [Nat.toString_eq_ofList_toDigits]
    exact String.toList_ofList
  rw [captureName, String.toList_append, hdigits]
  rfl

/-- Captures with different numbers have different names. -/
theorem captureName_inj {m n : Nat} (h : captureName m = captureName n) : m = n := by
  have hlist := congrArg String.toList h
  rw [captureName_toList, captureName_toList, List.append_cancel_left_eq] at hlist
  rw [← Nat.ofDigitChars_ten_toDigits (n := m), hlist, Nat.ofDigitChars_ten_toDigits]

theorem isName_captureName (n : Nat) : Reader.IsName (captureName n).toList := by
  rw [captureName_toList]
  refine ⟨List.cons_ne_nil _ _, fun c hc => ?_⟩
  rcases List.mem_append.mp hc with hc | hc
  · have hall : (['_', '_', 'c', 'g'].all fun c => c.isAlphanum || c == '_') = true := by decide
    exact List.all_eq_true.mp hall c hc
  · have hdigit := Nat.isDigit_of_mem_toDigits (by decide) (by decide) hc
    rw [Char.isAlphanum, hdigit, Bool.or_true, Bool.true_or]

/-- The names of the groups as the reader keeps them, `n` captures having been read. -/
def captureNames : Nat → List (List Char × Nat)
  | 0 => []
  | n + 1 => ((captureName n).toList, n + 1) :: captureNames n

theorem lookup_captureNames {m n : Nat} (h : m < n) :
    (captureNames n).lookup (captureName m).toList = some (m + 1) := by
  induction n with
  | zero => exact absurd h (Nat.not_lt_zero m)
  | succ n ih =>
    rw [captureNames, List.lookup_cons]
    by_cases hm : m = n
    · rw [hm, beq_self_eq_true]
    · have hne : ((captureName m).toList == (captureName n).toList) = false := by
        rw [beq_eq_false_iff_ne]
        exact fun heq => hm (captureName_inj (String.toList_injective heq))
      rw [hne]
      exact ih (by omega)

theorem reference_append (n : Nat) (rest : List Char) : reference n ++ rest
    = '\\' :: 'k' :: '<' :: ((captureName n).toList ++ '>' :: rest) := by
  change ("\\k<".toList ++ (captureName n).toList ++ ['>']) ++ rest = _
  rw [List.append_assoc, List.append_assoc]
  rfl

theorem capture_append (n : Nat) (body rest : List Char) : capture n body ++ rest
    = '(' :: '?' :: 'P' :: '<' :: ((captureName n).toList ++ '>' :: (body ++ ')' :: rest)) := by
  change ("(?P<".toList ++ (captureName n).toList ++ '>' :: body ++ [')']) ++ rest = _
  simp only [List.append_assoc, List.cons_append, List.nil_append]
  rfl

/-! ## Items -/

/-- The captures are consistent: what is bound has a capture. -/
def Captures.Consistent (c : Captures) : Prop :=
  ∀ key n, c.bound.lookup key = some n → n < c.size

/-- The item of a placeholder. -/
def tokenItem (c : Captures) (t : Token) : Expr :=
  match t.key?.bind fun key => c.bound.lookup key with
  | some n => .backref (n + 1)
  | none => .group (c.size + 1) (Expr.cats t.items)

/-- The items of a segment. -/
def segmentItems (c : Captures) : Segment → List Expr
  | .space => [blanksItem]
  | .text quoted => (unquote quoted).map fun ch => .chars (.single ch)
  | .token t => [tokenItem c t]

/-- The items of the expression of a list of segments. -/
def itemsFrom (c : Captures) : List Segment → List Expr
  | [] => []
  | s :: rest => segmentItems c s ++ itemsFrom (bindOne c s).2 rest

theorem itemsFrom_append (c : Captures) (segs more : List Segment) :
    itemsFrom c (segs ++ more) = itemsFrom c segs ++ itemsFrom (bindFrom c segs).2 more := by
  induction segs generalizing c with
  | nil => rfl
  | cons s segs ih => rw [List.cons_append, itemsFrom, itemsFrom, ih, bindFrom_cons, List.append_assoc]

/-- The item of a placeholder, `num` telling the groups of the captures. -/
def tokenItemAt (num : Nat → Nat) (c : Captures) (t : Token) : Expr :=
  match t.key?.bind fun key => c.bound.lookup key with
  | some n => .backref (num n)
  | none => .group (num c.size) (Expr.cats t.items)

/-- The items of a segment, `num` telling the groups of the captures. -/
def segmentItemsAt (num : Nat → Nat) (c : Captures) : Segment → List Expr
  | .space => [blanksItem]
  | .text quoted => (unquote quoted).map fun ch => .chars (.single ch)
  | .token t => [tokenItemAt num c t]

/-- Without raw expressions, each capture has the group behind its number. -/
theorem segmentItemsAt_succ (c : Captures) (s : Segment) :
    segmentItemsAt (· + 1) c s = segmentItems c s := by
  cases s <;> rfl

/-- The captures with one more. -/
def Captures.bind (c : Captures) (key : Category × Identity) : Captures :=
  { c.define key.1 with bound := (key, c.size) :: c.bound }

@[simp] theorem Captures.size_bind (c : Captures) (key : Category × Identity) :
    (c.bind key).size = c.size + 1 := by
  unfold Captures.size Captures.bind Captures.define
  rw [List.length_append, List.length_singleton]

/-- A placeholder is bound to the capture that it has already. -/
theorem bindToken_again {c : Captures} {t : Token} {key : Category × Identity} {n : Nat}
    (hkey : t.key? = some key) (hbound : c.bound.lookup key = some n) :
    bindToken c t = (.expr (reference n), c) ∧ tokenItem c t = .backref (n + 1) := by
  obtain ⟨id, hid, rfl⟩ := Option.map_eq_some_iff.mp hkey
  refine ⟨?_, ?_⟩
  · unfold bindToken
    simp only [hid, hbound]
  · unfold tokenItem
    rw [hkey, Option.bind_some, hbound]

/-- A placeholder that is new is bound to a new capture. -/
theorem bindToken_first {c : Captures} {t : Token} {key : Category × Identity}
    (hkey : t.key? = some key) (hnew : c.bound.lookup key = none) :
    bindToken c t = (.expr (capture c.size t.body), c.bind key) ∧
      tokenItem c t = .group (c.size + 1) (Expr.cats t.items) := by
  obtain ⟨id, hid, rfl⟩ := Option.map_eq_some_iff.mp hkey
  refine ⟨?_, ?_⟩
  · unfold bindToken
    simp only [hid, hnew]
    rfl
  · unfold tokenItem
    rw [hkey, Option.bind_some, hnew]

section ItemsAt

variable {num : Nat → Nat} {c : Captures} {t : Token} {key : Category × Identity}

theorem tokenItemAt_again {n : Nat} (hkey : t.key? = some key)
    (hbound : c.bound.lookup key = some n) : tokenItemAt num c t = .backref (num n) := by
  unfold tokenItemAt
  rw [hkey, Option.bind_some, hbound]

theorem tokenItemAt_first (hkey : t.key? = some key) (hnew : c.bound.lookup key = none) :
    tokenItemAt num c t = .group (num c.size) (Expr.cats t.items) := by
  unfold tokenItemAt
  rw [hkey, Option.bind_some, hnew]

end ItemsAt

/-- A placeholder that is no raw expression has a key. -/
theorem exists_key {t : Token} (h : t.IsPlain) : ∃ key, t.key? = some key := by
  cases t with
  | raw body => exact absurd rfl (h body)
  | _ => exact ⟨_, rfl⟩

theorem Captures.Consistent.bindOne {c : Captures} (hc : c.Consistent) {s : Segment}
    (hs : s.IsPlain) : (bindOne c s).2.Consistent := by
  cases s with
  | space => exact hc
  | text quoted => exact hc
  | token t =>
    obtain ⟨key, hkey⟩ := exists_key hs
    show (bindToken c t).2.Consistent
    cases hbound : c.bound.lookup key with
    | some n =>
      rw [(bindToken_again hkey hbound).1]
      exact hc
    | none =>
      rw [(bindToken_first hkey hbound).1]
      intro key' n hn
      rw [size_bind]
      change ((key, c.size) :: c.bound).lookup key' = some n at hn
      rw [List.lookup_cons] at hn
      split at hn
      · cases hn
        exact Nat.lt_succ_self _
      · exact Nat.lt_succ_of_lt (hc key' n hn)

/-! ## Reading -/

/-- The reader stands behind segments with the given captures, outside of any group. -/
structure Behind (c : Captures) (r : Reader) : Prop where
  flags : r.flags = {}
  numbered : r.numbered = false
  outer : r.outer = []
  groups : r.groups = c.size
  names : r.names = captureNames c.size

/-- The reader behind some segments: as many groups as captures, with their names. -/
def readTo (r : Reader) (n : Nat) (items : List Expr) : Reader :=
  { r.put items with groups := n, names := captureNames n }

variable {c c' : Captures} {r r' : Reader} {rest : List Char}

/-- What has been read behind segments leaves the reader behind more of them. -/
theorem Behind.readTo {items : List Expr} (h : Behind c r)
    (hr' : r'.settle = readTo r.settle c'.size items) : Behind c' r' := by
  refine ⟨?_, ?_, ?_, ?_, ?_⟩
  · rw [← Reader.settle_flags r', hr']
    exact (Reader.settle_flags r).trans h.flags
  · rw [← Reader.settle_numbered r', hr']
    exact (Reader.settle_numbered r).trans h.numbered
  · rw [← Reader.settle_outer r', hr']
    exact (Reader.settle_outer r).trans h.outer
  · rw [← Reader.settle_groups r', hr']
    rfl
  · rw [← Reader.settle_names r', hr']
    rfl

/-- Without new groups, only the items change. -/
theorem Behind.put_settle (h : Behind c r) (items : List Expr) :
    r.settle.put items = Pattern.readTo r.settle c.size items := by
  rw [Pattern.readTo, ← h.names, ← h.groups, ← Reader.settle_groups r, ← Reader.settle_names r]
  rfl

/-- What has no captures is read wherever it stands. -/
theorem leads_spelled (len : Nat) {cs : List Char} {items : List Expr} (h : Behind c r)
    (hspells : Spells 0 cs items) (hclear : clear rest = true) :
    clear (cs ++ rest) = true ∧ ∃ r', r'.settle = readTo r.settle c.size items ∧
      Leads len r (cs ++ rest) r' rest := by
  obtain ⟨hfront, r', hr', hlead⟩ := hspells len r rest h.flags h.numbered
    (by rw [h.outer]; decide) hclear
  exact ⟨hfront, r', hr'.trans (h.put_settle items), hlead⟩

/-- A reference is read as a reference to the group of its capture. -/
theorem leads_referenced (len : Nat) {n : Nat} (h : Behind c r) (hn : n < c.size)
    (rest : List Char) :
    ∃ r', r'.settle = readTo r.settle c.size [.backref (n + 1)] ∧
      Leads len r (reference n ++ rest) r' rest := by
  have hlead : Leads len r ('\\' :: 'k' :: '<' :: ((captureName n).toList ++ '>' :: rest))
      (r.push (.backref (n + 1))) rest := by
    refine Reader.leads_reference (isName_captureName n) h.flags ?_ ?_ rest
    · rw [h.names]
      exact lookup_captureNames hn
    · rw [h.groups]
      exact hn
  rw [reference_append]
  exact ⟨_, (Reader.push_settle rfl).trans (h.put_settle _), hlead⟩

/-- A capture is read as a new group with the capture's name. -/
theorem leads_captured (len : Nat) {t : Token} (h : Behind c r) (ht : t.IsPlain)
    (rest : List Char) :
    ∃ r', r'.settle = readTo r.settle (c.size + 1) [.group (c.size + 1) (Expr.cats t.items)] ∧
      Leads len r (capture c.size t.body ++ rest) r' rest := by
  obtain ⟨r', hr', hlead⟩ : ∃ r', r'.settle = r.settle.capture (captureName c.size).toList
      (Expr.cats t.items) ∧ Leads len r ('(' :: '?' :: 'P' :: '<' ::
        ((captureName c.size).toList ++ '>' :: (t.body ++ ')' :: rest))) r' rest :=
    (Token.spells_body ht).fills.captured (isName_captureName c.size) h.flags h.numbered
      (by rw [h.outer]; decide) rest
  rw [capture_append]
  refine ⟨r', ?_, hlead⟩
  rw [hr', Reader.capture, readTo, captureNames, ← h.names, ← h.groups, Reader.settle_groups,
    Reader.settle_names]
  rfl

/-- A segment is read as its items. -/
theorem leads_segment (len : Nat) {s : Segment} (hs : s.IsPlain) (hc : c.Consistent)
    (h : Behind c r) (hclear : clear rest = true) :
    clear ((bindOne c s).1.written ++ rest) = true ∧
      ∃ r', r'.settle = readTo r.settle (bindOne c s).2.size (segmentItems c s) ∧
        Leads len r ((bindOne c s).1.written ++ rest) r' rest := by
  cases s with
  | space => exact leads_spelled len h Grammar.spells_blanks hclear
  | text quoted =>
    have hquote := Reader.spells_quote (unquote quoted)
    rw [hs] at hquote
    exact leads_spelled len h hquote hclear
  | token t =>
    obtain ⟨key, hkey⟩ := exists_key hs
    show clear ((bindToken c t).1.written ++ rest) = true ∧
      ∃ r', r'.settle = readTo r.settle (bindToken c t).2.size [tokenItem c t] ∧
        Leads len r ((bindToken c t).1.written ++ rest) r' rest
    cases hbound : c.bound.lookup key with
    | some n =>
      obtain ⟨htoken, hitem⟩ := bindToken_again hkey hbound
      rw [htoken, hitem]
      exact ⟨rfl, leads_referenced len h (hc key n hbound) rest⟩
    | none =>
      obtain ⟨htoken, hitem⟩ := bindToken_first hkey hbound
      rw [htoken, hitem, Captures.size_bind]
      exact ⟨rfl, leads_captured len h hs rest⟩

/-- Segments are read one after the other. -/
theorem leads_segments (len : Nat) {segs : List Segment} (hsegs : ∀ s ∈ segs, s.IsPlain)
    (hc : c.Consistent) (h : Behind c r) :
    clear (assemble (bindFrom c segs).1) = true ∧
      ∃ r', r'.settle = readTo r.settle (bindFrom c segs).2.size (itemsFrom c segs) ∧
        Leads len r (assemble (bindFrom c segs).1) r' [] := by
  induction segs generalizing c r with
  | nil =>
    refine ⟨rfl, r, ?_, Leads.refl len r []⟩
    exact h.put_settle []
  | cons s segs ih =>
    obtain ⟨hs, hsegs⟩ := List.forall_mem_cons.mp hsegs
    have htext : assemble (bindFrom c (s :: segs)).1
        = (bindOne c s).1.written ++ assemble (bindFrom (bindOne c s).2 segs).1 := by
      rw [bindFrom_cons]
      rfl
    have hc' := hc.bindOne hs
    -- how the rest begins does not depend on the reader in front of it
    have hclear : clear (assemble (bindFrom (bindOne c s).2 segs).1) = true := by
      have hsome : Behind (bindOne c s).2 { ({} : Reader) with
          groups := (bindOne c s).2.size, names := captureNames (bindOne c s).2.size } :=
        ⟨rfl, rfl, rfl, rfl, rfl⟩
      exact (ih hsegs hc' hsome).1
    obtain ⟨hfront, r₁, hr₁, hlead₁⟩ := leads_segment len hs hc h hclear
    obtain ⟨-, r₂, hr₂, hlead₂⟩ := ih hsegs hc' (h.readTo hr₁)
    rw [htext]
    refine ⟨hfront, r₂, ?_, hlead₁.trans hlead₂⟩
    rw [hr₂, hr₁, bindFrom_cons, itemsFrom]
    unfold readTo Reader.put
    simp

/-- The expression of some segments. -/
def expressionOf (segs : List Segment) : Expr :=
  Expr.cats (itemsFrom {} segs)

/-- **The assembled text is read as the items of its segments.** -/
theorem parse_assemble {segs : List Segment} (hsegs : ∀ s ∈ segs, s.IsPlain) :
    Regex.parse (assemble (bind segs).1) = .ok ⟨expressionOf segs, (bind segs).2.size,
      (captureNames (bind segs).2.size).map fun (name, i) => (String.ofList name, i)⟩ := by
  have hempty : ({} : Captures).Consistent := nofun
  have hfront : Behind {} {} := ⟨rfl, rfl, rfl, rfl, rfl⟩
  obtain ⟨-, r, hr, hlead⟩ :=
    leads_segments (Regex.byteLength (assemble (bind segs).1)) hsegs hempty hfront
  rw [Reader.parse_of_leads hlead]
  have hlevel : r.settle.level = { items := (itemsFrom {} segs).reverse } := by
    rw [hr]
    show ({ items := (itemsFrom {} segs).reverse ++ [] } : Regex.Level) = _
    rw [List.append_nil]
  have hcheck : r.settle.checkNumbers = .ok () := by
    rw [hr]
    rfl
  have houter : r.settle.outer = [] := by
    rw [hr]
    rfl
  have hexpr : r.settle.level.expr = expressionOf segs := by
    rw [hlevel, Reader.expr_of_branches, List.reverse_reverse]
    rfl
  unfold Reader.finish
  simp only [houter, hcheck, hexpr]
  rw [hr]
  rfl

/-! ## Searching for the expression -/

/-- The search keeps all ways of the items of a segment, and each of them is one item. The only group
that they may have is that of a new capture. -/
theorem segmentItemsAt_suitable (num : Nat → Nat) (c : Captures) {s : Segment} (hs : s.IsPlain) :
    ∀ e ∈ segmentItemsAt num c s, e.items = [e] ∧ e.orderly = true ∧ e.tidy = true ∧
      ∀ g ∈ e.groups, g = num c.size ∧ c.size < (bindOne c s).2.size := by
  cases s with
  | space =>
    rw [segmentItemsAt, List.forall_mem_singleton]
    exact ⟨rfl, rfl, rfl, nofun⟩
  | text quoted =>
    rw [segmentItemsAt, List.forall_mem_map]
    exact fun ch _ => ⟨rfl, rfl, rfl, nofun⟩
  | token t =>
    obtain ⟨key, hkey⟩ := exists_key hs
    rw [segmentItemsAt, List.forall_mem_singleton]
    change _ ∧ _ ∧ _ ∧ ∀ g ∈ _, _ ∧ _ < (bindToken c t).2.size
    cases hbound : c.bound.lookup key with
    | some n =>
      rw [tokenItemAt_again hkey hbound]
      exact ⟨rfl, rfl, rfl, nofun⟩
    | none =>
      obtain ⟨hitems, hfix⟩ := Token.items_suitable hs
      rw [tokenItemAt_first hkey hbound, (bindToken_first hkey hbound).1, Captures.size_bind]
      refine ⟨rfl, Expr.cats_orderly fun e he => ⟨(hitems e he).1, (hitems e he).2.1⟩, ?_, ?_⟩
      · show (!(Expr.cats t.items).fixedSize || _) = true
        rw [hfix]
        rfl
      · rw [Expr.groups, Expr.cats_groups fun e he => (hitems e he).2.2, List.forall_mem_singleton]
        exact ⟨rfl, Nat.lt_succ_self _⟩

theorem segmentItems_suitable (c : Captures) {s : Segment} (hs : s.IsPlain) :
    ∀ e ∈ segmentItems c s, e.orderly = true ∧ e.tidy = true ∧ 0 ∉ e.groups := by
  intro e he
  rw [← segmentItemsAt_succ] at he
  obtain ⟨-, horder, htidy, hgroups⟩ := segmentItemsAt_suitable _ c hs e he
  exact ⟨horder, htidy, fun hzero => Nat.succ_ne_zero _ (hgroups 0 hzero).1.symm⟩

theorem itemsFrom_suitable (c : Captures) {segs : List Segment} (hsegs : ∀ s ∈ segs, s.IsPlain) :
    ∀ e ∈ itemsFrom c segs, e.orderly = true ∧ e.tidy = true ∧ 0 ∉ e.groups := by
  induction segs generalizing c with
  | nil => exact fun e he => absurd he List.not_mem_nil
  | cons s segs ih =>
    obtain ⟨hs, hsegs⟩ := List.forall_mem_cons.mp hsegs
    intro e he
    rcases List.mem_append.mp he with he | he
    · exact segmentItems_suitable c hs e he
    · exact ih _ hsegs e he

theorem expressionOf_orderly {segs : List Segment} (hsegs : ∀ s ∈ segs, s.IsPlain) :
    (expressionOf segs).orderly = true :=
  Expr.cats_orderly fun e he =>
    ⟨(itemsFrom_suitable {} hsegs e he).1, (itemsFrom_suitable {} hsegs e he).2.1⟩

theorem zero_not_mem_groups {segs : List Segment} (hsegs : ∀ s ∈ segs, s.IsPlain) :
    0 ∉ (expressionOf segs).groups :=
  Expr.not_mem_groups_cats fun e he => (itemsFrom_suitable {} hsegs e he).2.2

/-! ## The groups of a matcher -/

/-- The names of the groups, `n` captures having been read. -/
def groupNames (n : Nat) : List (String × Nat) :=
  (captureNames n).map fun (name, i) => (String.ofList name, i)

theorem groupNames_succ (n : Nat) :
    groupNames (n + 1) = (captureName n, n + 1) :: groupNames n := by
  rw [groupNames, captureNames, List.map_cons]
  dsimp only
  rw [String.ofList_toList]
  rfl

theorem lookup_groupNames {m n : Nat} (h : m < n) :
    (groupNames n).lookup (captureName m) = some (m + 1) := by
  induction n with
  | zero => exact absurd h (Nat.not_lt_zero m)
  | succ n ih =>
    rw [groupNames_succ, List.lookup_cons]
    by_cases hm : m = n
    · rw [hm, beq_self_eq_true]
    · have hne : (captureName m == captureName n) = false := by
        rw [beq_eq_false_iff_ne]
        exact fun heq => hm (captureName_inj heq)
      rw [hne]
      exact ih (by omega)

/-- The group of a capture has the capture's name; group 0 has none. -/
theorem find?_groupNames {m n : Nat} (h : m ≤ n) (g : Nat) :
    ((groupNames m).find? fun (name, i) => i == g && (groupNames n).lookup name == some i)
      = if 0 < g ∧ g ≤ m then some (captureName (g - 1), g) else none := by
  induction m with
  | zero =>
    rw [if_neg (by omega)]
    rfl
  | succ m ih =>
    rw [groupNames_succ, List.find?_cons]
    dsimp only
    rw [lookup_groupNames h, beq_self_eq_true, Bool.and_true]
    by_cases hg : m + 1 = g
    · rw [← hg, beq_self_eq_true, if_pos (by omega)]
      rfl
    · rw [beq_eq_false_iff_ne.mpr hg, ih (by omega)]
      by_cases hle : 0 < g ∧ g ≤ m
      · rw [if_pos hle, if_pos (by omega)]
      · rw [if_neg hle, if_neg (by omega)]

theorem lookup_zip_captureNames (categories : List Category) (first k : Nat) :
    (((List.range' first categories.length).map captureName).zip categories).lookup
      (captureName (first + k)) = categories[k]? := by
  induction categories generalizing first k with
  | nil => rfl
  | cons category categories ih =>
    rw [List.length_cons, List.range'_succ, List.map_cons, List.zip_cons_cons, List.lookup_cons]
    cases k with
    | zero =>
      rw [Nat.add_zero, beq_self_eq_true]
      rfl
    | succ k =>
      have hne : (captureName (first + (k + 1)) == captureName first) = false := by
        rw [beq_eq_false_iff_ne]
        intro heq
        have := captureName_inj heq
        omega
      rw [hne, List.getElem?_cons_succ, ← ih (first + 1) k,
        show first + 1 + k = first + (k + 1) by omega]

/-- The category of a capture is found by its name. -/
theorem category_captureName (c : Captures) {k : Nat} {category : Category}
    (h : c.categories[k]? = some category) : c.category (captureName k) = category := by
  have hlookup := lookup_zip_captureNames c.categories 0 k
  rw [Nat.zero_add, h, ← List.range_eq_range'] at hlookup
  unfold Captures.category
  dsimp only
  rw [show c.size = c.categories.length from rfl, hlookup]
  rfl

/-- The groups of a matcher: one for each capture, in order. -/
def groupsOf (c : Captures) : List (Nat × Category) :=
  (List.range c.size).filterMap fun k => c.categories[k]?.map fun category => (k + 1, category)

theorem nameOf?_groupNames (written : List Char) (n : Nat) (method : Regex.Method) (g : Nat) :
    Searcher.nameOf? ⟨written, n, groupNames n, method⟩ g
      = if 0 < g ∧ g ≤ n then some (captureName (g - 1)) else none := by
  have hfind := find?_groupNames (Nat.le_refl n) g
  unfold Searcher.nameOf?
  dsimp only
  rw [hfind]
  split
  · rfl
  · rfl

theorem groups_eq_groupsOf (written : List Char) (c : Captures) (method : Regex.Method) :
    ((List.range (c.size + 1)).filterMap fun g =>
      (Searcher.nameOf? ⟨written, c.size, groupNames c.size, method⟩ g).map
        fun name => (g, c.category name)) = groupsOf c := by
  have hzero : (Searcher.nameOf? ⟨written, c.size, groupNames c.size, method⟩ 0).map
      (fun name => (0, c.category name)) = none := by
    rw [nameOf?_groupNames]
    rfl
  rw [List.range_succ_eq_map, List.filterMap_cons, hzero, List.filterMap_map]
  refine List.filterMap_congr fun k hk => ?_
  have hk := List.mem_range.mp hk
  have hcategory : c.categories[k]? = some c.categories[k] := List.getElem?_eq_getElem hk
  rw [Function.comp_apply, nameOf?_groupNames, if_pos (by omega), hcategory, Option.map_some,
    Option.map_some, Nat.succ_sub_one, category_captureName c hcategory]

/-- What is built holds the searcher of its expression, and its groups have the categories of their
names. -/
theorem build_eq_ok_iff {source expr : List Char} {captures : Captures} {limits : Limits}
    {m : Matcher} : Matcher.build source expr captures limits = .ok m ↔
      ∃ searcher, Searcher.compile expr = .ok searcher ∧
        m = ⟨source, searcher, (List.range (searcher.groups + 1)).filterMap fun g =>
          (searcher.nameOf? g).map fun name => (g, captures.category name), limits⟩ := by
  unfold Matcher.build
  cases Searcher.compile expr with
  | error fault => exact iff_of_false nofun (by rintro ⟨searcher, ⟨⟩, -⟩)
  | ok searcher =>
    constructor
    · rintro ⟨⟩
      exact ⟨searcher, rfl, rfl⟩
    · rintro ⟨_, ⟨⟩, rfl⟩
      rfl

/-- The text of segments without raw expressions is compiled unless it is too large. -/
theorem compile_assemble {segs : List Segment} (hsegs : ∀ s ∈ segs, s.IsPlain) :
    Searcher.compile (assemble (bind segs).1)
      = (Regex.Method.ofExpr (expressionOf segs)).map fun method =>
        ⟨assemble (bind segs).1, (bind segs).2.size, groupNames (bind segs).2.size, method⟩ := by
  unfold Searcher.compile
  rw [parse_assemble hsegs]
  show (Regex.Method.ofExpr (expressionOf segs)).bind _ = _
  cases Regex.Method.ofExpr (expressionOf segs) with
  | error fault => rfl
  | ok method => rfl

/-- The matcher for some segments without raw expressions, unless it is too large. -/
def matcherOf (source : List Char) (segs : List Segment) (limits : Limits) :
    Except Regex.Fault Matcher :=
  (Regex.Method.ofExpr (expressionOf segs)).map fun method =>
    ⟨source, ⟨assemble (bind segs).1, (bind segs).2.size, groupNames (bind segs).2.size, method⟩,
      groupsOf (bind segs).2, limits⟩

/-- What is built from segments without raw expressions is their matcher. -/
theorem build_eq_matcherOf {segs : List Segment} (hsegs : ∀ s ∈ segs, s.IsPlain)
    (source : List Char) (limits : Limits) :
    Matcher.build source (assemble (bind segs).1) (bind segs).2 limits
      = (matcherOf source segs limits).mapError fun _ => .invalid (String.ofList source) := by
  unfold Matcher.build matcherOf
  rw [compile_assemble hsegs]
  cases Regex.Method.ofExpr (expressionOf segs) with
  | error fault => rfl
  | ok method =>
    rw [← groups_eq_groupsOf (assemble (bind segs).1) _ method]
    rfl

/-- What is compiled from segments without raw expressions. -/
theorem matcher_of_build {segs : List Segment} (hsegs : ∀ s ∈ segs, s.IsPlain)
    {source : List Char} {limits : Limits} {m : Matcher}
    (hm : Matcher.build source (assemble (bind segs).1) (bind segs).2 limits = .ok m) :
    ∃ method, Regex.Method.ofExpr (expressionOf segs) = .ok method ∧
      m = ⟨source, ⟨assemble (bind segs).1, (bind segs).2.size, groupNames (bind segs).2.size,
        method⟩, groupsOf (bind segs).2, limits⟩ := by
  rw [build_eq_matcherOf hsegs, mapError_eq_ok_iff] at hm
  obtain ⟨method, hmethod, rfl⟩ := map_eq_ok_iff.mp hm
  exact ⟨method, hmethod, rfl⟩

/-- The parts of what is compiled that matter to a scan. -/
theorem build_eq {segs : List Segment} (hsegs : ∀ s ∈ segs, s.IsPlain) {source : List Char}
    {limits : Limits} {m : Matcher}
    (hm : Matcher.build source (assemble (bind segs).1) (bind segs).2 limits = .ok m) :
    Regex.Method.ofExpr (expressionOf segs) = .ok m.searcher.method ∧
      m.groups = groupsOf (bind segs).2 ∧ m.limits = limits := by
  obtain ⟨method, hmethod, rfl⟩ := matcher_of_build hsegs hm
  exact ⟨hmethod, rfl, rfl⟩

/-- Only its size can keep what has no raw expressions from being compiled. -/
theorem build_ok_iff {segs : List Segment} (hsegs : ∀ s ∈ segs, s.IsPlain) (source : List Char)
    (limits : Limits) :
    (∃ m, Matcher.build source (assemble (bind segs).1) (bind segs).2 limits = .ok m) ↔
      Regex.Automaton.leafCount (expressionOf segs) ≤ Regex.maxLeaves := by
  rw [← Regex.method_ok_iff (expressionOf_orderly hsegs)]
  constructor
  · intro h
    obtain ⟨m, hm⟩ := h
    exact ⟨m.searcher.method, (build_eq hsegs hm).1⟩
  · intro h
    obtain ⟨method, hmethod⟩ := h
    rw [build_eq_matcherOf hsegs, matcherOf, hmethod]
    exact ⟨_, rfl⟩

/-! ## Compiling a pattern -/

theorem splitBlanks_isPlain (cs : List Char) : ∀ s ∈ splitBlanks cs, s.IsPlain := by
  intro s hs
  rcases mem_splitBlanks hs with rfl | ⟨run, rfl, -⟩
  · trivial
  · exact congrArg Regex.quote (unquote_quote run)

/-- The pieces of a pattern that holds no raw expression. -/
def PlainPieces (pieces : List Piece) : Prop :=
  ∀ body, .token (.raw body) ∉ pieces

theorem segments_isPlain {p : Piece} (hp : ∀ body, p ≠ .token (.raw body)) :
    ∀ s ∈ p.segments, s.IsPlain := by
  cases p with
  | text cs => exact splitBlanks_isPlain (pad cs)
  | token t =>
    have ht : t.IsPlain := by
      rintro body rfl
      exact hp body rfl
    cases t with
    | block greedy id => exact List.forall_mem_singleton.mpr ht
    | _ =>
      exact List.forall_mem_cons.mpr ⟨trivial, List.forall_mem_cons.mpr
        ⟨ht, List.forall_mem_singleton.mpr trivial⟩⟩

theorem normalize_isPlain {pieces : List Piece} (h : PlainPieces pieces) :
    ∀ s ∈ normalize pieces, s.IsPlain := by
  intro s hs
  obtain ⟨p, hp, hs⟩ := List.mem_flatMap.mp hs
  refine segments_isPlain ?_ s hs
  rintro body rfl
  exact h body hp

theorem layout_isPlain {pieces : List Piece} (h : PlainPieces pieces) :
    ∀ s ∈ layout (normalize pieces), s.IsPlain :=
  fun s hs => normalize_isPlain h s (mem_of_mem_layout hs)

/-- Compiling a pattern is building what its layout is assembled to. -/
theorem compile_eq {pattern : List Char} {pieces : List Piece}
    (hextract : extract pattern = .ok pieces) (limits : Limits) :
    Matcher.compile pattern limits
      = Matcher.build pattern (assemble (bind (layout (normalize pieces))).1)
          (bind (layout (normalize pieces))).2 limits := by
  unfold Matcher.compile
  rw [hextract, bind_layout]
  rfl

/-- What is found out about the matcher for the layout of a pattern holds of what the pattern is
compiled to. So a run needs no reading of the expression. -/
theorem exists_compile_of_run {pattern : List Char} {pieces : List Piece} {limits : Limits}
    (hextract : extract pattern = .ok pieces) (hplain : PlainPieces pieces) {α : Type}
    {run : Matcher → α} {result : α}
    (hrun : (matcherOf pattern (layout (normalize pieces)) limits).map run = .ok result) :
    ∃ m, Matcher.compile pattern limits = .ok m ∧ run m = result := by
  obtain ⟨m, hm, hresult⟩ := map_eq_ok_iff.mp hrun
  refine ⟨m, ?_, hresult⟩
  rw [compile_eq hextract, build_eq_matcherOf (layout_isPlain hplain), mapError_eq_ok_iff, hm]

end CodeShape.Pattern
