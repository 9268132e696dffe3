import CodeShape.Proofs.Pattern.Layout
import CodeShape.Proofs.Pattern.PlainCode
import CodeShape.Proofs.Pattern.Preference

/-!
# A block between two pieces of code

Code, a block and code: the block competes for blanks with the gaps beside it, but whatever a split
gives to them, the code behind ends the later the later the block does (`Stretch.stop_le`). So the
match that is found has the block that its kind wants, and with it the end (`block_extremal`).
-/

namespace CodeShape.Pattern

open Regex (Expr Occurs)
open Regex.Automaton (leafCount)

variable {text : Array Char} {segs more : List Segment} {ps qs : List Part} {b b' b'' : Bindings}
  {i j k l : Nat} {x y : List Char} {p q greedy : Bool} {id : Identity}

/-! ## Splits without placeholders -/

/-- Parts without placeholders bind nothing. -/
theorem Splits.bindings_eq (h : Splits text b i ps k b')
    (hplain : ∀ t, .token t ∉ ps.map (·.segment)) : b' = b := by
  induction h with
  | nil => rfl
  | space _ _ _ ih => exact ih fun t ht => hplain t (List.mem_cons_of_mem _ ht)
  | text _ _ ih => exact ih fun t ht => hplain t (List.mem_cons_of_mem _ ht)
  | @first _ _ _ _ _ _ t => exact absurd List.mem_cons_self (hplain t)
  | @again _ _ _ _ _ _ t => exact absurd List.mem_cons_self (hplain t)

/-! ## The layout around a block -/

/-- The pieces of code, a block and code. -/
def blockPieces (x y : List Char) (greedy : Bool) (id : Identity) : List Piece :=
  [.text x, .token (.block greedy id), .text y]

/-- They are laid out one by one, with gaps that may stand beside the block. -/
theorem layout_blockPieces (x y : List Char) (greedy : Bool) (id : Identity) :
    ∃ p q, layout (normalize (blockPieces x y greedy id)) =
      plainSegments x ++ (gapIf p ++ .token (.block greedy id) :: (gapIf q ++ plainSegments y)) := by
  obtain ⟨p, hp⟩ := exists_layout_append (splitBlanks (pad x))
  obtain ⟨q, hq⟩ := exists_append_layout (splitBlanks (pad y))
  refine ⟨p, q, ?_⟩
  have hnormalize : normalize (blockPieces x y greedy id) =
      splitBlanks (pad x) ++ .token (.block greedy id) :: splitBlanks (pad y) := by
    show splitBlanks (pad x) ++ ([.token (.block greedy id)] ++ (splitBlanks (pad y) ++ [])) = _
    rw [List.append_nil]
    rfl
  rw [hnormalize, layout_append_token, hp, hq, List.append_assoc]
  rfl

/-! ## Stretches of a text -/

/-- From one character to another, the text is what segments without placeholders stand for. -/
def Stretch (text : Array Char) (segs : List Segment) (i j : Nat) : Prop :=
  ∃ cs, Occurs text cs i j ∧ Fits segs cs

/-- A blank stands at a character of the text. -/
def BlankAt (text : Array Char) (n : Nat) : Prop :=
  ∃ c, text[n]? = some c ∧ Unicode.isBlank c = true

theorem Stretch.le (h : Stretch text segs i j) : i ≤ j := by
  obtain ⟨cs, hcs, -⟩ := h
  exact hcs.le

theorem stretch_gapIf_iff : Stretch text (gapIf p) i j ↔
    i ≤ j ∧ j ≤ text.size ∧ (∀ n, i ≤ n → n < j → BlankAt text n) ∧ (p = false → i = j) := by
  constructor
  · rintro ⟨cs, hcs, hfits⟩
    cases p with
    | false =>
      cases hfits
      obtain ⟨rfl, hsize⟩ := Regex.occurs_nil.mp hcs
      exact ⟨Nat.le_refl _, hsize, fun n hin hnj => absurd hnj (Nat.not_lt.mpr hin), fun _ => rfl⟩
    | true =>
      cases hfits with
      | @space _ blanks _ hblank rest =>
        cases rest
        rw [List.append_nil] at hcs
        refine ⟨hcs.le, hcs.le_size, fun n hin hnj => ?_, nofun⟩
        obtain ⟨hlen, -, hget⟩ := Regex.occurs_iff.mp hcs
        have hlt : n - i < blanks.length := by omega
        have hn := hget (n - i) hlt
        rw [Nat.add_sub_cancel' hin, List.getElem?_eq_getElem hlt] at hn
        exact ⟨_, hn, hblank _ (List.getElem_mem hlt)⟩
  · rintro ⟨hle, hsize, hblank, hnone⟩
    have hocc := Regex.occurs_extract hle hsize
    refine ⟨_, hocc, ?_⟩
    cases p with
    | false =>
      obtain rfl := hnone rfl
      rw [(Regex.occurs_nil.mpr ⟨rfl, hsize⟩).eq]
      exact .nil
    | true =>
      rw [← List.append_nil (text.extract i j).toList]
      refine .space (fun c hc => ?_) .nil
      obtain ⟨n, hn, rfl⟩ := List.getElem_of_mem hc
      obtain ⟨hlen, -, hget⟩ := Regex.occurs_iff.mp hocc
      obtain ⟨d, hd, hdblank⟩ := hblank (i + n) (by omega) (by omega)
      rw [hget n hn, List.getElem?_eq_getElem hn] at hd
      exact Option.some.inj hd ▸ hdblank

/-- Code does not begin with a blank. -/
theorem Stretch.not_blankAt (h : Stretch text (plainSegments y) i j) (hy : ink y ≠ []) :
    ¬ BlankAt text i := by
  obtain ⟨cs, hcs, hfits⟩ := h
  rintro ⟨c, hc, hblank⟩
  cases cs with
  | nil => exact hy (ink_eq_of_fits hfits).symm
  | cons d cs =>
    obtain ⟨hd, -⟩ := Regex.occurs_cons.mp hcs
    have hink := (noBlankEnds_of_fits hfits).1 d rfl
    rw [← Option.some.inj (hc.symm.trans hd), hblank] at hink
    cases hink

/-- **The later code begins, the later it ends**, whatever blanks its gaps take. -/
theorem Stretch.stop_le (h : Stretch text (plainSegments y) i j)
    (h' : Stretch text (plainSegments y) k l) (hik : i ≤ k) : j ≤ l := by
  obtain ⟨cs, hcs, hfits⟩ := h
  obtain ⟨ds, hds, hfits'⟩ := h'
  by_contra hlt
  have hkl := hds.le
  -- the second stretch lies in the first one, which has nothing but blanks beside it
  have hsplit : cs = (text.extract i k).toList ++ (ds ++ (text.extract l j).toList) := by
    refine hcs.chars_eq (Regex.occurs_append.mpr ⟨k, ?_, Regex.occurs_append.mpr ⟨l, hds, ?_⟩⟩)
    · exact Regex.occurs_extract hik (Nat.le_trans hkl hds.le_size)
    · exact Regex.occurs_extract (by omega) hcs.le_size
  have hback : ink (text.extract l j).toList = [] := by
    have hlen := congrArg (List.length ∘ ink) hsplit
    simp only [Function.comp_apply, ink_append, List.length_append] at hlen
    rw [hfits.ink_eq hfits'] at hlen
    exact List.eq_nil_of_length_eq_zero (by omega)
  have hlen : (text.extract l j).toList.length = j - l := by
    have := (Regex.occurs_extract (by omega) hcs.le_size : Occurs text _ l j).length_eq
    omega
  obtain ⟨c, hc⟩ : ∃ c, (text.extract l j).toList.getLast? = some c := by
    cases hlast : (text.extract l j).toList.getLast? with
    | some c => exact ⟨c, rfl⟩
    | none =>
      rw [List.getLast?_eq_none_iff] at hlast
      rw [hlast, List.length_nil] at hlen
      omega
  have hend := (noBlankEnds_of_fits hfits).2 c (by
    rw [hsplit, List.getLast?_append, List.getLast?_append, hc]
    rfl)
  rw [ink_eq_nil.mp hback c (List.mem_of_getLast? hc)] at hend
  cases hend

/-! ## Cuts -/

/-- A text is cut into code from `i` to `e`, a gap, a block from `j` to `k`, a gap, and code from `s` to
`l`. -/
structure Cut (text : Array Char) (x y : List Char) (p q : Bool) (i e j k s l : Nat) : Prop where
  front : Stretch text (plainSegments x) i e
  before : Stretch text (gapIf p) e j
  block : j ≤ k
  behind : Stretch text (gapIf q) k s
  back : Stretch text (plainSegments y) s l

namespace Cut

variable {e j' k' s s' l' e' : Nat}

/-- The gap before the block may take more blanks. -/
theorem shift (h : Cut text x y p q i e j k s l) (hy : ink y ≠ [])
    (hgap : Stretch text (gapIf p) e j') : Cut text x y p q i e j' (max k j') s l := by
  obtain ⟨hfront, hbefore, hblock, hbehind, hback⟩ := h
  by_cases hle : j' ≤ k
  · rw [Nat.max_eq_left hle]
    exact ⟨hfront, hgap, hle, hbehind, hback⟩
  · -- the block ends among these blanks, and so does not reach the code behind
    rw [Nat.max_eq_right (by omega)]
    obtain ⟨-, hsize, hblank, -⟩ := stretch_gapIf_iff.mp hgap
    obtain ⟨hks, hsize', hblank', hnone'⟩ := stretch_gapIf_iff.mp hbehind
    have hej := hbefore.le
    have hs : j' ≤ s := by
      by_contra hlt
      exact hback.not_blankAt hy (hblank s (by omega) (by omega))
    refine ⟨hfront, hgap, Nat.le_refl _, stretch_gapIf_iff.mpr ⟨hs, hsize', ?_, ?_⟩, hback⟩
    · intro n hn hns
      exact hblank' n (by omega) hns
    · intro hq
      have := hnone' hq
      omega

/-- The later the block ends, the later the whole cut does. -/
theorem stop_le (h : Cut text x y p q i e j k s l) (h' : Cut text x y p q i e' j' k' s' l')
    (hy : ink y ≠ []) (hk : k ≤ k') : l ≤ l' := by
  obtain ⟨-, -, hblank, hnone⟩ := stretch_gapIf_iff.mp h.behind
  obtain ⟨hks, -, -, hnone'⟩ := stretch_gapIf_iff.mp h'.behind
  refine h.back.stop_le h'.back ?_
  by_contra hlt
  exact h'.back.not_blankAt hy (hblank s' (by omega) (by omega))

/-- **A block that ends where it wants to, behind a gap that takes all blanks, is extremal** among
those of all cuts from the same place. -/
theorem extremal (h : Cut text x y p q i e j k s l) (hy : ink y ≠ [])
    (hgap : p = true → ∀ k s l, ¬ Cut text x y p q i e (j + 1) k s l)
    (hblock : ∀ k' s l, Cut text x y p q i e j k' s l → ¬ Regex.Ways.Prefers greedy k' k)
    (h' : Cut text x y p q i e' j' k' s' l') :
    (greedy = false → l ≤ l' ∧ (j = k ∨ j' ≤ j ∧ k ≤ k')) ∧ (greedy = true → l' ≤ l) := by
  obtain rfl : e = e' :=
    Nat.le_antisymm (h.front.stop_le h'.front (Nat.le_refl _))
      (h'.front.stop_le h.front (Nat.le_refl _))
  obtain ⟨hej, -, hblank, -⟩ := stretch_gapIf_iff.mp h.before
  obtain ⟨hej', hsize', hblank', hnone'⟩ := stretch_gapIf_iff.mp h'.before
  have hj : j' ≤ j := by
    by_contra hlt
    have hp : p = true := by
      cases p with
      | true => rfl
      | false =>
        have := hnone' rfl
        omega
    have hlonger : Stretch text (gapIf p) e (j + 1) := by
      refine stretch_gapIf_iff.mpr ⟨by omega, by omega, fun n hn hnj => hblank' n hn (by omega), ?_⟩
      intro hfalse
      rw [hp] at hfalse
      cases hfalse
    exact hgap hp _ _ _ (h.shift hy hlonger)
  have hshifted := h'.shift hy h.before
  have hbest := hblock _ _ _ hshifted
  constructor
  · rintro rfl
    have hk : k ≤ max k' j := Nat.not_lt.mp hbest
    have hjk := h.block
    exact ⟨h.stop_le hshifted hy hk, by omega⟩
  · rintro rfl
    have hk : max k' j ≤ k := Nat.not_lt.mp hbest
    exact hshifted.stop_le h hy hk

end Cut

/-! ## Cuts and splits -/

/-- The part of a gap. -/
def gapParts : Bool → Nat → Nat → List Part
  | true, i, j => [⟨.space, i, j⟩]
  | false, _, _ => []

theorem token_not_mem_gapIf (p : Bool) (t : Token) : .token t ∉ gapIf p := by
  cases p with
  | true => exact fun h => nomatch List.mem_singleton.mp h
  | false => exact List.not_mem_nil

/-- Where segments without placeholders are split, there is a stretch of them, and nothing is bound. -/
theorem Splits.stretch (h : Splits text b i ps k b') (hps : ps.map (·.segment) = segs)
    (hplain : ∀ t, .token t ∉ segs) : Stretch text segs i k ∧ b' = b := by
  subst hps
  obtain ⟨cs, hcs, hfits⟩ := h.fits hplain
  exact ⟨⟨cs, hcs, hfits⟩, h.bindings_eq hplain⟩

theorem Stretch.splits (h : Stretch text segs i k) (b : Bindings) :
    ∃ ps, ps.map (·.segment) = segs ∧ Splits text b i ps k b := by
  obtain ⟨cs, hcs, hfits⟩ := h
  exact hfits.splits hcs b

theorem Splits.eq_gapParts (h : Splits text b i ps k b') (hps : ps.map (·.segment) = gapIf p) :
    ps = gapParts p i k := by
  cases p with
  | false => exact List.map_eq_nil_iff.mp hps
  | true =>
    obtain ⟨part, rfl, hpart⟩ := List.map_eq_singleton_iff.mp hps
    obtain ⟨rfl, -, b'', hrest⟩ := h.tail
    obtain ⟨segment, start, stop⟩ := part
    cases hpart
    obtain rfl := hrest.stop_eq
    rfl

/-- What is bound where a block is the only placeholder. -/
def blockBindings (text : Array Char) (id : Identity) (j k : Nat) : Bindings :=
  [((.block, id), (text.extract j k).toList)]

/-- **A split into code, a block and code is a cut.** -/
theorem Splits.cut (h : Splits text [] i ps l b)
    (hps : ps.map (·.segment) = plainSegments x ++
      (gapIf p ++ .token (.block greedy id) :: (gapIf q ++ plainSegments y))) :
    ∃ e j k s front back, Cut text x y p q i e j k s l ∧
      ps = front ++ (gapParts p e j ++ ⟨.token (.block greedy id), j, k⟩ :: back) ∧
      front.map (·.segment) = plainSegments x ∧ back.map (·.segment) = gapIf q ++ plainSegments y ∧
      Splits text [] i front e [] ∧ b = blockBindings text id j k := by
  obtain ⟨front, rest, rfl, hfront, hrest⟩ := List.map_eq_append_iff.mp hps
  obtain ⟨gap, rest, rfl, hgap, hrest⟩ := List.map_eq_append_iff.mp hrest
  obtain ⟨block, back, rfl, hblock, hback⟩ := List.map_eq_cons_iff.mp hrest
  obtain ⟨behind, last, rfl, hbehind, hlast⟩ := List.map_eq_append_iff.mp hback
  obtain ⟨e, b₁, h₁, h₂₃⟩ := h.of_append
  obtain ⟨hx, rfl⟩ := h₁.stretch hfront (token_not_mem_plainSegments x)
  obtain ⟨j, b₂, h₂, h₃⟩ := h₂₃.of_append
  obtain ⟨hp, rfl⟩ := h₂.stretch hgap (token_not_mem_gapIf p)
  obtain rfl := h₂.eq_gapParts hgap
  obtain ⟨segment, start, k⟩ := block
  cases hblock
  cases h₃ with
  | again hkey hbound => cases hbound
  | @first _ _ _ _ _ _ _ key cs hkey hnew hword hcs h₄₅ =>
    obtain rfl : (.block, id) = key := Option.some.inj hkey
    obtain ⟨s, b₃, h₄, h₅⟩ := h₄₅.of_append
    obtain ⟨hq, rfl⟩ := h₄.stretch hbehind (token_not_mem_gapIf q)
    obtain ⟨hy, rfl⟩ := h₅.stretch hlast (token_not_mem_plainSegments y)
    refine ⟨e, j, k, s, front, behind ++ last, ⟨hx, hp, hcs.le, hq, hy⟩, rfl, hfront, hback, h₁, ?_⟩
    rw [← hcs.eq]
    rfl

/-- **A cut is a split**, with any parts for the code in front. -/
theorem Cut.splits {e s : Nat} {front : List Part} (h : Cut text x y p q i e j k s l)
    (hfront : Splits text [] i front e []) (greedy : Bool) (id : Identity) :
    ∃ back b, back.map (·.segment) = gapIf q ++ plainSegments y ∧
      Splits text [] i (front ++ (gapParts p e j ++ ⟨.token (.block greedy id), j, k⟩ :: back)) l b := by
  obtain ⟨gap, hgap, h₁⟩ := h.before.splits []
  obtain rfl := h₁.eq_gapParts hgap
  obtain ⟨behind, hbehind, h₂⟩ := h.behind.splits (blockBindings text id j k)
  obtain ⟨last, hlast, h₃⟩ := h.back.splits (blockBindings text id j k)
  have hsize : k ≤ text.size := Nat.le_trans h.behind.le (Nat.le_trans h.back.le h₃.le.2)
  have hword : (Token.block greedy id).Stands text j k := ⟨h.block, hsize⟩
  refine ⟨behind ++ last, blockBindings text id j k, ?_, hfront.append (h₁.append ?_)⟩
  · rw [List.map_append, hbehind, hlast]
  · exact .first rfl rfl hword (Regex.occurs_extract h.block hsize) (h₂.append h₃)

/-! ## Compiling -/

theorem Fits.append {cs ds : List Char} (h : Fits segs cs) (h' : Fits more ds) :
    Fits (segs ++ more) (cs ++ ds) := by
  induction h with
  | nil => exact h'
  | space hblank _ ih =>
    rw [List.append_assoc]
    exact .space hblank ih
  | text quoted _ ih =>
    rw [List.append_assoc]
    exact .text quoted ih

/-- Segments without placeholders capture nothing. -/
theorem Fits.bindFrom_snd {cs : List Char} (h : Fits segs cs) (c : Captures) :
    (bindFrom c segs).2 = c := by
  induction h with
  | nil => rfl
  | space _ _ ih => rw [bindFrom_cons]; exact ih
  | text _ _ ih => rw [bindFrom_cons]; exact ih

/-- An item that is one leaf, recalls nothing and never goes back. -/
structure Calm (e : Expr) : Prop where
  leaf : leafCount e = 1
  recalled : e.recalledGroups = []
  regular : e.needsBacktracking [] = false

theorem calm_of_fits {cs : List Char} (h : Fits segs cs) (c : Captures) :
    ∀ e ∈ itemsFrom c segs, Calm e := by
  induction h with
  | nil => exact fun e he => absurd he List.not_mem_nil
  | space _ _ ih => exact List.forall_mem_cons.mpr ⟨⟨rfl, rfl, rfl⟩, ih⟩
  | text quoted _ ih =>
    rw [itemsFrom, segmentItems, List.forall_mem_append, List.forall_mem_map]
    exact ⟨fun ch _ => ⟨rfl, rfl, rfl⟩, ih⟩

/-- Some text fits code and gaps, and it has the characters of the code. -/
theorem exists_fits_code (p q : Bool) (x : List Char) :
    ∃ cs, Fits (gapIf p ++ (plainSegments x ++ gapIf q)) cs ∧ ink cs = ink x := by
  have hgap (p : Bool) : Fits (gapIf p) [] := by
    cases p with
    | true =>
      rw [← List.append_nil []]
      exact .space nofun .nil
    | false => exact .nil
  obtain ⟨-, mid, -, -, -, -, hmid⟩ := fits_plainSegments x
  refine ⟨[] ++ (mid ++ []), (hgap p).append (hmid.append (hgap q)), ?_⟩
  rw [List.nil_append, List.append_nil]
  exact ink_eq_of_fits hmid

theorem isRun_code (p q : Bool) (x : List Char) :
    ∀ s ∈ gapIf p ++ (plainSegments x ++ gapIf q), s.IsRun := by
  have hgap (p : Bool) : ∀ s ∈ gapIf p, s.IsRun := by
    cases p with
    | true => exact List.forall_mem_singleton.mpr trivial
    | false => exact fun s hs => absurd hs List.not_mem_nil
  refine List.forall_mem_append.mpr ⟨hgap p, List.forall_mem_append.mpr ⟨?_, hgap q⟩⟩
  exact plainSegments_isRun x

/-- The items of code with gaps are calm: there is one for each character and each gap. -/
theorem items_code (p q : Bool) (x : List Char) (c : Captures) :
    (∀ e ∈ itemsFrom c (gapIf p ++ (plainSegments x ++ gapIf q)), Calm e) ∧
      (itemsFrom c (gapIf p ++ (plainSegments x ++ gapIf q))).length =
        (ink x).length + (gapIf p ++ (plainSegments x ++ gapIf q)).count .space ∧
      (bindFrom c (gapIf p ++ (plainSegments x ++ gapIf q))).2 = c := by
  obtain ⟨cs, hfits, hink⟩ := exists_fits_code p q x
  exact ⟨calm_of_fits hfits c, hink ▸ length_itemsFrom_of_fits hfits (isRun_code p q x) c,
    hfits.bindFrom_snd c⟩

/-- So are those of code, a block and code. -/
theorem items_blockPieces (x y : List Char) (greedy : Bool) (id : Identity) :
    (∀ e ∈ itemsFrom {} (layout (normalize (blockPieces x y greedy id))), Calm e) ∧
      (itemsFrom {} (layout (normalize (blockPieces x y greedy id)))).length =
        (ink x).length + (ink y).length + 1 +
          (layout (normalize (blockPieces x y greedy id))).count .space := by
  obtain ⟨p, q, hlayout⟩ := layout_blockPieces x y greedy id
  rw [hlayout]
  obtain ⟨hcalm, hlength, hcaptures⟩ := items_code false p x {}
  obtain ⟨hcalm', hlength', -⟩ :=
    items_code q false y (bindOne {} (.token (.block greedy id))).2
  have hfront : gapIf false ++ (plainSegments x ++ gapIf p) = plainSegments x ++ gapIf p := rfl
  have hback : gapIf q ++ (plainSegments y ++ gapIf false) = gapIf q ++ plainSegments y :=
    congrArg (gapIf q ++ ·) (List.append_nil _)
  rw [hfront] at hcalm hlength hcaptures
  rw [hback] at hcalm' hlength'
  rw [← List.append_assoc, itemsFrom_append, hcaptures, itemsFrom, segmentItems]
  constructor
  · refine List.forall_mem_append.mpr ⟨hcalm, List.forall_mem_append.mpr ⟨?_, hcalm'⟩⟩
    exact List.forall_mem_singleton.mpr ⟨rfl, rfl, rfl⟩
  · have hne : Segment.token (.block greedy id) ≠ .space := by
      intro h
      cases h
    rw [List.length_append, List.length_append, hlength, hlength', List.length_singleton]
    simp only [List.count_append, List.count_cons_of_ne hne]
    omega

/-! ## What is found -/

/-- A split of a text into code, a block and code: it begins at character `i` and ends at `l`, and the
block stands from `j` to `k`. -/
def BlockSplit (x y : List Char) (greedy : Bool) (id : Identity) (text : String) (i j k l : Nat) :
    Prop :=
  ∃ ps b, ps.map (·.segment) = layout (normalize (blockPieces x y greedy id)) ∧
    Splits text.toList.toArray [] i ps l b ∧ ⟨.token (.block greedy id), j, k⟩ ∈ ps

/-- A split is a cut. -/
theorem BlockSplit.cut {text : String} (h : BlockSplit x y greedy id text i j k l)
    (hlayout : layout (normalize (blockPieces x y greedy id)) =
      plainSegments x ++ (gapIf p ++ .token (.block greedy id) :: (gapIf q ++ plainSegments y))) :
    ∃ e s, Cut text.toList.toArray x y p q i e j k s l := by
  obtain ⟨ps, b, hps, hsplits, hmem⟩ := h
  obtain ⟨e, j', k', s, front, back, hcut, rfl, hfront, hback, -⟩ :=
    hsplits.cut (hps.trans hlayout)
  have hnot (qs : List Part) (segs : List Segment) (hqs : qs.map (·.segment) = segs)
      (hsegs : ∀ t, .token t ∉ segs) : (⟨.token (.block greedy id), j, k⟩ : Part) ∉ qs := by
    intro h
    exact hsegs _ (hqs ▸ List.mem_map_of_mem h)
  have hgap : (⟨.token (.block greedy id), j, k⟩ : Part) ∉ gapParts p e j' := by
    cases p with
    | true => exact fun h => nomatch List.mem_singleton.mp h
    | false => exact List.not_mem_nil
  -- the block is the only part that is a placeholder
  rcases List.mem_append.mp hmem with h | h
  · exact absurd h (hnot front _ hfront (token_not_mem_plainSegments x))
  rcases List.mem_append.mp h with h | h
  · exact absurd h hgap
  rcases List.mem_cons.mp h with h | h
  · cases h
    exact ⟨e, s, hcut⟩
  · refine absurd h (hnot back _ hback fun t ht => ?_)
    rcases List.mem_append.mp ht with ht | ht
    · exact token_not_mem_gapIf q t ht
    · exact token_not_mem_plainSegments y t ht

section Found

variable {pattern : List Char} {limits : Limits} {m : Matcher}

theorem plain_blockPieces (x y : List Char) (greedy : Bool) (id : Identity) :
    PlainPieces (blockPieces x y greedy id) := by
  intro body h
  simp [blockPieces] at h

/-- Only its length keeps code with a block in it from being compiled. -/
theorem compile_block_iff (hextract : extract pattern = .ok (blockPieces x y greedy id)) :
    (∃ m, Matcher.compile pattern limits = .ok m) ↔
      (ink x).length + (ink y).length + 1 +
        (layout (normalize (blockPieces x y greedy id))).count .space ≤ Regex.maxLeaves := by
  obtain ⟨hcalm, hlength⟩ := items_blockPieces x y greedy id
  rw [compile_ok_iff hextract (plain_blockPieces x y greedy id), expressionOf,
    leafCount_cats fun e he => (hcalm e he).leaf, hlength]

/-- No search for it spends its budget. -/
theorem search_block (hextract : extract pattern = .ok (blockPieces x y greedy id))
    (hm : Matcher.compile pattern limits = .ok m) (text : Array Char) :
    m.searcher.search limits.backtrackLimit text 0 (some 0) ≠ .exhausted := by
  obtain ⟨hcalm, -⟩ := items_blockPieces x y greedy id
  refine search_ne_exhausted hextract (plain_blockPieces x y greedy id) hm ?_ _ _ _ _
  have hrecalled : (expressionOf (layout (normalize (blockPieces x y greedy id)))).recalledGroups =
      [] := by
    rw [expressionOf, Expr.recalledGroups_cats, List.flatMap_eq_nil_iff]
    exact fun e he => (hcalm e he).recalled
  rw [hrecalled, expressionOf, Expr.cats_needsBacktracking, List.any_eq_false]
  intro e he
  rw [(hcalm e he).regular]
  exact Bool.false_ne_true

/-- **A lazy block is the shortest and a greedy block makes for the longest match.** If a text can be
split into code, a block and code at all, then the first span begins where the first split does, and it
is split so that a lazy block makes it end first of all splits from there, being itself empty or inside
of the block of every other one, and a greedy block makes it end last. -/
theorem block_extremal {pattern : String}
    (hextract : extract pattern.toList = .ok (blockPieces x y greedy id)) (hy : ink y ≠ [])
    (hmax : 1 ≤ limits.maxMatches) :
    ((∃ m, Matcher.compile pattern.toList limits = .ok m) ↔
      (ink x).length + (ink y).length + 1 +
        (layout (normalize (blockPieces x y greedy id))).count .space ≤ Regex.maxLeaves) ∧
    ∀ m, Matcher.compile pattern.toList limits = .ok m → ∀ text : String,
      (∃ i j k l, BlockSplit x y greedy id text i j k l) →
      ∃ i j k l span result, BlockSplit x y greedy id text i j k l ∧
        (m.spans (.ofString text)).head? = some span ∧ span.Covers text i l ∧
        (m.findAll (.ofString text)).head? = some result ∧
        result.blocks = [String.ofList (text.toList.toArray.extract j k).toList] ∧
        (∀ i' j' k' l', BlockSplit x y greedy id text i' j' k' l' → i ≤ i') ∧
        ∀ j' k' l', BlockSplit x y greedy id text i j' k' l' →
          (greedy = false → l ≤ l' ∧ (j = k ∨ j' ≤ j ∧ k ≤ k')) ∧ (greedy = true → l' ≤ l) := by
  refine ⟨compile_block_iff hextract, fun m hm text hsome => ?_⟩
  have hplain := plain_blockPieces x y greedy id
  obtain ⟨p, q, hlayout⟩ := layout_blockPieces x y greedy id
  -- the first match begins first of all splits, and no part of it can be moved to where it would
  -- rather end
  obtain ⟨f, hf, hleast⟩ := first_found hextract hplain hm hmax (.ofString text)
    (search_block hextract hm _) (by
      obtain ⟨i, j, k, l, ps, b, hps, hsplits, -⟩ := hsome
      exact ⟨ps, i, l, b, hps, hsplits⟩)
  obtain ⟨ps, b, hps, hsplits, hpreferred, hclassify⟩ :=
    preferred_of_found hextract hplain hm (.ofString text) (List.mem_of_head? hf)
  obtain ⟨e, j, k, s, front, back, hcut, rfl, hfront, hback, hfrontSplits, rfl⟩ :=
    hsplits.cut (hps.trans hlayout)
  refine ⟨f.start, j, k, f.stop, Matcher.spanOf (.ofString text) f, m.classify (.ofString text) f,
    ⟨_, _, hps, hsplits, by simp⟩, ?_, covers_spanOf text hsplits.le.1 hsplits.le.2, ?_, ?_, ?_, ?_⟩
  · rw [Matcher.spans, List.head?_map, hf, Option.map_some]
  · rw [Matcher.findAll, List.head?_map, hf, Option.map_some]
  · rw [hclassify]
    rfl
  · rintro i' j' k' l' ⟨ps', b', hps', hsplits', -⟩
    exact hleast ps' i' l' b' hps' hsplits'
  -- so what the code in front of the block and the block itself prefer decides about every other
  -- split
  intro j' k' l' hother
  obtain ⟨e', s', hcut'⟩ := hother.cut hlayout
  refine hcut.extremal hy ?_ ?_ hcut'
  · -- the gap before the block could not take one more blank
    rintro rfl k₁ s₁ l₁ hlonger
    obtain ⟨back', b', hback', hsplits'⟩ := hlonger.splits hfrontSplits greedy id
    refine hpreferred front ⟨.space, e, j⟩ (⟨.token (.block greedy id), j, k⟩ :: back) rfl
      ⟨.space, e, j + 1⟩ _ l₁ b' rfl ?_ (Nat.lt_succ_self j) hsplits'
    exact congrArg (_ :: ·) (hback'.trans hback.symm)
  · -- the block could not end where it would rather end
    intro k₁ s₁ l₁ hother hprefers
    obtain ⟨back', b', hback', hsplits'⟩ := hother.splits hfrontSplits greedy id
    rw [← List.append_assoc] at hsplits'
    refine hpreferred (front ++ gapParts p e j) ⟨.token (.block greedy id), j, k⟩ back ?_
      ⟨.token (.block greedy id), j, k₁⟩ back' l₁ b' rfl (hback'.trans hback.symm) hprefers hsplits'
    rw [List.append_assoc]

/-- The parts of `{a}` for the pattern of a block in braces. -/
def bracedParts : List Part :=
  [⟨.text ['\\', '\x7b'], 0, 1⟩, ⟨.space, 1, 1⟩, ⟨.token (.block false (.anonymous 0)), 1, 2⟩,
    ⟨.space, 2, 2⟩, ⟨.text ['\\', '\x7d'], 2, 3⟩]

/-- A block in braces is found in a text with braces in it. -/
theorem block_extremal_braced :
    ∃ m, Matcher.compile "\x7b$$\x7d".toList {} = .ok m ∧
      ∃ i j k l span result,
        BlockSplit ['\x7b'] ['\x7d'] false (.anonymous 0) "\x7ba\x7d\x7d" i j k l ∧
        (m.spans (.ofString "\x7ba\x7d\x7d")).head? = some span ∧
        span.Covers "\x7ba\x7d\x7d" i l ∧
        (m.findAll (.ofString "\x7ba\x7d\x7d")).head? = some result ∧ i = 0 ∧ l ≤ 3 := by
  have hextract : extract "\x7b$$\x7d".toList =
      .ok (blockPieces ['\x7b'] ['\x7d'] false (.anonymous 0)) := by decide +kernel
  have hparts : bracedParts.map (·.segment) =
      layout (normalize (blockPieces ['\x7b'] ['\x7d'] false (.anonymous 0))) := by decide +kernel
  have hsplit : BlockSplit ['\x7b'] ['\x7d'] false (.anonymous 0) "\x7ba\x7d\x7d" 0 1 2 3 := by
    have hnone {i : Nat} (hi : i ≤ 4) : Occurs "\x7ba\x7d\x7d".toList.toArray [] i i :=
      Regex.occurs_nil.mpr ⟨rfl, hi⟩
    refine ⟨bracedParts, [((.block, .anonymous 0), ['a'])], hparts, ?_, by decide⟩
    refine .text ⟨by decide, by decide, by decide⟩ (.space (hnone (by decide)) nofun ?_)
    have hword : Occurs "\x7ba\x7d\x7d".toList.toArray ['a'] 1 2 :=
      ⟨by decide, by decide, by decide⟩
    refine .first rfl rfl ⟨by decide, by decide⟩ hword ?_
    refine .space (hnone (by decide)) nofun (.text ⟨by decide, by decide, by decide⟩ ?_)
    exact .nil (by decide)
  have hmax : 1 ≤ ({} : Limits).maxMatches := by decide
  obtain ⟨hcompile, hfound⟩ := block_extremal hextract (by decide) hmax
  obtain ⟨m, hm⟩ := hcompile.mpr (by decide +kernel)
  obtain ⟨i, j, k, l, span, result, hblock, hspan, hcovers, hresult, -, hleast, hextremal⟩ :=
    hfound m hm _ ⟨0, 1, 2, 3, hsplit⟩
  obtain rfl : i = 0 := Nat.le_zero.mp (hleast _ _ _ _ hsplit)
  exact ⟨m, hm, 0, j, k, l, span, result, hblock, hspan, hcovers, hresult, rfl,
    ((hextremal _ _ _ hsplit).1 rfl).1⟩

end Found

end CodeShape.Pattern
