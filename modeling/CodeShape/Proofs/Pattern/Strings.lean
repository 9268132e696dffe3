import CodeShape.Proofs.Pattern.Preference
import CodeShape.Proofs.Pattern.Repetition

/-!
# Where a string ends

The expression of a literal takes a string from its first delimiter to any later one, and would
rather stop at an early one than at a late one (`pairwise_literal`). By itself it so ends where the
string does. Inside of a pattern what follows may have it go on: then the literal is the shortest
stretch between two delimiters behind which the rest of the pattern matches (`strings_shortest`), and
may hold several strings and the code between them (`strings_joined`).
-/

namespace CodeShape

open Regex (Expr Occurs Slots Subject Way Ways)

/-! ## The ways of a literal -/

namespace Regex.Ways

theorem Ordered.andThen_chars {f : Ways} (h : f.Ordered (· < ·)) (t : Subject) (set : CharSet) :
    (f.andThen ((Expr.chars set).ways t)).Ordered (· < ·) := by
  intro pos slots
  have hstep {i : Nat} {s : Slots} {w : Way} (hw : w ∈ (Expr.chars set).ways t i s) :
      w.1 = i + 1 := by
    obtain ⟨c, -, -, rfl⟩ := Expr.mem_ways_chars.mp hw
    rfl
  refine List.pairwise_flatMap.mpr ⟨fun v _ => ?_, (h pos slots).imp fun {v w} hvw x hx y hy => ?_⟩
  · exact (single_chars t set).ordered (· < ·) v.1 v.2
  · rw [hstep hx, hstep hy]
    exact Nat.succ_lt_succ hvw

end Regex.Ways

namespace Grammar

/-- What stands between two delimiters is taken from the shortest stretch on. -/
theorem ordered_delimited (t : Subject) (d : Char) :
    ((Expr.cats (delimitedItems d)).ways t).Ordered (· < ·) := by
  have hstar : ((Expr.repeated 0 none false (.chars anyChars)).ways t).Ordered (· < ·) :=
    Regex.Ways.ordered_star t anyChars false
  exact (Regex.Ways.single_chars t (.single d)).andThen_ordered (hstar.andThen_chars t (.single d))

/-- The kind of literals between two delimiters `d`. -/
def delimitedKind (d : Char) : Expr × (List Char → Prop) :=
  (Expr.cats (delimitedItems d), DelimitedBy d)

theorem exists_cons_of_isNumber {d : Char} (hd : d ∈ delimiters) {cs : List Char}
    (h : IsNumber cs) : ∃ c rest, cs = c :: rest ∧ c ≠ d := by
  obtain ⟨sign, digits, tail, rfl, rfl | rfl, ⟨hne, hdigits⟩, -⟩ := h
  · obtain ⟨c, digits, rfl⟩ := List.exists_cons_of_ne_nil hne
    refine ⟨c, _, rfl, ?_⟩
    rintro rfl
    have hnone : (delimiters.any Unicode.isDigit) = false := by decide
    exact absurd (hdigits c List.mem_cons_self) (List.any_eq_false.mp hnone c hd)
  · refine ⟨'-', _, rfl, ?_⟩
    rintro rfl
    exact absurd hd (by decide)

/-- The forms of the kinds that do not belong to the delimiter `d`. -/
def IsOtherKind (d : Char) (kind : Expr × (List Char → Prop)) : Prop :=
  (∃ d', d' ≠ d ∧ kind = delimitedKind d') ∨ kind = (Expr.cats numberItems, IsNumber) ∨
    ∃ w ∈ literalKeywords, kind = (wordExpr w.toList, (· = w.toList))

theorem isOtherKind_of_mem {d : Char} {before others : List Char} (hbefore : d ∉ before)
    (hothers : d ∉ others) {kind : Expr × (List Char → Prop)}
    (h : kind ∈ before.map delimitedKind ++ (Expr.cats numberItems, IsNumber) ::
      (others.map delimitedKind ++
        literalKeywords.map fun w => (wordExpr w.toList, (· = w.toList)))) :
    IsOtherKind d kind := by
  simp only [List.mem_append, List.mem_cons, List.mem_map] at h
  rcases h with ⟨d', hd', rfl⟩ | rfl | ⟨d', hd', rfl⟩ | ⟨w, hw, rfl⟩
  · exact .inl ⟨d', fun h => hbefore (h ▸ hd'), rfl⟩
  · exact .inr (.inl rfl)
  · exact .inl ⟨d', fun h => hothers (h ▸ hd'), rfl⟩
  · exact .inr (.inr ⟨w, hw, rfl⟩)

/-- A kind that does not belong to a delimiter begins with something else. -/
theorem exists_cons_of_isOtherKind {d : Char} (hd : d ∈ delimiters)
    {kind : Expr × (List Char → Prop)} (hkind : IsOtherKind d kind) {cs : List Char}
    (hcs : kind.2 cs) : ∃ c rest, cs = c :: rest ∧ c ≠ d := by
  rcases hkind with ⟨d', hne, rfl⟩ | rfl | ⟨w, hw, rfl⟩
  · obtain ⟨inside, rfl⟩ := hcs
    exact ⟨d', _, rfl, hne⟩
  · exact exists_cons_of_isNumber hd hcs
  · obtain rfl : cs = w.toList := hcs
    have hword : ∀ w ∈ literalKeywords, w.toList ≠ [] ∧ delimiters.any (w.toList.contains ·) = false :=
      by decide
    obtain ⟨c, rest, hcons⟩ := List.exists_cons_of_ne_nil (hword w hw).1
    refine ⟨c, rest, hcons, ?_⟩
    rintro rfl
    refine List.any_eq_false.mp (hword w hw).2 c hd (List.contains_iff_mem.mpr ?_)
    rw [hcons]
    exact List.mem_cons_self

/-- Only one kind of literals begins with a given delimiter. -/
theorem literalKinds_split {d : Char} (hd : d ∈ delimiters) :
    ∃ front back, literalKinds = front ++ delimitedKind d :: back ∧
      ∀ kind ∈ front ++ back, IsOtherKind d kind := by
  have hcases : d = '"' ∨ d = '\'' ∨ d = '\x60' ∨ d = '/' := by simpa [delimiters] using hd
  have hlists (n : Nat) (before others : List Char) (hbefore : d ∉ before) (hothers : d ∉ others)
      (hlist : literalKinds.take n ++ literalKinds.drop (n + 1)
        = before.map delimitedKind ++ (Expr.cats numberItems, IsNumber) ::
          (others.map delimitedKind ++
            literalKeywords.map fun w => (wordExpr w.toList, (· = w.toList)))) :
      ∀ kind ∈ literalKinds.take n ++ literalKinds.drop (n + 1), IsOtherKind d kind := by
    intro kind hkind
    rw [hlist] at hkind
    exact isOtherKind_of_mem hbefore hothers hkind
  rcases hcases with rfl | rfl | rfl | rfl
  · exact ⟨_, _, rfl, hlists 0 ['\'', '\x60'] ['/'] (by decide) (by decide) rfl⟩
  · exact ⟨_, _, rfl, hlists 1 ['"', '\x60'] ['/'] (by decide) (by decide) rfl⟩
  · exact ⟨_, _, rfl, hlists 2 ['"', '\''] ['/'] (by decide) (by decide) rfl⟩
  · exact ⟨_, _, rfl, hlists 4 ['"', '\'', '\x60'] [] (by decide) (by decide) rfl⟩

/-- Where a delimiter stands, a literal is taken from the shortest stretch on. -/
theorem pairwise_literal (t : Subject) {d : Char} (hd : d ∈ delimiters) {i : Nat}
    (hi : i ≤ t.text.size) (hget : t.text[i]? = some d) (slots : Slots) :
    ((Expr.cats literalItems).ways t i slots).Pairwise fun v w => v.1 < w.1 := by
  obtain ⟨front, back, hkinds, hothers⟩ := literalKinds_split hd
  have hnone : ∀ kind ∈ front ++ back, kind.1.ways t i slots = [] := by
    intro kind hkind
    refine List.eq_nil_iff_forall_not_mem.mpr fun w hw => ?_
    have hmem : kind ∈ literalKinds := by
      rw [hkinds]
      exact List.mem_append.mpr ((List.mem_append.mp hkind).imp id (List.mem_cons_of_mem _))
    obtain ⟨-, cs, hocc, hcs⟩ := (takes_kind t kind hmem i slots w hi).mp hw
    obtain ⟨c, rest, rfl, hne⟩ := exists_cons_of_isOtherKind hd (hothers kind hkind) hcs
    exact hne (Option.some.inj ((Regex.occurs_cons.mp hocc).1.symm.trans hget))
  have hways : (Expr.cats literalItems).ways t i slots
      = (Expr.cats (delimitedItems d)).ways t i slots := by
    rw [literalItems_eq]
    refine (Regex.Ways.ways_alts_eq_flatMap t _ (by simp [literalKinds]) i slots).trans ?_
    rw [List.flatMap_map, hkinds, List.flatMap_append, List.flatMap_cons]
    have hfront : (front.flatMap fun kind => kind.1.ways t i slots) = [] :=
      List.flatMap_eq_nil_iff.mpr fun kind hkind => hnone kind (List.mem_append_left _ hkind)
    have hback : (back.flatMap fun kind => kind.1.ways t i slots) = [] :=
      List.flatMap_eq_nil_iff.mpr fun kind hkind => hnone kind (List.mem_append_right _ hkind)
    rw [hfront, hback, List.nil_append, List.append_nil]
    rfl
  rw [hways]
  exact ordered_delimited t d i slots

end Grammar

namespace Pattern

open Grammar (DelimitedBy IsLiteral delimiters)

/-! ## The preferred end of a string -/

/-- Whether a segment that begins with a delimiter would rather end at the first position than at the
second. -/
def Segment.ClosesSooner (text : Array Char) : Segment → Nat → Nat → Nat → Prop
  | .token (.literal _), i, j, k => (∃ d ∈ delimiters, text[i]? = some d) ∧ j < k
  | _, _, _, _ => False

theorem ranks_closesSooner (t : Subject) : Ranks t (Segment.ClosesSooner t.text) where
  irrefl s i j h := by
    cases s with
    | token token =>
      cases token with
      | literal id => exact Nat.lt_irrefl j h.2
      | _ => exact h
    | _ => exact h
  ordered c s i slots hi := by
    have hnone {ws : List Way} (h : ∀ j k, ¬ s.ClosesSooner t.text i j k) :
        ws.Pairwise fun v w => ¬ s.ClosesSooner t.text i w.1 v.1 :=
      List.pairwise_of_forall fun _ _ => h _ _
    cases s with
    | token token =>
      cases token with
      | literal id =>
        by_cases hdelimiter : ∃ d ∈ delimiters, t.text[i]? = some d
        · obtain ⟨d, hd, hget⟩ := hdelimiter
          rw [segmentItems, List.map_singleton, Ways.chain_singleton, tokenItem]
          split
          · exact (Regex.Ways.single_backref t _).ordered (fun j k =>
              ¬ Segment.ClosesSooner t.text (.token (.literal id)) i k j) i slots
          · refine List.pairwise_map.mpr ?_
            refine (Grammar.pairwise_literal t hd hi hget _).imp fun {v w} hlt h => ?_
            exact Nat.lt_asymm hlt h.2
        · exact hnone fun j k h => hdelimiter h.1
      | _ => exact hnone fun j k h => h
    | _ => exact hnone fun j k h => h

/-! ## What is reported -/

theorem Token.eq_literal {t : Token} {id : Identity} (h : t.key? = some (.literal, id)) :
    t = .literal id := by
  cases t with
  | literal id' =>
    obtain ⟨-, rfl⟩ := Prod.mk.inj (Option.some.inj h)
    rfl
  | raw body => cases h
  | _ =>
    obtain ⟨hcategory, -⟩ := Prod.mk.inj (Option.some.inj h)
    cases hcategory

/-- What begins with a delimiter, as literals go, also ends with it. -/
theorem delimitedBy_of_isLiteral {d : Char} (hd : d ∈ delimiters) {cs : List Char}
    (h : IsLiteral cs) (hhead : cs.head? = some d) : DelimitedBy d cs := by
  obtain ⟨front, back, hkinds, hothers⟩ := Grammar.literalKinds_split hd
  obtain ⟨kind, hkind, hcs⟩ := Grammar.isLiteral_iff.mp h
  rw [hkinds, List.mem_append, List.mem_cons] at hkind
  have hother (hmem : kind ∈ front ++ back) : DelimitedBy d cs := by
    obtain ⟨c, rest, rfl, hne⟩ := Grammar.exists_cons_of_isOtherKind hd (hothers kind hmem) hcs
    exact absurd (Option.some.inj hhead) hne
  rcases hkind with hkind | rfl | hkind
  · exact hother (List.mem_append_left _ hkind)
  · exact hcs
  · exact hother (List.mem_append_right _ hkind)

/-- What stands between two delimiters either has no third one in it, or goes on behind the first
stretch between two. -/
theorem count_of_delimitedBy {d : Char} {cs : List Char} (h : DelimitedBy d cs) :
    cs.count d = 2 ∨ ∃ inside rest, cs = d :: (inside ++ d :: rest) ∧ d ∉ inside ∧ rest ≠ [] := by
  obtain ⟨inside, rfl⟩ := h
  by_cases hmem : d ∈ inside
  · obtain ⟨first, rest, rfl, hfirst⟩ := List.eq_append_cons_of_mem hmem
    exact .inr ⟨first, rest ++ [d], by rw [List.append_assoc, List.cons_append], hfirst,
      List.append_ne_nil_of_right_ne_nil rest (List.cons_ne_nil _ _)⟩
  · left
    rw [List.count_cons_self, List.count_append, List.count_eq_zero_of_not_mem hmem]
    simp

/-- What a split has as a literal between other parts. If it begins with a delimiter it ends with the
same one, and no sooner than it has to: with a shorter literal there and the parts before it
unchanged the text cannot be split. So it holds the delimiter twice, or the rest cannot follow where
it comes for the second time. -/
structure LiteralAt (text : Array Char) (i : Nat) (pre : List Part) (p : Part) (post : List Part)
    (v : String) : Prop where
  isToken : ∃ id, p.segment = .token (.literal id)
  occurs : Occurs text v.toList p.start p.stop
  isLiteral : IsLiteral v.toList
  closed : ∀ d ∈ delimiters, v.toList.head? = some d → DelimitedBy d v.toList
  shortest : ∀ d ∈ delimiters, v.toList.head? = some d → ∀ stop more k b, stop < p.stop →
    more.map (·.segment) = post.map (·.segment) →
    ¬ Splits text [] i (pre ++ ⟨p.segment, p.start, stop⟩ :: more) k b
  twice : ∀ d ∈ delimiters, v.toList.head? = some d → v.toList.count d = 2 ∨
    ∃ inside stop, d ∉ inside ∧ Occurs text (d :: (inside ++ [d])) p.start stop ∧ stop < p.stop ∧
      ∀ more k b, more.map (·.segment) = post.map (·.segment) →
        ¬ Splits text [] i (pre ++ ⟨p.segment, p.start, stop⟩ :: more) k b

/-- The delimiter of a literal stands where the literal begins. -/
theorem getElem?_of_head? {text : Array Char} {d : Char} {cs : List Char} {i j : Nat}
    (hocc : Occurs text cs i j) (hhead : cs.head? = some d) : text[i]? = some d := by
  obtain ⟨rest, rfl⟩ := List.head?_eq_some_iff.mp hhead
  exact (Regex.occurs_cons.mp hocc).1

section Reported

variable {pattern : List Char} {pieces : List Piece} {limits : Limits} {m : Matcher}

/-- **A string ends as soon as the rest of the pattern lets it.** Every match is a split, and what
its literals are listed to stand for are literals that stand at their parts of it. One that begins
with a delimiter ends with it, at the first place behind which the rest of the pattern matches. -/
theorem strings_shortest (hextract : extract pattern = .ok pieces) (hplain : PlainPieces pieces)
    (hm : Matcher.compile pattern limits = .ok m) (text : String) {f : Regex.Match}
    (hf : f ∈ (m.scan (.ofString text)).found) :
    ∃ ps b, ps.map (·.segment) = layout (normalize pieces) ∧
      Splits text.toList.toArray [] f.start ps f.stop b ∧
      ∀ v ∈ (m.classify (.ofString text) f).literals, ∃ pre p post, ps = pre ++ p :: post ∧
        LiteralAt text.toList.toArray f.start pre p post v := by
  have hranks (origin : Option Nat) : Ranks ⟨(Text.ofString text).chars, origin⟩
      (Segment.ClosesSooner text.toList.toArray) :=
    ranks_closesSooner ⟨text.toList.toArray, origin⟩
  obtain ⟨ps, b, hps, hsplits, hpreferred, hclassify⟩ :=
    preferredBy_of_found (.ofString text) hranks hextract hplain hm hf
  refine ⟨ps, b, hps, hsplits, fun v hv => ?_⟩
  rw [hclassify] at hv
  change v ∈ (MatchResult.classify b.texts).get .literal at hv
  obtain ⟨p, hp, t, id, hseg, hkey, hstands, hocc⟩ := hsplits.first_of_text hv
  obtain rfl := Token.eq_literal hkey
  obtain ⟨cs, hcs, hliteral⟩ := hstands
  obtain rfl := hocc.chars_eq hcs
  obtain ⟨pre, post, rfl⟩ := List.append_of_mem hp
  have hshortest (d : Char) (hd : d ∈ delimiters) (hhead : v.toList.head? = some d)
      (stop : Nat) (more : List Part) (k : Nat) (b : Bindings) (hstop : stop < p.stop)
      (hmore : more.map (·.segment) = post.map (·.segment)) :
      ¬ Splits text.toList.toArray [] f.start (pre ++ ⟨p.segment, p.start, stop⟩ :: more) k b := by
    refine hpreferred pre p post rfl _ more k b rfl hmore ?_
    rw [hseg]
    exact ⟨⟨d, hd, getElem?_of_head? hocc hhead⟩, hstop⟩
  refine ⟨pre, p, post, rfl, ⟨id, hseg⟩, hocc, hliteral,
    fun d hd => delimitedBy_of_isLiteral hd hliteral, hshortest, fun d hd hhead => ?_⟩
  refine (count_of_delimitedBy (delimitedBy_of_isLiteral hd hliteral hhead)).imp_right ?_
  rintro ⟨inside, rest, hcons, hinside, hrest⟩
  -- the first stretch between two delimiters is one of the shorter literals
  have hsplit : v.toList = (d :: (inside ++ [d])) ++ rest := by
    rw [hcons, List.cons_append, List.append_assoc, List.singleton_append]
  rw [hsplit] at hocc
  obtain ⟨stop, hfirst, hbehind⟩ := Regex.occurs_append.mp hocc
  have hstop : stop < p.stop := by
    have hlength := hbehind.length_eq
    have := List.length_pos_iff.mpr hrest
    omega
  exact ⟨inside, stop, hinside, hfirst, hstop,
    fun more k b hmore => hshortest d hd hhead stop more k b hstop hmore⟩

end Reported

/-! ## Two strings with an operator between them -/

/-- The pieces of `$1 $a`. -/
def beforePieces : List Piece :=
  [.token (.literal (.named ['1'])), .text [' '], .token (.variable (.named ['a']))]

theorem extract_literalBefore : extract "$1 $a".toList = .ok beforePieces := by cbv

theorem plain_literalBefore : PlainPieces beforePieces := by
  intro body h
  simp [beforePieces] at h

theorem layout_literalBefore : layout (normalize beforePieces)
    = [.token (.literal (.named ['1'])), .space, .token (.variable (.named ['a']))] :=
      by cbv

set_option maxRecDepth 10000 in
theorem run_literalBefore :
    (matcherOf "$1 $a".toList
        [.token (.literal (.named ['1'])), .space, .token (.variable (.named ['a']))] {}).map
      (·.findAll (.ofString "''+''a")) = .ok [{ names := ["a"], literals := ["''+''"] }] := by cbv

theorem findAll_literalBefore : ∃ m, Matcher.compile "$1 $a".toList {} = .ok m ∧
    m.findAll (.ofString "''+''a") = [{ names := ["a"], literals := ["''+''"] }] := by
  have hrun := run_literalBefore
  rw [← layout_literalBefore] at hrun
  exact exists_compile_of_run extract_literalBefore plain_literalBefore hrun

/-- In `''+''a` the literal of `$1 $a` stands for both strings and the operator. -/
theorem strings_joined :
    ∃ m f, Matcher.compile "$1 $a".toList {} = .ok m ∧
      f ∈ (m.scan (.ofString "''+''a")).found ∧
      (m.classify (.ofString "''+''a") f).literals = ["''+''"] ∧
      "''+''".toList.count '\'' = 4 ∧
      ∃ ps b, ps.map (·.segment) = layout (normalize beforePieces) ∧
        Splits "''+''a".toList.toArray [] f.start ps f.stop b ∧
        ∀ v ∈ (m.classify (.ofString "''+''a") f).literals, ∃ pre p post,
          ps = pre ++ p :: post ∧ LiteralAt "''+''a".toList.toArray f.start pre p post v := by
  obtain ⟨m, hm, hall⟩ := findAll_literalBefore
  obtain ⟨f, fs, hfound, hresult, -⟩ := List.map_eq_cons_iff.mp hall
  have hf : f ∈ (m.scan (.ofString "''+''a")).found := by
    rw [hfound]
    exact List.mem_cons_self
  exact ⟨m, f, hm, hf, by rw [hresult], by decide,
    strings_shortest extract_literalBefore plain_literalBefore hm "''+''a" hf⟩

end Pattern

end CodeShape
