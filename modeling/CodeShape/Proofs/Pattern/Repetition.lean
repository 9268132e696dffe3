import Mathlib
import CodeShape.Proofs.Pattern.Soundness

/-!
# Placeholders that are used again

The first use of a variable begins where no identifier ends, since its expression looks back. A
later use is nothing but a reference: it stands for the same characters wherever they stand, even in
the middle of an identifier. What can stand right before it all the same depends on the pattern,
since blanks, operators and keywords do not end in the middle of an identifier
(`variable_boundary`).
-/

namespace CodeShape.Pattern

open Regex (Occurs)
open Grammar (isWordChar NotPreceded)

variable {text : Array Char} {b b' : Bindings} {i j k : Nat} {ps : List Part}
  {key : Category × Identity} {cs : List Char} {c : Char}

/-! ## Uses -/

/-- A placeholder of which there has been a part before. -/
def Part.UsedIn (p : Part) (before : List Part) : Prop :=
  ∃ key, p.segment.key? = some key ∧ ∃ q ∈ before, q.segment.key? = some key

/-- What a split binds stands for the word of its first use. -/
theorem Splits.first_of_mem {use : (Category × Identity) × List Char}
    (h : Splits text b i ps k b') (huse : use ∈ b') :
    use ∈ b ∨ ∃ q ∈ ps, ∃ t, q.segment = .token t ∧ t.key? = some use.1 ∧
      t.Stands text q.start q.stop ∧ Occurs text use.2 q.start q.stop := by
  induction h with
  | nil _ => exact .inl huse
  | space _ _ _ ih =>
    refine (ih huse).imp_right ?_
    rintro ⟨q, hq, h⟩
    exact ⟨q, List.mem_cons_of_mem _ hq, h⟩
  | text _ _ ih =>
    refine (ih huse).imp_right ?_
    rintro ⟨q, hq, h⟩
    exact ⟨q, List.mem_cons_of_mem _ hq, h⟩
  | @first b b' i j k ps t key cs hkey _ hword hcs _ ih =>
    rcases ih huse with hmem | ⟨q, hq, h⟩
    · rcases List.mem_append.mp hmem with hold | hnew
      · exact .inl hold
      · obtain rfl := List.mem_singleton.mp hnew
        exact .inr ⟨_, List.mem_cons_self, t, rfl, hkey, hword, hcs⟩
    · exact .inr ⟨q, List.mem_cons_of_mem _ hq, h⟩
  | again _ _ _ _ ih =>
    refine (ih huse).imp_right ?_
    rintro ⟨q, hq, h⟩
    exact ⟨q, List.mem_cons_of_mem _ hq, h⟩

/-- What a result lists stands at the first use of a placeholder of its category. -/
theorem Splits.first_of_text {category : Category} (h : Splits text [] i ps k b) {v : String}
    (hv : v ∈ (MatchResult.classify b.texts).get category) :
    ∃ q ∈ ps, ∃ t id, q.segment = .token t ∧ t.key? = some (category, id) ∧
      t.Stands text q.start q.stop ∧ Occurs text v.toList q.start q.stop := by
  rw [get_classify] at hv
  obtain ⟨⟨⟨category', id⟩, cs⟩, huse, rfl⟩ := List.mem_map.mp hv
  obtain ⟨hmem, hcategory⟩ := List.mem_filter.mp huse
  obtain rfl : category' = category := of_decide_eq_true hcategory
  obtain ⟨q, hq, t, hseg, hkey, hstands, hocc⟩ :=
    (h.first_of_mem hmem).resolve_left List.not_mem_nil
  refine ⟨q, hq, t, id, hseg, hkey, hstands, ?_⟩
  rw [String.toList_ofList]
  exact hocc

/-- What is newly bound by a split stands for the word of its first use. -/
theorem Splits.exists_first (h : Splits text b i ps k b') (hbound : b'.lookup key = some cs)
    (hnew : b.lookup key = none) :
    ∃ q ∈ ps, ∃ t, q.segment = .token t ∧ t.key? = some key ∧ t.Stands text q.start q.stop ∧
      Occurs text cs q.start q.stop := by
  obtain ⟨front, back, hsplit, -⟩ := List.lookup_eq_some_iff.mp hbound
  have hmem : (key, cs) ∈ b' := by
    rw [hsplit]
    exact List.mem_append_right _ List.mem_cons_self
  refine (h.first_of_mem hmem).resolve_left fun hold => ?_
  have hne := List.lookup_eq_none_iff.mp hnew _ hold
  rw [bne_self_eq_false] at hne
  cases hne

/-- A placeholder that has a part is bound. -/
theorem Splits.lookup_ne_none (h : Splits text b i ps k b') {q : Part} (hq : q ∈ ps)
    (hkey : q.segment.key? = some key) : b'.lookup key ≠ none := by
  induction h with
  | nil _ => exact absurd hq List.not_mem_nil
  | space _ _ _ ih =>
    rcases List.mem_cons.mp hq with rfl | hq
    · cases hkey
    · exact ih hq
  | text _ _ ih =>
    rcases List.mem_cons.mp hq with rfl | hq
    · cases hkey
    · exact ih hq
  | @first b b' i j k ps t key' cs' hkey' hnew _ _ rest ih =>
    rcases List.mem_cons.mp hq with rfl | hq
    · obtain rfl := Option.some.inj (hkey'.symm.trans hkey)
      have hmono : b'.lookup key' = some cs' := by
        refine rest.lookup_mono ?_
        rw [List.lookup_append, hnew, Option.none_or, List.lookup_cons_self]
      rw [hmono]
      exact Option.some_ne_none cs'
    · exact ih hq
  | again hkey' hbound _ rest ih =>
    rcases List.mem_cons.mp hq with rfl | hq
    · obtain rfl := Option.some.inj (hkey'.symm.trans hkey)
      rw [rest.lookup_mono hbound]
      exact Option.some_ne_none _
    · exact ih hq

/-- What a placeholder stands for at one of its parts: where it is first used, a word of its kind,
and where it is used again, what it stood for before. -/
theorem Splits.token_cases {pre post : List Part} {p : Part} {t : Token}
    (h : Splits text [] i (pre ++ p :: post) k b') (hp : p.segment = .token t)
    (hkey : t.key? = some key) :
    (¬ p.UsedIn pre ∧ t.Stands text p.start p.stop) ∨
      p.UsedIn pre ∧ ∃ q ∈ pre, ∃ u cs, q.segment = .token u ∧ u.key? = some key ∧
        u.Stands text q.start q.stop ∧ Occurs text cs q.start q.stop ∧
        Occurs text cs p.start p.stop := by
  obtain ⟨j, b, hpre, hp'⟩ := h.of_append
  cases hp' with
  | space _ _ _ => cases hp
  | text _ _ => cases hp
  | @first _ _ _ j' _ _ t' key' cs hkey' hnew hword hcs rest =>
    obtain rfl : t' = t := by
      injection hp
    left
    refine ⟨?_, hword⟩
    intro h
    obtain ⟨key'', hkey'', q, hq, hqkey⟩ := h
    obtain rfl : key' = key'' := Option.some.inj (hkey'.symm.trans hkey'')
    exact hpre.lookup_ne_none hq hqkey hnew
  | @again _ _ _ j' _ _ t' key' cs hkey' hbound hcs rest =>
    obtain rfl : t' = t := by
      injection hp
    obtain rfl := Option.some.inj (hkey'.symm.trans hkey)
    right
    obtain ⟨q, hq, u, hu, hukey, hword, hocc⟩ := hpre.exists_first hbound rfl
    have hqkey : q.segment.key? = some key' := by
      rw [hu]
      exact hukey
    exact ⟨⟨key', hkey', q, hq, hqkey⟩, q, hq, u, cs, hu, hukey, hword, hocc, hcs⟩

/-! ## What stands before a part -/

/-- Unless it takes nothing, a split ends where its last part that is not empty does. -/
theorem Splits.exists_last (h : Splits text b i ps k b') (hlt : i < k) :
    ∃ (pre : List Part) (q : Part) (post : List Part), ps = pre ++ q :: post ∧ q.start < q.stop ∧
      q.stop = k ∧ ∀ e ∈ post, e.start = e.stop := by
  induction ps using List.reverseRecOn generalizing k b' with
  | nil =>
    cases h
    exact absurd hlt (Nat.lt_irrefl _)
  | append_singleton ps p ih =>
    obtain ⟨j, b'', hps, hp⟩ := h.of_append
    obtain ⟨hstart, hle, _, hend⟩ := hp.tail
    have hstop : p.stop = k := hend.stop_eq.symm
    rcases Nat.lt_or_ge j k with hjk | hjk
    · exact ⟨ps, p, [], rfl, by omega, hstop, fun e he => absurd he List.not_mem_nil⟩
    · have hj : j = k := by omega
      obtain ⟨pre, q, post, rfl, hne, hq, hempty⟩ := ih hps (by omega)
      refine ⟨pre, q, post ++ [p], by simp, hne, hq.trans hj, fun e he => ?_⟩
      rcases List.mem_append.mp he with he | he
      · exact hempty e he
      · rw [List.mem_singleton.mp he]
        omega

/-- The last character of what occurs. -/
theorem getLast?_of_occurs (h : Occurs text cs i j) (hlt : i < j) : cs.getLast? = text[j - 1]? := by
  obtain ⟨hj, hsize, hget⟩ := Regex.occurs_iff.mp h
  rw [List.getLast?_eq_getElem?, ← hget (cs.length - 1) (by omega)]
  congr 1
  omega

/-- A part behind which an identifier may go on: blanks and operators do not end in characters of
identifiers, and a keyword has to be a whole word where it is first used. -/
def Part.BreaksOff (before : List Part) (q : Part) : Prop :=
  match q.segment with
  | .space | .token (.operator _) => False
  | .token (.keyword _) => q.UsedIn before
  | .text quoted => ∃ c, (unquote quoted).getLast? = some c ∧ isWordChar c = true
  | _ => True

/-- No operator ends in a character of identifiers. -/
theorem isWordChar_of_isOperator (h : Grammar.IsOperator cs) (hlast : cs.getLast? = some c) :
    isWordChar c = false := by
  obtain ⟨w, hw, rfl⟩ := h
  have hall : ∀ w ∈ Grammar.unaryOperators ++ Grammar.binaryOperators,
      w.toList.getLast?.any isWordChar = false := by decide
  have hc := hall w hw
  rw [hlast] at hc
  exact hc

/-- If an identifier goes on behind a part, then the part breaks off. -/
theorem Splits.breaksOff {pre post : List Part} {q : Part}
    (h : Splits text [] i (pre ++ q :: post) k b') (hlt : q.start < q.stop)
    (hc : text[q.stop - 1]? = some c) (hword : isWordChar c = true)
    (hnext : ¬ Grammar.NotContinued text q.stop) : q.BreaksOff pre := by
  unfold Part.BreaksOff
  split
  next hseg =>
    obtain ⟨j, b, -, hq⟩ := h.of_append
    cases hq with
    | @space _ _ _ _ _ _ cs hcs hblank _ =>
      have hlast := getLast?_of_occurs hcs hlt
      rw [hc] at hlast
      have hfalse := Grammar.isWordChar_of_isBlank (hblank c (List.mem_of_getLast? hlast))
      rw [hword] at hfalse
      cases hfalse
    | _ => cases hseg
  next id hseg =>
    -- whichever use it is, what stands there is an operator
    obtain ⟨cs, hcs, hop⟩ : ∃ cs, Occurs text cs q.start q.stop ∧ Grammar.IsOperator cs := by
      rcases h.token_cases hseg rfl with ⟨-, hstands⟩ |
          ⟨-, p, -, u, cs, -, hkey, hstands, hocc, hcs⟩
      · exact hstands
      · cases u with
        | operator id' =>
          obtain ⟨cs', hocc', hop⟩ := hstands
          exact ⟨cs, hcs, hocc.chars_eq hocc' ▸ hop⟩
        | _ => cases hkey
    have hlast := getLast?_of_occurs hcs hlt
    rw [hc] at hlast
    have hfalse := isWordChar_of_isOperator hop hlast
    rw [hword] at hfalse
    cases hfalse
  next id hseg =>
    rcases h.token_cases hseg rfl with ⟨-, hstands⟩ | ⟨hused, -⟩
    · exact absurd hstands.2.2 hnext
    · exact hused
  next quoted hseg =>
    obtain ⟨j, b, -, hq⟩ := h.of_append
    cases hq with
    | @text _ _ _ _ _ _ quoted' hcs _ =>
      obtain rfl : quoted' = quoted := by
        injection hseg
      exact ⟨c, (getLast?_of_occurs hcs hlt).trans hc, hword⟩
    | _ => cases hseg
  next => trivial

/-! ## Variables -/

/-- An identifier goes on where another one begins. -/
theorem not_notContinued (hname : Grammar.IsName cs) (h : Occurs text cs i j) :
    ¬ Grammar.NotContinued text i := by
  obtain ⟨c, rest, rfl, hc, -⟩ := hname
  intro hnot
  have hword := hnot c (Regex.occurs_cons.mp h).1
  rw [Grammar.isWordChar_of_isIdentifierChar
    (Grammar.isIdentifierChar_of_isIdentifierStart hc)] at hword
  cases hword

variable {pre post : List Part} {p : Part} {id : Identity}

/-- Only variables are bound as such. -/
theorem Token.eq_variable {t : Token} {id : Identity} (h : t.key? = some (.variable, id)) :
    t = .variable id := by
  cases t with
  | «variable» id' =>
    obtain ⟨-, rfl⟩ := Prod.mk.inj (Option.some.inj h)
    rfl
  | raw body => cases h
  | _ =>
    obtain ⟨hcategory, -⟩ := Prod.mk.inj (Option.some.inj h)
    cases hcategory

/-- A variable that is new begins where no identifier ends. -/
theorem Splits.first_boundary (h : Splits text [] i (pre ++ p :: post) k b')
    (hp : p.segment = .token (.variable id)) (hnew : ¬ p.UsedIn pre) :
    NotPreceded text p.start := by
  rcases h.token_cases hp rfl with ⟨-, hstands⟩ | ⟨hused, -⟩
  · exact hstands.1
  · exact absurd hused hnew

/-- A variable that has been used before stands for the same identifier again. -/
theorem Splits.repeat_same (h : Splits text [] i (pre ++ p :: post) k b')
    (hp : p.segment = .token (.variable id)) (hused : p.UsedIn pre) :
    ∃ q ∈ pre, q.segment = p.segment ∧ ∃ cs, Grammar.IsName cs ∧ Occurs text cs q.start q.stop ∧
      Occurs text cs p.start p.stop := by
  rcases h.token_cases hp rfl with ⟨hnew, -⟩ | ⟨-, q, hq, u, cs, hu, hkey, hstands, hocc, hcs⟩
  · exact absurd hused hnew
  · obtain rfl := Token.eq_variable hkey
    obtain ⟨-, -, cs', hocc', hname⟩ := hstands
    exact ⟨q, hq, hu.trans hp.symm, cs, hocc.chars_eq hocc' ▸ hname, hocc, hcs⟩

/-- A variable that has been used before begins where no identifier ends, or right behind a part
that breaks off. -/
theorem Splits.repeat_boundary (h : Splits text [] i (pre ++ p :: post) k b')
    (hp : p.segment = .token (.variable id)) (hused : p.UsedIn pre) :
    NotPreceded text p.start ∨ ∃ (before : List Part) (q : Part) (after : List Part),
      pre = before ++ q :: after ∧ q.start < q.stop ∧ q.stop = p.start ∧
      (∀ e ∈ after, e.start = e.stop) ∧ q.BreaksOff before := by
  by_cases hnot : NotPreceded text p.start
  · exact Or.inl hnot
  right
  obtain ⟨first, hfirst, -, cs, hname, hocc, hcs⟩ := h.repeat_same hp hused
  obtain ⟨j, b'', hpre, hpost⟩ := h.of_append
  have hj := hpost.tail.1
  -- the first use takes a character, so that something stands before the later one
  have hlt : i < j := by
    obtain ⟨c, rest, rfl, -⟩ := hname
    have hbounds := hpre.bounds_of_mem hfirst
    have hlen := hocc.length_eq
    rw [List.length_cons] at hlen
    omega
  obtain ⟨before, q, after, rfl, hne, hstop, hempty⟩ := hpre.exists_last hlt
  refine ⟨before, q, after, rfl, hne, hstop.trans hj.symm, hempty, ?_⟩
  have hq : q.stop = p.start := hstop.trans hj.symm
  obtain ⟨c, hc, hword⟩ : ∃ c, text[q.stop - 1]? = some c ∧ isWordChar c = true := by
    by_contra hall
    refine hnot fun c _ hc => ?_
    by_contra hword
    rw [← hq] at hc
    exact hall ⟨c, hc, eq_true_of_ne_false hword⟩
  rw [List.append_assoc, List.cons_append] at h
  refine h.breaksOff hne hc hword ?_
  rw [hq]
  exact not_notContinued hname hcs

/-! ## A variable twice

The pattern `$a $a` and texts that it is found in: in one of them, the variable comes again in the
middle of an identifier. -/

/-- The pieces of `$a $a`. -/
def twicePieces : List Piece :=
  [.token (.variable (.named ['a'])), .text [' '], .token (.variable (.named ['a']))]

/-- The segments of `$a $a`. -/
def twiceSegments : List Segment :=
  [.token (.variable (.named ['a'])), .space, .token (.variable (.named ['a']))]

theorem extract_twice : extract "$a $a".toList = .ok twicePieces := by decide +kernel

theorem plain_twice : PlainPieces twicePieces := by
  intro body h
  simp [twicePieces] at h

theorem layout_twice : layout (normalize twicePieces) = twiceSegments := by decide +kernel

set_option maxRecDepth 10000 in
theorem run_twice : (matcherOf "$a $a".toList twiceSegments {}).map (fun m =>
      ["aa", "a a"].all fun text => (m.scan (.ofString text)).found.any fun f =>
        f.start == 0 && f.stop == text.toList.length) = .ok true := by cbv

/-- Both texts are found whole. -/
theorem found_twice {text : String} (ht : text ∈ ["aa", "a a"]) :
    ∃ m f, Matcher.compile "$a $a".toList {} = .ok m ∧ f ∈ (m.scan (.ofString text)).found ∧
      f.start = 0 ∧ f.stop = text.toList.length := by
  have hrun := run_twice
  rw [← layout_twice] at hrun
  obtain ⟨m, hm, hall⟩ := exists_compile_of_run extract_twice plain_twice hrun
  obtain ⟨f, hf, hwhole⟩ := List.any_eq_true.mp (List.all_eq_true.mp hall text ht)
  rw [Bool.and_eq_true, beq_iff_eq, beq_iff_eq] at hwhole
  exact ⟨m, f, hm, hf, hwhole.1, hwhole.2⟩

section Reported

variable {pattern : List Char} {pieces : List Piece} {limits : Limits} {m : Matcher}

/-- **Where variables begin.** Every match is a split, and however it is split, a variable that is
new begins where no identifier ends, while one that has been used before stands for the same
characters again: an identifier may end right before these only if the last part before them that is
not empty breaks off. -/
theorem variable_boundary (hextract : extract pattern = .ok pieces) (hplain : PlainPieces pieces)
    (hm : Matcher.compile pattern limits = .ok m) (text : String) {f : Regex.Match}
    (hf : f ∈ (m.scan (.ofString text)).found) :
    (∃ ps b, ps.map (·.segment) = layout (normalize pieces) ∧
        Splits text.toList.toArray [] f.start ps f.stop b) ∧
      ∀ ps b, ps.map (·.segment) = layout (normalize pieces) →
        Splits text.toList.toArray [] f.start ps f.stop b →
        ∀ pre p post id, ps = pre ++ p :: post → p.segment = .token (.variable id) →
          (¬ p.UsedIn pre → NotPreceded text.toList.toArray p.start) ∧
          (p.UsedIn pre →
            (∃ q ∈ pre, q.segment = p.segment ∧ ∃ cs,
              Occurs text.toList.toArray cs q.start q.stop ∧
              Occurs text.toList.toArray cs p.start p.stop) ∧
            (NotPreceded text.toList.toArray p.start ∨
              ∃ before q after, pre = before ++ q :: after ∧ q.start < q.stop ∧
                q.stop = p.start ∧ (∀ e ∈ after, e.start = e.stop) ∧ q.BreaksOff before)) := by
  obtain ⟨ps, b, hps, hsplits, -⟩ := splits_of_found hextract hplain hm (.ofString text) hf
  refine ⟨⟨ps, b, hps, hsplits⟩, ?_⟩
  rintro _ b' - h pre p post id rfl hp
  refine ⟨h.first_boundary hp, fun hused => ⟨?_, h.repeat_boundary hp hused⟩⟩
  obtain ⟨q, hq, hseg, cs, -, hocc, hcs⟩ := h.repeat_same hp hused
  exact ⟨q, hq, hseg, cs, hocc, hcs⟩

end Reported

theorem variable_boundary_twice :
    ∃ m f, Matcher.compile "$a $a".toList {} = .ok m ∧
      f ∈ (m.scan (.ofString "a a")).found ∧ f.start = 0 ∧ f.stop = 3 ∧
      ∀ ps b, ps.map (·.segment) = layout (normalize twicePieces) →
        Splits "a a".toList.toArray [] f.start ps f.stop b →
        ∀ pre p post id, ps = pre ++ p :: post → p.segment = .token (.variable id) →
          (¬ p.UsedIn pre → NotPreceded "a a".toList.toArray p.start) ∧
          (p.UsedIn pre →
            (∃ q ∈ pre, q.segment = p.segment ∧ ∃ cs,
              Occurs "a a".toList.toArray cs q.start q.stop ∧
              Occurs "a a".toList.toArray cs p.start p.stop) ∧
            (NotPreceded "a a".toList.toArray p.start ∨
              ∃ before q after, pre = before ++ q :: after ∧ q.start < q.stop ∧
                q.stop = p.start ∧ (∀ e ∈ after, e.start = e.stop) ∧ q.BreaksOff before)) := by
  obtain ⟨m, f, hm, hf, hstart, hstop⟩ := found_twice (List.mem_cons_of_mem _ List.mem_cons_self)
  exact ⟨m, f, hm, hf, hstart, hstop,
    (variable_boundary extract_twice plain_twice hm "a a" hf).2⟩

/-- However the match of `$a $a` in `aa` is split, the second variable begins where the identifier
that begins at the front goes on. -/
theorem repeat_inside_identifier :
    ∃ m f, Matcher.compile "$a $a".toList {} = .ok m ∧ f ∈ (m.scan (.ofString "aa")).found ∧
      (∃ ps b, ps.map (·.segment) = layout (normalize twicePieces) ∧
        Splits "aa".toList.toArray [] f.start ps f.stop b) ∧
      ∀ ps b, ps.map (·.segment) = layout (normalize twicePieces) →
        Splits "aa".toList.toArray [] f.start ps f.stop b →
        ∃ pre p post id, ps = pre ++ p :: post ∧ p.segment = .token (.variable id) ∧
          p.UsedIn pre ∧ ¬ NotPreceded "aa".toList.toArray p.start := by
  obtain ⟨m, f, hm, hf, hstart, hstop⟩ := found_twice List.mem_cons_self
  obtain ⟨ps, b, hps, hsplits, -⟩ :=
    splits_of_found extract_twice plain_twice hm (.ofString "aa") hf
  refine ⟨m, f, hm, hf, ⟨ps, b, hps, hsplits⟩, fun ps b hps h => ?_⟩
  rw [layout_twice] at hps
  obtain ⟨p₁, ps, rfl, h₁, hps⟩ := List.map_eq_cons_iff.mp hps
  obtain ⟨p₂, ps, rfl, h₂, hps⟩ := List.map_eq_cons_iff.mp hps
  obtain ⟨p₃, ps, rfl, h₃, hps⟩ := List.map_eq_cons_iff.mp hps
  obtain rfl := List.map_eq_nil_iff.mp hps
  have hused : p₃.UsedIn [p₁, p₂] := by
    refine ⟨(.variable, .named ['a']), ?_, p₁, List.mem_cons_self, ?_⟩
    · rw [h₃]
      rfl
    · rw [h₁]
      rfl
  refine ⟨[p₁, p₂], p₃, [], .named ['a'], rfl, h₃, hused, fun hnot => ?_⟩
  -- both variables have the same length, and together they fill the text
  have hone : p₃.start = 1 := by
    have h' : Splits "aa".toList.toArray [] f.start ([p₁, p₂] ++ p₃ :: []) f.stop b := h
    obtain ⟨q, hq, hseg, cs, ⟨c, rest, rfl, -⟩, hocc, hcs⟩ := h'.repeat_same h₃ hused
    have hq : q = p₁ := by
      rcases List.mem_cons.mp hq with rfl | hq
      · rfl
      · obtain rfl := List.mem_singleton.mp hq
        rw [h₂, h₃] at hseg
        cases hseg
    rw [hq] at hocc
    obtain ⟨h₁start, -, b₁, hrest⟩ := h.tail
    obtain ⟨h₂start, h₂le, b₂, hrest⟩ := hrest.tail
    obtain ⟨h₃start, -, b₃, hrest⟩ := hrest.tail
    have h₃stop : f.stop = p₃.stop := hrest.stop_eq
    have hsize : f.stop = 2 := hstop
    have hlen := hocc.length_eq
    have hlen' := hcs.length_eq
    rw [List.length_cons] at hlen hlen'
    omega
  rw [hone] at hnot
  have hword := hnot 'a' Nat.one_pos rfl
  revert hword
  decide +kernel

end CodeShape.Pattern
