import CodeShape.Proofs.Pattern.Matching

/-!
# What is reported about a text

Spans are given in bytes, and splits in characters: `Span.Covers` tells which characters a span is
about. Every span that is reported covers a split, and the result that comes with it lists the first
uses of the placeholders (`findAll_sound`). If there is a split at all, then there is a match, and
the first span starts where the first of all splits begins (`isMatch_leftmost`).
-/

namespace CodeShape.Pattern

open Regex (Occurs)

/-! ## Bytes -/

/-- How many bytes come before character `i` of a text. -/
def bytesBefore (text : String) (i : Nat) : Nat :=
  (String.ofList (text.toList.take i)).utf8ByteSize

/-- What is in front of a text takes as many bytes as it has. -/
theorem bytesBefore_append {text : String} {front back : List Char}
    (h : text.toList = front ++ back) :
    bytesBefore text front.length = (String.ofList front).utf8ByteSize := by
  rw [bytesBefore, h, List.take_left]

/-- What occurs in a text takes as many bytes as it has. -/
theorem bytesBefore_of_occurs {text : String} {part : List Char} {i j : Nat}
    (h : Occurs text.toList.toArray part i j) :
    bytesBefore text j = bytesBefore text i + (String.ofList part).utf8ByteSize := by
  obtain ⟨front, back, htext, hi, hj⟩ := Regex.occurs_toArray_iff.mp h
  have hfirst := bytesBefore_append htext
  rw [← List.append_assoc] at htext
  have hboth := bytesBefore_append htext
  rw [List.length_append, ← hi, ← hj, String.ofList_append, String.utf8ByteSize_append] at hboth
  rw [hboth, hi, hfirst]

/-- What stands further behind has no fewer bytes before it. -/
theorem bytesBefore_le {text : String} {i j : Nat} (hle : i ≤ j)
    (hsize : j ≤ text.toList.toArray.size) : bytesBefore text i ≤ bytesBefore text j := by
  rw [bytesBefore_of_occurs (Regex.occurs_extract hle hsize)]
  exact Nat.le_add_right _ _

/-- No character is without bytes. -/
theorem bytesBefore_lt {text : String} {i j : Nat} (hlt : i < j)
    (hsize : j ≤ text.toList.toArray.size) : bytesBefore text i < bytesBefore text j := by
  have hocc := Regex.occurs_extract (Nat.le_of_lt hlt) hsize
  have hlen := hocc.length_eq
  have hne : (String.ofList (text.toList.toArray.extract i j).toList).utf8ByteSize ≠ 0 := by
    rw [Ne, String.utf8ByteSize_eq_zero_iff, String.ofList_eq_empty_iff]
    intro hnil
    rw [hnil, List.length_nil] at hlen
    omega
  rw [bytesBefore_of_occurs hocc]
  omega

/-- The span covers the characters of the text from `i` up to `j`. -/
structure Span.Covers (span : Span) (text : String) (i j : Nat) : Prop where
  start : span.start = bytesBefore text i
  stop : span.stop = bytesBefore text j
  chars : Occurs text.toList.toArray span.text.toList i j

theorem getElem?_offsetsFrom (start : Nat) (cs : List Char) {i : Nat} (hi : i ≤ cs.length) :
    (Text.offsetsFrom start cs)[i]? = some (start + (String.ofList (cs.take i)).utf8ByteSize) := by
  induction cs generalizing start i with
  | nil =>
    obtain rfl : i = 0 := Nat.le_zero.mp hi
    rfl
  | cons c cs ih =>
    cases i with
    | zero => rfl
    | succ i =>
      rw [Text.offsetsFrom, List.getElem?_cons_succ, ih _ (Nat.le_of_succ_le_succ hi),
        List.take_succ_cons, String.ofList_cons, String.utf8ByteSize_append,
        String.utf8ByteSize_singleton, Nat.add_assoc]

theorem offset_ofString (text : String) {i : Nat} (hi : i ≤ text.toList.toArray.size) :
    (Text.ofString text).offset i = bytesBefore text i := by
  rw [List.size_toArray] at hi
  unfold Text.offset Text.ofString bytesBefore
  dsimp only
  rw [Array.getD_eq_getD_getElem?, List.getElem?_toArray, getElem?_offsetsFrom 0 _ hi, Nat.zero_add]
  rfl

/-- The span of a match covers it. -/
theorem covers_spanOf (text : String) {f : Regex.Match} (hle : f.start ≤ f.stop)
    (hsize : f.stop ≤ text.toList.toArray.size) :
    (Matcher.spanOf (.ofString text) f).Covers text f.start f.stop := by
  refine ⟨offset_ofString text (Nat.le_trans hle hsize), offset_ofString text hsize, ?_⟩
  show Occurs _ (String.ofList (text.toList.toArray.extract f.start f.stop).toList).toList _ _
  rw [String.toList_ofList]
  exact Regex.occurs_extract hle hsize

/-! ## A call

The pattern `f($1)` and a text that matches it, to try things out with: a literal is the simplest of
the placeholders that stand for some words only. -/

/-- The pieces of `f($1)`. -/
def callPieces : List Piece :=
  [.text ['f', '('], .token (.literal (.named ['1'])), .text [')']]

/-- The parts of `f(1)`. -/
def callParts : List Part :=
  [⟨.text ['f'], 0, 1⟩, ⟨.space, 1, 1⟩, ⟨.text ['\\', '('], 1, 2⟩, ⟨.space, 2, 2⟩,
    ⟨.token (.literal (.named ['1'])), 2, 3⟩, ⟨.space, 3, 3⟩, ⟨.text ['\\', ')'], 3, 4⟩]

theorem extract_call : extract "f($1)".toList = .ok callPieces := by decide +kernel

theorem plain_call : PlainPieces callPieces := by
  intro body h
  simp [callPieces] at h

theorem segments_call : callParts.map (·.segment) = layout (normalize callPieces) :=
  by decide +kernel

theorem compile_call {limits : Limits} : ∃ m, Matcher.compile "f($1)".toList limits = .ok m := by
  rw [compile_ok_iff extract_call plain_call, ← segments_call]
  decide

theorem search_call {limits : Limits} {m : Matcher}
    (hm : Matcher.compile "f($1)".toList limits = .ok m) (text : Array Char) :
    m.searcher.search limits.backtrackLimit text 0 (some 0) ≠ .exhausted := by
  refine search_ne_exhausted extract_call plain_call hm ?_ _ _ _ _
  rw [← segments_call]
  decide

theorem splits_call :
    Splits "f(1)".toList.toArray [] 0 callParts 4 [((.literal, .named ['1']), ['1'])] := by
  have hone : Grammar.IsLiteral ['1'] := by
    have hdigit : Unicode.isDigit '1' = true := by decide
    exact .inr (.inl ⟨[], ['1'], [], rfl, .inl rfl,
      ⟨List.cons_ne_nil _ _, List.forall_mem_singleton.mpr hdigit⟩, nofun⟩)
  have hocc : Occurs "f(1)".toList.toArray ['1'] 2 3 := ⟨by decide, by decide, by decide⟩
  have hnone {i : Nat} (hi : i ≤ 4) : Occurs "f(1)".toList.toArray [] i i :=
    Regex.occurs_nil.mpr ⟨rfl, hi⟩
  refine .text ⟨by decide, by decide, by decide⟩ (.space (hnone (by decide)) nofun ?_)
  refine .text ⟨by decide, by decide, by decide⟩ (.space (hnone (by decide)) nofun ?_)
  refine .first rfl rfl ⟨['1'], hocc, hone⟩ hocc (.space (hnone (by decide)) nofun ?_)
  exact .text ⟨by decide, by decide, by decide⟩ (.nil (by decide))

/-! ## Soundness -/

section Reported

variable {pattern : List Char} {pieces : List Piece} {limits : Limits} {m : Matcher}

theorem get_classify (b : Bindings) (category : Category) :
    (MatchResult.classify b.texts).get category
      = (b.filter fun use => use.1.1 = category).map fun use => String.ofList use.2 := by
  rw [MatchResult.classify, MatchResult.get_ofLists, Bindings.texts, List.filterMap_map,
    ← List.filterMap_eq_map, List.filterMap_filter]
  refine List.filterMap_congr fun use _ => ?_
  by_cases h : use.1.1 = category
  · simp [h]
  · simp [h]

/-- The span and the result at one place of the two lists are made of the same match. -/
theorem found_of_reported {text : Text} {k : Nat} {span : Span} {result : MatchResult}
    (hspan : (m.spans text)[k]? = some span) (hresult : (m.findAll text)[k]? = some result) :
    ∃ f, (m.scan text).found[k]? = some f ∧ Matcher.spanOf text f = span ∧
      m.classify text f = result := by
  rw [Matcher.spans, List.getElem?_map] at hspan
  obtain ⟨f, hf, hspanned⟩ := Option.map_eq_some_iff.mp hspan
  rw [Matcher.findAll, List.getElem?_map, hf] at hresult
  exact ⟨f, hf, hspanned, Option.some.inj hresult⟩

/-- A span and a result report the split of a text, from character `i` up to `j`, into the parts of
a pattern: one part for each fragment that is searched for. The result lists by category what the
placeholders stand for where they are first used, each placeholder once. -/
structure Reports (pieces : List Piece) (text : String) (span : Span) (result : MatchResult)
    (i j : Nat) (ps : List Part) : Prop where
  covers : span.Covers text i j
  segments : ps.map (·.segment) = layout (normalize pieces)
  fragments : (bind (ps.map (·.segment))).1 = relax (bind (normalize pieces)).1
  splits : Splits text.toList.toArray [] i ps j (firstUses text.toList.toArray ps)
  distinct : ((firstUses text.toList.toArray ps).map (·.1)).Nodup
  lists : ∀ category, result.get category
    = ((firstUses text.toList.toArray ps).filter fun use => use.1.1 = category).map
        fun use => String.ofList use.2

/-- **Every reported match is sound**: span and result report a split. -/
theorem findAll_sound (hextract : extract pattern = .ok pieces) (hplain : PlainPieces pieces)
    (hm : Matcher.compile pattern limits = .ok m) (text : String) {k : Nat} {span : Span}
    {result : MatchResult} (hspan : (m.spans (.ofString text))[k]? = some span)
    (hresult : (m.findAll (.ofString text))[k]? = some result) :
    ∃ i j ps, Reports pieces text span result i j ps := by
  obtain ⟨f, hf, rfl, hclassified⟩ := found_of_reported hspan hresult
  obtain ⟨ps, b, hps, hsplits, hclassify⟩ :=
    splits_of_found hextract hplain hm (.ofString text) (List.mem_of_getElem? hf)
  obtain rfl := hsplits.eq_firstUses
  refine ⟨f.start, f.stop, ps, covers_spanOf text hsplits.le.1 hsplits.le.2, hps, ?_, hsplits,
    hsplits.nodup List.nodup_nil, fun category => ?_⟩
  · rw [hps, bind_layout]
  · rw [← hclassified, hclassify]
    exact get_classify _ category

theorem findAll_sound_call :
    ∃ m span result, Matcher.compile "f($1)".toList {} = .ok m ∧
      (m.spans (.ofString "f(1)"))[0]? = some span ∧
      (m.findAll (.ofString "f(1)"))[0]? = some result ∧
      ∃ i j ps, Reports callPieces "f(1)" span result i j ps := by
  obtain ⟨m, hm⟩ : ∃ m, Matcher.compile "f($1)".toList {} = .ok m := compile_call
  obtain ⟨f, hf, -⟩ := first_found extract_call plain_call hm (by decide) (.ofString "f(1)")
    (search_call hm _) ⟨callParts, 0, 4, _, segments_call, splits_call⟩
  rw [List.head?_eq_getElem?] at hf
  have hspan : (m.spans (.ofString "f(1)"))[0]? = some (Matcher.spanOf (.ofString "f(1)") f) := by
    rw [Matcher.spans, List.getElem?_map, hf]
    rfl
  have hresult : (m.findAll (.ofString "f(1)"))[0]? = some (m.classify (.ofString "f(1)") f) := by
    rw [Matcher.findAll, List.getElem?_map, hf]
    rfl
  exact ⟨m, _, _, hm, hspan, hresult,
    findAll_sound extract_call plain_call hm "f(1)" hspan hresult⟩

/-! ## Completeness -/

/-- Some split into the parts of the pattern begins at character `i` of the text. -/
def BeginsAt (pieces : List Piece) (text : String) (i : Nat) : Prop :=
  ∃ ps k b, ps.map (·.segment) = layout (normalize pieces) ∧
    Splits text.toList.toArray [] i ps k b

/-- **No match is missed.** If there is a split at all, and the search for the first one does not
spend its budget, then there is a match, and the first span starts where the first split begins. -/
theorem isMatch_leftmost (hextract : extract pattern = .ok pieces) (hplain : PlainPieces pieces)
    (hm : Matcher.compile pattern limits = .ok m) (hmax : 1 ≤ limits.maxMatches) (text : String)
    (hlasts : m.searcher.search limits.backtrackLimit text.toList.toArray 0 (some 0) ≠ .exhausted)
    (hsplit : ∃ s, BeginsAt pieces text s) :
    m.isMatch (.ofString text) = true ∧
      ∃ span least, (m.spans (.ofString text)).head? = some span ∧
        span.start = bytesBefore text least ∧ BeginsAt pieces text least ∧
        ∀ s, BeginsAt pieces text s → least ≤ s := by
  obtain ⟨f, hf, hleast⟩ : ∃ f, (m.scan (.ofString text)).found.head? = some f ∧
      ∀ ps i k b, ps.map (·.segment) = layout (normalize pieces) →
        Splits text.toList.toArray [] i ps k b → f.start ≤ i := by
    obtain ⟨s, ps, k, b, hps, h⟩ := hsplit
    exact first_found hextract hplain hm hmax (.ofString text) hlasts ⟨ps, s, k, b, hps, h⟩
  have hmem : f ∈ (m.scan (.ofString text)).found := List.mem_of_head? hf
  obtain ⟨ps, b, hps, hsplits, -⟩ := splits_of_found hextract hplain hm (.ofString text) hmem
  refine ⟨?_, Matcher.spanOf (.ofString text) f, f.start, ?_, ?_, ⟨ps, f.stop, b, hps, hsplits⟩, ?_⟩
  · unfold Matcher.isMatch
    rw [List.isEmpty_eq_false_iff.mpr (List.ne_nil_of_mem hmem)]
    rfl
  · rw [Matcher.spans, List.head?_map, hf]
    rfl
  · exact (covers_spanOf text hsplits.le.1 hsplits.le.2).start
  · rintro s ⟨ps', k, b', hps', h⟩
    exact hleast ps' s k b' hps' h

theorem isMatch_leftmost_call :
    ∃ m, Matcher.compile "f($1)".toList {} = .ok m ∧ m.isMatch (.ofString "f(1)") = true ∧
      ∃ span least, (m.spans (.ofString "f(1)")).head? = some span ∧
        span.start = bytesBefore "f(1)" least ∧ BeginsAt callPieces "f(1)" least ∧
        ∀ s, BeginsAt callPieces "f(1)" s → least ≤ s := by
  obtain ⟨m, hm⟩ : ∃ m, Matcher.compile "f($1)".toList {} = .ok m := compile_call
  exact ⟨m, hm, isMatch_leftmost extract_call plain_call hm (by decide) "f(1)" (search_call hm _)
    ⟨0, callParts, 4, _, segments_call, splits_call⟩⟩

end Reported

end CodeShape.Pattern
