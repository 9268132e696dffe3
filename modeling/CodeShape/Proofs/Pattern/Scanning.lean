import Mathlib
import CodeShape.Proofs.Pattern.Soundness

/-!
# Every scan ends, and repeats nothing

With `\K` in a lookbehind a match may begin before the last one, and a searcher that is asked for
one match after the other may go round in circles. What it answers each time is a sequence that need
not end (`Matcher.answer`). A scan takes the matches that this sequence begins with, as long as their
places are different and there are not too many of them (`Matcher.Admits`), and there is a reason for
which it takes no more (`Matcher.Ends`). There is only one list of matches that ends so
(`Yields.unique`).

A match lies within the text, so a text of `n` characters has no more than `(n + 1) * (n + 2) / 2`
places for matches (`Admits.length_le`). This is why the fuel of a scan never runs out, and
everything that is reported about a text, in whatever form, comes from a bounded number of different
matches (`scan_bounded`).
-/

namespace CodeShape.Pattern

open Regex (Answer Cursor Searcher)

variable {m : Matcher} {t : Text} {f : Regex.Match} {fs fs' found : List Regex.Match}
  {ended ended' : ScanEnd} {k n : Nat}

/-! ## What a scan takes -/

/-- The cursor behind the first `k` answers of the searcher. -/
def Matcher.cursorAfter (m : Matcher) (t : Text) : Nat → Cursor
  | 0 => {}
  | k + 1 => (m.searcher.next m.limits.backtrackLimit t.chars (m.cursorAfter t k)).2

/-- The searcher's answer number `k`, counted from zero, when it is asked for one match after the
other. -/
def Matcher.answer (m : Matcher) (t : Text) (k : Nat) : Answer :=
  (m.searcher.next m.limits.backtrackLimit t.chars (m.cursorAfter t k)).1

/-- Where a match begins and ends. -/
def placeOf (f : Regex.Match) : Nat × Nat :=
  (f.start, f.stop)

/-- The matches are the first answers of the searcher, no place comes twice, and there are not too
many of them. -/
structure Matcher.Admits (m : Matcher) (t : Text) (fs : List Regex.Match) : Prop where
  answered : ∀ k f, fs[k]? = some f → m.answer t k = .found f
  distinct : (fs.map placeOf).Nodup
  room : fs.length ≤ m.limits.maxMatches

/-- Why no match is taken behind these: there is none, the search for it spent its budget, it would
be one too many, or its place has come before. -/
inductive Matcher.Ends (m : Matcher) (t : Text) (fs : List Regex.Match) : ScanEnd → Prop
  | noMore (h : m.answer t fs.length = .missing) : m.Ends t fs .noMore
  | exhausted (h : m.answer t fs.length = .exhausted) : m.Ends t fs .exhausted
  | full {f : Regex.Match} (h : m.answer t fs.length = .found f)
      (hfull : m.limits.maxMatches ≤ fs.length) : m.Ends t fs .full
  | repeated {f : Regex.Match} (h : m.answer t fs.length = .found f)
      (hroom : fs.length < m.limits.maxMatches) (hagain : placeOf f ∈ fs.map placeOf) :
      m.Ends t fs (.repeated (t.offset f.start))

/-- The matches that a scan yields, and how it ends. -/
structure Matcher.Yields (m : Matcher) (t : Text) (fs : List Regex.Match) (ended : ScanEnd) : Prop
    extends m.Admits t fs where
  ends : m.Ends t fs ended

/-! ## There are not too many places -/

/-- The places of matches in a text of `n` characters: those that begin no later than they end. The
end comes first. -/
def places (n : Nat) : Finset (Σ _ : Nat, Nat) :=
  (Finset.range (n + 1)).sigma fun stop => Finset.range (stop + 1)

theorem card_places (n : Nat) : (places n).card = (n + 1) * (n + 2) / 2 := by
  have hsum : ∑ stop ∈ Finset.range (n + 1), (stop + 1) = (n + 2) * (n + 1) / 2 := by
    rw [← Nat.add_zero (∑ stop ∈ Finset.range (n + 1), (stop + 1)),
      ← Finset.sum_range_succ' (fun i => i) (n + 1)]
    exact Finset.sum_range_id (n + 2)
  unfold places
  rw [Finset.card_sigma, Nat.mul_comm, ← hsum]
  exact Finset.sum_congr rfl fun stop _ => Finset.card_range (stop + 1)

/-- As many matches as have different places fit into a text. -/
theorem length_le_of_distinct (hdistinct : (fs.map placeOf).Nodup)
    (hbounds : ∀ f ∈ fs, f.start ≤ f.stop ∧ f.stop ≤ n) :
    fs.length ≤ (n + 1) * (n + 2) / 2 := by
  let swap : Nat × Nat → Σ _ : Nat, Nat := fun p => ⟨p.2, p.1⟩
  have hswap : Function.Injective swap := by
    intro p q h
    obtain ⟨hstop, hstart⟩ := Sigma.mk.inj h
    exact Prod.ext (eq_of_heq hstart) hstop
  have hsub : ((fs.map placeOf).map swap).toFinset ⊆ places n := by
    intro p hp
    rw [List.mem_toFinset, List.map_map] at hp
    obtain ⟨f, hf, rfl⟩ := List.mem_map.mp hp
    obtain ⟨hle, hsize⟩ := hbounds f hf
    refine Finset.mem_sigma.mpr ⟨Finset.mem_range.mpr ?_, Finset.mem_range.mpr ?_⟩
    · exact Nat.lt_succ_of_le hsize
    · exact Nat.lt_succ_of_le hle
  have hcard := Finset.card_le_card hsub
  rw [List.toFinset_card_of_nodup (hdistinct.map hswap), card_places, List.length_map,
    List.length_map] at hcard
  exact hcard

/-- No character is without bytes, so there are no more of them than bytes. -/
theorem length_le_utf8ByteSize (text : String) : text.toList.length ≤ text.utf8ByteSize := by
  have hlist : ∀ cs : List Char, cs.length ≤ (String.ofList cs).utf8ByteSize := by
    intro cs
    induction cs with
    | nil => exact Nat.zero_le _
    | cons c cs ih =>
      rw [String.ofList_cons, String.utf8ByteSize_append, String.utf8ByteSize_singleton,
        List.length_cons]
      have := c.utf8Size_pos
      omega
  have h := hlist text.toList
  rwa [String.ofList_toList] at h

/-! ## The scan -/

/-- The scan looks for the place of a match among those it has found. -/
theorem any_eq_place_iff :
    (found.any fun g => g.start == f.start && g.stop == f.stop) = true ↔
      placeOf f ∈ found.reverse.map placeOf := by
  rw [List.any_eq_true, List.mem_map]
  refine exists_congr fun g => ?_
  rw [List.mem_reverse, Bool.and_eq_true, beq_iff_eq, beq_iff_eq]
  exact and_congr_right' Prod.mk_inj.symm

namespace Matcher.Admits

/-- What is taken has been found by the searcher, and so lies within the text. -/
theorem bounds (h : m.Admits t fs) (hmethod : ∃ e, Regex.Method.ofExpr e = .ok m.searcher.method)
    (hf : f ∈ fs) : f.start ≤ f.stop ∧ f.stop ≤ t.chars.size := by
  obtain ⟨e, hmethod⟩ := hmethod
  obtain ⟨k, hk⟩ := List.mem_iff_getElem?.mp hf
  have hnext : m.searcher.next m.limits.backtrackLimit t.chars (m.cursorAfter t k)
      = (.found f, m.cursorAfter t (k + 1)) := Prod.ext (h.answered k f hk) rfl
  obtain ⟨hle, -, hsize⟩ := Searcher.next_bounds hmethod hnext
  exact ⟨hle, hsize⟩

theorem length_le (h : m.Admits t fs)
    (hmethod : ∃ e, Regex.Method.ofExpr e = .ok m.searcher.method) :
    fs.length ≤ (t.chars.size + 1) * (t.chars.size + 2) / 2 :=
  length_le_of_distinct h.distinct fun _ hf => h.bounds hmethod hf

theorem nil (m : Matcher) (t : Text) : m.Admits t [] :=
  ⟨nofun, .nil, Nat.zero_le _⟩

/-- **One more match is taken** if there is room for it and its place has not come before. -/
theorem concat (h : m.Admits t fs) (hanswer : m.answer t fs.length = .found f)
    (hroom : fs.length < m.limits.maxMatches) (hnew : placeOf f ∉ fs.map placeOf) :
    m.Admits t (fs ++ [f]) := by
  refine ⟨fun k g hk => ?_, ?_, ?_⟩
  · rcases getElem?_concat_eq_some_iff.mp hk with hk | ⟨rfl, rfl⟩
    · exact h.answered k g hk
    · exact hanswer
  · rw [List.map_append, List.map_singleton, List.nodup_append]
    refine ⟨h.distinct, List.nodup_singleton _, fun p hp q hq heq => ?_⟩
    rw [heq, List.mem_singleton.mp hq] at hp
    exact hnew hp
  · rw [List.length_append, List.length_singleton]
    exact hroom

/-- **A scan goes on until there is a reason for it to end.** Since not too many matches are ever
taken, the fuel lasts until then. -/
theorem yields (h : m.Admits t found.reverse)
    (hmethod : ∃ e, Regex.Method.ofExpr e = .ok m.searcher.method) {fuel : Nat}
    (hfuel : (t.chars.size + 1) * (t.chars.size + 2) / 2 < fuel + found.length) :
    m.Yields t (m.scanFrom t fuel found (m.cursorAfter t found.length)).found
      (m.scanFrom t fuel found (m.cursorAfter t found.length)).ended := by
  induction fuel generalizing found with
  -- no two of the matches found are at one place, and there are only so many places
  | zero =>
    have hle := h.length_le hmethod
    rw [List.length_reverse] at hle
    omega
  | succ fuel ih =>
    have hlength : found.reverse.length = found.length := List.length_reverse
    cases hnext : m.searcher.next m.limits.backtrackLimit t.chars
      (m.cursorAfter t found.length) with
    | mk answer cursor =>
      have hanswer : m.answer t found.reverse.length = answer := by
        unfold Matcher.answer
        rw [hlength, hnext]
      cases answer with
      | missing =>
        rw [scanFrom_of_missing hnext]
        exact ⟨h, .noMore hanswer⟩
      | exhausted =>
        rw [scanFrom_of_exhausted hnext]
        exact ⟨h, .exhausted hanswer⟩
      | found f =>
        rw [scanFrom_of_found hnext]
        by_cases hfull : m.limits.maxMatches ≤ found.length
        · rw [if_pos hfull]
          exact ⟨h, .full hanswer (hlength ▸ hfull)⟩
        · have hroom : found.reverse.length < m.limits.maxMatches := by omega
          rw [if_neg hfull]
          by_cases hagain : placeOf f ∈ found.reverse.map placeOf
          · rw [if_pos (any_eq_place_iff.mpr hagain)]
            exact ⟨h, .repeated hanswer hroom hagain⟩
          · rw [if_neg fun hany => hagain (any_eq_place_iff.mp hany)]
            have hmore : m.Admits t (f :: found).reverse := by
              rw [List.reverse_cons]
              exact h.concat hanswer hroom hagain
            have hcursor : cursor = m.cursorAfter t (f :: found).length := by
              rw [List.length_cons, Matcher.cursorAfter, hnext]
            rw [hcursor]
            exact ih hmore (by rw [List.length_cons]; omega)

end Matcher.Admits

/-- **A scan yields what it should**, and its end has a reason. -/
theorem scan_yields (hmethod : ∃ e, Regex.Method.ofExpr e = .ok m.searcher.method) (t : Text) :
    m.Yields t (m.scan t).found (m.scan t).ended := by
  refine (Matcher.Admits.nil m t).yields hmethod ?_
  have hplaces : (t.chars.size + 1) * (t.chars.size + 2) / 2
      ≤ (t.chars.size + 1) * (t.chars.size + 1) := by
    refine Nat.div_le_of_le_mul ?_
    rw [← Nat.mul_assoc, Nat.mul_comm 2, Nat.mul_assoc]
    exact Nat.mul_le_mul_left _ (by omega)
  rw [List.length_nil]
  omega

/-! ## There is only one end -/

namespace Matcher

/-- What is taken is the beginning of whatever is taken further on. -/
theorem Admits.prefix_of_length_le (h : m.Admits t fs) (h' : m.Admits t fs')
    (hle : fs.length ≤ fs'.length) : fs <+: fs' := by
  rw [List.prefix_iff_getElem?]
  intro k hk
  have hk' : k < fs'.length := Nat.lt_of_lt_of_le hk hle
  have hsame := (h.answered k _ (List.getElem?_eq_getElem hk)).symm.trans
    (h'.answered k _ (List.getElem?_eq_getElem hk'))
  rw [List.getElem?_eq_getElem hk', Answer.found.inj hsame]

/-- Nothing is taken behind an end. -/
theorem Yields.eq_of_longer (h : m.Yields t fs ended) (h' : m.Admits t fs') (hpre : fs <+: fs') :
    fs' = fs := by
  obtain ⟨more, rfl⟩ := hpre
  cases more with
  | nil => exact List.append_nil fs
  | cons f more =>
    have hanswer : m.answer t fs.length = .found f := by
      refine h'.answered _ f ?_
      rw [List.getElem?_append_right (Nat.le_refl _), Nat.sub_self]
      rfl
    cases h.ends with
    | noMore hnone => cases hnone.symm.trans hanswer
    | exhausted hnone => cases hnone.symm.trans hanswer
    | full _ hfull =>
      have hroom := h'.room
      rw [List.length_append, List.length_cons] at hroom
      omega
    | repeated hagain _ hold =>
      have hdistinct := h'.distinct
      rw [Answer.found.inj (hagain.symm.trans hanswer)] at hold
      rw [List.map_append, List.map_cons, List.nodup_append] at hdistinct
      exact absurd rfl (hdistinct.2.2 _ hold _ List.mem_cons_self)

/-- **Only one list of matches can be yielded.** -/
theorem Yields.unique (h : m.Yields t fs ended) (h' : m.Yields t fs' ended') : fs' = fs := by
  rcases Nat.le_total fs.length fs'.length with hle | hle
  · exact h.eq_of_longer h'.toAdmits (h.toAdmits.prefix_of_length_le h'.toAdmits hle)
  · exact (h'.eq_of_longer h.toAdmits (h'.toAdmits.prefix_of_length_le h.toAdmits hle)).symm

end Matcher

/-! ## What is reported -/

/-- A match and its span have the same place, so that spans are as different as matches. -/
theorem nodup_spans (text : String) (hdistinct : (fs.map placeOf).Nodup)
    (hbounds : ∀ f ∈ fs, f.start ≤ f.stop ∧ f.stop ≤ text.toList.toArray.size) :
    ((fs.map (Matcher.spanOf (.ofString text))).map fun s =>
      (s.start, s.stop - s.start)).Nodup := by
  have hinj : ∀ i j, i ≤ text.toList.toArray.size → j ≤ text.toList.toArray.size →
      bytesBefore text i = bytesBefore text j → i = j := by
    intro i j hi hj heq
    rcases Nat.lt_trichotomy i j with hlt | hsame | hlt
    · exact absurd heq (Nat.ne_of_lt (bytesBefore_lt hlt hj))
    · exact hsame
    · exact absurd heq.symm (Nat.ne_of_lt (bytesBefore_lt hlt hi))
  rw [List.map_map]
  refine List.Nodup.map_on ?_ hdistinct.of_map
  intro f hf g hg heq
  obtain ⟨hle, hsize⟩ := hbounds f hf
  obtain ⟨hle', hsize'⟩ := hbounds g hg
  have hcovers := covers_spanOf text hle hsize
  have hcovers' := covers_spanOf text hle' hsize'
  obtain ⟨hstart, hlength⟩ := Prod.mk.inj heq
  rw [hcovers.start, hcovers'.start] at hstart hlength
  rw [hcovers.stop, hcovers'.stop] at hlength
  have hbytes := bytesBefore_le hle hsize
  have hbytes' := bytesBefore_le hle' hsize'
  have hstop : bytesBefore text f.stop = bytesBefore text g.stop := by omega
  refine List.inj_on_of_nodup_map hdistinct hf hg (Prod.ext ?_ ?_)
  · exact hinj _ _ (Nat.le_trans hle hsize) (Nat.le_trans hle' hsize') hstart
  · exact hinj _ _ hsize hsize' hstop

/-- **Every scan is bounded and repeats nothing**, whatever raw expressions the pattern has and
however large the limits are. The matches of a scan are the first answers of the searcher, up to the
first one that is no match, one match too many, or at a place that has come before; no other list of
matches is. There are at most as many as may be yielded, and at most as many as there are places in
the text, and no two of their spans have the same start and length. All that is reported is about
this one list of matches. -/
theorem scan_bounded {source : List Char} {limits : Limits}
    (hm : Matcher.compile source limits = .ok m ∨ Matcher.literal source limits = .ok m)
    (text : String) :
    m.limits = limits ∧ ∃ found ended, m.scan (.ofString text) = ⟨found, ended⟩ ∧
      m.Yields (.ofString text) found ended ∧
      (∀ found' ended', m.Yields (.ofString text) found' ended' → found' = found) ∧
      found.length ≤ min limits.maxMatches
        ((text.utf8ByteSize + 1) * (text.utf8ByteSize + 2) / 2) ∧
      ((m.spans (.ofString text)).map fun s => (s.start, s.stop - s.start)).Nodup ∧
      m.spans (.ofString text) = found.map (Matcher.spanOf (.ofString text)) ∧
      m.findAll (.ofString text) = found.map (m.classify (.ofString text)) ∧
      (m.isMatch (.ofString text) = true ↔ found ≠ []) ∧
      m.findFirst (.ofString text) = (found.head?.map (m.classify (.ofString text))).getD {} := by
  obtain ⟨expr, captures, hbuild⟩ := build_of_compiled hm
  obtain ⟨rfl, hmethod⟩ := of_build hbuild
  have hyields := scan_yields hmethod (.ofString text)
  have hsize : text.toList.length ≤ text.utf8ByteSize := length_le_utf8ByteSize text
  cases hscan : m.scan (.ofString text) with
  | mk found ended =>
    rw [hscan] at hyields
    have hspans : m.spans (.ofString text) = found.map (Matcher.spanOf (.ofString text)) := by
      unfold Matcher.spans
      rw [hscan]
    have hall : m.findAll (.ofString text) = found.map (m.classify (.ofString text)) := by
      unfold Matcher.findAll
      rw [hscan]
    refine ⟨rfl, found, ended, rfl, hyields, fun found' ended' h => hyields.unique h,
      le_min hyields.room ?_, ?_, hspans, hall, ?_, ?_⟩
    · refine Nat.le_trans (hyields.toAdmits.length_le hmethod) (Nat.div_le_div_right ?_)
      exact Nat.mul_le_mul (Nat.succ_le_succ hsize) (Nat.add_le_add_right hsize 2)
    · rw [hspans]
      exact nodup_spans text hyields.distinct fun f hf => hyields.toAdmits.bounds hmethod hf
    · unfold Matcher.isMatch
      rw [hscan, Bool.not_eq_true', List.isEmpty_eq_false_iff]
    · unfold Matcher.findFirst
      rw [hall, List.head?_map]

/-- Behind the first `a`, the lookbehind leads back to it, and so the same match comes again. -/
theorem scan_bounded_kept : ∃ m, Matcher.compile "REGEX((?<=\\Ka))".toList {} = .ok m ∧
    m.spans (.ofString "éaa") = [⟨2, 3, "a"⟩] ∧
    (m.scan (.ofString "éaa")).ended = .repeated 2 ∧
    ∃ found ended, m.scan (.ofString "éaa") = ⟨found, ended⟩ ∧
      m.Yields (.ofString "éaa") found ended ∧ found.length ≤ min 50 ((4 + 1) * (4 + 2) / 2) := by
  have hrun : (Matcher.compile "REGEX((?<=\\Ka))".toList {}).map
      (fun m => (m.spans (.ofString "éaa"), (m.scan (.ofString "éaa")).ended))
        = .ok ([⟨2, 3, "a"⟩], .repeated 2) := by cbv
  obtain ⟨m, hm, hresults⟩ := map_eq_ok_iff.mp hrun
  obtain ⟨hspans, hended⟩ := Prod.mk.inj hresults
  obtain ⟨-, found, ended, hscan, hyields, -, hlength, -⟩ := scan_bounded (.inl hm) "éaa"
  exact ⟨m, hm, hspans, hended, found, ended, hscan, hyields, hlength⟩

end CodeShape.Pattern
