import CodeShape.Proofs.Pattern.Composition
import CodeShape.Proofs.Pattern.Layout
import CodeShape.Proofs.Pattern.Padding

/-!
# Texts laid out anew

A text whose runs of blanks are written otherwise (`Respaced`) is padded in the same places, since no
word begins with a blank and none ends at one, but for strings that hold blanks (`Steady`). So it is
split into the same segments, and only the blanks at its end may come or go (`splitBlanks_respaced`).
-/

namespace CodeShape.Pattern

variable {last : Bool} {cs ds cs' ds' : List Char} {c : Char}
  {next? : List Char → Option (List Char × List Char)}

/-- Nothing but blanks. -/
def AllBlank (cs : List Char) : Prop :=
  ∀ c ∈ cs, Unicode.isBlank c = true

theorem AllBlank.setOff (h : AllBlank cs) : SetOff cs :=
  fun c hc => h c (List.mem_of_mem_head? hc)

theorem AllBlank.setOff_append (h : AllBlank cs) (hne : cs ≠ []) (ds : List Char) :
    SetOff (cs ++ ds) := by
  cases cs with
  | nil => exact absurd rfl hne
  | cons c cs => exact setOff_cons (h c List.mem_cons_self)

/-- The second text is the first one with runs of blanks written otherwise. None comes or goes, unless
at the end, where `last` allows it. -/
inductive Respaced (last : Bool) : List Char → List Char → Prop
  | ends {bs bs' : List Char} (hbs : AllBlank bs) (hbs' : AllBlank bs')
      (hlast : last = false → bs = [] ∧ bs' = []) : Respaced last bs bs'
  | char {cs ds : List Char} (c : Char) (h : Respaced last cs ds) :
      Respaced last (c :: cs) (c :: ds)
  | run {bs bs' cs ds : List Char} (hbs : AllBlank bs) (hbs' : AllBlank bs') (hne : bs ≠ [])
      (hne' : bs' ≠ []) (h : Respaced last cs ds) : Respaced last (bs ++ cs) (bs' ++ ds)

namespace Respaced

theorem nil : Respaced last [] [] :=
  .ends nofun nofun fun _ => ⟨rfl, rfl⟩

theorem refl : ∀ cs : List Char, Respaced last cs cs
  | [] => nil
  | c :: cs => char c (refl cs)

theorem symm (h : Respaced last cs ds) : Respaced last ds cs := by
  induction h with
  | ends hbs hbs' hlast => exact .ends hbs' hbs fun h => (hlast h).symm
  | char c _ ih => exact .char c ih
  | run hbs hbs' hne hne' _ ih => exact .run hbs' hbs hne' hne ih

theorem append (h : Respaced false cs ds) (h' : Respaced last cs' ds') :
    Respaced last (cs ++ cs') (ds ++ ds') := by
  induction h with
  | ends _ _ hlast =>
    obtain ⟨rfl, rfl⟩ := hlast rfl
    exact h'
  | char c _ ih => exact .char c ih
  | run hbs hbs' hne hne' _ ih =>
    rw [List.append_assoc, List.append_assoc]
    exact .run hbs hbs' hne hne' ih

/-- Both texts begin with a blank, or neither does. -/
theorem setOff (h : Respaced last cs ds) (hcs : SetOff cs) : SetOff ds := by
  cases h with
  | ends _ hbs' _ => exact hbs'.setOff
  | char c h => exact setOff_cons (hcs c rfl)
  | run _ hbs' _ hne' _ => exact hbs'.setOff_append hne' _

/-- A character that is not blank stands in both texts. -/
theorem cons_left (h : Respaced last (c :: cs) ds) (hc : Unicode.isBlank c = false) :
    ∃ ds', ds = c :: ds' ∧ Respaced last cs ds' := by
  have hnot : ∀ {bs : List Char}, AllBlank bs → c ∉ bs := fun hbs hmem =>
    Bool.eq_false_iff.mp hc (hbs c hmem)
  generalize hxs : c :: cs = xs at h
  cases h with
  | ends hbs _ _ => exact absurd (hxs ▸ List.mem_cons_self) (hnot hbs)
  | char _ h =>
    cases hxs
    exact ⟨_, rfl, h⟩
  | @run bs _ _ _ hbs _ hne _ _ =>
    cases bs with
    | nil => exact absurd rfl hne
    | cons b bs =>
      obtain ⟨rfl, -⟩ := List.cons.inj hxs
      exact absurd List.mem_cons_self (hnot hbs)

/-- A text that is given but for its end, in which there is no blank, stands in both texts. -/
theorem append_left {word : List Char} (hword : ∀ c ∈ word, Unicode.isBlank c = false)
    (h : Respaced last (word ++ cs) ds) : ∃ ds', ds = word ++ ds' ∧ Respaced last cs ds' := by
  induction word generalizing ds with
  | nil => exact ⟨ds, rfl, h⟩
  | cons c word ih =>
    obtain ⟨hc, hword⟩ := List.forall_mem_cons.mp hword
    obtain ⟨ds, rfl, hrest⟩ := h.cons_left hc
    obtain ⟨ds', rfl, hafter⟩ := ih hword hrest
    exact ⟨ds', rfl, hafter⟩

theorem mem_left (h : Respaced last cs ds) (hc : Unicode.isBlank c = false) (hmem : c ∈ cs) :
    c ∈ ds := by
  induction h with
  | ends hbs _ _ => exact absurd (hbs c hmem) (Bool.eq_false_iff.mp hc)
  | char d _ ih =>
    rcases List.mem_cons.mp hmem with rfl | hmem
    · exact List.mem_cons_self
    · exact List.mem_cons_of_mem d (ih hmem)
  | run hbs _ _ _ _ ih =>
    rcases List.mem_append.mp hmem with hmem | hmem
    · exact absurd (hbs c hmem) (Bool.eq_false_iff.mp hc)
    · exact List.mem_append_right _ (ih hmem)

/-- What stands before and behind a character that is not blank is laid out anew by itself. -/
theorem split_left {inside after : List Char} (hc : Unicode.isBlank c = false)
    (h : Respaced last (inside ++ c :: after) ds) :
    ∃ inside' after', ds = inside' ++ c :: after' ∧ Respaced false inside inside' ∧
      Respaced last after after' := by
  have hnot : ∀ {bs : List Char}, AllBlank bs → c ∉ bs := fun hbs hmem =>
    Bool.eq_false_iff.mp hc (hbs c hmem)
  generalize hxs : inside ++ c :: after = xs at h
  induction h generalizing inside with
  | ends hbs _ _ =>
    refine absurd ?_ (hnot hbs)
    rw [← hxs]
    exact List.mem_append_right _ List.mem_cons_self
  | @char xs ds d h ih =>
    cases inside with
    | nil =>
      obtain ⟨rfl, rfl⟩ := List.cons.inj hxs
      exact ⟨[], ds, rfl, nil, h⟩
    | cons e inside =>
      obtain ⟨rfl, hrest⟩ := List.cons.inj hxs
      obtain ⟨inside', after', rfl, hinside, hafter⟩ := ih hrest
      exact ⟨e :: inside', after', rfl, .char e hinside, hafter⟩
  | @run bs bs' xs ds hbs hbs' hne hne' h ih =>
    -- the character is in no run of blanks, and so the run ends before it
    obtain ⟨inside₁, hinside⟩ : bs <+: inside := by
      rcases List.append_eq_append_iff.mp hxs with ⟨more, hbs', hmore⟩ | ⟨more, hinside, -⟩
      · cases more with
        | nil => exact ⟨[], by rw [hbs', List.append_nil, List.append_nil]⟩
        | cons e more =>
          obtain ⟨rfl, -⟩ := List.cons.inj hmore
          refine absurd ?_ (hnot hbs)
          rw [hbs']
          exact List.mem_append_right _ List.mem_cons_self
      · exact ⟨more, hinside.symm⟩
    rw [← hinside, List.append_assoc, List.append_cancel_left_eq] at hxs
    obtain ⟨inside', after', rfl, hfront, hafter⟩ := ih hxs
    refine ⟨bs' ++ inside', after', (List.append_assoc ..).symm, ?_, hafter⟩
    rw [← hinside]
    exact .run hbs hbs' hne hne' hfront

/-- What goes on over no blank goes on as far in both texts. -/
theorem takeWhile_dropWhile {p : Char → Bool} (hp : ∀ c, Unicode.isBlank c = true → p c = false)
    (h : Respaced last cs ds) :
    cs.takeWhile p = ds.takeWhile p ∧ Respaced last (cs.dropWhile p) (ds.dropWhile p) := by
  have hstop : ∀ {cs : List Char}, SetOff cs → cs.takeWhile p = [] ∧ cs.dropWhile p = cs := by
    intro cs hcs
    cases cs with
    | nil => exact ⟨rfl, rfl⟩
    | cons c cs =>
      have hc := Bool.eq_false_iff.mp (hp c (hcs c rfl))
      exact ⟨List.takeWhile_cons_of_neg hc, List.dropWhile_cons_of_neg hc⟩
  have hstops : ∀ {cs ds : List Char}, Respaced last cs ds → SetOff cs →
      cs.takeWhile p = ds.takeWhile p ∧ Respaced last (cs.dropWhile p) (ds.dropWhile p) := by
    intro cs ds h hcs
    rw [(hstop hcs).1, (hstop hcs).2, (hstop (h.setOff hcs)).1, (hstop (h.setOff hcs)).2]
    exact ⟨rfl, h⟩
  induction cs generalizing ds with
  | nil => exact hstops h nofun
  | cons c cs ih =>
    cases hblank : Unicode.isBlank c with
    | true => exact hstops h (setOff_cons hblank)
    | false =>
      obtain ⟨ds, rfl, hrest⟩ := h.cons_left hblank
      by_cases hc : p c = true
      · rw [List.takeWhile_cons_of_pos hc, List.takeWhile_cons_of_pos hc,
          List.dropWhile_cons_of_pos hc, List.dropWhile_cons_of_pos hc]
        obtain ⟨htake, hdrop⟩ := ih hrest
        exact ⟨congrArg (c :: ·) htake, hdrop⟩
      · rw [List.takeWhile_cons_of_neg hc, List.takeWhile_cons_of_neg hc,
          List.dropWhile_cons_of_neg hc, List.dropWhile_cons_of_neg hc]
        exact ⟨rfl, h⟩

/-- The blanks in front of both texts can be dropped. -/
theorem dropWhile_isBlank (h : Respaced last cs ds) :
    Respaced last (cs.dropWhile Unicode.isBlank) (ds.dropWhile Unicode.isBlank) := by
  induction h with
  | ends hbs hbs' _ =>
    rw [List.dropWhile_eq_nil_iff.mpr hbs, List.dropWhile_eq_nil_iff.mpr hbs']
    exact nil
  | char c h ih =>
    by_cases hc : Unicode.isBlank c = true
    · rw [List.dropWhile_cons_of_pos hc, List.dropWhile_cons_of_pos hc]
      exact ih
    · rw [List.dropWhile_cons_of_neg hc, List.dropWhile_cons_of_neg hc]
      exact .char c h
  | run hbs hbs' _ _ _ ih =>
    rw [List.dropWhile_append_of_pos hbs, List.dropWhile_append_of_pos hbs']
    exact ih

end Respaced

/-! ## Words -/

/-- What finds the words of a text finds the same ones in a text laid out anew, but for the blanks
inside them. None begins with a blank. -/
structure Steady (next? : List Char → Option (List Char × List Char)) : Prop where
  setOff {cs : List Char} (hcs : SetOff cs) : next? cs = none
  shorter {cs word after : List Char} (h : next? cs = some (word, after)) :
    after.length < cs.length
  respaced {last : Bool} {cs ds word after : List Char} (h : Respaced last cs ds)
    (hnext : next? cs = some (word, after)) :
    ∃ word' after', next? ds = some (word', after') ∧ Respaced false word word' ∧
      Respaced last after after'

theorem Steady.none_of_respaced (hnext : Steady next?) (h : Respaced last cs ds)
    (hnone : next? cs = none) : next? ds = none := by
  cases hds : next? ds with
  | none => rfl
  | some split =>
    obtain ⟨word, after, hcs, -⟩ := hnext.respaced h.symm hds
    rw [hnone] at hcs
    cases hcs

/-- A blank is no part of a word, unless of a string. -/
theorem not_word_of_isBlank (hc : Unicode.isBlank c = true) :
    isIdentifierChar c = false ∧ Unicode.isDigit c = false ∧ Unicode.isWord c = false ∧
      isBoundary c = false ∧ c ∉ ['.', '-', '"', '\'', '\x60', '/'] := by
  have hall : ∀ n ∈ Grammar.blankCodes, isIdentifierChar (Char.ofNat n) = false ∧
      Unicode.isDigit (Char.ofNat n) = false ∧ Unicode.isWord (Char.ofNat n) = false ∧
      isBoundary (Char.ofNat n) = false ∧
      Char.ofNat n ∉ ['.', '-', '"', '\'', '\x60', '/'] := by
    decide +kernel
  have h := hall c.toNat (Grammar.mem_blankCodes hc)
  rwa [Char.ofNat_toNat] at h

theorem steady_run? {starts goesOn : Char → Bool}
    (hstarts : ∀ c, Unicode.isBlank c = true → starts c = false)
    (hgoesOn : ∀ c, Unicode.isBlank c = true → goesOn c = false) : Steady (run? starts goesOn) where
  setOff {cs} hcs := by
    cases hnext : run? starts goesOn cs with
    | none => rfl
    | some split =>
      obtain ⟨c, rest, rfl, hc, -⟩ := run?_eq_some_iff.mp hnext
      rw [hstarts c (hcs c rfl)] at hc
      cases hc
  shorter {cs word after} h := by
    obtain ⟨c, rest, rfl, -, -, rfl⟩ := run?_eq_some_iff.mp h
    exact Nat.lt_succ_of_le (length_dropWhile_le _ _)
  respaced {last cs ds word after} h hnext := by
    obtain ⟨c, rest, rfl, hc, rfl, rfl⟩ := run?_eq_some_iff.mp hnext
    have hblank : Unicode.isBlank c = false := by
      cases hblank : Unicode.isBlank c with
      | false => rfl
      | true =>
        rw [hstarts c hblank] at hc
        cases hc
    obtain ⟨ds, rfl, hrest⟩ := h.cons_left hblank
    obtain ⟨htake, hdrop⟩ := hrest.takeWhile_dropWhile hgoesOn
    refine ⟨_, _, run?_eq_some_iff.mpr ⟨c, ds, rfl, hc, rfl, rfl⟩, ?_, hdrop⟩
    rw [htake]
    exact .refl _

theorem steady_identifier? : Steady identifier? := by
  rw [identifier?_eq_run?]
  refine steady_run? (fun c hc => ?_) fun c hc => (not_word_of_isBlank hc).1
  cases hstart : isIdentifierStart c with
  | false => rfl
  | true =>
    have hchar := Grammar.isIdentifierChar_of_isIdentifierStart hstart
    rw [(not_word_of_isBlank hc).1] at hchar
    cases hchar

theorem steady_unsigned? : Steady unsigned? := by
  rw [unsigned?_eq_run?]
  refine steady_run? (fun c hc => (not_word_of_isBlank hc).2.1) fun c hc => ?_
  obtain ⟨-, -, hword, -, hsign⟩ := not_word_of_isBlank hc
  rw [hword, Bool.false_or, beq_eq_false_iff_ne]
  intro hdot
  exact hsign (hdot ▸ List.mem_cons_self)

theorem steady_number? : Steady number? where
  setOff {cs} hcs := by
    unfold number?
    split
    next rest =>
      obtain ⟨-, -, -, -, hsign⟩ := not_word_of_isBlank (hcs '-' rfl)
      exact absurd (by decide) hsign
    next => exact steady_unsigned?.setOff hcs
  shorter {cs word after} h := by
    rcases number?_eq_some h with hdigits | ⟨rest, digits, rfl, rfl, hdigits⟩
    · exact steady_unsigned?.shorter hdigits
    · exact Nat.lt_succ_of_lt (steady_unsigned?.shorter hdigits)
  respaced {last cs ds word after} h hnext := by
    unfold number? at hnext
    split at hnext
    next rest =>
      obtain ⟨⟨digits, after'⟩, hdigits, heq⟩ := Option.map_eq_some_iff.mp hnext
      cases heq
      obtain ⟨ds, rfl, hrest⟩ := h.cons_left (by decide)
      obtain ⟨digits', after', hdigits', hword, hafter⟩ := steady_unsigned?.respaced hrest hdigits
      exact ⟨'-' :: digits', after', by rw [number?, hdigits']; rfl, .char '-' hword, hafter⟩
    next hsign =>
      obtain ⟨word', after', hword', hword, hafter⟩ := steady_unsigned?.respaced h hnext
      refine ⟨word', after', ?_, hword, hafter⟩
      unfold number?
      split
      next rest => cases hword'
      next => exact hword'

theorem steady_delimited? {delimiter : Char} (hd : Unicode.isBlank delimiter = false) :
    Steady (delimited? delimiter) where
  setOff {cs} hcs := by
    cases hnext : delimited? delimiter cs with
    | none => rfl
    | some split =>
      obtain ⟨inside, -, -, rfl⟩ := delimited?_eq_some_iff.mp hnext
      rw [hcs delimiter rfl] at hd
      cases hd
  shorter {cs word after} h := by
    obtain ⟨inside, -, -, rfl⟩ := delimited?_eq_some_iff.mp h
    simp only [List.length_cons, List.length_append]
    omega
  respaced {last cs ds word after} h hnext := by
    obtain ⟨inside, hinside, rfl, rfl⟩ := delimited?_eq_some_iff.mp hnext
    obtain ⟨ds, rfl, hrest⟩ := h.cons_left hd
    obtain ⟨inside', after', rfl, hin, hafter⟩ := hrest.split_left hd
    refine ⟨_, after', delimited?_eq_some_iff.mpr ⟨inside', ?_, rfl, rfl⟩, ?_, hafter⟩
    · exact fun hmem => hinside (hin.symm.mem_left hd hmem)
    · exact .char delimiter (hin.append (.refl _))

theorem steady_word? {word : List Char} (hne : word ≠ [])
    (hword : ∀ c ∈ word, Unicode.isBlank c = false) : Steady (word? word) := by
  refine ⟨fun {cs} hcs => ?_, fun {cs found after} h => ?_, fun {last cs ds found after} h hnext => ?_⟩
  · cases hnext : word? word cs with
    | none => rfl
    | some split =>
      obtain ⟨-, rfl⟩ := word?_eq_some_iff.mp hnext
      cases word with
      | nil => exact absurd rfl hne
      | cons c word =>
        have hc := hword c List.mem_cons_self
        rw [hcs c rfl] at hc
        cases hc
  · obtain ⟨-, rfl⟩ := word?_eq_some_iff.mp h
    rw [List.length_append]
    have := List.length_pos_iff.mpr hne
    omega
  · obtain ⟨rfl, rfl⟩ := word?_eq_some_iff.mp hnext
    obtain ⟨after', rfl, hafter⟩ := h.append_left hword
    exact ⟨found, after', word?_eq_some_iff.mpr ⟨rfl, rfl⟩, .refl _, hafter⟩

/-- The first of some that find a word is steady if all of them are. -/
theorem steady_findSome? {readers : List (List Char → Option (List Char × List Char))}
    (h : ∀ read ∈ readers, Steady read) : Steady fun cs => readers.findSome? (· cs) := by
  induction readers with
  | nil => exact ⟨fun _ => rfl, nofun, nofun⟩
  | cons read readers ih =>
    obtain ⟨hread, hreaders⟩ := List.forall_mem_cons.mp h
    have hrest := ih hreaders
    have hsome {cs : List Char} {split : List Char × List Char}
        (hnext : (read :: readers).findSome? (· cs) = some split) :
        read cs = some split ∨ read cs = none ∧ readers.findSome? (· cs) = some split := by
      rw [List.findSome?_cons] at hnext
      cases hcs : read cs with
      | none =>
        rw [hcs] at hnext
        exact .inr ⟨rfl, hnext⟩
      | some first =>
        rw [hcs] at hnext
        exact .inl hnext
    refine ⟨fun {cs} hcs => ?_, fun {cs word after} h => ?_, fun {last cs ds word after} h hnext => ?_⟩
    · rw [List.findSome?_cons, hread.setOff hcs]
      exact hrest.setOff hcs
    · rcases hsome h with hfirst | ⟨-, hlater⟩
      · exact hread.shorter hfirst
      · exact hrest.shorter hlater
    · rcases hsome hnext with hfirst | ⟨hnone, hlater⟩
      · obtain ⟨word', after', hfirst', hword, hafter⟩ := hread.respaced h hfirst
        exact ⟨word', after', by rw [List.findSome?_cons, hfirst'], hword, hafter⟩
      · obtain ⟨word', after', hlater', hword, hafter⟩ := hrest.respaced h hlater
        refine ⟨word', after', ?_, hword, hafter⟩
        rw [List.findSome?_cons, hread.none_of_respaced h hnone]
        exact hlater'

theorem steady_literal? : Steady literal? := by
  refine steady_findSome? fun read hread => ?_
  rcases List.mem_append.mp hread with hread | hread
  · simp only [List.mem_cons, List.not_mem_nil, or_false] at hread
    rcases hread with rfl | rfl | rfl | rfl | rfl
    · exact steady_delimited? (by decide)
    · exact steady_delimited? (by decide)
    · exact steady_delimited? (by decide)
    · exact steady_number?
    · exact steady_delimited? (by decide)
  · obtain ⟨w, hw, rfl⟩ := List.mem_map.mp hread
    have hall : ∀ w ∈ Grammar.literalKeywords, w.toList ≠ [] ∧ w.toList.all Char.isAlpha = true := by
      decide
    obtain ⟨hne, hletters⟩ := hall w hw
    refine steady_word? hne fun c hc => ?_
    cases hblank : Unicode.isBlank c with
    | false => rfl
    | true =>
      have hletter := List.all_eq_true.mp hletters c hc
      rw [(not_mem_of_isBlank hblank).1] at hletter
      cases hletter

/-! ## Padding -/

theorem padWords_some {word after : List Char} (h : next? cs = some (word, after))
    (hlt : after.length < cs.length) :
    padWords next? cs = setApart word ++ padWords next? after := by
  cases cs with
  | nil => cases hlt
  | cons c cs =>
    rw [padWords, h]
    exact dif_pos hlt

theorem padWords_none (h : next? (c :: cs) = none) :
    padWords next? (c :: cs) = c :: padWords next? cs := by
  rw [padWords, h]

/-- Blanks are left as they are. -/
theorem padWords_blanks {bs : List Char} (hnext : Steady next?) (hbs : AllBlank bs) (cs : List Char) :
    padWords next? (bs ++ cs) = bs ++ padWords next? cs := by
  induction bs with
  | nil => rfl
  | cons b bs ih =>
    obtain ⟨hb, hbs⟩ := List.forall_mem_cons.mp hbs
    rw [List.cons_append, padWords_none (hnext.setOff (setOff_cons hb)), ih hbs]
    rfl

/-- A text laid out anew is padded in the same places. -/
theorem Respaced.padWords (hnext : Steady next?) (h : Respaced last cs ds) :
    Respaced last (padWords next? cs) (padWords next? ds) := by
  induction hlen : cs.length using Nat.strong_induction_on generalizing cs ds with
  | _ n ih =>
    cases h with
    | ends hbs hbs' hlast =>
      have hleft := padWords_blanks hnext hbs []
      have hright := padWords_blanks hnext hbs' []
      rw [List.append_nil, Pattern.padWords, List.append_nil] at hleft hright
      rw [hleft, hright]
      exact .ends hbs hbs' hlast
    | @char cs ds c h =>
      subst hlen
      cases hfound : next? (c :: cs) with
      | none =>
        rw [padWords_none hfound, padWords_none (hnext.none_of_respaced (.char c h) hfound)]
        exact .char c (ih _ (Nat.lt_succ_self _) h rfl)
      | some split =>
        obtain ⟨word, after⟩ := split
        obtain ⟨word', after', hfound', hword, hafter⟩ := hnext.respaced (.char c h) hfound
        have hlt := hnext.shorter hfound
        rw [padWords_some hfound hlt, padWords_some hfound' (hnext.shorter hfound')]
        exact (Respaced.char ' ' (hword.append (.refl _))).append (ih _ hlt hafter rfl)
    | @run bs bs' cs ds hbs hbs' hne hne' h =>
      rw [padWords_blanks hnext hbs, padWords_blanks hnext hbs']
      have hlt : cs.length < n := by
        have hpos := List.length_pos_iff.mpr hne
        rw [List.length_append] at hlen
        omega
      exact .run hbs hbs' hne hne' (ih _ hlt h rfl)

/-- Without brackets and semicolons, nothing is set apart by the last pass. -/
theorem flatMap_setApart_of_none (h : ∀ c ∈ cs, isBoundary c = false) :
    (cs.flatMap fun c => if isBoundary c then setApart [c] else [c]) = cs := by
  induction cs with
  | nil => rfl
  | cons c cs ih =>
    obtain ⟨hc, hcs⟩ := List.forall_mem_cons.mp h
    rw [List.flatMap_cons, ih hcs, hc]
    rfl

/-- No blank stands by itself as brackets do. -/
theorem flatMap_setApart_blanks {bs : List Char} (hbs : AllBlank bs) :
    (bs.flatMap fun c => if isBoundary c then setApart [c] else [c]) = bs :=
  flatMap_setApart_of_none fun c hc => (not_word_of_isBlank (hbs c hc)).2.2.2.1

/-- Blanks in front of a text stay there. -/
theorem pad_blanks {bs : List Char} (hbs : AllBlank bs) (cs : List Char) :
    pad (bs ++ cs) = bs ++ pad cs := by
  unfold pad
  rw [padWords_blanks steady_identifier? hbs, padWords_blanks steady_literal? hbs,
    List.flatMap_append, flatMap_setApart_blanks hbs]

theorem Respaced.pad (h : Respaced last cs ds) : Respaced last (pad cs) (pad ds) := by
  have hwords := (h.padWords steady_identifier?).padWords steady_literal?
  unfold Pattern.pad
  generalize Pattern.padWords literal? (Pattern.padWords identifier? cs) = xs at hwords ⊢
  generalize Pattern.padWords literal? (Pattern.padWords identifier? ds) = ys at hwords ⊢
  induction hwords with
  | ends hbs hbs' hlast =>
    rw [flatMap_setApart_blanks hbs, flatMap_setApart_blanks hbs']
    exact .ends hbs hbs' hlast
  | char c _ ih => exact (Respaced.refl _).append ih
  | run hbs hbs' hne hne' _ ih =>
    rw [List.flatMap_append, List.flatMap_append, flatMap_setApart_blanks hbs,
      flatMap_setApart_blanks hbs']
    exact .run hbs hbs' hne hne' ih

/-! ## Segments -/

/-- A run of blanks is one gap, with whatever blanks follow it. -/
theorem splitBlanks_blanks {bs : List Char} (hbs : AllBlank bs) (hne : bs ≠ []) (cs : List Char) :
    splitBlanks (bs ++ cs) = .space :: splitBlanks (cs.dropWhile Unicode.isBlank) := by
  cases bs with
  | nil => exact absurd rfl hne
  | cons b bs =>
    obtain ⟨hb, hbs⟩ := List.forall_mem_cons.mp hbs
    rw [List.cons_append, splitBlanks, if_pos hb, List.dropWhile_append_of_pos hbs]

theorem splitBlanks_allBlank {bs : List Char} (hbs : AllBlank bs) :
    ∃ p, splitBlanks bs = gapIf p ∧ (p = false ↔ bs = []) := by
  cases bs with
  | nil => exact ⟨false, by rw [splitBlanks]; rfl, by simp⟩
  | cons b bs =>
    refine ⟨true, ?_, by simp⟩
    have h := splitBlanks_blanks hbs (List.cons_ne_nil b bs) []
    rw [List.append_nil] at h
    rw [h, List.dropWhile_nil, splitBlanks]
    rfl

/-- **A text laid out anew has the same segments**, with or without a gap at the end if blanks came or
went there. -/
theorem splitBlanks_respaced (h : Respaced last cs ds) : ∃ segs p q,
    splitBlanks cs = segs ++ gapIf p ∧ splitBlanks ds = segs ++ gapIf q ∧
      (last = false → p = q) := by
  induction hlen : cs.length using Nat.strong_induction_on generalizing cs ds with
  | _ n ih =>
    -- behind a run of blanks the same segments follow, in which the blanks that follow it are not
    have hrun : ∀ {bs bs' xs ys : List Char}, AllBlank bs → AllBlank bs' → bs ≠ [] → bs' ≠ [] →
        Respaced last xs ys → (bs ++ xs).length = n → ∃ segs p q,
          splitBlanks (bs ++ xs) = segs ++ gapIf p ∧ splitBlanks (bs' ++ ys) = segs ++ gapIf q ∧
            (last = false → p = q) := by
      intro bs bs' xs ys hbs hbs' hne hne' hrest hlen
      have hlt : (xs.dropWhile Unicode.isBlank).length < n := by
        have hpos := List.length_pos_iff.mpr hne
        have hle := length_dropWhile_le Unicode.isBlank xs
        rw [List.length_append] at hlen
        omega
      obtain ⟨segs, p, q, hp, hq, hlast⟩ := ih _ hlt hrest.dropWhile_isBlank rfl
      rw [splitBlanks_blanks hbs hne, splitBlanks_blanks hbs' hne', hp, hq]
      exact ⟨.space :: segs, p, q, rfl, rfl, hlast⟩
    cases h with
    | @ends bs bs' hbs hbs' hlast =>
      obtain ⟨p, hp, hpnil⟩ := splitBlanks_allBlank hbs
      obtain ⟨q, hq, hqnil⟩ := splitBlanks_allBlank hbs'
      refine ⟨[], p, q, hp, hq, fun h => ?_⟩
      obtain ⟨hnil, hnil'⟩ := hlast h
      rw [hpnil.mpr hnil, hqnil.mpr hnil']
    | @char cs ds c hrest =>
      by_cases hc : Unicode.isBlank c = true
      · have hone : AllBlank [c] := List.forall_mem_singleton.mpr hc
        exact hrun hone hone (List.cons_ne_nil _ _) (List.cons_ne_nil _ _) hrest hlen
      · have hstop : ∀ d, Unicode.isBlank d = true → (!Unicode.isBlank d) = false := by
          intro d hd
          rw [hd]
          rfl
        obtain ⟨htake, hdrop⟩ := hrest.takeWhile_dropWhile hstop
        have hlt : (cs.dropWhile fun d => !Unicode.isBlank d).length < n := by
          have hle := length_dropWhile_le (fun d => !Unicode.isBlank d) cs
          rw [List.length_cons] at hlen
          omega
        obtain ⟨segs, p, q, hp, hq, hlast⟩ := ih _ hlt hdrop rfl
        rw [splitBlanks, if_neg hc, splitBlanks, if_neg hc]
        dsimp only
        rw [htake, hp, hq]
        exact ⟨_ :: segs, p, q, rfl, rfl, hlast⟩
    | run hbs hbs' hne hne' hrest => exact hrun hbs hbs' hne hne' hrest hlen

end CodeShape.Pattern
