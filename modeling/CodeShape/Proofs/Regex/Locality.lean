import CodeShape.Proofs.Regex.Lexemes

/-!
# What follows a closing parenthesis

Nothing that is read reaches beyond a closing parenthesis: what has been found at the front of a text
is found there too when a parenthesis and whatever else follows (`lex_append`). There are two
exceptions, and both need a text that ends within something that is skipped. A line comment would go
on behind the parenthesis; and where a comment is not closed, a brace before it may be an ordinary
character rather than the beginning of the limits of a repetition. `EndsWell` excludes them: reading
on comes to the end without an error, and blanks are not skipped there.
-/

namespace CodeShape.Regex

variable {cs ds front rest more : List Char} {c : Char}

/-! ## Characters and numbers -/

/-- What ends at a character is found whatever follows it. -/
theorem span_append {p : Char → Bool} (h : cs.span p = (front, c :: rest)) (more : List Char) :
    (cs ++ more).span p = (front, c :: (rest ++ more)) := by
  obtain ⟨rfl, hfront, hc⟩ := span_eq_cons_iff.mp h
  exact span_eq_cons_iff.mpr ⟨List.append_assoc .., hfront, hc⟩

theorem takeWhile_append_stop {p : Char → Bool} (hc : p c = false) (cs more : List Char) :
    (cs ++ c :: more).takeWhile p = cs.takeWhile p ∧
      (cs ++ c :: more).dropWhile p = cs.dropWhile p ++ c :: more := by
  induction cs with
  | nil => simp [hc]
  | cons d cs ih =>
    by_cases hd : p d = true
    · simp [hd, ih]
    · simp [hd]

theorem readDecimal?_append (cs more : List Char) :
    readDecimal? (cs ++ ')' :: more)
      = (readDecimal? cs).map fun found => (found.1, found.2 ++ ')' :: more) := by
  obtain ⟨htake, hdrop⟩ := takeWhile_append_stop (p := Char.isDigit) (c := ')') rfl cs more
  unfold readDecimal?
  rw [htake, hdrop]
  dsimp only
  split <;> rfl

theorem Reader.readName_append_of_ok {stop : Char} {name : List Char}
    (h : readName stop cs = .ok (name, rest)) (more : List Char) :
    readName stop (cs ++ more) = .ok (name, rest ++ more) := by
  obtain ⟨rfl, hname⟩ := readName_ok_iff.mp h
  exact readName_ok_iff.mpr ⟨List.append_assoc .., hname⟩

theorem readCharacterCode_append {width : Nat} {d : Char}
    (h : readCharacterCode width cs = .ok (d, rest)) (more : List Char) :
    readCharacterCode width (cs ++ more) = .ok (d, rest ++ more) := by
  unfold readCharacterCode at h
  dsimp only at h
  split at h
  next hwidth =>
    have hle : width ≤ cs.length := by
      have hlen := (Bool.and_eq_true .. ▸ hwidth).1
      simp only [List.length_take, decide_eq_true_eq] at hlen
      omega
    unfold readCharacterCode
    rw [List.take_append_of_le_length hle, List.drop_append_of_le_length hle, if_pos hwidth]
    dsimp only
    split at h
    · cases h
      rfl
    · cases h
  next hwidth =>
    split at h
    next inside =>
      split at h
      next digits rest' hspan =>
        -- the brace is no digit, and so it is in braces whatever follows
        have hbrace : ¬ ((('{' :: (inside ++ more)).take width).length = width &&
            (('{' :: (inside ++ more)).take width).all (Text.isDigitIn 16)) = true := by
          cases width with
          | zero => exact absurd rfl hwidth
          | succ width =>
            rw [List.take_succ_cons, List.all_cons, show Text.isDigitIn 16 '{' = false from rfl]
            simp
        rw [List.cons_append, readCharacterCode, if_neg hbrace, span_append hspan]
        split at h
        next => cases h
        next hlen =>
          refine (if_neg hlen).trans ?_
          split at h
          next hcode =>
            cases h
            simp only [hcode]
          next => cases h
      next => cases h
    next => cases h

theorem readProperty_append {negated ignoreCase : Bool} {s : CharSet}
    (h : readProperty negated ignoreCase cs = .ok (s, rest)) (more : List Char) :
    readProperty negated ignoreCase (cs ++ more) = .ok (s, rest ++ more) := by
  obtain ⟨name, t, hnames, hproperty⟩ := readProperty_ok_iff.mp h
  refine readProperty_ok_iff.mpr ⟨name, t, ?_, hproperty⟩
  cases hnames with
  | braces hname =>
    rw [List.cons_append, List.append_assoc]
    exact .braces hname
  | char hc => exact .char hc

theorem readEscape_append {ignoreCase : Bool} {e : Escaped}
    (h : readEscape ignoreCase cs = .ok (e, rest)) (more : List Char) :
    readEscape ignoreCase (cs ++ more) = .ok (e, rest ++ more) := by
  cases cs with
  | nil => cases h
  | cons c cs =>
    rw [List.cons_append]
    unfold readEscape at h ⊢
    dsimp only at h ⊢
    have hnumber (width : Nat)
        (h : (readCharacterCode width cs >>= fun found => .ok (.char found.1, found.2))
          = Except.ok (e, rest)) :
        (readCharacterCode width (cs ++ more) >>= fun found => .ok (.char found.1, found.2))
          = Except.ok (e, rest ++ more) := by
      obtain ⟨⟨d, rest'⟩, hd, heq⟩ := bind_eq_ok_iff.mp h
      cases heq
      rw [readCharacterCode_append hd]
      rfl
    have hproperty (negated : Bool)
        (h : (readProperty negated ignoreCase cs >>= fun found => .ok (.set found.1, found.2))
          = Except.ok (e, rest)) :
        (readProperty negated ignoreCase (cs ++ more) >>= fun found => .ok (.set found.1, found.2))
          = Except.ok (e, rest ++ more) := by
      obtain ⟨⟨s, rest'⟩, hs, heq⟩ := bind_eq_ok_iff.mp h
      cases heq
      rw [readProperty_append hs]
      rfl
    split at h
    next => exact hnumber 2 h
    next => exact hnumber 4 h
    next => exact hnumber 8 h
    next => exact hproperty _ h
    next => exact hproperty _ h
    next =>
      split at h
      · cases h
        rfl
      · cases h
        rfl
      · split at h
        · cases h
        next hletter =>
          cases h
          exact if_neg hletter

/-! ## Classes -/

namespace Bracket

theorem readClassEscape_append {ignoreCase : Bool} {e : Escaped}
    (h : readClassEscape ignoreCase cs = .ok (e, rest)) (more : List Char) :
    readClassEscape ignoreCase (cs ++ more) = .ok (e, rest ++ more) := by
  unfold readClassEscape at h
  split at h
  next => cases h; rfl
  next c cs hb =>
    rw [List.cons_append, readClassEscape]
    · split at h
      next hletter =>
        cases h
        rw [if_pos hletter]
      next hletter =>
        rw [if_neg hletter]
        exact readEscape_append h more
    · exact hb
  next => cases h

/-- A class is scanned up to its end, whatever follows and however much fuel there is. -/
theorem scanFrom_append {ignoreCase : Bool} {fuel fuel' depth : Nat} {items items' : List Item}
    (hfuel : fuel ≤ fuel') (h : scanFrom ignoreCase fuel depth items cs = .ok (items', rest))
    (more : List Char) :
    scanFrom ignoreCase fuel' depth items (cs ++ more) = .ok (items', rest ++ more) := by
  fun_induction scanFrom ignoreCase fuel depth items cs generalizing fuel' with
  | case1 => cases h
  | case2 => cases h
  | case3 fuel depth items cs ih =>
    obtain ⟨⟨e, rest'⟩, he, hscan⟩ := bind_eq_ok_iff.mp h
    obtain ⟨fuel', rfl⟩ := Nat.exists_eq_succ_of_ne_zero (by omega : fuel' ≠ 0)
    rw [List.cons_append, scanFrom, readClassEscape_append he]
    exact ih e rest' (by omega) hscan
  | case4 fuel depth items cs ih =>
    obtain ⟨fuel', rfl⟩ := Nat.exists_eq_succ_of_ne_zero (by omega : fuel' ≠ 0)
    exact ih (by omega) h
  | case5 fuel items cs =>
    obtain ⟨fuel', rfl⟩ := Nat.exists_eq_succ_of_ne_zero (by omega : fuel' ≠ 0)
    cases h
    rfl
  | case6 fuel depth items cs hdepth ih =>
    obtain ⟨fuel', rfl⟩ := Nat.exists_eq_succ_of_ne_zero (by omega : fuel' ≠ 0)
    rw [List.cons_append, scanFrom, if_neg hdepth]
    exact ih (by omega) h
  | case7 fuel depth items c cs hbackslash hopen hclose ih =>
    obtain ⟨fuel', rfl⟩ := Nat.exists_eq_succ_of_ne_zero (by omega : fuel' ≠ 0)
    rw [List.cons_append, scanFrom]
    · exact ih (by omega) h
    · exact hbackslash
    · exact hopen
    · exact hclose

theorem scan_append {ignoreCase : Bool} {items : List Item}
    (h : scan ignoreCase cs = .ok (items, rest)) (more : List Char) :
    scan ignoreCase (cs ++ more) = .ok (items, rest ++ more) := by
  have hfuel : cs.length + 1 ≤ (cs ++ more).length + 1 := by
    rw [List.length_append]
    omega
  unfold scan at h
  split at h
  next front cs' heq =>
    split at heq
    next =>
      cases heq
      exact scanFrom_append hfuel h more
    next =>
      cases heq
      exact scanFrom_append hfuel h more
    next hcomplement hmember =>
      cases heq
      -- how a class begins does not depend on what follows it
      obtain ⟨text, hcs, htext⟩ := scanFrom_enclosed h
      have hfront (front : List Char) (hfront : front = [']'] ∨ front = ['^', ']'])
          (hpre : front <+: cs ++ more) : front <+: cs := by
        rw [hcs, List.append_assoc] at hpre
        exact (htext.prefix_of_append hfront hpre).trans ⟨rest, hcs.symm⟩
      rw [scan]
      · exact scanFrom_append hfuel h more
      · intro tail htail
        obtain ⟨back, hback⟩ := hfront _ (.inr rfl) ⟨tail, htail.symm⟩
        exact hcomplement back hback.symm
      · intro tail htail
        obtain ⟨back, hback⟩ := hfront _ (.inl rfl) ⟨tail, htail.symm⟩
        exact hmember back hback.symm

end Bracket

/-! ## Skipping -/

/-- What begins in front of a parenthesis ends in front of it, unless it holds one. -/
theorem prefix_of_append_close (hfront : ')' ∉ front) (h : front <+: cs ++ ')' :: more) :
    front <+: cs := by
  rcases Nat.le_total front.length cs.length with hle | hle
  · exact List.prefix_of_prefix_length_le h (List.prefix_append _ _) hle
  · obtain ⟨back, hback⟩ := List.prefix_of_prefix_length_le (List.prefix_append cs _) h hle
    cases back with
    | nil => exact ⟨[], by rw [← hback, List.append_nil, List.append_nil]⟩
    | cons c back =>
      obtain ⟨tail, htail⟩ := h
      rw [← hback, List.append_assoc, List.append_cancel_left_eq] at htail
      exact absurd (by rw [← hback, (List.cons.inj htail).1]; simp) hfront

theorem skipping_append {spaced : Bool} {mode : Skipping} (hmode : mode = .line → spaced = true)
    (h : skipBlanks spaced mode cs = .ok ds) (hend : ds = [] → spaced = false)
    (more : List Char) :
    skipBlanks spaced mode (cs ++ ')' :: more) = .ok (ds ++ ')' :: more) := by
  fun_induction skipBlanks spaced mode cs with
  | case1 rest ih => exact ih (by rintro ⟨⟩) h
  | case2 rest hspaced ih =>
    rw [List.cons_append, skipBlanks, if_pos hspaced]
    exact ih (fun _ => hspaced) h
  | case3 rest hspaced =>
    cases h
    rw [List.cons_append, skipBlanks, if_neg hspaced]
  | case4 c rest hcomment hhash hblank ih =>
    rw [List.cons_append, skipBlanks, if_pos hblank]
    · exact ih (by rintro ⟨⟩) h
    · rintro tail rfl
      exact absurd hblank (by simp)
    · exact hhash
  | case5 c rest hcomment hhash hblank =>
    cases h
    rw [List.cons_append, skipBlanks, if_neg hblank]
    · intro tail hc htail
      have hfront : ['?', '#'] <+: rest := prefix_of_append_close (by decide) ⟨tail, htail.symm⟩
      obtain ⟨back, hback⟩ := hfront
      exact hcomment back hc hback.symm
    · exact hhash
  | case6 c rest ih =>
    rw [List.cons_append, skipBlanks]
    exact ih (fun _ => hmode rfl) h
  | case7 rest ih => exact ih (by rintro ⟨⟩) h
  | case8 c rest ih => exact ih (by rintro ⟨⟩) h
  | case9 c rest hclose hbackslash ih =>
    cases rest with
    | nil => cases h
    | cons d rest =>
      rw [List.cons_append, skipBlanks]
      · exact ih (by rintro ⟨⟩) h
      · exact hclose
      · exact fun _ _ hc _ => hbackslash d rest hc rfl
  | case10 => cases h
  -- the text ends here, which is well only if blanks are not ignored
  | case11 mode hcomment =>
    cases h
    have hspaced := hend rfl
    cases mode with
    | blanks => rw [List.nil_append, skipBlanks, hspaced] <;> simp
    | line => rw [hspaced] at hmode; cases hmode rfl
    | comment => exact absurd rfl hcomment

theorem skipBlanks_append {spaced : Bool} (h : skipBlanks spaced .blanks cs = .ok ds)
    (hend : ds = [] → spaced = false) (more : List Char) :
    skipBlanks spaced .blanks (cs ++ ')' :: more) = .ok (ds ++ ')' :: more) := by
  have hmode : Skipping.blanks = .line → spaced = true := nofun
  exact skipping_append hmode h hend more

/-- What is left when blanks have been skipped is skipped no more. -/
theorem skipBlanks_idem {spaced : Bool} {mode : Skipping}
    (h : skipBlanks spaced mode cs = .ok ds) : skipBlanks spaced .blanks ds = .ok ds := by
  fun_induction skipBlanks spaced mode cs with
  | case1 rest ih => exact ih h
  | case2 rest hspaced ih => exact ih h
  | case3 rest hspaced =>
    cases h
    rw [skipBlanks, if_neg hspaced]
  | case4 c rest hcomment hhash hblank ih => exact ih h
  | case5 c rest hcomment hhash hblank =>
    cases h
    rw [skipBlanks, if_neg hblank]
    · exact hcomment
    · exact hhash
  | case6 c rest ih => exact ih h
  | case7 rest ih => exact ih h
  | case8 c rest ih => exact ih h
  | case9 c rest hclose hbackslash ih => exact ih h
  | case10 => cases h
  | case11 => cases h; rw [skipBlanks]; rintro ⟨⟩

/-! ## Lexemes -/

theorem lexReference_append {stop : Char} {a : Lexeme} (h : lexReference stop cs = .ok (a, rest))
    (more : List Char) : lexReference stop (cs ++ more) = .ok (a, rest ++ more) := by
  unfold lexReference at h
  split at h
  next tail =>
    obtain ⟨⟨name, rest'⟩, hname, h⟩ := bind_eq_ok_iff.mp h
    rw [List.cons_append, lexReference, Reader.readName_append_of_ok hname]
    dsimp only at h
    obtain ⟨n, hn⟩ : ∃ n, readDecimal? name = some (n, []) := by
      split at h
      next n hn => exact ⟨n, hn⟩
      next => cases h
    rw [hn] at h
    cases h
    refine bind_eq_ok_iff.mpr ⟨(name, _), rfl, ?_⟩
    dsimp only
    rw [hn]
    rfl
  next hminus =>
    obtain ⟨⟨name, rest'⟩, hname, h⟩ := bind_eq_ok_iff.mp h
    cases h
    rw [lexReference, Reader.readName_append_of_ok hname]
    · rfl
    · intro tail htail
      cases cs with
      | nil => cases hname
      | cons c cs => exact hminus cs (by rw [(List.cons.inj htail).1])

theorem lexName_append {a : Lexeme} (h : lexName cs = .ok (a, rest)) (more : List Char) :
    lexName (cs ++ more) = .ok (a, rest ++ more) := by
  obtain ⟨⟨name, rest'⟩, hname, h⟩ := bind_eq_ok_iff.mp h
  cases h
  rw [lexName, Reader.readName_append_of_ok hname]
  rfl

theorem lexFlags_append {f : Flags} {letters : Nat} {negated : Bool} {last : Char} {a : Lexeme}
    (h : lexFlags f letters negated last cs = .ok (a, rest)) (more : List Char) :
    lexFlags f letters negated last (cs ++ more) = .ok (a, rest ++ more) := by
  fun_induction lexFlags f letters negated last cs with
  | case1 | case2 | case4 | case6 | case9 => cases h
  | case3 f letters negated last tail hlast =>
    cases h
    rw [List.cons_append, lexFlags, if_neg hlast]
  | case5 f letters negated last tail hlast =>
    cases h
    rw [List.cons_append, lexFlags, if_neg hlast]
  | case7 f letters negated last tail hnegated ih =>
    rw [List.cons_append, lexFlags, if_neg hnegated]
    exact ih h
  | case8 f letters negated last c tail hclose hcolon hminus f' hset ih =>
    rw [List.cons_append, lexFlags]
    · rw [hset]
      exact ih h
    · exact hclose
    · exact hcolon
    · exact hminus

/-- What does not begin in front of a parenthesis does not begin there with what follows. -/
theorem not_begins_append (front : List Char) (hfront : ')' ∉ front)
    (h : ∀ tail, cs = front ++ tail → False) :
    ∀ tail, cs ++ ')' :: more = front ++ tail → False := by
  intro tail htail
  obtain ⟨back, hback⟩ := prefix_of_append_close hfront ⟨tail, htail.symm⟩
  exact h back hback.symm

theorem lexBackslash_append {f : Flags} {len len' : Nat} (hlen : len ≤ len') {a : Lexeme}
    (h : lexBackslash f len cs = .ok (a, rest)) (more : List Char) :
    lexBackslash f len' (cs ++ ')' :: more) = .ok (a, rest ++ ')' :: more) := by
  unfold lexBackslash at h
  split at h
  case h_2 | h_3 => exact lexReference_append h _
  case h_9 hb =>
    cases h
    rw [List.cons_append, lexBackslash]
    exact not_begins_append ['{'] (by decide) hb
  case h_10 hB =>
    cases h
    rw [List.cons_append, lexBackslash]
    exact not_begins_append ['{'] (by decide) hB
  case h_15 c cs _ _ hk _ _ _ _ hb hB _ _ _ _ =>
    rw [List.cons_append, lexBackslash]
    · by_cases hdigit : c.isDigit = true
      · rw [if_pos hdigit] at h ⊢
        rw [← List.cons_append, readDecimal?_append]
        split at h
        next g rest' hg =>
          split at h
          next hlt =>
            cases h
            rw [hg]
            exact if_pos (Nat.lt_of_lt_of_le hlt (Nat.div_le_div_right hlen))
          next => cases h
        next => cases h
      · rw [if_neg hdigit] at h ⊢
        obtain ⟨⟨e, rest'⟩, he, h⟩ := bind_eq_ok_iff.mp h
        cases h
        rw [← List.cons_append, readEscape_append he]
        rfl
    all_goals first
      | assumption
      | exact fun _ hc _ => hk hc
      | exact fun _ hc _ => hb hc
      | exact fun _ hc _ => hB hc
  all_goals
    cases h
    try rfl

theorem lexOpening_append {f : Flags} {a : Lexeme} (h : lexOpening f cs = .ok (a, rest))
    (more : List Char) : lexOpening f (cs ++ ')' :: more) = .ok (a, rest ++ ')' :: more) := by
  unfold lexOpening at h
  split at h
  case h_5 tail hahead hbehind =>
    rw [List.cons_append, List.cons_append, lexOpening]
    · exact lexName_append h _
    · exact not_begins_append ['='] (by decide) hahead
    · exact not_begins_append ['!'] (by decide) hbehind
  case h_6 => exact lexName_append h _
  case h_7 => exact lexReference_append h _
  case h_9 tail hahead hnotAhead hbehind hnotBehind hname hPname hPref hatomic =>
    rw [List.cons_append, lexOpening]
    · exact lexFlags_append h _
    · exact not_begins_append ['='] (by decide) hahead
    · exact not_begins_append ['!'] (by decide) hnotAhead
    · exact not_begins_append ['<', '='] (by decide) hbehind
    · exact not_begins_append ['<', '!'] (by decide) hnotBehind
    · exact not_begins_append ['<'] (by decide) hname
    · exact not_begins_append ['P', '<'] (by decide) hPname
    · exact not_begins_append ['P', '='] (by decide) hPref
    · exact not_begins_append ['>'] (by decide) hatomic
  case h_10 hmark =>
    cases h
    have hnone : ∀ tail, cs ++ ')' :: more = ['?'] ++ tail → False :=
      not_begins_append ['?'] (by decide) hmark
    rw [lexOpening]
    all_goals exact fun tail htail => hnone _ htail
  all_goals
    cases h
    rfl

/-- The lexeme leaves the flags as they are. -/
def Lexeme.keepsFlags : Lexeme → Bool
  | flags _ | parens _ | close => false
  | chars _ | assert _ | keepOut | searchStart | reference _ | group _ | atomic | look .. | bar
  | quantifier .. => true

theorem lexItem_append {f : Flags} {len len' : Nat} (hlen : len ≤ len') {a : Lexeme}
    (h : lexItem f len c cs = .ok (a, rest))
    (hend : a.keepsFlags = true → rest = [] → f.spaced = false)
    (more : List Char) : lexItem f len' c (cs ++ ')' :: more) = .ok (a, rest ++ ')' :: more) := by
  unfold lexItem at h
  split at h
  case h_4 =>
    obtain ⟨ds, hds, h⟩ := bind_eq_ok_iff.mp h
    have hnil : ds = [] → f.spaced = false := by
      rintro rfl
      cases h
      exact hend rfl rfl
    rw [lexItem, skipBlanks_append hds hnil]
    exact lexOpening_append h more
  case h_7 => exact lexBackslash_append hlen h more
  case h_8 =>
    obtain ⟨⟨items, rest'⟩, hscan, h⟩ := bind_eq_ok_iff.mp h
    obtain ⟨set, hread, h⟩ := bind_eq_ok_iff.mp h
    cases h
    rw [lexItem, Bracket.scan_append hscan]
    change (do return (Lexeme.chars (← Bracket.read f.ignoreCase items), _)) = _
    rw [hread]
    rfl
  case h_12 =>
    cases h
    rw [lexItem]
    all_goals assumption
  all_goals
    cases h
    try rfl

theorem splitMark_append {mark : Char} (hmark : mark ≠ ')') (cs more : List Char) :
    splitMark mark (cs ++ ')' :: more)
      = ((splitMark mark cs).1, (splitMark mark cs).2 ++ ')' :: more) := by
  cases cs with
  | nil => exact if_neg hmark.symm
  | cons c cs =>
    rw [List.cons_append, splitMark, splitMark]
    split <;> rfl

theorem lexQuantifier_append {f : Flags} {limits : Nat × Option Nat} {a : Lexeme}
    (h : lexQuantifier f limits cs = .ok (a, rest)) (hend : rest = [] → f.spaced = false)
    (more : List Char) :
    lexQuantifier f limits (cs ++ ')' :: more) = .ok (a, rest ++ ')' :: more) := by
  obtain ⟨ds, hds, h⟩ := bind_eq_ok_iff.mp h
  cases h
  have hnil : ds = [] → f.spaced = false := by
    rintro rfl
    exact hend rfl
  have hopt := splitMark_append (show '?' ≠ ')' by decide) ds more
  have hplus := splitMark_append (show '+' ≠ ')' by decide) (splitMark '?' ds).2 more
  simp only [lexQuantifier, skipBlanks_append hds hnil, bind, Except.bind, hopt, hplus]
  rfl

/-! ## Limits -/

/-- The lower limit of a repetition; without a number before the comma it is 0. -/
def lowerLimit? (cs : List Char) : Option (Nat × List Char) :=
  match cs with
  | ',' :: _ => some (0, cs)
  | _ => readDecimal? cs

/-- The upper limit of a repetition, if there is one. -/
def upperLimit (cs : List Char) : Option Nat × List Char :=
  match readDecimal? cs with
  | some (hi, rest) => (some hi, rest)
  | none => (none, cs)

theorem lowerLimit?_append (cs more : List Char) :
    lowerLimit? (cs ++ ')' :: more)
      = (lowerLimit? cs).map fun found => (found.1, found.2 ++ ')' :: more) := by
  unfold lowerLimit?
  split
  next tail heq =>
    cases cs with
    | nil => cases heq
    | cons c cs =>
      obtain ⟨rfl, -⟩ := List.cons.inj heq
      rfl
  next hcomma =>
    rw [readDecimal?_append]
    split
    next tail => exact absurd rfl (hcomma _)
    next => rfl

theorem upperLimit_append (cs more : List Char) :
    upperLimit (cs ++ ')' :: more) = ((upperLimit cs).1, (upperLimit cs).2 ++ ')' :: more) := by
  unfold upperLimit
  rw [readDecimal?_append]
  cases readDecimal? cs <;> rfl

/-- The limits of a repetition stand there: the parts of them, one after the other, each behind what
is skipped before it. -/
inductive LimitsAt (spaced : Bool) (cs : List Char) : Nat × Option Nat → List Char → Prop where
  | one {lower ds rest : List Char} {lo : Nat}
      (hlower : skipBlanks spaced .blanks cs = .ok lower) (hlo : lowerLimit? lower = some (lo, ds))
      (hclose : skipBlanks spaced .blanks ds = .ok ('}' :: rest)) :
      LimitsAt spaced cs (lo, some lo) rest
  | two {lower ds es upper rest : List Char} {lo : Nat}
      (hlower : skipBlanks spaced .blanks cs = .ok lower) (hlo : lowerLimit? lower = some (lo, ds))
      (hcomma : skipBlanks spaced .blanks ds = .ok (',' :: es))
      (hupper : skipBlanks spaced .blanks es = .ok upper)
      (hclose : skipBlanks spaced .blanks (upperLimit upper).2 = .ok ('}' :: rest)) :
      LimitsAt spaced cs (lo, (upperLimit upper).1) rest

theorem toOption_eq_some {α : Type} {x : Except Fault α} {a : α} :
    x.toOption = some a ↔ x = .ok a := by
  cases x with
  | error => exact iff_of_false nofun nofun
  | ok b => exact ⟨fun h => by cases h; rfl, fun h => by cases h; rfl⟩

/-- The limits of a repetition from behind the lower one on. -/
def readUpper? (f : Flags) (lo : Nat) (cs : List Char) :
    Option ((Nat × Option Nat) × List Char) := do
  match ← (skipBlanks f.spaced .blanks cs).toOption with
  | '}' :: rest => some ((lo, some lo), rest)
  | ',' :: rest =>
    let upper := upperLimit (← (skipBlanks f.spaced .blanks rest).toOption)
    match ← (skipBlanks f.spaced .blanks upper.2).toOption with
    | '}' :: rest => some ((lo, upper.1), rest)
    | _ => none
  | _ => none

theorem readLimits?_eq (f : Flags) (cs : List Char) :
    ({ flags := f } : Reader).readLimits? cs = (do
      let found ← lowerLimit? (← (skipBlanks f.spaced .blanks cs).toOption)
      readUpper? f found.1 found.2) := by
  unfold Reader.readLimits?
  refine bind_congr fun lower => ?_
  split
  next => rfl
  next hcomma =>
    rw [lowerLimit?]
    · rfl
    · exact hcomma

theorem readLimits?_eq_some_iff {f : Flags} {limits : Nat × Option Nat} :
    ({ flags := f } : Reader).readLimits? cs = some (limits, rest) ↔
      LimitsAt f.spaced cs limits rest := by
  rw [readLimits?_eq]
  constructor
  · intro h
    obtain ⟨lower, hlower, h⟩ := Option.bind_eq_some_iff.mp h
    obtain ⟨⟨lo, ds⟩, hlo, h⟩ := Option.bind_eq_some_iff.mp h
    obtain ⟨close, hclose, h⟩ := Option.bind_eq_some_iff.mp h
    have hlower := toOption_eq_some.mp hlower
    have hclose := toOption_eq_some.mp hclose
    split at h
    next =>
      cases h
      exact .one hlower hlo hclose
    next es =>
      obtain ⟨upper, hupper, h⟩ := Option.bind_eq_some_iff.mp h
      obtain ⟨close, hend, h⟩ := Option.bind_eq_some_iff.mp h
      have hupper := toOption_eq_some.mp hupper
      have hend := toOption_eq_some.mp hend
      split at h
      next =>
        cases h
        exact .two hlower hlo hclose hupper hend
      next => cases h
    next => cases h
  · intro h
    cases h with
    | one hlower hlo hclose =>
      simp only [hlower, hlo, hclose, readUpper?, Except.toOption, Option.bind_eq_bind,
        Option.bind_some]
    | two hlower hlo hcomma hupper hclose =>
      simp only [hlower, hlo, hcomma, hupper, hclose, readUpper?, Except.toOption,
        Option.bind_eq_bind, Option.bind_some]

/-! ## What is left -/

theorem Skims.suffix (h : Skims cs rest) : rest <:+ cs := by
  obtain ⟨front, rfl, -⟩ := h
  exact List.suffix_append front rest

theorem skipping_suffix {spaced : Bool} {mode : Skipping}
    (h : skipBlanks spaced mode cs = .ok ds) : ds <:+ cs := by
  fun_induction skipBlanks spaced mode cs with
  | case1 rest ih => exact (ih h).trans ⟨['(', '?', '#'], rfl⟩
  | case2 rest _ ih => exact (ih h).trans (List.suffix_cons _ _)
  | case3 => cases h; exact List.suffix_rfl
  | case4 c rest _ _ _ ih => exact (ih h).trans (List.suffix_cons _ _)
  | case5 => cases h; exact List.suffix_rfl
  | case6 c rest ih => exact (ih h).trans (List.suffix_cons _ _)
  | case7 rest ih => exact (ih h).trans (List.suffix_cons _ _)
  | case8 c rest ih => exact (ih h).trans ⟨['\\', c], rfl⟩
  | case9 c rest _ _ ih => exact (ih h).trans (List.suffix_cons _ _)
  | case10 => cases h
  | case11 => cases h; exact List.suffix_rfl

theorem lowerLimit?_suffix {lo : Nat} (h : lowerLimit? cs = some (lo, rest)) : rest <:+ cs := by
  unfold lowerLimit? at h
  split at h
  · cases h
    exact List.suffix_rfl
  · exact (readDecimal?_skims h).suffix

theorem upperLimit_suffix (cs : List Char) : (upperLimit cs).2 <:+ cs := by
  unfold upperLimit
  split
  next hi rest h => exact (readDecimal?_skims h).suffix
  next => exact List.suffix_rfl

theorem LimitsAt.suffix {spaced : Bool} {limits : Nat × Option Nat}
    (h : LimitsAt spaced cs limits rest) : rest <:+ cs := by
  cases h with
  | one hlower hlo hclose =>
    have hds := (lowerLimit?_suffix hlo).trans (skipping_suffix hlower)
    exact (List.suffix_cons _ _).trans ((skipping_suffix hclose).trans hds)
  | two hlower hlo hcomma hupper hclose =>
    have hds := (lowerLimit?_suffix hlo).trans (skipping_suffix hlower)
    have hes := (List.suffix_cons _ _).trans ((skipping_suffix hcomma).trans hds)
    have hlimit := (upperLimit_suffix _).trans ((skipping_suffix hupper).trans hes)
    exact (List.suffix_cons _ _).trans ((skipping_suffix hclose).trans hlimit)

theorem lexReference_suffix {stop : Char} {a : Lexeme}
    (h : lexReference stop cs = .ok (a, rest)) : rest <:+ cs := by
  have hname {cs name rest : List Char} (h : Reader.readName stop cs = .ok (name, rest)) :
      rest <:+ cs := by
    obtain ⟨rfl, -⟩ := Reader.readName_eq h
    exact (List.suffix_cons _ _).trans (List.suffix_append _ _)
  unfold lexReference at h
  split at h
  next =>
    obtain ⟨⟨name, rest'⟩, hread, h⟩ := bind_eq_ok_iff.mp h
    dsimp only at h
    split at h
    next =>
      cases h
      exact (hname hread).trans (List.suffix_cons _ _)
    next => cases h
  next =>
    obtain ⟨⟨name, rest'⟩, hread, h⟩ := bind_eq_ok_iff.mp h
    cases h
    exact hname hread

theorem lexName_suffix {a : Lexeme} (h : lexName cs = .ok (a, rest)) : rest <:+ cs := by
  obtain ⟨⟨name, rest'⟩, hread, h⟩ := bind_eq_ok_iff.mp h
  cases h
  obtain ⟨rfl, -⟩ := Reader.readName_eq hread
  exact (List.suffix_cons _ _).trans (List.suffix_append _ _)

theorem lexFlags_suffix {f : Flags} {letters : Nat} {negated : Bool} {last : Char} {a : Lexeme}
    (h : lexFlags f letters negated last cs = .ok (a, rest)) : rest <:+ cs := by
  fun_induction lexFlags f letters negated last cs with
  | case1 | case2 | case4 | case6 | case9 => cases h
  | case3 | case5 => cases h; exact List.suffix_cons _ _
  | case7 _ _ _ _ _ _ ih => exact (ih h).trans (List.suffix_cons _ _)
  | case8 _ _ _ _ _ _ _ _ _ _ _ ih => exact (ih h).trans (List.suffix_cons _ _)

theorem lexBackslash_suffix {f : Flags} {len : Nat} {a : Lexeme}
    (h : lexBackslash f len cs = .ok (a, rest)) : rest <:+ cs := by
  unfold lexBackslash at h
  split at h
  case h_2 | h_3 => exact (lexReference_suffix h).trans ⟨[_, _], rfl⟩
  case h_15 c cs _ _ _ _ _ _ _ _ _ _ _ _ _ =>
    split at h
    · split at h
      next g rest' hg =>
        split at h
        · cases h
          exact (readDecimal?_skims hg).suffix
        · cases h
      next => cases h
    · obtain ⟨⟨e, rest'⟩, he, h⟩ := bind_eq_ok_iff.mp h
      cases h
      exact (readEscape_skims he).suffix.trans (List.suffix_cons _ _)
  all_goals
    cases h
    try exact List.suffix_cons _ _

theorem lexOpening_suffix {f : Flags} {a : Lexeme} (h : lexOpening f cs = .ok (a, rest)) :
    rest <:+ cs := by
  unfold lexOpening at h
  split at h
  case h_5 => exact (lexName_suffix h).trans ⟨['?', '<'], rfl⟩
  case h_6 => exact (lexName_suffix h).trans ⟨['?', 'P', '<'], rfl⟩
  case h_7 => exact (lexReference_suffix h).trans ⟨['?', 'P', '='], rfl⟩
  case h_9 => exact (lexFlags_suffix h).trans ⟨['?'], rfl⟩
  case h_1 | h_2 | h_8 => cases h; exact ⟨['?', _], rfl⟩
  case h_3 | h_4 => cases h; exact ⟨['?', '<', _], rfl⟩
  case h_10 => cases h; exact List.suffix_rfl

theorem lexItem_suffix {f : Flags} {len : Nat} {a : Lexeme}
    (h : lexItem f len c cs = .ok (a, rest)) : rest <:+ cs := by
  unfold lexItem at h
  split at h
  case h_4 =>
    obtain ⟨ds, hds, h⟩ := bind_eq_ok_iff.mp h
    exact (lexOpening_suffix h).trans (skipping_suffix hds)
  case h_7 => exact lexBackslash_suffix h
  case h_8 =>
    obtain ⟨⟨items, rest'⟩, hscan, h⟩ := bind_eq_ok_iff.mp h
    obtain ⟨set, hread, h⟩ := bind_eq_ok_iff.mp h
    cases h
    obtain ⟨text, rfl, -⟩ := Bracket.scan_class hscan
    exact List.suffix_append text _
  all_goals
    cases h
    try exact List.suffix_rfl

theorem splitMark_suffix (mark : Char) (cs : List Char) : (splitMark mark cs).2 <:+ cs := by
  unfold splitMark
  split
  · exact List.suffix_rfl
  · split
    · exact List.suffix_cons _ _
    · exact List.suffix_rfl

theorem lexQuantifier_suffix {f : Flags} {limits : Nat × Option Nat} {a : Lexeme}
    (h : lexQuantifier f limits cs = .ok (a, rest)) : rest <:+ cs := by
  obtain ⟨ds, hds, h⟩ := bind_eq_ok_iff.mp h
  cases h
  exact (splitMark_suffix _ _).trans ((splitMark_suffix _ _).trans (skipping_suffix hds))

/-- A quantifier of one character, or limits in braces. -/
theorem readQuantifier?_cases {f : Flags} {limits : Nat × Option Nat}
    (h : ({ flags := f } : Reader).readQuantifier? (c :: cs) = some (limits, rest)) :
    (rest = cs ∧ c ≠ '{' ∧
        ∀ ds, ({ flags := f } : Reader).readQuantifier? (c :: ds) = some (limits, ds)) ∨
      c = '{' ∧ LimitsAt f.spaced cs limits rest := by
  unfold Reader.readQuantifier? at h
  split at h
  next heq => cases heq; cases h; exact .inl ⟨rfl, by decide, fun _ => rfl⟩
  next heq => cases heq; cases h; exact .inl ⟨rfl, by decide, fun _ => rfl⟩
  next heq => cases heq; cases h; exact .inl ⟨rfl, by decide, fun _ => rfl⟩
  next heq => cases heq; exact .inr ⟨rfl, readLimits?_eq_some_iff.mp h⟩
  next => cases h

theorem lex_suffix {f : Flags} {quantifiable : Bool} {len : Nat} {a : Lexeme}
    (h : lex f quantifiable len c cs = .ok (a, rest)) : rest <:+ cs := by
  unfold lex at h
  split at h
  next limits ds hquant =>
    rcases readQuantifier?_cases hquant with ⟨rfl, -⟩ | ⟨-, hlimits⟩
    · exact lexQuantifier_suffix h
    · exact (lexQuantifier_suffix h).trans hlimits.suffix
  next => exact lexItem_suffix h

/-! ## Texts whose reading ends well -/

/-- Reading the text with the given flags comes to its end, where blanks are not skipped. -/
def EndsWell (f : Flags) (cs : List Char) : Prop :=
  ∃ len fuel r t, r.flags = f ∧ cs.length < fuel ∧ Reader.run len fuel r cs = .ok t ∧
    t.flags.spaced = false

theorem Reader.openLevel_flags {r s : Reader} {o : Opening} (h : r.openLevel o = .ok s) :
    s.flags = r.flags := by
  obtain ⟨-, rfl⟩ := openLevel_ok_iff.mp h
  exact settle_flags r

theorem Reader.take_flags {r s : Reader} {a : Lexeme} (ha : a.keepsFlags = true)
    (h : r.take a = .ok s) : s.flags = r.flags := by
  cases a with
  | chars | assert | keepOut | searchStart | bar =>
    cases h
    exact settle_flags r
  | group name =>
    change r.openGroup name = .ok s at h
    have hflags := openLevel_flags h
    exact hflags
  | atomic => exact openLevel_flags (o := .atomic) h
  | look side negated => exact openLevel_flags (o := .look side negated) h
  | reference target =>
    obtain ⟨g, b, -, rfl⟩ := refer_ok h
    exact settle_flags r
  | quantifier lo hi greedy possessive =>
    obtain ⟨e, -, -, -, rfl⟩ := repeatPending_ok_iff.mp h
    rfl
  | flags | parens | close => cases ha

namespace EndsWell

variable {f : Flags}

theorem of_run {len fuel : Nat} {r t : Reader} (h : Reader.run len fuel r cs = .ok t)
    (hfuel : cs.length < fuel) (ht : t.flags.spaced = false) : EndsWell r.flags cs :=
  ⟨len, fuel, r, t, rfl, hfuel, h, ht⟩

theorem not_spaced (h : EndsWell f []) : f.spaced = false := by
  obtain ⟨len, fuel, r, t, rfl, hfuel, hrun, ht⟩ := h
  obtain ⟨fuel, rfl⟩ := Nat.exists_eq_succ_of_ne_zero (Nat.ne_zero_of_lt hfuel)
  rcases Reader.run_succ_ok_iff.mp hrun with ⟨-, rfl⟩ | ⟨c, ds, _, _, _, hskip, -⟩
  · exact ht
  · have hlen := (skipping_suffix hskip).length_le
    simp at hlen

/-- What is skipped ends. -/
theorem skip (h : EndsWell f cs) :
    ∃ ds, skipBlanks f.spaced .blanks cs = .ok ds ∧ EndsWell f ds := by
  obtain ⟨len, fuel, r, t, rfl, hfuel, hrun, ht⟩ := h
  obtain ⟨fuel, rfl⟩ := Nat.exists_eq_succ_of_ne_zero (Nat.ne_zero_of_lt hfuel)
  have hcase := Reader.run_succ_ok_iff.mp hrun
  obtain ⟨ds, hds⟩ : ∃ ds, r.skip cs = .ok ds := by
    rcases hcase with ⟨hskip, -⟩ | ⟨_, _, _, _, _, hskip, -⟩
    · exact ⟨_, hskip⟩
    · exact ⟨_, hskip⟩
  have hagain : r.skip ds = .ok ds := skipBlanks_idem hds
  refine ⟨ds, hds, len, fuel + 1, r, t, rfl,
    Nat.lt_of_le_of_lt (skipping_suffix hds).length_le hfuel, ?_, ht⟩
  rw [← hrun, Reader.run, Reader.run, hds, hagain]

theorem skip_eq (h : EndsWell f cs) (hds : skipBlanks f.spaced .blanks cs = .ok ds) :
    EndsWell f ds := by
  obtain ⟨ds', hds', hend⟩ := h.skip
  obtain rfl : ds' = ds := Except.ok.inj (hds'.symm.trans hds)
  exact hend

/-- What is skipped does not reach a parenthesis behind the text. -/
theorem skip_append (h : EndsWell f cs)
    (hds : skipBlanks f.spaced .blanks (cs ++ ')' :: more) = .ok ds) :
    ∃ es, skipBlanks f.spaced .blanks cs = .ok es ∧ ds = es ++ ')' :: more ∧ EndsWell f es := by
  obtain ⟨es, hes, hend⟩ := h.skip
  refine ⟨es, hes, ?_, hend⟩
  rw [skipBlanks_append hes fun hnil => (hnil ▸ hend).not_spaced] at hds
  exact (Except.ok.inj hds).symm

/-- A digit and a comma stand for themselves where they are not part of limits. -/
theorem tail (h : EndsWell f (c :: cs)) (hc : c.isDigit = true ∨ c = ',') : EndsWell f cs := by
  obtain ⟨len, fuel, r, t, rfl, hfuel, hrun, ht⟩ := h
  obtain ⟨fuel, rfl⟩ := Nat.exists_eq_succ_of_ne_zero (Nat.ne_zero_of_lt hfuel)
  have hne (d : Char) (hdigit : d.isDigit = false) (hcomma : d ≠ ',') : c ≠ d := by
    rintro rfl
    rcases hc with hc | hc
    · rw [hdigit] at hc
      cases hc
    · exact hcomma hc
  -- no blank, comment or parenthesis begins with a digit or a comma, so nothing is skipped
  have hskip : r.skip (c :: cs) = .ok (c :: cs) := by
    unfold Reader.skip
    rw [skipBlanks, if_neg]
    · simp [hne ' ', hne '\r', hne '\n', hne '\t']
    · exact fun _ hparen _ => hne '(' (by decide) (by decide) hparen
    · exact hne '#' (by decide) (by decide)
  rcases Reader.run_succ_ok_iff.mp hrun with
    ⟨hnil, -⟩ | ⟨c', ds, a, s, rest, hread, hlex, hs, hgo⟩
  · rw [hskip] at hnil
    cases hnil
  · rw [hskip] at hread
    cases hread
    -- and no quantifier does
    have hquant : ({ flags := r.flags } : Reader).readQuantifier? (c :: cs) = none := by
      rw [Reader.readQuantifier?]
      · exact fun _ h => hne '?' (by decide) (by decide) (List.cons.inj h).1
      · exact fun _ h => hne '*' (by decide) (by decide) (List.cons.inj h).1
      · exact fun _ h => hne '+' (by decide) (by decide) (List.cons.inj h).1
      · exact fun _ h => hne '{' (by decide) (by decide) (List.cons.inj h).1
    unfold lex at hlex
    rw [hquant] at hlex
    have hitem : lexItem r.flags len c cs
        = .ok (.chars ((CharSet.single c).withCase r.flags.ignoreCase), cs) := by
      rw [lexItem]
      all_goals exact hne _ (by decide) (by decide)
    have hfound : (a, rest) = (.chars ((CharSet.single c).withCase r.flags.ignoreCase), cs) := by
      split at hlex
      · contradiction
      · exact Except.ok.inj (hlex.symm.trans hitem)
    obtain ⟨rfl, rfl⟩ := Prod.mk.inj hfound
    exact ⟨len, fuel, s, t, Reader.take_flags rfl hs, Nat.lt_of_succ_lt_succ hfuel, hgo, ht⟩

theorem readDecimal? {n : Nat} (h : EndsWell f cs) (hn : Regex.readDecimal? cs = some (n, rest)) :
    EndsWell f rest := by
  have hdigits (digits : List Char) (hall : ∀ d ∈ digits, d.isDigit = true)
      (h : EndsWell f (digits ++ rest)) : EndsWell f rest := by
    induction digits with
    | nil => exact h
    | cons d digits ih =>
      obtain ⟨hd, hall⟩ := List.forall_mem_cons.mp hall
      exact ih hall (h.tail (.inl hd))
  unfold Regex.readDecimal? at hn
  dsimp only at hn
  split at hn
  · cases hn
  · cases hn
    refine hdigits (cs.takeWhile Char.isDigit) (fun d hd => List.mem_takeWhile_imp hd) ?_
    rwa [List.takeWhile_append_dropWhile]

theorem lowerLimit? {lo : Nat} (h : EndsWell f cs) (hlo : Regex.lowerLimit? cs = some (lo, rest)) :
    EndsWell f rest := by
  unfold Regex.lowerLimit? at hlo
  split at hlo
  · cases hlo
    exact h
  · exact h.readDecimal? hlo

theorem upperLimit (h : EndsWell f cs) : EndsWell f (Regex.upperLimit cs).2 := by
  unfold Regex.upperLimit
  split
  next hi rest hhi => exact h.readDecimal? hhi
  next => exact h

end EndsWell

/-! ## Limits before a parenthesis -/

theorem LimitsAt.append {spaced : Bool} {limits : Nat × Option Nat}
    (h : LimitsAt spaced cs limits rest) (more : List Char) :
    LimitsAt spaced (cs ++ ')' :: more) limits (rest ++ ')' :: more) := by
  have hlower {lower ds : List Char} {lo : Nat} (hlo : lowerLimit? lower = some (lo, ds)) :
      lower = [] → spaced = false := by
    rintro rfl
    cases hlo
  cases h with
  | one hlower' hlo hclose =>
    exact .one (skipBlanks_append hlower' (hlower hlo) more)
      (by rw [lowerLimit?_append, hlo]; rfl) (skipBlanks_append hclose (by rintro ⟨⟩) more)
  | @two lower ds es upper _ lo hlower' hlo hcomma hupper hclose =>
    have hnil : upper = [] → spaced = false := by
      rintro rfl
      rw [show (upperLimit []).2 = [] from rfl, skipBlanks] at hclose
      · cases hclose
      · rintro ⟨⟩
    have happend := upperLimit_append upper more
    have htwo := LimitsAt.two (skipBlanks_append hlower' (hlower hlo) more)
      (by rw [lowerLimit?_append, hlo]; rfl) (skipBlanks_append hcomma (by rintro ⟨⟩) more)
      (skipBlanks_append hupper hnil more)
      (by rw [happend]; exact skipBlanks_append hclose (by rintro ⟨⟩) more)
    rw [happend] at htwo
    exact htwo

/-- Limits that stand before a parenthesis and what follows it end before it. -/
theorem LimitsAt.of_append {f : Flags} {limits : Nat × Option Nat} (hend : EndsWell f cs)
    (h : LimitsAt f.spaced (cs ++ ')' :: more) limits rest) :
    ∃ rest, LimitsAt f.spaced cs limits rest := by
  have hlower {lower ds : List Char} {lo : Nat} (hend : EndsWell f lower)
      (hlo : lowerLimit? (lower ++ ')' :: more) = some (lo, ds)) :
      ∃ es, lowerLimit? lower = some (lo, es) ∧ ds = es ++ ')' :: more ∧ EndsWell f es := by
    rw [lowerLimit?_append] at hlo
    obtain ⟨⟨lo', es⟩, hes, heq⟩ := Option.map_eq_some_iff.mp hlo
    cases heq
    exact ⟨es, hes, rfl, hend.lowerLimit? hes⟩
  have hcons {d : Char} (hd : d ≠ ')') {ds es : List Char} (h : d :: ds = es ++ ')' :: more) :
      ∃ tail, es = d :: tail ∧ ds = tail ++ ')' :: more := by
    cases es with
    | nil => exact absurd (List.cons.inj h).1 hd
    | cons e es =>
      obtain ⟨rfl, htail⟩ := List.cons.inj h
      exact ⟨es, rfl, htail⟩
  cases h with
  | one hlower' hlo hclose =>
    obtain ⟨lower, hskip, rfl, hlowerEnd⟩ := hend.skip_append hlower'
    obtain ⟨ds, hlo', rfl, hdsEnd⟩ := hlower hlowerEnd hlo
    obtain ⟨es, hes, hclose', -⟩ := hdsEnd.skip_append hclose
    obtain ⟨tail, rfl, -⟩ := hcons (by decide) hclose'
    exact ⟨tail, .one hskip hlo' hes⟩
  | two hlower' hlo hcomma hupper hclose =>
    obtain ⟨lower, hskip, rfl, hlowerEnd⟩ := hend.skip_append hlower'
    obtain ⟨ds, hlo', rfl, hdsEnd⟩ := hlower hlowerEnd hlo
    obtain ⟨es, hes, hcomma', hesEnd⟩ := hdsEnd.skip_append hcomma
    obtain ⟨tail, rfl, rfl⟩ := hcons (by decide) hcomma'
    obtain ⟨upper, hupper', rfl, hupperEnd⟩ := (hesEnd.tail (.inr rfl)).skip_append hupper
    rw [upperLimit_append] at hclose ⊢
    obtain ⟨fs, hfs, hclose', -⟩ := hupperEnd.upperLimit.skip_append hclose
    obtain ⟨back, rfl, -⟩ := hcons (by decide) hclose'
    exact ⟨back, .two hskip hlo' hes hupper' hfs⟩

/-! ## Lexemes before a parenthesis -/

/-- A closing parenthesis is nothing else. -/
theorem lex_close {f : Flags} {quantifiable : Bool} {len : Nat} {a : Lexeme}
    (h : lex f quantifiable len ')' cs = .ok (a, rest)) : a = .close ∧ rest = cs := by
  cases quantifiable <;> cases h <;> exact ⟨rfl, rfl⟩

/-- **What stands at the front of a text does not depend on what follows a closing parenthesis**, if
reading on ends well. -/
theorem lex_append {f : Flags} {quantifiable : Bool} {len len' : Nat} (hlen : len ≤ len')
    {a : Lexeme} (h : lex f quantifiable len c cs = .ok (a, rest))
    (hend : a.keepsFlags = true → EndsWell f rest) (more : List Char) :
    lex f quantifiable len' c (cs ++ ')' :: more) = .ok (a, rest ++ ')' :: more) := by
  have hnil (ha : a.keepsFlags = true) (hrest : rest = []) : f.spaced = false :=
    (hrest ▸ hend ha).not_spaced
  unfold lex at h
  split at h
  -- a quantifier is the same one with more behind it
  next limits ds hquant =>
    have ha : a.keepsFlags = true := by
      obtain ⟨_, -, h⟩ := bind_eq_ok_iff.mp h
      cases h
      rfl
    have hfound := lexQuantifier_append h (hnil ha) more
    rcases readQuantifier?_cases hquant with ⟨rfl, -, hany⟩ | ⟨rfl, hlimits⟩
    · unfold lex
      rw [hany]
      exact hfound
    · unfold lex
      rw [show ({ flags := f } : Reader).readQuantifier? ('{' :: (cs ++ ')' :: more)) = _ from
        readLimits?_eq_some_iff.mpr (hlimits.append more)]
      exact hfound
  next hnone =>
    have hitem := lexItem_append hlen h hnil more
    unfold lex
    split
    -- limits that end behind the parenthesis would end before it, too: reading on ends well behind
    -- the brace
    next limits ds hquant =>
      exfalso
      cases hold : ({ flags := f } : Reader).readQuantifier? (c :: cs) with
      | some found => exact hnone _ _ rfl hold
      | none =>
        rcases readQuantifier?_cases hquant with ⟨-, -, hany⟩ | ⟨rfl, hlimits⟩
        · rw [hany] at hold
          cases hold
        · have hopen : lexItem f len '{' cs
              = .ok (.chars ((CharSet.single '{').withCase f.ignoreCase), cs) := rfl
          rw [hopen] at h
          cases h
          obtain ⟨rest, hrest⟩ := (hlimits.of_append (hend rfl))
          cases hold.symm.trans (readLimits?_eq_some_iff.mpr hrest)
    next => exact hitem

end CodeShape.Regex
