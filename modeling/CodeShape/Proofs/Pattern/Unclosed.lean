import CodeShape.Proofs.Pattern.Composition

/-!
# Raw expressions that are never closed

A pattern is refused for one reason only: somewhere a raw expression begins, and no parenthesis
closes it (`extract_fails_iff`). Where it begins depends on all tokens in front of it, since
`$aREGEX(` is a variable and a parenthesis and `$1REGEX(` is not. That it does begin can be seen by
closing it at once: then the pattern up to there has one more token, without a body.

What comes behind the opening makes no difference to this. The opening is longer than anything that
decides whether a token begins or ends in front of it (`opensToken_behind`,
`Token.EndsBefore.of_head?`), so the body may be exchanged for any other.
-/

namespace CodeShape.Pattern

variable {cs ds rest rest' body body' front fault : List Char} {pieces : List Piece} {number : Nat}
  {t : Token}

/-! ## Openings with other bodies -/

/-- Whether a token begins is decided by as many characters as open a raw expression. -/
theorem opensToken_take : OpensToken (cs.take rawOpening.length) ↔ OpensToken cs := by
  constructor
  · intro h
    rcases h with hraw | ⟨c, rest, heq, hc⟩
    · exact .inl (hraw.trans (List.take_prefix _ _))
    · refine .inr ⟨c, rest ++ cs.drop rawOpening.length, ?_, hc⟩
      rw [← List.cons_append, ← List.cons_append, ← heq, List.take_append_drop]
  · intro h
    rcases h with hraw | ⟨c, rest, rfl, hc⟩
    · exact .inl (List.prefix_take_iff.mpr ⟨hraw, Nat.le_refl _⟩)
    · exact .inr ⟨c, rest.take 4, rfl, hc⟩

/-- The body of a raw expression makes no difference to the tokens that begin in front of it. -/
theorem opensToken_behind (cs body body' : List Char) :
    OpensToken (cs ++ (rawOpening ++ body)) ↔ OpensToken (cs ++ (rawOpening ++ body')) := by
  have htake : ∀ back, (cs ++ (rawOpening ++ back)).take rawOpening.length =
      (cs ++ rawOpening).take rawOpening.length := by
    intro back
    rw [← List.append_assoc]
    refine List.take_append_of_le_length ?_
    rw [List.length_append]
    exact Nat.le_add_left _ _
  rw [← opensToken_take, htake, ← htake body', opensToken_take]

theorem NoTokenIn.behind (h : NoTokenIn cs (ds ++ (rawOpening ++ body))) :
    NoTokenIn cs (ds ++ (rawOpening ++ body')) := by
  intro front back heq hback hopens
  rw [← List.append_assoc, opensToken_behind _ body' body, List.append_assoc] at hopens
  exact h front back heq hback hopens

/-- Where a token ends is decided by the next character, if there is one. -/
theorem Token.EndsBefore.of_head? (h : t.EndsBefore rest)
    (hhead : ∀ c, rest'.head? = some c → rest.head? = some c) : t.EndsBefore rest' := by
  cases t with
  | block greedy id =>
    cases greedy with
    | true => trivial
    | false => exact fun hnext => h (hhead _ hnext)
  | raw body => exact h
  | _ id => exact fun c hc => h c (hhead c hc)

theorem Token.EndsBefore.behind (h : t.EndsBefore (front ++ (rawOpening ++ body))) :
    t.EndsBefore (front ++ (rawOpening ++ body')) := by
  refine h.of_head? fun c hc => ?_
  cases front with
  | nil => exact hc
  | cons d front => exact hc

theorem Token.EndsBefore.of_append (h : t.EndsBefore (front ++ rest)) : t.EndsBefore front := by
  refine h.of_head? fun c hc => ?_
  rw [List.head?_append, hc, Option.some_or]

/-! ## Where the reading stops -/

/-- A text in which no token begins does not keep what follows it from being refused. -/
theorem extractFrom_text_error (hplain : NoTokenIn cs rest)
    (hrest : extractFrom number rest = .error fault) :
    extractFrom number (cs ++ rest) = .error fault := by
  induction cs with
  | nil => exact hrest
  | cons c cs ih =>
    obtain ⟨hc, hplain⟩ := noTokenIn_cons.mp hplain
    rw [List.cons_append, extractFrom_plain (readToken_eq_plain_iff.mpr hc), ih hplain]
    rfl

/-- Pieces with a raw expression behind them are read up to it, and it is refused if its body never
ends. -/
theorem extractFrom_written_error (htidy : Tidy number (pieces ++ [.token (.raw [])]))
    (hthorough : Thorough (pieces ++ [.token (.raw [])])) (hbody : readBody? {} body = none) :
    extractFrom number (written pieces ++ (rawOpening ++ body)) = .error (rawOpening ++ body) := by
  induction pieces generalizing number with
  | nil => exact extractFrom_unclosed (readToken_unclosed_iff.mpr ⟨body, rfl, hbody⟩)
  | cons p pieces ih =>
    have hwritten : written (pieces ++ [.token (.raw [])]) =
        written pieces ++ (rawOpening ++ [')']) := List.flatMap_append
    rw [List.cons_append] at htidy hthorough
    cases p with
    | text cs =>
      obtain ⟨-, -, htidy⟩ := tidy_text_cons.mp htidy
      obtain ⟨hplain, hthorough⟩ := thorough_text_cons.mp hthorough
      rw [hwritten] at hplain
      rw [written_text_cons, List.append_assoc]
      exact extractFrom_text_error hplain.behind (ih htidy hthorough)
    | token t =>
      obtain ⟨hname, hnumber, htidy⟩ := tidy_token_cons.mp htidy
      obtain ⟨hends, hthorough⟩ := thorough_token_cons.mp hthorough
      rw [hwritten] at hends
      rw [written_token_cons, List.append_assoc, extractFrom_token
        (readToken_eq_token_iff.mpr ⟨rfl, hname, hnumber, hends.behind⟩), ih htidy hthorough]
      rfl

theorem extractFrom_rawOpening (number : Nat) :
    extractFrom number (rawOpening ++ [')']) = .ok [.token (.raw [])] := by
  have hread : readToken number (rawOpening ++ [')']) = .token (.raw []) [] := rfl
  rw [extractFrom_token hread, extractFrom_nil]
  rfl

/-- A plain character goes in front of pieces in the same way if a token follows them. -/
theorem consText_concat_token (c : Char) (pieces : List Piece) (t : Token) :
    Piece.consText c (pieces ++ [.token t]) = Piece.consText c pieces ++ [.token t] := by
  cases pieces with
  | nil => rfl
  | cons p pieces => cases p <;> rfl

theorem extractFrom_token_ok (h : t.IsRead number rest) (hends : t.EndsBefore rest')
    (hrest : extractFrom (number + t.numbersUsed) rest' = .ok pieces) :
    extractFrom number (t.written ++ rest') = .ok (.token t :: pieces) := by
  rw [extractFrom_token
    (readToken_eq_token_iff.mpr ⟨rfl, h.wellNamed, h.numbered, hends⟩), hrest]
  rfl

theorem extractFrom_plain_ok {c : Char} (hplain : ¬ OpensToken (c :: cs))
    (hrest : extractFrom number cs = .ok pieces) :
    extractFrom number (c :: cs) = .ok (Piece.consText c pieces) := by
  rw [extractFrom_plain (readToken_eq_plain_iff.mpr hplain), hrest]
  rfl

/-- What is refused begins with the opening of a raw expression that never ends, and what stands in
front of it can be divided, whether or not that raw expression is closed at once behind it. -/
theorem extractFrom_error_split (h : extractFrom number cs = .error fault) :
    ∃ front pieces body, cs = front ++ (rawOpening ++ body) ∧ fault = rawOpening ++ body ∧
      readBody? {} body = none ∧ extractFrom number front = .ok pieces ∧
      extractFrom number (front ++ (rawOpening ++ [')'])) = .ok (pieces ++ [.token (.raw [])]) := by
  fun_induction extractFrom number cs with
  | case1 => cases h
  | case2 number c cs t rest hread ih =>
    obtain ⟨front, pieces, body, rfl, rfl, hbody, hfront, hclosed⟩ := ih (map_eq_error_iff.mp h)
    obtain ⟨hcs, hisRead⟩ := readToken_eq_token_iff.mp hread
    refine ⟨t.written ++ front, .token t :: pieces, body, ?_, rfl, hbody, ?_, ?_⟩
    · rw [hcs, List.append_assoc]
    · exact extractFrom_token_ok hisRead hisRead.ends.of_append hfront
    · rw [List.append_assoc]
      exact extractFrom_token_ok hisRead hisRead.ends.behind hclosed
  | case3 number c cs hread ih =>
    obtain ⟨front, pieces, body, rfl, rfl, hbody, hfront, hclosed⟩ := ih (map_eq_error_iff.mp h)
    have hplain := readToken_eq_plain_iff.mp hread
    refine ⟨c :: front, Piece.consText c pieces, body, rfl, rfl, hbody, ?_, ?_⟩
    · have hshort : ¬ OpensToken (c :: front) :=
        fun hopens => hplain (OpensToken.append hopens (rawOpening ++ body))
      exact extractFrom_plain_ok hshort hfront
    · have hother : ¬ OpensToken (c :: (front ++ (rawOpening ++ [')']))) := by
        rw [← List.cons_append, opensToken_behind _ _ body]
        exact hplain
      rw [← consText_concat_token]
      exact extractFrom_plain_ok hother hclosed
  | case4 number c cs hread =>
    cases h
    obtain ⟨body, heq, hbody⟩ := readToken_unclosed_iff.mp hread
    rw [heq]
    exact ⟨[], [], body, rfl, rfl, hbody, extractFrom_nil number, extractFrom_rawOpening number⟩

/-! ## Patterns that are refused -/

/-- No parenthesis in a text closes the raw expression that the text is the body of: what stands in
front of it is never balanced. -/
def NeverCloses (body : List Char) : Prop :=
  ∀ inside rest, body = inside ++ ')' :: rest → ¬ Balanced inside

theorem neverCloses_iff : NeverCloses body ↔ readBody? {} body = none := by
  constructor
  · intro h
    cases hread : readBody? {} body with
    | none => rfl
    | some found =>
      obtain ⟨heq, hinside⟩ := readBody?_eq_some_iff.mp hread
      exact absurd hinside.1 (h _ _ heq)
  · intro h inside rest heq hbalanced
    rw [heq, readBody?_append hbalanced] at h
    cases h

/-- Behind `front`, a raw expression begins in the pattern that is never closed. It begins there,
and does not belong to another token, because closed at once it is one more token. -/
def UnclosedBehind (pattern front : List Char) : Prop :=
  ∃ pieces body, pattern = front ++ rawOpening ++ body ∧ extract front = .ok pieces ∧
    extract (front ++ rawOpening ++ [')']) = .ok (pieces ++ [.token (.raw [])]) ∧ NeverCloses body

theorem extract_ok_iff_extractFrom :
    extract cs = .ok pieces ↔ extractFrom 0 cs = .ok pieces :=
  extract_eq_ok_iff.trans extractFrom_eq_ok_iff.symm

/-- The reading stops where a raw expression is never closed. -/
theorem extractFrom_error_iff :
    extractFrom 0 cs = .error fault ↔ ∃ front, UnclosedBehind cs front ∧ cs = front ++ fault := by
  constructor
  · intro h
    obtain ⟨front, pieces, body, rfl, rfl, hbody, hfront, hclosed⟩ := extractFrom_error_split h
    refine ⟨front, ⟨pieces, body, (List.append_assoc ..).symm, ?_, ?_, ?_⟩, rfl⟩
    · exact extract_ok_iff_extractFrom.mpr hfront
    · rw [List.append_assoc]
      exact extract_ok_iff_extractFrom.mpr hclosed
    · exact neverCloses_iff.mpr hbody
  · intro h
    obtain ⟨front, ⟨pieces, body, hcs, hfront, hclosed, hbody⟩, hfault⟩ := h
    rw [List.append_assoc] at hcs
    obtain ⟨hwritten, -⟩ := extract_eq_ok_iff.mp hfront
    obtain ⟨-, htidy, hthorough⟩ := extract_eq_ok_iff.mp hclosed
    have herror := extractFrom_written_error htidy hthorough (neverCloses_iff.mp hbody)
    obtain rfl : rawOpening ++ body = fault := List.append_cancel_left (hcs.symm.trans hfault)
    rwa [hwritten, ← hcs] at herror

theorem byteLength_eq_utf8ByteSize (cs : List Char) :
    Regex.byteLength cs = (String.ofList cs).utf8ByteSize := by
  induction cs with
  | nil => rfl
  | cons c cs ih =>
    rw [Regex.byteLength, String.ofList_cons, String.utf8ByteSize_append,
      String.utf8ByteSize_singleton, ih]

/-- **A pattern is refused exactly when a raw expression in it is never closed.** There is only one
such place, since no tokens are read behind it, and the error tells the pattern and how many bytes
there are in front of the place. -/
theorem extract_fails_iff (pattern : List Char) :
    ((∃ e, extract pattern = .error e) ↔ ∃ front, UnclosedBehind pattern front) ∧
      ∀ front, UnclosedBehind pattern front →
        extract pattern = .error (.unbalanced (String.ofList pattern)
          (String.ofList front).utf8ByteSize) ∧
        ∀ front', UnclosedBehind pattern front' → front' = front := by
  -- the fault is what is left of the pattern, and so it tells the place
  have herror : ∀ front, UnclosedBehind pattern front →
      ∃ fault, pattern = front ++ fault ∧ extractFrom 0 pattern = .error fault := by
    intro front hfront
    obtain ⟨pieces, body, heq, -⟩ := id hfront
    rw [List.append_assoc] at heq
    exact ⟨_, heq, extractFrom_error_iff.mpr ⟨front, hfront, heq⟩⟩
  have hmessage : ∀ front, UnclosedBehind pattern front →
      extract pattern = .error (.unbalanced (String.ofList pattern)
        (String.ofList front).utf8ByteSize) := by
    intro front hfront
    obtain ⟨fault, heq, hfault⟩ := herror front hfront
    have hbytes : Regex.byteLength pattern - Regex.byteLength fault
        = (String.ofList front).utf8ByteSize := by
      rw [heq, byteLength_append, Nat.add_sub_cancel, byteLength_eq_utf8ByteSize]
    unfold extract
    rw [hfault, ← hbytes]
  refine ⟨⟨fun h => ?_, fun h => ?_⟩, fun front hfront => ⟨hmessage front hfront, ?_⟩⟩
  · obtain ⟨e, he⟩ := h
    cases hread : extractFrom 0 pattern with
    | ok pieces =>
      rw [extract_ok_iff_extractFrom.mpr hread] at he
      cases he
    | error fault =>
      obtain ⟨front, hfront, -⟩ := extractFrom_error_iff.mp hread
      exact ⟨front, hfront⟩
  · obtain ⟨front, hfront⟩ := h
    exact ⟨_, hmessage front hfront⟩
  · intro front' hfront'
    obtain ⟨fault, heq, hfault⟩ := herror front hfront
    obtain ⟨fault', heq', hfault'⟩ := herror front' hfront'
    obtain rfl : fault = fault' := Except.error.inj (hfault.symm.trans hfault')
    exact List.append_cancel_right (heq'.symm.trans heq)

/-- The first `REGEX(` belongs to the name of a variable, the second one opens a raw expression in
which the last parenthesis stands in a class. -/
theorem extract_fails_behind_literal :
    UnclosedBehind "$aREGEX( é$1REGEX((a)[)]".toList "$aREGEX( é$1".toList ∧
      extract "$aREGEX( é$1REGEX((a)[)]".toList
        = .error (.unbalanced "$aREGEX( é$1REGEX((a)[)]" 13) ∧
      ∀ front, UnclosedBehind "$aREGEX( é$1REGEX((a)[)]".toList front →
        front = "$aREGEX( é$1".toList := by
  have hbehind : UnclosedBehind "$aREGEX( é$1REGEX((a)[)]".toList "$aREGEX( é$1".toList := by
    refine ⟨[.token (.variable (.named "aREGEX".toList)), .text "( é".toList,
      .token (.literal (.named ['1']))], "(a)[)]".toList, ?_, ?_, ?_, ?_⟩
    · decide +kernel
    · decide +kernel
    · decide +kernel
    · exact neverCloses_iff.mpr (by decide +kernel)
  obtain ⟨herror, hunique⟩ := (extract_fails_iff "$aREGEX( é$1REGEX((a)[)]".toList).2 _ hbehind
  exact ⟨hbehind, herror, hunique⟩

end CodeShape.Pattern
