import CodeShape.Proofs.Grammar.Words
import CodeShape.Proofs.Pattern.Extraction

/-!
# Patterns one behind the other

Two patterns with a blank between them are divided as each one is by itself (`extract_append`): no
token reaches over a blank unless it is a raw expression, which then is not closed in front of it. Only
the unnamed tokens of the second pattern count on from those of the first.
-/

namespace CodeShape.Pattern

variable {cs rest more pattern : List Char} {pieces others : List Piece} {number : Nat} {t : Token}
  {w : Char}

/-! ## Blanks belong to no token -/

/-- What begins with a blank, or is nothing at all. -/
def SetOff (cs : List Char) : Prop :=
  ∀ c, cs.head? = some c → Unicode.isBlank c = true

theorem setOff_cons (hw : Unicode.isBlank w = true) : SetOff (w :: cs) := by
  intro c hc
  exact Option.some.inj hc ▸ hw

/-- A blank is no character of a token's opening or name. -/
theorem not_mem_of_isBlank (hw : Unicode.isBlank w = true) :
    w.isAlpha = false ∧ w.isDigit = false ∧ w ≠ '_' ∧ w ∉ ['$', '@', '#'] ∧ w ∉ rawOpening := by
  have hall : ∀ n ∈ Grammar.blankCodes, (Char.ofNat n).isAlpha = false ∧ (Char.ofNat n).isDigit = false ∧
      Char.ofNat n ≠ '_' ∧ Char.ofNat n ∉ ['$', '@', '#'] ∧ Char.ofNat n ∉ rawOpening := by
    decide
  have h := hall w.toNat (Grammar.mem_blankCodes hw)
  rwa [Char.ofNat_toNat] at h

/-- No name goes on over a blank. -/
theorem not_isTokenName_concat {name : List Char} (hw : Unicode.isBlank w = true) :
    ¬ IsTokenName (name ++ [w]) := by
  obtain ⟨halpha, hdigit, hline, -⟩ := not_mem_of_isBlank hw
  intro h
  rcases h.of_concat with htail | hall
  · rw [hdigit, Bool.false_or, beq_iff_eq] at htail
    exact hline htail
  · rw [hall w (by simp)] at halpha
    cases halpha

theorem not_isTokenNumber_concat {digits : List Char} (hw : Unicode.isBlank w = true) :
    ¬ IsTokenNumber (digits ++ [w]) := by
  obtain ⟨-, hdigit, -⟩ := not_mem_of_isBlank hw
  intro h
  rw [h.2 w (by simp)] at hdigit
  cases hdigit

/-- A word that ends at the end of a text also ends before a blank. -/
theorem EndsWord.append {shape : List Char → Prop} {word : List Char}
    (hshape : ∀ {w}, Unicode.isBlank w = true → ¬ shape (word ++ [w]))
    (h : EndsWord shape word rest) (hmore : SetOff more) : EndsWord shape word (rest ++ more) := by
  intro c hc
  cases rest with
  | nil => exact hshape (hmore c hc)
  | cons d rest => exact h c hc

theorem Token.EndsBefore.append (h : t.EndsBefore rest) (hmore : SetOff more) :
    t.EndsBefore (rest ++ more) := by
  cases t with
  | «variable» id => exact EndsWord.append not_isTokenName_concat h hmore
  | literal id => exact EndsWord.append not_isTokenNumber_concat h hmore
  | operator id => exact EndsWord.append not_isTokenName_concat h hmore
  | keyword id => exact EndsWord.append not_isTokenName_concat h hmore
  | block greedy id =>
    cases greedy with
    | true => trivial
    | false =>
      intro hhead
      cases rest with
      | nil =>
        obtain ⟨-, -, -, hsign, -⟩ := not_mem_of_isBlank (hmore _ hhead)
        exact hsign List.mem_cons_self
      | cons d rest => exact h hhead
  | raw body => exact h

theorem readToken_token_append (h : readToken number cs = .token t rest) (hmore : SetOff more) :
    readToken number (cs ++ more) = .token t (rest ++ more) := by
  obtain ⟨rfl, hname, hnumber, hends⟩ := readToken_eq_token_iff.mp h
  exact readToken_eq_token_iff.mpr
    ⟨List.append_assoc _ _ _, hname, hnumber, hends.append hmore⟩

/-- Nothing opens a token with what follows that does not do so by itself. -/
theorem not_opensToken_append (h : ¬ OpensToken cs) (hcs : cs ≠ []) (hmore : SetOff more) :
    ¬ OpensToken (cs ++ more) := by
  intro hopens
  refine h ?_
  rcases hopens with hraw | ⟨c, rest, heq, hc⟩
  · left
    rcases List.prefix_or_prefix_of_prefix hraw (List.prefix_append cs more) with hcs | ⟨tail, htail⟩
    · exact hcs
    · cases tail with
      | nil => exact ⟨[], by rw [← htail, List.append_nil, List.append_nil]⟩
      | cons d tail =>
        -- the opening would go on over the blank
        rw [← htail, List.prefix_append_right_inj] at hraw
        obtain ⟨back, hback⟩ := hraw
        have hd : more.head? = some d := by
          rw [← hback]
          rfl
        refine absurd ?_ (not_mem_of_isBlank (hmore d hd)).2.2.2.2
        rw [← htail]
        exact List.mem_append_right cs List.mem_cons_self
  · right
    cases cs with
    | nil => exact absurd rfl hcs
    | cons d cs =>
      cases cs with
      | nil =>
        obtain ⟨-, rfl⟩ := List.cons.inj heq
        obtain ⟨halpha, hdigit, -, hsign, -⟩ := not_mem_of_isBlank (hmore c rfl)
        rcases hc with hc | hc | hc
        · exact absurd hc hsign
        · rw [halpha] at hc
          cases hc
        · rw [hdigit] at hc
          cases hc
      | cons e cs =>
        obtain ⟨rfl, hrest⟩ := List.cons.inj heq
        obtain ⟨rfl, -⟩ := List.cons.inj hrest
        exact ⟨_, cs, rfl, hc⟩

/-! ## Merging texts -/

/-- Puts a piece in front of others: a text into the text that comes first, if one does. -/
def Piece.before : Piece → List Piece → List Piece
  | .text cs, .text ds :: rest => .text (cs ++ ds) :: rest
  | p, rest => p :: rest

/-- Merges texts that stand side by side. -/
def mergeTexts (pieces : List Piece) : List Piece :=
  pieces.foldr Piece.before []

theorem mergeTexts_append (pieces others : List Piece) :
    mergeTexts (pieces ++ others) = pieces.foldr Piece.before (mergeTexts others) :=
  List.foldr_append

theorem consText_eq_before (c : Char) (pieces : List Piece) :
    Piece.consText c pieces = Piece.before (.text [c]) pieces := by
  unfold Piece.consText Piece.before
  cases pieces with
  | nil => rfl
  | cons p rest => cases p <;> rfl

/-- A character in front of all pieces is in front of the merged ones. -/
theorem foldr_before_consText (c : Char) (pieces others : List Piece) :
    (Piece.consText c pieces).foldr Piece.before others =
      Piece.consText c (pieces.foldr Piece.before others) := by
  rw [consText_eq_before]
  cases pieces with
  | nil => exact (consText_eq_before c others).symm
  | cons p rest =>
    cases p with
    | token t => exact (consText_eq_before c _).symm
    | text cs =>
      rw [Piece.before, List.foldr_cons, List.foldr_cons]
      generalize rest.foldr Piece.before others = after
      cases after with
      | nil => rfl
      | cons p' after => cases p' <;> rfl

/-- There is nothing to merge in pieces that are in order. -/
theorem mergeTexts_of_tidy (h : Tidy number pieces) : mergeTexts pieces = pieces := by
  induction pieces generalizing number with
  | nil => rfl
  | cons p pieces ih =>
    cases p with
    | token t =>
      obtain ⟨-, -, hrest⟩ := tidy_token_cons.mp h
      show Piece.before (.token t) (mergeTexts pieces) = _
      rw [ih hrest]
      rfl
    | text cs =>
      obtain ⟨-, hhead, hrest⟩ := tidy_text_cons.mp h
      show Piece.before (.text cs) (mergeTexts pieces) = _
      rw [ih hrest]
      cases pieces with
      | nil => rfl
      | cons p' pieces =>
        cases p' with
        | token t => rfl
        | text ds => exact absurd trivial (hhead _ rfl)

/-! ## Numbers -/

/-- The number of unnamed tokens. -/
def unnamedCount (pieces : List Piece) : Nat :=
  (pieces.filterMap Piece.number?).length

theorem unnamedCount_token_cons (t : Token) (pieces : List Piece) :
    unnamedCount (.token t :: pieces) = t.numbersUsed + unnamedCount pieces := by
  rw [numbersUsed_eq]
  unfold unnamedCount
  rw [List.filterMap_cons, show (Piece.token t).number? = t.number? from rfl]
  cases t.number? with
  | none => exact (Nat.zero_add _).symm
  | some n => exact Nat.add_comm _ 1

theorem unnamedCount_consText (c : Char) (pieces : List Piece) :
    unnamedCount (Piece.consText c pieces) = unnamedCount pieces := by
  unfold Piece.consText
  split <;> rfl

/-- An identity with its number, if it has one, raised. -/
def Identity.raise (k : Nat) : Identity → Identity
  | .named name => .named name
  | .anonymous n => .anonymous (n + k)

/-- A token with its number, if it has one, raised. -/
def Token.raise (k : Nat) : Token → Token
  | .variable id => .variable (id.raise k)
  | .literal id => .literal (id.raise k)
  | .operator id => .operator (id.raise k)
  | .keyword id => .keyword (id.raise k)
  | .block greedy id => .block greedy (id.raise k)
  | .raw body => .raw body

/-- A piece with its number, if it has one, raised. -/
def Piece.raise (k : Nat) : Piece → Piece
  | .text cs => .text cs
  | .token t => .token (t.raise k)

@[simp] theorem Token.written_raise (k : Nat) (t : Token) : (t.raise k).written = t.written := by
  cases t with
  | block greedy id => cases greedy <;> rfl
  | raw body => rfl
  | _ id => cases id <;> rfl

theorem Token.number?_raise (k : Nat) (t : Token) :
    (t.raise k).number? = t.number?.map (· + k) := by
  cases t with
  | block greedy id => cases id <;> rfl
  | raw body => rfl
  | _ id => cases id <;> rfl

theorem Token.numbersUsed_raise (k : Nat) (t : Token) :
    (t.raise k).numbersUsed = t.numbersUsed := by
  rw [numbersUsed_eq, numbersUsed_eq, Token.number?_raise]
  cases t.number? <;> rfl

theorem Identity.eq_named_of_raise {k : Nat} {id : Identity} {name : List Char}
    (h : id.raise k = .named name) : id = .named name := by
  cases id with
  | named name' => exact h
  | anonymous n => cases h

/-- Only the number of a token depends on how many there were before. -/
theorem Token.IsRead.raise (k : Nat) (h : t.IsRead number rest) :
    (t.raise k).IsRead (number + k) rest := by
  obtain ⟨hname, hnumber, hends⟩ := h
  refine ⟨?_, fun n hn => ?_, ?_⟩
  · cases t with
    | «variable» id =>
      obtain ⟨name, rfl, hshape⟩ := hname
      exact ⟨name, rfl, hshape⟩
    | literal id =>
      obtain ⟨digits, rfl, hshape⟩ := hname
      exact ⟨digits, rfl, hshape⟩
    | operator id => exact fun name h => hname name (Identity.eq_named_of_raise h)
    | keyword id => exact fun name h => hname name (Identity.eq_named_of_raise h)
    | block greedy id =>
      obtain ⟨n, rfl⟩ := hname
      exact ⟨n + k, rfl⟩
    | raw body => trivial
  · rw [Token.number?_raise] at hn
    obtain ⟨m, hm, rfl⟩ := Option.map_eq_some_iff.mp hn
    rw [hnumber m hm]
  · cases t with
    | block greedy id => cases greedy <;> exact hends
    | raw body => exact hends
    | _ id => cases id <;> exact hends

/-! ## Raw expressions that are not closed -/

theorem readToken_unclosed_iff : readToken number cs = .unclosed ↔
    ∃ after, cs = rawOpening ++ after ∧ readBody? {} after = none := by
  constructor
  · intro h
    unfold readToken at h
    split at h
    next after =>
      split at h
      next => cases h
      next hbody => exact ⟨after, rfl, hbody⟩
    next => cases h
    next => cases h
    next => cases h
    next => cases h
    next =>
      split at h
      next => cases h
      next => cases h
      next => cases h
    next => cases h
  · rintro ⟨after, rfl, hbody⟩
    show readToken number ('R' :: 'E' :: 'G' :: 'E' :: 'X' :: '(' :: after) = .unclosed
    rw [readToken, hbody]

theorem extractFrom_unclosed {c : Char} (h : readToken number (c :: cs) = .unclosed) :
    extractFrom number (c :: cs) = .error (c :: cs) := by
  rw [extractFrom]
  split
  next heq => cases heq.symm.trans h
  next heq => cases heq.symm.trans h
  next => rfl

/-! ## Dividing -/

/-- Where a pattern begins to be divided makes a difference to the numbers only. -/
theorem extractFrom_raise (k : Nat) : extractFrom (number + k) cs =
    (extractFrom number cs).map (List.map (Piece.raise k)) := by
  fun_induction extractFrom number cs with
  | case1 => exact extractFrom_nil _
  | case2 number c cs t rest hread ih =>
    obtain ⟨hcs, hreads⟩ := readToken_eq_token_iff.mp hread
    have hraised : readToken (number + k) (c :: cs) = .token (t.raise k) rest :=
      readToken_eq_token_iff.mpr ⟨by rw [hcs, Token.written_raise], hreads.raise k⟩
    rw [extractFrom_token hraised, Token.numbersUsed_raise, Nat.add_right_comm, ih]
    cases extractFrom (number + t.numbersUsed) rest <;> rfl
  | case3 number c cs hread ih =>
    have hplain : readToken (number + k) (c :: cs) = .plain :=
      readToken_eq_plain_iff.mpr (readToken_eq_plain_iff.mp hread)
    rw [extractFrom_plain hplain, ih]
    cases extractFrom number cs with
    | error fault => rfl
    | ok pieces =>
      show Except.ok (Piece.consText c (pieces.map (Piece.raise k))) =
        Except.ok ((Piece.consText c pieces).map (Piece.raise k))
      cases pieces with
      | nil => rfl
      | cons p rest => cases p <;> rfl
  | case4 number c cs hread =>
    have hunclosed : readToken (number + k) (c :: cs) = .unclosed :=
      readToken_unclosed_iff.mpr (readToken_unclosed_iff.mp hread)
    exact extractFrom_unclosed hunclosed

/-- **What is divided stays divided** in front of a blank: what follows is divided by itself. -/
theorem extractFrom_append (h : extractFrom number cs = .ok pieces) (hmore : SetOff more) :
    extractFrom number (cs ++ more) =
      (extractFrom (number + unnamedCount pieces) more).map (pieces.foldr Piece.before) := by
  fun_induction extractFrom number cs generalizing pieces with
  | case1 number =>
    cases h
    show extractFrom number more = (extractFrom number more).map fun rest => rest
    cases extractFrom number more <;> rfl
  | case2 number c cs t rest hread ih =>
    obtain ⟨pieces', hrest, rfl⟩ := map_eq_ok_iff.mp h
    rw [extractFrom_token (readToken_token_append hread hmore), ih hrest,
      unnamedCount_token_cons, Nat.add_assoc]
    cases extractFrom (number + (t.numbersUsed + unnamedCount pieces')) more <;> rfl
  | case3 number c cs hread ih =>
    obtain ⟨pieces', hrest, rfl⟩ := map_eq_ok_iff.mp h
    have hplain : readToken number (c :: (cs ++ more)) = .plain :=
      readToken_eq_plain_iff.mpr (not_opensToken_append (readToken_eq_plain_iff.mp hread)
        (List.cons_ne_nil c cs) hmore)
    rw [List.cons_append, extractFrom_plain hplain, ih hrest, unnamedCount_consText]
    cases extractFrom (number + unnamedCount pieces') more with
    | error fault => rfl
    | ok others => exact congrArg Except.ok (foldr_before_consText c pieces' others).symm
  | case4 => cases h

theorem extractFrom_blank (hw : Unicode.isBlank w = true) :
    extractFrom number (w :: cs) = (extractFrom number cs).map (Piece.consText w) := by
  refine extractFrom_plain (readToken_eq_plain_iff.mpr ?_)
  have hnone : ¬ OpensToken (w :: cs) := by
    obtain ⟨-, -, -, hsign, hraw⟩ := not_mem_of_isBlank hw
    rintro (⟨tail, htail⟩ | ⟨c, rest, heq, -⟩)
    · exact hraw ((List.cons.inj htail).1 ▸ List.mem_cons_self)
    · exact hsign ((List.cons.inj heq).1 ▸ List.mem_cons_self)
  exact hnone

/-- What is not closed is what is left of the pattern. -/
theorem extractFrom_error {fault : List Char} (h : extractFrom number cs = .error fault) :
    fault <:+ cs := by
  fun_induction extractFrom number cs with
  | case1 => cases h
  | case2 number c cs t rest hread ih =>
    obtain ⟨hcs, -⟩ := readToken_eq_token_iff.mp hread
    exact (ih (map_eq_error_iff.mp h)).trans ⟨t.written, hcs.symm⟩
  | case3 number c cs hread ih => exact (ih (map_eq_error_iff.mp h)).trans (List.suffix_cons c cs)
  | case4 =>
    cases h
    exact List.suffix_refl _

/-- A pattern is divided as if nothing stood in front of it and the blank behind that. -/
theorem extractFrom_zero_append {front : List Char} (back : List Char)
    (hw : Unicode.isBlank w = true)
    (hfront : extract front = .ok pieces) :
    extractFrom 0 (front ++ w :: back) =
      (extractFrom 0 back).map fun others =>
        mergeTexts (pieces ++ .text [w] :: others.map (Piece.raise (unnamedCount pieces))) := by
  have hpieces : extractFrom 0 front = .ok pieces :=
    extractFrom_eq_ok_iff.mpr (extract_eq_ok_iff.mp hfront)
  have hraise : extractFrom (unnamedCount pieces) back =
      (extractFrom 0 back).map (List.map (Piece.raise (unnamedCount pieces))) := by
    rw [← extractFrom_raise, Nat.zero_add]
  rw [extractFrom_append hpieces (setOff_cons hw), Nat.zero_add, extractFrom_blank hw]
  cases hback : extractFrom 0 back with
  | error fault =>
    rw [hraise, hback]
    rfl
  | ok others =>
    rw [hback] at hraise
    have htidy := (extractFrom_ok hraise).2.1
    have hmerged : mergeTexts (.text [w] :: others.map (Piece.raise (unnamedCount pieces))) =
        Piece.consText w (others.map (Piece.raise (unnamedCount pieces))) := by
      rw [consText_eq_before]
      exact congrArg (Piece.before (.text [w])) (mergeTexts_of_tidy htidy)
    rw [hraise]
    show Except.ok (pieces.foldr Piece.before (Piece.consText w _)) = Except.ok (mergeTexts _)
    rw [mergeTexts_append, hmerged]

/-- **Patterns compose over blanks.** Behind a pattern that can be divided and a blank, what follows
is divided, or refused, as it is by itself: its unnamed tokens are counted on from those in front,
texts that meet are one, and what is not closed stands so many bytes further on. -/
theorem extract_append {front back : List Char} (hw : Unicode.isBlank w = true)
    (hfront : extract front = .ok pieces) :
    (∀ others, extract back = .ok others → extract (front ++ w :: back) =
      .ok (mergeTexts (pieces ++ .text [w] :: others.map (Piece.raise (unnamedCount pieces))))) ∧
    ∀ source offset, extract back = .error (.unbalanced source offset) →
      extract (front ++ w :: back) = .error (.unbalanced (String.ofList (front ++ w :: back))
        (Regex.byteLength front + w.utf8Size + offset)) := by
  have hwhole := extractFrom_zero_append back hw hfront
  constructor
  · intro others hback
    have hothers : extractFrom 0 back = .ok others :=
      extractFrom_eq_ok_iff.mpr (extract_eq_ok_iff.mp hback)
    rw [hothers] at hwhole
    unfold extract
    rw [hwhole]
    rfl
  · intro source offset hback
    unfold extract at hback
    cases hfault : extractFrom 0 back with
    | ok others =>
      rw [hfault] at hback
      cases hback
    -- the fault is a tail of both patterns, and the longer one has so many bytes more in front of
    -- it
    | error fault =>
      rw [hfault] at hback hwhole
      cases hback
      obtain ⟨read, hread⟩ := extractFrom_error hfault
      have hle : Regex.byteLength fault ≤ Regex.byteLength back := by
        rw [← hread, byteLength_append]
        exact Nat.le_add_left _ _
      have hlength : Regex.byteLength (front ++ w :: back) =
          Regex.byteLength front + (w.utf8Size + Regex.byteLength back) := byteLength_append _ _
      unfold extract
      rw [hwhole]
      show Except.error (Error.unbalanced _ _) = _
      rw [hlength]
      congr 2
      omega

/-- A block and an operator behind a block are counted on, and the texts around a line break are one. -/
theorem extract_append_lines : Unicode.isBlank '\n' = true ∧
    extract "$$ a".toList = .ok [.token (.block false (.anonymous 0)), .text [' ', 'a']] ∧
    extract "b $@ REGEX(x)$$".toList = .ok [.text ['b', ' '], .token (.operator (.anonymous 0)),
      .text [' '], .token (.raw ['x']), .token (.block false (.anonymous 1))] ∧
    extract "$$ a\nb $@ REGEX(x)$$".toList = .ok [.token (.block false (.anonymous 0)),
      .text [' ', 'a', '\n', 'b', ' '], .token (.operator (.anonymous 1)), .text [' '],
      .token (.raw ['x']), .token (.block false (.anonymous 2))] ∧
    extract "é REGEX(".toList = .error (.unbalanced "é REGEX(" 3) ∧
    extract "$$ a\né REGEX(".toList = .error (.unbalanced "$$ a\né REGEX(" 8) := by
  have hw : Unicode.isBlank '\n' = true := by decide
  have hfront : extract "$$ a".toList =
      .ok [.token (.block false (.anonymous 0)), .text [' ', 'a']] := by decide +kernel
  have hback : extract "b $@ REGEX(x)$$".toList = .ok [.text ['b', ' '],
      .token (.operator (.anonymous 0)), .text [' '], .token (.raw ['x']),
      .token (.block false (.anonymous 1))] := by decide +kernel
  have hopen : extract "é REGEX(".toList = .error (.unbalanced "é REGEX(" 3) := by decide +kernel
  refine ⟨hw, hfront, hback, ?_, hopen, ?_⟩
  · exact (extract_append hw hfront).1 _ hback
  · exact (extract_append hw hfront).2 _ _ hopen

end CodeShape.Pattern
