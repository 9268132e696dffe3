import Mathlib.Data.List.Chain
import CodeShape.Proofs.Fallible
import CodeShape.Proofs.Pattern.Tokens

/-!
# The division of a pattern into pieces

What `extract` makes of a pattern is said in two parts. Nothing is lost and everything is in order
(`extract_lossless`): written one after the other the pieces are the pattern again, and they are
`Tidy`, with texts as long as they can be, well-named tokens, and numbers that count up from zero.
And nothing is missed (`extract_unique`): the pieces are `Thorough`, no token begins inside a text
and each token ends where it has to. There is only one such division of a pattern. Both rest on
`extract_eq_ok_iff`, for which each step of the reading is settled by `readToken_eq_token_iff` and
`readToken_eq_plain_iff`.
-/

namespace CodeShape.Pattern

variable {pattern cs : List Char} {pieces : List Piece} {number : Nat} {t : Token}

/-! ## What pieces are written as -/

/-- The pieces as they are written, one after the other. -/
def written (pieces : List Piece) : List Char :=
  pieces.flatMap Piece.written

@[simp] theorem written_nil : written [] = [] := rfl

@[simp] theorem written_text_cons (cs : List Char) (pieces : List Piece) :
    written (.text cs :: pieces) = cs ++ written pieces := rfl

@[simp] theorem written_token_cons (t : Token) (pieces : List Piece) :
    written (.token t :: pieces) = t.written ++ written pieces := rfl

@[simp] theorem written_consText (c : Char) (pieces : List Piece) :
    written (Piece.consText c pieces) = c :: written pieces := by
  unfold Piece.consText
  split <;> rfl

/-! ## Order -/

/-- Is the piece plain text? -/
def Piece.IsText : Piece → Prop
  | .text _ => True
  | .token _ => False

/-- The number of an unnamed token. -/
def Piece.number? : Piece → Option Nat
  | .text _ => none
  | .token t => t.number?

/-- The pieces are in order: there is no text without characters and no text beside another one, the
tokens have identities of their kinds, and the unnamed ones are counted from `number` on. -/
structure Tidy (number : Nat) (pieces : List Piece) : Prop where
  nonempty : ∀ cs, .text cs ∈ pieces → cs ≠ []
  apart : pieces.IsChain fun p q => p.IsText → ¬ q.IsText
  wellNamed : ∀ t, .token t ∈ pieces → t.WellNamed
  numbered : pieces.filterMap Piece.number?
    = List.range' number (pieces.filterMap Piece.number?).length

theorem tidy_nil (number : Nat) : Tidy number [] :=
  ⟨nofun, .nil, nofun, rfl⟩

theorem tidy_text_cons :
    Tidy number (.text cs :: pieces) ↔
      cs ≠ [] ∧ (∀ p, pieces.head? = some p → ¬ p.IsText) ∧ Tidy number pieces := by
  constructor
  · intro h
    obtain ⟨hnonempty, hapart, hnamed, hnumbered⟩ := h
    rw [List.isChain_cons] at hapart
    exact ⟨hnonempty cs List.mem_cons_self, fun p hp => hapart.1 p hp trivial,
      fun ds hds => hnonempty ds (List.mem_cons_of_mem _ hds), hapart.2,
      fun t ht => hnamed t (List.mem_cons_of_mem _ ht), hnumbered⟩
  · rintro ⟨hcs, hhead, hnonempty, hapart, hnamed, hnumbered⟩
    refine ⟨fun ds hds => ?_, List.isChain_cons.mpr ⟨fun p hp _ => hhead p hp, hapart⟩,
      fun t ht => ?_, hnumbered⟩
    · rcases List.mem_cons.mp hds with heq | hds
      · rw [Piece.text.inj heq]
        exact hcs
      · exact hnonempty ds hds
    · rcases List.mem_cons.mp ht with heq | ht
      · cases heq
      · exact hnamed t ht

theorem numbersUsed_eq (t : Token) : t.numbersUsed = t.number?.toList.length := by
  unfold Token.numbersUsed Token.number?
  cases t.identity? with
  | none => rfl
  | some id => cases id <;> rfl

/-- Numbers count up if the first one of them does, if there is one, and the others behind it. -/
theorem range'_cons_iff (number : Nat) (first : Option Nat) (ns : List Nat) :
    first.toList ++ ns = List.range' number (first.toList ++ ns).length ↔
      (∀ n, first = some n → n = number) ∧
        ns = List.range' (number + first.toList.length) ns.length := by
  cases first with
  | none => simp
  | some n => simp [List.range'_succ]

theorem tidy_token_cons :
    Tidy number (.token t :: pieces) ↔
      t.WellNamed ∧ (∀ n, t.number? = some n → n = number) ∧
        Tidy (number + t.numbersUsed) pieces := by
  have hnumbers : (Piece.token t :: pieces).filterMap Piece.number?
      = t.number?.toList ++ pieces.filterMap Piece.number? := by
    rw [List.filterMap_cons, show (Piece.token t).number? = t.number? from rfl]
    cases t.number? <;> rfl
  constructor
  · rintro ⟨hnonempty, hapart, hnamed, hnumbered⟩
    rw [hnumbers, range'_cons_iff, ← numbersUsed_eq] at hnumbered
    exact ⟨hnamed t List.mem_cons_self, hnumbered.1,
      fun ds hds => hnonempty ds (List.mem_cons_of_mem _ hds), (List.isChain_cons.mp hapart).2,
      fun t ht => hnamed t (List.mem_cons_of_mem _ ht), hnumbered.2⟩
  · rintro ⟨hname, hfirst, hnonempty, hapart, hnamed, hnumbered⟩
    refine ⟨fun ds hds => ?_, List.isChain_cons.mpr ⟨fun _ _ h => h.elim, hapart⟩,
      fun t' ht => ?_, ?_⟩
    · rcases List.mem_cons.mp hds with heq | hds
      · cases heq
      · exact hnonempty ds hds
    · rcases List.mem_cons.mp ht with heq | ht
      · rw [Piece.token.inj heq]
        exact hname
      · exact hnamed t' ht
    · rw [hnumbers, range'_cons_iff, ← numbersUsed_eq]
      exact ⟨hfirst, hnumbered⟩

/-! ## Thoroughness -/

/-- No token begins inside the text `cs`, `rest` being what follows it. -/
def NoTokenIn (cs rest : List Char) : Prop :=
  ∀ front back, cs = front ++ back → back ≠ [] → ¬ OpensToken (back ++ rest)

/-- Nothing is missed: no token begins inside a text, and every token ends where it has to. -/
structure Thorough (pieces : List Piece) : Prop where
  texts : ∀ before cs after, pieces = before ++ .text cs :: after → NoTokenIn cs (written after)
  tokens : ∀ before t after, pieces = before ++ .token t :: after → t.EndsBefore (written after)

theorem thorough_nil : Thorough [] :=
  ⟨fun _ _ _ h => absurd h.symm (List.append_ne_nil_of_right_ne_nil _ (List.cons_ne_nil _ _)),
    fun _ _ _ h => absurd h.symm (List.append_ne_nil_of_right_ne_nil _ (List.cons_ne_nil _ _))⟩

theorem thorough_text_cons :
    Thorough (.text cs :: pieces) ↔ NoTokenIn cs (written pieces) ∧ Thorough pieces := by
  constructor
  · intro h
    refine ⟨h.texts [] cs pieces rfl, fun before ds after heq => ?_, fun before t after heq => ?_⟩
    · exact h.texts (.text cs :: before) ds after (congrArg _ heq)
    · exact h.tokens (.text cs :: before) t after (congrArg _ heq)
  · rintro ⟨hcs, h⟩
    refine ⟨fun before ds after heq => ?_, fun before t after heq => ?_⟩
    · rcases List.cons_eq_append_iff.mp heq with ⟨-, heq⟩ | ⟨before, -, heq⟩
      · cases heq
        exact hcs
      · exact h.texts before ds after heq
    · rcases List.cons_eq_append_iff.mp heq with ⟨-, heq⟩ | ⟨before, -, heq⟩
      · cases heq
      · exact h.tokens before t after heq

theorem thorough_token_cons :
    Thorough (.token t :: pieces) ↔ t.EndsBefore (written pieces) ∧ Thorough pieces := by
  constructor
  · intro h
    refine ⟨h.tokens [] t pieces rfl, fun before ds after heq => ?_, fun before t' after heq => ?_⟩
    · exact h.texts (.token t :: before) ds after (congrArg _ heq)
    · exact h.tokens (.token t :: before) t' after (congrArg _ heq)
  · rintro ⟨ht, h⟩
    refine ⟨fun before ds after heq => ?_, fun before t' after heq => ?_⟩
    · rcases List.cons_eq_append_iff.mp heq with ⟨-, heq⟩ | ⟨before, -, heq⟩
      · cases heq
      · exact h.texts before ds after heq
    · rcases List.cons_eq_append_iff.mp heq with ⟨-, heq⟩ | ⟨before, -, heq⟩
      · cases heq
        exact ht
      · exact h.tokens before t' after heq

theorem noTokenIn_nil (rest : List Char) : NoTokenIn [] rest := by
  intro front back h hback
  exact absurd (List.append_eq_nil_iff.mp h.symm).2 hback

theorem noTokenIn_cons {c : Char} {rest : List Char} :
    NoTokenIn (c :: cs) rest ↔ ¬ OpensToken (c :: (cs ++ rest)) ∧ NoTokenIn cs rest := by
  constructor
  · intro h
    refine ⟨h [] (c :: cs) rfl (List.cons_ne_nil _ _), fun front back heq hback => ?_⟩
    exact h (c :: front) back (congrArg _ heq) hback
  · rintro ⟨hfirst, h⟩ front back heq hback
    rcases List.cons_eq_append_iff.mp heq with ⟨-, rfl⟩ | ⟨front, -, rfl⟩
    · exact hfirst
    · exact h front back rfl hback

/-! ## Reading -/

theorem extractFrom_nil (number : Nat) : extractFrom number [] = .ok [] := by
  rw [extractFrom]

theorem extractFrom_token {rest : List Char} (h : readToken number cs = .token t rest) :
    extractFrom number cs
      = (extractFrom (number + t.numbersUsed) rest).map (.token t :: ·) := by
  cases cs with
  | nil => cases h
  | cons c cs =>
    rw [extractFrom]
    split
    next heq =>
      cases heq.symm.trans h
      rfl
    next heq => cases heq.symm.trans h
    next heq => cases heq.symm.trans h

theorem extractFrom_plain {c : Char} (h : readToken number (c :: cs) = .plain) :
    extractFrom number (c :: cs) = (extractFrom number cs).map (Piece.consText c) := by
  rw [extractFrom]
  split
  next heq => cases heq.symm.trans h
  next => rfl
  next heq => cases heq.symm.trans h

theorem byteLength_append (cs ds : List Char) :
    Regex.byteLength (cs ++ ds) = Regex.byteLength cs + Regex.byteLength ds := by
  induction cs with
  | nil => exact (Nat.zero_add _).symm
  | cons c cs ih => rw [List.cons_append, Regex.byteLength, ih, Regex.byteLength, Nat.add_assoc]

/-- What a plain character is put in front of stays tidy and thorough. -/
theorem consText_tidy_thorough {c : Char} (hplain : ¬ OpensToken (c :: written pieces))
    (h : Tidy number pieces ∧ Thorough pieces) :
    Tidy number (Piece.consText c pieces) ∧ Thorough (Piece.consText c pieces) := by
  unfold Piece.consText
  split
  next cs rest =>
    rw [tidy_text_cons, thorough_text_cons] at h ⊢
    rw [noTokenIn_cons]
    obtain ⟨⟨-, hhead, htidy⟩, hcs, hthorough⟩ := h
    exact ⟨⟨List.cons_ne_nil _ _, hhead, htidy⟩, ⟨hplain, hcs⟩, hthorough⟩
  next hnot =>
    rw [tidy_text_cons, thorough_text_cons, noTokenIn_cons]
    refine ⟨⟨List.cons_ne_nil _ _, fun p hp htext => ?_, h.1⟩, ⟨hplain, noTokenIn_nil _⟩, h.2⟩
    obtain ⟨more, rfl⟩ := List.head?_eq_some_iff.mp hp
    cases p with
    | text cs => exact hnot cs more rfl
    | token t => exact htext

/-- What is extracted is written as the pattern, and is tidy and thorough. -/
theorem extractFrom_ok (h : extractFrom number cs = .ok pieces) :
    written pieces = cs ∧ Tidy number pieces ∧ Thorough pieces := by
  fun_induction extractFrom number cs generalizing pieces with
  | case1 =>
    cases h
    exact ⟨rfl, tidy_nil _, thorough_nil⟩
  | case2 number c cs t rest hread ih =>
    obtain ⟨more, hrest, rfl⟩ := map_eq_ok_iff.mp h
    obtain ⟨hwritten, htidy, hthorough⟩ := ih hrest
    obtain ⟨hcs, hname, hnumber, hends⟩ := readToken_eq_token_iff.mp hread
    refine ⟨by rw [hcs, written_token_cons, hwritten], ?_, ?_⟩
    · exact tidy_token_cons.mpr ⟨hname, hnumber, htidy⟩
    · exact thorough_token_cons.mpr ⟨hwritten.symm ▸ hends, hthorough⟩
  | case3 number c cs hread ih =>
    obtain ⟨more, hrest, rfl⟩ := map_eq_ok_iff.mp h
    obtain ⟨rfl, hmore⟩ := ih hrest
    exact ⟨written_consText c more,
      consText_tidy_thorough (readToken_eq_plain_iff.mp hread) hmore⟩
  | case4 => cases h

/-- A text in which no token begins is extracted as one piece. -/
theorem extractFrom_text (hcs : cs ≠ []) (hplain : NoTokenIn cs (written pieces))
    (hhead : ∀ p, pieces.head? = some p → ¬ p.IsText)
    (hrest : extractFrom number (written pieces) = .ok pieces) :
    extractFrom number (cs ++ written pieces) = .ok (.text cs :: pieces) := by
  induction cs with
  | nil => exact absurd rfl hcs
  | cons c cs ih =>
    obtain ⟨hc, hplain⟩ := noTokenIn_cons.mp hplain
    rw [List.cons_append, extractFrom_plain (readToken_eq_plain_iff.mpr hc)]
    cases cs with
    | nil =>
      rw [List.nil_append, hrest]
      show Except.ok (Piece.consText c pieces) = _
      unfold Piece.consText
      split
      next ds more => exact absurd trivial (hhead _ rfl)
      next => rfl
    | cons d cs =>
      rw [ih (List.cons_ne_nil _ _) hplain]
      rfl

/-- Pieces that are tidy and thorough are extracted from what they are written as. -/
theorem extractFrom_written (htidy : Tidy number pieces) (hthorough : Thorough pieces) :
    extractFrom number (written pieces) = .ok pieces := by
  induction pieces generalizing number with
  | nil => exact extractFrom_nil number
  | cons p pieces ih =>
    cases p with
    | text cs =>
      obtain ⟨hcs, hhead, htidy⟩ := tidy_text_cons.mp htidy
      obtain ⟨hplain, hthorough⟩ := thorough_text_cons.mp hthorough
      exact extractFrom_text hcs hplain hhead (ih htidy hthorough)
    | token t =>
      obtain ⟨hname, hnumber, htidy⟩ := tidy_token_cons.mp htidy
      obtain ⟨hends, hthorough⟩ := thorough_token_cons.mp hthorough
      rw [written_token_cons, extractFrom_token
        (readToken_eq_token_iff.mpr ⟨rfl, hname, hnumber, hends⟩), ih htidy hthorough]
      rfl

/-- The pieces of a text are the tidy and thorough ones that are written as it is. -/
theorem extractFrom_eq_ok_iff :
    extractFrom number cs = .ok pieces ↔
      written pieces = cs ∧ Tidy number pieces ∧ Thorough pieces := by
  constructor
  · exact extractFrom_ok
  · rintro ⟨rfl, htidy, hthorough⟩
    exact extractFrom_written htidy hthorough

/-- **The pieces of a pattern** are the tidy and thorough ones that are written as it is. -/
theorem extract_eq_ok_iff :
    extract pattern = .ok pieces ↔
      written pieces = pattern ∧ Tidy 0 pieces ∧ Thorough pieces := by
  rw [← extractFrom_eq_ok_iff]
  unfold extract
  cases extractFrom 0 pattern with
  | error fault => exact iff_of_false nofun nofun
  | ok more =>
    constructor
    · rintro ⟨⟩
      rfl
    · rintro ⟨⟩
      rfl

/-! ## The division of a pattern -/

/-- A pattern with a token of each kind, and what it is divided into. -/
def mixedPattern : String :=
  "if ($a$1b) $@op2x$# REGEX([)]\\)(x)) $$$$ $$é$@"

def mixedPieces : List Piece :=
  [.text "if (".toList, .token (.variable (.named ['a'])), .token (.literal (.named ['1'])),
    .text "b) ".toList, .token (.operator (.named "op2".toList)), .text ['x'],
    .token (.keyword (.anonymous 0)), .text [' '], .token (.raw "[)]\\)(x)".toList), .text [' '],
    .token (.block true (.anonymous 1)), .text ['$', ' '], .token (.block false (.anonymous 2)),
    .text ['é'], .token (.operator (.anonymous 3))]

theorem extract_mixedPattern : extract mixedPattern.toList = .ok mixedPieces := by decide +kernel

/-- **Nothing is lost.** Written one after the other, the pieces of a pattern are the pattern, and
they are tidy: no text is empty or beside another text, names have the shape of their kind, and the
unnamed tokens are numbered 0, 1, 2 and so on. -/
theorem extract_lossless (h : extract pattern = .ok pieces) :
    written pieces = pattern ∧ Tidy 0 pieces := by
  obtain ⟨hwritten, htidy, -⟩ := extract_eq_ok_iff.mp h
  exact ⟨hwritten, htidy⟩

theorem extract_lossless_mixed :
    extract mixedPattern.toList = .ok mixedPieces ∧
      written mixedPieces = mixedPattern.toList ∧ Tidy 0 mixedPieces :=
  ⟨extract_mixedPattern, extract_lossless extract_mixedPattern⟩

/-- **Nothing is missed.** No token begins inside a text, tokens end where they have to, and there
are no other pieces that are written as the pattern and of which all this is true. -/
theorem extract_unique (h : extract pattern = .ok pieces) :
    Thorough pieces ∧
      ∀ others, written others = pattern → Tidy 0 others → Thorough others → others = pieces := by
  obtain ⟨-, -, hthorough⟩ := extract_eq_ok_iff.mp h
  refine ⟨hthorough, fun others hwritten htidy hothers => ?_⟩
  have hsame := extract_eq_ok_iff.mpr ⟨hwritten, htidy, hothers⟩
  exact Except.ok.inj (hsame.symm.trans h)

theorem extract_unique_mixed :
    extract mixedPattern.toList = .ok mixedPieces ∧ Thorough mixedPieces ∧
      ∀ others, written others = mixedPattern.toList → Tidy 0 others → Thorough others →
        others = mixedPieces :=
  ⟨extract_mixedPattern, extract_unique extract_mixedPattern⟩

end CodeShape.Pattern
