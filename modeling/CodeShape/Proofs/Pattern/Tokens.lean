import Mathlib.Data.List.TakeWhile
import CodeShape.Proofs.Grammar.Words
import CodeShape.Proofs.Pattern.Bodies

/-!
# What a single token is

What may stand at the front of a text as a token, said without the reader: the shapes of names and
numbers (`IsTokenName`, `IsTokenNumber`), which identity a token of each kind has
(`Token.WellNamed`) and where it has to end (`Token.EndsBefore`). A name is taken as long as it
goes, and the body of a raw expression ends where `IsBody` says.

`readToken` is settled by two statements: it finds a token exactly where its written form stands in
front of what may follow it (`readToken_eq_token_iff`), and none exactly where no token begins
(`readToken_eq_plain_iff`).
-/

namespace CodeShape.Pattern

variable {cs name digits rest : List Char}

/-! ## Names and numbers -/

/-- The shape of a name: ASCII letters, then ASCII digits and underscores. -/
def IsTokenName (name : List Char) : Prop :=
  ∃ letters tail, name = letters ++ tail ∧ letters ≠ [] ∧ (∀ c ∈ letters, c.isAlpha = true) ∧
    ∀ c ∈ tail, (c.isDigit || c == '_') = true

/-- The shape of a number: ASCII digits. -/
def IsTokenNumber (digits : List Char) : Prop :=
  digits ≠ [] ∧ ∀ c ∈ digits, c.isDigit = true

/-- The character behind a word cannot extend it: the longer word would not have the shape. -/
def EndsWord (shape : List Char → Prop) (word rest : List Char) : Prop :=
  ∀ c, rest.head? = some c → ¬ shape (word ++ [c])

/-- The beginning of a word of the shape has the shape too, if there is anything of it. -/
def Continuous (shape : List Char → Prop) : Prop :=
  ∀ word c more, shape (word ++ c :: more) → shape (word ++ [c])

/-- Of the words at the front of a text only one ends where it has to. The empty word stands for a
word that is left out. -/
theorem eq_of_endsWord {shape : List Char → Prop} (hshape : Continuous shape)
    {word word' rest rest' : List Char} (h : word ++ rest = word' ++ rest')
    (hword : word = [] ∨ shape word) (hword' : word' = [] ∨ shape word')
    (hends : EndsWord shape word rest) (hends' : EndsWord shape word' rest') :
    word = word' ∧ rest = rest' := by
  have hlonger {front more back : List Char} (hends : EndsWord shape front (more ++ back))
      (hfront : front ++ more = [] ∨ shape (front ++ more)) : more = [] := by
    cases more with
    | nil => rfl
    | cons c more =>
      rcases hfront with hnil | hfront
      · exact absurd (List.append_eq_nil_iff.mp hnil).2 (List.cons_ne_nil _ _)
      · exact absurd (hshape front c more hfront) (hends c rfl)
  rcases List.append_eq_append_iff.mp h with ⟨more, rfl, rfl⟩ | ⟨more, rfl, rfl⟩
  · obtain rfl := hlonger hends hword'
    exact ⟨(List.append_nil _).symm, rfl⟩
  · obtain rfl := hlonger hends' hword
    exact ⟨List.append_nil _, rfl⟩

/-- No letter goes on the tail of a name. -/
theorem isAlpha_of_isTail {c : Char} (h : (c.isDigit || c == '_') = true) : c.isAlpha = false := by
  rcases Bool.or_eq_true_iff.mp h with hdigit | hline
  · rw [Grammar.isDigit_iff] at hdigit
    rw [Bool.eq_false_iff, Ne, Grammar.isAlpha_iff]
    omega
  · rw [beq_iff_eq.mp hline]
    rfl

theorem continuous_isTokenName : Continuous IsTokenName := by
  rintro word c more ⟨letters, tail, h, hne, hletters, htail⟩
  have hword : word ++ [c] = letters.take (word.length + 1) ++
      tail.take (word.length + 1 - letters.length) := by
    rw [← List.take_append, ← h, show word ++ c :: more = (word ++ [c]) ++ more by simp,
      List.take_append_of_le_length (by simp), List.take_of_length_le (by simp)]
  refine ⟨_, _, hword, ?_, fun d hd => hletters d (List.mem_of_mem_take hd),
    fun d hd => htail d (List.mem_of_mem_take hd)⟩
  obtain ⟨d, letters, rfl⟩ := List.exists_cons_of_ne_nil hne
  exact List.cons_ne_nil _ _

theorem continuous_isTokenNumber : Continuous IsTokenNumber := by
  intro word c more h
  refine ⟨by simp, fun d hd => h.2 d ?_⟩
  rw [show word ++ c :: more = (word ++ [c]) ++ more by simp]
  exact List.mem_append_left more hd

/-- A character alone is a name if it is a letter. -/
theorem isTokenName_singleton {c : Char} : IsTokenName [c] ↔ c.isAlpha = true := by
  constructor
  · rintro ⟨letters, tail, h, hne, hletters, -⟩
    obtain ⟨d, letters, rfl⟩ := List.exists_cons_of_ne_nil hne
    obtain rfl : c = d := (List.cons.inj h).1
    exact hletters c List.mem_cons_self
  · intro h
    exact ⟨[c], [], rfl, List.cons_ne_nil _ _, List.forall_mem_singleton.mpr h, nofun⟩

theorem isTokenNumber_singleton {c : Char} : IsTokenNumber [c] ↔ c.isDigit = true := by
  unfold IsTokenNumber
  simp

/-- A name begins with a letter. -/
theorem IsTokenName.exists_cons (h : IsTokenName name) :
    ∃ c more, name = c :: more ∧ c.isAlpha = true := by
  obtain ⟨letters, tail, rfl, hne, hletters, -⟩ := h
  obtain ⟨c, letters, rfl⟩ := List.exists_cons_of_ne_nil hne
  exact ⟨c, letters ++ tail, rfl, hletters c List.mem_cons_self⟩

/-- The last character of a name is on its tail, unless the name has letters only. -/
theorem IsTokenName.of_concat {c : Char} (h : IsTokenName (name ++ [c])) :
    (c.isDigit || c == '_') = true ∨ ∀ d ∈ name ++ [c], d.isAlpha = true := by
  obtain ⟨letters, tail, heq, -, hletters, htail⟩ := h
  rcases List.eq_nil_or_concat tail with rfl | ⟨front, last, rfl⟩
  · rw [heq, List.append_nil]
    exact Or.inr hletters
  · rw [List.concat_eq_append, ← List.append_assoc] at heq
    obtain rfl : c = last := List.singleton_inj.mp (List.append_inj' heq rfl).2
    exact Or.inl (htail c (by simp))

/-- What a run of characters ends at does not go on it. -/
theorem not_of_head?_dropWhile {p : Char → Bool} {c : Char}
    (h : (cs.dropWhile p).head? = some c) : p c = false := by
  have hhead := List.head?_dropWhile_not p cs
  rw [h] at hhead
  exact hhead

/-- A name is read as long as it goes. -/
theorem readName?_some (h : readName? cs = some (name, rest)) :
    cs = name ++ rest ∧ IsTokenName name ∧ EndsWord IsTokenName name rest := by
  unfold readName? at h
  dsimp only at h
  split at h
  next => cases h
  next hne =>
    cases h
    generalize hafter : cs.dropWhile Char.isAlpha = after
    have hletters : ∀ c ∈ cs.takeWhile Char.isAlpha, c.isAlpha = true :=
      fun c hc => List.mem_takeWhile_imp hc
    have htail : ∀ c ∈ after.takeWhile fun c => c.isDigit || c == '_',
        (c.isDigit || c == '_') = true :=
      fun c hc => List.mem_takeWhile_imp (p := fun c => c.isDigit || c == '_') hc
    refine ⟨?_, ⟨_, _, rfl, ?_, hletters, htail⟩, ?_⟩
    · rw [List.append_assoc, List.takeWhile_append_dropWhile, ← hafter,
        List.takeWhile_append_dropWhile]
    · intro hnil
      rw [hnil] at hne
      exact hne rfl
    · intro c hc hlonger
      rcases hlonger.of_concat with hend | hall
      · rw [not_of_head?_dropWhile hc] at hend
        exact Bool.false_ne_true hend
      · -- the longer name is letters only, so there is no tail and the letters go on
        have hnil : after.takeWhile (fun c => c.isDigit || c == '_') = [] := by
          refine List.eq_nil_iff_forall_not_mem.mpr fun d hd => ?_
          have halpha := hall d (by simp [hd])
          rw [isAlpha_of_isTail (htail d hd)] at halpha
          exact Bool.false_ne_true halpha
        have hsame := List.takeWhile_append_dropWhile (p := fun c => c.isDigit || c == '_')
          (l := after)
        rw [hnil, List.nil_append] at hsame
        rw [hsame, ← hafter] at hc
        have halpha := hall c (by simp)
        rw [not_of_head?_dropWhile hc] at halpha
        exact Bool.false_ne_true halpha

theorem readName?_none (h : readName? cs = none) : EndsWord IsTokenName [] cs := by
  intro c hc hname
  obtain ⟨more, rfl⟩ := List.head?_eq_some_iff.mp hc
  unfold readName? at h
  rw [List.takeWhile_cons_of_pos (isTokenName_singleton.mp hname)] at h
  cases h

/-- A number is read as long as it goes. -/
theorem readNumber?_some (h : readNumber? cs = some (digits, rest)) :
    cs = digits ++ rest ∧ IsTokenNumber digits ∧ EndsWord IsTokenNumber digits rest := by
  unfold readNumber? at h
  dsimp only at h
  split at h
  next => cases h
  next hne =>
    cases h
    refine ⟨List.takeWhile_append_dropWhile.symm, ⟨?_, fun c hc => List.mem_takeWhile_imp hc⟩, ?_⟩
    · intro hnil
      rw [hnil] at hne
      exact hne rfl
    · intro c hc hnumber
      have hdigit := hnumber.2 c (by simp)
      rw [not_of_head?_dropWhile hc] at hdigit
      exact Bool.false_ne_true hdigit

theorem readNumber?_none (h : readNumber? cs = none) : EndsWord IsTokenNumber [] cs := by
  intro c hc hnumber
  obtain ⟨more, rfl⟩ := List.head?_eq_some_iff.mp hc
  unfold readNumber? at h
  rw [List.takeWhile_cons_of_pos (isTokenNumber_singleton.mp hnumber)] at h
  cases h

/-- A reader that takes words as long as they go reads a word where it ends. -/
theorem read_append {shape : List Char → Prop} (hshape : Continuous shape)
    {read? : List Char → Option (List Char × List Char)}
    (hsome : ∀ {cs word rest}, read? cs = some (word, rest) →
      cs = word ++ rest ∧ shape word ∧ EndsWord shape word rest)
    (hnone : ∀ {cs}, read? cs = none → EndsWord shape [] cs) {word : List Char} (hne : word ≠ [])
    (hword : shape word) (hends : EndsWord shape word rest) :
    read? (word ++ rest) = some (word, rest) := by
  cases hread : read? (word ++ rest) with
  | none =>
    obtain ⟨c, more, rfl⟩ := List.exists_cons_of_ne_nil hne
    exact absurd (hshape [] c more hword) (hnone hread c rfl)
  | some found =>
    obtain ⟨heq, hfound, hfoundEnds⟩ := hsome hread
    obtain ⟨rfl, rfl⟩ := eq_of_endsWord hshape heq (Or.inr hword) (Or.inr hfound) hends hfoundEnds
    rfl

theorem IsTokenName.ne_nil (h : IsTokenName name) : name ≠ [] := by
  obtain ⟨c, more, rfl, -⟩ := h.exists_cons
  exact List.cons_ne_nil c more

/-- Where a name ends, it is read. -/
theorem readName?_append (hname : IsTokenName name) (hends : EndsWord IsTokenName name rest) :
    readName? (name ++ rest) = some (name, rest) :=
  read_append continuous_isTokenName readName?_some readName?_none hname.ne_nil hname hends

theorem readName?_of_endsWord (h : EndsWord IsTokenName [] cs) : readName? cs = none := by
  cases hread : readName? cs with
  | none => rfl
  | some found =>
    obtain ⟨heq, hfound, -⟩ := readName?_some hread
    obtain ⟨c, more, hname, hc⟩ := hfound.exists_cons
    rw [heq, hname] at h
    exact absurd (isTokenName_singleton.mpr hc) (h c rfl)

/-- Where a number ends, it is read. -/
theorem readNumber?_append (hdigits : IsTokenNumber digits)
    (hends : EndsWord IsTokenNumber digits rest) :
    readNumber? (digits ++ rest) = some (digits, rest) :=
  read_append continuous_isTokenNumber readNumber?_some readNumber?_none hdigits.1 hdigits hends

/-! ## Tokens -/

/-- The number of an unnamed token. -/
def Token.number? (t : Token) : Option Nat :=
  match t.identity? with
  | some (.anonymous number) => some number
  | _ => none

/-- The identity of a token is of its kind: variables have a name, literals a number, operators and
keywords a name or none, and blocks none. -/
def Token.WellNamed : Token → Prop
  | .variable id => ∃ name, id = .named name ∧ IsTokenName name
  | .literal id => ∃ digits, id = .named digits ∧ IsTokenNumber digits
  | .operator id | .keyword id => ∀ name, id = .named name → IsTokenName name
  | .block _ id => ∃ number, id = .anonymous number
  | .raw _ => True

/-- A token ends where `rest` begins: what follows cannot extend its name, a lazy block cannot be the
beginning of a greedy one, and a raw expression ends at the parenthesis that closes it. -/
def Token.EndsBefore (rest : List Char) : Token → Prop
  | .variable id | .operator id | .keyword id => EndsWord IsTokenName id.written rest
  | .literal id => EndsWord IsTokenNumber id.written rest
  | .block false _ => rest.head? ≠ some '$'
  | .block true _ => True
  | .raw body => IsBody body

/-- A token as it is read in front of `rest`, `number` being the number of the next unnamed one. -/
structure Token.IsRead (number : Nat) (rest : List Char) (t : Token) : Prop where
  wellNamed : t.WellNamed
  numbered : ∀ n, t.number? = some n → n = number
  ends : t.EndsBefore rest

/-- A token begins at the front of a text, whether or not it is ever closed. -/
def OpensToken (cs : List Char) : Prop :=
  rawOpening <+: cs ∨ ∃ c rest, cs = '$' :: c :: rest ∧
    (c ∈ ['$', '@', '#'] ∨ c.isAlpha = true ∨ c.isDigit = true)

variable {number : Nat} {id : Identity} {t : Token}

/-- An identity that is read has a name that is taken as long as it goes, or none if no name can be
read. -/
theorem readIdentity_eq_iff :
    readIdentity number cs = (id, rest) ↔ cs = id.written ++ rest ∧
      (∀ name, id = .named name → IsTokenName name) ∧ (∀ n, id = .anonymous n → n = number) ∧
      EndsWord IsTokenName id.written rest := by
  constructor
  · intro h
    unfold readIdentity at h
    cases hname : readName? cs with
    | none =>
      rw [hname] at h
      cases h
      exact ⟨rfl, nofun, fun n hn => (Identity.anonymous.inj hn).symm, readName?_none hname⟩
    | some found =>
      rw [hname] at h
      cases h
      obtain ⟨hcs, hshape, hends⟩ := readName?_some hname
      exact ⟨hcs, fun name heq => Identity.named.inj heq ▸ hshape, nofun, hends⟩
  · rintro ⟨rfl, hname, hnumber, hends⟩
    unfold readIdentity
    cases id with
    | named name => rw [show (Identity.named name).written = name from rfl,
        readName?_append (hname name rfl) hends]
    | anonymous n =>
      rw [hnumber n rfl, show (Identity.anonymous number).written ++ rest = rest from rfl,
        readName?_of_endsWord hends]

theorem written_raw_append (body rest : List Char) :
    (Token.raw body).written ++ rest
      = 'R' :: 'E' :: 'G' :: 'E' :: 'X' :: '(' :: (body ++ ')' :: rest) := by
  show rawOpening ++ body ++ [')'] ++ rest = _
  rw [List.append_assoc, List.append_assoc]
  rfl

theorem identity_of_number? {n : Nat} (h : t.number? = some n) :
    t.identity? = some (.anonymous n) := by
  unfold Token.number? at h
  split at h
  next m hid =>
    cases h
    exact hid
  next => cases h

/-- A token that is read stands in front of what is left, and ends there. -/
theorem readToken_token (h : readToken number cs = .token t rest) :
    cs = t.written ++ rest ∧ t.IsRead number rest := by
  unfold readToken at h
  split at h
  next after =>
    split at h
    next body rest' hbody =>
      cases h
      obtain ⟨rfl, hends⟩ := readBody?_eq_some_iff.mp hbody
      exact ⟨(written_raw_append _ _).symm, trivial, by rintro _ ⟨⟩, hends⟩
    next => cases h
  -- blocks need only their signs, and the lazy one that no further sign follows
  next after =>
    cases h
    exact ⟨rfl, ⟨number, rfl⟩, fun n hn => (Option.some.inj hn).symm, trivial⟩
  next after hthree =>
    cases h
    refine ⟨rfl, ⟨number, rfl⟩, fun n hn => (Option.some.inj hn).symm, fun hhead => ?_⟩
    obtain ⟨more, rfl⟩ := List.head?_eq_some_iff.mp hhead
    exact hthree more rfl
  next after =>
    generalize hread : readIdentity number after = found at h
    obtain ⟨id, after'⟩ := found
    cases h
    obtain ⟨rfl, hname, hnumber, hends⟩ := readIdentity_eq_iff.mp hread
    exact ⟨rfl, hname, fun n hn => hnumber n (Option.some.inj (identity_of_number? hn)), hends⟩
  next after =>
    generalize hread : readIdentity number after = found at h
    obtain ⟨id, after'⟩ := found
    cases h
    obtain ⟨rfl, hname, hnumber, hends⟩ := readIdentity_eq_iff.mp hread
    exact ⟨rfl, hname, fun n hn => hnumber n (Option.some.inj (identity_of_number? hn)), hends⟩
  next after _ _ _ =>
    split at h
    next name after' hname =>
      cases h
      obtain ⟨rfl, hshape, hends⟩ := readName?_some hname
      exact ⟨rfl, ⟨name, rfl, hshape⟩, by rintro _ ⟨⟩, hends⟩
    next digits after' _ hdigits =>
      cases h
      obtain ⟨rfl, hshape, hends⟩ := readNumber?_some hdigits
      exact ⟨rfl, ⟨digits, rfl, hshape⟩, by rintro _ ⟨⟩, hends⟩
    next => cases h
  next => cases h

/-- Behind a dollar sign that opens nothing else, a name or a number makes a token. -/
theorem readToken_dollar {c : Char} (hc : c ∉ ['$', '@', '#']) :
    readToken number ('$' :: c :: cs)
      = match readName? (c :: cs), readNumber? (c :: cs) with
        | some (name, rest), _ => .token (.variable (.named name)) rest
        | none, some (digits, rest) => .token (.literal (.named digits)) rest
        | none, none => .plain := by
  simp only [List.mem_cons, List.not_mem_nil, or_false, not_or] at hc
  obtain ⟨hdollar, hat, hhash⟩ := hc
  unfold readToken
  split
  next h => cases h
  next h => exact absurd (List.cons.inj (List.cons.inj h).2).1 hdollar
  next h => exact absurd (List.cons.inj (List.cons.inj h).2).1 hdollar
  next h => exact absurd (List.cons.inj (List.cons.inj h).2).1 hat
  next h => exact absurd (List.cons.inj (List.cons.inj h).2).1 hhash
  next h =>
    cases h
    rfl
  next hother => exact absurd rfl (hother (c :: cs))

theorem not_mem_signs {c : Char} (h : c.isAlpha = true ∨ c.isDigit = true) :
    c ∉ ['$', '@', '#'] := by
  intro hmem
  simp only [List.mem_cons, List.not_mem_nil, or_false] at hmem
  rcases hmem with rfl | rfl | rfl <;> exact absurd h (by decide)

/-- A token that ends where it has to is read. -/
theorem Token.IsRead.readToken (h : t.IsRead number rest) :
    Pattern.readToken number (t.written ++ rest) = .token t rest := by
  obtain ⟨hname, hnumber, hends⟩ := h
  cases t with
  | «variable» id =>
    obtain ⟨name, rfl, hshape⟩ := hname
    obtain ⟨c, more, rfl, hc⟩ := hshape.exists_cons
    -- a third dollar sign would make the block greedy, but it may not follow
    show Pattern.readToken number ('$' :: c :: (more ++ rest)) = _
    rw [readToken_dollar (not_mem_signs (Or.inl hc)), ← List.cons_append,
      readName?_append hshape hends]
  | literal id =>
    obtain ⟨digits, rfl, hshape⟩ := hname
    obtain ⟨c, more, rfl⟩ := List.exists_cons_of_ne_nil hshape.1
    have hc : c.isDigit = true := hshape.2 c List.mem_cons_self
    -- a digit begins no name, and so the number is what is read
    have hletter : EndsWord IsTokenName [] (c :: (more ++ rest)) := by
      intro d hd hdname
      obtain rfl : c = d := Option.some.inj hd
      have halpha : c.isAlpha = true := isTokenName_singleton.mp hdname
      rw [isAlpha_of_isTail (by rw [hc, Bool.true_or])] at halpha
      exact Bool.false_ne_true halpha
    show Pattern.readToken number ('$' :: c :: (more ++ rest)) = _
    rw [readToken_dollar (not_mem_signs (Or.inr hc)), readName?_of_endsWord hletter,
      ← List.cons_append, readNumber?_append hshape hends]
  | operator id =>
    have hread : readIdentity number (id.written ++ rest) = (id, rest) :=
      readIdentity_eq_iff.mpr ⟨rfl, hname, fun n hn => hnumber n (by rw [hn]; rfl), hends⟩
    show (let named := readIdentity number (id.written ++ rest)
      Front.token (.operator named.1) named.2) = _
    rw [hread]
  | keyword id =>
    have hread : readIdentity number (id.written ++ rest) = (id, rest) :=
      readIdentity_eq_iff.mpr ⟨rfl, hname, fun n hn => hnumber n (by rw [hn]; rfl), hends⟩
    show (let named := readIdentity number (id.written ++ rest)
      Front.token (.keyword named.1) named.2) = _
    rw [hread]
  | block greedy id =>
    obtain ⟨n, rfl⟩ := hname
    obtain rfl := hnumber n rfl
    cases greedy with
    | true => rfl
    | false =>
      show Pattern.readToken n ('$' :: '$' :: rest) = _
      rw [Pattern.readToken]
      rintro more rfl
      exact hends rfl
  | raw body =>
    rw [written_raw_append, Pattern.readToken,
      readBody?_eq_some_iff.mpr ⟨rfl, hends⟩]

/-- **A token is read** exactly where it stands in front of what may follow it. -/
theorem readToken_eq_token_iff :
    readToken number cs = .token t rest ↔ cs = t.written ++ rest ∧ t.IsRead number rest := by
  constructor
  · exact readToken_token
  · rintro ⟨rfl, h⟩
    exact h.readToken

/-- Behind a dollar sign a token begins with another sign, a letter or a digit. -/
theorem opensToken_dollar :
    OpensToken ('$' :: cs) ↔
      ∃ c rest, cs = c :: rest ∧ (c ∈ ['$', '@', '#'] ∨ c.isAlpha = true ∨ c.isDigit = true) := by
  constructor
  · rintro (⟨more, h⟩ | ⟨c, rest, h, hc⟩)
    · cases h
    · exact ⟨c, rest, (List.cons.inj h).2, hc⟩
  · rintro ⟨c, rest, rfl, hc⟩
    exact Or.inr ⟨c, rest, rfl, hc⟩

/-- A token begins whatever comes behind what it begins with. -/
theorem OpensToken.append (h : OpensToken cs) (rest : List Char) : OpensToken (cs ++ rest) := by
  rcases h with h | ⟨c, behind, rfl, hc⟩
  · exact .inl (h.trans (List.prefix_append cs rest))
  · exact .inr ⟨c, behind ++ rest, rfl, hc⟩

/-- **No token is read** exactly where none begins. -/
theorem readToken_eq_plain_iff : readToken number cs = .plain ↔ ¬ OpensToken cs := by
  unfold readToken
  split
  next after =>
    refine iff_of_false ?_ (not_not_intro (Or.inl ⟨after, rfl⟩))
    split <;> rintro ⟨⟩
  next after =>
    exact iff_of_false (by rintro ⟨⟩) (not_not_intro (opensToken_dollar.mpr ⟨'$', _, rfl, by decide⟩))
  next after _ =>
    exact iff_of_false (by rintro ⟨⟩) (not_not_intro (opensToken_dollar.mpr ⟨'$', _, rfl, by decide⟩))
  next after =>
    exact iff_of_false (by rintro ⟨⟩) (not_not_intro (opensToken_dollar.mpr ⟨'@', _, rfl, by decide⟩))
  next after =>
    exact iff_of_false (by rintro ⟨⟩) (not_not_intro (opensToken_dollar.mpr ⟨'#', _, rfl, by decide⟩))
  next after hdollar hat hhash =>
    rw [opensToken_dollar]
    split
    next name rest hname =>
      obtain ⟨rfl, hshape, -⟩ := readName?_some hname
      obtain ⟨c, more, rfl, hc⟩ := hshape.exists_cons
      exact iff_of_false (by rintro ⟨⟩) (not_not_intro ⟨c, _, rfl, Or.inr (Or.inl hc)⟩)
    next digits rest _ hdigits =>
      obtain ⟨rfl, hshape, -⟩ := readNumber?_some hdigits
      obtain ⟨c, more, rfl⟩ := List.exists_cons_of_ne_nil hshape.1
      exact iff_of_false (by rintro ⟨⟩)
        (not_not_intro ⟨c, _, rfl, Or.inr (Or.inr (hshape.2 c List.mem_cons_self))⟩)
    next hname hdigits =>
      -- neither a name nor a number could be read, so none begins here
      refine iff_of_true rfl ?_
      rintro ⟨c, rest, rfl, hsign | halpha | hdigit⟩
      · simp only [List.mem_cons, List.not_mem_nil, or_false] at hsign
        rcases hsign with rfl | rfl | rfl
        · exact hdollar rest rfl
        · exact hat rest rfl
        · exact hhash rest rfl
      · exact readName?_none hname c rfl (isTokenName_singleton.mpr halpha)
      · exact readNumber?_none hdigits c rfl (isTokenNumber_singleton.mpr hdigit)
  next hraw _ _ _ _ hdollar =>
    refine iff_of_true rfl ?_
    rintro (⟨more, rfl⟩ | ⟨c, rest, rfl, -⟩)
    · exact hraw more rfl
    · exact hdollar _ rfl

end CodeShape.Pattern
