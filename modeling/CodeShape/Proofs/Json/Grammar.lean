import Mathlib.Data.List.DropRight
import CodeShape.Json.Value
import CodeShape.Text.Digits

/-!
# The grammar of JSON

`Written v cs` says that a text is a JSON text of a value, with blanks wherever JSON allows them and
strings escaped in every way that JSON knows. `read?` reads such a text, and finds the value of every
one that there is (`Document.read?_eq`), so that no text is a JSON text of two values.
-/

namespace CodeShape.Json

/-! ## The grammar -/

/-- The blanks that may stand between the parts of a text. -/
def isBlank (c : Char) : Bool :=
  c == ' ' || c == '\t' || c == '\n' || c == '\r'

/-- Nothing but blanks. -/
def Blank (cs : List Char) : Prop :=
  ∀ c ∈ cs, isBlank c = true

/-- The decimal digits of a number. No zero comes before others. -/
structure Numeral (n : Nat) (ds : List Char) : Prop where
  ne_nil : ds ≠ []
  digits : ∀ d ∈ ds, d.isDigit = true
  zero : ds.head? = some '0' → ds.length = 1
  value : Text.digitsValue 10 ds = n

/-- The character that is written as a backslash and the given one. -/
def shortEscape? : Char → Option Char
  | '"' => some '"'
  | '\\' => some '\\'
  | '/' => some '/'
  | 'b' => some '\x08'
  | 'f' => some '\x0c'
  | 'n' => some '\n'
  | 'r' => some '\r'
  | 't' => some '\t'
  | _ => none

/-- The four hexadecimal digits of a number. -/
structure CodeUnit (n : Nat) (ds : List Char) : Prop where
  length : ds.length = 4
  digits : ds.all (Text.isDigitIn 16) = true
  value : Text.digitsValue 16 ds = n

/-- Does a number come first in a pair that stands for one character? -/
def IsHigh (n : Nat) : Prop :=
  0xD800 ≤ n ∧ n < 0xDC00

/-- Does a number come second in such a pair? -/
def IsLow (n : Nat) : Prop :=
  0xDC00 ≤ n ∧ n < 0xE000

instance (n : Nat) : Decidable (IsHigh n) :=
  inferInstanceAs (Decidable (_ ∧ _))

instance (n : Nat) : Decidable (IsLow n) :=
  inferInstanceAs (Decidable (_ ∧ _))

/-- The number of the character that a pair stands for. -/
def pairCode (high low : Nat) : Nat :=
  0x10000 + 0x400 * (high - 0xD800) + (low - 0xDC00)

/-- A character as it may stand in a string. -/
inductive CharWritten : Char → List Char → Prop
  | plain {c : Char} (hquote : c ≠ '"') (hslash : c ≠ '\\') (hcontrol : 0x20 ≤ c.toNat) :
      CharWritten c [c]
  | short {c e : Char} (h : shortEscape? e = some c) : CharWritten c ['\\', e]
  | unit {c : Char} {ds : List Char} (h : CodeUnit c.toNat ds) : CharWritten c ('\\' :: 'u' :: ds)
  | pair {c : Char} {high low : Nat} {ds es : List Char} (hds : CodeUnit high ds)
      (hes : CodeUnit low es) (hhigh : IsHigh high) (hlow : IsLow low)
      (hc : c.toNat = pairCode high low) :
      CharWritten c ('\\' :: 'u' :: (ds ++ '\\' :: 'u' :: es))

/-- The characters of a string, one after the other. -/
inductive CharsWritten : List Char → List Char → Prop
  | nil : CharsWritten [] []
  | cons {c : Char} {s cs rest : List Char} (hc : CharWritten c cs) (hs : CharsWritten s rest) :
      CharsWritten (c :: s) (cs ++ rest)

mutual

/-- A JSON text of a value, without blanks around it. -/
inductive Written : Value → List Char → Prop
  | number {n : Nat} {ds : List Char} (h : Numeral n ds) : Written (.number n) ds
  | string {s : String} {cs : List Char} (h : CharsWritten s.toList cs) :
      Written (.string s) ('"' :: (cs ++ ['"']))
  | emptyArray {bs : List Char} (hb : Blank bs) : Written (.array []) ('[' :: (bs ++ [']']))
  | array {vs : List Value} {cs : List Char} (h : ElementsWritten vs cs) :
      Written (.array vs) ('[' :: (cs ++ [']']))
  | emptyObject {bs : List Char} (hb : Blank bs) : Written (.object []) ('{' :: (bs ++ ['}']))
  | object {ms : List (String × Value)} {cs : List Char} (h : MembersWritten ms cs) :
      Written (.object ms) ('{' :: (cs ++ ['}']))

/-- The elements of an array, one at least, with commas between them. -/
inductive ElementsWritten : List Value → List Char → Prop
  | one {v : Value} {bs cs ts : List Char} (hb : Blank bs) (hv : Written v cs) (ha : Blank ts) :
      ElementsWritten [v] (bs ++ cs ++ ts)
  | cons {v : Value} {vs : List Value} {bs cs ts rest : List Char} (hb : Blank bs)
      (hv : Written v cs) (ha : Blank ts) (hvs : ElementsWritten vs rest) :
      ElementsWritten (v :: vs) (bs ++ cs ++ ts ++ ',' :: rest)

/-- The members of an object, one at least, with commas between them. -/
inductive MembersWritten : List (String × Value) → List Char → Prop
  | one {key : String} {v : Value} {ks ps bs cs ts qs : List Char} (hp : Blank ps)
      (hkey : CharsWritten key.toList ks) (hq : Blank qs) (hb : Blank bs) (hv : Written v cs)
      (ha : Blank ts) :
      MembersWritten [(key, v)] (ps ++ '"' :: (ks ++ '"' :: (qs ++ ':' :: (bs ++ cs ++ ts))))
  | cons {key : String} {v : Value} {ms : List (String × Value)} {ks ps bs cs ts qs rest : List Char}
      (hp : Blank ps) (hkey : CharsWritten key.toList ks) (hq : Blank qs) (hb : Blank bs)
      (hv : Written v cs) (ha : Blank ts) (hms : MembersWritten ms rest) :
      MembersWritten ((key, v) :: ms)
        (ps ++ '"' :: (ks ++ '"' :: (qs ++ ':' :: (bs ++ cs ++ ts ++ ',' :: rest))))

end

/-- A whole document: one value, with blanks around it. -/
def Document (v : Value) (cs : List Char) : Prop :=
  ∃ bs text ts, Blank bs ∧ Written v text ∧ Blank ts ∧ cs = bs ++ text ++ ts

/-! ## The reader -/

def skipBlanks (cs : List Char) : List Char :=
  cs.dropWhile isBlank

/-- Reads four hexadecimal digits. -/
def readUnit (cs : List Char) : Option (Nat × List Char) :=
  let ds := cs.take 4
  if ds.length = 4 ∧ ds.all (Text.isDigitIn 16) = true then
    some (Text.digitsValue 16 ds, cs.drop 4)
  else none

/-- Reads what follows a backslash and the letter `u`. -/
def readCode (cs : List Char) : Option (Char × List Char) := do
  let (n, rest) ← readUnit cs
  if IsHigh n then
    match rest with
    | '\\' :: 'u' :: rest => do
      let (low, rest) ← readUnit rest
      if IsLow low then some (Char.ofNat (pairCode n low), rest) else none
    | _ => none
  else if n.isValidChar then some (Char.ofNat n, rest)
  else none

/-- Reads a character of a string. -/
def readChar : List Char → Option (Char × List Char)
  | '\\' :: 'u' :: rest => readCode rest
  | '\\' :: e :: rest => (shortEscape? e).map (·, rest)
  | '"' :: _ => none
  | c :: rest => if 0x20 ≤ c.toNat then some (c, rest) else none
  | [] => none

/-- Reads a string, from behind the first quote to behind the last. -/
def readString : Nat → List Char → Option (List Char × List Char)
  | 0, _ => none
  | _ + 1, '"' :: rest => some ([], rest)
  | fuel + 1, cs => do
    let (c, rest) ← readChar cs
    let (s, rest) ← readString fuel rest
    return (c :: s, rest)

/-- Reads a number. -/
def readNumber (cs : List Char) : Option (Nat × List Char) :=
  let ds := cs.takeWhile Char.isDigit
  if ds = [] ∨ ds.head? = some '0' ∧ ds.length ≠ 1 then none
  else some (Text.digitsValue 10 ds, cs.dropWhile Char.isDigit)

mutual

/-- Reads a value. -/
def readValue : Nat → List Char → Option (Value × List Char)
  | 0, _ => none
  | fuel + 1, '"' :: rest => do
    let (s, rest) ← readString fuel rest
    return (.string (String.ofList s), rest)
  | fuel + 1, '[' :: rest =>
    match skipBlanks rest with
    | ']' :: rest => some (.array [], rest)
    | rest => do
      let (vs, rest) ← readElements fuel rest
      return (.array vs, rest)
  | fuel + 1, '{' :: rest =>
    match skipBlanks rest with
    | '}' :: rest => some (.object [], rest)
    | rest => do
      let (ms, rest) ← readMembers fuel rest
      return (.object ms, rest)
  | _ + 1, cs => do
    let (n, rest) ← readNumber cs
    return (.number n, rest)

/-- Reads the elements of an array and the bracket behind them. -/
def readElements : Nat → List Char → Option (List Value × List Char)
  | 0, _ => none
  | fuel + 1, cs => do
    let (v, rest) ← readValue fuel (skipBlanks cs)
    match skipBlanks rest with
    | ',' :: rest => do
      let (vs, rest) ← readElements fuel rest
      return (v :: vs, rest)
    | ']' :: rest => return ([v], rest)
    | _ => none

/-- Reads the members of an object and the brace behind them. -/
def readMembers : Nat → List Char → Option (List (String × Value) × List Char)
  | 0, _ => none
  | fuel + 1, cs =>
    match skipBlanks cs with
    | '"' :: rest => do
      let (key, rest) ← readString fuel rest
      match skipBlanks rest with
      | ':' :: rest => do
        let (v, rest) ← readValue fuel (skipBlanks rest)
        match skipBlanks rest with
        | ',' :: rest => do
          let (ms, rest) ← readMembers fuel rest
          return ((String.ofList key, v) :: ms, rest)
        | '}' :: rest => return ([(String.ofList key, v)], rest)
        | _ => none
      | _ => none
    | _ => none

end

/-- Reads a whole document. -/
def read? (cs : List Char) : Option Value :=
  match readValue (cs.length + 1) (skipBlanks cs) with
  | some (v, rest) => if rest.all isBlank then some v else none
  | none => none

/-! ## Every text of a value is read -/

section

variable {rest : List Char}

theorem skipBlanks_append {bs cs : List Char} (hb : Blank bs) :
    skipBlanks (bs ++ cs) = skipBlanks cs :=
  List.dropWhile_append_of_pos hb

theorem skipBlanks_cons {c : Char} {cs : List Char} (hc : isBlank c = false) :
    skipBlanks (c :: cs) = c :: cs :=
  List.dropWhile_cons_of_neg (by rw [hc]; decide)

theorem readUnit_append {n : Nat} {ds : List Char} (h : CodeUnit n ds) :
    readUnit (ds ++ rest) = some (n, rest) := by
  obtain ⟨hlength, hdigits, hvalue⟩ := h
  unfold readUnit
  rw [List.take_left' hlength, List.drop_left' hlength]
  exact (if_pos ⟨hlength, hdigits⟩).trans (by rw [hvalue])

theorem isValidChar_toNat (c : Char) : c.toNat.isValidChar :=
  c.valid

/-- The number of a character is never one half of a pair. -/
theorem not_isHigh_toNat (c : Char) : ¬ IsHigh c.toNat := by
  have hc := isValidChar_toNat c
  unfold Nat.isValidChar at hc
  unfold IsHigh
  omega

theorem readCode_unit {c : Char} {ds : List Char} (h : CodeUnit c.toNat ds) :
    readCode (ds ++ rest) = some (c, rest) := by
  unfold readCode
  rw [readUnit_append h]
  dsimp only [bind, Option.bind]
  rw [if_neg (not_isHigh_toNat c), if_pos (isValidChar_toNat c), Char.ofNat_toNat]

theorem readCode_pair {c : Char} {high low : Nat} {ds es : List Char} (hds : CodeUnit high ds)
    (hes : CodeUnit low es) (hhigh : IsHigh high) (hlow : IsLow low)
    (hc : c.toNat = pairCode high low) :
    readCode (ds ++ '\\' :: 'u' :: (es ++ rest)) = some (c, rest) := by
  unfold readCode
  rw [readUnit_append hds]
  dsimp only [bind, Option.bind]
  rw [if_pos hhigh]
  change (readUnit (es ++ rest)).bind _ = _
  rw [readUnit_append hes]
  dsimp only [Option.bind]
  rw [if_pos hlow, ← hc, Char.ofNat_toNat]

theorem readChar_append {c : Char} {cs : List Char} (h : CharWritten c cs) :
    readChar (cs ++ rest) = some (c, rest) := by
  cases h with
  | plain hquote hslash hcontrol =>
    rw [List.singleton_append, readChar]
    · exact if_pos hcontrol
    · exact fun _ h _ => hslash h
    · exact fun _ _ h _ => hslash h
    · exact hquote
  | @short e h =>
    have he : e ≠ 'u' := by
      rintro rfl
      cases h
    change readChar ('\\' :: e :: rest) = _
    rw [readChar]
    · rw [h]
      rfl
    · exact he
  | unit h => exact readCode_unit h
  | pair hds hes hhigh hlow hc =>
    rw [List.cons_append, List.cons_append, List.append_assoc]
    exact readCode_pair hds hes hhigh hlow hc

theorem CharWritten.ne_nil {c : Char} {cs : List Char} (h : CharWritten c cs) : cs ≠ [] := by
  cases h <;> exact List.cons_ne_nil _ _

theorem readString_append {s cs : List Char} (h : CharsWritten s cs) {fuel : Nat}
    (hfuel : cs.length < fuel) : readString fuel (cs ++ '"' :: rest) = some (s, rest) := by
  induction h generalizing fuel with
  | nil =>
    cases fuel with
    | zero => exact absurd hfuel (Nat.not_lt_zero _)
    | succ fuel => rfl
  | @cons c s cs cs' hc hs ih =>
    cases fuel with
    | zero => exact absurd hfuel (Nat.not_lt_zero _)
    | succ fuel =>
      have hread : readChar (cs ++ (cs' ++ '"' :: rest)) = some (c, cs' ++ '"' :: rest) :=
        readChar_append hc
      have hpos := List.length_pos_iff.mpr hc.ne_nil
      rw [List.length_append] at hfuel
      rw [List.append_assoc, readString, hread]
      · dsimp only [bind, Option.bind]
        rw [ih (by omega)]
        rfl
      · intro rest' heq
        rw [heq, readChar] at hread
        cases hread

/-- A text that does not begin with a digit. -/
def NoDigit (cs : List Char) : Prop :=
  ∀ c ∈ cs.head?, c.isDigit = false

theorem noDigit_cons {c : Char} {cs : List Char} (hc : c.isDigit = false) : NoDigit (c :: cs) := by
  intro d hd
  cases hd
  exact hc

theorem Blank.noDigit_append {bs cs : List Char} (hb : Blank bs) (hcs : NoDigit cs) :
    NoDigit (bs ++ cs) := by
  cases bs with
  | nil => exact hcs
  | cons b bs =>
    refine noDigit_cons ?_
    have hblank := hb b List.mem_cons_self
    simp only [isBlank, Bool.or_eq_true, beq_iff_eq] at hblank
    obtain ((rfl | rfl) | rfl) | rfl := hblank <;> rfl

theorem readNumber_append {n : Nat} {ds : List Char} (h : Numeral n ds) (hrest : NoDigit rest) :
    readNumber (ds ++ rest) = some (n, rest) := by
  obtain ⟨hne, hdigits, hzero, hvalue⟩ := h
  have htake : rest.takeWhile Char.isDigit = [] := by
    cases rest with
    | nil => rfl
    | cons c cs => exact List.takeWhile_cons_of_neg (by rw [hrest c rfl]; decide)
  have hdrop : rest.dropWhile Char.isDigit = rest := by
    cases rest with
    | nil => rfl
    | cons c cs => exact List.dropWhile_cons_of_neg (by rw [hrest c rfl]; decide)
  unfold readNumber
  rw [List.takeWhile_append_of_pos hdigits, List.dropWhile_append_of_pos hdigits, htake, hdrop,
    List.append_nil]
  refine (if_neg ?_).trans (by rw [hvalue])
  rintro (hnil | ⟨hhead, hlength⟩)
  · exact hne hnil
  · exact hlength (hzero hhead)

/-- A text of a value begins with a character that ends nothing. -/
theorem Written.exists_cons {v : Value} {cs : List Char} (h : Written v cs) :
    ∃ c tail, cs = c :: tail ∧ isBlank c = false ∧ c ≠ ']' ∧ c ≠ '}' := by
  cases h with
  | @number n _ h =>
    cases cs with
    | nil => exact absurd rfl h.ne_nil
    | cons d ds =>
      have hd := h.digits d List.mem_cons_self
      refine ⟨d, ds, rfl, ?_, ?_, ?_⟩
      · by_contra hblank
        simp only [isBlank, Bool.not_eq_false, Bool.or_eq_true, beq_iff_eq] at hblank
        obtain ((rfl | rfl) | rfl) | rfl := hblank <;> cases hd
      · rintro rfl
        cases hd
      · rintro rfl
        cases hd
  | string h => exact ⟨'"', _, rfl, by decide, by decide, by decide⟩
  | emptyArray hb => exact ⟨'[', _, rfl, by decide, by decide, by decide⟩
  | array h => exact ⟨'[', _, rfl, by decide, by decide, by decide⟩
  | emptyObject hb => exact ⟨'\x7b', _, rfl, by decide, by decide, by decide⟩
  | object h => exact ⟨'\x7b', _, rfl, by decide, by decide, by decide⟩

theorem Written.length_pos {v : Value} {cs : List Char} (h : Written v cs) : 0 < cs.length := by
  obtain ⟨c, tail, rfl, -⟩ := h.exists_cons
  exact Nat.succ_pos _

/-- Blanks before a text of a value are all skipped. -/
theorem Written.skipBlanks_append {v : Value} {bs cs : List Char} (h : Written v cs)
    (hb : Blank bs) : skipBlanks (bs ++ cs ++ rest) = cs ++ rest := by
  obtain ⟨c, tail, rfl, hc, -⟩ := h.exists_cons
  rw [List.append_assoc, Json.skipBlanks_append hb]
  exact skipBlanks_cons hc

theorem readValue_number {n : Nat} {ds : List Char} (h : Numeral n ds) (hrest : NoDigit rest)
    (fuel : Nat) : readValue (fuel + 1) (ds ++ rest) = some (.number n, rest) := by
  have hread := readNumber_append h hrest
  have hhead (c : Char) (tail : List Char) (heq : ds ++ rest = c :: tail) : c.isDigit = true := by
    cases ds with
    | nil => exact absurd rfl h.ne_nil
    | cons d ds => exact (List.cons.inj heq).1 ▸ h.digits d List.mem_cons_self
  rw [readValue, hread]
  · rfl
  all_goals
    intro tail heq
    exact absurd (hhead _ _ heq) (by decide)

/-- The first element of an array and what follows it, once the value is read. -/
theorem readElements_value {v : Value} {bs cs ts tail : List Char} {fuel : Nat} (hb : Blank bs)
    (hv : Written v cs) (ht : Blank ts)
    (hread : readValue fuel (cs ++ (ts ++ tail)) = some (v, ts ++ tail)) :
    readElements (fuel + 1) (bs ++ cs ++ ts ++ tail) =
      match skipBlanks tail with
      | ',' :: tail => (readElements fuel tail).map fun p => (v :: p.1, p.2)
      | ']' :: tail => some ([v], tail)
      | _ => none := by
  rw [readElements, List.append_assoc (bs ++ cs), hv.skipBlanks_append hb, hread]
  dsimp only [bind, Option.bind]
  rw [skipBlanks_append ht]
  split
  · cases readElements fuel _ <;> rfl
  · rfl
  · rfl

/-- The first member of an object and what follows it, once the value is read. -/
theorem readMembers_value {key : String} {v : Value} {ps ks qs bs cs ts tail : List Char} {fuel : Nat}
    (hp : Blank ps) (hkey : CharsWritten key.toList ks) (hks : ks.length < fuel) (hq : Blank qs)
    (hb : Blank bs) (hv : Written v cs) (ht : Blank ts)
    (hread : readValue fuel (cs ++ (ts ++ tail)) = some (v, ts ++ tail)) :
    readMembers (fuel + 1)
        (ps ++ '"' :: (ks ++ '"' :: (qs ++ ':' :: (bs ++ cs ++ ts ++ tail)))) =
      match skipBlanks tail with
      | ',' :: tail => (readMembers fuel tail).map fun p => ((key, v) :: p.1, p.2)
      | '\x7d' :: tail => some ([(key, v)], tail)
      | _ => none := by
  rw [readMembers, skipBlanks_append hp, skipBlanks_cons (by decide)]
  change (readString fuel (ks ++ '"' :: _)).bind _ = _
  rw [readString_append hkey hks]
  dsimp only [Option.bind]
  rw [skipBlanks_append hq, skipBlanks_cons (by decide)]
  change (readValue fuel (skipBlanks (bs ++ cs ++ ts ++ tail))).bind _ = _
  rw [List.append_assoc (bs ++ cs), hv.skipBlanks_append hb, hread]
  dsimp only [Option.bind]
  rw [skipBlanks_append ht, String.ofList_toList]
  split
  · cases readMembers fuel _ <;> rfl
  · rfl
  · rfl

/-- Elements do not begin with a closing bracket. -/
theorem ElementsWritten.skipBlanks_ne {vs : List Value} {cs tail : List Char}
    (h : ElementsWritten vs cs) : skipBlanks (cs ++ rest) ≠ ']' :: tail := by
  obtain ⟨v, bs, text, back, hb, hv, rfl⟩ : ∃ v bs text back, Blank bs ∧ Written v text ∧
      cs = bs ++ text ++ back := by
    cases h with
    | one hb hv ht => exact ⟨_, _, _, _, hb, hv, rfl⟩
    | cons hb hv ht hvs => exact ⟨_, _, _, _, hb, hv, List.append_assoc _ _ _⟩
  obtain ⟨c, text', rfl, hc, hne, -⟩ := hv.exists_cons
  rw [List.append_assoc, hv.skipBlanks_append hb]
  exact fun heq => hne (List.cons.inj heq).1

/-- Members begin with a quote. -/
theorem MembersWritten.skipBlanks_ne {ms : List (String × Value)} {cs tail : List Char}
    (h : MembersWritten ms cs) : skipBlanks (cs ++ rest) ≠ '\x7d' :: tail := by
  obtain ⟨bs, back, hb, rfl⟩ : ∃ bs back, Blank bs ∧ cs = bs ++ '"' :: back := by
    cases h with
    | one hp => exact ⟨_, _, hp, rfl⟩
    | cons hp => exact ⟨_, _, hp, rfl⟩
  rw [List.append_assoc, skipBlanks_append hb, List.cons_append, skipBlanks_cons (by decide)]
  exact fun heq => absurd (List.cons.inj heq).1 (by decide)

theorem skipBlanks_skipBlanks (cs : List Char) : skipBlanks (skipBlanks cs) = skipBlanks cs :=
  List.dropWhile_idempotent isBlank cs

theorem readElements_skipBlanks {cs : List Char} (fuel : Nat) :
    readElements fuel (skipBlanks cs) = readElements fuel cs := by
  cases fuel with
  | zero => rfl
  | succ fuel => rw [readElements, readElements, skipBlanks_skipBlanks]

theorem readMembers_skipBlanks {cs : List Char} (fuel : Nat) :
    readMembers fuel (skipBlanks cs) = readMembers fuel cs := by
  cases fuel with
  | zero => rfl
  | succ fuel => rw [readMembers, readMembers, skipBlanks_skipBlanks]

mutual

theorem readValue_append {v : Value} {cs : List Char} (h : Written v cs) :
    ∀ (fuel : Nat) (rest : List Char), cs.length ≤ fuel → NoDigit rest →
      readValue fuel (cs ++ rest) = some (v, rest) := by
  intro fuel rest hfuel hrest
  have hpos : 0 < cs.length := h.length_pos
  obtain ⟨fuel, rfl⟩ : ∃ m, fuel = m + 1 := ⟨fuel - 1, by omega⟩
  match h with
  | .number h => exact readValue_number h hrest fuel
  | .string h =>
    simp only [List.length_cons, List.length_append, List.length_nil] at hfuel
    simp only [List.cons_append, List.append_assoc, List.nil_append]
    rw [readValue, readString_append h (by omega)]
    dsimp only [bind, Option.bind]
    rw [String.ofList_toList]
    rfl
  | .emptyArray hb =>
    simp only [List.cons_append, List.append_assoc, List.nil_append]
    rw [readValue, skipBlanks_append hb, skipBlanks_cons (by decide)]
    rfl
  | .array h =>
    simp only [List.length_cons, List.length_append, List.length_nil] at hfuel
    have hread := readElements_append h fuel rest (by omega)
    simp only [List.cons_append, List.append_assoc, List.nil_append]
    rw [readValue]
    split
    · next heq => exact absurd heq h.skipBlanks_ne
    · rw [readElements_skipBlanks, hread]
      rfl
  | .emptyObject hb =>
    simp only [List.cons_append, List.append_assoc, List.nil_append]
    rw [readValue, skipBlanks_append hb, skipBlanks_cons (by decide)]
    rfl
  | .object h =>
    simp only [List.length_cons, List.length_append, List.length_nil] at hfuel
    have hread := readMembers_append h fuel rest (by omega)
    simp only [List.cons_append, List.append_assoc, List.nil_append]
    rw [readValue]
    split
    · next heq => exact absurd heq h.skipBlanks_ne
    · rw [readMembers_skipBlanks, hread]
      rfl

theorem readElements_append {vs : List Value} {cs : List Char} (h : ElementsWritten vs cs) :
    ∀ (fuel : Nat) (rest : List Char), cs.length < fuel →
      readElements fuel (cs ++ ']' :: rest) = some (vs, rest) := by
  intro fuel rest hfuel
  obtain ⟨fuel, rfl⟩ : ∃ m, fuel = m + 1 := ⟨fuel - 1, by omega⟩
  match h with
  | .one hb hv ht =>
    simp only [List.length_append] at hfuel
    have hread := readValue_append hv fuel (_ ++ ']' :: rest) (by omega)
      (ht.noDigit_append (noDigit_cons (by decide)))
    rw [readElements_value hb hv ht hread, skipBlanks_cons (by decide)]
    rfl
  | @ElementsWritten.cons v vs bs cs ts tail hb hv ht hvs =>
    simp only [List.length_append, List.length_cons] at hfuel
    have hread := readValue_append hv fuel (ts ++ ',' :: (tail ++ ']' :: rest)) (by omega)
      (ht.noDigit_append (noDigit_cons (by decide)))
    have hmore := readElements_append hvs fuel rest (by omega)
    rw [List.append_assoc, List.cons_append, readElements_value hb hv ht hread,
      skipBlanks_cons (by decide)]
    change (readElements fuel (tail ++ ']' :: rest)).map _ = _
    rw [hmore]
    rfl

theorem readMembers_append {ms : List (String × Value)} {cs : List Char}
    (h : MembersWritten ms cs) : ∀ (fuel : Nat) (rest : List Char), cs.length < fuel →
      readMembers fuel (cs ++ '\x7d' :: rest) = some (ms, rest) := by
  intro fuel rest hfuel
  obtain ⟨fuel, rfl⟩ : ∃ m, fuel = m + 1 := ⟨fuel - 1, by omega⟩
  match h with
  | .one hp hkey hq hb hv ht =>
    simp only [List.length_append, List.length_cons] at hfuel
    have hread := readValue_append hv fuel (_ ++ '\x7d' :: rest) (by omega)
      (ht.noDigit_append (noDigit_cons (by decide)))
    have hmember := readMembers_value hp hkey (by omega) hq hb hv ht hread
    rw [skipBlanks_cons (by decide)] at hmember
    simpa only [List.append_assoc, List.cons_append] using hmember
  | @MembersWritten.cons key v ms ks ps bs cs ts qs tail hp hkey hq hb hv ht hms =>
    simp only [List.length_append, List.length_cons] at hfuel
    have hread := readValue_append hv fuel (ts ++ ',' :: (tail ++ '\x7d' :: rest)) (by omega)
      (ht.noDigit_append (noDigit_cons (by decide)))
    have hmore := readMembers_append hms fuel rest (by omega)
    have hmember := readMembers_value hp hkey (by omega) hq hb hv ht hread
    rw [skipBlanks_cons (by decide)] at hmember
    change _ = (readMembers fuel (tail ++ '\x7d' :: rest)).map _ at hmember
    rw [hmore] at hmember
    simpa only [List.append_assoc, List.cons_append, Option.map_some] using hmember

end

end

/-- **Every document is read, and as the value that it is a text of.** -/
theorem Document.read?_eq {v : Value} {cs : List Char} (h : Document v cs) :
    read? cs = some v := by
  obtain ⟨bs, text, ts, hb, hv, ht, rfl⟩ := h
  have hlast : NoDigit ts := by
    simpa only [List.append_nil] using ht.noDigit_append (fun c hc => nomatch hc : NoDigit [])
  unfold read?
  rw [hv.skipBlanks_append hb, readValue_append hv _ _ ?_ hlast]
  · exact if_pos (List.all_eq_true.mpr ht)
  · simp only [List.length_append]
    omega

/-- No text is a document of two values. -/
theorem Document.value_unique {v w : Value} {cs : List Char} (hv : Document v cs)
    (hw : Document w cs) : v = w := by
  have h : some v = some w := hv.read?_eq.symm.trans hw.read?_eq
  exact Option.some.inj h

end CodeShape.Json
