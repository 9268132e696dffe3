import CodeShape.Proofs.Regex.Consumption
import CodeShape.Proofs.Regex.Reading

/-!
# Lexemes

A step of the reader does two things: it finds out what stands at the front of the text, and it
changes the reader accordingly. The first needs nothing of the reader but the flags in force and
whether a quantifier may follow (`lex`), the second nothing of the text (`Reader.take`), and the two
together are the step (`Reader.step_ok_iff`). So what a text means can be compared for two readers
that stand at different places, and what all steps do is said once, with one case for each kind of
lexeme.
-/

namespace CodeShape.Regex

variable {cs ds rest : List Char}

/-- A reference to a group, as it is written. -/
inductive Reference where
  | number (g : Nat)
  | name (name : List Char)
  /-- Groups are counted backwards. -/
  | back (n : Nat)
deriving Repr, DecidableEq

/-- What may stand at the front of a text. -/
inductive Lexeme where
  | chars (s : CharSet)
  | assert (a : Assertion)
  | keepOut
  | searchStart
  | reference (target : Reference)
  /-- Flags that are in force up to the end of the level. -/
  | flags (f : Flags)
  /-- Opens parentheses with the given flags in them. -/
  | parens (inside : Flags)
  | group (name : Option (List Char))
  | atomic
  | look (side : Side) (negated : Bool)
  | close
  | bar
  | quantifier (lo : Nat) (hi : Option Nat) (greedy possessive : Bool)
deriving Repr

/-! ## Finding out what stands there -/

/-- A reference by name, from the name on up to `stop`. -/
def lexReference (stop : Char) (cs : List Char) : Except Fault (Lexeme × List Char) :=
  match cs with
  | '-' :: rest => do
    let (name, rest) ← Reader.readName stop rest
    match readDecimal? name with
    | some (n, []) => return (.reference (.back n), rest)
    | _ => .error .badGroupName
  | _ => do
    let (name, rest) ← Reader.readName stop cs
    return (.reference (.name name), rest)

/-- What stands behind a backslash. -/
def lexBackslash (f : Flags) (len : Nat) (cs : List Char) : Except Fault (Lexeme × List Char) :=
  match cs with
  | [] => .error .trailingBackslash
  | 'k' :: '\'' :: rest => lexReference '\'' rest
  | 'k' :: '<' :: rest => lexReference '>' rest
  | 'k' :: _ => .error .badGroupName
  | 'A' :: rest => .ok (.assert .textStart, rest)
  | 'z' :: rest => .ok (.assert .textEnd, rest)
  | 'b' :: '{' :: _ => .error .unknownEscape
  | 'B' :: '{' :: _ => .error .unknownEscape
  | 'b' :: rest => .ok (.assert .wordEdge, rest)
  | 'B' :: rest => .ok (.assert .notWordEdge, rest)
  | '<' :: rest => .ok (.assert .wordStart, rest)
  | '>' :: rest => .ok (.assert .wordEnd, rest)
  | 'K' :: rest => .ok (.keepOut, rest)
  | 'G' :: rest => .ok (.searchStart, rest)
  | c :: _ =>
    if c.isDigit then
      match readDecimal? cs with
      | some (g, rest) =>
        if g < len / 2 then .ok (.reference (.number g), rest) else .error .unknownGroup
      | none => .error .unknownGroup
    else do
      let (e, rest) ← readEscape f.ignoreCase cs
      return (.chars (e.toSet f.ignoreCase), rest)

/-- Flags, from behind `(?` on. -/
def lexFlags (f : Flags) (letters : Nat) (negated : Bool) (last : Char) :
    List Char → Except Fault (Lexeme × List Char)
  | [] => .error .unclosedGroup
  | ')' :: rest => if letters = 0 || last == '-' then .error .unknownFlag else .ok (.flags f, rest)
  | ':' :: rest => if last == '-' then .error .unknownFlag else .ok (.parens f, rest)
  | '-' :: rest =>
    if negated then .error .unknownFlag else lexFlags f (letters + 1) true '-' rest
  | c :: rest =>
    match f.set? c (!negated) with
    | some f => lexFlags f (letters + 1) negated c rest
    | none => .error .unknownFlag

/-- A named group, from the name on. -/
def lexName (cs : List Char) : Except Fault (Lexeme × List Char) := do
  let (name, rest) ← Reader.readName '>' cs
  return (.group (some name), rest)

/-- What stands behind an opening parenthesis and what is skipped there. -/
def lexOpening (f : Flags) : List Char → Except Fault (Lexeme × List Char)
  | '?' :: '=' :: rest => .ok (.look .ahead false, rest)
  | '?' :: '!' :: rest => .ok (.look .ahead true, rest)
  | '?' :: '<' :: '=' :: rest => .ok (.look .behind false, rest)
  | '?' :: '<' :: '!' :: rest => .ok (.look .behind true, rest)
  | '?' :: '<' :: rest => lexName rest
  | '?' :: 'P' :: '<' :: rest => lexName rest
  | '?' :: 'P' :: '=' :: rest => lexReference ')' rest
  | '?' :: '>' :: rest => .ok (.atomic, rest)
  | '?' :: rest => lexFlags f 0 false '?' rest
  | rest => .ok (.group none, rest)

/-- An item, from its first character on. -/
def lexItem (f : Flags) (len : Nat) (c : Char) (rest : List Char) :
    Except Fault (Lexeme × List Char) :=
  match c with
  | '.' => .ok (.chars (if f.dotAll then .all else .notNewline), rest)
  | '^' => .ok (.assert (if f.lines then .lineStart else .textStart), rest)
  | '$' => .ok (.assert (if f.lines then .lineEnd else .textEnd), rest)
  | '(' => do lexOpening f (← skipBlanks f.spaced .blanks rest)
  | ')' => .ok (.close, rest)
  | '|' => .ok (.bar, rest)
  | '\\' => lexBackslash f len rest
  | '[' => do
    let (items, rest) ← Bracket.scan f.ignoreCase rest
    return (.chars (← Bracket.read f.ignoreCase items), rest)
  | '?' | '*' | '+' => .error .nothingToRepeat
  | _ => .ok (.chars ((CharSet.single c).withCase f.ignoreCase), rest)

/-- Splits off a mark, if it stands at the front. -/
def splitMark (mark : Char) : List Char → Bool × List Char
  | [] => (false, [])
  | c :: rest => if c = mark then (true, rest) else (false, c :: rest)

/-- A quantifier whose limits have been read, with what makes it lazy or keeps it from giving
anything back. -/
def lexQuantifier (f : Flags) (limits : Nat × Option Nat) (cs : List Char) :
    Except Fault (Lexeme × List Char) := do
  let mark := splitMark '?' (← skipBlanks f.spaced .blanks cs)
  let more := splitMark '+' mark.2
  return (.quantifier limits.1 limits.2 (mark.1 == f.swapGreed) more.1, more.2)

/-- What stands at the front of a text: a quantifier, if one may stand there, or else an item. -/
def lex (f : Flags) (quantifiable : Bool) (len : Nat) (c : Char) (cs : List Char) :
    Except Fault (Lexeme × List Char) :=
  match quantifiable, ({ flags := f } : Reader).readQuantifier? (c :: cs) with
  | true, some (limits, rest) => lexQuantifier f limits rest
  | _, _ => lexItem f len c cs

/-! ## Changing the reader -/

namespace Reader

variable {len : Nat} {r s : Reader} {c : Char}

/-- Refers to a group. -/
def refer (r : Reader) : Reference → Except Fault Reader
  | .number g => do
    let r ← r.pushBackref g
    return { r with numbered := true }
  | .name name => r.pushNamedBackref name
  | .back n =>
    if n = 0 || r.groups < n then .error .unknownGroup else r.pushBackref (r.groups + 1 - n)

/-- Whatever a group is referred to by, it has been opened, and the reference becomes pending. Only
whether it is by number is recorded besides. -/
theorem refer_ok {target : Reference} (h : r.refer target = .ok s) :
    ∃ g b, g ≤ r.groups ∧ s = { r.push (.backref g) with numbered := b } := by
  have hpush {g : Nat} (h : r.pushBackref g = .ok s) :
      ∃ g b, g ≤ r.groups ∧ s = { r.push (.backref g) with numbered := b } := by
    obtain ⟨hle, rfl⟩ := pushBackref_ok_iff.mp h
    exact ⟨g, _, hle, rfl⟩
  cases target with
  | number g =>
    obtain ⟨s', hs', h⟩ := bind_eq_ok_iff.mp h
    obtain ⟨hle, rfl⟩ := pushBackref_ok_iff.mp hs'
    exact ⟨g, true, hle, (Except.ok.inj h).symm⟩
  | name name =>
    obtain ⟨g, hg⟩ := exists_of_pushNamedBackref h
    exact hpush hg
  | back n =>
    rw [refer] at h
    split at h
    next => cases h
    next => exact hpush h

/-- Applies a quantifier to the pending item. -/
def repeatPending (r : Reader) (lo : Nat) (hi : Option Nat) (greedy possessive : Bool) :
    Except Fault Reader :=
  match r.pending with
  | none => .error .nothingToRepeat
  | some e =>
    if !e.isRepeatable then .error .nothingToRepeat
    else if hi.any (· < lo) then .error .emptyRepetition
    else
      let item := Expr.repeated lo hi greedy e
      .ok { r with level := r.level.add (if possessive then .atomic item else item), pending := none }

/-- An item is repeated if it may be, and if the limits leave room for any number of times. -/
theorem repeatPending_ok_iff {lo : Nat} {hi : Option Nat} {greedy possessive : Bool} :
    r.repeatPending lo hi greedy possessive = .ok s ↔
      ∃ e, r.pending = some e ∧ e.isRepeatable = true ∧ hi.any (· < lo) = false ∧
        s = { r with
          level := r.level.add
            (if possessive then .atomic (.repeated lo hi greedy e) else .repeated lo hi greedy e)
          pending := none } := by
  unfold repeatPending
  cases r.pending with
  | none => exact iff_of_false nofun (by rintro ⟨e, ⟨⟩, -⟩)
  | some e =>
    dsimp only
    constructor
    · intro h
      split at h
      next => cases h
      next hrep =>
        split at h
        next => cases h
        next hhi =>
          exact ⟨e, rfl, by simpa using hrep, eq_false_of_ne_true hhi, (Except.ok.inj h).symm⟩
    · rintro ⟨_, ⟨⟩, hrep, hhi, rfl⟩
      rw [hrep, hhi]
      rfl

/-- What a lexeme makes of the reader. -/
def take (r : Reader) : Lexeme → Except Fault Reader
  | .chars s => .ok (r.push (.chars s))
  | .assert a => .ok (r.push (.assert a))
  | .keepOut => .ok (r.push .keepOut)
  | .searchStart => .ok (r.push .searchStart)
  | .reference target => r.refer target
  | .flags f => .ok ({ r.settle with flags := f }.push .empty)
  | .parens inside => { r.settle with flags := inside }.openLevel (.parens r.flags)
  | .group name => r.openGroup name
  | .atomic => r.openLevel .atomic
  | .look side negated => r.openLevel (.look side negated)
  | .close => r.closeLevel
  | .bar => .ok { r.settle with level := r.settle.level.branch }
  | .quantifier lo hi greedy possessive => r.repeatPending lo hi greedy possessive

/-- Finds out what stands there, and changes the reader accordingly. -/
def taking (r : Reader) (found : Except Fault (Lexeme × List Char)) :
    Except Fault (Reader × List Char) := do
  let (a, rest) ← found
  return (← r.take a, rest)

theorem taking_ok (a : Lexeme) : r.taking (.ok (a, rest)) = (do return (← r.take a, rest)) := rfl

theorem taking_ok_iff {found : Except Fault (Lexeme × List Char)} :
    r.taking found = .ok (s, rest) ↔ ∃ a, found = .ok (a, rest) ∧ r.take a = .ok s := by
  unfold taking
  rw [bind_eq_ok_iff]
  constructor
  · rintro ⟨⟨a, rest'⟩, hfound, hs⟩
    obtain ⟨s', htake, heq⟩ := bind_eq_ok_iff.mp hs
    cases heq
    exact ⟨a, hfound, htake⟩
  · rintro ⟨a, hfound, htake⟩
    refine ⟨(a, rest), hfound, ?_⟩
    dsimp only
    rw [htake]
    rfl

theorem taking_bind {α : Type} (x : Except Fault α)
    (found : α → Except Fault (Lexeme × List Char)) :
    r.taking (x >>= found) = x >>= fun a => r.taking (found a) := by
  cases x <;> rfl

theorem readBackref_eq_taking (stop : Char) (cs : List Char) :
    r.readBackref stop cs = r.taking (lexReference stop cs) := by
  unfold readBackref
  split
  next rest =>
    rw [lexReference, taking_bind]
    refine bind_congr fun found => ?_
    obtain ⟨name, rest⟩ := found
    dsimp only
    rcases readDecimal? name with _ | ⟨n, _ | ⟨c, more⟩⟩
    · rfl
    · change _ = r.taking (.ok (.reference (.back n), rest))
      rw [taking_ok, take, refer]
      by_cases h : (n = 0 || r.groups < n) = true
      · rw [if_pos h]
        exact if_pos h
      · rw [if_neg h]
        exact if_neg h
    · rfl
  next hminus =>
    rw [lexReference, taking_bind]
    · rfl
    · exact hminus

theorem readBackslash_eq_taking (len : Nat) (cs : List Char) :
    r.readBackslash len cs = r.taking (lexBackslash r.flags len cs) := by
  unfold readBackslash
  split
  case h_2 | h_3 => exact readBackref_eq_taking ..
  case h_15 c cs _ _ _ _ _ _ _ _ _ _ _ _ _ =>
    rw [lexBackslash]
    any_goals assumption
    by_cases hdigit : c.isDigit = true
    · rw [if_pos hdigit, if_pos hdigit]
      rcases readDecimal? (c :: cs) with _ | ⟨g, rest⟩
      · rfl
      · dsimp only
        by_cases hg : g < len / 2
        · rw [if_pos hg, if_pos hg, taking_ok, take, refer]
          cases r.pushBackref g <;> rfl
        · rw [if_neg hg, if_neg hg]
          rfl
    · rw [if_neg hdigit, if_neg hdigit, taking_bind]
      rfl
  case h_4 | h_9 | h_10 =>
    rw [lexBackslash]
    any_goals assumption
    rfl
  all_goals rfl

theorem readFlags_eq_taking (hpending : r.pending = none) (f : Flags) (letters : Nat)
    (negated : Bool) (last : Char) (cs : List Char) :
    { r with flags := f }.readFlags r.flags letters negated last cs
      = r.taking (lexFlags f letters negated last cs) := by
  have hsettle : r.settle = r := settle_of_none hpending
  fun_induction lexFlags f letters negated last cs with
  | case1 => rfl
  | case2 f letters negated last rest h =>
    rw [readFlags, if_pos h]
    rfl
  | case3 f letters negated last rest h =>
    rw [readFlags, if_neg h, taking_ok, take, hsettle]
    rfl
  | case4 f letters negated last rest h =>
    rw [readFlags, if_pos h]
    rfl
  | case5 f letters negated last rest h =>
    rw [readFlags, if_neg h, taking_ok, take, hsettle]
  | case6 f letters last rest =>
    rw [readFlags, if_pos rfl]
    rfl
  | case7 f letters negated last rest h ih =>
    rw [readFlags, if_neg h]
    exact ih
  | case8 f letters negated last c rest hclose hcolon hminus f' hset ih =>
    rw [readFlags]
    · rw [hset]
      exact ih
    · exact hclose
    · exact hcolon
    · exact hminus
  | case9 f letters negated last c rest hclose hcolon hminus hset =>
    rw [readFlags]
    · rw [hset]
      rfl
    · exact hclose
    · exact hcolon
    · exact hminus

theorem taking_settle {found : Except Fault (Lexeme × List Char)} {f : Flags}
    {letters : Nat} {negated : Bool} {last : Char}
    (h : found = lexFlags f letters negated last cs) : r.settle.taking found = r.taking found := by
  subst h
  fun_induction lexFlags f letters negated last cs with
  | case3 f letters negated last rest h =>
    rw [taking_ok, taking_ok, take, take, settle_settle]
  | case5 f letters negated last rest h =>
    rw [taking_ok, taking_ok, take, take, settle_settle, settle_flags]
  | case7 f letters negated last rest h ih => exact ih
  | case8 f letters negated last c rest hclose hcolon hminus f' hset ih => exact ih
  | _ => rfl

theorem readOpen_eq_taking (cs : List Char) :
    r.readOpen cs
      = r.taking (do lexOpening r.flags (← skipBlanks r.flags.spaced .blanks cs)) := by
  have hflags (rest : List Char) : r.settle.readFlags r.flags 0 false '?' rest
      = r.taking (lexFlags r.flags 0 false '?' rest) := by
    have h := readFlags_eq_taking (settle_pending r) r.settle.flags 0 false '?' rest
    rw [taking_settle rfl, settle_flags] at h
    rw [← h, ← settle_flags r]
  have hname (rest : List Char) : (do
      let (name, rest) ← readName '>' rest
      return (← r.openGroup (some name), rest)) = r.taking (lexName rest) := by
    rw [lexName, taking_bind]
    rfl
  rw [taking_bind]
  refine bind_congr fun ds => ?_
  split
  case h_5 =>
    rw [lexOpening]
    any_goals assumption
    exact hname _
  case h_6 => exact hname _
  case h_7 => exact readBackref_eq_taking ..
  case h_9 =>
    rw [lexOpening]
    any_goals assumption
    exact hflags _
  case h_10 =>
    rw [lexOpening]
    any_goals assumption
    rfl
  all_goals rfl

theorem readItem_eq_taking (len : Nat) (c : Char) (rest : List Char) :
    r.readItem len c rest = r.taking (lexItem r.flags len c rest) := by
  unfold readItem
  split
  case h_4 => exact readOpen_eq_taking _
  case h_7 => exact readBackslash_eq_taking ..
  case h_8 =>
    rw [lexItem, taking_bind]
    refine bind_congr fun found => ?_
    obtain ⟨items, rest⟩ := found
    rw [taking_bind]
    rfl
  case h_12 =>
    rw [lexItem]
    any_goals assumption
    rfl
  all_goals rfl

theorem readQuantifier?_eq (r : Reader) (cs : List Char) :
    r.readQuantifier? cs = ({ flags := r.flags } : Reader).readQuantifier? cs := rfl

theorem take_quantifier {e : Expr} (he : r.pending = some e) {lo : Nat} {hi : Option Nat}
    (greedy possessive : Bool) :
    r.take (.quantifier lo hi greedy possessive)
      = if !e.isRepeatable then .error .nothingToRepeat
        else if hi.any (· < lo) then .error .emptyRepetition
        else .ok { r with
          level := r.level.add (if possessive then .atomic (.repeated lo hi greedy e)
            else .repeated lo hi greedy e)
          pending := none } := by
  rw [take, repeatPending, he]

theorem quantify_ok_iff {e : Expr} (he : r.pending = some e) {limits : Nat × Option Nat} :
    r.quantify e limits.1 limits.2 cs = .ok (s, rest) ↔
      ∃ a, lexQuantifier r.flags limits cs = .ok (a, rest) ∧ r.take a = .ok s := by
  rw [← taking_ok_iff]
  unfold quantify lexQuantifier
  rw [taking_bind]
  -- where the item cannot be repeated, both sides fail, if perhaps for different reasons
  by_cases hrep : e.isRepeatable = true
  · by_cases hhi : limits.2.any (· < limits.1) = true
    · simp only [hrep, hhi]
      refine iff_of_false (by rintro ⟨⟩) fun h => ?_
      obtain ⟨ds, -, h⟩ := bind_eq_ok_iff.mp h
      obtain ⟨a, ha, htake⟩ := taking_ok_iff.mp h
      cases ha
      rw [take_quantifier he, hrep, hhi] at htake
      cases htake
    · simp only [hrep, hhi, Bool.not_true, Bool.false_eq_true, if_false]
      refine iff_of_eq (congrArg (· = Except.ok (s, rest)) (bind_congr fun ds => ?_))
      change _ = r.taking (.ok (.quantifier limits.1 limits.2 _ _, _))
      rw [taking_ok, take_quantifier he, hrep, if_neg (by simp), if_neg hhi]
      rcases ds with _ | ⟨c, ds⟩
      · rfl
      · by_cases hopt : c = '?'
        · subst hopt
          rcases ds with _ | ⟨d, ds⟩
          · rfl
          · by_cases hplus : d = '+'
            · subst hplus
              rfl
            · simp [splitMark, hplus]
              rfl
        · by_cases hplus : c = '+'
          · subst hplus
            rfl
          · simp [splitMark, hopt, hplus]
            rfl
  · simp only [hrep, Bool.not_false, if_true]
    refine iff_of_false (by rintro ⟨⟩) fun h => ?_
    obtain ⟨ds, -, h⟩ := bind_eq_ok_iff.mp h
    obtain ⟨a, ha, htake⟩ := taking_ok_iff.mp h
    cases ha
    rw [take_quantifier he, if_pos (by simp [hrep])] at htake
    cases htake

/-- **A step finds out what stands there and changes the reader accordingly.** -/
theorem step_ok_iff {cs : List Char} :
    r.step len c cs = .ok (s, rest) ↔
      ∃ a, lex r.flags r.pending.isSome len c cs = .ok (a, rest) ∧ r.take a = .ok s := by
  unfold step lex
  rw [readQuantifier?_eq r]
  cases he : r.pending with
  | none =>
    rw [readItem_eq_taking, taking_ok_iff]
    rfl
  | some e =>
    dsimp only
    rcases hquant : ({ flags := r.flags } : Reader).readQuantifier? (c :: cs) with _ | ⟨limits, ds⟩
    · dsimp only
      rw [readItem_eq_taking, taking_ok_iff]
      rfl
    · exact quantify_ok_iff he

/-- A run ends where nothing is left, or takes what stands there and goes on. -/
theorem run_succ_ok_iff {fuel : Nat} {t : Reader} :
    run len (fuel + 1) r cs = .ok t ↔
      r.skip cs = .ok [] ∧ r = t ∨
      ∃ c ds a s rest, r.skip cs = .ok (c :: ds) ∧
        lex r.flags r.pending.isSome len c ds = .ok (a, rest) ∧ r.take a = .ok s ∧
        run len fuel s rest = .ok t := by
  rw [run]
  cases r.skip cs with
  | error => exact iff_of_false (by rintro ⟨⟩) (by rintro (⟨h, -⟩ | ⟨_, _, _, _, _, h, -⟩) <;> cases h)
  | ok ds =>
    cases ds with
    | nil =>
      constructor
      · intro h
        exact .inl ⟨rfl, Except.ok.inj h⟩
      · rintro (⟨-, rfl⟩ | ⟨_, _, _, _, _, h, -⟩)
        · rfl
        · cases h
    | cons c ds =>
      change (r.step len c ds >>= fun found => run len fuel found.1 found.2) = .ok t ↔ _
      constructor
      · intro h
        obtain ⟨⟨s, rest⟩, hstep, hrun⟩ := bind_eq_ok_iff.mp h
        obtain ⟨a, ha, htake⟩ := step_ok_iff.mp hstep
        exact .inr ⟨c, ds, a, s, rest, rfl, ha, htake, hrun⟩
      · rintro (⟨h, -⟩ | ⟨c', ds', a, s, rest, h, ha, htake, hrun⟩)
        · cases h
        · cases h
          exact bind_eq_ok_iff.mpr ⟨(s, rest), step_ok_iff.mpr ⟨a, ha, htake⟩, hrun⟩

/-- What no lexeme changes is not changed by a run. -/
theorem run_preserves {P : Reader → Prop} {fuel : Nat}
    (htake : ∀ r s a, P r → r.take a = .ok s → P s) (hr : P r) (hs : run len fuel r cs = .ok s) :
    P s := by
  induction fuel generalizing r cs with
  | zero =>
    cases hs
    exact hr
  | succ fuel ih =>
    rcases run_succ_ok_iff.mp hs with ⟨-, rfl⟩ | ⟨c, ds, a, r', rest, -, -, hr', hs⟩
    · exact hr
    · exact ih (htake r r' a hr hr') hs

end Reader

end CodeShape.Regex
