import CodeShape.Text.Digits
import CodeShape.Text.Ends

/-!
# Dates and times

A moment is a date, a time of day, or both with or without an offset. `DateTime.read?` takes the forms
of RFC 3339, a blank or a small letter between the parts allowed and the seconds optional;
`DateTime.written` is the one form that they are written back in.
-/

namespace CodeShape.Toml

open CodeShape.Text (digitsValue)

/-- A day of the calendar. -/
structure Date where
  year : Nat
  month : Nat
  day : Nat
deriving Repr, DecidableEq

/-- A time of day. -/
structure Time where
  hour : Nat
  minute : Nat
  second : Option Nat := none
  nanosecond : Option Nat := none
deriving Repr, DecidableEq

/-- The distance of a local time from universal time. -/
inductive Offset where
  | zulu
  | minutes (n : Int)
deriving Repr, DecidableEq

/-- A date, a time, or both. -/
inductive DateTime where
  | date (d : Date)
  | time (t : Time)
  | moment (d : Date) (t : Time) (offset : Option Offset)
deriving Repr, DecidableEq

/-! ## Reading -/

/-- Reads a number of exactly `width` digits. -/
def readDigits? (width : Nat) (cs : List Char) : Option (Nat × List Char) :=
  let digits := cs.takeWhile Char.isDigit
  if digits.length = width then some (digitsValue 10 digits, cs.dropWhile Char.isDigit) else none

/-- Reads two numbers of two digits with a colon between them. -/
def readPair? (cs : List Char) : Option (Nat × Nat × List Char) := do
  let (a, cs) ← readDigits? 2 cs
  match cs with
  | ':' :: cs =>
    let (b, cs) ← readDigits? 2 cs
    return (a, b, cs)
  | _ => none

/-- The number of days in a month. -/
def daysIn (year month : Nat) : Nat :=
  if month = 2 then
    if year % 4 = 0 && (year % 100 != 0 || year % 400 = 0) then 29 else 28
  else if [4, 6, 9, 11].contains month then 30
  else 31

/-- Reads a date. -/
def Date.read? (cs : List Char) : Option (Date × List Char) := do
  let (year, cs) ← readDigits? 4 cs
  match cs with
  | '-' :: cs =>
    let (month, cs) ← readDigits? 2 cs
    match cs with
    | '-' :: cs =>
      let (day, cs) ← readDigits? 2 cs
      if 1 ≤ month && month ≤ 12 && 1 ≤ day && day ≤ daysIn year month then
        return (⟨year, month, day⟩, cs)
      else none
    | _ => none
  | _ => none

/-- The nanoseconds that the digits of a fraction write; digits behind the ninth say nothing. -/
def nanoseconds (digits : List Char) : Nat :=
  let kept := digits.take 9
  digitsValue 10 kept * Nat.pow 10 (9 - kept.length)

/-- Reads a time. -/
def Time.read? (cs : List Char) : Option (Time × List Char) := do
  let (hour, minute, cs) ← readPair? cs
  let (second, cs) ← match cs with
    | ':' :: cs => (readDigits? 2 cs).map fun (s, cs) => (some s, cs)
    | _ => some (none, cs)
  let (nanosecond, cs) ← match second, cs with
    | some _, '.' :: cs =>
      let digits := cs.takeWhile Char.isDigit
      if digits.isEmpty then none
      else some (some (nanoseconds digits), cs.dropWhile Char.isDigit)
    | _, _ => some (none, cs)
  if hour ≤ 23 && minute ≤ 59 && second.getD 0 ≤ 60 then
    return (⟨hour, minute, second, nanosecond⟩, cs)
  else none

/-- Reads an offset to the end of the text; the end alone is none. -/
def Offset.read? (cs : List Char) : Option (Option Offset) := do
  let ofPair (sign : Int) (cs : List Char) : Option (Option Offset) := do
    let (h, m, rest) ← readPair? cs
    if h ≤ 23 && m ≤ 59 && rest.isEmpty then return some (.minutes (sign * (60 * h + m)))
    else none
  match cs with
  | [] => some none
  | ['Z'] | ['z'] => some (some .zulu)
  | '+' :: cs => ofPair 1 cs
  | '-' :: cs => ofPair (-1) cs
  | _ => none

/-- Reads a text that is a moment from beginning to end. -/
def DateTime.read? (cs : List Char) : Option DateTime :=
  match Date.read? cs with
  | some (d, []) => some (.date d)
  | some (d, c :: cs) => do
    if ['T', 't', ' '].contains c then
      let (t, cs) ← Time.read? cs
      return .moment d t (← Offset.read? cs)
    else none
  | none =>
    match Time.read? cs with
    | some (t, []) => some (.time t)
    | _ => none

/-! ## Writing -/

/-- A number with zeros in front of it, up to the given width. -/
def padded (width n : Nat) : List Char :=
  let digits := Nat.toDigits 10 n
  List.replicate (width - digits.length) '0' ++ digits

/-- A date as it is written. -/
def Date.written (d : Date) : List Char :=
  padded 4 d.year ++ '-' :: (padded 2 d.month ++ '-' :: padded 2 d.day)

/-- The digits of a fraction of a second, without zeros at the end but for a first one. -/
def fraction (nanosecond : Nat) : List Char :=
  let digits := Text.dropEndWhile (· == '0') (padded 9 nanosecond)
  if digits.isEmpty then ['0'] else digits

/-- A time as it is written. -/
def Time.written (t : Time) : List Char :=
  padded 2 t.hour ++ ':' :: padded 2 t.minute ++
    (match t.second with
      | some s => ':' :: padded 2 s
      | none => []) ++
    (match t.nanosecond with
      | some n => '.' :: fraction n
      | none => [])

/-- An offset as it is written. -/
def Offset.written : Offset → List Char
  | zulu => ['Z']
  | minutes n =>
    (if n < 0 then '-' else '+') :: (padded 2 (n.natAbs / 60) ++ ':' :: padded 2 (n.natAbs % 60))

/-- A moment as it is written. -/
def DateTime.written : DateTime → List Char
  | date d => d.written
  | time t => t.written
  | moment d t offset =>
    d.written ++ 'T' :: t.written ++
      (match offset with
        | some o => o.written
        | none => [])

end CodeShape.Toml
