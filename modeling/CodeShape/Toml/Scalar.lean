import CodeShape.Toml.Value

/-!
# Values that are written without quotes

Booleans, numbers and moments: each is a run of characters that is read as a whole. Digits may be
grouped by underscores, which have to stand between two digits.
-/

namespace CodeShape.Toml

open CodeShape.Text (isDigitIn digitsValue)

/-! ## Digits -/

/-- The digits of a text that consists of digits, grouped by underscores or not. -/
def ungroup? (base : Nat) : List Char → Option (List Char)
  | [] => none
  | [c] => if isDigitIn base c then some [c] else none
  | c :: '_' :: rest =>
    if isDigitIn base c then (ungroup? base rest).map (c :: ·) else none
  | c :: rest => if isDigitIn base c then (ungroup? base rest).map (c :: ·) else none

/-! ## Integers -/

/-- An integer, if it fits into 64 bits. -/
def bounded? (n : Int) : Option Int :=
  if -0x8000000000000000 ≤ n && n < 0x8000000000000000 then some n else none

/-- The sign at the front of a text. -/
def splitSign : List Char → Int × List Char
  | '-' :: cs => (-1, cs)
  | '+' :: cs => (1, cs)
  | cs => (1, cs)

/-- Decimal digits without a needless zero in front. -/
def plainDigits? (cs : List Char) : Option (List Char) :=
  match ungroup? 10 cs with
  | some ('0' :: _ :: _) => none
  | digits => digits

/-- Reads an integer: decimal with a sign or without, or hexadecimal, octal or binary. -/
def readInteger? (cs : List Char) : Option Int := do
  match cs with
  | '0' :: 'x' :: cs => bounded? (digitsValue 16 (← ungroup? 16 cs))
  | '0' :: 'o' :: cs => bounded? (digitsValue 8 (← ungroup? 8 cs))
  | '0' :: 'b' :: cs => bounded? (digitsValue 2 (← ungroup? 2 cs))
  | _ =>
    let (sign, cs) := splitSign cs
    bounded? (sign * (digitsValue 10 (← plainDigits? cs) : Nat))

/-! ## Numbers with a fraction or an exponent -/

/-- From here on a number is nearer to infinity than to the greatest double. -/
def infinityBound : Nat := Nat.pow 2 1024 - Nat.pow 2 970

/-- Does `digits · 10 ^ exponent` stay below infinity? The sizes decide before the powers are taken. -/
def isFinite (digits : List Char) (exponent : Int) : Bool :=
  let digits := digits.dropWhile (· == '0')
  let magnitude := digits.length + exponent
  if digits.isEmpty || magnitude < 300 then true
  else if 320 < magnitude then false
  else
    digitsValue 10 digits * Nat.pow 10 exponent.toNat <
      infinityBound * Nat.pow 10 (-exponent).toNat

/-- Splits a text at the first character that has a property. -/
def splitBefore (p : Char → Bool) (cs : List Char) : List Char × List Char :=
  (cs.takeWhile (!p ·), cs.dropWhile (!p ·))

/-- The digits behind the point, at the front of a text that may have an exponent behind them. -/
def readFraction? (cs : List Char) : Option (List Char × List Char) :=
  match cs with
  | '.' :: cs =>
    let (written, rest) := splitBefore (fun c => c == 'e' || c == 'E') cs
    (ungroup? 10 written).map (·, rest)
  | _ => some ([], cs)

/-- The exponent that a text consists of, no text standing for zero. -/
def readExponent? (cs : List Char) : Option Int :=
  match cs with
  | [] => some 0
  | _ :: cs => do
    let (sign, cs) := splitSign cs
    return sign * (digitsValue 10 (← ungroup? 10 cs) : Nat)

/-- Is a text a number with a fraction or an exponent that is not too large, an infinity or no number,
with a sign or without? -/
def isFloat (cs : List Char) : Bool :=
  let (_, cs) := splitSign cs
  if cs == ['i', 'n', 'f'] || cs == ['n', 'a', 'n'] then true
  else
    let (whole, rest) := splitBefore (fun c => c == '.' || c == 'e' || c == 'E') cs
    let parts : Option (List Char × Int) := do
      let whole ← plainDigits? whole
      let (fraction, rest) ← readFraction? rest
      let exponent ← readExponent? rest
      return (whole ++ fraction, exponent - fraction.length)
    !rest.isEmpty && parts.any fun (digits, exponent) => isFinite digits exponent

/-! ## All of them -/

/-- The value that a run of characters writes. -/
def readScalar? (cs : List Char) : Option Value :=
  if cs == "true".toList then some (.boolean true)
  else if cs == "false".toList then some (.boolean false)
  else
    match readInteger? cs, DateTime.read? cs with
    | some n, _ => some (.integer n)
    | none, some d => some (.dateTime d)
    | none, none => if isFloat cs then some (.float (String.ofList cs)) else none

/-- Does a character end a value that is written without quotes? -/
def endsScalar (c : Char) : Bool :=
  [' ', '\t', '\n', '\r', '#', ',', ']', '}'].contains c

/-- Reads the value at the front of a text. A date goes on behind one blank if a digit follows. -/
def readScalarFront? (cs : List Char) : Option (Value × List Char) :=
  let (first, rest) := splitBefore endsScalar cs
  match DateTime.read? first, rest with
  | some (.date _), ' ' :: c :: more =>
    if c.isDigit then
      let (second, rest) := splitBefore endsScalar (c :: more)
      (readScalar? (first ++ ' ' :: second)).map (·, rest)
    else (readScalar? first).map (·, rest)
  | _, _ => (readScalar? first).map (·, rest)

end CodeShape.Toml
