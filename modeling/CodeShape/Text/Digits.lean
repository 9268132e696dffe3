/-!
# Numbers written in digits
-/

namespace CodeShape.Text

/-- The value of a digit, the letters from `a` to `f` continuing after `9`. -/
def digitValue? (c : Char) : Option Nat :=
  if c.isDigit then some (c.toNat - 0x30)
  else if 'a' ≤ c && c ≤ 'f' then some (c.toNat - 0x57)
  else if 'A' ≤ c && c ≤ 'F' then some (c.toNat - 0x37)
  else none

/-- Is a character a digit in the given base? -/
def isDigitIn (base : Nat) (c : Char) : Bool :=
  (digitValue? c).any (· < base)

/-- The number that digits write in the given base. -/
def digitsValue (base : Nat) (digits : List Char) : Nat :=
  digits.foldl (fun n c => base * n + (digitValue? c).getD 0) 0

/-- The character whose number is written by hexadecimal digits, if all of them are such digits and
there is such a character. -/
def characterOf? (digits : List Char) : Option Char :=
  let code := digitsValue 16 digits
  if digits.all (isDigitIn 16) && code.isValidChar then some (Char.ofNat code) else none

end CodeShape.Text
