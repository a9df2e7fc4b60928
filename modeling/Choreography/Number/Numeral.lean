import Choreography.Number.Decimal

/-!
# Numerals

A numeral is a sign, digits with at most one point among them, and an exponent,
of which only one digit before the exponent is required.  `scan` cuts the
longest text of that outline off the front of a text; `read?` gives the number
that a whole text denotes, rounded to the closest double.
-/

namespace Choreography.Numeral

/-- An optional sign, and the text after it. -/
def scanSign : List Char → List Char × List Char
  | '-' :: rest => (['-'], rest)
  | '+' :: rest => (['+'], rest)
  | text => ([], text)

/-- The digits at the front of a text, and the text after them. -/
def scanDigits (text : List Char) : List Char × List Char :=
  (text.takeWhile Char.isDigit, text.dropWhile Char.isDigit)

/-- A point with the digits after it, if the text starts with a point. -/
def scanFraction : List Char → List Char × List Char
  | '.' :: rest => ('.' :: (scanDigits rest).1, (scanDigits rest).2)
  | text => ([], text)

/-- An exponent mark with an optional sign and digits, if the text starts with
such a mark. -/
def scanExponent : List Char → List Char × List Char
  | [] => ([], [])
  | c :: rest =>
    if c = 'e' ∨ c = 'E' then
      let (sign, rest) := scanSign rest
      let (digits, rest) := scanDigits rest
      (c :: sign ++ digits, rest)
    else ([], c :: rest)

/-- The longest text of the outline of a numeral, and the text after it. -/
def scan (text : List Char) : List Char × List Char :=
  let (sign, rest) := scanSign text
  let (whole, rest) := scanDigits rest
  let (fraction, rest) := scanFraction rest
  let (exponent, rest) := scanExponent rest
  (sign ++ whole ++ fraction ++ exponent, rest)

/-- The natural number that a list of digits denotes. -/
def digitsValue (digits : List Char) : Nat :=
  Nat.ofDigitChars 10 digits 0

/-- The least natural number that does not fit in 64 bits. -/
def wordLimit : Nat := 0x10000000000000000

/-- The magnitude of the least integer that fits in 64 bits. -/
def signedLimit : Nat := 0x8000000000000000

/-- The natural number of at most 64 bits that a whole text denotes: digits with
an optional plus sign in front. -/
def natural? (text : List Char) : Option Nat :=
  let digits := if text.head? = some '+' then text.drop 1 else text
  if digits = [] ∨ !digits.all Char.isDigit then none
  else
    let value := digitsValue digits
    if value < wordLimit then some value else none

/-- The exponent that a scanned exponent part denotes; a mark needs digits. -/
def exponentValue? : List Char → Option Int
  | [] => some 0
  | _ :: rest =>
    let (sign, digits) := scanSign rest
    if digits = [] then none
    else if sign = ['-'] then some (-(digitsValue digits : Int))
    else some (digitsValue digits)

/-- The number that a whole text denotes as a numeral, if it is one.  A numeral
beyond the range of doubles denotes an infinite number. -/
def read? (text : List Char) : Option Number :=
  let (sign, rest) := scanSign text
  let (whole, rest) := scanDigits rest
  let (fraction, rest) := scanFraction rest
  let (exponent, rest) := scanExponent rest
  let digits := whole ++ fraction.drop 1
  if rest ≠ [] ∨ digits = [] then none
  else
    (exponentValue? exponent).map fun shift =>
      Decimal.toNumber (sign = ['-'])
        ⟨digitsValue digits, shift - (fraction.drop 1).length⟩

/-! ## Small laws -/

theorem scanSign_append (text : List Char) :
    (scanSign text).1 ++ (scanSign text).2 = text := by
  unfold scanSign
  split <;> rfl

theorem scanDigits_append (text : List Char) :
    (scanDigits text).1 ++ (scanDigits text).2 = text :=
  List.takeWhile_append_dropWhile

theorem scanFraction_append (text : List Char) :
    (scanFraction text).1 ++ (scanFraction text).2 = text := by
  unfold scanFraction
  split
  · simp [scanDigits_append]
  · rfl

theorem scanExponent_append (text : List Char) :
    (scanExponent text).1 ++ (scanExponent text).2 = text := by
  unfold scanExponent
  split
  · rfl
  · split
    · simp [scanDigits_append, scanSign_append]
    · rfl

/-- Scanning a numeral loses nothing of the text. -/
theorem scan_append (text : List Char) : (scan text).1 ++ (scan text).2 = text := by
  simp [scan, scanExponent_append, scanFraction_append, scanDigits_append,
    scanSign_append]

example : (read? "-.5e+1".toList).map Number.bits = some 0xC014000000000000 := by
  decide +kernel
example : read? "1e".toList = none ∧ read? ".".toList = none ∧ read? "e5".toList = none := by
  decide +kernel
example : read? "1e400".toList = some (.infinite false) := by decide +kernel

end Choreography.Numeral
