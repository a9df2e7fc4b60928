import Choreography.Number.Numeral
import Choreography.Template

/-!
# Modifiers

The tokens after the dots of an attribute name come in pairs of a key and a
value.  A key becomes a field name by joining its words, and a value becomes a
number if it is written as one, with a unit for durations and rotations.
-/

namespace Choreography.Modifier

/-- A key with each dash or underscore that is followed by a lower-case letter
taken out and that letter made upper-case. -/
def joinWords : List Char → List Char
  | [] => []
  | [c] => [c]
  | c :: next :: rest =>
    if (c = '-' ∨ c = '_') ∧ next.isLower then next.toUpper :: joinWords rest
    else c :: joinWords (next :: rest)

/-- The field name that a key stands for. -/
def fieldName (key : String) : String := String.ofList (joinWords key.toList)

/-- A text with its first underscore made a point. -/
def underscoreToPoint : List Char → List Char
  | [] => []
  | c :: rest => if c = '_' then '.' :: rest else c :: underscoreToPoint rest

/-- A text that may be tried as a numeral: it has a digit, and otherwise only the
other characters of numerals. -/
def hasNumberShape (text : List Char) : Bool :=
  text.any Char.isDigit &&
    text.all fun c => c.isDigit || c == '+' || c == '-' || c == '.' || c == 'e' || c == 'E'

/-- The number that a token is written as, if it is a finite one. -/
def number? (text : List Char) : Option Number :=
  if hasNumberShape text then (Numeral.read? text).filter Number.isFinite else none

/-- A token as a number if it is written as one, and as a string if not. -/
def coerce (text : List Char) : Value :=
  match number? text with
  | some number => .number number
  | none => .string (String.ofList text)

/-- The 64-bit integer with an optional sign that precedes a unit, if a text is
one followed by that unit. -/
def integerWithUnit? (unit : List Char) (text : List Char) : Option Int :=
  if unit.isSuffixOf text then
    let amount := text.take (text.length - unit.length)
    let (sign, digits) := Numeral.scanSign amount
    if digits = [] ∨ !digits.all Char.isDigit then none
    else
      let magnitude := Numeral.digitsValue digits
      if sign = ['-'] then
        if magnitude ≤ Numeral.signedLimit then some (-(magnitude : Int)) else none
      else if magnitude < Numeral.signedLimit then some magnitude
      else none
  else none

/-- A value written with the unit of a field: milliseconds are given in seconds,
degrees as they are. -/
def valueWithUnit? (field : String) (text : List Char) : Option Value :=
  if field = "duration" then
    (integerWithUnit? "ms".toList text).map fun milliseconds =>
      .number ((Number.ofInt milliseconds).div (Number.ofNat 1000))
  else if field = "rotate" then
    (integerWithUnit? "deg".toList text).map fun degrees => .number (Number.ofInt degrees)
  else none

/-- The value of a token for a field.  An underscore stands for a decimal point,
and no token or an empty one for an undefined value. -/
def value (field : String) (token : Option String) : Value :=
  match token.map String.toList with
  | none | some [] => .undefined
  | some text =>
    if text.contains '_' then coerce (underscoreToPoint text)
    else (valueWithUnit? field text).getD (coerce text)

/-- Tokens in pairs; a last one without a partner is dropped. -/
def pairs : List String → List (String × String)
  | key :: token :: rest => (key, token) :: pairs rest
  | _ => []

/-- The field that a pair of tokens gives. -/
def entry (pair : String × String) : String × Template :=
  (fieldName pair.1, .literal (value (fieldName pair.1) (some pair.2)))

/-- The fields that a list of tokens gives. -/
def entries (tokens : List String) : Fields Template :=
  Fields.ofList ((pairs tokens).map entry)

/-- The fields of modifiers have distinct names. -/
theorem nodup_keys_entries (tokens : List String) :
    (Fields.keys (entries tokens)).Nodup :=
  Fields.nodup_keys_ofList _

example : fieldName "a--b-_c-1" = "a-B-C-1" := by decide +kernel

end Choreography.Modifier
