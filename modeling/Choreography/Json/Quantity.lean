import Choreography.Json.Basic
import Choreography.Number.Numeral

/-!
# Numbers in JSON text

A number written without point and exponent is an integer if it fits in 64 bits.
Any other one is a double.  Its digits are collected in a natural number of at
most 64 bits: once a digit does not fit, the later digits of the whole part only
raise the exponent and those of the fraction are passed over.  What was
collected is rounded to a double and scaled by one power of ten, also a double,
so the result may differ in its last bit from the closest double.
-/

namespace Choreography.Json

/-- A number read from JSON text. -/
inductive Quantity where
  | integer (value : Int)
  | double (value : Number)
deriving Repr

/-- The parts of a written number. -/
structure Written where
  negative : Bool
  whole : List Char
  fraction : List Char
  /-- The sign and the digits after the exponent mark, if there is one. -/
  exponent : Option (Bool × List Char)
deriving Repr

namespace Written

/-- Digits added to a natural number while the result fits in 64 bits, and the
digits from the first one that does not fit. -/
def absorb (collected : Nat) : List Char → Nat × List Char
  | [] => (collected, [])
  | digit :: rest =>
    let next := collected * 10 + (digit.toNat - '0'.toNat)
    if next < Numeral.wordLimit then absorb next rest else (collected, digit :: rest)

/-- The double closest to a power of ten. -/
def powerOfTen (exponent : Nat) : Number := Decimal.toNumber false ⟨1, exponent⟩

/-- A double times a power of ten.  An exponent below `-308` is used up in steps
of `308`; a result beyond the range of doubles is refused. -/
def scale (amount : Number) (exponent : Int) : Option Number :=
  if exponent.natAbs ≤ 308 then
    if 0 ≤ exponent then
      let scaled := amount.mul (powerOfTen exponent.toNat)
      if scaled.isFinite then some scaled else none
    else some (amount.div (powerOfTen exponent.natAbs))
  else if amount = Number.zero then some amount
  else if 0 ≤ exponent then none
  else scale (amount.div (powerOfTen 308)) (exponent + 308)
termination_by (-exponent).toNat
decreasing_by omega

/-- The least exponent that is too large to be counted in 32 bits with a sign. -/
def exponentLimit : Nat := 0x80000000

/-- A number with the given sign. -/
def signed (negative : Bool) (amount : Number) : Number :=
  if negative then amount.negate else amount

/-- The quantity that a written number stands for; none if it is beyond the
range of doubles. -/
def quantity? (written : Written) : Option Quantity :=
  let (collected, excess) := absorb 0 written.whole
  let double (collected : Nat) (exponent : Int) : Option Quantity :=
    (scale (Number.ofNat collected) exponent).map fun amount =>
      .double (signed written.negative amount)
  if excess = [] ∧ written.fraction = [] ∧ written.exponent = none then
    if !written.negative then some (.integer collected)
    else if 0 < collected ∧ collected ≤ Numeral.signedLimit then
      some (.integer (-collected))
    else some (.double (Number.ofNat collected).negate)
  else
    let (collected, unused) := absorb collected written.fraction
    let start : Int := excess.length - (written.fraction.length - unused.length : Nat)
    match written.exponent with
    | none => double collected start
    | some (lowering, digits) =>
      let shift := Numeral.digitsValue digits
      if exponentLimit ≤ shift then
        if collected ≠ 0 ∧ !lowering then none
        else some (.double (signed written.negative Number.zero))
      else double collected (if lowering then start - shift else start + shift)

end Written

end Choreography.Json
