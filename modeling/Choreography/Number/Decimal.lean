import Choreography.Number.Basic

/-!
# Decimals

A decimal is a natural number times a power of ten.  Reading one gives the
closest double.  Writing a double gives the decimal with the fewest digits that
reads back to it: for one digit, two digits and so on the two neighbours of the
exact value on that grid are read back, and the first grid with a hit wins.  Of
two hits the nearer one is taken, and of two equally near ones the even one.
-/

namespace Choreography

/-- The decimal `digits * 10 ^ exponent`. -/
structure Decimal where
  digits : Nat
  exponent : Int
deriving DecidableEq, Repr

namespace Decimal

/-- The power of ten with a natural exponent. -/
def tenPower (exponent : Nat) : Nat := Nat.pow 10 exponent

/-- The rank of the magnitude closest to a decimal.  Exponents far outside the
range of doubles are settled without computing the power of ten. -/
def rank (d : Decimal) : Nat :=
  if d.digits = 0 then 0
  else if 400 < d.exponent then Number.rankCount
  else if d.exponent + d.digits.log2 + 1 < -400 then 0
  else
    Number.nearestRank (d.digits * tenPower d.exponent.toNat * Number.unitsPerOne)
      (tenPower (-d.exponent).toNat)

/-- The double closest to a signed decimal; it is infinite beyond the range. -/
def toNumber (negative : Bool) (d : Decimal) : Number :=
  Number.ofRank negative d.rank

/-- The same decimal with the trailing zeros of its digits in the exponent. -/
def strip (d : Decimal) : Decimal :=
  if d.digits ≠ 0 ∧ d.digits % 10 = 0 then strip ⟨d.digits / 10, d.exponent + 1⟩
  else d
termination_by d.digits
decreasing_by omega

/-- The numeral of a natural number. -/
def numeral (n : Nat) : List Char := Nat.toDigits 10 n

/-- The exponent of the leading decimal digit of a positive number of least
magnitudes.  The least one is above `10 ^ -400`, so the scaled quotient is not
zero. -/
def leadingExponent (amount : Nat) : Int :=
  (numeral (amount * tenPower 400 / Number.unitsPerOne)).length - 401

/-- The decimal with the given exponent just below or at `amount` least
magnitudes. -/
def below (amount : Nat) (exponent : Int) : Decimal :=
  ⟨amount * tenPower (-exponent).toNat /
      (Number.unitsPerOne * tenPower exponent.toNat), exponent⟩

/-- Whether the point halfway between `d` and its upper neighbour on the grid
compares with `amount` least magnitudes as given. -/
def compareMidpoint (d : Decimal) (amount : Nat) : Ordering :=
  compare ((2 * d.digits + 1) * tenPower d.exponent.toNat * Number.unitsPerOne)
    (2 * amount * tenPower (-d.exponent).toNat)

/-- The decimal on the grid of `10 ^ exponent` that is closest to the magnitude
of rank `k` among those that read back to it. -/
def onGrid? (k : Nat) (exponent : Int) : Option Decimal :=
  let amount := Number.units k
  let low := below amount exponent
  let high : Decimal := ⟨low.digits + 1, exponent⟩
  match decide (low.rank = k), decide (high.rank = k) with
  | true, true =>
    match compareMidpoint low amount with
    | .lt => some high
    | .gt => some low
    | .eq => some (if low.digits % 2 = 0 then low else high)
  | true, false => some low
  | false, true => some high
  | false, false => none

/-- The exact decimal value of the magnitude of rank `k`: the least magnitude is
the 1074th power of one half. -/
def exact (k : Nat) : Decimal :=
  ⟨Number.units k * Nat.pow 5 1074, -1074⟩

/-- The shortest decimal that reads back to the magnitude of rank `k`. -/
def shortest (k : Nat) : Decimal :=
  if k = 0 then ⟨0, 0⟩
  else
    let top := leadingExponent (Number.units k)
    let found := (List.range 17).findSome? fun (more : Nat) => onGrid? k (top - more)
    (found.getD (exact k)).strip

/-! ## Layout -/

/-- Leading exponents that are written without an exponent. -/
def plainFrom : Int := -5

/-- The greatest leading exponent that is written without an exponent. -/
def plainTo : Int := 15

/-- The text of a magnitude given by its stripped decimal.  The exponent of the
leading digit decides between plain notation, where a whole number gets a final
`.0`, and a signed exponent after `e`. -/
def layout (d : Decimal) : List Char :=
  let digits := numeral d.digits
  let top := d.exponent + digits.length - 1
  if plainFrom ≤ top ∧ top ≤ plainTo then
    if 0 ≤ d.exponent then
      digits ++ List.replicate d.exponent.toNat '0' ++ ['.', '0']
    else if 0 ≤ top then
      digits.take (top.toNat + 1) ++ '.' :: digits.drop (top.toNat + 1)
    else
      '0' :: '.' :: List.replicate (-top - 1).toNat '0' ++ digits
  else
    let fraction := if digits.length = 1 then [] else '.' :: digits.drop 1
    let sign := if top < 0 then '-' else '+'
    digits.take 1 ++ fraction ++ 'e' :: sign :: numeral top.natAbs

/-! ## Small laws -/

/-- What a grid yields reads back to the magnitude it was made for. -/
theorem rank_of_onGrid? {k : Nat} {exponent : Int} {d : Decimal}
    (h : onGrid? k exponent = some d) : d.rank = k := by
  unfold onGrid? at h
  grind

example : shortest 0x3FB999999999999A = ⟨1, -1⟩ := by decide +kernel
example : shortest 1 = ⟨5, -324⟩ := by decide +kernel
example : shortest 0x44B52D02C7E14AF6 = ⟨1, 23⟩ := by decide +kernel
example : shortest 0x7FEFFFFFFFFFFFFF = ⟨17976931348623157, 292⟩ := by decide +kernel
example : shortest 0x3E60000000000000 = ⟨29802322387695312, -24⟩ := by decide +kernel
example : String.ofList (layout ⟨1, -7⟩) = "1e-7" := by decide +kernel
example : String.ofList (layout ⟨15, 299⟩) = "1.5e+300" := by decide +kernel
example : String.ofList (layout ⟨123, -6⟩) = "0.000123" := by decide +kernel
example : String.ofList (layout ⟨9007199254740992, 0⟩) = "9007199254740992.0" := by
  decide +kernel
example : String.ofList (layout ⟨0, 0⟩) = "0.0" := by decide +kernel

end Decimal

/-- The text of a finite number; the empty text for the others. -/
def Number.text : Number → List Char
  | .finite negative rank =>
    (if negative then ['-'] else []) ++ (Decimal.shortest rank).layout
  | _ => []

end Choreography
