import Choreography.Json.Printer
import Choreography.Proofs.Literal.Grammar
import Choreography.Proofs.Number.Shortest

/-!
# Numbers in texts are numerals

**The text of a finite number is a numeral of the grammar that denotes the number**
(`Figure.of_finite`), and so is the text of an integer (`Figure.of_integer`).  The text of a
number lays out the digits of its shortest decimal in one of four ways; in each of them the text
spells a decimal of the same value (`spells_layout`).
-/

namespace Choreography

open Decimal

namespace Grammar

/-! ## Digits -/

variable {text later : List Char}

theorem Digits.append (digits : Digits text) (digits' : ∀ c ∈ later, c.isDigit = true) :
    Digits (text ++ later) where
  some := by simp [digits.some]
  digits := List.forall_mem_append.mpr ⟨digits.digits, digits'⟩

theorem digits_numeral (n : Nat) : Digits (numeral n) where
  some := Nat.toDigits_ne_nil
  digits _ here := Nat.isDigit_of_mem_toDigits (by decide) (by decide) here

theorem isDigit_zeros (zeros : Nat) : ∀ c ∈ List.replicate zeros '0', c.isDigit = true := by
  intro c here
  rw [List.eq_of_mem_replicate here]
  rfl

theorem digitsValue_numeral (n : Nat) : Numeral.digitsValue (numeral n) = n :=
  Nat.ofDigitChars_ten_toDigits

/-- Zeros in front of digits do not count. -/
theorem digitsValue_zeros (zeros : Nat) (text : List Char) :
    Numeral.digitsValue (List.replicate zeros '0' ++ text) = Numeral.digitsValue text := by
  rw [Numeral.digitsValue, Nat.ofDigitChars_append, Nat.ofDigitChars_replicate_zero, Nat.mul_zero]
  rfl

/-- Zeros after digits count as powers of ten. -/
theorem digitsValue_append_zeros (text : List Char) (zeros : Nat) :
    Numeral.digitsValue (text ++ List.replicate zeros '0') =
      Numeral.digitsValue text * tenPower zeros := by
  rw [Numeral.digitsValue, Nat.ofDigitChars_append, Nat.ofDigitChars_replicate_zero,
    Nat.mul_comm]
  rfl

/-- A minus for a negative number, and no sign for any other. -/
theorem sign_of (negative : Prop) [Decidable negative] :
    Sign (if negative then ['-'] else []) (decide negative) := by
  by_cases minus : negative
  · rw [if_pos minus, decide_eq_true minus]
    exact .minus
  · rw [if_neg minus, decide_eq_false minus]
    exact .none

/-- The mark of an exponent, a sign in any case, and the numeral of its magnitude. -/
theorem exponent_numeral (top : Int) :
    Exponent ('e' :: (if top < 0 then '-' else '+') :: numeral top.natAbs) top := by
  have signed : Sign [if top < 0 then '-' else '+'] (decide (top < 0)) := by
    by_cases below : top < 0
    · rw [if_pos below, decide_eq_true below]
      exact .minus
    · rw [if_neg below, decide_eq_false below]
      exact .plus
  have written := Exponent.some (.inl rfl) signed (digits_numeral top.natAbs)
  have value : (if decide (top < 0) = true then -(Numeral.digitsValue (numeral top.natAbs) : Int)
      else Numeral.digitsValue (numeral top.natAbs)) = top := by
    simp only [digitsValue_numeral, decide_eq_true_eq]
    split <;> omega
  rwa [value] at written

/-! ## Spelled decimals -/

/-- A text without a sign spells a decimal: it is a mantissa and an exponent, of the same value. -/
def Spells (text : List Char) (d : Decimal) : Prop :=
  ∃ mantissa whole fraction exponent shift, text = mantissa ++ exponent ∧
    Mantissa mantissa whole fraction ∧ Exponent exponent shift ∧
    ∀ negative, toNumber negative
      ⟨Numeral.digitsValue (whole ++ fraction), shift - fraction.length⟩ = d.toNumber negative

theorem Spells.figure {d : Decimal} {sign : List Char} {negative : Bool} (spells : Spells text d)
    (signed : Sign sign negative) (finite : (d.toNumber negative).isFinite = true) :
    Figure (sign ++ text) (d.toNumber negative) := by
  obtain ⟨mantissa, whole, fraction, exponent, shift, rfl, digits, power, same⟩ := spells
  exact .mk signed digits power (same negative).symm finite

/-- A natural number is spelled by its numeral. -/
theorem spells_numeral (n : Nat) : Spells (numeral n) ⟨n, 0⟩ := by
  refine ⟨_, _, [], [], 0, (List.append_nil _).symm, .whole (digits_numeral n), .none, ?_⟩
  intro negative
  rw [List.append_nil, digitsValue_numeral]
  rfl

/-! ## Layouts -/

section

variable (d : Decimal)

/-- A whole number, with a zero after the point. -/
theorem spells_whole (whole : 0 ≤ d.exponent) :
    Spells (numeral d.digits ++ List.replicate d.exponent.toNat '0' ++ ['.', '0']) d := by
  refine ⟨_, _, ['0'], [], 0, (List.append_nil _).symm,
    .point ((digits_numeral d.digits).append (isDigit_zeros _)) (isDigit_zeros 1), .none, ?_⟩
  intro negative
  have zeros : List.replicate d.exponent.toNat '0' ++ ['0'] =
      List.replicate (d.exponent.toNat + 1) '0' := List.replicate_succ'.symm
  have point : (0 : Int) - (['0'] : List Char).length + (d.exponent.toNat + 1 : Nat) =
      d.exponent := by
    rw [List.length_singleton]
    omega
  rw [List.append_assoc, zeros, digitsValue_append_zeros, digitsValue_numeral, toNumber_shift,
    point]

/-- A number with its point among the digits. -/
theorem spells_inside {before : Nat} (some_ : 0 < before)
    (point : d.exponent + (numeral d.digits).length = before) (fraction : d.exponent < 0) :
    Spells ((numeral d.digits).take before ++ '.' :: (numeral d.digits).drop before) d := by
  have digits := digits_numeral d.digits
  have front : Digits ((numeral d.digits).take before) := by
    refine ⟨?_, fun c here => digits.digits c (List.mem_of_mem_take here)⟩
    rw [Ne, List.take_eq_nil_iff]
    simp [digits.some, Nat.ne_of_gt some_]
  refine ⟨_, _, _, [], 0, (List.append_nil _).symm,
    .point front fun c here => digits.digits c (List.mem_of_mem_drop here), .none, ?_⟩
  intro negative
  -- as many digits are behind the point as the exponent takes away
  have places : (0 : Int) - ((numeral d.digits).drop before).length = d.exponent := by
    rw [List.length_drop]
    omega
  rw [List.take_append_drop, digitsValue_numeral, places]

/-- A number below one, with zeros after its point. -/
theorem spells_below {zeros : Nat}
    (point : -d.exponent = zeros + (numeral d.digits).length) :
    Spells ('0' :: '.' :: List.replicate zeros '0' ++ numeral d.digits) d := by
  have digits := digits_numeral d.digits
  refine ⟨'0' :: '.' :: List.replicate zeros '0' ++ numeral d.digits, ['0'],
    List.replicate zeros '0' ++ numeral d.digits, [], 0, (List.append_nil _).symm,
    .point ⟨by decide, isDigit_zeros 1⟩
      (List.forall_mem_append.mpr ⟨isDigit_zeros zeros, digits.digits⟩), .none, ?_⟩
  intro negative
  have places : (0 : Int) - (List.replicate zeros '0' ++ numeral d.digits).length =
      d.exponent := by
    rw [List.length_append, List.length_replicate]
    omega
  have value : Numeral.digitsValue (['0'] ++ (List.replicate zeros '0' ++ numeral d.digits)) =
      d.digits := by
    rw [show ['0'] = List.replicate 1 '0' from rfl, digitsValue_zeros, digitsValue_zeros,
      digitsValue_numeral]
  rw [value, places]

/-- A number with one digit before its point, if it has a point, and an exponent. -/
theorem spells_scientific {top : Int} (point : top = d.exponent + (numeral d.digits).length - 1) :
    Spells ((numeral d.digits).take 1 ++
      (if (numeral d.digits).length = 1 then [] else '.' :: (numeral d.digits).drop 1) ++
      'e' :: (if top < 0 then '-' else '+') :: numeral top.natAbs) d := by
  have digits := digits_numeral d.digits
  obtain ⟨c, rest, shape⟩ := List.exists_cons_of_ne_nil digits.some
  rw [shape] at point digits
  have power := exponent_numeral top
  have front : Digits [c] :=
    ⟨List.cons_ne_nil c [], List.forall_mem_singleton.mpr (digits.digits c List.mem_cons_self)⟩
  have spelled (negative : Bool) : toNumber negative
      ⟨Numeral.digitsValue ([c] ++ rest), top - rest.length⟩ = d.toNumber negative := by
    have places : top - rest.length = d.exponent := by
      rw [List.length_cons] at point
      omega
    rw [places, List.singleton_append, ← shape, digitsValue_numeral]
  rw [shape]
  cases rest with
  | nil => exact ⟨[c], [c], [], _, top, rfl, .whole front, power, spelled⟩
  | cons next rest =>
    refine ⟨[c] ++ '.' :: next :: rest, [c], next :: rest, _, top, rfl, .point front ?_, power,
      spelled⟩
    exact fun d here => digits.digits d (List.mem_cons_of_mem _ here)

/-- **The layout of a decimal spells it.** -/
theorem spells_layout : Spells d.layout d := by
  have some_ : 0 < (numeral d.digits).length := Nat.length_toDigits_pos
  rw [layout]
  dsimp only
  split
  · split
    · rename_i whole
      exact spells_whole d whole
    · rename_i fraction
      split
      · exact spells_inside d (Nat.succ_pos _) (by omega) (by omega)
      · exact spells_below d (by omega)
  · exact spells_scientific d rfl

end

/-! ## Numbers -/

/-- **The text of a finite number** is a numeral that denotes the number. -/
theorem Figure.of_finite {number : Number} (finite : number.isFinite = true) :
    Figure number.text number := by
  cases number with
  | finite negative rank =>
    have signed := sign_of (negative = true)
    rw [Bool.decide_eq_true] at signed
    have own := toNumber_shortest negative rank
    rw [← own] at finite
    have figure := (spells_layout (shortest rank)).figure signed finite
    rwa [own] at figure
  | infinite => cases finite
  | nan => cases finite

/-- **The text of an integer** is a numeral that denotes the double closest to it. -/
theorem Figure.of_integer {whole : Int} (finite : (Number.ofInt whole).isFinite = true) :
    Figure (Json.integerText whole) (Number.ofInt whole) := by
  have own : toNumber (decide (whole < 0)) ⟨whole.natAbs, 0⟩ = Number.ofInt whole := by
    rw [toNumber_eq_closest, Number.ofInt, Number.ofUnits, closestRank]
    show Number.ofRank _ (Number.nearestRank (whole.natAbs * 1 * Number.unitsPerOne) 1) = _
    rw [Nat.mul_one]
  rw [← own] at finite ⊢
  exact (spells_numeral whole.natAbs).figure (sign_of (whole < 0)) finite

end Grammar

end Choreography
