import Choreography.Number.Decimal
import Choreography.Proofs.Number.Rounding

/-!
# The shortest decimal reads back

A decimal is read as the double closest to it: the bounds that settle extreme exponents early
change nothing (`toNumber_eq_closest`), so decimals of equal value are read alike
(`toNumber_shift`).  The decimal by which a magnitude is written is chosen among those that read
back to it, or is its exact value, and loses nothing when the zeros at its end are stripped:
**the shortest decimal of a magnitude reads back to it** (`toNumber_shortest`).
-/

namespace Choreography.Decimal

open Number

theorem tenPower_pos (exponent : Nat) : 0 < tenPower exponent := Nat.pow_pos (by decide)

theorem tenPower_add (first second : Nat) :
    tenPower (first + second) = tenPower first * tenPower second :=
  Nat.pow_add 10 first second

/-- A decimal digit is more than three binary ones. -/
theorem two_pow_le_tenPower {binary exponent : Nat} (short : binary ≤ 3 * exponent) :
    2 ^ binary ≤ tenPower exponent := by
  refine Nat.le_trans (Nat.pow_le_pow_right Nat.zero_lt_two short) ?_
  rw [Nat.pow_mul]
  exact Nat.pow_le_pow_left (by decide) exponent

theorem two_pow_le_tenPower_shiftLeft {binary exponent shift : Nat}
    (short : binary ≤ 3 * exponent + shift) : 2 ^ binary ≤ tenPower exponent <<< shift := by
  rw [Nat.shiftLeft_eq]
  refine Nat.le_trans (Nat.pow_le_pow_right Nat.zero_lt_two short) ?_
  rw [Nat.pow_add]
  exact Nat.mul_le_mul_right _ (two_pow_le_tenPower (Nat.le_refl _))

theorem two_mul_shiftLeft_lt_tenPower {amount exponent shift : Nat}
    (room : amount.log2 + shift + 2 ≤ 3 * exponent) :
    2 * amount <<< shift < tenPower exponent := by
  refine Nat.lt_of_lt_of_le ?_ (two_pow_le_tenPower room)
  have short : amount < 2 ^ (amount.log2 + 1) := Nat.lt_log2_self
  calc 2 * amount <<< shift
      = amount * 2 ^ (shift + 1) := by
        rw [Nat.shiftLeft_eq, Nat.pow_succ', Nat.mul_left_comm]
    _ < 2 ^ (amount.log2 + 1) * 2 ^ (shift + 1) :=
        Nat.mul_lt_mul_of_pos_right short (Nat.two_pow_pos _)
    _ = 2 ^ (amount.log2 + shift + 2) := by
        rw [← Nat.pow_add]
        congr 1
        omega

/-- A power of five, doubled as often, is that of ten. -/
theorem five_pow_shiftLeft (amount exponent : Nat) :
    (amount * Nat.pow 5 exponent) <<< exponent = amount * tenPower exponent := by
  rw [Nat.shiftLeft_eq, Nat.mul_assoc]
  exact congrArg _ (Nat.mul_pow 5 2 exponent).symm

/-! ## The closest double -/

/-- The rank of the magnitude closest to a decimal, whatever its exponent is. -/
def closestRank (d : Decimal) : Nat :=
  nearestRank (d.digits * tenPower d.exponent.toNat * unitsPerOne) (tenPower (-d.exponent).toNat)

/-- A decimal with a large exponent is beyond the range of doubles. -/
theorem rankCount_le_closestRank {d : Decimal} (some_ : d.digits ≠ 0) (large : 400 < d.exponent) :
    rankCount ≤ closestRank d := by
  have whole : (-d.exponent).toNat = 0 := by omega
  have scaled : tenPower d.exponent.toNat * unitsPerOne ≤
      d.digits * tenPower d.exponent.toNat * unitsPerOne :=
    Nat.mul_le_mul_right _ (Nat.le_mul_of_pos_left _ (Nat.pos_of_ne_zero some_))
  -- three binary digits for each of 401 decimal ones, and 1074 for the smallest unit
  have long : 2 ^ 2277 ≤ d.digits * tenPower d.exponent.toNat * unitsPerOne /
      tenPower (-d.exponent).toNat := by
    rw [whole, show tenPower 0 = 1 from rfl, Nat.div_one]
    refine Nat.le_trans ?_ scaled
    rw [mul_unitsPerOne]
    exact two_pow_le_tenPower_shiftLeft (by omega)
  exact Nat.le_trans (by decide) (le_nearestRank long)

/-- A decimal far below the least magnitude is closest to zero. -/
theorem closestRank_eq_zero {d : Decimal} (small : d.exponent + d.digits.log2 + 1 < -400) :
    closestRank d = 0 := by
  have fraction : d.exponent.toNat = 0 := by omega
  refine nearestRank_eq_zero ?_
  rw [fraction, show tenPower 0 = 1 from rfl, Nat.mul_one, mul_unitsPerOne]
  exact two_mul_shiftLeft_lt_tenPower (by omega)

/-- **A decimal is read as the double closest to it.** -/
theorem toNumber_eq_closest (negative : Bool) (d : Decimal) :
    d.toNumber negative = ofRank negative d.closestRank := by
  rw [toNumber, rank]
  split
  · rename_i none_
    have zero : d.closestRank = 0 := by
      refine nearestRank_eq_zero ?_
      rw [none_, Nat.zero_mul, Nat.zero_mul, Nat.mul_zero]
      exact tenPower_pos _
    rw [zero]
  · rename_i some_
    split
    · rename_i large
      have beyond := rankCount_le_closestRank some_ large
      rw [ofRank, ofRank, dif_neg (Nat.lt_irrefl _), dif_neg (Nat.not_lt.mpr beyond)]
    · split
      · rename_i small
        rw [closestRank_eq_zero small]
      · rfl

/-- A decimal that is read as a finite number is of the rank of this number. -/
theorem toNumber_of_rank {d : Decimal} (negative : Bool) {rank : Fin rankCount}
    (own : d.rank = rank) : d.toNumber negative = .finite negative rank := by
  rw [toNumber, own, ofRank, dif_pos rank.isLt]

/-- Decimals of equal value are closest to the same double. -/
theorem toNumber_eq_of_amount {d other : Decimal} (negative : Bool)
    (same : d.digits * tenPower d.exponent.toNat * tenPower (-other.exponent).toNat =
      other.digits * tenPower other.exponent.toNat * tenPower (-d.exponent).toNat) :
    d.toNumber negative = other.toNumber negative := by
  rw [toNumber_eq_closest, toNumber_eq_closest]
  refine congrArg _ (nearestRank_eq_of_quotient (tenPower_pos _) (tenPower_pos _) ?_)
  rw [Nat.mul_right_comm, same, Nat.mul_right_comm]

/-- **Zeros at the end may stand in the exponent.** -/
theorem toNumber_shift (negative : Bool) (digits zeros : Nat) (exponent : Int) :
    toNumber negative ⟨digits * tenPower zeros, exponent⟩ =
      toNumber negative ⟨digits, exponent + zeros⟩ := by
  refine toNumber_eq_of_amount negative ?_
  -- the exponents differ by the number of zeros, on whichever side of the point they are
  have balance : zeros + exponent.toNat + (-(exponent + zeros)).toNat =
      (exponent + zeros).toNat + (-exponent).toNat := by omega
  rw [Nat.mul_assoc digits, ← tenPower_add, Nat.mul_assoc digits, ← tenPower_add, balance,
    tenPower_add, Nat.mul_assoc digits]

/-! ## Shortest decimals -/

theorem toNumber_strip (negative : Bool) (d : Decimal) :
    d.strip.toNumber negative = d.toNumber negative := by
  induction d using strip.induct with
  | case1 d zeros ih =>
    have whole : d.digits / 10 * tenPower 1 = d.digits :=
      Nat.div_mul_cancel (Nat.dvd_of_mod_eq_zero zeros.2)
    have shifted := toNumber_shift negative (d.digits / 10) 1 d.exponent
    rw [whole] at shifted
    rw [strip, if_pos zeros, ih]
    exact shifted.symm
  | case2 d none_ => rw [strip, if_neg none_]

/-- The exact value of a magnitude is closest to it. -/
theorem toNumber_exact (negative : Bool) (rank : Fin rankCount) :
    (exact rank).toNumber negative = .finite negative rank := by
  have own : (exact rank).closestRank = rank := by
    refine Eq.trans ?_ (nearestRank_units rank)
    refine nearestRank_eq_of_quotient (tenPower_pos _) Nat.one_pos ?_
    dsimp only [exact]
    rw [show tenPower (Int.toNat (-1074)) = 1 from rfl, Nat.mul_one, Nat.mul_one,
      mul_unitsPerOne]
    exact five_pow_shiftLeft (units rank) 1074
  rw [toNumber_eq_closest, own, ofRank, dif_pos rank.isLt]

/-- **The shortest decimal of a magnitude reads back to it.** -/
theorem toNumber_shortest (negative : Bool) (rank : Fin rankCount) :
    (shortest rank).toNumber negative = .finite negative rank := by
  rw [shortest]
  split
  · rename_i zero
    exact toNumber_of_rank negative zero.symm
  · dsimp only
    rw [toNumber_strip]
    cases found : (List.range 17).findSome? fun (more : Nat) =>
        onGrid? rank (leadingExponent (units rank) - more) with
    | none => exact toNumber_exact negative rank
    | some d =>
      obtain ⟨more, -, hit⟩ := List.exists_of_findSome?_eq_some found
      exact toNumber_of_rank negative (rank_of_onGrid? hit)

end Choreography.Decimal
