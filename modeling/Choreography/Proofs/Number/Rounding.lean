import Mathlib.Tactic.Ring
import Choreography.Number.Basic

/-!
# Rounding

The magnitudes are numbered so that rounding undoes counting: **the rank closest to a magnitude is
its own** (`nearestRank_units`), and an amount of least magnitudes with at most 53 significant
binary digits is a magnitude (`units_nearestRank`).  So a double that is a whole number is
unchanged, but for the sign of a zero, when it is made an integer and a double again
(`ofInt_of_toInt?`), and every integer of at most 53 binary digits is a double
(`toInt?_ofInt`).

Rounding looks at a quotient only, not at how it is written (`nearestRank_eq_of_quotient`).
-/

namespace Choreography.Number

theorem ranksPerOctave_eq : ranksPerOctave = 2 ^ 52 := rfl

/-- Whole ones, counted in least magnitudes. -/
theorem mul_unitsPerOne (whole : Nat) : whole * unitsPerOne = whole <<< 1074 := by
  rw [unitsPerOne, Nat.one_shiftLeft, Nat.shiftLeft_eq]

theorem shiftLeft_lt_shiftLeft {amount bound : Nat} (small : amount < bound) (shift : Nat) :
    amount <<< shift < bound <<< shift := by
  rw [Nat.shiftLeft_eq, Nat.shiftLeft_eq]
  exact Nat.mul_lt_mul_of_pos_right small (Nat.two_pow_pos shift)

/-! ## Ranks and amounts -/

variable {shift mantissa : Nat}

/-- The amount with a mantissa of 53 binary digits, and how often it is doubled. -/
theorem units_of_mantissa (large : ranksPerOctave ≤ mantissa)
    (small : mantissa < 2 * ranksPerOctave) :
    units (shift * ranksPerOctave + mantissa) = mantissa <<< shift := by
  obtain ⟨low, rfl⟩ := Nat.exists_eq_add_of_le large
  have lowSmall : low < ranksPerOctave := by omega
  have split : shift * ranksPerOctave + (ranksPerOctave + low) =
      low + (shift + 1) * ranksPerOctave := by
    ring
  have notFirst : ¬ low + (shift + 1) * ranksPerOctave < ranksPerOctave := by
    rw [← split]
    omega
  rw [split, units, if_neg notFirst, Nat.add_mul_mod_self_right, Nat.mod_eq_of_lt lowSmall,
    Nat.add_mul_div_right _ _ (Nat.pos_of_ne_zero (by decide)), Nat.div_eq_of_lt lowSmall,
    Nat.zero_add, Nat.add_sub_cancel]

/-- Every rank is one of the first octave or has a mantissa. -/
theorem exists_mantissa {rank : Nat} (large : ranksPerOctave ≤ rank) :
    ∃ shift mantissa, ranksPerOctave ≤ mantissa ∧ mantissa < 2 * ranksPerOctave ∧
      rank = shift * ranksPerOctave + mantissa := by
  have positive : 0 < ranksPerOctave := Nat.pos_of_ne_zero (by decide)
  have octave : 1 ≤ rank / ranksPerOctave := (Nat.one_le_div_iff positive).mpr large
  obtain ⟨shift, same⟩ := Nat.exists_eq_add_of_le' octave
  refine ⟨shift, ranksPerOctave + rank % ranksPerOctave, Nat.le_add_right _ _, ?_, ?_⟩
  · have := Nat.mod_lt rank positive
    omega
  · have split := Nat.div_add_mod rank ranksPerOctave
    rw [same] at split
    rw [← Nat.add_assoc, ← Nat.succ_mul, Nat.mul_comm]
    exact split.symm

theorem log2_shiftLeft (large : ranksPerOctave ≤ mantissa)
    (small : mantissa < 2 * ranksPerOctave) : (mantissa <<< shift).log2 = shift + 52 := by
  have positive : 0 < 2 ^ shift := Nat.two_pow_pos shift
  rw [ranksPerOctave_eq] at large small
  rw [Nat.shiftLeft_eq]
  refine (Nat.log2_eq_iff (Nat.mul_ne_zero (by omega) positive.ne')).mpr ⟨?_, ?_⟩
  · rw [Nat.pow_add, Nat.mul_comm]
    exact Nat.mul_le_mul_right _ large
  · rw [Nat.add_assoc, Nat.pow_add, Nat.mul_comm]
    exact Nat.mul_lt_mul_of_pos_left small positive

theorem roundQuotient_mul (quotient : Nat) {denominator : Nat} (positive : 0 < denominator) :
    roundQuotient (quotient * denominator) denominator = quotient := by
  rw [roundQuotient, Nat.mul_div_cancel _ positive, Nat.mul_mod_left]
  exact if_pos positive

/-- An amount with a mantissa is rounded to the rank with this mantissa. -/
theorem nearestRank_shiftLeft (large : ranksPerOctave ≤ mantissa)
    (small : mantissa < 2 * ranksPerOctave) :
    nearestRank (mantissa <<< shift) 1 = shift * ranksPerOctave + mantissa := by
  rw [nearestRank, Nat.div_one, log2_shiftLeft large small, Nat.add_sub_cancel,
    Nat.shiftLeft_eq, Nat.shiftLeft_eq, Nat.one_mul,
    roundQuotient_mul mantissa (Nat.two_pow_pos shift)]

/-- An amount below the third octave is rounded to the rank of this number. -/
theorem nearestRank_of_lt {amount : Nat} (small : amount < 2 * ranksPerOctave) :
    nearestRank amount 1 = amount := by
  have low : amount.log2 < 53 := by
    by_cases zero : amount = 0
    · subst zero
      decide
    · exact (Nat.log2_lt zero).mpr small
  rw [nearestRank, Nat.div_one, Nat.sub_eq_zero_of_le (Nat.le_of_lt_succ low), Nat.zero_mul,
    Nat.zero_add, Nat.shiftLeft_zero, roundQuotient_one]

/-- **The rank closest to a magnitude is its own.** -/
theorem nearestRank_units (rank : Nat) : nearestRank (units rank) 1 = rank := by
  by_cases first : rank < ranksPerOctave
  · rw [units_of_lt first, nearestRank_of_lt (by omega)]
  · obtain ⟨shift, mantissa, large, small, rfl⟩ := exists_mantissa (Nat.le_of_not_lt first)
    rw [units_of_mantissa large small, nearestRank_shiftLeft large small]

/-- **An amount of at most 53 binary digits**, doubled any number of times, is a magnitude. -/
theorem units_nearestRank (small : mantissa < 2 * ranksPerOctave) :
    units (nearestRank (mantissa <<< shift) 1) = mantissa <<< shift := by
  by_cases first : mantissa <<< shift < 2 * ranksPerOctave
  · rw [nearestRank_of_lt first, units_eq_self (Nat.le_of_lt first)]
  · -- as many of the doublings as there is room for make the mantissa one of 53 digits
    have some_ : mantissa ≠ 0 := by
      rintro rfl
      rw [Nat.zero_shiftLeft] at first
      exact first (by decide)
    have low := Nat.log2_self_le some_
    have high := Nat.lt_log2_self (n := mantissa)
    have bounded : mantissa.log2 < 53 := (Nat.log2_lt some_).mpr small
    have room : 52 - mantissa.log2 ≤ shift := by
      by_contra short
      refine first (Nat.lt_of_lt_of_le ?_ (Nat.pow_le_pow_right Nat.zero_lt_two
        (show mantissa.log2 + 1 + shift ≤ 53 by omega)))
      rw [Nat.shiftLeft_eq, Nat.pow_add]
      exact Nat.mul_lt_mul_of_pos_right high (Nat.two_pow_pos shift)
    obtain ⟨rest, split⟩ := Nat.exists_eq_add_of_le room
    have long : 2 ^ mantissa.log2 * 2 ^ (52 - mantissa.log2) = ranksPerOctave := by
      rw [← Nat.pow_add, ranksPerOctave_eq]
      congr 1
      omega
    rw [split, Nat.shiftLeft_add]
    have large : ranksPerOctave ≤ mantissa <<< (52 - mantissa.log2) := by
      rw [Nat.shiftLeft_eq, ← long]
      exact Nat.mul_le_mul_right _ low
    have short : mantissa <<< (52 - mantissa.log2) < 2 * ranksPerOctave := by
      rw [Nat.shiftLeft_eq, ← long, ← Nat.mul_assoc, ← Nat.pow_succ']
      exact Nat.mul_lt_mul_of_pos_right high (Nat.two_pow_pos _)
    rw [nearestRank_shiftLeft large short, units_of_mantissa large short]

/-! ## Bounds -/

theorem roundQuotient_le (numerator denominator : Nat) :
    roundQuotient numerator denominator ≤ numerator / denominator + 1 := by
  unfold roundQuotient
  dsimp only
  have even := Nat.mod_lt (numerator / denominator) Nat.zero_lt_two
  split
  · exact Nat.le_succ _
  · split
    · exact Nat.le_refl _
    · omega

/-- An amount is not rounded to a rank much further than its octave. -/
theorem nearestRank_le {amount : Nat} (small : amount < (2 * ranksPerOctave) <<< shift) :
    nearestRank amount 1 ≤ (shift + 2) * ranksPerOctave := by
  have short : amount.log2 - 52 ≤ shift := by
    by_cases zero : amount = 0
    · subst zero
      exact Nat.zero_le shift
    · rw [Nat.shiftLeft_eq, ranksPerOctave_eq, ← Nat.pow_succ', ← Nat.pow_add] at small
      have := (Nat.log2_lt zero).mpr small
      omega
  have quotient : amount / 2 ^ (amount.log2 - 52) < 2 * ranksPerOctave := by
    rw [Nat.div_lt_iff_lt_mul (Nat.two_pow_pos _), ranksPerOctave_eq, ← Nat.pow_succ',
      ← Nat.pow_add]
    exact Nat.lt_of_lt_of_le Nat.lt_log2_self
      (Nat.pow_le_pow_right Nat.zero_lt_two (by omega))
  have rounded := roundQuotient_le amount (2 ^ (amount.log2 - 52))
  have octaves := Nat.mul_le_mul_right ranksPerOctave short
  rw [nearestRank, Nat.div_one, Nat.shiftLeft_eq, Nat.one_mul, Nat.add_mul]
  omega

/-- A quotient with many binary digits is rounded to a rank of a late octave. -/
theorem le_nearestRank {numerator denominator digits : Nat}
    (large : 2 ^ digits ≤ numerator / denominator) :
    (digits - 52) * ranksPerOctave ≤ nearestRank numerator denominator := by
  have some_ : numerator / denominator ≠ 0 :=
    Nat.ne_of_gt (Nat.lt_of_lt_of_le (Nat.two_pow_pos digits) large)
  have long : digits ≤ (numerator / denominator).log2 := (Nat.le_log2 some_).mpr large
  rw [nearestRank]
  exact Nat.le_trans (Nat.mul_le_mul_right _ (Nat.sub_le_sub_right long 52)) (Nat.le_add_right _ _)

/-- A quotient below one half is rounded to zero. -/
theorem nearestRank_eq_zero {numerator denominator : Nat} (small : 2 * numerator < denominator) :
    nearestRank numerator denominator = 0 := by
  have none_ : numerator / denominator = 0 := Nat.div_eq_of_lt (by omega)
  rw [nearestRank, none_, roundQuotient, Nat.log2_zero, Nat.zero_sub, Nat.zero_mul,
    Nat.shiftLeft_zero, none_, Nat.mod_eq_of_lt (by omega), if_pos small]

/-! ## Quotients -/

/-- Rounding looks at the terms of a quotient only up to a common factor. -/
theorem nearestRank_mul (numerator denominator : Nat) {factor : Nat} (positive : 0 < factor) :
    nearestRank (numerator * factor) (denominator * factor) =
      nearestRank numerator denominator := by
  have rounded (divisor : Nat) : roundQuotient (numerator * factor) (divisor * factor) =
      roundQuotient numerator divisor := by
    rw [roundQuotient, roundQuotient, Nat.mul_div_mul_right _ _ positive,
      Nat.mul_mod_mul_right, ← Nat.mul_assoc]
    simp only [Nat.mul_lt_mul_right positive]
  rw [nearestRank, nearestRank, Nat.mul_div_mul_right _ _ positive, Nat.shiftLeft_eq,
    Nat.shiftLeft_eq, Nat.mul_right_comm, rounded]

/-- **Equal quotients are rounded alike.** -/
theorem nearestRank_eq_of_quotient {numerator denominator other divisor : Nat}
    (positive : 0 < denominator) (positive' : 0 < divisor)
    (same : numerator * divisor = other * denominator) :
    nearestRank numerator denominator = nearestRank other divisor := by
  rw [← nearestRank_mul numerator denominator positive', same, Nat.mul_comm denominator divisor,
    nearestRank_mul other divisor positive]

/-! ## Integers -/

/-- The number with a zero made positive. -/
def withoutNegativeZero : Number → Number
  | .finite negative rank => .finite (negative && rank.val != 0) rank
  | number => number

theorem withoutNegativeZero_of_ne {number : Number}
    (signless : number ≠ .finite true ⟨0, by decide⟩) : number.withoutNegativeZero = number := by
  cases number with
  | finite negative rank =>
    cases negative with
    | false => rfl
    | true =>
      have some_ : (rank.val != 0) = true := by
        rw [bne_iff_ne]
        intro none_
        exact signless (congrArg _ (Fin.ext none_))
      rw [withoutNegativeZero, some_, Bool.and_true]
  | infinite => rfl
  | nan => rfl

theorem withoutNegativeZero_ne (number : Number) :
    number.withoutNegativeZero ≠ .finite true ⟨0, by decide⟩ := by
  cases number with
  | finite negative rank =>
    intro zero
    injection zero with sign none_
    rw [none_] at sign
    simp at sign
  | infinite => exact nofun
  | nan => exact nofun

@[simp] theorem isFinite_withoutNegativeZero (number : Number) :
    number.withoutNegativeZero.isFinite = number.isFinite := by
  cases number <;> rfl

/-- A number that is an integer is a signed whole multiple of one. -/
theorem exists_of_toInt? {number : Number} {whole : Int} (is : number.toInt? = some whole) :
    ∃ negative rank, ∃ amount : Nat, number = .finite negative rank ∧
      units rank = amount * unitsPerOne ∧ whole = if negative then -(amount : Int) else amount := by
  cases number with
  | finite negative rank =>
    rw [toInt?] at is
    split at is
    · rename_i divides
      exact ⟨negative, rank, units rank / unitsPerOne, rfl,
        (Nat.div_mul_cancel (Nat.dvd_of_mod_eq_zero divides)).symm, (Option.some.inj is).symm⟩
    · cases is
  | infinite => cases is
  | nan => cases is

theorem isFinite_of_toInt? {number : Number} {whole : Int} (is : number.toInt? = some whole) :
    number.isFinite = true := by
  obtain ⟨negative, rank, -, rfl, -, -⟩ := exists_of_toInt? is
  rfl

/-- The negative zero is an integer. -/
theorem ne_negativeZero {number : Number} (other : number.toInt? ≠ some 0) :
    number ≠ .finite true ⟨0, by decide⟩ := by
  rintro rfl
  exact other (by decide)

/-- **A double that is an integer comes back from it**, but for the sign of a zero. -/
theorem ofInt_of_toInt? {number : Number} {whole : Int} (is : number.toInt? = some whole) :
    ofInt whole = number.withoutNegativeZero := by
  obtain ⟨negative, rank, amount, rfl, units_, rfl⟩ := exists_of_toInt? is
  have own : nearestRank (amount * unitsPerOne) 1 = rank := by
    rw [← units_, nearestRank_units]
  -- the sign is lost exactly where the number is a zero
  have sign : decide ((if negative then -(amount : Int) else amount) < 0) =
      (negative && rank.val != 0) := by
    have zero : rank.val = 0 ↔ amount = 0 := by
      constructor
      · intro none_
        rw [none_, units_of_lt (by decide)] at units_
        exact (Nat.mul_eq_zero.mp units_.symm).resolve_right (by decide)
      · rintro rfl
        rw [← own, Nat.zero_mul]
        rfl
    cases negative with
    | false => simp
    | true =>
      by_cases none_ : amount = 0
      · simp [none_, zero.mpr none_]
      · have some_ : (rank.val != 0) = true := bne_iff_ne.mpr (mt zero.mp none_)
        have below : (if true = true then -(amount : Int) else amount) < 0 := by
          rw [if_pos rfl]
          omega
        rw [decide_eq_true below, some_, Bool.true_and]
  have size : (if negative then -(amount : Int) else amount).natAbs = amount := by
    cases negative <;> simp
  rw [ofInt, ofUnits, size, own, sign, ofRank, dif_pos rank.isLt]
  rfl

/-- **Every integer of at most 53 binary digits is a double.** -/
theorem toInt?_ofInt {whole : Int} (small : whole.natAbs < 2 * ranksPerOctave) :
    (ofInt whole).toInt? = some whole := by
  have amount : units (nearestRank (whole.natAbs <<< 1074) 1) = whole.natAbs <<< 1074 :=
    units_nearestRank small
  have bounded : nearestRank (whole.natAbs <<< 1074) 1 < rankCount :=
    Nat.lt_of_le_of_lt (nearestRank_le (shiftLeft_lt_shiftLeft small 1074)) (by decide)
  rw [← mul_unitsPerOne] at amount bounded
  rw [ofInt, ofUnits, ofRank, dif_pos bounded, toInt?]
  dsimp only
  rw [amount, Nat.mul_mod_left, if_pos rfl, Nat.mul_div_cancel _ (by decide)]
  by_cases negative : whole < 0
  · rw [decide_eq_true negative, if_pos rfl]
    exact congrArg some (by omega)
  · rw [decide_eq_false negative, if_neg Bool.false_ne_true]
    exact congrArg some (by omega)

end Choreography.Number
