/-!
# Numbers

A number is an IEEE-754 double.  The finite magnitudes are numbered upward from
zero: the magnitude of rank `k` is a whole multiple of the least positive one,
and `units k` says which.  Every operation of the library computes its result
exactly, in natural numbers, and rounds once by `nearestRank`: to the closest
magnitude, and from the midpoint between two of them to the one of even rank.
-/

namespace Choreography

namespace Number

/-- The number of ranks after which magnitudes have doubled, the 52nd power of
two. -/
def ranksPerOctave : Nat := 0x10000000000000

/-- The number of finite magnitudes; the rank that infinity would have.  They
make 2047 octaves. -/
def rankCount : Nat := 0x7FF0000000000000

/-- How many least magnitudes make one, the 1074th power of two. -/
def unitsPerOne : Nat := 1 <<< 1074

/-- The magnitude of rank `k`, counted in least magnitudes. -/
def units (rank : Nat) : Nat :=
  if rank < ranksPerOctave then rank
  else (ranksPerOctave + rank % ranksPerOctave) <<< (rank / ranksPerOctave - 1)

/-- The quotient rounded to the nearest whole number, a half to the even one. -/
def roundQuotient (numerator denominator : Nat) : Nat :=
  let quotient := numerator / denominator
  let twice := 2 * (numerator % denominator)
  if twice < denominator then quotient
  else if denominator < twice then quotient + 1
  else quotient + quotient % 2

/-- The rank of the magnitude closest to `numerator / denominator` least
magnitudes.  A rank of at least `rankCount` is beyond the finite ones. -/
def nearestRank (numerator denominator : Nat) : Nat :=
  let shift := (numerator / denominator).log2 - 52
  shift * ranksPerOctave + roundQuotient numerator (denominator <<< shift)

end Number

/-- A double: a signed finite magnitude, a signed infinity, or not a number. -/
inductive Number where
  | finite (negative : Bool) (rank : Fin Number.rankCount)
  | infinite (negative : Bool)
  | nan
deriving DecidableEq, Repr

namespace Number

/-- The number with the given sign and the magnitude of the given rank. -/
def ofRank (negative : Bool) (rank : Nat) : Number :=
  if h : rank < rankCount then .finite negative ⟨rank, h⟩ else .infinite negative

/-- The number closest to a signed quotient of least magnitudes. -/
def ofUnits (negative : Bool) (numerator denominator : Nat) : Number :=
  ofRank negative (nearestRank numerator denominator)

/-- Positive zero. -/
def zero : Number := .finite false ⟨0, by decide⟩

instance : Inhabited Number := ⟨zero⟩

/-- The number closest to a natural number. -/
def ofNat (n : Nat) : Number := ofUnits false (n * unitsPerOne) 1

/-- The number closest to an integer. -/
def ofInt (n : Int) : Number := ofUnits (n < 0) (n.natAbs * unitsPerOne) 1

/-- Whether a number is neither infinite nor not a number. -/
def isFinite : Number → Bool
  | .finite .. => true
  | _ => false

/-- The number with the opposite sign. -/
def negate : Number → Number
  | .finite negative rank => .finite (!negative) rank
  | .infinite negative => .infinite (!negative)
  | .nan => .nan

/-- The signed number of least magnitudes in a finite number. -/
def signedUnits (negative : Bool) (rank : Nat) : Int :=
  if negative then -(units rank : Int) else units rank

/-- The sum, rounded once.  An exact zero is negative only if both terms are. -/
def add : Number → Number → Number
  | .nan, _ | _, .nan => .nan
  | .infinite a, .infinite b => if a = b then .infinite a else .nan
  | .infinite a, _ => .infinite a
  | _, .infinite b => .infinite b
  | .finite a k, .finite b l =>
    let sum := signedUnits a k + signedUnits b l
    if sum = 0 then .finite (a && b) ⟨0, by decide⟩
    else ofUnits (sum < 0) sum.natAbs 1

/-- The product, rounded once. -/
def mul : Number → Number → Number
  | .nan, _ | _, .nan => .nan
  | .infinite a, .infinite b => .infinite (a != b)
  | .infinite a, .finite b l => if l.val = 0 then .nan else .infinite (a != b)
  | .finite a k, .infinite b => if k.val = 0 then .nan else .infinite (a != b)
  | .finite a k, .finite b l => ofUnits (a != b) (units k * units l) unitsPerOne

/-- The quotient, rounded once. -/
def div : Number → Number → Number
  | .nan, _ | _, .nan => .nan
  | .infinite _, .infinite _ => .nan
  | .infinite a, .finite b _ => .infinite (a != b)
  | .finite a _, .infinite b => .finite (a != b) ⟨0, by decide⟩
  | .finite a k, .finite b l =>
    if l.val = 0 then
      if k.val = 0 then .nan else .infinite (a != b)
    else ofUnits (a != b) (units k * unitsPerOne) (units l)

/-- The integer that a finite number is equal to, if there is one. -/
def toInt? : Number → Option Int
  | .finite negative rank =>
    if units rank % unitsPerOne = 0 then
      let whole : Int := (units rank / unitsPerOne : Nat)
      some (if negative then -whole else whole)
    else none
  | _ => none

/-- Equality of doubles as numbers: the two zeros are equal, and what is not a
number is equal to nothing. -/
def numericallyEqual : Number → Number → Bool
  | .nan, _ | _, .nan => false
  | .infinite a, .infinite b => a == b
  | .finite a k, .finite b l => k == l && (a == b || k.val == 0)
  | _, _ => false

/-- The highest of the 64 bits of the interchange format, which is set for a
negative number. -/
def signBit (negative : Bool) : Nat := if negative then 0x8000000000000000 else 0

/-- The 64 bits of the interchange format, as a natural number. -/
def bits : Number → Nat
  | .finite negative rank => signBit negative + rank
  | .infinite negative => signBit negative + rankCount
  | .nan => rankCount + ranksPerOctave / 2

/-! ## Small laws -/

/-- The magnitudes of the first octave count the least magnitude itself. -/
theorem units_of_lt {rank : Nat} (h : rank < ranksPerOctave) : units rank = rank := by
  unfold units
  exact if_pos h

/-- So do those of the second octave, and the one after them. -/
theorem units_eq_self {rank : Nat} (h : rank ≤ 2 * ranksPerOctave) :
    units rank = rank := by
  unfold units
  split
  · rfl
  · rename_i large
    by_cases top : rank = 2 * ranksPerOctave
    · subst top; decide
    · have quotient : rank / ranksPerOctave = 1 := by
        simp only [ranksPerOctave] at h large top ⊢
        omega
      rw [quotient]
      simp only [ranksPerOctave] at large top quotient ⊢
      rw [Nat.sub_self, Nat.shiftLeft_zero]
      omega

@[simp] theorem isFinite_ofRank {negative : Bool} {rank : Nat} :
    (ofRank negative rank).isFinite = decide (rank < rankCount) := by
  unfold ofRank
  split <;> simp_all [isFinite]

@[simp] theorem roundQuotient_one (n : Nat) : roundQuotient n 1 = n := by
  simp [roundQuotient, Nat.mod_one]

example : ofNat 1 = .finite false ⟨0x3FF0000000000000, by decide⟩ := by decide +kernel
example : (div (ofNat 300) (ofNat 1000)).bits = 0x3FD3333333333333 := by decide +kernel
example : (ofNat 9007199254740993).bits = (ofNat 9007199254740992).bits := by
  decide +kernel
example : (add (ofNat 1) (div (ofNat 1) (ofNat 10))).bits = 0x3FF199999999999A := by
  decide +kernel

end Number

end Choreography
