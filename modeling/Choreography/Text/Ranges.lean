import Choreography.Text

/-!
# Ranges of code points

A property of characters is given by the runs of code points that have it, in
ascending order and with a gap between one run and the next.  `isIn_iff` says
what it means to be in such a table.
-/

namespace Choreography.Text

/-- The first and last code points of each of several runs. -/
abbrev Ranges := List (Nat × Nat)

namespace Ranges

/-- Whether a character lies in one of the runs. -/
def isIn (ranges : Ranges) (c : Char) : Bool :=
  ranges.any fun (first, last) => first ≤ c.toNat && c.toNat ≤ last

/-- Whether the runs start from the given code point on, ascend, and have gaps
between them. -/
def ascendFrom (start : Nat) : Ranges → Bool
  | [] => true
  | (first, last) :: rest =>
    start ≤ first && first ≤ last && ascendFrom (last + 2) rest

/-- How many code points lie in the runs. -/
def count : Ranges → Nat
  | [] => 0
  | (first, last) :: rest => last + 1 - first + count rest

/-! ## Small laws -/

theorem isIn_iff {ranges : Ranges} {c : Char} :
    ranges.isIn c = true ↔ ∃ range ∈ ranges, range.1 ≤ c.toNat ∧ c.toNat ≤ range.2 := by
  simp [isIn]

end Ranges

end Choreography.Text
