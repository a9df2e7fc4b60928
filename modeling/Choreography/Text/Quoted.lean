import Choreography.Text.Extending
import Choreography.Text.Unseen

/-!
# Quoted text

A text between double quotes in which every character can be seen by itself.  A
quote and a backslash are written with a backslash before them, a few control
characters by a letter, and any other character that has no glyph of its own, or
would be drawn as a part of the one before it, by its code point.
-/

namespace Choreography.Text

/-- The halfwidth voiced and semi-voiced sound marks.  They extend the character
before them, but are drawn in a place of their own. -/
def isHalfwidthSoundMark (c : Char) : Bool := c = '\uFF9E' || c = '\uFF9F'

/-- Whether a character cannot be seen by itself. -/
def isHidden (c : Char) : Bool :=
  isUnseen c || (isExtending c && !isHalfwidthSoundMark c)

/-- How a character is written in a quoted text. -/
def shownChar (c : Char) : List Char :=
  if c = '\x22' ∨ c = '\\' then ['\\', c]
  else if c = '\n' then ['\\', 'n']
  else if c = '\t' then ['\\', 't']
  else if c = '\r' then ['\\', 'r']
  else if c = '\x00' then ['\\', '0']
  else if isHidden c then
    ['\\', 'u', '\x7b'] ++ Nat.toDigits 16 c.toNat ++ ['\x7d']
  else [c]

/-- A text between double quotes with nothing hidden in it. -/
def quoted (text : String) : String :=
  String.ofList ('\x22' :: text.toList.flatMap shownChar ++ ['\x22'])

/-! ## Small laws -/

/-- Each run of blanks but the space lies in a run of unseen characters. -/
theorem exists_unseen_of_blank :
    ∀ blank ∈ blankRanges, blank ≠ (0x20, 0x20) →
      blank.2 < 0x10000 ∧
        ∃ range ∈ unseenBasic, range.1 ≤ blank.1 ∧ blank.2 ≤ range.2 := by
  decide +kernel

/-- Blanks are hidden; the space alone is not. -/
theorem isHidden_of_isBlank {c : Char} (blank : isBlank c = true) (other : c ≠ ' ') :
    isHidden c = true := by
  obtain ⟨run, inTable, first, last⟩ := Ranges.isIn_iff.mp blank
  have notSpace : run ≠ (0x20, 0x20) := by
    rintro rfl
    exact other (Char.toNat_inj.mp (Nat.le_antisymm last first))
  obtain ⟨basic, wide, inWide, below, above⟩ := exists_unseen_of_blank run inTable notSpace
  have unseen : unseenBasic.isIn c = true :=
    Ranges.isIn_iff.mpr ⟨wide, inWide, Nat.le_trans below first, Nat.le_trans last above⟩
  have plane : c.toNat < 0x10000 := Nat.lt_of_le_of_lt last basic
  simp [isHidden, isUnseen, plane, unseen]

example : isHidden ' ' = false := by decide +kernel
example : quoted "a\"\n\u0301\uFF9E" = "\"a\\\"\\n\\u\x7b301\x7d\uFF9E\"" := by decide +kernel

end Choreography.Text
