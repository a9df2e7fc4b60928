import Choreography.Proofs.Text.Blanks
import Choreography.Proofs.Text.Places
import Choreography.Scan

/-!
# Pieces of a text

A segment stands within another one if the text of the other has its text at its place
(`Segment.Within`).  What is cut at separators, what is unwrapped and what is left of a
segment stands within the segment, and a segment that stands within a whole text is a slice
of that text (`Within.slice?_eq`).
-/

namespace Choreography.Segment

open Text

/-- The place where a segment ends. -/
def stop (segment : Segment) : Nat := segment.offset + width segment.text

/-- A segment stands within another one. -/
def Within (outer inner : Segment) : Prop :=
  ∃ before after, outer.text = before ++ (inner.text ++ after) ∧
    inner.offset = outer.offset + width before

variable {outer inner segment : Segment} {text rest : List Char}

namespace Within

theorem refl (segment : Segment) : Within segment segment :=
  ⟨[], [], (List.append_nil _).symm, rfl⟩

theorem trans {middle : Segment} (first : Within outer middle) (second : Within middle inner) :
    Within outer inner := by
  obtain ⟨before, after, split, place⟩ := first
  obtain ⟨before', after', split', place'⟩ := second
  refine ⟨before ++ before', after' ++ after, ?_, ?_⟩
  · rw [split, split']
    simp only [List.append_assoc]
  · rw [place', place, width_append, Nat.add_assoc]

/-- What stands before a segment in a whole text is as wide as its place says. -/
theorem exists_split (within : Within ⟨text, 0⟩ segment) :
    ∃ before after, text = before ++ (segment.text ++ after) ∧ width before = segment.offset := by
  obtain ⟨before, after, split, place⟩ := within
  exact ⟨before, after, split, (place.trans (Nat.zero_add _)).symm⟩

/-- **A segment within a whole text** is the slice between its two ends. -/
theorem slice?_eq (within : Within ⟨text, 0⟩ segment) :
    slice? segment.offset segment.stop text = some segment.text := by
  obtain ⟨before, after, split, place⟩ := within.exists_split
  exact slice?_eq_some_iff.mpr ⟨before, after, split, place, rfl⟩

/-- The first character of a segment stands at its place. -/
theorem charAt?_eq {c : Char} {place : Nat} (within : Within ⟨text, 0⟩ ⟨c :: rest, place⟩) :
    charAt? place text = some c := by
  obtain ⟨before, after, split, same⟩ := within.exists_split
  exact charAt?_eq_some_iff.mpr ⟨before, rest ++ after, split, same⟩

theorem isBoundary (within : Within ⟨text, 0⟩ segment) :
    Text.isBoundary segment.offset text = true := by
  obtain ⟨before, after, split, place⟩ := within.exists_split
  exact isBoundary_iff.mpr ⟨before, _, split, place⟩

end Within

/-- What is left of a segment stands within it, and ends where it ends. -/
theorem within_of_suffix (left : rest <:+ segment.text) :
    Within segment ⟨rest, segment.stop - width rest⟩ := by
  obtain ⟨before, split⟩ := left
  refine ⟨before, [], by rw [List.append_nil, split], ?_⟩
  show segment.stop - width rest = segment.offset + width before
  rw [stop, ← split, width_append]
  omega

/-- Every piece of what is put together with separators stands where it is located. -/
theorem within_of_mem_locate {separator : Char} {first : List Char} {later : List (List Char)}
    {offset : Nat} (here : inner ∈ locate separator offset (first :: later)) :
    Within ⟨first ++ later.flatMap (separator :: ·), offset⟩ inner := by
  induction later generalizing first offset with
  | nil =>
    rw [locate, locate, List.mem_singleton] at here
    rw [here, List.flatMap_nil, List.append_nil]
    exact .refl _
  | cons next later ih =>
    rw [locate] at here
    rw [List.flatMap_cons]
    rcases List.mem_cons.mp here with rfl | here
    · exact ⟨[], _, rfl, rfl⟩
    · -- the later pieces are located from behind the first one and its separator
      refine Within.trans ?_ (ih here)
      refine ⟨first ++ [separator], [], by simp, ?_⟩
      simp only [width_append, width_cons, width_nil]
      omega

/-- **What stands between separators** stands within the segment that is cut. -/
theorem within_of_mem_splitTop {separator : Char} (here : inner ∈ segment.splitTop separator) :
    Within segment inner := by
  have within := within_of_mem_locate here
  rwa [Scan.pieces_join] at within

/-- A segment without the blanks around it. -/
def trimmed (segment : Segment) : Segment :=
  ⟨trim segment.text, segment.offset + width (segment.text.takeWhile Text.isBlank)⟩

theorem within_trimmed (segment : Segment) : Within segment segment.trimmed := by
  obtain ⟨after, -, split⟩ := exists_trimEnd_append (trimStart segment.text)
  refine ⟨segment.text.takeWhile Text.isBlank, after, ?_, rfl⟩
  exact (takeWhile_append_trimStart segment.text).symm.trans (congrArg _ split)

/-- **What is unwrapped** stands within the braces. -/
theorem within_of_unwrap? (unwrapped : segment.unwrap? = some inner) : Within segment inner := by
  rw [unwrap?] at unwrapped
  split at unwrapped
  · rename_i body closer found
    cases unwrapped
    have whole := (Scan.closing?_append found).1.symm
    exact (within_trimmed segment).trans ⟨['{'], [closer], whole, rfl⟩
  · cases unwrapped

end Choreography.Segment
