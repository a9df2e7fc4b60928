import Choreography.Proofs.Scan.Cuts
import Choreography.Proofs.Scan.Within

/-!
# Partitions

How a segment is cut at its top-level separators, told by constructors
(`Segment.Partition`): one that has none stays whole, and any other is a first piece, the
separator, and a partition of the rest.  The scan of the whole text is back at its start at every
cut (`Scan.pieces_cases`), whatever it has been through: quotes, escapes and brackets that were
closed too often.  So a piece is scanned afresh exactly as it was scanned within the whole.

**A text is cut exactly at its top-level separators** (`Segment.splitTop_exact`), and every part
of that statement is one induction over the partition.
-/

namespace Choreography

namespace Scan

variable {separator : Char}

/-- Nothing free of the separator has it at the top level. -/
theorem IsFree.isTop_eq_false {scan : Scan} {before after : List Char}
    (free : scan.IsFree separator (before ++ separator :: after)) :
    (scan.run before).isTop separator = false := by
  obtain ⟨here, -⟩ := (isFree_append.mp free).2
  rwa [beq_self_eq_true, Bool.and_true] at here

theorem findTop?_eq_none {scan : Scan} {text : List Char} (free : scan.IsFree separator text) :
    findTop? separator scan text = none := by
  induction text generalizing scan with
  | nil => rfl
  | cons c rest ih =>
    rw [findTop?, free.1, ih free.2]
    rfl

/-- Where a plain separator stands at the top level, nothing is left of what was scanned. -/
theorem Tidy.eq_start {scan : Scan} (tidy : scan.Tidy) (plain : isPlain separator = true)
    (top : scan.isTop separator = true) : scan = start := by
  obtain ⟨quote, escaped, depth⟩ := scan
  obtain ⟨outside, level⟩ := (isTop_plain plain).mp top
  obtain rfl : quote = none := outside
  obtain rfl : depth = 0 := level
  obtain rfl : escaped = false := tidy rfl
  rfl

/-- A text is free of the separator, or it is cut after a first piece that is; and then the scan
is back at its start. -/
theorem pieces_cases (plain : isPlain separator = true) {scan : Scan} (tidy : scan.Tidy)
    (text : List Char) :
    (scan.IsFree separator text ∧ pieces separator scan text = (text, [])) ∨
    ∃ first rest, text = first ++ separator :: rest ∧ scan.IsFree separator first ∧
      scan.run first = start ∧ pieces separator scan text =
        (first, (pieces separator start rest).1 :: (pieces separator start rest).2) := by
  induction text generalizing scan with
  | nil => exact .inl ⟨trivial, rfl⟩
  | cons c rest ih =>
    by_cases here : (scan.isTop c && c == separator) = true
    · obtain ⟨top, same⟩ := Bool.and_eq_true_iff.mp here
      obtain rfl : c = separator := beq_iff_eq.mp same
      have settled : scan = start := tidy.eq_start plain top
      refine .inr ⟨[], rest, rfl, trivial, settled, ?_⟩
      rw [pieces, here, settled, (step_separator plain).1]
      rfl
    · have passed : (scan.isTop c && c == separator) = false := Bool.eq_false_iff.mpr here
      rcases ih (tidy.step c) with ⟨free, whole⟩ | ⟨first, later, split, free, ends, cut⟩
      · refine .inl ⟨⟨passed, free⟩, ?_⟩
        rw [pieces, passed, whole]
        rfl
      · refine .inr ⟨c :: first, later, congrArg (c :: ·) split, ⟨passed, free⟩, ends, ?_⟩
        rw [pieces, passed, cut]
        rfl

/-- Behind a piece and its separator the scan starts again. -/
theorem run_cut (plain : isPlain separator = true) {first : List Char}
    (ends : start.run first = start) (rest : List Char) :
    start.run (first ++ separator :: rest) = start.run rest := by
  rw [run_append, ends, run_cons, (step_separator plain).1]

/-- The separators at the top level are the one behind the first piece, and those behind it. -/
theorem before_cut {first rest before after : List Char} (free : start.IsFree separator first)
    (split : first ++ separator :: rest = before ++ separator :: after)
    (top : (start.run before).isTop separator = true) :
    before = first ∨ ∃ more, before = first ++ separator :: more ∧
      rest = more ++ separator :: after := by
  rcases List.append_eq_append_iff.mp split with ⟨more, rfl, behind⟩ | ⟨more, rfl, behind⟩
  · cases more with
    | nil => exact .inl (List.append_nil first)
    | cons c more =>
      obtain ⟨rfl, tail⟩ := List.cons.inj behind
      exact .inr ⟨more, rfl, tail⟩
  · cases more with
    | nil => exact .inl (List.append_nil before).symm
    | cons c more =>
      -- within the first piece no separator stands at the top level
      obtain ⟨rfl, -⟩ := List.cons.inj behind
      rw [free.isTop_eq_false] at top
      cases top

end Scan

namespace Segment

open Scan Text

/-- A segment and the segments that it is cut into at a separator. -/
inductive Partition (separator : Char) : Segment → List Segment → Prop
  | whole {text : List Char} {offset : Nat} (free : start.IsFree separator text) :
      Partition separator ⟨text, offset⟩ [⟨text, offset⟩]
  | cut {first rest : List Char} {offset : Nat} {later : List Segment}
      (free : start.IsFree separator first) (ends : start.run first = start)
      (others : Partition separator ⟨rest, offset + width first + separator.utf8Size⟩ later) :
      Partition separator ⟨first ++ separator :: rest, offset⟩ (⟨first, offset⟩ :: later)

variable {separator : Char} {segment : Segment} {segments : List Segment}

/-- **What a segment is cut into** is a partition of it. -/
theorem partition_splitTop (plain : isPlain separator = true) (text : List Char) (offset : Nat) :
    Partition separator ⟨text, offset⟩ (splitTop ⟨text, offset⟩ separator) := by
  rcases pieces_cases plain (show start.Tidy from fun _ => rfl) text with
    ⟨free, -⟩ | ⟨first, rest, rfl, free, ends, -⟩
  · rw [splitTop_of_free free]
    exact .whole free
  · rw [splitTop_append plain free ends]
    exact .cut free ends (partition_splitTop plain rest _)
termination_by text.length
decreasing_by
  rw [‹text = _›, List.length_append, List.length_cons]
  omega

/-- The places where cuts are made: the end of each segment but the last. -/
def cuts (segments : List Segment) : List Nat := segments.dropLast.map stop

/-- A first segment may start later with its first character cut off. -/
theorem cuts_locate_cons (separator c : Char) (piece : List Char) (later : List (List Char))
    (offset : Nat) :
    cuts (locate separator offset ((c :: piece) :: later)) =
      cuts (locate separator (offset + c.utf8Size) (piece :: later)) := by
  have same : offset + width (c :: piece) = offset + c.utf8Size + width piece := by
    rw [width_cons, Nat.add_assoc]
  rw [locate, locate, same]
  cases later with
  | nil => rfl
  | cons next later =>
    exact congrArg (· :: _) same

/-- **Every cut is a separator at the top level**, also where the separator is a quote or a
bracket. -/
theorem exists_of_mem_cuts {text : List Char} {offset place : Nat}
    (here : place ∈ cuts (splitTop ⟨text, offset⟩ separator)) :
    ∃ before after, text = before ++ separator :: after ∧ offset + width before = place ∧
      (start.run before).isTop separator = true := by
  rw [splitTop] at here
  dsimp only at here
  generalize start = scan at here ⊢
  -- along the text, with the scan and the place that are reached
  induction text generalizing scan offset with
  | nil => cases here
  | cons c rest ih =>
    rw [pieces] at here
    split at here
    · rename_i cut
      obtain ⟨top, same⟩ := Bool.and_eq_true_iff.mp cut
      obtain rfl : c = separator := beq_iff_eq.mp same
      rcases List.mem_cons.mp here with rfl | later
      · exact ⟨[], rest, rfl, rfl, top⟩
      · obtain ⟨before, after, rfl, place, top⟩ := ih (scan.step c) later
        refine ⟨c :: before, after, rfl, ?_, top⟩
        rw [width_cons, ← place, width_nil]
        omega
    · rw [cuts_locate_cons] at here
      obtain ⟨before, after, rfl, place, top⟩ := ih (scan.step c) here
      refine ⟨c :: before, after, rfl, ?_, top⟩
      rw [width_cons, ← place]
      omega

namespace Partition

/-- There is a first segment, and it starts where the whole starts. -/
theorem exists_cons (partition : Partition separator segment segments) :
    ∃ text later, segments = ⟨text, segment.offset⟩ :: later := by
  cases partition with
  | whole => exact ⟨_, [], rfl⟩
  | cut => exact ⟨_, _, rfl⟩

/-- The segments with the separator between them are the whole. -/
theorem intercalate_eq (partition : Partition separator segment segments) :
    [separator].intercalate (segments.map text) = segment.text := by
  induction partition with
  | whole => exact List.intercalate_singleton
  | cut _ _ others ih =>
    obtain ⟨next, later, rfl⟩ := others.exists_cons
    rw [List.map_cons, List.map_cons, List.intercalate_cons_cons, ← List.map_cons, ih]
    exact List.append_assoc _ _ _

/-- A segment starts behind all that stands before it, separators included. -/
theorem offset_eq (partition : Partition separator segment segments) {before after : List Segment}
    {piece : Segment} (split : segments = before ++ piece :: after) :
    piece.offset =
      segment.offset + width (before.flatMap fun earlier => earlier.text ++ [separator]) := by
  induction partition generalizing before with
  | whole =>
    cases before with
    | nil =>
      obtain ⟨rfl, -⟩ := List.cons.inj split
      rfl
    | cons earlier before =>
      obtain ⟨-, none_⟩ := List.cons.inj split
      cases before <;> cases none_
  | cut _ _ _ ih =>
    cases before with
    | nil =>
      obtain ⟨rfl, -⟩ := List.cons.inj split
      rfl
    | cons earlier before =>
      obtain ⟨rfl, others⟩ := List.cons.inj split
      rw [ih others, List.flatMap_cons]
      simp only [width_append, width_cons, width_nil]
      omega

/-- No segment has a separator at its own top level. -/
theorem isFree (partition : Partition separator segment segments) :
    ∀ piece ∈ segments, start.IsFree separator piece.text := by
  induction partition with
  | whole free => exact List.forall_mem_singleton.mpr free
  | cut free _ _ ih => exact List.forall_mem_cons.mpr ⟨free, ih⟩

/-- The first separator stands at the first cut, and without a cut there is none. -/
theorem findIndex?_cases (plain : isPlain separator = true) {text : List Char}
    (partition : Partition separator ⟨text, 0⟩ segments) :
    (∃ whole, segments = [whole] ∧ findIndex? separator text = none) ∨
    ∃ first next later, segments = first :: next :: later ∧
      findIndex? separator text = some first.stop := by
  cases partition with
  | whole free =>
    refine .inl ⟨_, rfl, ?_⟩
    rw [findIndex?, findTop?_eq_none free]
    rfl
  | cut free ends others =>
    obtain ⟨next, later, rfl⟩ := others.exists_cons
    refine .inr ⟨_, _, later, rfl, ?_⟩
    rw [findIndex?, findTop?_of_free plain free ends, Option.map_some, stop, Nat.zero_add]

/-- **The cuts are the separators at the top level.** -/
theorem mem_cuts_iff (plain : isPlain separator = true)
    (partition : Partition separator segment segments) {place : Nat} :
    place ∈ cuts segments ↔ ∃ before after, segment.text = before ++ separator :: after ∧
      segment.offset + width before = place ∧ (start.run before).isTop separator = true := by
  induction partition with
  | whole free =>
    refine ⟨nofun, ?_⟩
    rintro ⟨before, after, rfl, -, top⟩
    rw [free.isTop_eq_false] at top
    cases top
  | @cut first rest offset later free ends others ih =>
    obtain ⟨next, more, same⟩ := others.exists_cons
    have first_ : cuts (⟨first, offset⟩ :: later) = (offset + width first) :: cuts later := by
      rw [same]
      rfl
    rw [first_, List.mem_cons, ih]
    -- behind the first separator the scan goes on as from the start
    constructor
    · rintro (rfl | ⟨before, after, split, place, top⟩)
      · exact ⟨first, rest, rfl, rfl, by rw [ends]; exact (step_separator plain).2⟩
      · refine ⟨first ++ separator :: before, after, ?_, ?_, ?_⟩
        · rw [show rest = _ from split, List.append_assoc]
          rfl
        · rw [← place, width_append, width_cons]
          show offset + _ = offset + width first + _ + _
          omega
        · rwa [run_cut plain ends]
    · rintro ⟨before, after, split, place, top⟩
      rcases before_cut free split top with rfl | ⟨more, rfl, tail⟩
      · exact .inl place.symm
      · refine .inr ⟨more, after, tail, ?_, ?_⟩
        · rw [← place, width_append, width_cons]
          show offset + width first + _ + _ = offset + _
          omega
        · rwa [run_cut plain ends] at top

end Partition

/-- **A text is cut exactly at its top-level separators.**  For a separator that is neither a
bracket nor a quote:

* the segments with the separator between them are the text;
* each starts behind all that stands before it, counted in bytes;
* cut again, each of them stays whole;
* no top-level separator is found if there is only one segment, and else the first one is found
  where the first segment ends;
* the cuts are the places of the separators that a scan from the start of the text meets outside
  quotes with no bracket open. -/
theorem splitTop_exact {separator : Char} (plain : isPlain separator = true)
    (text : List Char) :
    let segments := splitTop ⟨text, 0⟩ separator
    [separator].intercalate (segments.map Segment.text) = text ∧
    (∀ before segment after, segments = before ++ segment :: after →
      segment.offset = width (before.flatMap fun earlier => earlier.text ++ [separator])) ∧
    (∀ segment ∈ segments, ∀ offset,
      splitTop ⟨segment.text, offset⟩ separator = [⟨segment.text, offset⟩]) ∧
    ((∃ whole, segments = [whole] ∧ findIndex? separator text = none) ∨
      ∃ first next later, segments = first :: next :: later ∧
        findIndex? separator text = some first.stop) ∧
    ∀ place, place ∈ cuts segments ↔ ∃ before after, text = before ++ separator :: after ∧
      width before = place ∧ (start.run before).quote = none ∧ (start.run before).depth = 0 := by
  intro segments
  have partition : Partition separator ⟨text, 0⟩ segments := partition_splitTop plain text 0
  refine ⟨partition.intercalate_eq, ?_, ?_, partition.findIndex?_cases plain, ?_⟩
  · intro before segment after split
    rw [partition.offset_eq split, Nat.zero_add]
  · intro segment here offset
    exact splitTop_of_free (partition.isFree segment here) offset
  · intro place
    rw [partition.mem_cuts_iff plain]
    simp only [isTop_plain plain, Nat.zero_add]

/-- A bracket that closes nothing, an escaped quote, a wide character in brackets and a quote that
is never closed. -/
theorem splitTop_exact_past_stray_closer :
    let text := ['a', ')', ',', '\x22', 'b', ',', '\\', '\x22', ',', '\x22', ',', '[', 'é', ',', 'x',
      ']', ',', '\x27', 'd', ',']
    isPlain ',' = true ∧
    splitTop ⟨text, 0⟩ ',' =
      [⟨['a', ')'], 0⟩, ⟨['\x22', 'b', ',', '\\', '\x22', ',', '\x22'], 3⟩,
        ⟨['[', 'é', ',', 'x', ']'], 11⟩, ⟨['\x27', 'd', ','], 18⟩] ∧
    findIndex? ',' text = some 2 ∧
    ∀ place, place ∈ [2, 10, 17] ↔ ∃ before after, text = before ++ ',' :: after ∧
      width before = place ∧ (start.run before).quote = none ∧ (start.run before).depth = 0 := by
  intro text
  have plain : isPlain ',' = true := by decide
  have cut : splitTop ⟨text, 0⟩ ',' =
      [⟨['a', ')'], 0⟩, ⟨['\x22', 'b', ',', '\\', '\x22', ',', '\x22'], 3⟩,
        ⟨['[', 'é', ',', 'x', ']'], 11⟩, ⟨['\x27', 'd', ','], 18⟩] := by
    decide
  obtain ⟨-, -, -, one | ⟨first, next, later, several, found⟩, places⟩ := splitTop_exact plain text
  · obtain ⟨whole, single, -⟩ := one
    rw [cut] at single
    cases single
  · rw [cut] at several places
    cases several
    exact ⟨plain, cut, found, places⟩

end Segment

end Choreography
