import Choreography.Proofs.Scan.Balance

/-!
# Cutting a text

Where a text is cut, told from what stands before the cut:

* a balanced text without the separator at its top level is one piece
  (`pieces_of_free`), and the first piece of a longer text (`splitTop_append`);
* the first top-level needle comes after a text that is free of it
  (`findTop?_of_free`);
* a segment is unwrapped exactly to the balanced text between a brace and the bracket that
  closes it, of whatever kind (`unwrap?_of_closing`, `keeps_of_unwrap?`), and not at all if
  it starts with no brace (`unwrap?_eq_none`).
-/

namespace Choreography

namespace Scan

variable {separator : Char}

theorem pieces_of_free {scan : Scan} {text : List Char} (free : scan.IsFree separator text) :
    pieces separator scan text = (text, []) := by
  induction text generalizing scan with
  | nil => rfl
  | cons c rest ih => simp only [pieces, free.1, ih free.2, Bool.false_eq_true, if_false]

/-- A plain character stands at the top level outside quotes and brackets. -/
theorem isTop_plain (plain : isPlain separator = true) {scan : Scan} :
    scan.isTop separator = true ↔ scan.quote = none ∧ scan.depth = 0 := by
  simp only [isPlain, Bool.and_eq_true, Bool.not_eq_true'] at plain
  simp [isTop, plain.1.1, plain.2]

/-- The separator itself is a plain character at the top level. -/
theorem step_separator (plain : isPlain separator = true) :
    start.step separator = start ∧ start.isTop separator = true :=
  ⟨step_plain rfl plain, (isTop_plain plain).mpr ⟨rfl, rfl⟩⟩

/-- A text that is free of the separator is the first piece of a longer one. -/
theorem pieces_append (plain : isPlain separator = true) {scan : Scan}
    {text : List Char} (free : scan.IsFree separator text) (ends : scan.run text = start)
    (rest : List Char) :
    pieces separator scan (text ++ separator :: rest) =
      (text, (pieces separator start rest).1 :: (pieces separator start rest).2) := by
  induction text generalizing scan with
  | nil =>
    rw [run_nil] at ends
    subst ends
    obtain ⟨same, top⟩ := step_separator plain
    simp only [List.nil_append, pieces, same, top, beq_self_eq_true, Bool.and_self, if_true]
  | cons c rest ih =>
    simp only [List.cons_append, pieces, free.1, ih free.2 ends, Bool.false_eq_true, if_false]

/-- The first top-level needle is the one after a text that is free of it. -/
theorem findTop?_of_free (plain : isPlain separator = true) {scan : Scan}
    {text : List Char} (free : scan.IsFree separator text) (ends : scan.run text = start)
    (rest : List Char) :
    findTop? separator scan (text ++ separator :: rest) = some (text, rest) := by
  induction text generalizing scan with
  | nil =>
    rw [run_nil] at ends
    subst ends
    rw [List.nil_append, findTop?, (step_separator plain).2]
    simp
  | cons c rest ih =>
    rw [List.cons_append, findTop?, free.1, ih free.2 ends]
    rfl

end Scan

namespace Segment

open Scan Text

theorem splitTop_of_free {separator : Char} {text : List Char}
    (free : Scan.start.IsFree separator text) (offset : Nat) :
    splitTop ⟨text, offset⟩ separator = [⟨text, offset⟩] := by
  rw [splitTop, pieces_of_free free]
  rfl

/-- A text that is free of the separator is cut off, and the rest is cut as before. -/
theorem splitTop_append {separator : Char} (plain : isPlain separator = true)
    {text : List Char} (free : Scan.start.IsFree separator text)
    (ends : Scan.start.run text = Scan.start) (rest : List Char) (offset : Nat) :
    splitTop ⟨text ++ separator :: rest, offset⟩ separator =
      ⟨text, offset⟩ ::
        splitTop ⟨rest, offset + width text + separator.utf8Size⟩ separator := by
  rw [splitTop, pieces_append plain free ends]
  rfl

variable {body before after : List Char}

/-- A pair of brackets around a balanced text is taken off, with the blanks around it, if a
brace opens it: the kind of the bracket that closes it is not looked at. -/
theorem unwrap?_of_closing (keeps : Keeps body) {closer : Char} (closes : isClosing closer = true)
    (blank : isBlankText before = true) (blank' : isBlankText after = true) (offset : Nat) :
    unwrap? ⟨before ++ ('{' :: (body ++ [closer]) ++ after), offset⟩ =
      some ⟨body, offset + width before + 1⟩ := by
  have visible : Text.isBlank closer = false := by
    simp only [isClosing, Bool.or_eq_true, beq_iff_eq] at closes
    rcases closes with (rfl | rfl) | rfl <;> rfl
  have trimmed : trim (before ++ ('{' :: (body ++ [closer]) ++ after)) =
      '{' :: (body ++ [closer]) :=
    trim_between blank blank' rfl rfl (List.getLast?_concat (l := '{' :: body)) visible
  have found := closing?_of_keeps keeps (show isOpening '{' = true from rfl) closes []
  have leading : (before ++ ('{' :: (body ++ [closer]) ++ after)).takeWhile Text.isBlank =
      before := by
    rw [List.takeWhile_append_of_pos (List.all_eq_true.mp blank), List.cons_append,
      List.takeWhile_cons_of_neg (by decide), List.append_nil]
  rw [unwrap?, trimmed, found]
  dsimp only
  rw [leading]
  rfl

/-- **A pair of braces around a balanced text** is taken off, with the blanks around
it. -/
theorem unwrap?_of_keeps (keeps : Keeps body) (blank : isBlankText before = true)
    (blank' : isBlankText after = true) (offset : Nat) :
    unwrap? ⟨before ++ ('{' :: (body ++ ['}']) ++ after), offset⟩ =
      some ⟨body, offset + width before + 1⟩ :=
  unwrap?_of_closing keeps rfl blank blank' offset

/-- What is unwrapped is a balanced text between a brace and a bracket that closes it. -/
theorem keeps_of_unwrap? {text : List Char} {offset : Nat} {inside : Segment}
    (unwrapped : unwrap? ⟨text, offset⟩ = some inside) :
    Keeps inside.text ∧
      ∃ closer, isClosing closer = true ∧ trim text = '{' :: (inside.text ++ [closer]) := by
  rw [unwrap?] at unwrapped
  split at unwrapped
  · rename_i body closer found
    cases unwrapped
    obtain ⟨whole, closes⟩ := closing?_append found
    rw [← whole] at found
    obtain ⟨inner, same, -, keeps⟩ := keeps_of_closing? rfl found
    cases same
    exact ⟨keeps, closer, closes, whole.symm⟩
  · cases unwrapped

/-- A segment that starts with no brace, but for blanks, is not unwrapped. -/
theorem unwrap?_eq_none {text : List Char} (noBrace : (trimStart text).head? ≠ some '{')
    (offset : Nat) : unwrap? ⟨text, offset⟩ = none := by
  rw [unwrap?]
  split
  · rename_i inside closer found
    have whole := (closing?_append found).1
    exact absurd (head?_trimStart_of_trim whole.symm) noBrace
  · rfl

end Segment

end Choreography
