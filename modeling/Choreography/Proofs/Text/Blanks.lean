import Choreography.Text

/-!
# Blanks around a text

Trimming takes away blanks around a text that neither starts nor ends with one
(`trim_between`), and nothing else: every text is what is left of it with blanks around
(`exists_trim`).
-/

namespace Choreography.Text

variable {blanks text : List Char}

/-- Every text is blanks and what `trimStart` leaves of it. -/
theorem exists_blanks (text : List Char) :
    ∃ blanks, isBlankText blanks = true ∧ text = blanks ++ trimStart text :=
  ⟨text.takeWhile isBlank, List.all_takeWhile, (takeWhile_append_trimStart text).symm⟩

theorem trimStart_append (blank : isBlankText blanks = true) (text : List Char) :
    trimStart (blanks ++ text) = trimStart text :=
  List.dropWhile_append_of_pos (List.all_eq_true.mp blank)

theorem trimStart_cons {c : Char} (visible : isBlank c = false) (rest : List Char) :
    trimStart (c :: rest) = c :: rest :=
  List.dropWhile_cons_of_neg (by simp [visible])

/-- What `trimStart` leaves starts with no blank. -/
theorem isBlank_of_trimStart {c : Char} {rest : List Char} (left : trimStart text = c :: rest) :
    isBlank c = false := by
  have head := List.head?_dropWhile_not isBlank text
  rw [← trimStart, left] at head
  exact head

/-- A text is what `trimEnd` leaves of it, and blanks after that. -/
theorem exists_trimEnd_append (text : List Char) :
    ∃ blanks, isBlankText blanks = true ∧ text = trimEnd text ++ blanks := by
  refine ⟨(text.reverse.takeWhile isBlank).reverse, ?_, ?_⟩
  · rw [isBlankText, List.all_reverse]
    exact List.all_takeWhile
  · rw [trimEnd, ← List.reverse_append, List.takeWhile_append_dropWhile, List.reverse_reverse]

/-- Every text is what `trim` leaves of it, with blanks around that. -/
theorem exists_trim (text : List Char) :
    ∃ before after, isBlankText before = true ∧ isBlankText after = true ∧
      text = before ++ (trim text ++ after) := by
  obtain ⟨before, blank, split⟩ := exists_blanks text
  obtain ⟨after, blank', split'⟩ := exists_trimEnd_append (trimStart text)
  refine ⟨before, after, blank, blank', ?_⟩
  rw [trim, ← split']
  exact split

theorem trimEnd_append (blank : isBlankText blanks = true) (before : List Char) {c : Char}
    (visible : isBlank c = false) : trimEnd (before ++ [c] ++ blanks) = before ++ [c] := by
  have blank' : ∀ d ∈ blanks.reverse, isBlank d = true := by
    intro d here
    exact List.all_eq_true.mp blank d (List.mem_reverse.mp here)
  rw [trimEnd, List.reverse_append, List.dropWhile_append_of_pos blank', List.reverse_append,
    List.reverse_singleton, List.singleton_append,
    List.dropWhile_cons_of_neg (by simp [visible]), List.reverse_cons, List.reverse_reverse]

/-- **Trimming takes away the blanks around a text** that starts and ends with none. -/
theorem trim_between {before after : List Char} (blank : isBlankText before = true)
    (blank' : isBlankText after = true) {first last : Char}
    (head : text.head? = some first) (visible : isBlank first = false)
    (end_ : text.getLast? = some last) (visible' : isBlank last = false) :
    trim (before ++ (text ++ after)) = text := by
  obtain ⟨rest, rfl⟩ := List.head?_eq_some_iff.mp head
  obtain ⟨front, split⟩ := List.getLast?_eq_some_iff.mp end_
  rw [trim, trimStart_append blank, List.cons_append, trimStart_cons visible, ← List.cons_append,
    split, trimEnd_append blank' front visible']

/-- A text whose trimmed form starts with a character starts with it after its leading
blanks. -/
theorem head?_trimStart_of_trim {c : Char} {rest : List Char} (trimmed : trim text = c :: rest) :
    (trimStart text).head? = some c := by
  obtain ⟨blanks, -, split⟩ := exists_trimEnd_append (trimStart text)
  rw [← trim, trimmed] at split
  rw [split]
  rfl

/-- What stands first after the leading blanks does not depend on what follows. -/
theorem head?_trimStart_append {c : Char} (head : (trimStart text).head? = some c)
    (after : List Char) : (trimStart (text ++ after)).head? = some c := by
  obtain ⟨blanks, blank, split⟩ := exists_blanks text
  obtain ⟨rest, left⟩ := List.head?_eq_some_iff.mp head
  rw [split, List.append_assoc, trimStart_append blank, left, List.cons_append,
    trimStart_cons (isBlank_of_trimStart left)]
  rfl

theorem isBlankText_append {first second : List Char} :
    isBlankText (first ++ second) = true ↔
      isBlankText first = true ∧ isBlankText second = true := by
  simp [isBlankText, List.all_append]

end Choreography.Text
