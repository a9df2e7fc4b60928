import Choreography.Directive

/-!
# Directives as attributes

A directive is written as the name of an attribute: its label, and each modifier after a dot
(`Directive.attributeName`).  This is possible where its value and its modifiers are parts of a
name, neither empty nor with a dot in them (`Directive.IsWritable`).

**Names and directives correspond** (`Directive.attribute_roundTrip`): a directive that can be
written is read back from its name, a name is read exactly if it goes on behind the common start
with a dot or a colon or not at all, and what is read can be written again.
-/

namespace Choreography

namespace Text

/-- A text between dots has no dot in it. -/
theorem not_mem_of_mem_splitDots {text piece : List Char} (here : piece ∈ splitDots text) :
    '.' ∉ piece := by
  induction text generalizing piece with
  | nil =>
    rw [List.mem_singleton.mp here]
    exact List.not_mem_nil
  | cons c rest ih =>
    rw [splitDots, List.splitOnP_cons_eq_if_modifyHead] at here
    split at here
    · rcases List.mem_cons.mp here with rfl | here
      · exact List.not_mem_nil
      · exact ih here
    · -- any other character goes in front of the first piece
      rename_i other
      cases pieces : splitDots rest with
      | nil => exact absurd pieces (List.splitOnP_ne_nil _ _)
      | cons first later =>
        rw [pieces] at ih
        rw [show rest.splitOnP (· == '.') = first :: later from pieces, List.modifyHead_cons]
          at here
        rcases List.mem_cons.mp here with rfl | here
        · have different : '.' ≠ c := fun same => other (beq_iff_eq.mpr same.symm)
          exact List.not_mem_cons_of_ne_of_not_mem different (ih List.mem_cons_self)
        · exact ih (List.mem_cons_of_mem _ here)

theorem beq_dot_eq_false {text : List Char} (dotless : '.' ∉ text) :
    ∀ c ∈ text, (c == '.') = false := by
  intro c here
  exact beq_eq_false_iff_ne.mpr fun same => dotless (same ▸ here)

end Text

namespace Directive

open Text

/-! ## Writing -/

/-- A text that stands between the dots of a name. -/
def IsPart (text : String) : Prop := text ≠ "" ∧ '.' ∉ text.toList

instance (text : String) : Decidable (IsPart text) := inferInstanceAs (Decidable (_ ∧ _))

/-- A directive that can be written as an attribute. -/
structure IsWritable (directive : Directive) : Prop where
  value : ∀ value, directive.value = some value → IsPart value
  modifiers : ∀ modifier ∈ directive.modifiers, IsPart modifier

/-- The name of the attribute that a directive is written as. -/
def attributeName (start : String) (directive : Directive) : String :=
  directive.label start ++ String.join (directive.modifiers.map ("." ++ ·))

/-- A value as it is written in a name. -/
def valueText : Option String → List Char
  | none => []
  | some value => ':' :: value.toList

/-- Modifiers as they are written in a name. -/
def modifiersText (modifiers : List String) : List Char :=
  modifiers.flatMap fun modifier => '.' :: modifier.toList

theorem toList_attributeName (start : String) (directive : Directive) :
    (directive.attributeName start).toList =
      start.toList ++ (valueText directive.value ++ modifiersText directive.modifiers) := by
  have value : (directive.label start).toList = start.toList ++ valueText directive.value := by
    rw [label]
    cases directive.value with
    | none => exact (List.append_nil _).symm
    | some value =>
      rw [String.toList_append, String.toList_append, List.append_assoc]
      rfl
  rw [attributeName, String.toList_append, String.toList_join, value, List.append_assoc,
    List.flatMap_map]
  simp [modifiersText]

/-! ## Reading what was written -/

theorem valueOf?_valueText {value : Option String} (parts : ∀ text, value = some text → IsPart text) :
    valueOf? (valueText value) = some value := by
  cases value with
  | none => rfl
  | some text =>
    obtain ⟨some_, -⟩ := parts text rfl
    cases same : text.toList with
    | nil => exact absurd (String.toList_inj.mp same) some_
    | cons c rest =>
      rw [valueText, same, valueOf?, ← same, String.ofList_toList]
      exact nofun

theorem not_mem_valueText {value : Option String} (parts : ∀ text, value = some text → IsPart text) :
    '.' ∉ valueText value := by
  cases value with
  | none => exact List.not_mem_nil
  | some text => simp [valueText, (parts text rfl).2]

/-- A name is cut at its first dot, if what stands before has none. -/
theorem span_modifiersText {head : List Char} (dotless : '.' ∉ head) (modifiers : List String) :
    (head ++ modifiersText modifiers).takeWhile (· ≠ '.') = head ∧
      (head ++ modifiersText modifiers).dropWhile (· ≠ '.') = modifiersText modifiers := by
  have passes : ∀ c ∈ head, decide (c ≠ '.') = true := by
    intro c here
    exact decide_eq_true (beq_eq_false_iff_ne.mp (beq_dot_eq_false dotless c here))
  rw [List.takeWhile_append_of_pos passes, List.dropWhile_append_of_pos passes]
  cases modifiers with
  | nil => exact ⟨List.append_nil head, rfl⟩
  | cons modifier rest => exact ⟨List.append_nil head, rfl⟩

/-- The texts between the dots are the modifiers. -/
theorem splitDots_modifiersText {modifier : String} {rest : List String}
    (parts : ∀ part ∈ modifier :: rest, IsPart part) :
    splitDots (modifier.toList ++ modifiersText rest) = (modifier :: rest).map String.toList := by
  induction rest generalizing modifier with
  | nil =>
    have dotless := (parts modifier List.mem_cons_self).2
    rw [modifiersText, List.flatMap_nil, List.append_nil, splitDots,
      List.splitOnP_eq_singleton (beq_dot_eq_false dotless)]
    rfl
  | cons next rest ih =>
    obtain ⟨⟨-, dotless⟩, others⟩ := List.forall_mem_cons.mp parts
    rw [modifiersText, List.flatMap_cons, List.cons_append, splitDots,
      List.splitOnP_append_cons_of_forall_mem (beq_dot_eq_false dotless) '.' rfl]
    exact congrArg (modifier.toList :: ·) (ih others)

theorem splitModifiers_modifiersText {modifiers : List String}
    (parts : ∀ modifier ∈ modifiers, IsPart modifier) :
    splitModifiers ((modifiersText modifiers).drop 1) = modifiers := by
  cases modifiers with
  | nil => rfl
  | cons modifier rest =>
    have visible : ((modifier :: rest).map String.toList).filter (fun text => !text.isEmpty) =
        (modifier :: rest).map String.toList := by
      refine List.filter_eq_self.mpr fun text here => ?_
      obtain ⟨part, among, rfl⟩ := List.mem_map.mp here
      simpa using (parts part among).1
    show splitModifiers (modifier.toList ++ modifiersText rest) = modifier :: rest
    rw [splitModifiers, splitDots_modifiersText parts, visible, List.map_map]
    exact List.map_id'' (fun _ => String.ofList_toList) _

/-- **A directive that can be written** is read back. -/
theorem ofAttribute?_attributeName (start : String) {directive : Directive}
    (writable : directive.IsWritable) :
    ofAttribute? start (directive.attributeName start) directive.expression = some directive := by
  obtain ⟨head, tail⟩ :=
    span_modifiersText (not_mem_valueText writable.value) directive.modifiers
  have dropped : dropStart? start.toList (directive.attributeName start).toList =
      some (valueText directive.value ++ modifiersText directive.modifiers) :=
    dropStart?_eq_some_iff.mpr (toList_attributeName start directive)
  rw [ofAttribute?, dropped, Option.bind_eq_bind, Option.bind_some, head, tail,
    valueOf?_valueText writable.value, Option.bind_eq_bind, Option.bind_some,
    splitModifiers_modifiersText writable.modifiers]

/-! ## What is read -/

variable {start name expression : String} {directive : Directive}

/-- What is read stands behind the common start, and the first dot ends the value. -/
theorem ofAttribute?_eq_some_iff :
    ofAttribute? start name expression = some directive ↔
      ∃ rest value, name.toList = start.toList ++ rest ∧
        valueOf? (rest.takeWhile (· ≠ '.')) = some value ∧
        directive = ⟨value, splitModifiers ((rest.dropWhile (· ≠ '.')).drop 1), expression⟩ := by
  simp only [ofAttribute?, Option.bind_eq_bind, Option.bind_eq_some_iff, dropStart?_eq_some_iff,
    Option.some.injEq, exists_and_left, eq_comm (b := directive)]

/-- A value part is well formed if there is nothing before the first dot, or a colon first. -/
theorem isSome_valueOf?_iff (rest : List Char) :
    (valueOf? (rest.takeWhile (· ≠ '.'))).isSome = true ↔
      rest = [] ∨ ∃ more, rest = '.' :: more ∨ rest = ':' :: more := by
  cases rest with
  | nil => simp [valueOf?]
  | cons c more =>
    by_cases dot : c = '.'
    · simp [dot, valueOf?]
    · rw [List.takeWhile_cons_of_pos (by simpa using dot)]
      by_cases colon : c = ':'
      · subst colon
        cases more.takeWhile (· ≠ '.') <;> simp [valueOf?]
      · simp [valueOf?, dot, colon]

/-- **Exactly the names are read** that end behind the common start or go on with a dot or a
colon. -/
theorem isSome_ofAttribute?_iff :
    (ofAttribute? start name expression).isSome = true ↔
      name = start ∨ ∃ more, name = start ++ "." ++ more ∨ name = start ++ ":" ++ more := by
  have read : (ofAttribute? start name expression).isSome = true ↔
      ∃ rest, name.toList = start.toList ++ rest ∧
        (rest = [] ∨ ∃ more, rest = '.' :: more ∨ rest = ':' :: more) := by
    simp only [Option.isSome_iff_exists, ofAttribute?_eq_some_iff, ← isSome_valueOf?_iff]
    constructor
    · rintro ⟨_, rest, value, split, valued, -⟩
      exact ⟨rest, split, value, valued⟩
    · rintro ⟨rest, split, value, valued⟩
      exact ⟨_, rest, value, split, valued, rfl⟩
  rw [read]
  constructor
  · rintro ⟨rest, split, rfl | ⟨more, rfl | rfl⟩⟩
    · exact .inl (String.toList_inj.mp (split.trans (List.append_nil _)))
    · exact .inr ⟨String.ofList more, .inl (String.toList_inj.mp (split.trans (by simp)))⟩
    · exact .inr ⟨String.ofList more, .inr (String.toList_inj.mp (split.trans (by simp)))⟩
  · rintro (rfl | ⟨more, rfl | rfl⟩)
    · exact ⟨[], (List.append_nil _).symm, .inl rfl⟩
    · exact ⟨'.' :: more.toList, by simp, .inr ⟨_, .inl rfl⟩⟩
    · exact ⟨':' :: more.toList, by simp, .inr ⟨_, .inr rfl⟩⟩

/-- The value that is read is more than a colon. -/
theorem eq_cons_of_valueOf? {head : List Char} {value : String}
    (valued : valueOf? head = some (some value)) :
    value ≠ "" ∧ head = ':' :: value.toList := by
  rw [valueOf?.eq_def] at valued
  split at valued
  · cases valued
  · cases valued
  · rename_i text some_
    cases valued
    refine ⟨fun empty => some_ ?_, by rw [String.toList_ofList]⟩
    rwa [← String.toList_inj, String.toList_ofList] at empty
  · cases valued

/-- What is read can be written. -/
theorem isWritable_of_ofAttribute? (read : ofAttribute? start name expression = some directive) :
    directive.IsWritable := by
  obtain ⟨rest, value, -, valued, rfl⟩ := ofAttribute?_eq_some_iff.mp read
  constructor
  · rintro text rfl
    obtain ⟨some_, head⟩ := eq_cons_of_valueOf? valued
    have dotless : '.' ∉ rest.takeWhile (· ≠ '.') := by
      intro here
      simpa using List.all_eq_true.mp List.all_takeWhile _ here
    rw [head] at dotless
    exact ⟨some_, fun here => dotless (List.mem_cons_of_mem _ here)⟩
  · intro modifier here
    obtain ⟨text, among, rfl⟩ := List.mem_map.mp here
    obtain ⟨piece, visible⟩ := List.mem_filter.mp among
    refine ⟨fun empty => ?_, ?_⟩
    · rw [← String.toList_inj, String.toList_ofList] at empty
      rw [empty] at visible
      cases visible
    · rw [String.toList_ofList]
      exact not_mem_of_mem_splitDots piece

/-- **Names of attributes and directives correspond.**  Whatever the common start is:

* a directive whose value, if it has one, and whose modifiers are neither empty nor hold a dot is
  read back from the name that it is written as;
* a name is read exactly if it is the common start, or goes on behind it with a dot or a colon;
* what is read can be written, and is read back from the name that it is then written as. -/
theorem attribute_roundTrip (start : String) :
    (∀ directive : Directive, directive.IsWritable →
      ofAttribute? start (directive.attributeName start) directive.expression = some directive) ∧
    (∀ name expression, (ofAttribute? start name expression).isSome = true ↔
      name = start ∨ ∃ more, name = start ++ "." ++ more ∨ name = start ++ ":" ++ more) ∧
    ∀ name expression directive, ofAttribute? start name expression = some directive →
      directive.IsWritable ∧ directive.expression = expression ∧
        ofAttribute? start (directive.attributeName start) expression = some directive := by
  refine ⟨fun _ => ofAttribute?_attributeName start, fun _ _ => isSome_ofAttribute?_iff, ?_⟩
  intro name expression directive read
  have writable := isWritable_of_ofAttribute? read
  have kept : directive.expression = expression := by
    obtain ⟨_, _, -, -, rfl⟩ := ofAttribute?_eq_some_iff.mp read
    rfl
  exact ⟨writable, kept, kept ▸ ofAttribute?_attributeName start writable⟩

/-- The common start and the value may have colons in them; dots that follow one another and a
colon without a value are not written again. -/
theorem attribute_roundTrip_of_colons :
    let written : Directive := ⟨some ":a", ["in-view", "1_5"], "x"⟩
    let bare : Directive := ⟨none, ["a", "b"], "x"⟩
    written.IsWritable ∧
      ofAttribute? "x:m" "x:m::a.in-view.1_5" "x" = some written ∧
      ofAttribute? "x:m" "x:m:.a..b" "x" = some bare ∧
      ofAttribute? "x:m" "x:m.a.b" "x" = some bare ∧
      (ofAttribute? "x:m" "x:mless" "x").isSome = false := by
  intro written bare
  have writable : written.IsWritable := by
    refine ⟨fun value same => ?_, by decide⟩
    cases same
    decide
  obtain ⟨reads, -, writes⟩ := attribute_roundTrip "x:m"
  have name : written.attributeName "x:m" = "x:m::a.in-view.1_5" := by decide
  have shorter : bare.attributeName "x:m" = "x:m.a.b" := by decide
  have read : ofAttribute? "x:m" "x:m:.a..b" "x" = some bare := by decide
  refine ⟨writable, name ▸ reads written writable, read, ?_, by decide⟩
  exact shorter ▸ (writes _ _ bare read).2.2

end Directive

end Choreography
