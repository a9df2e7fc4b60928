import Choreography.Proofs.Expression.Arguments
import Choreography.Proofs.Expression.Composition
import Choreography.Proofs.Expression.Positions
import Choreography.Resolution

/-!
# Where the arguments of calls stand

A call keeps the text between its parentheses, without the blanks around it, and **every call
that is compiled from a directive is written in the expression of the directive with just that
text** (`Directive.written_of_mem_calls`).  The text is read when the call is resolved, and then
its places are counted from its own start.

So **an error in the arguments of a call names a place in the argument text**: what it says is
so there, and what it says of a place of the expression is so only after the place where the
arguments start is added (`Directive.argument_error_relative`).  No arguments start at the start
of an expression, so the place that is named is never the one in the expression, although a
refusal is meant to name a place of the whole expression (`Directive.argument_error_misplaced`).
-/

namespace Choreography

open Text Literal

variable {scope : Scope} {text : List Char}

/-! ## Calls in a text -/

namespace Call

/-- A call is written in a text, and its arguments start at a place.  Blanks may stand on both
sides of the opening parenthesis and before the closing one. -/
def WrittenAt (call : Call) (text : List Char) (place : Nat) : Prop :=
  ∃ front blanks before after back,
    isBlankText blanks = true ∧ isBlankText before = true ∧ isBlankText after = true ∧
    text = front ++ (call.helper.toList ++ (blanks ++ '(' ::
      (before ++ (call.arguments.toList ++ (after ++ ')' :: back))))) ∧
    place = width (front ++ (call.helper.toList ++ (blanks ++ '(' :: before)))

/-- A call is written in a text. -/
def Written (call : Call) (text : List Char) : Prop := ∃ place, call.WrittenAt text place

variable {call : Call} {place : Nat}

/-- The arguments stand in the text at their place. -/
theorem WrittenAt.within (written : call.WrittenAt text place) :
    Segment.Within ⟨text, 0⟩ ⟨call.arguments.toList, place⟩ := by
  obtain ⟨front, blanks, before, after, back, -, -, -, rfl, rfl⟩ := written
  refine ⟨front ++ (call.helper.toList ++ (blanks ++ '(' :: before)), after ++ ')' :: back,
    ?_, (Nat.zero_add _).symm⟩
  simp only [List.append_assoc, List.cons_append]

/-- The parenthesis stands before the arguments. -/
theorem WrittenAt.place_pos (written : call.WrittenAt text place) : 0 < place := by
  obtain ⟨front, blanks, before, after, back, -, -, -, -, rfl⟩ := written
  have parenthesis : '('.utf8Size = 1 := rfl
  simp only [width_append, width_cons, parenthesis]
  omega

/-- A call that is written in a piece of a text is written in the text. -/
theorem WrittenAt.of_within {piece : Segment} (within : Segment.Within ⟨text, 0⟩ piece)
    (written : call.WrittenAt piece.text place) :
    call.WrittenAt text (piece.offset + place) := by
  obtain ⟨ahead, behind, split, wide⟩ := within.exists_split
  obtain ⟨front, blanks, before, after, back, blank, blank', blank'', same, rfl⟩ := written
  refine ⟨ahead ++ front, blanks, before, after, back ++ behind, blank, blank', blank'', ?_, ?_⟩
  · rw [split, same]
    simp only [List.append_assoc, List.cons_append]
  · rw [List.append_assoc, width_append ahead, wide]

theorem Written.of_within {piece : Segment} (within : Segment.Within ⟨text, 0⟩ piece)
    (written : call.Written piece.text) : call.Written text := by
  obtain ⟨place, written⟩ := written
  exact ⟨_, written.of_within within⟩

end Call

/-- All of a list of calls are written in a text. -/
def Call.AllWritten (calls : List Call) (text : List Char) : Prop :=
  ∀ call ∈ calls, call.Written text

namespace Call.AllWritten

variable {calls more : List Call}

theorem nil (text : List Char) : AllWritten [] text := nofun

theorem append (first : AllWritten calls text) (second : AllWritten more text) :
    AllWritten (calls ++ more) text := by
  intro call here
  rcases List.mem_append.mp here with here | here
  · exact first call here
  · exact second call here

/-- Text around does not matter. -/
theorem between (before after : List Char) (written : AllWritten calls text) :
    AllWritten calls (before ++ (text ++ after)) := by
  intro call here
  have within : Segment.Within ⟨before ++ (text ++ after), 0⟩ ⟨text, width before⟩ :=
    ⟨before, after, rfl, (Nat.zero_add _).symm⟩
  exact (written call here).of_within within

theorem append_right (after : List Char) (written : AllWritten calls text) :
    AllWritten calls (text ++ after) :=
  written.between [] after

theorem append_left (before : List Char) (written : AllWritten calls text) :
    AllWritten calls (before ++ text) := by
  simpa using written.between before []

end Call.AllWritten

/-! ## Calls of templates -/

theorem Template.mem_fieldCalls {fields : List (String × Template)} {call : Call} :
    call ∈ Template.fieldCalls fields ↔ ∃ field ∈ fields, call ∈ field.2.calls := by
  induction fields with
  | nil => simp [Template.fieldCalls]
  | cons field rest ih => simp [Template.fieldCalls, ih]

namespace Grammar

/-- The text of a call: the blanks around the arguments are the ones that were trimmed. -/
theorem written_call (path blanks arguments : List Char) (blank : isBlankText blanks = true) :
    Call.Written ⟨String.ofList path, String.ofList (trim arguments)⟩
      (path ++ (blanks ++ '(' :: (arguments ++ [')']))) := by
  obtain ⟨before, after, blank', blank'', split⟩ := exists_trim arguments
  refine ⟨_, [], blanks, before, after, [], blank, blank', blank'', ?_, rfl⟩
  rw [String.toList_ofList, String.toList_ofList, List.nil_append, ← List.append_assoc (trim _),
    ← List.append_assoc before, ← split]

mutual

/-- **The calls of a template** are written in the text that denotes it. -/
theorem Denotes.written {text : List Char} {value : Template}
    (denotes : Denotes scope text value) : Call.AllWritten value.calls text := by
  cases denotes with
  | string => exact .nil _
  | number => exact .nil _
  | keyword => exact .nil _
  | reference => exact .nil _
  | word => exact .nil _
  | @call path root blanks arguments dotted blank nested =>
    intro call here
    rw [List.mem_singleton.mp here]
    exact written_call path blanks arguments blank
  | array inside => exact inside.written.between ['['] [']']
  | object inside =>
    -- the fields that were replaced are gone with their calls, and the others stay
    intro call here
    obtain ⟨field, among, here⟩ := Template.mem_fieldCalls.mp here
    have written := inside.written.between ['{'] ['}']
    exact written call (Template.mem_fieldCalls.mpr ⟨field, Fields.mem_of_mem_ofList among, here⟩)
termination_by 3 * text.length

theorem Item.written {text : List Char} {value : Template} (item : Item scope text value) :
    Call.AllWritten value.calls text := by
  cases item with
  | mk blank denotes blank' => exact denotes.written.between _ _
termination_by 3 * text.length + 1
decreasing_by all_goals simp +arith

theorem Entry.written {text : List Char} {field : String × Template}
    (entry : Entry scope text field) : Call.AllWritten field.2.calls text := by
  cases entry with
  | mk blank key blank' item => exact (item.written.append_left [':']).append_left _
termination_by 3 * text.length + 1
decreasing_by all_goals simp +arith

theorem Items.written {text : List Char} {items : List Template}
    (inside : Items scope text items) : Call.AllWritten (Template.itemCalls items) text := by
  cases inside with
  | blank => exact .nil _
  | last item => exact item.written.append (.nil _)
  | more item later =>
    exact (item.written.append_right _).append ((later.written.append_left [',']).append_left _)
termination_by 3 * text.length + 2
decreasing_by
  all_goals
    subst_vars
    simp +arith

theorem Entries.written {text : List Char} {fields : List (String × Template)}
    (inside : Entries scope text fields) : Call.AllWritten (Template.fieldCalls fields) text := by
  cases inside with
  | blank => exact .nil _
  | last entry => exact entry.written.append (.nil _)
  | more entry later =>
    exact (entry.written.append_right _).append ((later.written.append_left [',']).append_left _)
termination_by 3 * text.length + 2
decreasing_by
  all_goals
    subst_vars
    simp +arith

end

end Grammar

/-! ## Errors in arguments -/

theorem exists_of_mapM_error {ε α β : Type} {make : α → Except ε β} {list : List α} {error : ε}
    (failed : list.mapM make = .error error) : ∃ a ∈ list, make a = .error error := by
  induction list with
  | nil => cases failed
  | cons a rest ih =>
    rw [List.mapM_cons] at failed
    rcases exists_of_bind_error failed with failed | ⟨b, -, failed⟩
    · exact ⟨a, List.mem_cons_self, failed⟩
    · rcases exists_of_bind_error failed with failed | ⟨others, -, failed⟩
      · obtain ⟨later, here, failed⟩ := ih failed
        exact ⟨later, List.mem_cons_of_mem a here, failed⟩
      · cases failed

namespace Template

mutual

/-- A template that was read has no value for other reasons than its text. -/
theorem evaluate_ne_parse (refusal : ParseError) (template : Template) :
    template.evaluate scope ≠ .error (.parse refusal) := by
  intro failed
  cases template with
  | literal => cases failed
  | array items =>
    rcases exists_of_bind_error failed with failed | ⟨values, -, failed⟩
    · exact evaluateItems_ne_parse refusal items failed
    · cases failed
  | object fields =>
    rcases exists_of_bind_error failed with failed | ⟨values, -, failed⟩
    · exact evaluateFields_ne_parse refusal fields failed
    · cases failed
  | lookup reference =>
    rw [evaluate] at failed
    split at failed <;> cases failed
  | invoke => cases failed

theorem evaluateItems_ne_parse (refusal : ParseError) (items : List Template) :
    evaluateItems scope items ≠ .error (.parse refusal) := by
  intro failed
  cases items with
  | nil => cases failed
  | cons item rest =>
    rcases exists_of_bind_error failed with failed | ⟨value, -, failed⟩
    · exact evaluate_ne_parse refusal item failed
    · rcases exists_of_bind_error failed with failed | ⟨values, -, failed⟩
      · exact evaluateItems_ne_parse refusal rest failed
      · cases failed

theorem evaluateFields_ne_parse (refusal : ParseError) (fields : List (String × Template)) :
    evaluateFields scope fields ≠ .error (.parse refusal) := by
  intro failed
  cases fields with
  | nil => cases failed
  | cons field rest =>
    rcases exists_of_bind_error failed with failed | ⟨value, -, failed⟩
    · exact evaluate_ne_parse refusal field.2 failed
    · rcases exists_of_bind_error failed with failed | ⟨values, -, failed⟩
      · exact evaluateFields_ne_parse refusal rest failed
      · cases failed

end

end Template

namespace Arguments

theorem withoutBlankEnd_subset (pieces : List Segment) : withoutBlankEnd pieces ⊆ pieces := by
  rw [withoutBlankEnd]
  split
  · split
    · exact List.dropLast_subset _
    · exact List.Subset.refl _
  · exact List.Subset.refl _

/-- **An error in an argument text** says what is so in that text. -/
theorem isExact_of_read {arguments : String} {error : ParseError}
    (failed : read scope arguments = .error error) :
    ∃ piece, Segment.Within ⟨arguments.toList, 0⟩ piece ∧
      error.IsExact arguments.toList piece := by
  rw [read, segments_eq] at failed
  obtain ⟨piece, here, failed⟩ := exists_of_mapM_error failed
  have within := Segment.within_of_mem_splitTop (withoutBlankEnd_subset _ here)
  refine ⟨piece, within, ?_⟩
  rcases Template.refused_of_read failed with ⟨-, rfl⟩ | ⟨left, end_, refuses⟩
  · exact ParseError.isExact_of_offset?_eq_none rfl _ _
  · refine refuses.isExact (within.trans (Segment.within_of_suffix end_)) ?_
    obtain ⟨front, whole⟩ := end_
    rw [Segment.stop, ← whole, width_append]
    omega

/-- A call that is refused for the text of its arguments is refused for what is so there. -/
theorem isExact_of_ofCall {source : HelperSource} {loader : Loader} {call : Call} {name : String}
    {error : ParseError} (failed : (Sketch.ofCall source scope loader call).2 =
      .error (.arguments name (.parse error))) :
    name = call.helper ∧ ∃ piece, Segment.Within ⟨call.arguments.toList, 0⟩ piece ∧
      error.IsExact call.arguments.toList piece := by
  rw [Sketch.ofCall] at failed
  split at failed
  · rename_i refused
    cases failed
    rw [evaluate] at refused
    split at refused
    · exact absurd refused (Template.evaluateItems_ne_parse error _)
    · rename_i unread
      cases refused
      exact ⟨rfl, isExact_of_read unread⟩
  · split at failed <;> cases failed

/-- A call is refused for its arguments before its helper is looked for. -/
theorem ofCall_of_unread (source : HelperSource) (loader : Loader) {call : Call}
    {error : ParseError} (unread : read scope call.arguments = .error error) :
    (Sketch.ofCall source scope loader call).2 =
      .error (.arguments call.helper (.parse error)) := by
  simp only [Sketch.ofCall, evaluate, unread]

end Arguments

/-! ## Directives -/

namespace Directive

open Expression

variable {element : ElementId} {label : String} {directive : Directive} {animation : Animation}

/-- The options of an animation are written by the modifiers, or by entries of an object in the
expression. -/
theorem written_of_mem_options
    (compiled : animation ∈ (compile scope element label directive).result)
    {field : String × Template} (here : field ∈ animation.options) :
    field ∈ directive.sharedFields ∨
      ∃ body, Taken scope directive.expression.toList body ∧ field ∈ writtenFields scope body := by
  have whole : Taken scope directive.expression.toList ⟨directive.expression.toList, 0⟩ := .refl
  have shared := Fields.composedOf_ofList directive.sharedFields
  -- what is written in the expression stands over the shared fields, and leaves the others
  cases mapping : isMapping directive.expression.toList with
  | false =>
    obtain ⟨options, result, composed⟩ := compile_result_of_object scope label mapping
    simp only [compile, result, List.mem_singleton] at compiled
    subst compiled
    rcases List.mem_append.mp ((shared.putAll composed).mem here) with here | here
    · exact .inl here
    · obtain ⟨body, unwrapped, here⟩ := List.mem_flatMap.mp here
      exact .inr ⟨body, whole.cut (.inside (Option.mem_toList.mp unwrapped)), here⟩
  | true =>
    simp only [compile, compile_result_of_mapping scope label mapping] at compiled
    obtain ⟨⟨name, options⟩, named, rfl⟩ := List.mem_map.mp compiled
    obtain ⟨⟨_, body⟩, among, same⟩ := List.mem_map.mp named
    cases same
    have composed := compileBody_composed scope label body
    rcases List.mem_append.mp ((shared.putAll composed).mem here) with here | here
    · exact .inl here
    · obtain ⟨entry, inside, read⟩ :=
        exists_of_mem_writtenBodies (Fields.mem_of_mem_ofList among)
      exact .inr ⟨body, taken_of_readNamed (taken_of_mem_entriesOf whole inside) read, here⟩

theorem calls_of_mem_sharedFields {field : String × Template}
    (shared : field ∈ directive.sharedFields) : field.2.calls = [] := by
  obtain ⟨pair, -, rfl⟩ := List.mem_map.mp shared
  rfl

/-- **The calls of an animation** are written in the expression. -/
theorem written_of_mem_calls (compiled : animation ∈ (compile scope element label directive).result)
    {call : Call} (here : call ∈ animation.calls) :
    call.Written directive.expression.toList := by
  obtain ⟨field, among, here⟩ := Template.mem_fieldCalls.mp here
  rcases written_of_mem_options compiled among with shared | ⟨body, taken, written⟩
  · rw [calls_of_mem_sharedFields shared] at here
    cases here
  · obtain ⟨entry, inside, gives⟩ := exists_of_mem_writtenFields written
    obtain ⟨⟨key, value⟩, split, rest⟩ := exists_of_bind_ok gives
    obtain ⟨template, read, same⟩ := exists_of_bind_ok rest
    cases same
    have piece := (taken_of_mem_entriesOf taken inside).cut (.value split)
    exact ((item_of_read read).written call here).of_within piece.within

/-- **An error in the arguments of a call is located in the argument text alone.**  Whenever a
call that was compiled from a directive is refused for an unexpected character among its
arguments, in any scope, the place that is named is that of the character in the argument
text.  The arguments stand in the expression of the directive, and wherever they do, the
character stands as far behind their start as is named, and so behind the named place. -/
theorem argument_error_relative
    (compiled : animation ∈ (compile scope element label directive).result) {call : Call}
    (here : call ∈ animation.calls) {source : HelperSource} {present : Scope} {loader : Loader}
    {name : String} {offset : Nat} {found : Char}
    (failed : (Sketch.ofCall source present loader call).2 =
      .error (.arguments name (.parse (.unexpectedChar offset found)))) :
    name = call.helper ∧ charAt? offset call.arguments.toList = some found ∧
      call.Written directive.expression.toList ∧
      ∀ place, call.WrittenAt directive.expression.toList place →
        charAt? (place + offset) directive.expression.toList = some found ∧
          offset < place + offset := by
  obtain ⟨same, piece, -, stands⟩ := Arguments.isExact_of_ofCall failed
  refine ⟨same, stands, written_of_mem_calls compiled here, fun place written => ?_⟩
  obtain ⟨before, after, split, wide⟩ := charAt?_eq_some_iff.mp stands
  have positive := written.place_pos
  refine ⟨?_, by omega⟩
  -- the place of the character in the arguments is added to the place of the arguments
  have inner : Segment.Within ⟨call.arguments.toList, place⟩ ⟨found :: after, place + offset⟩ :=
    ⟨before, [], by simpa using split, by rw [wide]⟩
  exact (written.within.trans inner).charAt?_eq

/-- In a call whose arguments follow a blank, a wide letter after a string with another one is
refused four bytes behind the start of the arguments, at byte 13 of the expression. -/
theorem argument_error_relative_wide :
    let text := "n:\x7bx:[f( 'ü'é)]\x7d"
    let call : Call := ⟨"f", "'ü'é"⟩
    (Sketch.ofCall (fun _ => .later none) [] .empty call).2 =
        .error (.arguments "f" (.parse (.unexpectedChar 4 'é'))) ∧
      call.WrittenAt text.toList 9 ∧ charAt? (9 + 4) text.toList = some 'é' := by
  intro text call
  let directive : Directive := ⟨none, [], text⟩
  let animation : Animation :=
    ⟨some "n", ⟨1⟩, [("x", .array [.invoke call])], (TriggerSet.extract []).1⟩
  -- spelled out, the texts are read by computation
  have spelled : text.toList = ['n', ':', '{', 'x', ':', '[', 'f', '(', ' ', '\x27', 'ü', '\x27',
      'é', ')', ']', '}'] := by decide
  have argument : call.arguments.toList = ['\x27', 'ü', '\x27', 'é'] := by decide
  have result : (compile [] ⟨1⟩ "" directive).result = [animation] := by
    rw [compile, spelled]
    rfl
  have compiled : animation ∈ (compile [] ⟨1⟩ "" directive).result := by
    rw [result]
    exact List.mem_cons_self
  have here : call ∈ animation.calls := List.mem_cons_self
  have unread : Arguments.read [] call.arguments = .error (.unexpectedChar 4 'é') := by
    rw [Arguments.read, argument]
    rfl
  have failed := Arguments.ofCall_of_unread (fun _ => .later none) .empty unread
  have written : call.WrittenAt text.toList 9 := by
    have helper : call.helper.toList = ['f'] := by decide
    rw [Call.WrittenAt, spelled, argument, helper]
    exact ⟨['n', ':', '{', 'x', ':', '['], [], [' '], [], [']', '}'], rfl, rfl, rfl, rfl, rfl⟩
  obtain ⟨-, -, -, places⟩ := argument_error_relative compiled here failed
  exact ⟨failed, written, (places 9 written).1⟩

/-- The second argument of a call is refused at byte 2, where the expression has the colon of
the option; the letter that is refused stands at byte 8. -/
theorem argument_error_misplaced :
    let text := "\x7bx: f(a b)\x7d"
    let call : Call := ⟨"f", "a b"⟩
    (∃ animation ∈ (compile [] ⟨1⟩ "" ⟨none, [], text⟩).result, call ∈ animation.calls) ∧
      (Sketch.ofCall (fun _ => .later none) [] .empty call).2 =
        .error (.arguments "f" (.parse (.unexpectedChar 2 'b'))) ∧
      charAt? 2 text.toList = some ':' ∧ charAt? 8 text.toList = some 'b' := by
  intro text call
  have spelled : text.toList = ['{', 'x', ':', ' ', 'f', '(', 'a', ' ', 'b', ')', '}'] := by
    decide
  have argument : call.arguments.toList = ['a', ' ', 'b'] := by decide
  have result : (compile [] ⟨1⟩ "" ⟨none, [], text⟩).result =
      [⟨none, ⟨1⟩, [("x", .invoke call)], (TriggerSet.extract []).1⟩] := by
    rw [compile, spelled]
    rfl
  have unread : Arguments.read [] call.arguments = .error (.unexpectedChar 2 'b') := by
    rw [Arguments.read, argument]
    rfl
  refine ⟨?_, Arguments.ofCall_of_unread _ _ unread, ?_, ?_⟩
  · rw [result]
    exact ⟨_, List.mem_cons_self, List.mem_cons_self⟩
  · rw [spelled]
    rfl
  · rw [spelled]
    rfl

end Directive

end Choreography
