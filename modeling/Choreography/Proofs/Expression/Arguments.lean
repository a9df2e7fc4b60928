import Mathlib.Data.List.Forall2
import Choreography.Evaluation
import Choreography.Proofs.Expression.Acceptance

/-!
# Arguments as the items of an array

The arguments of a call are kept as a text, and when they are needed the text is cut at its
top-level commas and each piece is read by itself.  The items of an array are read one after
the other, from the front of what is left, by a reader that knows no scan.  **Both accept the
same texts and find the same values in them** (`Arguments.evaluate_eq_ok_iff_array`): the
cuts fall on the commas between the items and nowhere else, because the text of an item is
solid, and every piece that is read is the text of an item.

So an argument text is the inside of an array (`Arguments.read_ok_iff_items`).  Blank text has no
arguments, a comma may follow the last one, and no other argument may be blank.
-/

namespace Choreography

open Text

variable {scope : Scope}

/-- What is made of each element of a list, if nothing is refused. -/
theorem mapM_eq_ok_iff {ε α β : Type} {make : α → Except ε β} {list : List α}
    {made : List β} :
    list.mapM make = .ok made ↔ List.Forall₂ (fun a b => make a = .ok b) list made := by
  induction list generalizing made with
  | nil =>
    rw [List.mapM_nil, List.forall₂_nil_left_iff]
    exact ⟨fun same => (Except.ok.inj same).symm, fun same => congrArg Except.ok same.symm⟩
  | cons a rest ih =>
    rw [List.mapM_cons, List.forall₂_cons_left_iff]
    constructor
    · intro done
      obtain ⟨b, first, later⟩ := exists_of_bind_ok done
      obtain ⟨others, each, same⟩ := exists_of_bind_ok later
      exact ⟨b, others, first, ih.mp each, (Except.ok.inj same).symm⟩
    · rintro ⟨b, others, first, each, rfl⟩
      rw [first, ih.mpr each]
      rfl

/-! ## Items -/

namespace Grammar

variable {text : List Char} {value : Template} {items : List Template}

/-- **A text in square brackets** is an array if it is the inside of one, and nothing else. -/
theorem item_bracketed_iff :
    Item scope ('[' :: (text ++ [']'])) value ↔
      ∃ items, value = .array items ∧ Items scope text items := by
  constructor
  · intro item
    have last : ('[' :: (text ++ [']'])).getLast? = some ']' :=
      List.getLast?_concat (l := '[' :: text)
    have denotes := item.denotes rfl (show isBlank '[' = false from rfl) last rfl
    have noPath {path root after : List Char} (dotted : Dotted path root) :
        '[' :: (text ++ [']']) ≠ path ++ after := by
      intro same
      have begins := dotted.path.begins after
      rw [← same] at begins
      cases begins
    -- only the text of an array starts with a square bracket
    generalize whole : '[' :: (text ++ [']']) = bracketed at denotes
    cases denotes with
    | string quoted =>
      cases quoted with
      | mk quotes inside =>
        obtain ⟨rfl, -⟩ := List.cons.inj whole
        cases quotes
    | number figure =>
      obtain ⟨c, rest, rfl, starts⟩ := figure.first
      cases whole
      cases starts
    | keyword word => cases word <;> cases whole
    | reference dotted => exact absurd (whole.trans (List.append_nil _).symm) (noPath dotted)
    | word dotted => exact absurd (whole.trans (List.append_nil _).symm) (noPath dotted)
    | call dotted => exact absurd whole (noPath dotted)
    | array inside =>
      rw [List.cons.injEq] at whole
      rw [List.append_cancel_right whole.2]
      exact ⟨_, rfl, inside⟩
    | object inside => cases whole
  · rintro ⟨items, rfl, inside⟩
    have item : Item scope ([] ++ (('[' :: (text ++ [']'])) ++ [])) (.array items) :=
      .mk rfl (.array inside) rfl
    rwa [List.nil_append, List.append_nil] at item

/-- A comma may follow items none of which is blank. -/
theorem Items.concat_comma {text : List Char} {items : List Template}
    (inside : Items scope text items) (offset : Nat)
    (visible : ∀ piece ∈ Segment.splitTop ⟨text, offset⟩ ',', piece.isBlank = false) :
    Items scope (text ++ [',']) items := by
  cases inside with
  | blank blank =>
    rw [Segment.splitTop_of_free ((Literal.solid_of_isBlankText blank).free ',' rfl)] at visible
    have here := visible _ List.mem_cons_self
    rw [Segment.isBlank, blank] at here
    cases here
  | last item => exact .more item (.blank rfl)
  | @more first rest value items item later =>
    rw [Segment.splitTop_append rfl (item.solid.free ',' rfl) item.solid.run] at visible
    have more := later.concat_comma _ fun piece here =>
      visible piece (List.mem_cons_of_mem _ here)
    rw [List.append_assoc, List.cons_append]
    exact .more item more
termination_by text.length
decreasing_by
  subst_vars
  simp +arith

end Grammar

namespace Arguments

/-! ## The pieces of an argument text -/

/-- The pieces of an argument text that are arguments: all but a blank one at the end. -/
def withoutBlankEnd (pieces : List Segment) : List Segment :=
  match pieces.getLast? with
  | some last => if last.isBlank then pieces.dropLast else pieces
  | none => pieces

theorem withoutBlankEnd_singleton (piece : Segment) :
    withoutBlankEnd [piece] = if piece.isBlank then [] else [piece] := rfl

theorem withoutBlankEnd_cons (first : Segment) {rest : List Segment} (some_ : rest ≠ []) :
    withoutBlankEnd (first :: rest) = first :: withoutBlankEnd rest := by
  obtain ⟨last, ends⟩ : ∃ last, rest.getLast? = some last :=
    ⟨_, List.getLast?_eq_some_getLast some_⟩
  simp only [withoutBlankEnd, List.getLast?_cons, ends, Option.getD_some]
  split
  · exact List.dropLast_cons_of_ne_nil some_
  · rfl

theorem mem_withoutBlankEnd_of_dropLast {piece : Segment} {pieces : List Segment}
    (here : piece ∈ pieces.dropLast) : piece ∈ withoutBlankEnd pieces := by
  rw [withoutBlankEnd]
  split
  · split
    · exact here
    · exact List.dropLast_subset _ here
  · exact List.dropLast_subset _ here

/-- A blank text is one blank piece, so it is no case of its own. -/
theorem segments_eq (text : List Char) :
    segments text = withoutBlankEnd (Segment.splitTop ⟨text, 0⟩ ',') := by
  rw [segments]
  split
  · rename_i blank
    rw [Segment.splitTop_of_free ((Literal.solid_of_isBlankText blank).free ',' rfl),
      withoutBlankEnd_singleton, Segment.isBlank, if_pos blank]
  · rfl

/-- The pieces of the inside of an array are read as its items. -/
theorem forall₂_read_of_items {text : List Char} {items : List Template}
    (inside : Grammar.Items scope text items) (offset : Nat) :
    List.Forall₂ (fun piece item => Template.read scope piece = .ok item)
      (withoutBlankEnd (Segment.splitTop ⟨text, offset⟩ ',')) items := by
  cases inside with
  | blank blank =>
    rw [Segment.splitTop_of_free ((Literal.solid_of_isBlankText blank).free ',' rfl),
      withoutBlankEnd_singleton, Segment.isBlank, if_pos blank]
    exact .nil
  | last item =>
    rw [Segment.splitTop_of_free (item.solid.free ',' rfl), withoutBlankEnd_singleton,
      Segment.isBlank, item.not_blank, if_neg Bool.false_ne_true]
    exact .cons (item.read_eq offset) .nil
  | more item later =>
    rw [Segment.splitTop_append rfl (item.solid.free ',' rfl) item.solid.run,
      withoutBlankEnd_cons _ (by simp [Segment.splitTop, Segment.locate])]
    exact .cons (item.read_eq offset) (forall₂_read_of_items later _)
termination_by text.length
decreasing_by
  subst_vars
  simp +arith

/-- Pieces that are read as values are the inside of an array once commas stand between
them, wherever they were cut. -/
theorem items_of_forall₂_read {first : List Char} {later : List (List Char)} {offset : Nat}
    {items : List Template}
    (read : List.Forall₂ (fun piece item => Template.read scope piece = .ok item)
      (withoutBlankEnd (Segment.locate ',' offset (first :: later))) items) :
    Grammar.Items scope (first ++ later.flatMap (',' :: ·)) items := by
  induction later generalizing first offset items with
  | nil =>
    rw [List.flatMap_nil, List.append_nil]
    rw [Segment.locate, Segment.locate, withoutBlankEnd_singleton] at read
    split at read
    · rename_i blank
      cases read
      exact .blank blank
    · obtain ⟨item, _, one, none_, rfl⟩ := List.forall₂_cons_left_iff.mp read
      cases none_
      exact .last (item_of_read one)
  | cons next later ih =>
    rw [Segment.locate, withoutBlankEnd_cons _ (by simp [Segment.locate])] at read
    obtain ⟨item, others, one, each, rfl⟩ := List.forall₂_cons_left_iff.mp read
    rw [List.flatMap_cons]
    exact .more (item_of_read one) (ih each)

/-- **An argument text is the inside of an array.** -/
theorem read_ok_iff_items {text : String} {items : List Template} :
    read scope text = .ok items ↔ Grammar.Items scope text.toList items := by
  rw [read, mapM_eq_ok_iff, segments_eq]
  constructor
  · intro each
    have inside := items_of_forall₂_read each
    rwa [Scan.pieces_join] at inside
  · intro inside
    exact forall₂_read_of_items inside 0

/-- No argument that is read is blank. -/
theorem not_blank_of_read {text : String} {items : List Template}
    (accepted : read scope text = .ok items) {piece : Segment}
    (here : piece ∈ (Segment.splitTop ⟨text.toList, 0⟩ ',').dropLast) :
    piece.isBlank = false := by
  rw [read, mapM_eq_ok_iff, segments_eq] at accepted
  have each := accepted.imp fun piece item one =>
    show piece.isBlank = false ∧ _ from ⟨(item_of_read one).not_blank, one⟩
  exact (List.forall₂_and_left _ _ |>.mp each).1 piece (mem_withoutBlankEnd_of_dropLast here)

/-! ## Values -/

theorem evaluate_eq_ok_iff {text : String} {values : List Value} :
    evaluate scope text = .ok values ↔
      ∃ items, read scope text = .ok items ∧ Template.evaluateItems scope items = .ok values := by
  rw [evaluate]
  cases read scope text with
  | error error => simp
  | ok items => simp

/-- The text of the arguments put in square brackets, with the offset where it stands. -/
def bracketed (text : String) (offset : Nat) : Segment :=
  ⟨'[' :: (text.toList ++ [']']), offset⟩

theorem read_bracketed_iff {text : String} {offset : Nat} {template : Template} :
    Template.read scope (bracketed text offset) = .ok template ↔
      ∃ items, template = .array items ∧ read scope text = .ok items := by
  simp only [read_ok_iff_items, ← Grammar.item_bracketed_iff]
  exact ⟨item_of_read, fun item => item.read_eq offset⟩

theorem evaluate_array_eq_ok_iff {items : List Template} {values : List Value} :
    (Template.array items).evaluate scope = .ok (.array values) ↔
      Template.evaluateItems scope items = .ok values := by
  rw [Template.evaluate]
  cases Template.evaluateItems scope items with
  | error error => exact ⟨nofun, nofun⟩
  | ok found =>
    simp only [ok_bind, Except.ok.injEq, Value.array.injEq]

/-- **Arguments are evaluated as the items of an array are.**  An argument text has values
exactly if the text in square brackets is read as a template whose value is the array of
these values.  A blank text has none, a comma may follow arguments none of which is blank, and
a blank argument before another one is refused in both ways. -/
theorem evaluate_eq_ok_iff_array (scope : Scope) (text : String) (offset : Nat) :
    (∀ values, evaluate scope text = .ok values ↔
      ∃ template, Template.read scope (bracketed text offset) = .ok template ∧
        template.evaluate scope = .ok (.array values)) ∧
    (isBlankText text.toList = true → evaluate scope text = .ok []) ∧
    (∀ values, (∀ piece ∈ Segment.splitTop ⟨text.toList, 0⟩ ',', piece.isBlank = false) →
      evaluate scope text = .ok values → evaluate scope (text ++ ",") = .ok values) ∧
    ∀ piece ∈ (Segment.splitTop ⟨text.toList, 0⟩ ',').dropLast, piece.isBlank = true →
      (∀ values, evaluate scope text ≠ .ok values) ∧
        ∀ template, Template.read scope (bracketed text offset) ≠ .ok template := by
  refine ⟨fun values => ?_, fun blank => ?_, fun values visible evaluated => ?_, ?_⟩
  · rw [evaluate_eq_ok_iff]
    constructor
    · rintro ⟨items, accepted, evaluated⟩
      exact ⟨_, read_bracketed_iff.mpr ⟨items, rfl, accepted⟩,
        evaluate_array_eq_ok_iff.mpr evaluated⟩
    · rintro ⟨template, whole, evaluated⟩
      obtain ⟨items, rfl, accepted⟩ := read_bracketed_iff.mp whole
      exact ⟨items, accepted, evaluate_array_eq_ok_iff.mp evaluated⟩
  · exact evaluate_eq_ok_iff.mpr ⟨[], read_ok_iff_items.mpr (.blank blank), rfl⟩
  · obtain ⟨items, accepted, evaluated⟩ := evaluate_eq_ok_iff.mp evaluated
    have more := (read_ok_iff_items.mp accepted).concat_comma 0 visible
    refine evaluate_eq_ok_iff.mpr ⟨items, read_ok_iff_items.mpr ?_, evaluated⟩
    rwa [String.toList_append]
  · intro piece here blank
    have refused {items : List Template} (accepted : read scope text = .ok items) : False := by
      have visible := not_blank_of_read accepted here
      rw [blank] at visible
      cases visible
    refine ⟨fun values evaluated => ?_, fun template whole => ?_⟩
    · obtain ⟨items, accepted, -⟩ := evaluate_eq_ok_iff.mp evaluated
      exact refused accepted
    · obtain ⟨items, -, accepted⟩ := read_bracketed_iff.mp whole
      exact refused accepted

/-- A reference in an array and a comma between quotes, with and without a comma at the end, a
blank text, and a blank argument before another one. -/
theorem evaluate_array_of_quoted_comma :
    let scope : Scope := [[("a", .bool true)]]
    let text := "[a], 'b,c'"
    let values := [Value.array [.bool true], .string "b,c"]
    evaluate scope text = .ok values ∧ evaluate scope (text ++ ",") = .ok values ∧
      (∃ template, Template.read scope (bracketed text 3) = .ok template ∧
        template.evaluate scope = .ok (.array values)) ∧
      evaluate scope " " = .ok [] ∧
      ∀ values, evaluate scope ",a" ≠ .ok values := by
  intro scope text values
  -- spelled out, the text is read by computation
  have spelled : text.toList =
      ['[', 'a', ']', ',', ' ', '\x27', 'b', ',', 'c', '\x27'] := by decide
  have evaluated : evaluate scope text = .ok values := by
    rw [evaluate, read, spelled]
    rfl
  have visible : ∀ piece ∈ Segment.splitTop ⟨text.toList, 0⟩ ',', piece.isBlank = false := by
    rw [spelled]
    decide
  have here : (⟨[], 0⟩ : Segment) ∈ (Segment.splitTop ⟨",a".toList, 0⟩ ',').dropLast := by
    decide
  obtain ⟨both, -, comma, -⟩ := evaluate_eq_ok_iff_array scope text 3
  obtain ⟨-, blank, -, -⟩ := evaluate_eq_ok_iff_array scope " " 0
  obtain ⟨-, -, -, refused⟩ := evaluate_eq_ok_iff_array scope ",a" 0
  exact ⟨evaluated, comma values visible evaluated, (both values).mp evaluated,
    blank (by decide), (refused _ here rfl).1⟩

end Arguments

end Choreography
