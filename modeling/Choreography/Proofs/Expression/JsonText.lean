import Choreography.Proofs.Expression.Acceptance
import Choreography.Proofs.Literal.Spelling
import Choreography.Proofs.Value.Canonical

/-!
# JSON text is literal text

The printer of JSON data and the reader of literals were made apart, and still **the compact
JSON text of a value is a literal that is the value again** (`Template.read_text_toJson`), in any
scope and at any place.  The value must be one that JSON can say (`IsLiteral`): the printer
writes the other control characters in a way that the reader does not know, and JSON has neither
undefined values nor infinities.

The text is put together as the value is: `content_escape` for the characters of a string,
`Spelling` for numbers, and then items and fields, one rule of the grammar for each.
-/

namespace Choreography

/-! ## Values that JSON can say -/

/-- A character that stands in JSON strings as itself or after a backslash. -/
def IsPlainChar (c : Char) : Prop := 0x20 ≤ c.toNat ∨ c = '\n' ∨ c = '\t' ∨ c = '\r'

/-- A text without other control characters than line breaks and tabs. -/
def IsPlainText (text : String) : Prop := ∀ c ∈ text.toList, IsPlainChar c

instance (c : Char) : Decidable (IsPlainChar c) :=
  inferInstanceAs (Decidable (0x20 ≤ c.toNat ∨ c = '\n' ∨ c = '\t' ∨ c = '\r'))

instance (text : String) : Decidable (IsPlainText text) :=
  List.decidableBAll IsPlainChar text.toList

namespace Value

/-- A value without undefined parts, infinities, repeated keys or control characters other than
line breaks and tabs, at any depth. -/
inductive IsLiteral : Value → Prop
  | null : IsLiteral .null
  | bool (value : Bool) : IsLiteral (.bool value)
  | number {amount : Number} (finite : amount.isFinite = true) : IsLiteral (.number amount)
  | string {text : String} (plain : IsPlainText text) : IsLiteral (.string text)
  | array {items : List Value} (within : ∀ item ∈ items, item.IsLiteral) :
      IsLiteral (.array items)
  | object {fields : List (String × Value)} (distinct : (Fields.keys fields).Nodup)
      (plain : ∀ field ∈ fields, IsPlainText field.1)
      (within : ∀ field ∈ fields, field.2.IsLiteral) : IsLiteral (.object fields)

mutual

/-- Equality of values whose numbers are compared as numbers. -/
def equals : Value → Value → Bool
  | .undefined, .undefined => true
  | .null, .null => true
  | .bool value, .bool other => value == other
  | .number amount, .number other => amount.numericallyEqual other
  | .string text, .string other => text == other
  | .array items, .array others => itemsEqual items others
  | .object fields, .object others => fieldsEqual fields others
  | _, _ => false
termination_by structural value => value

/-- Equality of items, one by one. -/
def itemsEqual : List Value → List Value → Bool
  | [], [] => true
  | item :: rest, other :: others => item.equals other && itemsEqual rest others
  | _, _ => false
termination_by structural items => items

/-- Equality of fields, one by one: of their names and of their values. -/
def fieldsEqual : List (String × Value) → List (String × Value) → Bool
  | [], [] => true
  | (name, value) :: rest, (other, value') :: others =>
    name == other && value.equals value' && fieldsEqual rest others
  | _, _ => false
termination_by structural fields => fields

end

theorem withoutNegativeZero_numericallyEqual {amount : Number} (finite : amount.isFinite = true) :
    amount.withoutNegativeZero.numericallyEqual amount = true := by
  cases amount with
  | finite negative rank =>
    rw [Number.withoutNegativeZero, Number.numericallyEqual, beq_self_eq_true, Bool.true_and]
    cases zero : rank.val == 0 <;> simp [bne, zero]
  | infinite => cases finite
  | nan => cases finite

theorem itemsEqual_canonicalItems {items : List Value}
    (each : ∀ item ∈ items, item.canonical.equals item = true) :
    itemsEqual (canonicalItems items) items = true := by
  induction items with
  | nil => rfl
  | cons item rest ih =>
    obtain ⟨first, others⟩ := List.forall_mem_cons.mp each
    rw [canonicalItems, itemsEqual, first, ih others]
    rfl

theorem fieldsEqual_canonicalFields {fields : List (String × Value)}
    (each : ∀ field ∈ fields, field.2.canonical.equals field.2 = true) :
    fieldsEqual (canonicalFields fields) fields = true := by
  induction fields with
  | nil => rfl
  | cons field rest ih =>
    obtain ⟨name, value⟩ := field
    obtain ⟨first, others⟩ := List.forall_mem_cons.mp each
    rw [canonicalFields, fieldsEqual, beq_self_eq_true, first, ih others]
    rfl

theorem keys_canonicalFields (fields : List (String × Value)) :
    Fields.keys (canonicalFields fields) = Fields.keys fields := by
  rw [canonicalFields_eq_mapValues, Fields.keys_mapValues]

/-- The canonical form of a literal value equals it. -/
theorem IsLiteral.canonical_equals {value : Value} (is : value.IsLiteral) :
    value.canonical.equals value = true := by
  induction is with
  | null => rfl
  | bool value => exact beq_self_eq_true value
  | number finite =>
    rw [canonical, if_pos finite]
    exact withoutNegativeZero_numericallyEqual finite
  | string => exact beq_self_eq_true _
  | array within ih =>
    rw [canonical, equals]
    exact itemsEqual_canonicalItems ih
  | @object fields distinct plain within ih =>
    have distinct' : (Fields.keys (canonicalFields fields)).Nodup := by
      rwa [keys_canonicalFields]
    rw [canonical, equals, Fields.merge_of_distinct distinct']
    exact fieldsEqual_canonicalFields ih

end Value

namespace Grammar

open Json

variable {scope : Scope}

/-! ## Strings -/

/-- A character of a JSON string is one of a literal. -/
theorem content_escape {c : Char} {raw content : List Char} (plain : IsPlainChar c)
    (later : Content '\x22' raw content) : Content '\x22' (escapeChar c ++ raw) (c :: content) := by
  by_cases special : c ∈ ['\x22', '\\', '\n', '\t', '\r']
  · simp only [List.mem_cons, List.not_mem_nil, or_false] at special
    rcases special with rfl | rfl | rfl | rfl | rfl
    · exact .escaped (.itself (by decide)) later
    · exact .escaped (.itself (by decide)) later
    · exact .escaped .newline later
    · exact .escaped .tab later
    · exact .escaped .carriageReturn later
  · simp only [List.mem_cons, List.not_mem_nil, or_false, not_or] at special
    obtain ⟨noQuote, noSlash, noNewline, noTab, noReturn⟩ := special
    have visible : 0x20 ≤ c.toNat := by
      simpa only [IsPlainChar, noNewline, noTab, noReturn, or_false] using plain
    -- the other two characters with an escape of their own are control characters
    have itself : escapeChar c = [c] := by
      have noBack : c ≠ '\x08' := by
        rintro rfl
        exact absurd visible (by decide)
      have noFeed : c ≠ '\x0c' := by
        rintro rfl
        exact absurd visible (by decide)
      rw [escapeChar, if_neg noQuote, if_neg noSlash, if_neg noNewline, if_neg noTab,
        if_neg noReturn, if_neg noBack, if_neg noFeed, if_neg (Nat.not_lt.mpr visible)]
    rw [itself]
    exact .plain noQuote noSlash later

/-- **A JSON string is a quoted string of the grammar.** -/
theorem quotation_quote {text : String} (plain : IsPlainText text) :
    Quotation (quote text) text := by
  have inside : ∀ content : List Char, (∀ c ∈ content, IsPlainChar c) →
      Content '\x22' (content.flatMap escapeChar) content := by
    intro content plain
    induction content with
    | nil => exact .nil
    | cons c rest ih =>
      obtain ⟨first, others⟩ := List.forall_mem_cons.mp plain
      rw [List.flatMap_cons]
      exact content_escape first (ih others)
  have quoted := Quotation.mk (by decide) (inside text.toList plain)
  rwa [String.ofList_toList] at quoted

/-! ## Parts of values -/

theorem Denotes.item {text : List Char} {template : Template}
    (denotes : Denotes scope text template) : Item scope text template := by
  have item : Item scope ([] ++ (text ++ [])) template := .mk rfl denotes rfl
  rwa [List.nil_append, List.append_nil] at item

theorem Key.entry {text rest : List Char} {key : String} {template : Template}
    (named : Key text key) (item : Item scope rest template) :
    Entry scope (text ++ ':' :: rest) (key, template) := by
  have entry : Entry scope ([] ++ (text ++ []) ++ ':' :: rest) (key, template) :=
    .mk rfl named rfl item
  rwa [List.nil_append, List.append_nil] at entry

/-- The compact text of a value's data denotes a template without places left open, the value
of which is the canonical form. -/
def Spelled (scope : Scope) (value : Value) : Prop :=
  ∃ template, Denotes scope value.toJson.compact template ∧
    template.toValue? = some value.canonical

theorem spelled_number (scope : Scope) {amount : Number} (finite : amount.isFinite = true) :
    Spelled scope (.number amount) := by
  obtain ⟨whole, is, -, data⟩ | ⟨-, other, data⟩ | ⟨infinite, -⟩ :=
    Value.numberToJson_cases amount
  · have same := Number.ofInt_of_toInt? is
    have figure : Figure (integerText whole) (Number.ofInt whole) := .of_integer (by
      rwa [same, Number.isFinite_withoutNegativeZero])
    refine ⟨.literal (.number (Number.ofInt whole)), ?_, ?_⟩
    · rw [Value.toJson, data, compact]
      exact .number figure
    · rw [Template.toValue?, Value.canonical, if_pos finite, same]
  · refine ⟨.literal (.number amount), ?_, ?_⟩
    · rw [Value.toJson, data, compact, if_pos finite]
      exact .number (.of_finite finite)
    · rw [Template.toValue?, Value.canonical, if_pos finite,
        Number.withoutNegativeZero_of_ne (Number.ne_negativeZero other)]
  · rw [finite] at infinite
    cases infinite

theorem exists_items {items : List Value} (each : ∀ item ∈ items, Spelled scope item) :
    ∃ body templates, compactItems (Value.toJsonItems items) = body ++ [']'] ∧
      Items scope body templates ∧
      Template.toValues? templates = some (Value.canonicalItems items) := by
  induction items with
  | nil => exact ⟨[], [], rfl, .blank rfl, rfl⟩
  | cons item rest ih =>
    obtain ⟨⟨template, denotes, value⟩, others⟩ := List.forall_mem_cons.mp each
    obtain ⟨body, templates, text, inside, values⟩ := ih others
    -- a comma follows every item but the last one
    cases rest with
    | nil =>
      refine ⟨_, [template], ?_, .last denotes.item, ?_⟩
      · simp [Value.toJsonItems, compactItems]
      · rw [Template.toValues?, value]
        rfl
    | cons next rest =>
      refine ⟨_, template :: templates, ?_, .more denotes.item inside, ?_⟩
      · rw [Value.toJsonItems, compactItems, text]
        simp [Value.toJsonItems]
      · rw [Template.toValues?, value, values]
        rfl

theorem exists_entries {fields : List (String × Value)}
    (plain : ∀ field ∈ fields, IsPlainText field.1)
    (each : ∀ field ∈ fields, Spelled scope field.2) :
    ∃ body templates, compactMembers (Value.toJsonFields fields) = body ++ ['}'] ∧
      Entries scope body templates ∧ Fields.keys templates = Fields.keys fields ∧
      Template.toFields? templates = some (Value.canonicalFields fields) := by
  induction fields with
  | nil => exact ⟨[], [], rfl, .blank rfl, rfl, rfl⟩
  | cons field rest ih =>
    obtain ⟨name, content⟩ := field
    obtain ⟨named, names⟩ := List.forall_mem_cons.mp plain
    obtain ⟨⟨template, denotes, value⟩, others⟩ := List.forall_mem_cons.mp each
    obtain ⟨body, templates, text, inside, keys, values⟩ := ih names others
    have entry := Key.entry (.quotation (quotation_quote named)) denotes.item
    cases rest with
    | nil =>
      refine ⟨_, [(name, template)], ?_, .last entry, rfl, ?_⟩
      · simp [Value.toJsonFields, compactMembers]
      · rw [Template.toFields?, value]
        rfl
    | cons next rest =>
      refine ⟨_, (name, template) :: templates, ?_, .more entry inside, ?_, ?_⟩
      · rw [Value.toJsonFields, compactMembers, text]
        simp [Value.toJsonFields]
      · rw [Fields.keys_cons, Fields.keys_cons, keys]
      · rw [Template.toFields?, value, values]
        rfl

/-! ## All values -/

/-- **The text of a literal value spells it.** -/
theorem spelled_of_isLiteral (scope : Scope) {value : Value} (is : value.IsLiteral) :
    Spelled scope value := by
  induction is with
  | null => exact ⟨.literal .null, .keyword .null, rfl⟩
  | bool value =>
    cases value with
    | false => exact ⟨.literal (.bool false), .keyword .false, rfl⟩
    | true => exact ⟨.literal (.bool true), .keyword .true, rfl⟩
  | number finite => exact spelled_number scope finite
  | @string text plain =>
    exact ⟨.literal (.string text), .string (quotation_quote plain), rfl⟩
  | array within ih =>
    obtain ⟨body, templates, text, inside, values⟩ := exists_items ih
    refine ⟨.array templates, ?_, ?_⟩
    · rw [Value.toJson, compact, text]
      exact .array inside
    · rw [Template.toValue?, values]
      rfl
  | @object fields distinct plain within ih =>
    obtain ⟨body, templates, text, inside, keys, values⟩ := exists_entries plain ih
    -- the keys are the same in the value, its data and the template, so nothing merges
    have distinct' : (Fields.keys (Value.toJsonFields fields)).Nodup := by
      rwa [Value.toJsonFields_eq_mapValues, Fields.keys_mapValues]
    have distinct'' : (Fields.keys (Value.canonicalFields fields)).Nodup := by
      rwa [Value.keys_canonicalFields]
    refine ⟨.object (Fields.ofList templates), ?_, ?_⟩
    · rw [Value.toJson, compact, Fields.ofList_of_distinct distinct', text]
      exact .object inside
    · rw [Fields.ofList_of_distinct (by rwa [keys]), Template.toValue?, values, Value.canonical,
        Fields.merge_of_distinct distinct'']
      rfl

end Grammar

/-- **The compact JSON text of a value is a literal for it.**  In any scope and at any place it is
read as a template without places left open, whose value equals the one that was printed. -/
theorem Template.read_text_toJson (scope : Scope) (offset : Nat) {value : Value}
    (is : value.IsLiteral) :
    ∃ template found, Template.read scope ⟨value.toJson.text.toList, offset⟩ = .ok template ∧
      template.isConcrete = true ∧ template.toValue? = some found ∧
      found.equals value = true := by
  obtain ⟨template, denotes, found⟩ := Grammar.spelled_of_isLiteral scope is
  refine ⟨template, value.canonical, ?_, ?_, found, is.canonical_equals⟩
  · rw [Json.text, String.toList_ofList]
    exact denotes.item.read_eq offset
  · rw [← Template.isSome_toValue?, found]
    rfl

/-- A text with a quote and a line break, under a key that is also a name in scope. -/
theorem Template.read_text_toJson_of_quote :
    (Value.object [("item", .string "\"\n")]).IsLiteral ∧
    ∃ template found, Template.read [[("item", .null)]]
        ⟨(Value.object [("item", .string "\"\n")]).toJson.text.toList, 7⟩ = .ok template ∧
      template.isConcrete = true ∧ template.toValue? = some found ∧
      found.equals (.object [("item", .string "\"\n")]) = true := by
  have is : (Value.object [("item", .string "\"\n")]).IsLiteral :=
    .object (by decide) (by decide)
      (List.forall_mem_singleton.mpr (.string (by decide)))
  exact ⟨is, Template.read_text_toJson [[("item", .null)]] 7 is⟩

end Choreography
