import Choreography.Modifier
import Choreography.Proofs.Expression.Acceptance

/-!
# Numbers in modifiers and in expressions

A modifier looks at the characters of a token and then reads all of it as a numeral; an
expression scans the longest outline of a numeral and wants nothing behind it.  **Both take the
same tokens for numbers, and for the same ones** (`value_eq_number_iff_read`): what either of
them takes for a number is a numeral of the grammar (`number?_eq_some_iff`,
`read_eq_number_iff`).  Any other token stays a string for a modifier.
-/

namespace Choreography

open Text Literal

variable {c : Char} {text : List Char} {number : Number}

/-! ## Numerals in modifiers -/

namespace Grammar

/-- A mantissa has a digit. -/
theorem Mantissa.any_isDigit {mantissa whole fraction : List Char}
    (digits : Mantissa mantissa whole fraction) : mantissa.any Char.isDigit = true := by
  have some_ {digits : List Char} (some : Digits digits) : digits.any Char.isDigit = true := by
    obtain ⟨c, rest, rfl⟩ := List.exists_cons_of_ne_nil some.some
    rw [List.any_cons, some.digits c List.mem_cons_self, Bool.true_or]
  cases digits with
  | whole before => exact some_ before
  | point before after => rw [List.any_append, some_ before, Bool.true_or]
  | leading after => rw [List.any_cons, some_ after, Bool.or_true]

/-- Every numeral has the shape that a modifier looks for first. -/
theorem Figure.hasNumberShape (figure : Figure text number) :
    Modifier.hasNumberShape text = true := by
  have within : text.all Grammar.inNumeral = true := List.all_eq_true.mpr figure.inNumeral
  refine Bool.and_eq_true_iff.mpr ⟨?_, within⟩
  cases figure with
  | mk signed digits power closest finite =>
    rw [List.any_append, List.any_append, digits.any_isDigit, Bool.true_or, Bool.or_true]

end Grammar

namespace Modifier

/-- **A modifier takes exactly the numerals for numbers.** -/
theorem number?_eq_some_iff : number? text = some number ↔ Grammar.Figure text number := by
  constructor
  · intro taken
    rw [number?] at taken
    split at taken
    · obtain ⟨read, finite⟩ := Option.filter_eq_some_iff.mp taken
      exact Grammar.figure_of_read? read finite
    · cases taken
  · intro figure
    rw [number?, if_pos figure.hasNumberShape, figure.read?_eq, Option.filter_some,
      figure.isFinite, if_pos rfl]

/-- A token without an underscore, for a field without a unit, is a number or stays as it is. -/
theorem value_of_plain {field token : String} (unitless : field ≠ "duration" ∧ field ≠ "rotate")
    (some_ : token.toList ≠ []) (plain : '_' ∉ token.toList) :
    value field (some token) = coerce token.toList := by
  unfold value
  rw [Option.map_some]
  split
  · rename_i none
    cases none
  · rename_i empty
    exact (some_ (Option.some.inj empty)).elim
  · rename_i text same
    rw [← Option.some.inj same, if_neg (by simpa using plain), valueWithUnit?,
      if_neg unitless.1, if_neg unitless.2]
    rfl

end Modifier

/-! ## Numerals in expressions -/

/-- **An expression takes exactly the numerals for numbers**, of the texts that neither start nor
end with a blank. -/
theorem Template.read_eq_number_iff (scope : Scope) (offset : Nat) {first last : Char}
    (head : text.head? = some first) (visible : isBlank first = false)
    (end_ : text.getLast? = some last) (visible' : isBlank last = false) :
    Template.read scope ⟨text, offset⟩ = .ok (.literal (.number number)) ↔
      Grammar.Figure text number := by
  constructor
  · intro read
    have denotes := (item_of_read read).denotes head visible end_ visible'
    cases denotes with
    | number figure => exact figure
    | keyword word => cases word
  · intro figure
    have item : Grammar.Item scope ([] ++ (text ++ [])) (.literal (.number number)) :=
      .mk rfl (.number figure) rfl
    rw [List.nil_append, List.append_nil] at item
    exact item.read_eq offset

/-! ## Both -/

namespace Modifier

/-- **Modifiers and expressions agree on numbers.**  A token without an underscore that neither
starts nor ends with a blank is taken for a number by a modifier of a field without a unit exactly
if the literal that it is in an expression, in any scope and at any place, is this number.  Else
the modifier keeps the token as a string. -/
theorem value_eq_number_iff_read (scope : Scope) (offset : Nat) {field token : String}
    {first last : Char} (unitless : field ≠ "duration" ∧ field ≠ "rotate")
    (plain : '_' ∉ token.toList) (head : token.toList.head? = some first)
    (visible : isBlank first = false) (end_ : token.toList.getLast? = some last)
    (visible' : isBlank last = false) :
    (∀ number, value field (some token) = .number number ↔
      Template.read scope ⟨token.toList, offset⟩ = .ok (.literal (.number number))) ∧
    ((∀ number, Template.read scope ⟨token.toList, offset⟩ ≠ .ok (.literal (.number number))) →
      value field (some token) = .string token) := by
  have some_ : token.toList ≠ [] := by
    intro empty
    rw [empty] at head
    cases head
  have agree (number : Number) : Template.read scope ⟨token.toList, offset⟩ =
      .ok (.literal (.number number)) ↔ Grammar.Figure token.toList number :=
    Template.read_eq_number_iff scope offset head visible end_ visible'
  rw [value_of_plain unitless some_ plain, coerce]
  cases taken : number? token.toList with
  | some number =>
    have figure := number?_eq_some_iff.mp taken
    refine ⟨fun other => ?_, fun none => (none number ((agree number).mpr figure)).elim⟩
    rw [agree other, ← number?_eq_some_iff, taken]
    simp
  | none =>
    refine ⟨fun other => ?_, fun _ => ?_⟩
    · rw [agree other, ← number?_eq_some_iff, taken]
      simp
    · rw [String.ofList_toList]

/-- A token that starts with a sign and a point, and ends with an exponent, is the same number for
both. -/
theorem value_eq_number_of_exponent :
    ("opacity" ≠ "duration" ∧ "opacity" ≠ "rotate") ∧ '_' ∉ "-.5e+1".toList ∧
      value "opacity" (some "-.5e+1") =
        .number (.finite true ⟨0x4014000000000000, by decide⟩) ∧
      Template.read [] ⟨"-.5e+1".toList, 7⟩ =
        .ok (.literal (.number (.finite true ⟨0x4014000000000000, by decide⟩))) := by
  have unitless : "opacity" ≠ "duration" ∧ "opacity" ≠ "rotate" := by decide
  have plain : '_' ∉ "-.5e+1".toList := by decide
  have taken : number? "-.5e+1".toList =
      some (.finite true ⟨0x4014000000000000, by decide⟩) := by
    decide +kernel
  have number : value "opacity" (some "-.5e+1") =
      .number (.finite true ⟨0x4014000000000000, by decide⟩) := by
    rw [value_of_plain unitless (by decide) plain, coerce, taken]
  have agree := value_eq_number_iff_read [] 7 unitless plain rfl rfl rfl rfl
  exact ⟨unitless, plain, number, (agree.1 _).mp number⟩

end Modifier

end Choreography
