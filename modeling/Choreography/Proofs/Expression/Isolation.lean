import Mathlib.Data.List.Basic
import Choreography.Proofs.Expression.Layout

/-!
# Entries that stand apart

A text that closes the brackets and the quotes it opens, and no others, and has no comma
outside them is an entry whatever else it holds (`Scan.Neutral`).  Between such texts an
expression is cut at the commas that were put there and nowhere else
(`splitTop_intercalate`), and what an entry gives does not depend on the place where it
stands (`fieldsOf_place`, `warningsOf_place`).

**So each entry of an expression is compiled as if it stood there alone**
(`compile_intercalate`): one that cannot be read costs its own warning, and changes,
drops or reorders no other entry.
-/

namespace Choreography

open Text

namespace Scan

/-! ## Neutral texts -/

/-- A text that closes the brackets, of any kind, and the quotes that it opens, and no
others, and has no comma outside them. -/
structure Neutral (text : List Char) : Prop where
  closesOpen : start.ClosesOpen text
  depth : (start.run text).depth = 0
  quote : (start.run text).quote = none
  free : start.IsFree ',' text

instance ClosesOpen.decidable :
    (scan : Scan) → (text : List Char) → Decidable (scan.ClosesOpen text)
  | _, [] => isTrue trivial
  | scan, c :: rest =>
    have := ClosesOpen.decidable (scan.step c) rest
    inferInstanceAs (Decidable
      ((scan.quote = none → isClosing c = true → 1 ≤ scan.depth) ∧
        (scan.step c).ClosesOpen rest))

instance IsFree.decidable (separator : Char) :
    (scan : Scan) → (text : List Char) → Decidable (scan.IsFree separator text)
  | _, [] => isTrue trivial
  | scan, c :: rest =>
    have := IsFree.decidable separator (scan.step c) rest
    inferInstanceAs (Decidable
      ((scan.isTop c && c == separator) = false ∧ (scan.step c).IsFree separator rest))

instance Neutral.decidable (text : List Char) : Decidable (Neutral text) :=
  decidable_of_iff
    (start.ClosesOpen text ∧ (start.run text).depth = 0 ∧ (start.run text).quote = none ∧
      start.IsFree ',' text)
    ⟨fun ⟨closesOpen, depth, quote, free⟩ => ⟨closesOpen, depth, quote, free⟩,
      fun neutral => ⟨neutral.closesOpen, neutral.depth, neutral.quote, neutral.free⟩⟩

namespace Neutral

variable {text : List Char}

/-- After a neutral text a scan is as if it had seen nothing. -/
theorem run (neutral : Neutral text) : start.run text = start := by
  have tidy : (start.run text).Tidy := Tidy.run (fun _ => rfl) text
  calc
    start.run text =
        ⟨(start.run text).quote, (start.run text).escaped, (start.run text).depth⟩ := rfl
    _ = start := by rw [neutral.quote, tidy neutral.quote, neutral.depth, start]

/-- A neutral text is balanced. -/
theorem keeps (neutral : Neutral text) : Keeps text := by
  obtain ⟨same, inside⟩ := run_deeper neutral.closesOpen
  rw [neutral.run] at same
  exact ⟨same, inside⟩

end Neutral

theorem keeps_intercalate {entries : List (List Char)}
    (neutral : ∀ entry ∈ entries, Neutral entry) : Keeps ([','].intercalate entries) := by
  induction entries with
  | nil => exact Keeps.nil
  | cons entry rest ih =>
    obtain ⟨first, others⟩ := List.forall_mem_cons.mp neutral
    cases rest with
    | nil =>
      rw [List.intercalate_singleton]
      exact first.keeps
    | cons next later =>
      rw [List.intercalate_cons_cons]
      exact (first.keeps.append (keeps_separator rfl)).append (ih others)

end Scan

/-- **Neutral texts with commas between them** are cut at these commas and nowhere else. -/
theorem Segment.splitTop_intercalate {entries : List (List Char)} (some_ : entries ≠ [])
    (neutral : ∀ entry ∈ entries, Scan.Neutral entry) (offset : Nat) :
    splitTop ⟨[','].intercalate entries, offset⟩ ',' = locate ',' offset entries := by
  induction entries generalizing offset with
  | nil => exact absurd rfl some_
  | cons entry rest ih =>
    obtain ⟨first, others⟩ := List.forall_mem_cons.mp neutral
    cases rest with
    | nil =>
      rw [List.intercalate_singleton, splitTop_of_free first.free]
      rfl
    | cons next later =>
      -- a scan is back at its start after the entry, so the rest is cut as if it stood alone
      rw [List.intercalate_cons_cons, List.append_assoc, List.singleton_append,
        splitTop_append rfl first.free first.run, ih (List.cons_ne_nil _ _) others]
      rfl

/-- What every place gives alike can be gathered from the texts without their places. -/
theorem Segment.flatMap_locate {α : Type} {give : Segment → List α} {given : List Char → List α}
    (alike : ∀ text offset, give ⟨text, offset⟩ = given text) (separator : Char) (offset : Nat)
    (texts : List (List Char)) :
    (locate separator offset texts).flatMap give = texts.flatMap given := by
  induction texts generalizing offset with
  | nil => rfl
  | cons text rest ih => rw [locate, List.flatMap_cons, List.flatMap_cons, alike, ih]

/-- A diagnostic without its message, which tells where in the text the fault is. -/
def Diagnostic.unworded (diagnostic : Diagnostic) : Diagnostic := { diagnostic with message := "" }

namespace Expression

variable {scope : Scope} {source : String} {text : List Char}

/-! ## What one entry gives -/

/-- The field that an entry gives, if it is not blank and can be read. -/
def fieldsOf (scope : Scope) (entry : Segment) : List (String × Template) :=
  if isBlankText entry.text then [] else (readOption scope entry).toOption.toList

/-- The warning that an entry gives, if it is not blank and cannot be read. -/
def warningsOf (scope : Scope) (source : String) (entry : Segment) : List Diagnostic :=
  if isBlankText entry.text then []
  else
    match readOption scope entry with
    | .ok _ => []
    | .error error => [skipped source entry error]

/-- A body gives what its entries give. -/
theorem compileBody_eq_flatMap (scope : Scope) (source : String) (body : Segment) :
    compileBody scope source body =
      ⟨Fields.ofList ((body.splitTop ',').flatMap (fieldsOf scope)),
        (body.splitTop ',').flatMap (warningsOf scope source)⟩ := by
  have fields : (entriesOf body).filterMap (fun entry => (readOption scope entry).toOption) =
      (body.splitTop ',').flatMap (fieldsOf scope) := by
    rw [entriesOf, List.filterMap_filter, List.filterMap_eq_flatMap_toList]
    congr 1
    funext entry
    cases blank : isBlankText entry.text <;> simp [fieldsOf, Segment.isBlank, blank]
  have warnings : (entriesOf body).filterMap
      (fun entry => match readOption scope entry with
        | .ok _ => none
        | .error error => some (skipped source entry error)) =
      (body.splitTop ',').flatMap (warningsOf scope source) := by
    rw [entriesOf, List.filterMap_filter, List.filterMap_eq_flatMap_toList]
    congr 1
    funext entry
    cases blank : isBlankText entry.text
    · cases read : readOption scope entry <;> simp [warningsOf, Segment.isBlank, blank, read]
    · simp [warningsOf, Segment.isBlank, blank]
  simp only [compileBody, List.filterMap_map, Compiled.mk.injEq]
  exact ⟨congrArg Fields.ofList fields, warnings⟩

/-- An entry that is read in one place is read in any other. -/
theorem readOption_place {offset : Nat} {field : String × Template}
    (read : readOption scope ⟨text, offset⟩ = .ok field) (place : Nat) :
    readOption scope ⟨text, place⟩ = .ok field := by
  obtain ⟨⟨key, value⟩, split, rest⟩ := exists_of_bind_ok read
  obtain ⟨template, inner, ends⟩ := exists_of_bind_ok rest
  rw [splitEntry] at split
  dsimp only at split
  cases found : Scan.findTop? ':' Scan.start text with
  | none =>
    rw [found] at split
    cases split
  | some parts =>
    obtain ⟨before, after⟩ := parts
    rw [found] at split
    obtain ⟨name, denotes, same⟩ := exists_of_bind_ok split
    cases same
    -- the value is laid out as one, so it is read wherever it stands
    obtain ⟨front, token, back, blank, blank', rfl, written⟩ := exists_valueText inner
    simp only [readOption, splitEntry, found, denotes, ok_bind, written.read_eq blank blank']
    exact ends

theorem toOption_readOption_place (scope : Scope) (text : List Char) (offset place : Nat) :
    (readOption scope ⟨text, offset⟩).toOption = (readOption scope ⟨text, place⟩).toOption := by
  cases read : readOption scope ⟨text, offset⟩ with
  | ok field => rw [readOption_place read place]
  | error error =>
    cases again : readOption scope ⟨text, place⟩ with
    | ok field =>
      rw [readOption_place again offset] at read
      cases read
    | error => rfl

theorem fieldsOf_place (scope : Scope) (text : List Char) (offset : Nat) :
    fieldsOf scope ⟨text, offset⟩ = fieldsOf scope ⟨text, 1⟩ := by
  rw [fieldsOf, fieldsOf, toOption_readOption_place scope text offset 1]

/-- But for its message, the warning of an entry does not depend on the place. -/
theorem warningsOf_place (scope : Scope) (source : String) (text : List Char) (offset : Nat) :
    (warningsOf scope source ⟨text, offset⟩).map Diagnostic.unworded =
      (warningsOf scope source ⟨text, 1⟩).map Diagnostic.unworded := by
  have same := toOption_readOption_place scope text offset 1
  rw [warningsOf, warningsOf]
  dsimp only
  split
  · rfl
  · -- the entry is read in both places or in none
    generalize readOption scope ⟨text, offset⟩ = here at same ⊢
    generalize readOption scope ⟨text, 1⟩ = there at same ⊢
    cases here with
    | ok => cases there with
      | ok => rfl
      | error => cases same
    | error => cases there with
      | ok => cases same
      | error => rfl

/-! ## Many entries -/

/-- A text in braces. -/
def braced (text : List Char) : List Char := '{' :: (text ++ ['}'])

/-- The options that an expression gives to an animation without a name of its own. -/
def bareOptions : Expression → Fields Template
  | .bare options => options
  | .named _ => []

/-- A balanced text in braces is compiled as a body. -/
theorem compile_braced (keeps : Scan.Keeps text) (scope : Scope) (source : String) :
    compile scope source (braced text) =
      ⟨.bare (compileBody scope source ⟨text, 1⟩).result,
        (compileBody scope source ⟨text, 1⟩).diagnostics⟩ := by
  have unwrapped : Segment.unwrap? ⟨braced text, 0⟩ = some ⟨text, 1⟩ := by
    have around := Segment.unwrap?_of_keeps keeps (show isBlankText [] = true from rfl)
      (show isBlankText [] = true from rfl) 0
    rw [List.append_nil] at around
    exact around
  have visible : isBlankText (braced text) = false := rfl
  rw [compile, visible]
  simp only [Bool.false_eq_true, if_false, unwrapped]

/-- What neutral entries give together, put together from what each gives. -/
theorem compileBody_intercalate {entries : List (List Char)}
    (neutral : ∀ entry ∈ entries, Scan.Neutral entry) (scope : Scope) (source : String) :
    (compileBody scope source ⟨[','].intercalate entries, 1⟩).result =
        Fields.ofList (entries.flatMap fun entry => fieldsOf scope ⟨entry, 1⟩) ∧
      (compileBody scope source ⟨[','].intercalate entries, 1⟩).diagnostics.map
          Diagnostic.unworded =
        entries.flatMap fun entry =>
          (warningsOf scope source ⟨entry, 1⟩).map Diagnostic.unworded := by
  rw [compileBody_eq_flatMap]
  by_cases none_ : entries = []
  · subst none_
    exact ⟨rfl, rfl⟩
  · rw [Segment.splitTop_intercalate none_ neutral, List.map_flatMap]
    exact ⟨congrArg Fields.ofList
        (Segment.flatMap_locate (fieldsOf_place scope) ',' 1 entries),
      Segment.flatMap_locate (warningsOf_place scope source) ',' 1 entries⟩

/-- An entry alone in braces gives its field or its warning. -/
theorem compile_alone {entry : List Char} (neutral : Scan.Neutral entry) (scope : Scope)
    (source : String) :
    compile scope source (braced entry) =
      ⟨.bare (fieldsOf scope ⟨entry, 1⟩), warningsOf scope source ⟨entry, 1⟩⟩ := by
  have single : Fields.ofList (fieldsOf scope ⟨entry, 1⟩) = fieldsOf scope ⟨entry, 1⟩ := by
    rw [fieldsOf]
    split
    · rfl
    · cases (readOption scope ⟨entry, 1⟩).toOption <;> rfl
  rw [compile_braced neutral.keeps, compileBody_eq_flatMap,
    Segment.splitTop_of_free neutral.free, List.flatMap_singleton, List.flatMap_singleton,
    single]

/-- **Each entry of an expression is compiled as if it stood there alone.**  Where neutral
texts are put in braces with commas between them, the expression has the options that each
of them gives alone in braces, one put after the other, and but for their messages the
diagnostics that each of them gives.  Alone, a blank text gives nothing, and any other
either gives its field, or one warning whose detail is the text without the blanks around
it. -/
theorem compile_intercalate (scope : Scope) (source : String) (entries : List (List Char))
    (neutral : ∀ entry ∈ entries, Scan.Neutral entry) :
    let whole := compile scope source (braced ([','].intercalate entries))
    let alone := fun entry => compile scope source (braced entry)
    whole.result =
        .bare (Fields.ofList (entries.flatMap fun entry => (alone entry).result.bareOptions)) ∧
      whole.diagnostics.map Diagnostic.unworded =
        entries.flatMap (fun entry => (alone entry).diagnostics.map Diagnostic.unworded) ∧
      ∀ entry ∈ entries,
        if isBlankText entry then alone entry = ⟨.bare [], []⟩
        else
          (∃ field, alone entry = ⟨.bare [field], []⟩) ∨
          ∃ error : ParseError, alone entry = ⟨.bare [],
            [⟨.warning, source, s!"跳过无法解析的条目: {error.message}",
              some (String.ofList (trim entry))⟩]⟩ := by
  intro whole alone
  have each : ∀ entry ∈ entries, alone entry =
      ⟨.bare (fieldsOf scope ⟨entry, 1⟩), warningsOf scope source ⟨entry, 1⟩⟩ :=
    fun entry here => compile_alone (neutral entry here) scope source
  obtain ⟨result, diagnostics⟩ := compileBody_intercalate neutral scope source
  have together : whole = _ := compile_braced (Scan.keeps_intercalate neutral) scope source
  rw [together]
  refine ⟨?_, ?_, ?_⟩
  · rw [result]
    refine congrArg (fun fields => Expression.bare (Fields.ofList fields))
      (List.flatMap_congr fun entry here => ?_)
    rw [each entry here]
    rfl
  · rw [diagnostics]
    refine List.flatMap_congr fun entry here => ?_
    rw [each entry here]
  · intro entry here
    rw [each entry here, fieldsOf, warningsOf]
    dsimp only
    split
    · rfl
    · cases read : readOption scope ⟨entry, 1⟩ with
      | ok field => exact .inl ⟨field, rfl⟩
      | error error => exact .inr ⟨error, rfl⟩

/-- Brackets of different kinds, a missing colon and a bracket in a string stand beside
entries that can be read. -/
theorem compile_beside_mismatched_brackets :
    let entries := ["x: a", " y (]", "", "z: [b\x7d", " w: '\x7d,'"].map String.toList
    (∀ entry ∈ entries, Scan.Neutral entry) ∧
      (compile [] "page" (braced ([','].intercalate entries))).result =
        .bare [("x", .literal (.string "a")), ("w", .literal (.string "\x7d,"))] ∧
      (compile [] "page" (braced ([','].intercalate entries))).diagnostics.map
          Diagnostic.unworded =
        [⟨.warning, "page", "", some "y (]"⟩, ⟨.warning, "page", "", some "z: [b\x7d"⟩] := by
  intro entries
  have spelled : entries =
      [['x', ':', ' ', 'a'], [' ', 'y', ' ', '(', ']'], [], ['z', ':', ' ', '[', 'b', '}'],
        [' ', 'w', ':', ' ', '\x27', '}', ',', '\x27']] := by decide
  have neutral : ∀ entry ∈ entries, Scan.Neutral entry := by
    rw [spelled]
    decide
  obtain ⟨result, diagnostics, -⟩ := compile_intercalate [] "page" entries neutral
  refine ⟨neutral, ?_, ?_⟩
  · rw [result, spelled]
    rfl
  · rw [diagnostics, spelled]
    decide +kernel

end Expression

end Choreography
