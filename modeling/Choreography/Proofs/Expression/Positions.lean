import Mathlib.Logic.Relation
import Choreography.Expression
import Choreography.Proofs.Expression.Refusals

/-!
# Positions in an expression

An expression is cut into entries, an entry into its key and its value, and a value is read
piece by piece.  Every piece is carried with its place, which is added up over all the cuts.
**Every piece that is cut out of an expression is the slice of the expression between the two
places that it claims** (`Taken.slice?_eq`), so no place lies outside the text or inside one
of its characters, however wide the characters and the blanks are.

A refused entry is such a piece, and so is what was left of it when it was refused.  Hence
**what a warning says of a place is so** (`compile_errors_exact`).
-/

namespace Choreography

open Text Literal

/-! ## What refusals say -/

namespace ParseError

/-- The place that a refusal names, if it names one. -/
def offset? : ParseError → Option Nat
  | .unexpectedChar offset _ => some offset
  | .unexpectedEnd offset _ => some offset
  | .unterminatedString offset _ => some offset
  | .unbalancedDelimiter offset _ _ => some offset
  | .invalidNumber offset _ => some offset
  | .missingColon _ => none
  | .invalidKey _ => none
  | .emptyEntry => none
  | .notAnObject _ => none

/-- From a place to the end of a segment, a text has a parenthesis and no bracket that closes
it. -/
def IsUnclosed (text : List Char) (place : Nat) (segment : Segment) : Prop :=
  ∃ rest, slice? place segment.stop text = some ('(' :: rest) ∧
    ∀ inside closer after, rest = inside ++ closer :: after → Scan.isClosing closer = true →
      ¬ Grammar.Nested inside

/-- What the refusal of an entry says of the place that it names is so in a text. -/
def IsExact (text : List Char) (entry : Segment) : ParseError → Prop
  | .unexpectedChar offset found => charAt? offset text = some found
  | .unexpectedEnd offset _ => offset = entry.stop ∨ IsUnclosed text offset entry
  | .unterminatedString offset quote => charAt? offset text = some quote
  | .unbalancedDelimiter offset _ found => charAt? offset text = some found
  | .invalidNumber offset number => ∃ stop, slice? offset stop text = some number.toList
  | .missingColon _ => True
  | .invalidKey _ => True
  | .emptyEntry => True
  | .notAnObject _ => True

theorem isExact_of_offset?_eq_none {error : ParseError} (nowhere : error.offset? = none)
    (text : List Char) (entry : Segment) : error.IsExact text entry := by
  cases error with
  | missingColon | invalidKey | emptyEntry | notAnObject => exact trivial
  | unexpectedChar | unexpectedEnd | unterminatedString | unbalancedDelimiter | invalidNumber =>
    cases nowhere

end ParseError

variable {scope : Scope} {text : List Char} {entry piece inner value : Segment}
  {error : ParseError}

/-- A refusal names the place of what is left. -/
theorem Literal.Refuses.offset?_eq {context : Context} {left : List Char}
    (refuses : Refuses context left error) : error.offset? = some (context.offset left) := by
  cases refuses <;> rfl

/-- **A refusal at an end of a segment** says what is so in every text in which the segment
stands. -/
theorem Literal.Refuses.isExact {left : List Char}
    (refuses : Refuses ⟨scope, entry.stop⟩ left error)
    (within : Segment.Within ⟨text, 0⟩ ⟨left, entry.stop - width left⟩)
    (fits : width left ≤ entry.stop) : error.IsExact text entry := by
  cases refuses with
  | unexpected c rest => exact within.charAt?_eq
  | unbalanced expected c rest => exact within.charAt?_eq
  | unterminated never => exact within.charAt?_eq
  | number token rest =>
    have front : Segment.Within ⟨token ++ rest, entry.stop - width (token ++ rest)⟩
        ⟨token, entry.stop - width (token ++ rest)⟩ := ⟨[], rest, rfl, rfl⟩
    exact ⟨_, (within.trans front).slice?_eq.trans (congrArg some String.toList_ofList.symm)⟩
  | ended expected => exact .inl rfl
  | @unclosed rest never =>
    refine .inr ⟨rest, ?_, ?_⟩
    · have slice : slice? (entry.stop - width ('(' :: rest))
          (entry.stop - width ('(' :: rest) + width ('(' :: rest)) text = some ('(' :: rest) :=
        within.slice?_eq
      rwa [Nat.sub_add_cancel fits] at slice
    · rintro inside closer after rfl closes nested
      -- the scanner passes over nested text, so it would have found the closing bracket
      have found := Scan.closing?_of_keeps nested.keeps (show Scan.isOpening '(' = true from rfl)
        closes after
      rw [never] at found
      cases found

namespace Expression

/-! ## Pieces -/

/-- One piece is cut out of another while an expression is compiled. -/
inductive Cut (scope : Scope) : Segment → Segment → Prop
  | trimmed (piece : Segment) : Cut scope piece piece.trimmed
  | inside {piece body : Segment} (unwrapped : piece.unwrap? = some body) : Cut scope piece body
  | entry {piece entry : Segment} (here : entry ∈ piece.splitTop ',') : Cut scope piece entry
  | key {piece : Segment} {before after : List Char}
      (found : Scan.findTop? ':' Scan.start piece.text = some (before, after)) :
      Cut scope piece ⟨before, piece.offset⟩
  | value {piece value : Segment} {key : String}
      (split : splitEntry piece = .ok (key, value)) : Cut scope piece value
  /-- What a reader leaves. -/
  | left {piece : Segment} {rest : List Char}
      (leaves : Leaves ⟨scope, piece.stop⟩ piece.text rest) :
      Cut scope piece ⟨rest, piece.stop - width rest⟩
  /-- What a reader takes off. -/
  | token {piece : Segment} {token rest : List Char}
      (leaves : Leaves ⟨scope, piece.stop⟩ piece.text rest) (split : piece.text = token ++ rest) :
      Cut scope piece ⟨token, piece.offset⟩
  /-- What stands in the parentheses of a call. -/
  | arguments {inner arguments after : List Char} {closer : Char} {offset : Nat}
      (found : Scan.closing? Scan.start false ('(' :: inner) =
        some ('(' :: arguments, closer, after)) :
      Cut scope ⟨'(' :: inner, offset⟩ ⟨arguments, offset + 1⟩

/-- The pieces that are cut out of an expression, one out of another. -/
def Taken (scope : Scope) (text : List Char) : Segment → Prop :=
  Relation.ReflTransGen (Cut scope) ⟨text, 0⟩

/-- The value of an entry is what stands after the colon, up to the end of the entry. -/
theorem exists_splitEntry {key : String} (split : splitEntry entry = .ok (key, value)) :
    ∃ before after, entry.text = before ++ ':' :: after ∧ Key.read before = .ok key ∧
      value = ⟨after, entry.offset + width before + 1⟩ := by
  rw [splitEntry] at split
  split at split
  · cases split
  · rename_i before after found
    obtain ⟨read, denotes, same⟩ := exists_of_bind_ok split
    cases same
    exact ⟨before, after, (Scan.findTop?_append found).symm, denotes, rfl⟩

theorem stop_of_splitEntry {key : String} (split : splitEntry entry = .ok (key, value)) :
    value.stop = entry.stop := by
  obtain ⟨before, after, whole, -, rfl⟩ := exists_splitEntry split
  have colon : ':'.utf8Size = 1 := rfl
  rw [Segment.stop, Segment.stop, whole, width_append, width_cons, colon]
  dsimp only
  omega

/-- **One cut:** a piece stands within the one that it is cut out of. -/
theorem Cut.within (cut : Cut scope piece inner) : piece.Within inner := by
  cases cut with
  | trimmed => exact Segment.within_trimmed piece
  | inside unwrapped => exact Segment.within_of_unwrap? unwrapped
  | entry here => exact Segment.within_of_mem_splitTop here
  | key found => exact ⟨[], _, (Scan.findTop?_append found).symm, rfl⟩
  | value split =>
    obtain ⟨before, after, whole, -, rfl⟩ := exists_splitEntry split
    refine ⟨before ++ [':'], [], by simpa using whole, ?_⟩
    rw [width_append, ← Nat.add_assoc]
    rfl
  | left leaves => exact Segment.within_of_suffix leaves.suffix
  | token leaves split => exact ⟨[], _, split, rfl⟩
  | arguments found => exact ⟨['('], _, (Scan.closing?_append found).1.symm, rfl⟩

namespace Taken

theorem within (taken : Taken scope text piece) : Segment.Within ⟨text, 0⟩ piece := by
  induction taken with
  | refl => exact .refl _
  | tail _ cut ih => exact ih.trans cut.within

/-- **Every piece of an expression** is the slice between its places. -/
theorem slice?_eq (taken : Taken scope text piece) :
    slice? piece.offset piece.stop text = some piece.text := taken.within.slice?_eq

theorem cut (taken : Taken scope text piece) (cut : Cut scope piece inner) :
    Taken scope text inner :=
  Relation.ReflTransGen.tail taken cut

end Taken

/-! ## Refused entries -/

/-- The entries of a body that give no field, each with its refusal. -/
def bodyRefusals (scope : Scope) (body : Segment) : List (Segment × ParseError) :=
  (entriesOf body).filterMap fun entry =>
    match readOption scope entry with
    | .ok _ => none
    | .error error => some (entry, error)

/-- An entry of a mapping that gives no animation, or the entries of its object that give no
field. -/
def namedRefusals (scope : Scope) (entry : Segment) : List (Segment × ParseError) :=
  match readNamed entry with
  | .ok (_, body) => bodyRefusals scope body
  | .error error => [(entry, error)]

/-- The entries of an expression that are passed over, each with its refusal. -/
def refusals (scope : Scope) (text : List Char) : List (Segment × ParseError) :=
  if isBlankText text then []
  else
    match Segment.unwrap? ⟨text, 0⟩ with
    | some body => bodyRefusals scope body
    | none => (entriesOf ⟨text, 0⟩).flatMap (namedRefusals scope)

variable (scope) (source : String)

theorem diagnostics_compileBody (body : Segment) :
    (compileBody scope source body).diagnostics =
      (bodyRefusals scope body).map fun refused => skipped source refused.1 refused.2 := by
  simp only [compileBody, bodyRefusals, List.filterMap_map, List.map_filterMap]
  congr 1
  funext entry
  simp only [Function.comp_apply]
  cases readOption scope entry <;> rfl

theorem diagnostics_compileNamed (entry : Segment) :
    (compileNamed scope source entry).diagnostics =
      (namedRefusals scope entry).map fun refused => skipped source refused.1 refused.2 := by
  rw [compileNamed, namedRefusals]
  cases readNamed entry with
  | ok named => exact diagnostics_compileBody scope source _
  | error error => rfl

/-- The warnings of a compilation are those of the entries that are passed over. -/
theorem diagnostics_compile (text : List Char) :
    (compile scope source text).diagnostics =
      (refusals scope text).map fun refused => skipped source refused.1 refused.2 := by
  rw [compile, refusals]
  dsimp only
  split
  · rfl
  · cases Segment.unwrap? ⟨text, 0⟩ with
    | some body => exact diagnostics_compileBody scope source body
    | none =>
      simp only [compileMapping, List.flatMap_map, List.map_flatMap, diagnostics_compileNamed]

variable {scope}

theorem taken_of_mem_entriesOf {body : Segment} (taken : Taken scope text body)
    (here : entry ∈ entriesOf body) : Taken scope text entry :=
  taken.cut (.entry (List.mem_filter.mp here).1)

/-- The inside of the object of an entry is cut out of the entry's value. -/
theorem taken_of_readNamed {name : String} {body : Segment} (taken : Taken scope text entry)
    (read : readNamed entry = .ok (name, body)) : Taken scope text body := by
  obtain ⟨⟨key, value⟩, split, unwrapped⟩ := exists_of_bind_ok read
  simp only at unwrapped
  split at unwrapped
  · rename_i inside opened
    cases unwrapped
    exact (taken.cut (.value split)).cut (.inside opened)
  · cases unwrapped

/-- A refusal of an entry of an expression: it says what is so, and the place that it names is
one at which the text can be cut, in the entry or at its end. -/
structure Refusal (scope : Scope) (text : List Char) (entry : Segment) (error : ParseError) :
    Prop where
  taken : Taken scope text entry
  isExact : error.IsExact text entry
  boundary : ∀ offset, error.offset? = some offset → isBoundary offset text = true
  inside : ∀ offset, error.offset? = some offset → entry.offset ≤ offset ∧ offset ≤ entry.stop

namespace Refusal

/-- A refusal that names no place. -/
theorem of_nowhere (taken : Taken scope text entry) (nowhere : error.offset? = none) :
    Refusal scope text entry error where
  taken := taken
  isExact := error.isExact_of_offset?_eq_none nowhere text entry
  boundary := by
    intro offset named
    rw [nowhere] at named
    cases named
  inside := by
    intro offset named
    rw [nowhere] at named
    cases named

theorem of_splitEntry (taken : Taken scope text entry)
    (failed : splitEntry entry = .error error) : Refusal scope text entry error := by
  rw [splitEntry] at failed
  split at failed
  · cases failed
    exact .of_nowhere taken rfl
  · rcases exists_of_bind_error failed with failed | ⟨key, -, failed⟩
    · rw [Key.read] at failed
      split at failed
      · cases failed
      · cases failed
        exact .of_nowhere taken rfl
    · cases failed

/-- A value is refused at an end of its entry. -/
theorem of_refused {key : String} (taken : Taken scope text entry)
    (split : splitEntry entry = .ok (key, value))
    (refused : Refused ⟨scope, value.stop⟩ value.text error) :
    Refusal scope text entry error := by
  obtain ⟨left, end_, refuses⟩ := refused
  have cut : Cut scope entry value := .value split
  -- the reader counts from the end of the value, which is the end of the entry
  have last := Segment.within_of_suffix end_
  rw [stop_of_splitEntry split] at refuses last
  have within := (taken.cut cut).within.trans last
  obtain ⟨before, after, whole, place⟩ := cut.within.trans last
  have fits : width left ≤ entry.stop := by
    rw [Segment.stop, whole, width_append, width_append]
    dsimp only
    omega
  refine ⟨taken, refuses.isExact within fits, fun offset named => ?_, fun offset named => ?_⟩
  · rw [refuses.offset?_eq] at named
    cases named
    exact within.isBoundary
  · rw [refuses.offset?_eq] at named
    cases named
    exact ⟨Nat.le_trans (Nat.le_add_right _ _) (Nat.le_of_eq place.symm), Nat.sub_le _ _⟩

theorem of_readOption (taken : Taken scope text entry)
    (failed : readOption scope entry = .error error) : Refusal scope text entry error := by
  rcases exists_of_bind_error failed with failed | ⟨⟨key, value⟩, split, failed⟩
  · exact .of_splitEntry taken failed
  · rcases exists_of_bind_error failed with failed | ⟨template, -, failed⟩
    · rcases Template.refused_of_read failed with ⟨-, rfl⟩ | refused
      · exact .of_nowhere taken rfl
      · exact .of_refused taken split refused
    · cases failed

theorem of_mem_bodyRefusals {body : Segment} (taken : Taken scope text body)
    (here : (entry, error) ∈ bodyRefusals scope body) : Refusal scope text entry error := by
  obtain ⟨found, among, gives⟩ := List.mem_filterMap.mp here
  cases read : readOption scope found with
  | ok field =>
    rw [read] at gives
    cases gives
  | error refusal =>
    rw [read] at gives
    cases gives
    exact .of_readOption (taken_of_mem_entriesOf taken among) read

theorem of_mem_namedRefusals {found : Segment} (taken : Taken scope text found)
    (here : (entry, error) ∈ namedRefusals scope found) : Refusal scope text entry error := by
  rw [namedRefusals] at here
  cases read : readNamed found with
  | ok named =>
    obtain ⟨name, body⟩ := named
    rw [read] at here
    exact .of_mem_bodyRefusals (taken_of_readNamed taken read) here
  | error refusal =>
    rw [read] at here
    cases List.mem_singleton.mp here
    rcases exists_of_bind_error read with failed | ⟨⟨key, value⟩, -, failed⟩
    · exact .of_splitEntry taken failed
    · simp only at failed
      split at failed
      · cases failed
      · cases failed
        exact .of_nowhere taken rfl

theorem of_mem_refusals (here : (entry, error) ∈ refusals scope text) :
    Refusal scope text entry error := by
  have whole : Taken scope text ⟨text, 0⟩ := .refl
  rw [refusals] at here
  split at here
  · cases here
  · cases unwrapped : Segment.unwrap? ⟨text, 0⟩ with
    | some body =>
      rw [unwrapped] at here
      exact .of_mem_bodyRefusals (whole.cut (.inside unwrapped)) here
    | none =>
      rw [unwrapped] at here
      obtain ⟨found, among, here⟩ := List.mem_flatMap.mp here
      exact .of_mem_namedRefusals (taken_of_mem_entriesOf whole among) here

end Refusal

/-- **The positions of a compilation are exact.**  Its warnings are the refusals of the entries
that it passes over.  Each of these entries is a piece of the expression, and its refusal says
what is so at the place that it names: a place in the entry or at its end, where a character
starts or the text ends.  And every piece that is cut out of the expression is the slice
between its two places. -/
theorem compile_errors_exact (scope : Scope) (source : String) (text : List Char) :
    (compile scope source text).diagnostics =
      (refusals scope text).map (fun refused => skipped source refused.1 refused.2) ∧
    (∀ entry error, (entry, error) ∈ refusals scope text → Refusal scope text entry error) ∧
    ∀ piece, Taken scope text piece →
      slice? piece.offset piece.stop text = some piece.text :=
  ⟨diagnostics_compile scope source text, fun _ _ => .of_mem_refusals, fun _ => Taken.slice?_eq⟩

/-- Behind a wide blank and a wide letter in quotes, a letter that no comma precedes is refused
at the byte where it stands, in an entry that starts and ends where it says. -/
theorem compile_errors_exact_wide :
    let text := "\u3000'é':\x7bb:[xö] \x7d".toList
    let entry : Segment := ⟨"b:[xö] ".toList, 9⟩
    (compile [] "" text).diagnostics = [skipped "" entry (.unexpectedChar 13 'ö')] ∧
      charAt? 13 text = some 'ö' ∧
      slice? entry.offset entry.stop text = some entry.text := by
  intro text entry
  -- spelled out, the text is read by computation
  have spelled : text =
      ['\u3000', '\x27', 'é', '\x27', ':', '{', 'b', ':', '[', 'x', 'ö', ']', ' ', '}'] := by
    decide
  have refused : refusals [] text = [(entry, .unexpectedChar 13 'ö')] := by
    rw [spelled]
    rfl
  obtain ⟨warned, exact_, slices⟩ := compile_errors_exact [] "" text
  rw [refused] at warned exact_
  have refusal := exact_ entry (.unexpectedChar 13 'ö') List.mem_cons_self
  exact ⟨warned, refusal.isExact, slices entry refusal.taken⟩

end Expression

end Choreography
