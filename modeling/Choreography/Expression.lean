import Choreography.Diagnostic
import Choreography.Literal.Key

/-!
# Expressions

The text of a directive: one object of options, or named objects of options with
commas between them.  Entries are read one by one.  One that cannot be read is
passed over with a warning that shows it, and the others are kept.
-/

namespace Choreography

/-- What the text of a directive describes. -/
inductive Expression where
  /-- The options of one animation. -/
  | bare (options : Fields Template)
  /-- The options of each named animation. -/
  | named (animations : Fields (Fields Template))
deriving Repr, Inhabited

namespace Expression

/-- The warning for an entry that is passed over. -/
def skipped (source : String) (entry : Segment) (error : ParseError) : Diagnostic :=
  ⟨.warning, source, s!"跳过无法解析的条目: {error.message}",
    some (String.ofList (Text.trim entry.text))⟩

/-- The key of an entry, and the text after its colon. -/
def splitEntry (entry : Segment) : Except ParseError (String × Segment) :=
  match Scan.findTop? ':' Scan.start entry.text with
  | none => .error (.missingColon (String.ofList (Text.trim entry.text)))
  | some (before, after) => do
    let key ← Key.read before
    .ok (key, ⟨after, entry.offset + Text.width before + 1⟩)

/-- The field that an entry of an options object gives. -/
def readOption (scope : Scope) (entry : Segment) :
    Except ParseError (String × Template) := do
  let (key, value) ← splitEntry entry
  let template ← Template.read scope value
  .ok (key, template)

/-- The entries of a body: what stands between its top-level commas and is not
blank. -/
def entriesOf (body : Segment) : List Segment :=
  (body.splitTop ',').filter fun entry => !entry.isBlank

/-- What was compiled, and the warnings for what was not. -/
structure Compiled (α : Type) where
  result : α
  diagnostics : List Diagnostic

/-- The fields of the options in a body, and a warning for each entry that gives
none. -/
def compileBody (scope : Scope) (source : String) (body : Segment) :
    Compiled (Fields Template) :=
  let read := (entriesOf body).map fun entry => (entry, readOption scope entry)
  ⟨Fields.ofList (read.filterMap fun (_, outcome) => outcome.toOption),
    read.filterMap fun (entry, outcome) =>
      match outcome with
      | .ok _ => none
      | .error error => some (skipped source entry error)⟩

/-- The name in an entry of a mapping, and the inside of its object. -/
def readNamed (entry : Segment) : Except ParseError (String × Segment) := do
  let (name, value) ← splitEntry entry
  match value.unwrap? with
  | some body => .ok (name, body)
  | none => .error (.notAnObject name)

/-- The animations that an entry of a mapping gives, one or none, and its
warnings. -/
def compileNamed (scope : Scope) (source : String) (entry : Segment) :
    Compiled (List (String × Fields Template)) :=
  match readNamed entry with
  | .ok (name, body) =>
    let compiled := compileBody scope source body
    ⟨[(name, compiled.result)], compiled.diagnostics⟩
  | .error error => ⟨[], [skipped source entry error]⟩

/-- The animations of a mapping, and its warnings in the order of the text. -/
def compileMapping (scope : Scope) (source : String) (text : Segment) :
    Compiled (Fields (Fields Template)) :=
  let compiled := (entriesOf text).map (compileNamed scope source)
  ⟨Fields.ofList (compiled.flatMap Compiled.result),
    compiled.flatMap Compiled.diagnostics⟩

/-- What a text describes.  A blank text describes an animation without options,
a text in one pair of braces the options of one, and any other a mapping. -/
def compile (scope : Scope) (source : String) (text : List Char) :
    Compiled Expression :=
  let whole : Segment := ⟨text, 0⟩
  if Text.isBlankText text then ⟨.bare [], []⟩
  else
    match whole.unwrap? with
    | some body =>
      let compiled := compileBody scope source body
      ⟨.bare compiled.result, compiled.diagnostics⟩
    | none =>
      let compiled := compileMapping scope source whole
      ⟨.named compiled.result, compiled.diagnostics⟩

end Expression

end Choreography
