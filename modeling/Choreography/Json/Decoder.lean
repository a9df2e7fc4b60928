import Choreography.Json.Document

/-!
# Decoding JSON documents

A decoder takes from a document the data of one kind, or refuses it.  Data that
is kept may be nested in `nestingLimit` containers, its strings must be sound
and its numbers in range.  A record may be written as an object, where unknown
keys are passed over and a known one must not be repeated, or as an array that
gives the values of its first fields in order.
-/

namespace Choreography.Json

/-- How many containers may be nested in data that is kept. -/
def nestingLimit : Nat := 127

/-- A reading of documents; the number says how many containers may still be
entered. -/
abbrev Decoder (α : Type) := Nat → Document → Option α

namespace Document

mutual

/-- All of a document as data.  A repeated key keeps its first place and its
last value. -/
def toJson? (depth : Nat) : Document → Option Json
  | .null => some .null
  | .bool value => some (.bool value)
  | .number (some (.integer value)) => some (.integer value)
  | .number (some (.double value)) => some (.double value)
  | .number none => none
  | .string value => value.map .string
  | .array items =>
    match depth with
    | 0 => none
    | depth + 1 => (toItems? depth items).map .array
  | .object members =>
    match depth with
    | 0 => none
    | depth + 1 => (toMembers? depth members).map fun members =>
      .object (Fields.ofList members)
termination_by structural document => document

/-- The items of an array as data. -/
def toItems? (depth : Nat) : List Document → Option (List Json)
  | [] => some []
  | item :: rest => do
    let item ← toJson? depth item
    let rest ← toItems? depth rest
    some (item :: rest)
termination_by structural items => items

/-- The members of an object as data, repeated keys included. -/
def toMembers? (depth : Nat) :
    List (Option String × Document) → Option (List (String × Json))
  | [] => some []
  | (key, value) :: rest => do
    let key ← key
    let value ← toJson? depth value
    let rest ← toMembers? depth rest
    some ((key, value) :: rest)
termination_by structural members => members

end

end Document

namespace Decoder

open Document

/-- Any data. -/
def json : Decoder Json := fun depth document => document.toJson? depth

/-- An object of any data, as named values. -/
def jsonFields : Decoder (Fields Json) := fun depth document =>
  match document with
  | .object _ =>
    match document.toJson? depth with
    | some (.object members) => some members
    | _ => none
  | _ => none

/-- An integer from zero to below the limit. -/
def naturalBelow (limit : Nat) : Decoder Nat := fun _ document =>
  match document with
  | .number (some (.integer value)) =>
    if 0 ≤ value ∧ value < limit then some value.toNat else none
  | _ => none

/-- An identifying number of 64 bits. -/
def identity : Decoder Nat := naturalBelow Numeral.wordLimit

/-- A count of 32 bits. -/
def count : Decoder Nat := naturalBelow 0x100000000

/-- A truth value. -/
def bool : Decoder Bool := fun _ document =>
  match document with
  | .bool value => some value
  | _ => none

/-- A string. -/
def string : Decoder String := fun _ document =>
  match document with
  | .string value => value
  | _ => none

/-- What `decoder` takes, or nothing from null. -/
def optional {α : Type} (decoder : Decoder α) : Decoder (Option α) :=
  fun depth document =>
    match document with
    | .null => some none
    | _ => (decoder depth document).map some

/-- An array of what `decoder` takes. -/
def list {α : Type} (decoder : Decoder α) : Decoder (List α) := fun depth document =>
  match depth, document with
  | depth + 1, .array items => items.mapM (decoder depth)
  | _, _ => none

/-- The fields of a record with the given names, and the depth inside it. -/
def record (names : List String) : Decoder (Nat × Fields Document) :=
  fun depth document =>
    match depth, document with
    | depth + 1, .object members => do
      let members ← members.mapM fun (key, value) => key.map (·, value)
      let known := members.filter fun (key, _) => names.contains key
      if (Fields.keys known).Nodup then some (depth, known) else none
    | depth + 1, .array items =>
      if items.length ≤ names.length then some (depth, names.zip items) else none
    | _, _ => none

/-- The single variant of a tagged value, with its tag, and the depth inside. -/
def variant : Decoder (Nat × String × Document) := fun depth document =>
  match depth, document with
  | depth + 1, .object [(some tag, content)] => some (depth, tag, content)
  | _, _ => none

/-- A field that must be there. -/
def required {α : Type} (fields : Nat × Fields Document) (name : String)
    (decoder : Decoder α) : Option α := do
  let document ← Fields.get? fields.2 name
  decoder fields.1 document

/-- A field with a value for when it is missing. -/
def defaulted {α : Type} (fields : Nat × Fields Document) (name : String)
    (fallback : α) (decoder : Decoder α) : Option α :=
  match Fields.get? fields.2 name with
  | some document => decoder fields.1 document
  | none => some fallback

/-- What a decoder takes from a whole JSON text. -/
def fromText {α : Type} (decoder : Decoder α) (text : String) : Option α := do
  let document ← Document.read? text
  decoder nestingLimit document

end Decoder

end Choreography.Json
