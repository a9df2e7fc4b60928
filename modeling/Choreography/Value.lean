import Choreography.Json.Basic
import Choreography.Number.Numeral

/-!
# Values

What an animation option can hold once nothing is left to look up.  A value goes
to JSON data with `toJson`, which loses what JSON cannot say: an undefined value,
an infinity and what is not a number become null.
-/

namespace Choreography

/-- A concrete value. -/
inductive Value where
  | undefined
  | null
  | bool (value : Bool)
  | number (value : Number)
  | string (value : String)
  | array (items : List Value)
  | object (fields : List (String × Value))
deriving Repr, Inhabited

namespace Value

/-- The name of a value's type. -/
def typeName : Value → String
  | .undefined => "undefined"
  | .null => "null"
  | .bool _ => "bool"
  | .number _ => "number"
  | .string _ => "string"
  | .array _ => "array"
  | .object _ => "object"

/-- The text of a string value. -/
def string? : Value → Option String
  | .string value => some value
  | _ => none

/-- The number of a number value. -/
def number? : Value → Option Number
  | .number value => some value
  | _ => none

/-- The value of a field of an object. -/
def field? : Value → String → Option Value
  | .object fields, name => Fields.get? fields name
  | _, _ => none

/-- The value at the end of a path of field names and array indices. -/
def path? : Value → List String → Option Value
  | value, [] => some value
  | .object fields, segment :: rest => do
    let value ← Fields.get? fields segment
    value.path? rest
  | .array items, segment :: rest => do
    let index ← Numeral.natural? segment.toList
    let value ← items[index]?
    value.path? rest
  | _, _ :: _ => none

/-- The greatest integer that is written without a fraction. -/
def greatestInteger : Nat := 9007199254740991

/-- A number as JSON data: an integer if it is one of moderate size, null if it
is not finite. -/
def numberToJson (value : Number) : Json :=
  match value.toInt? with
  | some whole =>
    if whole.natAbs ≤ greatestInteger then .integer whole else .double value
  | none => if value.isFinite then .double value else .null

mutual

/-- A value as JSON data. -/
def toJson : Value → Json
  | .undefined => .null
  | .null => .null
  | .bool value => .bool value
  | .number value => numberToJson value
  | .string value => .string value
  | .array items => .array (toJsonItems items)
  | .object fields => .object (Fields.ofList (toJsonFields fields))
termination_by structural value => value

/-- The items of an array as JSON data. -/
def toJsonItems : List Value → List Json
  | [] => []
  | item :: rest => item.toJson :: toJsonItems rest
termination_by structural items => items

/-- The fields of an object as JSON data, repeated names included. -/
def toJsonFields : List (String × Value) → List (String × Json)
  | [] => []
  | (name, value) :: rest => (name, value.toJson) :: toJsonFields rest
termination_by structural fields => fields

/-- JSON data as a value. -/
def ofJson : Json → Value
  | .null => .null
  | .bool value => .bool value
  | .integer value => .number (Number.ofInt value)
  | .double value => .number value
  | .string value => .string value
  | .array items => .array (ofJsonItems items)
  | .object members => .object (ofJsonMembers members)
termination_by structural data => data

/-- JSON items as values. -/
def ofJsonItems : List Json → List Value
  | [] => []
  | item :: rest => ofJson item :: ofJsonItems rest
termination_by structural items => items

/-- JSON members as fields. -/
def ofJsonMembers : List (String × Json) → List (String × Value)
  | [] => []
  | (key, value) :: rest => (key, ofJson value) :: ofJsonMembers rest
termination_by structural members => members

end

/-- Resolved fields as JSON data: an array with one object for each field. -/
def fieldsToJson (fields : Fields Value) : Json :=
  .array (fields.map fun (name, value) => .object [(name, value.toJson)])

/-! ## Small laws -/

theorem toJsonItems_eq_map (items : List Value) :
    toJsonItems items = items.map toJson := by
  induction items with
  | nil => rfl
  | cons item rest ih => simp [toJsonItems, ih]

theorem toJsonFields_eq_mapValues (fields : List (String × Value)) :
    toJsonFields fields = Fields.mapValues toJson fields := by
  induction fields with
  | nil => rfl
  | cons field rest ih =>
    obtain ⟨name, value⟩ := field
    simp [toJsonFields, Fields.mapValues, ih]

theorem ofJsonItems_eq_map (items : List Json) :
    ofJsonItems items = items.map ofJson := by
  induction items with
  | nil => rfl
  | cons item rest ih => simp [ofJsonItems, ih]

theorem ofJsonMembers_eq_mapValues (members : List (String × Json)) :
    ofJsonMembers members = Fields.mapValues ofJson members := by
  induction members with
  | nil => rfl
  | cons member rest ih =>
    obtain ⟨key, value⟩ := member
    simp [ofJsonMembers, Fields.mapValues, ih]

@[simp] theorem path?_nil (value : Value) : value.path? [] = some value := by
  cases value <;> rfl

end Value

end Choreography
