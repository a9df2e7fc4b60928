import Choreography.Number.Basic
import Choreography.Fields

/-!
# JSON

JSON data whose objects keep the order of their members and whose numbers keep
whether they were written as an integer.
-/

namespace Choreography

/-- JSON data. -/
inductive Json where
  | null
  | bool (value : Bool)
  | integer (value : Int)
  | double (value : Number)
  | string (value : String)
  | array (items : List Json)
  | object (members : List (String × Json))
deriving Repr, Inhabited

namespace Json

/-- JSON text of a list of strings, as data. -/
def ofStrings (texts : List String) : Json := .array (texts.map .string)

/-- A natural number as data. -/
def ofNat (n : Nat) : Json := .integer n

/-- The data in an optional value, or null. -/
def ofOption (value : Option Json) : Json := value.getD .null

end Json

end Choreography
