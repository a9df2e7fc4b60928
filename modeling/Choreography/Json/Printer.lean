import Choreography.Json.Basic
import Choreography.Number.Decimal

/-!
# JSON text

The compact text of JSON data, without any space, and the indented one, with
two spaces a level.  In strings the quote, the backslash and the control
characters below U+0020 are escaped; every other character stands for itself.
-/

namespace Choreography.Json

/-- The lower-case hexadecimal digit of a number below sixteen. -/
def hexDigit (n : Nat) : Char := Nat.digitChar n

/-- How a character is written between quotes. -/
def escapeChar (c : Char) : List Char :=
  if c = '\x22' then ['\\', '\x22']
  else if c = '\\' then ['\\', '\\']
  else if c = '\n' then ['\\', 'n']
  else if c = '\t' then ['\\', 't']
  else if c = '\r' then ['\\', 'r']
  else if c = '\x08' then ['\\', 'b']
  else if c = '\x0c' then ['\\', 'f']
  else if c.toNat < 0x20 then
    ['\\', 'u', '0', '0', hexDigit (c.toNat / 16), hexDigit (c.toNat % 16)]
  else [c]

/-- A string between quotes. -/
def quote (text : String) : List Char :=
  '\x22' :: text.toList.flatMap escapeChar ++ ['\x22']

/-- The text of an integer. -/
def integerText (n : Int) : List Char :=
  (if n < 0 then ['-'] else []) ++ Decimal.numeral n.natAbs

mutual

/-- The compact text of JSON data. -/
def compact : Json → List Char
  | .null => "null".toList
  | .bool value => (if value then "true" else "false").toList
  | .integer value => integerText value
  | .double value => if value.isFinite then value.text else "null".toList
  | .string value => quote value
  | .array items => '[' :: compactItems items
  | .object members => '{' :: compactMembers members
termination_by structural data => data

/-- The items of an array with its closing bracket. -/
def compactItems : List Json → List Char
  | [] => [']']
  | item :: rest =>
    compact item ++ (if rest.isEmpty then [] else [',']) ++ compactItems rest
termination_by structural items => items

/-- The members of an object with its closing brace. -/
def compactMembers : List (String × Json) → List Char
  | [] => ['}']
  | (key, value) :: rest =>
    quote key ++ ':' :: compact value ++ (if rest.isEmpty then [] else [',']) ++
      compactMembers rest
termination_by structural members => members

end

/-- A line break followed by the indentation of a level. -/
def newline (level : Nat) : List Char :=
  '\n' :: List.replicate (2 * level) ' '

mutual

/-- The indented text of JSON data that starts at the given level. -/
def indented (level : Nat) : Json → List Char
  | .array (item :: rest) => '[' :: indentedItems (level + 1) (item :: rest)
  | .object (member :: rest) => '{' :: indentedMembers (level + 1) (member :: rest)
  | .array [] => ['[', ']']
  | .object [] => ['{', '}']
  | .null => "null".toList
  | .bool value => (if value then "true" else "false").toList
  | .integer value => integerText value
  | .double value => if value.isFinite then value.text else "null".toList
  | .string value => quote value
termination_by structural data => data

/-- Items one to a line, with the closing bracket on a line of its own. -/
def indentedItems (level : Nat) : List Json → List Char
  | [] => newline (level - 1) ++ [']']
  | item :: rest =>
    newline level ++ indented level item ++ (if rest.isEmpty then [] else [',']) ++
      indentedItems level rest
termination_by structural items => items

/-- Members one to a line, with the closing brace on a line of its own. -/
def indentedMembers (level : Nat) : List (String × Json) → List Char
  | [] => newline (level - 1) ++ ['}']
  | (key, value) :: rest =>
    newline level ++ quote key ++ ':' :: ' ' :: indented level value ++
      (if rest.isEmpty then [] else [',']) ++ indentedMembers level rest
termination_by structural members => members

end

/-- The compact text of JSON data, as a string. -/
def text (data : Json) : String := String.ofList data.compact

/-- The indented text of JSON data, as a string. -/
def prettyText (data : Json) : String := String.ofList (data.indented 0)

example : (Json.object [("a", .array [.integer (-1), .null]), ("b", .array [])]).text =
    "\x7b\"a\":[-1,null],\"b\":[]\x7d" := by decide +kernel
example : (Json.object [("a", .array [.integer 1])]).prettyText =
    "\x7b\n  \"a\": [\n    1\n  ]\n\x7d" := by decide +kernel

end Choreography.Json
