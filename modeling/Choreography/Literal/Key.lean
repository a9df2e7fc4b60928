import Choreography.Literal.Reader

/-!
# Keys of entries

The text before the colon of an entry: a name, digits with points among them, or
a quoted string, with blanks around it.
-/

namespace Choreography.Key

/-- Whether a text consists of digits and points. -/
def isPlainNumber (text : List Char) : Bool :=
  !text.isEmpty && text.all fun c => c.isDigit || c == '.'

/-- The key that a text denotes, if it denotes one. -/
def read? (text : List Char) : Option String :=
  match Text.trim text with
  | [] => none
  | c :: rest =>
    if Scan.isQuote c then
      match Literal.unquote? c rest with
      | some (content, []) => some (String.ofList content)
      | _ => none
    else if Literal.isName (c :: rest) || isPlainNumber (c :: rest) then
      some (String.ofList (c :: rest))
    else none

/-- The key that a text denotes, or the refusal of the text. -/
def read (text : List Char) : Except ParseError String :=
  match read? text with
  | some key => .ok key
  | none => .error (.invalidKey (String.ofList (Text.trim text)))

end Choreography.Key
