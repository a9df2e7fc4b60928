import Choreography.Literal.Error
import Choreography.Number.Numeral
import Choreography.Scan
import Choreography.Scope

/-!
# Literals

The text of one option value: an object, an array, a quoted string, a number, a
keyword, a dotted name or a helper call.  Keys and names need no quotes, a comma
may end an object or an array, and blanks may stand around every token.  A dotted
name is a reference if its root is in scope and a string if not; the arguments of
a call are kept as they are written.

The reader works on what is left of the text.  The position of a refusal is the
position of the end of the text less what is left, so no count is carried along.
-/

namespace Choreography.Literal

/-- What the reader needs to know besides the text: the names in scope, and the
byte position of the end of the text. -/
structure Context where
  scope : Scope
  stop : Nat

/-- The byte position of what is left of the text. -/
def Context.offset (context : Context) (rest : List Char) : Nat :=
  context.stop - Text.width rest

/-- What was read, and what is left of the text. -/
abbrev Reading (α : Type) := α × List Char

/-- A character that a name can start with. -/
def startsName (c : Char) : Bool := c.isAlpha || c == '_' || c == '$'

/-- A character that a name can go on with. -/
def continuesName (c : Char) : Bool := c.isAlphanum || c == '_' || c == '$'

/-- Whether a whole text is a name. -/
def isName : List Char → Bool
  | [] => false
  | c :: rest => startsName c && rest.all continuesName

/-- Whether a text starts with a name. -/
def beginsName : List Char → Bool
  | [] => false
  | c :: _ => startsName c

/-- The character that a backslash and a letter stand for between quotes. -/
def unescape (c : Char) : Char :=
  if c = 'n' then '\n' else if c = 't' then '\t' else if c = 'r' then '\r' else c

/-- The content of a string up to its closing quote, and the text after that. -/
def unquote? (quote : Char) : List Char → Option (List Char × List Char)
  | [] => none
  | c :: rest =>
    if c = quote then some ([], rest)
    else if c = '\\' then
      match rest with
      | [] => none
      | escaped :: rest =>
        (unquote? quote rest).map fun (content, rest) =>
          (unescape escaped :: content, rest)
    else (unquote? quote rest).map fun (content, rest) => (c :: content, rest)

/-- A quoted string that starts with the given quote. -/
def readString (context : Context) (quote : Char) (rest : List Char) :
    Except ParseError (Reading String) :=
  match unquote? quote rest with
  | some (content, rest) => .ok (String.ofList content, rest)
  | none => .error (.unterminatedString (context.offset (quote :: rest)) quote)

/-- A number: the longest outline of a numeral must denote a finite one. -/
def readNumber (context : Context) (text : List Char) : Except ParseError (Reading Number) :=
  let (token, rest) := Numeral.scan text
  match (Numeral.read? token).filter Number.isFinite with
  | some number => .ok (number, rest)
  | none => .error (.invalidNumber (context.offset text) (String.ofList token))

/-- The value of a keyword. -/
def keyword? (name : List Char) : Option Value :=
  if name = "true".toList then some (.bool true)
  else if name = "false".toList then some (.bool false)
  else if name = "null".toList then some .null
  else if name = "undefined".toList then some .undefined
  else none

/-- A dotted name at the front of a text: names with single dots between them. -/
def scanPath : List Char → List Char × List Char
  | [] => ([], [])
  | c :: rest =>
    if continuesName c || (c == '.' && beginsName rest) then
      let later := scanPath rest
      (c :: later.1, later.2)
    else ([], c :: rest)

/-- What a dotted name without parentheses stands for. -/
def nameTemplate (scope : Scope) (path : String) : Template :=
  let reference : Reference := ⟨path⟩
  if scope.has reference.root then .lookup reference else .literal (.string path)

/-- A keyword, a call or a dotted name. -/
def readName (context : Context) (text : List Char) : Except ParseError (Reading Template) :=
  match keyword? (text.takeWhile continuesName) with
  | some value => .ok (.literal value, text.dropWhile continuesName)
  | none =>
    let (path, rest) := scanPath text
    match Text.trimStart rest with
    | '(' :: inner =>
      match Scan.closing? Scan.start false ('(' :: inner) with
      | none =>
        .error (.unexpectedEnd (context.offset ('(' :: inner)) (.character ')'))
      | some (inside, closer, after) =>
        if closer = ')' then
          let arguments := Text.trim (inside.drop 1)
          .ok (.invoke ⟨String.ofList path, String.ofList arguments⟩, after)
        else
          .error (.unbalancedDelimiter (context.offset (closer :: after)) ')' closer)
    | _ => .ok (nameTemplate context.scope (String.ofList path), rest)

/-- The key of an object field: a quoted string, a name, or a digit with digits
and points after it. -/
def readKey (context : Context) (text : List Char) : Except ParseError (Reading String) :=
  match Text.trimStart text with
  | [] => .error (.unexpectedEnd (context.offset []) .key)
  | c :: rest =>
    if Scan.isQuote c then readString context c rest
    else if startsName c then
      .ok (String.ofList ((c :: rest).takeWhile continuesName),
        (c :: rest).dropWhile continuesName)
    else if c.isDigit then
      let inKey := fun d : Char => d.isDigit || d == '.'
      .ok (String.ofList ((c :: rest).takeWhile inKey), (c :: rest).dropWhile inKey)
    else .error (.unexpectedChar (context.offset (c :: rest)) c)

/-- The colon after a key. -/
def readColon (context : Context) (text : List Char) : Except ParseError (Reading Unit) :=
  match Text.trimStart text with
  | [] => .error (.unexpectedEnd (context.offset []) (.character ':'))
  | c :: rest =>
    if c = ':' then .ok ((), rest)
    else .error (.unexpectedChar (context.offset (c :: rest)) c)

/-- What follows a part of a container. -/
inductive Continuation where
  | more
  | done

/-- The comma or the closing bracket after a part of a container.  Any other
closing bracket is one that does not match. -/
def readContinuation (context : Context) (closer : Char) (text : List Char) :
    Except ParseError (Reading Continuation) :=
  match Text.trimStart text with
  | [] => .error (.unexpectedEnd (context.offset []) (.character closer))
  | c :: rest =>
    if c = ',' then .ok (.more, rest)
    else if c = closer then .ok (.done, rest)
    else if Scan.isClosing c then
      .error (.unbalancedDelimiter (context.offset (c :: rest)) closer c)
    else .error (.unexpectedChar (context.offset (c :: rest)) c)

/-- A character that a number can start with. -/
def startsNumber (c : Char) : Bool := c.isDigit || c == '-' || c == '+' || c == '.'

mutual

/-- A value at the front of a text. -/
def readValue (context : Context) : Nat → List Char → Except ParseError (Reading Template)
  | 0, _ => .error .emptyEntry
  | fuel + 1, text =>
    match Text.trimStart text with
    | [] => .error (.unexpectedEnd (context.offset []) .value)
    | c :: rest =>
      if c = '{' then do
        let (fields, rest) ← readFields context fuel rest
        .ok (.object (Fields.ofList fields), rest)
      else if c = '[' then do
        let (items, rest) ← readItems context fuel rest
        .ok (.array items, rest)
      else if Scan.isQuote c then do
        let (content, rest) ← readString context c rest
        .ok (.literal (.string content), rest)
      else if startsNumber c then do
        let (number, rest) ← readNumber context (c :: rest)
        .ok (.literal (.number number), rest)
      else if startsName c then readName context (c :: rest)
      else .error (.unexpectedChar (context.offset (c :: rest)) c)
termination_by structural fuel => fuel

/-- The fields of an object after its opening brace or a comma, repeated keys
included, up to its closing brace. -/
def readFields (context : Context) :
    Nat → List Char → Except ParseError (Reading (List (String × Template)))
  | 0, _ => .error .emptyEntry
  | fuel + 1, text =>
    match Text.trimStart text with
    | [] => .error (.unexpectedEnd (context.offset []) (.character '}'))
    | '}' :: rest => .ok ([], rest)
    | _ => do
      let (key, rest) ← readKey context text
      let ((), rest) ← readColon context rest
      let (value, rest) ← readValue context fuel rest
      match ← readContinuation context '}' rest with
      | (.done, rest) => .ok ([(key, value)], rest)
      | (.more, rest) =>
        let (fields, rest) ← readFields context fuel rest
        .ok ((key, value) :: fields, rest)
termination_by structural fuel => fuel

/-- The items of an array after its opening bracket or a comma, up to its
closing bracket. -/
def readItems (context : Context) :
    Nat → List Char → Except ParseError (Reading (List Template))
  | 0, _ => .error .emptyEntry
  | fuel + 1, text =>
    match Text.trimStart text with
    | [] => .error (.unexpectedEnd (context.offset []) (.character ']'))
    | ']' :: rest => .ok ([], rest)
    | _ => do
      let (item, rest) ← readValue context fuel text
      match ← readContinuation context ']' rest with
      | (.done, rest) => .ok ([item], rest)
      | (.more, rest) =>
        let (items, rest) ← readItems context fuel rest
        .ok (item :: items, rest)
termination_by structural fuel => fuel

end

/-- A bound on the number of nested steps: one that consumes no character is
followed by one that does. -/
def fuelFor (text : List Char) : Nat := 2 * text.length + 2

end Literal

/-- The template that a whole segment is the text of, read in a scope. -/
def Template.read (scope : Scope) (segment : Segment) : Except ParseError Template :=
  let context : Literal.Context := ⟨scope, segment.offset + Text.width segment.text⟩
  match Text.trimStart segment.text with
  | [] => .error .emptyEntry
  | text => do
    let (template, rest) ← Literal.readValue context (Literal.fuelFor text) text
    match Text.trimStart rest with
    | [] => .ok template
    | c :: rest => .error (.unexpectedChar (context.offset (c :: rest)) c)

end Choreography
