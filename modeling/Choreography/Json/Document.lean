import Choreography.Json.Quantity

/-!
# JSON documents

The outline of a JSON text before anything is asked of its data: objects still
hold repeated keys, and a number beyond the doubles or a string with half a
surrogate pair is only noted.  `Document.read?` accepts exactly one value with
blanks around it.  Data that nobody asks for may hold what data that is kept may
not, and may be nested without limit.
-/

namespace Choreography.Json

/-- The outline of a JSON text. -/
inductive Document where
  | null
  | bool (value : Bool)
  /-- A number, none if it is beyond the range of doubles. -/
  | number (value : Option Quantity)
  /-- A string, none if an escape in it is half of a surrogate pair. -/
  | string (value : Option String)
  | array (items : List Document)
  | object (members : List (Option String × Document))
deriving Inhabited

namespace Document

/-- The blanks that JSON allows between tokens. -/
def isSpace (c : Char) : Bool :=
  c = ' ' || c = '\n' || c = '\t' || c = '\r'

/-- The text without the blanks in front of it. -/
def skipSpace (text : List Char) : List Char := text.dropWhile isSpace

/-- A piece of a string: a character, or a UTF-16 code unit from an escape. -/
inductive Piece where
  | char (c : Char)
  | unit (value : Nat)

/-- The value of a hexadecimal digit. -/
def hexValue? (c : Char) : Option Nat :=
  if c.isDigit then some (c.toNat - '0'.toNat)
  else if 'a' ≤ c ∧ c ≤ 'f' then some (c.toNat - 'a'.toNat + 10)
  else if 'A' ≤ c ∧ c ≤ 'F' then some (c.toNat - 'A'.toNat + 10)
  else none

/-- The character that a one-letter escape stands for. -/
def escape? (c : Char) : Option Char :=
  if c = '\x22' ∨ c = '\\' ∨ c = '/' then some c
  else if c = 'b' then some '\x08'
  else if c = 'f' then some '\x0c'
  else if c = 'n' then some '\n'
  else if c = 'r' then some '\r'
  else if c = 't' then some '\t'
  else none

/-- The pieces of a string up to its closing quote, and the text after that. -/
def pieces? : List Char → Option (List Piece × List Char)
  | [] => none
  | '\x22' :: rest => some ([], rest)
  | '\\' :: 'u' :: a :: b :: c :: d :: rest => do
    let a ← hexValue? a
    let b ← hexValue? b
    let c ← hexValue? c
    let d ← hexValue? d
    let (pieces, rest) ← pieces? rest
    some (.unit (((a * 16 + b) * 16 + c) * 16 + d) :: pieces, rest)
  | '\\' :: c :: rest => do
    let c ← escape? c
    let (pieces, rest) ← pieces? rest
    some (.char c :: pieces, rest)
  | c :: rest => do
    if c.toNat < 0x20 then none
    let (pieces, rest) ← pieces? rest
    some (.char c :: pieces, rest)

/-- The characters of a string, if its surrogates come in pairs. -/
def joinPieces? : List Piece → Option (List Char)
  | [] => some []
  | .char c :: rest => (joinPieces? rest).map (c :: ·)
  | .unit high :: .unit low :: rest =>
    if 0xD800 ≤ high ∧ high < 0xDC00 ∧ 0xDC00 ≤ low ∧ low < 0xE000 then
      (joinPieces? rest).map
        (Char.ofNat (0x10000 + (high - 0xD800) * 0x400 + (low - 0xDC00)) :: ·)
    else if 0xD800 ≤ high ∧ high < 0xE000 then none
    else (joinPieces? (.unit low :: rest)).map (Char.ofNat high :: ·)
  | .unit value :: rest =>
    if 0xD800 ≤ value ∧ value < 0xE000 then none
    else (joinPieces? rest).map (Char.ofNat value :: ·)
termination_by pieces => pieces.length

/-- A string after its opening quote, and the text after its closing one. -/
def readString? (text : List Char) : Option (Option String × List Char) :=
  (pieces? text).map fun (pieces, rest) =>
    ((joinPieces? pieces).map String.ofList, rest)

/-- The whole part of a number: a zero alone, or digits that start with
another one. -/
def readWhole? (text : List Char) : Option (List Char × List Char) :=
  match Numeral.scanDigits text with
  | ([], _) => none
  | ('0' :: _ :: _, _) => none
  | (digits, rest) => some (digits, rest)

/-- The fraction of a number, if it has one; a point needs digits. -/
def readFraction? : List Char → Option (List Char × List Char)
  | '.' :: rest =>
    match Numeral.scanDigits rest with
    | ([], _) => none
    | (digits, rest) => some (digits, rest)
  | text => some ([], text)

/-- The exponent of a number, if it has one; a mark needs digits. -/
def readExponent? : List Char → Option (Option (Bool × List Char) × List Char)
  | [] => some (none, [])
  | c :: rest =>
    if c = 'e' ∨ c = 'E' then
      let (sign, rest) := Numeral.scanSign rest
      match Numeral.scanDigits rest with
      | ([], _) => none
      | (digits, rest) => some (some (sign = ['-'], digits), rest)
    else some (none, c :: rest)

/-- A number at the front of a text. -/
def readNumber? (text : List Char) : Option (Option Quantity × List Char) := do
  let negative := text.head? == some '-'
  let (whole, rest) ← readWhole? (if negative then text.drop 1 else text)
  let (fraction, rest) ← readFraction? rest
  let (exponent, rest) ← readExponent? rest
  let written : Written := ⟨negative, whole, fraction, exponent⟩
  some (written.quantity?, rest)

mutual

/-- A value at the front of a text, and the text after it. -/
def readValue? : Nat → List Char → Option (Document × List Char)
  | 0, _ => none
  | fuel + 1, text =>
    match skipSpace text with
    | 'n' :: 'u' :: 'l' :: 'l' :: rest => some (.null, rest)
    | 't' :: 'r' :: 'u' :: 'e' :: rest => some (.bool true, rest)
    | 'f' :: 'a' :: 'l' :: 's' :: 'e' :: rest => some (.bool false, rest)
    | '\x22' :: rest =>
      (readString? rest).map fun (value, rest) => (.string value, rest)
    | '[' :: rest =>
      match skipSpace rest with
      | ']' :: rest => some (.array [], rest)
      | rest => (readItems? fuel rest).map fun (items, rest) => (.array items, rest)
    | '{' :: rest =>
      match skipSpace rest with
      | '}' :: rest => some (.object [], rest)
      | rest =>
        (readMembers? fuel rest).map fun (members, rest) => (.object members, rest)
    | text => (readNumber? text).map fun (value, rest) => (.number value, rest)
termination_by structural fuel => fuel

/-- The items of an array after its opening bracket, at least one. -/
def readItems? : Nat → List Char → Option (List Document × List Char)
  | 0, _ => none
  | fuel + 1, text => do
    let (item, rest) ← readValue? fuel text
    match skipSpace rest with
    | ',' :: rest =>
      let (items, rest) ← readItems? fuel rest
      some (item :: items, rest)
    | ']' :: rest => some ([item], rest)
    | _ => none
termination_by structural fuel => fuel

/-- The members of an object after its opening brace, at least one. -/
def readMembers? :
    Nat → List Char → Option (List (Option String × Document) × List Char)
  | 0, _ => none
  | fuel + 1, text =>
    match skipSpace text with
    | '\x22' :: rest => do
      let (key, rest) ← readString? rest
      match skipSpace rest with
      | ':' :: rest =>
        let (value, rest) ← readValue? fuel rest
        match skipSpace rest with
        | ',' :: rest =>
          let (members, rest) ← readMembers? fuel rest
          some ((key, value) :: members, rest)
        | '}' :: rest => some ([(key, value)], rest)
        | _ => none
      | _ => none
    | _ => none
termination_by structural fuel => fuel

end

/-- The outline of a whole JSON text.  Each step of the reader that does not
consume a character is followed by one that does, so twice the length of the
text bounds their number. -/
def read? (text : String) : Option Document :=
  let text := text.toList
  match readValue? (2 * text.length + 2) text with
  | some (document, rest) => if skipSpace rest = [] then some document else none
  | none => none

end Document

end Choreography.Json
