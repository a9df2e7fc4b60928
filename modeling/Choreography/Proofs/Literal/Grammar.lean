import Choreography.Literal.Reader

/-!
# The grammar of literals

Which texts are values, and what each of them denotes, told without a reader: every
relation here goes from a text to its meaning, and a container is put together from the
texts of its parts.  `Denotes` is the grammar of values and `Item` allows blanks around one.

Blanks may stand around every token, but not inside a dotted path; a comma may follow the
last part of a container.  Keywords are no roots of paths, although they may be keys and
members.  The arguments of a call are any text in which quotes are closed and brackets are
nested, whatever their kinds (`Nested`).
-/

namespace Choreography.Grammar

open Text Literal

/-! ## Strings -/

/-- What a character after a backslash stands for. -/
inductive Escape : Char → Char → Prop
  | newline : Escape 'n' '\n'
  | tab : Escape 't' '\t'
  | carriageReturn : Escape 'r' '\r'
  | itself {c : Char} (other : c ∉ ['n', 't', 'r']) : Escape c c

/-- The text between two quotes, and the content that it denotes. -/
inductive Content (quote : Char) : List Char → List Char → Prop
  | nil : Content quote [] []
  | plain {c : Char} {raw content : List Char} (other : c ≠ quote) (slash : c ≠ '\\')
      (later : Content quote raw content) : Content quote (c :: raw) (c :: content)
  | escaped {c meant : Char} {raw content : List Char} (escape : Escape c meant)
      (later : Content quote raw content) :
      Content quote ('\\' :: c :: raw) (meant :: content)

/-- A quoted string.  The quote is a double, a single or a back quote. -/
inductive Quotation : List Char → String → Prop
  | mk {quote : Char} {raw content : List Char} (quotes : Scan.isQuote quote = true)
      (inside : Content quote raw content) :
      Quotation (quote :: (raw ++ [quote])) (String.ofList content)

/-! ## Numerals -/

/-- An optional sign, and whether it is a minus. -/
inductive Sign : List Char → Bool → Prop
  | none : Sign [] false
  | plus : Sign ['+'] false
  | minus : Sign ['-'] true

/-- One digit or more. -/
structure Digits (text : List Char) : Prop where
  some : text ≠ []
  digits : ∀ c ∈ text, c.isDigit = true

/-- Digits with at most one point, and the digits before and after it.  The digits on one
side of the point may be missing. -/
inductive Mantissa : List Char → List Char → List Char → Prop
  | whole {digits : List Char} (before : Digits digits) : Mantissa digits digits []
  | point {digits fraction : List Char} (before : Digits digits)
      (after : ∀ c ∈ fraction, c.isDigit = true) :
      Mantissa (digits ++ '.' :: fraction) digits fraction
  | leading {fraction : List Char} (after : Digits fraction) :
      Mantissa ('.' :: fraction) [] fraction

/-- An optional exponent, and the power of ten that it gives. -/
inductive Exponent : List Char → Int → Prop
  | none : Exponent [] 0
  | some {mark : Char} {sign digits : List Char} {negative : Bool}
      (marks : mark = 'e' ∨ mark = 'E') (signed : Sign sign negative) (power : Digits digits) :
      Exponent (mark :: (sign ++ digits))
        (if negative then -(Numeral.digitsValue digits : Int) else Numeral.digitsValue digits)

/-- A numeral and the finite double closest to what it denotes. -/
inductive Figure : List Char → Number → Prop
  | mk {sign mantissa whole fraction exponent : List Char} {negative : Bool} {shift : Int}
      {number : Number} (signed : Sign sign negative) (digits : Mantissa mantissa whole fraction)
      (power : Exponent exponent shift)
      (closest : number = Decimal.toNumber negative
        ⟨Numeral.digitsValue (whole ++ fraction), shift - fraction.length⟩)
      (finite : number.isFinite = true) : Figure (sign ++ (mantissa ++ exponent)) number

/-! ## Names -/

/-- A name. -/
inductive Name : List Char → Prop
  | mk {c : Char} {rest : List Char} (starts : startsName c = true)
      (continues : ∀ d ∈ rest, continuesName d = true) : Name (c :: rest)

/-- Names with single dots between them, and the first of them. -/
inductive Path : List Char → List Char → Prop
  | root {name : List Char} (named : Name name) : Path name name
  | member {name path root : List Char} (named : Name name) (later : Path path root) :
      Path (name ++ '.' :: path) name

/-- A keyword and its value. -/
inductive Keyword : List Char → Value → Prop
  | true : Keyword ['t', 'r', 'u', 'e'] (.bool true)
  | false : Keyword ['f', 'a', 'l', 's', 'e'] (.bool false)
  | null : Keyword ['n', 'u', 'l', 'l'] .null
  | undefined : Keyword ['u', 'n', 'd', 'e', 'f', 'i', 'n', 'e', 'd'] .undefined

/-- A path that starts with no keyword, and its first name. -/
structure Dotted (path root : List Char) : Prop where
  path : Path path root
  other : ∀ value, ¬ Keyword root value

/-- A key: a name, a quoted string, or a digit with digits and points after it. -/
inductive Key : List Char → String → Prop
  | name {text : List Char} (named : Name text) : Key text (String.ofList text)
  | quotation {text : List Char} {key : String} (quoted : Quotation text key) : Key text key
  | digits {c : Char} {rest : List Char} (digit : c.isDigit = true)
      (later : ∀ d ∈ rest, d.isDigit = true ∨ d = '.') :
      Key (c :: rest) (String.ofList (c :: rest))

/-! ## Arguments -/

/-- A text that closes the quotes and the brackets that it opens, and no others.  Any
closing bracket closes any opening one. -/
inductive Nested : List Char → Prop
  | nil : Nested []
  | plain {c : Char} {rest : List Char}
      (neither : (Scan.isQuote c || Scan.isOpening c || Scan.isClosing c) = false)
      (later : Nested rest) : Nested (c :: rest)
  | quoted {quote : Char} {raw content rest : List Char} (quotes : Scan.isQuote quote = true)
      (inside : Content quote raw content) (later : Nested rest) :
      Nested (quote :: (raw ++ quote :: rest))
  | brackets {opener closer : Char} {inside rest : List Char}
      (opens : Scan.isOpening opener = true) (inner : Nested inside)
      (closes : Scan.isClosing closer = true) (later : Nested rest) :
      Nested (opener :: (inside ++ closer :: rest))

/-! ## Values -/

variable (scope : Scope)

mutual

/-- The text of a value and the template that it denotes in a scope. -/
inductive Denotes : List Char → Template → Prop
  | string {text : List Char} {content : String} (quoted : Quotation text content) :
      Denotes text (.literal (.string content))
  | number {text : List Char} {number : Number} (figure : Figure text number) :
      Denotes text (.literal (.number number))
  | keyword {text : List Char} {value : Value} (word : Keyword text value) :
      Denotes text (.literal value)
  | reference {path root : List Char} (dotted : Dotted path root)
      (known : scope.has (String.ofList root) = true) :
      Denotes path (.lookup ⟨String.ofList path⟩)
  | word {path root : List Char} (dotted : Dotted path root)
      (unknown : scope.has (String.ofList root) = false) :
      Denotes path (.literal (.string (String.ofList path)))
  | call {path root blanks arguments : List Char} (dotted : Dotted path root)
      (blank : isBlankText blanks = true) (nested : Nested arguments) :
      Denotes (path ++ (blanks ++ '(' :: (arguments ++ [')'])))
        (.invoke ⟨String.ofList path, String.ofList (trim arguments)⟩)
  | array {body : List Char} {items : List Template} (inside : Items body items) :
      Denotes ('[' :: (body ++ [']'])) (.array items)
  /-- A later field of a key replaces the value of an earlier one, in its place. -/
  | object {body : List Char} {fields : List (String × Template)}
      (inside : Entries body fields) :
      Denotes ('{' :: (body ++ ['}'])) (.object (Fields.ofList fields))

/-- A value with blanks around it. -/
inductive Item : List Char → Template → Prop
  | mk {before text after : List Char} {value : Template} (blank : isBlankText before = true)
      (denotes : Denotes text value) (blank' : isBlankText after = true) :
      Item (before ++ (text ++ after)) value

/-- The inside of an array, and its items. -/
inductive Items : List Char → List Template → Prop
  | blank {text : List Char} (blank : isBlankText text = true) : Items text []
  | last {text : List Char} {value : Template} (item : Item text value) : Items text [value]
  | more {text rest : List Char} {value : Template} {items : List Template}
      (item : Item text value) (later : Items rest items) :
      Items (text ++ ',' :: rest) (value :: items)

/-- A key with blanks around it, a colon and a value. -/
inductive Entry : List Char → String × Template → Prop
  | mk {before text after rest : List Char} {key : String} {value : Template}
      (blank : isBlankText before = true) (denotes : Key text key)
      (blank' : isBlankText after = true) (item : Item rest value) :
      Entry (before ++ (text ++ after) ++ ':' :: rest) (key, value)

/-- The inside of an object, and the fields that it writes, repeated keys included. -/
inductive Entries : List Char → List (String × Template) → Prop
  | blank {text : List Char} (blank : isBlankText text = true) : Entries text []
  | last {text : List Char} {field : String × Template} (entry : Entry text field) :
      Entries text [field]
  | more {text rest : List Char} {field : String × Template}
      {fields : List (String × Template)} (entry : Entry text field)
      (later : Entries rest fields) : Entries (text ++ ',' :: rest) (field :: fields)

end

end Choreography.Grammar
