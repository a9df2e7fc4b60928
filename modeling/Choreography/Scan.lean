import Choreography.Text

/-!
# Scanning for quotes and brackets

Entries, colons and closing brackets are found by one scanner that knows only
whether it is inside quotes and how many brackets are open.  It never fails: a
closing bracket without an opening one leaves the depth at zero, and kinds of
brackets are not compared.  What is wrong inside an entry is left to the reader
of literals, so that a bad entry does not spoil the others.

`pieces_join` says that cutting a text at its top-level separators loses
nothing, and `findTop?_append` and `closing?_append` say the same of the two
searches.
-/

namespace Choreography

/-- What a scan has seen so far: the quote it is inside of, whether a backslash
escapes the next character there, and how many brackets are open. -/
structure Scan where
  quote : Option Char
  escaped : Bool
  depth : Nat
deriving DecidableEq, Repr

namespace Scan

/-- A scan that has seen nothing. -/
def start : Scan := ⟨none, false, 0⟩

/-- The double quote, the single quote and the back quote. -/
def isQuote (c : Char) : Bool := c == '\x22' || c == '\x27' || c == '\x60'

/-- The three opening brackets. -/
def isOpening (c : Char) : Bool := c == '(' || c == '[' || c == '{'

/-- The three closing brackets. -/
def isClosing (c : Char) : Bool := c == ')' || c == ']' || c == '}'

/-- The scan after one more character. -/
def step (scan : Scan) (c : Char) : Scan :=
  match scan.quote with
  | some quote =>
    if scan.escaped then { scan with escaped := false }
    else if c = '\\' then { scan with escaped := true }
    else if c = quote then { scan with quote := none }
    else scan
  | none =>
    if isQuote c then { scan with quote := some c }
    else if isOpening c then { scan with depth := scan.depth + 1 }
    else if isClosing c then { scan with depth := scan.depth - 1 }
    else scan

/-- The scan after a text. -/
def run (scan : Scan) (text : List Char) : Scan := text.foldl step scan

/-- Whether a character read next stands at the top level: outside quotes, and
with no bracket around it.  The brackets of an outermost pair stand at the top
level themselves. -/
def isTop (scan : Scan) (c : Char) : Bool :=
  scan.quote.isNone && !isQuote c &&
    (if isClosing c then scan.depth ≤ 1 else scan.depth == 0)

/-- The text up to the first top-level separator, and the texts between the
later ones. -/
def pieces (separator : Char) (scan : Scan) :
    List Char → List Char × List (List Char)
  | [] => ([], [])
  | c :: rest =>
    let later := pieces separator (scan.step c) rest
    if scan.isTop c && c == separator then ([], later.1 :: later.2)
    else (c :: later.1, later.2)

/-- The texts before and after the first top-level `needle`. -/
def findTop? (needle : Char) (scan : Scan) :
    List Char → Option (List Char × List Char)
  | [] => none
  | c :: rest =>
    if scan.isTop c && c == needle then some ([], rest)
    else (findTop? needle (scan.step c) rest).map fun (before, after) =>
      (c :: before, after)

/-- The text up to the closing bracket that ends the first pair of brackets, that
bracket, and the text after it.  `entered` says whether the pair has been
opened. -/
def closing? (scan : Scan) (entered : Bool) :
    List Char → Option (List Char × Char × List Char)
  | [] => none
  | c :: rest =>
    let outside := scan.quote.isNone
    if outside && isClosing c && entered && (scan.step c).depth == 0 then
      some ([], c, rest)
    else
      (closing? (scan.step c) (entered || (outside && isOpening c)) rest).map
        fun (inside, closer, after) => (c :: inside, closer, after)

/-- The byte position of the first top-level `needle`. -/
def findIndex? (needle : Char) (text : List Char) : Option Nat :=
  (findTop? needle start text).map fun (before, _) => Text.width before

/-- What is left of a text after a number of bytes. -/
def dropBytes : Nat → List Char → List Char
  | 0, text => text
  | _, [] => []
  | count + 1, c :: rest => dropBytes (count + 1 - c.utf8Size) rest
termination_by _ text => text.length

/-- The byte position of the closing bracket that ends the first pair of brackets
from the byte position `index` on. -/
def closingIndex? (text : List Char) (index : Nat) : Option Nat :=
  (closing? start false (dropBytes index text)).map fun (inside, _, _) =>
    index + Text.width inside

/-! ## Small laws -/

/-- Joining the pieces with the separator gives the text back. -/
theorem pieces_join (separator : Char) (scan : Scan) (text : List Char) :
    (pieces separator scan text).1 ++
      (pieces separator scan text).2.flatMap (separator :: ·) = text := by
  induction text generalizing scan with
  | nil => rfl
  | cons c rest ih =>
    have tail := ih (scan.step c)
    simp only [pieces]
    split
    · rename_i cut
      simp only [Bool.and_eq_true, beq_iff_eq] at cut
      obtain ⟨-, rfl⟩ := cut
      simpa using tail
    · simpa using tail

/-- A search that succeeds splits the text at the needle. -/
theorem findTop?_append {needle : Char} {scan : Scan} {text before after : List Char}
    (found : findTop? needle scan text = some (before, after)) :
    before ++ needle :: after = text := by
  induction text generalizing scan before after with
  | nil => simp [findTop?] at found
  | cons c rest ih =>
    simp only [findTop?] at found
    split at found
    · rename_i here
      simp only [Bool.and_eq_true, beq_iff_eq] at here
      simp only [Option.some.injEq, Prod.mk.injEq] at found
      simp [← found.1, ← found.2, here.2]
    · obtain ⟨⟨front, back⟩, later, split⟩ := Option.map_eq_some_iff.mp found
      simp only [Prod.mk.injEq] at split
      rw [← split.1, ← split.2, List.cons_append, ih later]

/-- The search for a closing bracket splits the text at that bracket. -/
theorem closing?_append {scan : Scan} {entered : Bool}
    {text inside after : List Char} {closer : Char}
    (found : closing? scan entered text = some (inside, closer, after)) :
    inside ++ closer :: after = text ∧ isClosing closer = true := by
  induction text generalizing scan entered inside closer after with
  | nil => simp [closing?] at found
  | cons c rest ih =>
    simp only [closing?] at found
    split at found
    · rename_i here
      simp only [Bool.and_eq_true] at here
      simp only [Option.some.injEq, Prod.mk.injEq] at found
      simp [← found.1, ← found.2.1, ← found.2.2, here.1.1.2]
    · obtain ⟨⟨front, bracket, back⟩, later, split⟩ := Option.map_eq_some_iff.mp found
      simp only [Prod.mk.injEq] at split
      obtain ⟨whole, closes⟩ := ih later
      rw [← split.1, ← split.2.1, ← split.2.2, List.cons_append, whole]
      exact ⟨rfl, closes⟩

end Scan

/-- A piece of a text with the byte position where it starts. -/
structure Segment where
  text : List Char
  offset : Nat
deriving DecidableEq, Repr

namespace Segment

/-- Whether a segment holds nothing but blanks. -/
def isBlank (segment : Segment) : Bool := Text.isBlankText segment.text

/-- Texts that follow one another with a separator between them, each with its
position. -/
def locate (separator : Char) (offset : Nat) : List (List Char) → List Segment
  | [] => []
  | piece :: rest =>
    ⟨piece, offset⟩ ::
      locate separator (offset + Text.width piece + separator.utf8Size) rest

/-- The segments between the top-level separators of a segment; there is always
at least one. -/
def splitTop (segment : Segment) (separator : Char) : List Segment :=
  let found := Scan.pieces separator Scan.start segment.text
  locate separator segment.offset (found.1 :: found.2)

/-- The inside of a segment that, but for blanks around it, is one pair of
brackets opened by a brace. -/
def unwrap? (segment : Segment) : Option Segment :=
  match Scan.closing? Scan.start false (Text.trim segment.text) with
  | some ('{' :: inside, _, []) =>
    let leading := segment.text.takeWhile Text.isBlank
    some ⟨inside, segment.offset + Text.width leading + 1⟩
  | _ => none

end Segment

end Choreography
