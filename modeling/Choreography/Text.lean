/-!
# Text

Directive text is handled as a list of characters.  Places in it are counted in
UTF-8 bytes, so every piece cut out of a text carries the byte position where
it starts.  Blank space is the Unicode property `White_Space`.
-/

namespace Choreography.Text

/-- The first and last code points of each run of characters with the Unicode
property `White_Space`. -/
def blankRanges : List (Nat × Nat) :=
  [(0x9, 0xD), (0x20, 0x20), (0x85, 0x85), (0xA0, 0xA0), (0x1680, 0x1680),
    (0x2000, 0x200A), (0x2028, 0x2029), (0x202F, 0x202F), (0x205F, 0x205F),
    (0x3000, 0x3000)]

/-- Whether a character has the Unicode property `White_Space`. -/
def isBlank (c : Char) : Bool :=
  blankRanges.any fun (first, last) => first ≤ c.toNat && c.toNat ≤ last

/-- The number of UTF-8 bytes of a text. -/
def width : List Char → Nat
  | [] => 0
  | c :: rest => c.utf8Size + width rest

/-- The text without its leading blanks. -/
def trimStart (text : List Char) : List Char :=
  text.dropWhile isBlank

/-- The text without its trailing blanks. -/
def trimEnd (text : List Char) : List Char :=
  (text.reverse.dropWhile isBlank).reverse

/-- The text without its leading and trailing blanks. -/
def trim (text : List Char) : List Char :=
  trimEnd (trimStart text)

/-- Whether a text holds nothing but blanks. -/
def isBlankText (text : List Char) : Bool :=
  text.all isBlank

/-- The pieces of a text between its dots. -/
def splitDots (text : List Char) : List (List Char) :=
  text.splitOnP (· == '.')

/-- Whether a text is empty or blank, for strings. -/
def isBlankString (text : String) : Bool :=
  isBlankText text.toList

/-- The lower-case form of the ASCII letters of a text; other characters stay. -/
def lowerAscii (text : String) : String :=
  String.ofList (text.toList.map Char.toLower)

/-! ## Small laws -/

@[simp] theorem width_nil : width [] = 0 := rfl

@[simp] theorem width_cons (c : Char) (rest : List Char) :
    width (c :: rest) = c.utf8Size + width rest := rfl

@[simp] theorem width_append (before after : List Char) :
    width (before ++ after) = width before + width after := by
  induction before with
  | nil => simp
  | cons c rest ih => simp [ih, Nat.add_assoc]

/-- Every character that core counts as white space is blank. -/
theorem isBlank_of_isWhitespace {c : Char} (h : c.isWhitespace = true) :
    isBlank c = true := by
  simp only [Char.isWhitespace, Bool.or_eq_true, decide_eq_true_eq] at h
  rcases h with ((rfl | rfl) | rfl) | rfl <;> decide

/-- A text is its leading blanks followed by what `trimStart` keeps. -/
theorem takeWhile_append_trimStart (text : List Char) :
    text.takeWhile isBlank ++ trimStart text = text :=
  List.takeWhile_append_dropWhile

/-- A blank text has nothing left after `trimStart`, and no other has. -/
theorem trimStart_eq_nil_iff {text : List Char} :
    trimStart text = [] ↔ isBlankText text = true := by
  induction text with
  | nil => simp [trimStart, isBlankText]
  | cons c rest ih =>
    simp only [trimStart, isBlankText, List.dropWhile_cons, List.all_cons,
      Bool.and_eq_true] at ih ⊢
    by_cases blank : isBlank c = true <;> simp [blank, ih]

end Choreography.Text
