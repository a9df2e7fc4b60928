import Choreography.Proofs.Literal.Grammar
import Choreography.Proofs.Scan.Balance
import Choreography.Proofs.Text.Blanks

/-!
# Tokens

A token is read from its own characters alone.  What is read at the front of a text is a
token of the grammar, and a token of the grammar is read in front of any text in which no
token goes on (`EndsToken`); a quoted string is read in front of any text at all
(`exists_content`, `Content.unquote?_eq`).  Tokens are solid texts, so the scanner passes over
them too.
-/

namespace Choreography

open Text

variable {c : Char} {text rest after : List Char}

namespace Literal

/-! ## Where tokens end -/

/-- A character that a name, a path or a number can go on with. -/
def goesOn (c : Char) : Bool := continuesName c || startsNumber c

/-- The first character of a text, if there is one, is not of a kind. -/
def Avoids (kind : Char → Bool) (text : List Char) : Prop :=
  ∀ c, text.head? = some c → kind c = false

/-- No token goes on in a text. -/
def EndsToken (text : List Char) : Prop := Avoids goesOn text

/-- What may stand after a value: blanks, and then nothing, a comma or the bracket that
closes an object or an array. -/
def Boundary (text : List Char) : Prop :=
  ∀ c, (trimStart text).head? = some c → c = ',' ∨ c = '}' ∨ c = ']'

theorem Avoids.nil {kind : Char → Bool} : Avoids kind [] := nofun

theorem Avoids.cons {kind : Char → Bool} (not : kind c = false) : Avoids kind (c :: rest) := by
  intro d head
  cases head
  exact not

theorem Avoids.append {kind : Char → Bool} {first second : List Char}
    (early : Avoids kind first) (late : Avoids kind second) : Avoids kind (first ++ second) := by
  cases first with
  | nil => exact late
  | cons d rest => exact .cons (early d rfl)

theorem Avoids.mono {narrow wide : Char → Bool} (within : ∀ c, narrow c = true → wide c = true)
    (avoids : Avoids wide text) : Avoids narrow text := by
  intro c head
  cases kind : narrow c with
  | false => rfl
  | true =>
    have both := avoids c head
    rw [within c kind] at both
    cases both

theorem Avoids.takeWhile {kind : Char → Bool} (avoids : Avoids kind text) :
    text.takeWhile kind = [] := by
  cases text with
  | nil => rfl
  | cons c rest => simp [avoids c rfl]

theorem Avoids.dropWhile {kind : Char → Bool} (avoids : Avoids kind text) :
    text.dropWhile kind = text := by
  cases text with
  | nil => rfl
  | cons c rest => simp [avoids c rfl]

theorem isAlpha_iff (c : Char) : c.isAlpha = true ↔
    ('A'.val ≤ c.val ∧ c.val ≤ 'Z'.val) ∨ ('a'.val ≤ c.val ∧ c.val ≤ 'z'.val) := by
  show (decide ('A'.val ≤ c.val ∧ c.val ≤ 'Z'.val) ||
    (decide ('a'.val ≤ c.val) && decide (c.val ≤ 'z'.val))) = true ↔ _
  simp

/-- The characters of tokens are all in the ASCII range from the dollar sign to `z`. -/
theorem toNat_of_goesOn (on : goesOn c = true) : 0x24 ≤ c.toNat ∧ c.toNat ≤ 0x7A := by
  simp only [goesOn, continuesName, startsNumber, Char.isAlphanum, isAlpha_iff, Char.isDigit,
    Bool.or_eq_true, Bool.and_eq_true, decide_eq_true_eq, beq_iff_eq,
    UInt32.le_iff_toNat_le] at on
  rcases on with ((((on | on) | on) | rfl) | rfl) | ((on | rfl) | rfl) | rfl
  all_goals first
    | exact ⟨Nat.le_trans (by decide) on.1, Nat.le_trans on.2 (by decide)⟩
    | decide

theorem isBlank_of_goesOn (on : goesOn c = true) : isBlank c = false := by
  obtain ⟨low, high⟩ := toNat_of_goesOn on
  simp only [isBlank, blankRanges, List.any_cons, List.any_nil, Bool.or_false,
    Bool.or_eq_false_iff, Bool.and_eq_false_iff, decide_eq_false_iff_not]
  omega

theorem goesOn_of_isBlank (blank : isBlank c = true) : goesOn c = false := by
  cases on : goesOn c with
  | false => rfl
  | true =>
    rw [isBlank_of_goesOn on] at blank
    cases blank

/-- The quotes, the brackets and the separators. -/
def scanned : List Char :=
  ['\x22', '\x27', '\x60', '(', '[', '{', ')', ']', '}', ',', ':']

theorem isPlain_of_not_scanned (other : c ∉ scanned) :
    Scan.isPlain c = true ∧ Scan.isSeparator c = false := by
  simp only [scanned, List.mem_cons, List.not_mem_nil, or_false, not_or] at other
  simp [Scan.isPlain, Scan.isQuote, Scan.isOpening, Scan.isClosing, Scan.isSeparator, other]

/-- A text of characters of a kind that none of the scanned characters is of is solid. -/
theorem solid_of_kind {kind : Char → Bool} (none_ : scanned.any kind = false)
    (is : ∀ c ∈ text, kind c = true) : Scan.Solid text := by
  refine Scan.solid_plain fun c here => isPlain_of_not_scanned fun scans => ?_
  have some_ : scanned.any kind = true := List.any_eq_true.mpr ⟨c, scans, is c here⟩
  rw [none_] at some_
  cases some_

theorem solid_of_goesOn (on : ∀ c ∈ text, goesOn c = true) : Scan.Solid text :=
  solid_of_kind rfl on

theorem ne_of_goesOn (on : goesOn c = true) (d : Char) (not : goesOn d = false) : c ≠ d := by
  rintro rfl
  rw [on] at not
  cases not

theorem isQuote_of_goesOn (on : goesOn c = true) : Scan.isQuote c = false := by
  cases quotes : Scan.isQuote c with
  | false => rfl
  | true =>
    simp only [Scan.isQuote, Bool.or_eq_true, beq_iff_eq] at quotes
    rcases quotes with (rfl | rfl) | rfl <;> cases on

theorem solid_of_isBlankText (blank : isBlankText text = true) : Scan.Solid text :=
  solid_of_kind rfl (List.all_eq_true.mp blank)

theorem endsToken_append {blanks : List Char} (blank : isBlankText blanks = true)
    (not : goesOn c = false) : EndsToken (blanks ++ c :: rest) := by
  refine Avoids.append ?_ (.cons not)
  intro d head
  exact goesOn_of_isBlank (List.all_eq_true.mp blank d (List.mem_of_head? head))

theorem boundary_of_isBlankText (blank : isBlankText text = true) : Boundary text := by
  intro c head
  rw [trimStart_eq_nil_iff.mpr blank] at head
  cases head

theorem boundary_append {blanks : List Char} (blank : isBlankText blanks = true)
    (closes : c = ',' ∨ c = '}' ∨ c = ']') (rest : List Char) :
    Boundary (blanks ++ c :: rest) := by
  have visible : isBlank c = false := by
    rcases closes with rfl | rfl | rfl <;> rfl
  intro d head
  rw [trimStart_append blank, trimStart_cons visible] at head
  cases head
  exact closes

theorem Boundary.endsToken (boundary : Boundary text) : EndsToken text := by
  intro c head
  obtain ⟨rest, rfl⟩ := List.head?_eq_some_iff.mp head
  cases blank : isBlank c with
  | true => exact goesOn_of_isBlank blank
  | false =>
    rw [Boundary, trimStart_cons blank] at boundary
    rcases boundary c rfl with rfl | rfl | rfl <;> rfl

/-! ## Characters of numerals -/

/-- A sign. -/
def isSign (c : Char) : Bool := c == '-' || c == '+'

/-- The mark of an exponent. -/
def isExponentMark (c : Char) : Bool := c == 'e' || c == 'E'

theorem isSign_of_isDigit (c : Char) (digit : c.isDigit = true) : isSign c = false := by
  cases signed : isSign c with
  | false => rfl
  | true =>
    simp only [isSign, Bool.or_eq_true, beq_iff_eq] at signed
    rcases signed with rfl | rfl <;> cases digit

theorem goesOn_of_isDigit (c : Char) (digit : c.isDigit = true) : goesOn c = true := by
  simp [goesOn, startsNumber, digit]

theorem goesOn_of_isExponentMark (c : Char) (mark : isExponentMark c = true) :
    goesOn c = true := by
  simp only [isExponentMark, Bool.or_eq_true, beq_iff_eq] at mark
  rcases mark with rfl | rfl <;> rfl

theorem goesOn_of_point (c : Char) (point : (c == '.') = true) : goesOn c = true := by
  rw [beq_iff_eq] at point
  subst point
  rfl

end Literal

namespace Grammar

open Literal

/-! ## Quoted strings -/

theorem Escape.unescape_eq {c meant : Char} (escape : Escape c meant) : unescape c = meant := by
  cases escape with
  | newline => rfl
  | tab => rfl
  | carriageReturn => rfl
  | itself other =>
    simp only [List.mem_cons, List.not_mem_nil, or_false, not_or] at other
    simp [unescape, other]

theorem escape_unescape (c : Char) : Escape c (unescape c) := by
  by_cases special : c ∈ ['n', 't', 'r']
  · simp only [List.mem_cons, List.not_mem_nil, or_false] at special
    rcases special with rfl | rfl | rfl
    · exact .newline
    · exact .tab
    · exact .carriageReturn
  · have same : unescape c = c := (Escape.itself special).unescape_eq
    rw [same]
    exact .itself special

theorem unquote?_quote (quote : Char) (rest : List Char) :
    unquote? quote (quote :: rest) = some ([], rest) := by
  cases rest <;> rw [unquote?, if_pos rfl]

theorem unquote?_escape {quote : Char} (slash : ¬ '\\' = quote) (c : Char) (rest : List Char) :
    unquote? quote ('\\' :: c :: rest) =
      (unquote? quote rest).map fun (content, rest) => (unescape c :: content, rest) := by
  rw [unquote?, if_neg slash, if_pos rfl]

theorem unquote?_cons {quote : Char} (other : ¬c = quote) (slash : ¬c = '\\')
    (rest : List Char) :
    unquote? quote (c :: rest) =
      (unquote? quote rest).map fun (content, rest) => (c :: content, rest) := by
  cases rest <;> simp only [unquote?, if_neg other, if_neg slash]

/-- **What is read as a string** is the content of a text up to its closing quote. -/
theorem exists_content {quote : Char} {content : List Char}
    (read : unquote? quote text = some (content, rest)) :
    ∃ raw, text = raw ++ quote :: rest ∧ Content quote raw content := by
  -- as the reader goes: the end, the quote, a backslash at the end, an escape, any other one
  induction text using unquote?.induct quote generalizing content with
  | case1 => cases read
  | case2 left =>
    rw [unquote?_quote] at read
    cases read
    exact ⟨[], rfl, .nil⟩
  | case3 slash =>
    rw [unquote?, if_neg slash, if_pos rfl] at read
    cases read
  | case4 escaped left slash ih =>
    rw [unquote?_escape slash] at read
    obtain ⟨⟨inside, _⟩, later, same⟩ := Option.map_eq_some_iff.mp read
    cases same
    obtain ⟨raw, rfl, denotes⟩ := ih later
    exact ⟨'\\' :: escaped :: raw, rfl, .escaped (escape_unescape escaped) denotes⟩
  | case5 c left other slash ih =>
    rw [unquote?_cons other slash] at read
    obtain ⟨⟨inside, _⟩, later, same⟩ := Option.map_eq_some_iff.mp read
    cases same
    obtain ⟨raw, rfl, denotes⟩ := ih later
    exact ⟨c :: raw, rfl, .plain other slash denotes⟩

namespace Content

variable {quote : Char} {raw content : List Char}

/-- **The content of a text** is read from it up to the closing quote, whatever stands after
that. -/
theorem unquote?_eq (inside : Content quote raw content) (slash : quote ≠ '\\')
    (after : List Char) : unquote? quote (raw ++ quote :: after) = some (content, after) := by
  induction inside with
  | nil => exact unquote?_quote quote after
  | plain other plain _ ih =>
    rw [List.cons_append, unquote?_cons other plain, ih]
    rfl
  | escaped escape _ ih =>
    rw [List.cons_append, List.cons_append, unquote?_escape slash.symm, ih, Option.map_some,
      escape.unescape_eq]

/-- A scan between the quotes stays between them. -/
theorem quoted (inside : Content quote raw content) : Scan.Quoted quote raw := by
  induction inside with
  | nil => exact .nil
  | plain other slash _ ih => exact .cons slash other ih
  | escaped _ _ ih => exact .escape _ ih

end Content

theorem slash_of_isQuote {quote : Char} (quotes : Scan.isQuote quote = true) :
    quote ≠ '\\' := by
  rintro rfl
  cases quotes

end Grammar

end Choreography
