import Choreography.Proofs.Expression.Layout
import Choreography.Proofs.Scan.Within

/-!
# Where the reader refuses a text

Every reader takes something off the front of a text and leaves the rest, so what it leaves is
an end of what it was given (`Leaves.suffix`).  A refusal is made at such an end, and says
what is so there (`Refuses`): that a character was found or nothing was left, that quotes or
parentheses are opened and never closed, or that a text that is no number stands there.
**Every refusal of a reader is made at an end of its text** (`refused_all`), and so is
**every refusal of a whole segment** but that of a blank one (`Template.refused_of_read`).

The readers of values, fields and items are treated together, by induction on the fuel, as in
`reads_all`.  Here the fuel has to be enough, for a reader without fuel refuses a text without
naming a place.
-/

namespace Choreography

open Text

namespace Literal

variable {context : Context} {scope : Scope} {c : Char} {text rest left : List Char}
  {error : ParseError}

/-! ## What readers leave -/

/-- A reader that is given a text goes on with the rest of it. -/
inductive Leaves (context : Context) : List Char → List Char → Prop
  | blanks (text : List Char) : Leaves context text (trimStart text)
  | character (c : Char) (rest : List Char) : Leaves context (c :: rest) rest
  | string {quote : Char} {rest left : List Char} {content : String}
      (read : readString context quote rest = .ok (content, left)) :
      Leaves context (quote :: rest) left
  | number {text left : List Char} {number : Number}
      (read : readNumber context text = .ok (number, left)) : Leaves context text left
  | name {text left : List Char} {value : Template}
      (read : readName context text = .ok (value, left)) : Leaves context text left
  | key {text left : List Char} {key : String}
      (read : readKey context text = .ok (key, left)) : Leaves context text left
  | colon {text left : List Char} (read : readColon context text = .ok ((), left)) :
      Leaves context text left
  | continuation {closer : Char} {text left : List Char} {next : Continuation}
      (read : readContinuation context closer text = .ok (next, left)) :
      Leaves context text left
  | value {fuel : Nat} {text left : List Char} {value : Template}
      (read : readValue context fuel text = .ok (value, left)) : Leaves context text left
  | fields {fuel : Nat} {text left : List Char} {fields : List (String × Template)}
      (read : readFields context fuel text = .ok (fields, left)) : Leaves context text left
  | items {fuel : Nat} {text left : List Char} {items : List Template}
      (read : readItems context fuel text = .ok (items, left)) : Leaves context text left

theorem suffix_of_trimStart (seen : trimStart text = rest) : rest <:+ text :=
  seen ▸ List.dropWhile_suffix _

/-- What follows a dotted name and blanks. -/
theorem suffix_of_scanPath (seen : trimStart (scanPath text).2 = rest) : rest <:+ text :=
  (suffix_of_trimStart seen).trans ⟨_, Grammar.scanPath_append text⟩

theorem suffix_of_readString {quote : Char} {content : String}
    (read : readString context quote rest = .ok (content, left)) : left <:+ rest := by
  rw [readString] at read
  split at read
  · rename_i found
    cases read
    obtain ⟨raw, rfl, -⟩ := Grammar.exists_content found
    exact ⟨raw ++ [quote], by simp⟩
  · cases read

theorem suffix_of_readNumber {number : Number}
    (read : readNumber context text = .ok (number, left)) : left <:+ text := by
  obtain ⟨token, split, -⟩ := Grammar.exists_figure read
  exact ⟨token, split.symm⟩

theorem suffix_of_readName {value : Template}
    (read : readName context text = .ok (value, left)) : left <:+ text := by
  rw [readName] at read
  split at read
  · cases read
    exact List.dropWhile_suffix _
  · simp only at read
    split at read
    · rename_i inner opens
      split at read
      · cases read
      · rename_i inside closer after found
        split at read
        · cases read
          have after : left <:+ '(' :: inner :=
            ⟨inside ++ [closer], by simpa using (Scan.closing?_append found).1⟩
          exact after.trans (suffix_of_scanPath opens)
        · cases read
    · cases read
      exact ⟨_, Grammar.scanPath_append text⟩

theorem suffix_of_readKey {key : String} (read : readKey context text = .ok (key, left)) :
    left <:+ text := by
  obtain ⟨before, token, split, -⟩ := exists_key_front read
  exact ⟨before ++ token, by rw [split, List.append_assoc]⟩

theorem suffix_of_readColon (read : readColon context text = .ok ((), left)) :
    ':' :: left <:+ text := by
  obtain ⟨blanks, -, split⟩ := exists_blanks_of_readColon read
  exact ⟨blanks, split.symm⟩

theorem suffix_of_readContinuation {closer : Char} {next : Continuation}
    (read : readContinuation context closer text = .ok (next, left)) :
    ∃ c, c :: left <:+ text := by
  obtain ⟨blanks, c, -, split, -⟩ := exists_blanks_of_readContinuation read
  exact ⟨c, blanks, split.symm⟩

theorem suffix_of_readValue {fuel : Nat} {value : Template}
    (read : readValue context fuel text = .ok (value, left)) : left <:+ text := by
  obtain ⟨blanks, token, -, split, -⟩ := (reads_all context.scope fuel).1 read
  exact ⟨blanks ++ token, by rw [split, List.append_assoc]⟩

/-- **What a reader leaves** is an end of what it was given. -/
theorem Leaves.suffix (leaves : Leaves context text rest) : rest <:+ text := by
  cases leaves with
  | blanks => exact suffix_of_trimStart rfl
  | character c => exact List.suffix_cons c rest
  | string read => exact (suffix_of_readString read).trans (List.suffix_cons _ _)
  | number read => exact suffix_of_readNumber read
  | name read => exact suffix_of_readName read
  | key read => exact suffix_of_readKey read
  | colon read => exact (List.suffix_cons _ _).trans (suffix_of_readColon read)
  | continuation read =>
    obtain ⟨c, after⟩ := suffix_of_readContinuation read
    exact (List.suffix_cons c rest).trans after
  | value read => exact suffix_of_readValue read
  | @fields fuel _ _ _ read =>
    obtain ⟨body, split, -⟩ := (reads_all context.scope fuel).2.1 read
    exact ⟨body ++ ['}'], by rw [split, List.append_assoc]; rfl⟩
  | @items fuel _ _ _ read =>
    obtain ⟨body, split, -⟩ := (reads_all context.scope fuel).2.2 read
    exact ⟨body ++ [']'], by rw [split, List.append_assoc]; rfl⟩

/-! ## Refusals -/

/-- What a refusal says of what is left of the text when it is made. -/
inductive Refuses (context : Context) : List Char → ParseError → Prop
  | unexpected (c : Char) (rest : List Char) :
      Refuses context (c :: rest) (.unexpectedChar (context.offset (c :: rest)) c)
  | unbalanced (expected c : Char) (rest : List Char) :
      Refuses context (c :: rest)
        (.unbalancedDelimiter (context.offset (c :: rest)) expected c)
  | unterminated {quote : Char} {rest : List Char} (never : unquote? quote rest = none) :
      Refuses context (quote :: rest)
        (.unterminatedString (context.offset (quote :: rest)) quote)
  | number (token rest : List Char) :
      Refuses context (token ++ rest)
        (.invalidNumber (context.offset (token ++ rest)) (String.ofList token))
  | ended (expected : Expected) :
      Refuses context [] (.unexpectedEnd (context.offset []) expected)
  | unclosed {rest : List Char} (never : Scan.closing? Scan.start false ('(' :: rest) = none) :
      Refuses context ('(' :: rest)
        (.unexpectedEnd (context.offset ('(' :: rest)) (.character ')'))

/-- A refusal is made at an end of a text. -/
def Refused (context : Context) (text : List Char) (error : ParseError) : Prop :=
  ∃ left, left <:+ text ∧ Refuses context left error

theorem Refuses.refused (refuses : Refuses context text error) : Refused context text error :=
  ⟨text, List.suffix_refl text, refuses⟩

theorem Refused.of_suffix (left : rest <:+ text) (refused : Refused context rest error) :
    Refused context text error := by
  obtain ⟨end_, within, refuses⟩ := refused
  exact ⟨end_, within.trans left, refuses⟩

/-- A refusal of what `trimStart` leaves is one of the text. -/
theorem Refuses.of_trimStart (left : trimStart text = rest) (refuses : Refuses context rest error) :
    Refused context text error :=
  ⟨rest, suffix_of_trimStart left, refuses⟩

theorem exists_of_bind_error {ε α β : Type} {first : Except ε α} {next : α → Except ε β}
    {error : ε} (failed : (first >>= next) = .error error) :
    first = .error error ∨ ∃ a, first = .ok a ∧ next a = .error error := by
  cases first with
  | error => exact .inl (congrArg Except.error (Except.error.inj failed))
  | ok a => exact .inr ⟨a, rfl, failed⟩

theorem refused_of_readString {quote : Char}
    (failed : readString context quote rest = .error error) :
    Refused context (quote :: rest) error := by
  rw [readString] at failed
  split at failed
  · cases failed
  · rename_i never
    cases failed
    exact (Refuses.unterminated never).refused

theorem refused_of_readNumber (failed : readNumber context text = .error error) :
    Refused context text error := by
  have whole := Numeral.scan_append text
  simp only [readNumber] at failed
  split at failed
  · cases failed
  · cases failed
    have refuses : Refuses context _ _ := .number (Numeral.scan text).1 (Numeral.scan text).2
    rw [whole] at refuses
    exact refuses.refused

theorem refused_of_readName (failed : readName context text = .error error) :
    Refused context text error := by
  rw [readName] at failed
  split at failed
  · cases failed
  · simp only at failed
    split at failed
    · rename_i inner opens
      refine Refused.of_suffix (suffix_of_scanPath opens) ?_
      split at failed
      · rename_i never
        cases failed
        exact (Refuses.unclosed never).refused
      · rename_i inside closer after found
        split at failed
        · cases failed
        · cases failed
          exact ⟨_, ⟨inside, (Scan.closing?_append found).1⟩, .unbalanced ')' closer after⟩
    · cases failed

theorem refused_of_readKey (failed : readKey context text = .error error) :
    Refused context text error := by
  rw [readKey] at failed
  split at failed
  · rename_i nothing
    cases failed
    exact (Refuses.ended .key).of_trimStart nothing
  · rename_i c rest seen
    split at failed
    · exact .of_suffix (suffix_of_trimStart seen) (refused_of_readString failed)
    · split at failed
      · cases failed
      · split at failed
        · cases failed
        · cases failed
          exact (Refuses.unexpected c rest).of_trimStart seen

theorem refused_of_readColon (failed : readColon context text = .error error) :
    Refused context text error := by
  rw [readColon] at failed
  split at failed
  · rename_i nothing
    cases failed
    exact (Refuses.ended _).of_trimStart nothing
  · rename_i c rest seen
    split at failed
    · cases failed
    · cases failed
      exact (Refuses.unexpected c rest).of_trimStart seen

theorem refused_of_readContinuation {closer : Char}
    (failed : readContinuation context closer text = .error error) :
    Refused context text error := by
  rw [readContinuation] at failed
  split at failed
  · rename_i nothing
    cases failed
    exact (Refuses.ended _).of_trimStart nothing
  · rename_i c rest seen
    split at failed
    · cases failed
    · split at failed
      · cases failed
      · split at failed
        · cases failed
          exact (Refuses.unbalanced closer c rest).of_trimStart seen
        · cases failed
          exact (Refuses.unexpected c rest).of_trimStart seen

/-! ## Values -/

/-- With one amount of fuel, if it is enough for a text, a value is refused at an end of the
text.  Each step of a reader takes one unit, and no two steps one after the other take no
character. -/
def RefusesValues (context : Context) (fuel : Nat) : Prop :=
  ∀ {text : List Char} {error : ParseError}, 2 * text.length < fuel →
    readValue context fuel text = .error error → Refused context text error

/-- The same for the insides of objects, which begin with a step that takes no character. -/
def RefusesFields (context : Context) (fuel : Nat) : Prop :=
  ∀ {text : List Char} {error : ParseError}, 2 * text.length + 1 < fuel →
    readFields context fuel text = .error error → Refused context text error

/-- The same for the insides of arrays. -/
def RefusesItems (context : Context) (fuel : Nat) : Prop :=
  ∀ {text : List Char} {error : ParseError}, 2 * text.length + 1 < fuel →
    readItems context fuel text = .error error → Refused context text error

theorem refusesFields_succ {fuel : Nat} (values : RefusesValues context fuel)
    (fields : RefusesFields context fuel) : RefusesFields context (fuel + 1) := by
  intro text error enough failed
  rw [readFields] at failed
  split at failed
  · rename_i nothing
    cases failed
    exact (Refuses.ended _).of_trimStart nothing
  · cases failed
  · -- what has been read before the refusal is left out of the text
    rcases exists_of_bind_error failed with failed | ⟨⟨key, afterKey⟩, read, failed⟩
    · exact refused_of_readKey failed
    have left := suffix_of_readKey read
    refine Refused.of_suffix left ?_
    rcases exists_of_bind_error failed with failed | ⟨⟨⟨⟩, afterColon⟩, read, failed⟩
    · exact refused_of_readColon failed
    -- the colon was taken off, so the fuel is enough for all that follows
    have left' := suffix_of_readColon read
    have shorter := (left'.trans left).length_le
    rw [List.length_cons] at shorter
    refine Refused.of_suffix ((List.suffix_cons _ _).trans left') ?_
    rcases exists_of_bind_error failed with failed | ⟨⟨value, afterValue⟩, read, failed⟩
    · exact values (by omega) failed
    have left'' := suffix_of_readValue read
    refine Refused.of_suffix left'' ?_
    rcases exists_of_bind_error failed with failed | ⟨⟨next, others⟩, read, failed⟩
    · exact refused_of_readContinuation failed
    cases next with
    | done => cases failed
    | more =>
      obtain ⟨comma, after⟩ := suffix_of_readContinuation read
      have fewer := (after.trans left'').length_le
      rw [List.length_cons] at fewer
      refine Refused.of_suffix ((List.suffix_cons _ _).trans after) ?_
      rcases exists_of_bind_error failed with failed | ⟨⟨later, _⟩, -, failed⟩
      · exact fields (by omega) failed
      · cases failed

theorem refusesItems_succ {fuel : Nat} (values : RefusesValues context fuel)
    (items : RefusesItems context fuel) : RefusesItems context (fuel + 1) := by
  intro text error enough failed
  rw [readItems] at failed
  split at failed
  · rename_i nothing
    cases failed
    exact (Refuses.ended _).of_trimStart nothing
  · cases failed
  · rcases exists_of_bind_error failed with failed | ⟨⟨value, afterValue⟩, read, failed⟩
    · exact values (by omega) failed
    have left := suffix_of_readValue read
    refine Refused.of_suffix left ?_
    rcases exists_of_bind_error failed with failed | ⟨⟨next, others⟩, read, failed⟩
    · exact refused_of_readContinuation failed
    cases next with
    | done => cases failed
    | more =>
      -- the item was read from the whole text, and the comma makes what is left shorter
      obtain ⟨comma, after⟩ := suffix_of_readContinuation read
      have fewer := (after.trans left).length_le
      rw [List.length_cons] at fewer
      refine Refused.of_suffix ((List.suffix_cons _ _).trans after) ?_
      rcases exists_of_bind_error failed with failed | ⟨⟨later, _⟩, -, failed⟩
      · exact items (by omega) failed
      · cases failed

theorem refusesValues_succ {fuel : Nat} (fields : RefusesFields context fuel)
    (items : RefusesItems context fuel) : RefusesValues context (fuel + 1) := by
  intro text error enough failed
  rw [readValue] at failed
  split at failed
  · rename_i nothing
    cases failed
    exact (Refuses.ended _).of_trimStart nothing
  · rename_i c rest seen
    have visible := suffix_of_trimStart seen
    have shorter := visible.length_le
    rw [List.length_cons] at shorter
    refine Refused.of_suffix visible ?_
    split at failed
    · -- an opening brace or bracket is taken off, so the fuel is enough for the inside
      rcases exists_of_bind_error failed with failed | ⟨⟨written, _⟩, -, failed⟩
      · exact .of_suffix (List.suffix_cons c rest) (fields (by omega) failed)
      · cases failed
    · split at failed
      · rcases exists_of_bind_error failed with failed | ⟨⟨written, _⟩, -, failed⟩
        · exact .of_suffix (List.suffix_cons c rest) (items (by omega) failed)
        · cases failed
      · split at failed
        · rcases exists_of_bind_error failed with failed | ⟨⟨content, _⟩, -, failed⟩
          · exact refused_of_readString failed
          · cases failed
        · split at failed
          · rcases exists_of_bind_error failed with failed | ⟨⟨number, _⟩, -, failed⟩
            · exact refused_of_readNumber failed
            · cases failed
          · split at failed
            · exact refused_of_readName failed
            · cases failed
              exact (Refuses.unexpected c rest).refused

/-- **With enough fuel, whatever is refused is refused at an end of its text.** -/
theorem refused_all (context : Context) (fuel : Nat) :
    RefusesValues context fuel ∧ RefusesFields context fuel ∧ RefusesItems context fuel := by
  induction fuel with
  | zero =>
    -- no text is so short that no fuel is enough
    refine ⟨?_, ?_, ?_⟩
    all_goals
      intro text error enough
      omega
  | succ fuel ih =>
    obtain ⟨values, fields, items⟩ := ih
    exact ⟨refusesValues_succ fields items, refusesFields_succ values fields,
      refusesItems_succ values items⟩

end Literal

/-! ## Whole segments -/

open Literal

/-- **A segment that is not read** is blank, or it is refused at an end of it. -/
theorem Template.refused_of_read {scope : Scope} {segment : Segment} {error : ParseError}
    (failed : Template.read scope segment = .error error) :
    (segment.isBlank = true ∧ error = .emptyEntry) ∨
      Refused ⟨scope, segment.stop⟩ segment.text error := by
  rw [Template.read] at failed
  split at failed
  · rename_i nothing
    cases failed
    exact .inl ⟨trimStart_eq_nil_iff.mp nothing, rfl⟩
  · refine .inr (.of_suffix (suffix_of_trimStart rfl) ?_)
    rcases exists_of_bind_error failed with failed | ⟨⟨value, left⟩, read, failed⟩
    · exact (refused_all _ _).1 (Nat.lt_add_of_pos_right (by decide)) failed
    · refine .of_suffix (suffix_of_readValue read) ?_
      simp only at failed
      split at failed
      · cases failed
      · rename_i c rest seen
        cases failed
        exact (Refuses.unexpected c rest).of_trimStart seen

end Choreography
