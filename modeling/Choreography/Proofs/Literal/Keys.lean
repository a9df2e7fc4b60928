import Choreography.Literal.Key
import Choreography.Proofs.Literal.Names

/-!
# Keys

A key stands before a colon in two places.  Inside an object the reader takes it off the front
of what is left of the text; at the top level of an expression it is all of the text before the
colon, and read by itself.  **A key of the grammar is read the same in both places**
(`Literal.KeyToken`, `Grammar.Key.keyToken`), whatever follows it at the front of a text, and
**the reader reads nothing else as a key** (`exists_key_front`).

The whole text before a colon is accepted in one more case: digits and points that start with
a point, as in `.5` or a lone point.  The reader refuses these, so **the two places agree but
for them** (`Key.read_eq_ok_iff_readKey`, `Key.read_lone_point`).
-/

namespace Choreography

open Text Literal

variable {c : Char} {text rest : List Char} {key : String}

namespace Literal

/-- How a key and its name are read, at the front of a text and as a whole text. -/
structure KeyToken (token : List Char) (key : String) : Prop where
  solid : Scan.Solid token
  first : ∃ c rest, token = c :: rest ∧ isBlank c = false ∧ c ≠ '{' ∧ c ≠ '}'
  denotes : ∀ {before after : List Char}, isBlankText before = true →
    isBlankText after = true → Key.read (before ++ (token ++ after)) = .ok key
  reads : ∀ (context : Context) {before after : List Char}, isBlankText before = true →
    EndsToken after → readKey context (before ++ (token ++ after)) = .ok (key, after)

/-- What the text before a colon and the key that it denotes have to do with each
other. -/
structure KeyText (text : List Char) (key : String) : Prop where
  solid : Scan.Solid text
  starts : ∃ c, (trimStart text).head? = some c ∧ c ≠ '{' ∧ c ≠ '}'
  denotes : Key.read text = .ok key
  reads : ∀ (context : Context) (after : List Char), ∃ left,
    readKey context (text ++ ':' :: after) = .ok (key, left) ∧
      readColon context left = .ok ((), after)

/-! ## Colons -/

theorem readColon_append {blanks : List Char} (blank : isBlankText blanks = true)
    (context : Context) (rest : List Char) :
    readColon context (blanks ++ ':' :: rest) = .ok ((), rest) := by
  rw [readColon, trimStart_append blank, trimStart_cons rfl]
  rfl

/-- Before a colon there are only blanks. -/
theorem exists_blanks_of_readColon {context : Context}
    (read : readColon context text = .ok ((), rest)) :
    ∃ blanks, isBlankText blanks = true ∧ text = blanks ++ ':' :: rest := by
  obtain ⟨blanks, blank, split⟩ := exists_blanks text
  rw [readColon] at read
  split at read
  · cases read
  · rename_i c left seen
    split at read
    · rename_i colon
      cases read
      rw [seen, colon] at split
      exact ⟨blanks, blank, split⟩
    · cases read

/-- A key with blanks around it is the text before a colon. -/
theorem KeyToken.keyText (token : KeyToken text key) {before blanks : List Char}
    (blank : isBlankText before = true) (blank' : isBlankText blanks = true) :
    KeyText (before ++ (text ++ blanks)) key := by
  refine ⟨?_, ?_, token.denotes blank blank', ?_⟩
  · exact (solid_of_isBlankText blank).append
      (token.solid.append (solid_of_isBlankText blank'))
  · obtain ⟨c, rest, rfl, visible, others⟩ := token.first
    refine ⟨c, ?_, others⟩
    rw [trimStart_append blank, List.cons_append, trimStart_cons visible]
    rfl
  · intro context after
    refine ⟨blanks ++ ':' :: after, ?_, readColon_append blank' context after⟩
    have read := token.reads context blank
      (endsToken_append blank' rfl : EndsToken (blanks ++ ':' :: after))
    simpa using read

/-! ## Kinds of keys -/

theorem keyToken_quoted (quoted : Grammar.Quotation text key) : KeyToken text key := by
  cases quoted with
  | @mk quote raw content quotes inside =>
    have slash := Grammar.slash_of_isQuote quotes
    have kinds : isBlank quote = false ∧ quote ≠ '{' ∧ quote ≠ '}' := by
      simp only [Scan.isQuote, Bool.or_eq_true, beq_iff_eq] at quotes
      rcases quotes with (rfl | rfl) | rfl <;> decide
    refine ⟨Scan.solid_quoted quotes inside.quoted, ⟨quote, _, rfl, kinds⟩, ?_, ?_⟩
    · intro before after blank blank'
      have trimmed : trim (before ++ (quote :: (raw ++ [quote]) ++ after)) =
          quote :: (raw ++ [quote]) :=
        trim_between blank blank' rfl kinds.1 (List.getLast?_concat (l := quote :: raw)) kinds.1
      rw [Key.read, Key.read?, trimmed]
      simp only [quotes, if_true, inside.unquote?_eq slash []]
    · intro context before after blank ends
      have shape : before ++ (quote :: (raw ++ [quote]) ++ after) =
          before ++ quote :: (raw ++ quote :: after) := by simp
      rw [shape, readKey, trimStart_append blank, trimStart_cons kinds.1]
      simp only [quotes, if_true, readString, inside.unquote?_eq slash]

/-- A key that is read as the run of the characters of a kind at the front of a text. -/
theorem keyToken_run {kind : Char → Bool} (within : ∀ d, kind d = true → goesOn d = true)
    {word : List Char} (is : ∀ d ∈ c :: word, kind d = true)
    (shape : (isName (c :: word) || Key.isPlainNumber (c :: word)) = true)
    (reads : ∀ (context : Context) {before : List Char} (rest : List Char),
      isBlankText before = true → readKey context (before ++ c :: rest) =
        .ok (String.ofList ((c :: rest).takeWhile kind), (c :: rest).dropWhile kind)) :
    KeyToken (c :: word) (String.ofList (c :: word)) := by
  have on : ∀ d ∈ c :: word, goesOn d = true := fun d here => within d (is d here)
  have first := on c List.mem_cons_self
  have visible := isBlank_of_goesOn first
  have other := ne_of_goesOn first
  refine ⟨solid_of_goesOn on, ⟨c, word, rfl, visible, other '{' rfl, other '}' rfl⟩, ?_, ?_⟩
  · intro before after blank blank'
    obtain ⟨last, ends⟩ : ∃ last, (c :: word).getLast? = some last :=
      ⟨_, List.getLast?_eq_some_getLast (List.cons_ne_nil c word)⟩
    have trimmed : trim (before ++ (c :: word ++ after)) = c :: word :=
      trim_between blank blank' rfl visible ends
        (isBlank_of_goesOn (on last (List.mem_of_getLast? ends)))
    rw [Key.read, Key.read?, trimmed]
    simp only [isQuote_of_goesOn first, Bool.false_eq_true, if_false, shape, if_true]
  · intro context before after blank ends
    obtain ⟨front, left⟩ := takeWhile_append_of_endsToken within is ends
    rw [List.cons_append, reads context _ blank, ← List.cons_append, front, left]

/-- The characters that a key goes on with after a digit. -/
def inNumericKey (c : Char) : Bool := c.isDigit || c == '.'

theorem goesOn_of_inNumericKey (c : Char) (inKey : inNumericKey c = true) : goesOn c = true := by
  rcases Bool.or_eq_true_iff.mp inKey with digit | point
  · exact goesOn_of_isDigit c digit
  · exact goesOn_of_point c point

end Literal

/-! ## Keys of the grammar -/

/-- **A key** is read the same at the front of a text and as a whole text. -/
theorem Grammar.Key.keyToken (denotes : Key text key) : KeyToken text key := by
  cases denotes with
  | name named =>
    have is := named.continues
    have shape := named.isName
    cases named with
    | @mk c word starts continues =>
      refine keyToken_run goesOn_of_continuesName is (by simp [shape]) ?_
      intro context before rest blank
      have first := goesOn_of_continuesName c (continuesName_of_startsName starts)
      rw [readKey, trimStart_append blank, trimStart_cons (isBlank_of_goesOn first)]
      simp only [isQuote_of_goesOn first, starts, if_true, Bool.false_eq_true, if_false]
  | quotation quoted => exact keyToken_quoted quoted
  | @digits c word digit later =>
    have is : ∀ d ∈ c :: word, inNumericKey d = true := by
      intro d here
      rcases List.mem_cons.mp here with rfl | here
      · simp [inNumericKey, digit]
      · simpa [inNumericKey] using later d here
    refine keyToken_run goesOn_of_inNumericKey is ?_ ?_
    · have points : Key.isPlainNumber (c :: word) = true := List.all_eq_true.mpr is
      rw [points, Bool.or_true]
    · intro context before rest blank
      have first := goesOn_of_isDigit c digit
      have noName : startsName c = false := by
        cases starts : startsName c with
        | false => rfl
        | true =>
          have other := startsNumber_of_startsName starts
          simp [startsNumber, digit] at other
      rw [readKey, trimStart_append blank, trimStart_cons (isBlank_of_goesOn first)]
      simp only [isQuote_of_goesOn first, noName, digit, if_true, Bool.false_eq_true, if_false]
      rfl

/-! ## What is read as a key -/

/-- **What is read as a key** at the front of a text is a key with blanks before it. -/
theorem exists_key_front {context : Context} (read : readKey context text = .ok (key, rest)) :
    ∃ before token, text = before ++ (token ++ rest) ∧ isBlankText before = true ∧
      Grammar.Key token key := by
  obtain ⟨before, blank, split⟩ := exists_blanks text
  rw [readKey] at read
  split at read
  · cases read
  · rename_i c inner seen
    rw [seen] at split
    split at read
    · -- a quotation
      rename_i quotes
      simp only [readString] at read
      split at read
      · rename_i content _ found
        cases read
        obtain ⟨raw, rfl, inside⟩ := Grammar.exists_content found
        exact ⟨before, _, split.trans (by simp), blank, .quotation (.mk quotes inside)⟩
      · cases read
    · -- a name and a number are both the run of one kind of characters at the front
      have whole {kind : Char → Bool} (after : (c :: inner).dropWhile kind = rest) :
          text = before ++ ((c :: inner).takeWhile kind ++ rest) := by
        rw [← after, List.takeWhile_append_dropWhile]
        exact split
      split at read
      · -- a name
        rename_i starts
        rw [Except.ok.injEq, Prod.mk.injEq] at read
        obtain ⟨rfl, after⟩ := read
        have begins : beginsName (c :: inner) = true := starts
        exact ⟨before, _, whole after, blank, .name (.of_begins begins)⟩
      · split at read
        · -- digits and points
          rename_i digit
          rw [Except.ok.injEq, Prod.mk.injEq] at read
          obtain ⟨rfl, after⟩ := read
          refine ⟨before, _, whole after, blank, ?_⟩
          have first : inNumericKey c = true := by simp [inNumericKey, digit]
          have later : ∀ d ∈ inner.takeWhile inNumericKey, inNumericKey d = true :=
            List.all_eq_true.mp List.all_takeWhile
          have run : (c :: inner).takeWhile inNumericKey = c :: inner.takeWhile inNumericKey :=
            List.takeWhile_cons_of_pos first
          change Grammar.Key ((c :: inner).takeWhile inNumericKey)
            (String.ofList ((c :: inner).takeWhile inNumericKey))
          rw [run]
          exact .digits digit fun d here => by simpa [inNumericKey] using later d here
        · cases read

/-- What is read as a key before a colon is a key with blanks around it. -/
theorem exists_key {context : Context} {left : List Char}
    (read : readKey context text = .ok (key, left))
    (colon : readColon context left = .ok ((), rest)) :
    ∃ before token blanks, text = before ++ (token ++ blanks) ++ ':' :: rest ∧
      isBlankText before = true ∧ Grammar.Key token key ∧ isBlankText blanks = true := by
  obtain ⟨before, token, rfl, blank, denotes⟩ := exists_key_front read
  obtain ⟨blanks, blank', rfl⟩ := exists_blanks_of_readColon colon
  exact ⟨before, token, blanks, by simp, blank, denotes, blank'⟩

/-! ## The two places of keys -/

namespace Key

/-- Digits and points that start with a point. -/
def IsPointed (text : List Char) : Prop :=
  ∃ rest, text = '.' :: rest ∧ ∀ c ∈ rest, c.isDigit = true ∨ c = '.'

theorem isPlainNumber_of_isPointed (pointed : IsPointed text) : isPlainNumber text = true := by
  obtain ⟨rest, rfl, later⟩ := pointed
  simpa [isPlainNumber] using later

/-- **What is accepted as the key of an entry** is a key of the grammar, or digits and points
that start with a point. -/
theorem exists_key_of_read (accepted : Key.read text = .ok key) :
    (∃ before token after, text = before ++ (token ++ after) ∧ isBlankText before = true ∧
      Grammar.Key token key ∧ isBlankText after = true) ∨
    (IsPointed (trim text) ∧ key = String.ofList (trim text)) := by
  obtain ⟨before, after, blank, blank', split⟩ := exists_trim text
  rw [read] at accepted
  split at accepted
  · rename_i found
    cases accepted
    rw [read?] at found
    generalize trim text = word at split found ⊢
    have grammar (denotes : Grammar.Key word key) :
        ∃ before token after, text = before ++ (token ++ after) ∧ isBlankText before = true ∧
          Grammar.Key token key ∧ isBlankText after = true :=
      ⟨before, word, after, split, blank, denotes, blank'⟩
    split at found
    · cases found
    · rename_i c rest
      split at found
      · rename_i quotes
        split at found
        · rename_i content unquoted
          cases found
          obtain ⟨raw, rfl, inside⟩ := Grammar.exists_content unquoted
          exact .inl (grammar (.quotation (.mk quotes inside)))
        · cases found
      · split at found
        · rename_i shape
          cases found
          rcases Bool.or_eq_true_iff.mp shape with named | number
          · rw [isName, Bool.and_eq_true, List.all_eq_true] at named
            exact .inl (grammar (.name (.mk named.1 named.2)))
          · simp only [isPlainNumber, List.isEmpty_cons, Bool.not_false, Bool.true_and,
              List.all_cons, Bool.and_eq_true, List.all_eq_true, Bool.or_eq_true,
              beq_iff_eq] at number
            -- only here may a point be the first character
            obtain ⟨digit | rfl, later⟩ := number
            · exact .inl (grammar (.digits digit later))
            · exact .inr ⟨⟨rest, rfl, later⟩, rfl⟩
        · cases found
  · cases accepted

/-- **The two places of keys agree but for points.**  A text is accepted as the key of an entry
exactly if the reader of objects takes the same key off its front and leaves only blanks, or
if, but for blanks around, it consists of digits and points and starts with a point: the
reader then refuses the point. -/
theorem read_eq_ok_iff_readKey (context : Context) (text : List Char) (key : String) :
    Key.read text = .ok key ↔
      (∃ rest, readKey context text = .ok (key, rest) ∧ isBlankText rest = true) ∨
      (IsPointed (trim text) ∧ key = String.ofList (trim text) ∧
        ∃ offset, readKey context text = .error (.unexpectedChar offset '.')) := by
  constructor
  · intro accepted
    rcases exists_key_of_read accepted with
      ⟨before, token, after, rfl, blank, denotes, blank'⟩ | ⟨pointed, rfl⟩
    · have ends := (boundary_of_isBlankText blank').endsToken
      exact .inl ⟨after, denotes.keyToken.reads context blank ends, blank'⟩
    · refine .inr ⟨pointed, rfl, ?_⟩
      obtain ⟨rest, trimmed, -⟩ := pointed
      obtain ⟨left, seen⟩ := List.head?_eq_some_iff.mp (head?_trimStart_of_trim trimmed)
      rw [readKey, seen]
      exact ⟨_, rfl⟩
  · rintro (⟨rest, taken, blank'⟩ | ⟨pointed, rfl, -⟩)
    · obtain ⟨before, token, rfl, blank, denotes⟩ := exists_key_front taken
      exact denotes.keyToken.denotes blank blank'
    · have number := isPlainNumber_of_isPointed pointed
      obtain ⟨rest, trimmed, -⟩ := pointed
      rw [trimmed] at number
      rw [Key.read, read?, trimmed]
      simp only [show Scan.isQuote '.' = false from rfl, number, Bool.or_true, if_true,
        Bool.false_eq_true, if_false]

/-- A lone point is the key of an entry, but the reader of objects takes no key off its front,
so a text in braces that is one entry of an expression is refused as an object. -/
theorem read_lone_point :
    Key.read ['.'] = .ok "." ∧
      (¬ ∃ rest, readKey ⟨[], 1⟩ ['.'] = .ok (".", rest) ∧ isBlankText rest = true) ∧
      Template.read [] ⟨['{', '.', ':', 'a', '}'], 0⟩ = .error (.unexpectedChar 1 '.') := by
  refine ⟨rfl, ?_, rfl⟩
  rintro ⟨rest, taken, -⟩
  cases taken

end Key

end Choreography
