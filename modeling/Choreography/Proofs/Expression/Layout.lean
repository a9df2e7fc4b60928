import Choreography.Proofs.Expression.Entries
import Choreography.Proofs.Literal.Numerals

/-!
# How values are laid out

**Every text of the grammar is laid out as a value** (`Grammar.Denotes.valueText`), by
induction on how the text is put together, and **whatever the reader accepts is a text of the
grammar** (`item_of_read`).  The reader of values, the one of fields and the one of items
call one another with less fuel, so the three are treated together, by induction on the fuel:
`ReadsValues`, `ReadsFields` and `ReadsItems` say for one amount of fuel what `reads_all` says
for all.
-/

namespace Choreography

open Text Literal Expression

variable {scope : Scope} {text : List Char}

/-! ## Texts of values -/

/-- A text that starts with neither a brace nor a blank is laid out as a value if one step
of the reader gives the value. -/
theorem ValueText.of_step {c : Char} {rest : List Char} {value : Template}
    (solid : Scan.Solid (c :: rest)) (visible : isBlank c = false) (noCloser : c ≠ ']')
    (noBrace : c ≠ '{') (plain : ∀ options, value ≠ .object options)
    (reads : ∀ (stop fuel : Nat) {after : List Char}, 2 * rest.length + 1 ≤ fuel →
      Boundary after → readValue ⟨scope, stop⟩ (fuel + 1) (c :: (rest ++ after)) =
        .ok (value, after)) : ValueText scope (c :: rest) value where
  solid := solid
  first := ⟨c, rest, rfl, visible, noCloser⟩
  reads := by
    intro stop fuel after enough boundary
    rw [List.length_cons] at enough
    obtain ⟨fuel, rfl⟩ : ∃ less, fuel = less + 1 := ⟨fuel - 1, by omega⟩
    exact reads stop fuel (by omega) boundary
  object := by
    intro options same
    exact absurd same (plain options)
  brace := by
    intro head
    cases head
    exact absurd rfl noBrace

theorem ValueText.of_quotation {content : String} (scope : Scope)
    (quoted : Grammar.Quotation text content) :
    ValueText scope text (.literal (.string content)) := by
  cases quoted with
  | @mk quote raw content quotes inside =>
    have kinds : isBlank quote = false ∧ quote ≠ ']' ∧ quote ≠ '{' ∧ quote ≠ '[' := by
      simp only [Scan.isQuote, Bool.or_eq_true, beq_iff_eq] at quotes
      rcases quotes with (rfl | rfl) | rfl <;> decide
    obtain ⟨visible, noCloser, noBrace, noBracket⟩ := kinds
    refine .of_step (Scan.solid_quoted quotes inside.quoted) visible noCloser noBrace ?_ ?_
    · intro options same
      cases same
    · intro stop fuel after enough boundary
      rewrite [readValue, trimStart_cons visible]
      simp only [if_neg noBrace, if_neg noBracket, quotes, if_true, readString,
        List.append_assoc, List.singleton_append,
        inside.unquote?_eq (Grammar.slash_of_isQuote quotes)]
      rfl

theorem ValueText.of_figure {number : Number} (scope : Scope)
    (figure : Grammar.Figure text number) : ValueText scope text (.literal (.number number)) := by
  obtain ⟨c, rest, rfl, starts⟩ := figure.first
  have first := figure.goesOn c List.mem_cons_self
  have visible := isBlank_of_goesOn first
  have other := ne_of_goesOn first
  refine .of_step (solid_of_goesOn figure.goesOn) visible (other ']' rfl) (other '{' rfl) ?_ ?_
  · intro options same
    cases same
  · intro stop fuel after enough boundary
    have read := figure.readNumber_eq ⟨scope, stop⟩ boundary.endsToken
    rw [List.cons_append] at read
    rewrite [readValue, trimStart_cons visible]
    simp only [if_neg (other '{' rfl), if_neg (other '[' rfl), isQuote_of_goesOn first, starts,
      Bool.false_eq_true, if_false, if_true, read]
    rfl

theorem ValueText.of_name {token : List Char} {value : Template}
    (name : NameText scope token value) : ValueText scope token value := by
  obtain ⟨c, rest, rfl⟩ : ∃ c rest, token = c :: rest := by
    cases token with
    | nil => exact absurd name.begins (by decide)
    | cons c rest => exact ⟨c, rest, rfl⟩
  have starts : startsName c = true := name.begins
  have first := goesOn_of_continuesName c (continuesName_of_startsName starts)
  have visible := isBlank_of_goesOn first
  have other := ne_of_goesOn first
  refine .of_step name.solid visible (other ']' rfl) (other '{' rfl) name.plain ?_
  intro stop fuel after enough boundary
  have read := name.reads stop boundary
  rw [List.cons_append] at read
  rewrite [readValue, trimStart_cons visible]
  simp only [if_neg (other '{' rfl), if_neg (other '[' rfl), isQuote_of_goesOn first,
    startsNumber_of_startsName starts, starts, Bool.false_eq_true, if_false, if_true, read]

/-- A body in braces is the text of an object. -/
theorem ValueText.of_object {body : List Char} {fields : List (String × Template)}
    (inner : BodyText scope body fields) :
    ValueText scope ('{' :: (body ++ ['}'])) (.object (Fields.ofList fields)) := by
  refine ⟨Scan.solid_brackets inner.keeps rfl rfl, ⟨'{', _, rfl, rfl, by decide⟩, ?_, ?_, ?_⟩
  · intro stop fuel after enough boundary
    rw [List.length_cons, List.length_append, List.length_singleton] at enough
    obtain ⟨fuel, rfl⟩ : ∃ less, fuel = less + 1 := ⟨fuel - 1, by omega⟩
    rewrite [readValue, List.cons_append, trimStart_cons rfl]
    simp only [if_true, List.append_assoc, List.singleton_append,
      inner.reads stop fuel after (by omega)]
    rfl
  · intro options same
    cases same
    exact ⟨body, fields, rfl, inner, rfl⟩
  · exact fun _ => ⟨_, rfl⟩

/-! ## Texts of arrays -/

/-- The inside of an array and its items. -/
structure ItemsText (scope : Scope) (text : List Char) (items : List Template) : Prop where
  keeps : Scan.Keeps text
  reads : ∀ (stop fuel : Nat) (after : List Char), 2 * text.length + 1 ≤ fuel →
    readItems ⟨scope, stop⟩ fuel (text ++ ']' :: after) = .ok (items, after)

/-- The inside of an array in brackets is the text of the array. -/
theorem ItemsText.valueText {items : List Template} (inner : ItemsText scope text items) :
    ValueText scope ('[' :: (text ++ [']'])) (.array items) := by
  have noBrace : '[' ≠ '{' := by decide
  refine .of_step (Scan.solid_brackets inner.keeps rfl rfl) rfl (by decide) noBrace ?_ ?_
  · intro options same
    cases same
  · intro stop fuel after enough boundary
    rw [List.length_append, List.length_singleton] at enough
    rewrite [readValue, trimStart_cons rfl]
    simp only [if_neg noBrace, if_true, List.append_assoc, List.singleton_append,
      inner.reads stop fuel after (by omega)]
    rfl

theorem ItemsText.of_blank (scope : Scope) (blank : isBlankText text = true) :
    ItemsText scope text [] := by
  refine ⟨(solid_of_isBlankText blank).keeps, ?_⟩
  intro stop fuel after enough
  obtain ⟨fuel, rfl⟩ : ∃ less, fuel = less + 1 := ⟨fuel - 1, by omega⟩
  rewrite [readItems, trimStart_append blank, trimStart_cons rfl]
  rfl

/-- One step of the reader of items: a value, and then what the continuation asks
for. -/
theorem readItems_step {context : Context} {fuel : Nat} {c : Char} {item : Template}
    {left : List Char} (head : (trimStart text).head? = some c) (other : c ≠ ']')
    (read : readValue context fuel text = .ok (item, left)) :
    readItems context (fuel + 1) text = (do
      match ← readContinuation context ']' left with
      | (.done, rest) => .ok ([item], rest)
      | (.more, rest) =>
        let (items, rest) ← readItems context fuel rest
        .ok (item :: items, rest)) := by
  rw [readItems]
  split
  · rename_i nothing
    rw [nothing] at head
    cases head
  · rename_i closes
    rw [closes] at head
    cases head
    exact absurd rfl other
  · rw [read]
    rfl

section

variable {before after : List Char} {item : Template} (written : ValueText scope text item)
  (blank : isBlankText before = true) (blank' : isBlankText after = true)

include written blank

theorem ValueText.readItems_step {stop fuel : Nat} {rest : List Char}
    (enough : 2 * text.length ≤ fuel) (boundary : Boundary (after ++ rest)) :
    readItems ⟨scope, stop⟩ (fuel + 1) (before ++ (text ++ after) ++ rest) = (do
      match ← readContinuation ⟨scope, stop⟩ ']' (after ++ rest) with
      | (.done, rest) => .ok ([item], rest)
      | (.more, rest) =>
        let (items, rest) ← readItems ⟨scope, stop⟩ fuel rest
        .ok (item :: items, rest)) := by
  obtain ⟨c, inner, same, visible, other⟩ := written.first
  have shape : before ++ (text ++ after) ++ rest = before ++ (text ++ (after ++ rest)) := by simp
  rw [shape]
  refine Choreography.readItems_step ?_ other ?_
  · rw [trimStart_append blank, same, List.cons_append, trimStart_cons visible]
    rfl
  · rw [readValue_append blank]
    exact written.reads stop fuel enough boundary

include blank'

/-- One value is the inside of an array. -/
theorem ValueText.itemsText : ItemsText scope (before ++ (text ++ after)) [item] := by
  refine ⟨?_, ?_⟩
  · exact (solid_of_isBlankText blank).keeps.append
      (written.solid.keeps.append (solid_of_isBlankText blank').keeps)
  · intro stop fuel rest enough
    simp only [List.length_append] at enough
    obtain ⟨fuel, rfl⟩ : ∃ less, fuel = less + 1 := ⟨fuel - 1, by omega⟩
    rw [written.readItems_step blank (by omega) (boundary_append blank' (.inr (.inr rfl)) rest),
      readContinuation_closer blank' _ (.inr rfl), ok_bind]

/-- A value, a comma and the inside of an array are the inside of an array. -/
theorem ValueText.itemsText_cons {later : List Char} {items : List Template}
    (inner : ItemsText scope later items) :
    ItemsText scope (before ++ (text ++ after) ++ ',' :: later) (item :: items) := by
  refine ⟨?_, ?_⟩
  · have comma : Scan.Keeps [','] := Scan.keeps_separator rfl
    exact (written.itemsText blank blank').keeps.append (comma.append inner.keeps)
  · intro stop fuel rest enough
    simp only [List.length_append, List.length_cons] at enough
    obtain ⟨fuel, rfl⟩ : ∃ less, fuel = less + 1 := ⟨fuel - 1, by omega⟩
    have read := inner.reads stop fuel rest (by omega)
    have shape : before ++ (text ++ after) ++ ',' :: later ++ ']' :: rest =
        before ++ (text ++ after) ++ ',' :: (later ++ ']' :: rest) := by simp
    rw [shape, written.readItems_step blank (by omega) (boundary_append blank' (.inl rfl) _),
      readContinuation_comma blank']
    simp only [ok_bind, read]

end

/-! ## The texts of the grammar -/

namespace Grammar

/-- What a dotted name without parentheses stands for is what the reader makes of it. -/
theorem Dotted.valueText {path root : List Char} (dotted : Dotted path root) :
    ValueText scope path (nameTemplate scope (String.ofList path)) :=
  .of_name dotted.nameText

mutual

/-- **The texts of the grammar are laid out as values.** -/
theorem Denotes.valueText {text : List Char} {value : Template}
    (denotes : Denotes scope text value) : ValueText scope text value := by
  cases denotes with
  | string quoted => exact .of_quotation scope quoted
  | number figure => exact .of_figure scope figure
  | keyword word => exact .of_name word.nameText
  | reference dotted known =>
    have written : ValueText scope _ _ := dotted.valueText
    rwa [nameTemplate, dotted.path.root_eq, known, if_pos rfl] at written
  | word dotted unknown =>
    have written : ValueText scope _ _ := dotted.valueText
    rwa [nameTemplate, dotted.path.root_eq, unknown, if_neg Bool.false_ne_true] at written
  | call dotted blank nested => exact .of_name (dotted.nameText_call blank nested)
  | array inside => exact inside.itemsText.valueText
  | object inside => exact .of_object inside.bodyText
termination_by 3 * text.length

theorem Item.valueText {text : List Char} {value : Template} (item : Item scope text value) :
    ∃ before token after, isBlankText before = true ∧ isBlankText after = true ∧
      text = before ++ (token ++ after) ∧ ValueText scope token value := by
  cases item with
  | mk blank denotes blank' => exact ⟨_, _, _, blank, blank', rfl, denotes.valueText⟩
termination_by 3 * text.length + 1
decreasing_by all_goals simp +arith

theorem Entry.entryText {text : List Char} {field : String × Template}
    (entry : Entry scope text field) : EntryText scope text field := by
  cases entry with
  | mk blank key blank' item =>
    obtain ⟨before, token, after, leading, trailing, rfl, written⟩ := item.valueText
    exact Choreography.entryText (key.keyToken.keyText blank blank') written leading trailing
termination_by 3 * text.length + 1
decreasing_by all_goals simp +arith

theorem Items.itemsText {text : List Char} {items : List Template}
    (inside : Items scope text items) : ItemsText scope text items := by
  cases inside with
  | blank blank => exact .of_blank scope blank
  | last item =>
    obtain ⟨before, token, after, blank, blank', rfl, written⟩ := item.valueText
    exact written.itemsText blank blank'
  | more item later =>
    obtain ⟨before, token, after, blank, blank', rfl, written⟩ := item.valueText
    exact written.itemsText_cons blank blank' later.itemsText
termination_by 3 * text.length + 2
decreasing_by
  all_goals
    subst_vars
    simp +arith

theorem Entries.bodyText {text : List Char} {fields : List (String × Template)}
    (inside : Entries scope text fields) : BodyText scope text fields := by
  cases inside with
  | blank blank => exact .of_blank scope blank
  | last entry => exact entry.entryText.bodyText
  | more entry later => exact entry.entryText.bodyText_cons later.bodyText
termination_by 3 * text.length + 2
decreasing_by
  all_goals
    subst_vars
    simp +arith

end

variable {value : Template}

theorem Item.solid (item : Item scope text value) : Scan.Solid text := by
  obtain ⟨before, token, after, blank, blank', rfl, written⟩ := item.valueText
  exact (solid_of_isBlankText blank).append
    (written.solid.append (solid_of_isBlankText blank'))

theorem Item.not_blank (item : Item scope text value) : isBlankText text = false := by
  obtain ⟨before, token, after, blank, blank', rfl, written⟩ := item.valueText
  obtain ⟨c, rest, rfl, visible, -⟩ := written.first
  simp [isBlankText, visible]

/-- An item that neither starts nor ends with a blank is the text of a value. -/
theorem Item.denotes (item : Item scope text value) {first last : Char}
    (head : text.head? = some first) (visible : isBlank first = false)
    (end_ : text.getLast? = some last) (visible' : isBlank last = false) :
    Denotes scope text value := by
  cases item with
  | @mk before token after value blank denotes blank' =>
    -- a text with no blank at its ends is the token alone
    have noBefore : before = [] := by
      cases before with
      | nil => rfl
      | cons c rest =>
        cases head
        rw [isBlankText, List.all_cons, visible] at blank
        cases blank
    have noAfter : after = [] := by
      rcases List.eq_nil_or_concat after with nothing | ⟨front, c, rfl⟩
      · exact nothing
      · rw [List.concat_eq_append] at end_ blank'
        rw [← List.append_assoc, ← List.append_assoc, List.getLast?_concat] at end_
        cases end_
        have blanks := List.all_eq_true.mp (isBlankText_append.mp blank').2 last
          List.mem_cons_self
        rw [visible'] at blanks
        cases blanks
    rwa [noBefore, noAfter, List.nil_append, List.append_nil]

end Grammar

/-! ## What the reader accepts -/

/-- With one amount of fuel, whatever is read as a value is the text of one. -/
def ReadsValues (scope : Scope) (fuel : Nat) : Prop :=
  ∀ {stop : Nat} {text rest : List Char} {value : Template},
    readValue ⟨scope, stop⟩ fuel text = .ok (value, rest) →
    ∃ blanks token, isBlankText blanks = true ∧ text = blanks ++ (token ++ rest) ∧
      Grammar.Denotes scope token value

/-- With one amount of fuel, whatever is read as fields is the inside of an object. -/
def ReadsFields (scope : Scope) (fuel : Nat) : Prop :=
  ∀ {stop : Nat} {text rest : List Char} {fields : List (String × Template)},
    readFields ⟨scope, stop⟩ fuel text = .ok (fields, rest) →
    ∃ body, text = body ++ '}' :: rest ∧ Grammar.Entries scope body fields

/-- With one amount of fuel, whatever is read as items is the inside of an array. -/
def ReadsItems (scope : Scope) (fuel : Nat) : Prop :=
  ∀ {stop : Nat} {text rest : List Char} {items : List Template},
    readItems ⟨scope, stop⟩ fuel text = .ok (items, rest) →
    ∃ body, text = body ++ ']' :: rest ∧ Grammar.Items scope body items

theorem exists_of_bind_ok {ε α β : Type} {first : Except ε α} {next : α → Except ε β} {b : β}
    (done : (first >>= next) = .ok b) : ∃ a, first = .ok a ∧ next a = .ok b := by
  cases first with
  | error => cases done
  | ok a => exact ⟨a, rfl, done⟩

/-- What the reader goes on with after a part of a container. -/
theorem exists_blanks_of_readContinuation {context : Context} {closer : Char}
    {next : Continuation} {rest : List Char}
    (read : readContinuation context closer text = .ok (next, rest)) :
    ∃ blanks c, isBlankText blanks = true ∧ text = blanks ++ c :: rest ∧
      match next with
      | .more => c = ','
      | .done => c = closer := by
  obtain ⟨blanks, blank, split⟩ := exists_blanks text
  rw [readContinuation] at read
  split at read
  · cases read
  · rename_i c left seen
    rw [seen] at split
    split at read
    · rename_i comma
      cases read
      exact ⟨blanks, c, blank, split, comma⟩
    · split at read
      · rename_i closes
        cases read
        exact ⟨blanks, c, blank, split, closes⟩
      · split at read <;> cases read

theorem readsFields_succ {fuel : Nat} (values : ReadsValues scope fuel)
    (fields : ReadsFields scope fuel) : ReadsFields scope (fuel + 1) := by
  intro stop text rest written read
  rw [readFields] at read
  split at read
  · cases read
  · rename_i closes
    cases read
    obtain ⟨blanks, blank, split⟩ := exists_blanks text
    rw [closes] at split
    exact ⟨blanks, split, .blank blank⟩
  · -- a key, a colon, a value and a continuation, each of which has succeeded
    obtain ⟨⟨name, _⟩, key, afterKey⟩ := exists_of_bind_ok read
    obtain ⟨⟨⟨⟩, _⟩, colon, afterColon⟩ := exists_of_bind_ok afterKey
    obtain ⟨⟨value, _⟩, one, afterValue⟩ := exists_of_bind_ok afterColon
    obtain ⟨⟨next, others⟩, goes, ends⟩ := exists_of_bind_ok afterValue
    obtain ⟨front, word, back, rfl, blank, named, blank'⟩ := exists_key key colon
    obtain ⟨before, token, leading, rfl, denotes⟩ := values one
    obtain ⟨after, c, trailing, rfl, same⟩ := exists_blanks_of_readContinuation goes
    have entry := Grammar.Entry.mk blank named blank' (.mk leading denotes trailing)
    cases next with
    | done =>
      cases same
      cases ends
      exact ⟨_, by simp, .last entry⟩
    | more =>
      cases same
      obtain ⟨⟨later, _⟩, more, ends⟩ := exists_of_bind_ok ends
      cases ends
      obtain ⟨body, rfl, inner⟩ := fields more
      exact ⟨_, by simp, .more entry inner⟩

theorem readsItems_succ {fuel : Nat} (values : ReadsValues scope fuel)
    (items : ReadsItems scope fuel) : ReadsItems scope (fuel + 1) := by
  intro stop text rest written read
  rw [readItems] at read
  split at read
  · cases read
  · rename_i closes
    cases read
    obtain ⟨blanks, blank, split⟩ := exists_blanks text
    rw [closes] at split
    exact ⟨blanks, split, .blank blank⟩
  · obtain ⟨⟨item, _⟩, one, afterValue⟩ := exists_of_bind_ok read
    obtain ⟨⟨next, others⟩, goes, ends⟩ := exists_of_bind_ok afterValue
    obtain ⟨before, token, blank, rfl, denotes⟩ := values one
    obtain ⟨after, c, blank', rfl, same⟩ := exists_blanks_of_readContinuation goes
    cases next with
    | done =>
      cases same
      cases ends
      exact ⟨_, by simp, .last (.mk blank denotes blank')⟩
    | more =>
      cases same
      obtain ⟨⟨later, _⟩, more, ends⟩ := exists_of_bind_ok ends
      cases ends
      obtain ⟨body, rfl, inner⟩ := items more
      exact ⟨_, by simp, .more (.mk blank denotes blank') inner⟩

/-- How a value that was read begins, and which part of the reader has read it. -/
theorem readValue_cases {context : Context} {fuel : Nat} {rest : List Char} {value : Template}
    (read : readValue context (fuel + 1) text = .ok (value, rest)) :
    ∃ c inner, trimStart text = c :: inner ∧
      ((c = '{' ∧ ∃ fields, readFields context fuel inner = .ok (fields, rest) ∧
          value = .object (Fields.ofList fields)) ∨
        (c = '[' ∧ ∃ items, readItems context fuel inner = .ok (items, rest) ∧
          value = .array items) ∨
        (Scan.isQuote c = true ∧ ∃ content, readString context c inner = .ok (content, rest) ∧
          value = .literal (.string content)) ∨
        (∃ number, readNumber context (c :: inner) = .ok (number, rest) ∧
          value = .literal (.number number)) ∨
        (startsName c = true ∧ readName context (c :: inner) = .ok (value, rest))) := by
  rw [readValue] at read
  split at read
  · cases read
  · rename_i c inner seen
    refine ⟨c, inner, seen, ?_⟩
    split at read
    · rename_i brace
      obtain ⟨⟨fields, _⟩, inside, ends⟩ := exists_of_bind_ok read
      cases ends
      exact .inl ⟨brace, fields, inside, rfl⟩
    · split at read
      · rename_i bracket
        obtain ⟨⟨items, _⟩, inside, ends⟩ := exists_of_bind_ok read
        cases ends
        exact .inr (.inl ⟨bracket, items, inside, rfl⟩)
      · split at read
        · rename_i quotes
          obtain ⟨⟨content, _⟩, inside, ends⟩ := exists_of_bind_ok read
          cases ends
          exact .inr (.inr (.inl ⟨quotes, content, inside, rfl⟩))
        · split at read
          · obtain ⟨⟨number, _⟩, inside, ends⟩ := exists_of_bind_ok read
            cases ends
            exact .inr (.inr (.inr (.inl ⟨number, inside, rfl⟩)))
          · split at read
            · rename_i starts
              exact .inr (.inr (.inr (.inr ⟨starts, read⟩)))
            · cases read

theorem readsValues_succ {fuel : Nat} (fields : ReadsFields scope fuel)
    (items : ReadsItems scope fuel) : ReadsValues scope (fuel + 1) := by
  intro stop text rest value read
  obtain ⟨blanks, blank, split⟩ := exists_blanks text
  obtain ⟨c, inner, seen, begins⟩ := readValue_cases read
  rw [seen] at split
  refine ⟨blanks, ?_⟩
  rcases begins with ⟨rfl, written, inside, rfl⟩ | ⟨rfl, written, inside, rfl⟩ |
    ⟨quotes, content, inside, rfl⟩ | ⟨number, inside, rfl⟩ | ⟨starts, named⟩
  · -- an object
    obtain ⟨body, rfl, entries⟩ := fields inside
    exact ⟨_, blank, split.trans (by simp), .object entries⟩
  · -- an array
    obtain ⟨body, rfl, within⟩ := items inside
    exact ⟨_, blank, split.trans (by simp), .array within⟩
  · -- a quotation
    rw [readString] at inside
    split at inside
    · rename_i found
      cases inside
      obtain ⟨raw, rfl, content⟩ := Grammar.exists_content found
      exact ⟨_, blank, split.trans (by simp), .string (.mk quotes content)⟩
    · cases inside
  · -- a number
    obtain ⟨token, whole, figure⟩ := Grammar.exists_figure inside
    exact ⟨token, blank, split.trans (congrArg (blanks ++ ·) whole), .number figure⟩
  · -- a name, a call or a keyword
    have begins : beginsName (c :: inner) = true := starts
    obtain ⟨token, whole, denotes⟩ := exists_name begins named
    exact ⟨token, blank, split.trans (congrArg (blanks ++ ·) whole), denotes⟩

/-- With any amount of fuel, whatever is read is a text of what it is read as. -/
theorem reads_all (scope : Scope) (fuel : Nat) :
    ReadsValues scope fuel ∧ ReadsFields scope fuel ∧ ReadsItems scope fuel := by
  induction fuel with
  | zero => exact ⟨nofun, nofun, nofun⟩
  | succ fuel ih =>
    obtain ⟨values, fields, items⟩ := ih
    exact ⟨readsValues_succ fields items, readsFields_succ values fields,
      readsItems_succ values items⟩

/-! ## Whole segments -/

/-- **A segment that is read as a value** is the text of an item. -/
theorem item_of_read {value : Template} {offset : Nat}
    (read : Template.read scope ⟨text, offset⟩ = .ok value) : Grammar.Item scope text value := by
  obtain ⟨blanks, blank, split⟩ := exists_blanks text
  rw [Template.read] at read
  split at read
  · cases read
  · obtain ⟨⟨found, after⟩, inner, ends⟩ := exists_of_bind_ok read
    obtain ⟨before, token, blank', whole, denotes⟩ := (reads_all scope _).1 inner
    simp only at ends
    split at ends
    · rename_i nothing
      cases ends
      rw [split, whole, ← List.append_assoc]
      exact .mk (isBlankText_append.mpr ⟨blank, blank'⟩) denotes
        (trimStart_eq_nil_iff.mp nothing)
    · cases ends

/-- A segment that is read as a value is laid out as one, with blanks around it. -/
theorem exists_valueText {value : Template} {offset : Nat}
    (read : Template.read scope ⟨text, offset⟩ = .ok value) :
    ∃ before token after, isBlankText before = true ∧ isBlankText after = true ∧
      text = before ++ (token ++ after) ∧ ValueText scope token value :=
  (item_of_read read).valueText

/-- A text that is read as an object once braces are put around it is the body of that
object. -/
theorem exists_bodyText {options : Fields Template}
    (read : Template.read scope ⟨'{' :: (text ++ ['}']), 0⟩ = .ok (.object options)) :
    ∃ written, BodyText scope text written ∧ options = Fields.ofList written := by
  have last : ('{' :: (text ++ ['}'])).getLast? = some '}' :=
    List.getLast?_concat (l := '{' :: text)
  -- the braces that were put around are the ones that were read, for they are no blanks
  have denotes := (item_of_read read).denotes rfl (show isBlank '{' = false from rfl) last rfl
  obtain ⟨body, fields, whole, bodyText, list⟩ := denotes.valueText.object options rfl
  rw [List.cons.injEq] at whole
  rw [List.append_cancel_right whole.2]
  exact ⟨fields, bodyText, list⟩

end Choreography
