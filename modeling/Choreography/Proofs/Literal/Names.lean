import Choreography.Proofs.Literal.Nesting

/-!
# Names

A keyword, a dotted name or a call is read before any `Boundary` (`Grammar.Keyword.nameText`,
`Grammar.Dotted.nameText`, `Grammar.Dotted.nameText_call`), and **nothing else is read as a
name** (`exists_name`).  The arguments of a call are not read at all, so that they only have
to be nested.
-/

namespace Choreography

open Text Literal

variable {c : Char} {text rest after : List Char}

namespace Literal

/-! ## Characters of names -/

theorem continuesName_of_startsName (starts : startsName c = true) : continuesName c = true := by
  simp only [startsName, Bool.or_eq_true] at starts
  rcases starts with (letter | under) | dollar
  · simp [continuesName, Char.isAlphanum, letter]
  · simp [continuesName, under]
  · simp [continuesName, dollar]

/-- No number starts as a name does. -/
theorem startsNumber_of_startsName (starts : startsName c = true) : startsNumber c = false := by
  cases number : startsNumber c with
  | false => rfl
  | true =>
    simp only [startsNumber, Bool.or_eq_true, beq_iff_eq] at number
    rcases number with ((digit | rfl) | rfl) | rfl
    · simp only [Char.isDigit, Bool.and_eq_true, decide_eq_true_eq, UInt32.le_iff_toNat_le] at digit
      simp only [startsName, isAlpha_iff, Bool.or_eq_true, beq_iff_eq,
        UInt32.le_iff_toNat_le] at starts
      rcases starts with ((upper | lower) | rfl) | rfl
      · exact absurd (Nat.le_trans upper.1 digit.2) (by decide)
      · exact absurd (Nat.le_trans lower.1 digit.2) (by decide)
      · exact absurd digit (by decide)
      · exact absurd digit (by decide)
    · cases starts
    · cases starts
    · cases starts

theorem goesOn_of_continuesName (c : Char) (name : continuesName c = true) :
    goesOn c = true := by
  simp [goesOn, name]

theorem takeWhile_append_of_endsToken {kind : Char → Bool} {word : List Char}
    (within : ∀ c, kind c = true → goesOn c = true) (is : ∀ c ∈ word, kind c = true)
    (ends : EndsToken after) :
    (word ++ after).takeWhile kind = word ∧ (word ++ after).dropWhile kind = after := by
  have stops := ends.mono within
  rw [List.takeWhile_append_of_pos is, List.dropWhile_append_of_pos is, stops.takeWhile,
    stops.dropWhile, List.append_nil]
  exact ⟨rfl, rfl⟩

/-- The pieces of a text between its dots start with what stands before the first dot. -/
theorem exists_splitDots (text : List Char) :
    ∃ later, splitDots text = text.takeWhile (· != '.') :: later := by
  induction text with
  | nil => exact ⟨[], rfl⟩
  | cons c rest ih =>
    obtain ⟨later, same⟩ := ih
    rw [splitDots] at same
    rw [splitDots, List.splitOnP_cons_eq_if_modifyHead, same]
    by_cases dot : c = '.'
    · exact ⟨rest.takeWhile (· != '.') :: later, by simp [dot]⟩
    · exact ⟨later, by simp [dot]⟩

/-- A reference is to the name before its first dot. -/
theorem root_ofList (path : List Char) :
    (⟨String.ofList path⟩ : Reference).root = String.ofList (path.takeWhile (· != '.')) := by
  obtain ⟨later, same⟩ := exists_splitDots path
  rw [Reference.root, Reference.names, String.toList_ofList, same]
  rfl

end Literal

/-! ## Paths -/

namespace Grammar

/-- A path goes on through a whole name. -/
theorem scanPath_append_of_name {name : List Char} (is : ∀ c ∈ name, continuesName c = true)
    (rest : List Char) :
    scanPath (name ++ rest) = (name ++ (scanPath rest).1, (scanPath rest).2) := by
  induction name with
  | nil => rfl
  | cons c name ih =>
    have later := ih fun d here => is d (List.mem_cons_of_mem c here)
    rw [List.cons_append, scanPath, is c List.mem_cons_self, Bool.true_or, if_pos rfl, later]
    rfl

theorem scanPath_of_avoids (name : Avoids continuesName text)
    (dot : ∀ rest, text = '.' :: rest → beginsName rest = false) :
    scanPath text = ([], text) := by
  cases text with
  | nil => rfl
  | cons c rest =>
    have other : (continuesName c || c == '.' && beginsName rest) = false := by
      rw [name c rfl, Bool.false_or, Bool.and_eq_false_iff, beq_eq_false_iff_ne]
      by_cases same : c = '.'
      · subst same
        exact .inr (dot rest rfl)
      · exact .inl same
    rw [scanPath, other, if_neg Bool.false_ne_true]

namespace Name

variable {name : List Char}

theorem continues (named : Name name) : ∀ c ∈ name, continuesName c = true := by
  cases named with
  | mk starts continues =>
    intro c here
    rcases List.mem_cons.mp here with rfl | later
    · exact continuesName_of_startsName starts
    · exact continues c later

theorem begins (named : Name name) (after : List Char) : beginsName (name ++ after) = true := by
  cases named with
  | mk starts continues => exact starts

theorem isName (named : Name name) : isName name = true := by
  cases named with
  | mk starts continues => simp [Literal.isName, starts, List.all_eq_true.mpr continues]

/-- The name at the front of a text. -/
theorem of_begins (begins : beginsName text = true) : Name (text.takeWhile continuesName) := by
  cases text with
  | nil => cases begins
  | cons c rest =>
    rw [List.takeWhile_cons_of_pos (continuesName_of_startsName begins)]
    exact .mk begins (List.all_eq_true.mp List.all_takeWhile)

/-- A name has no dots. -/
theorem ne_dot (named : Name name) : ∀ c ∈ name, (c != '.') = true := by
  intro c here
  have name := named.continues c here
  rw [bne_iff_ne]
  rintro rfl
  cases name

end Name

namespace Path

variable {path root : List Char}

theorem begins (whole : Path path root) (after : List Char) :
    beginsName (path ++ after) = true := by
  cases whole with
  | root named => exact named.begins after
  | member named later =>
    rw [List.append_assoc]
    exact named.begins _

theorem goesOn (whole : Path path root) : ∀ c ∈ path, goesOn c = true := by
  induction whole with
  | root named => exact fun c here => goesOn_of_continuesName c (named.continues c here)
  | member named _ ih =>
    intro c here
    rcases List.mem_append.mp here with first | later
    · exact goesOn_of_continuesName c (named.continues c first)
    · rcases List.mem_cons.mp later with rfl | later
      · rfl
      · exact ih c later

/-- A path is scanned as a whole before a text in which no token goes on. -/
theorem scanPath_eq (whole : Path path root) (ends : EndsToken after) :
    scanPath (path ++ after) = (path, after) := by
  have nothing : scanPath after = ([], after) := by
    refine scanPath_of_avoids (ends.mono goesOn_of_continuesName) ?_
    rintro rest rfl
    cases ends '.' rfl
  induction whole with
  | root named =>
    rw [scanPath_append_of_name named.continues, nothing, List.append_nil]
  | @member name path root named later ih =>
    -- the dot counts, because the path goes on with a name
    have dot : scanPath ('.' :: path ++ after) = ('.' :: path, after) := by
      rw [List.cons_append, scanPath, later.begins after, ih]
      rfl
    rw [List.append_assoc, scanPath_append_of_name named.continues, dot]

/-- The name at the front of a path is its root, if no name goes on after the path. -/
theorem takeWhile_eq (whole : Path path root) (stops : Avoids continuesName after) :
    (path ++ after).takeWhile continuesName = root := by
  cases whole with
  | root named => rw [List.takeWhile_append_of_pos named.continues, stops.takeWhile, List.append_nil]
  | member named later =>
    rw [List.append_assoc, List.takeWhile_append_of_pos named.continues]
    exact List.append_nil _

/-- The reference that a path is the text of is to the root of the path. -/
theorem root_eq (whole : Path path root) :
    (⟨String.ofList path⟩ : Reference).root = String.ofList root := by
  rw [root_ofList]
  cases whole with
  | root named =>
    have all : (path ++ []).takeWhile (· != '.') = path ++ [] :=
      List.takeWhile_append_of_pos named.ne_dot
    rw [List.append_nil] at all
    rw [all]
  | member named later =>
    rw [List.takeWhile_append_of_pos named.ne_dot]
    simp

end Path

theorem scanPath_append (text : List Char) : (scanPath text).1 ++ (scanPath text).2 = text := by
  induction text with
  | nil => rfl
  | cons c rest ih =>
    rw [scanPath]
    split
    · exact congrArg (c :: ·) ih
    · rfl

/-- What is scanned as a path is one, and its root is the name at the front of the text. -/
theorem path_scanPath {text : List Char} (begins : beginsName text = true) :
    Path (scanPath text).1 (text.takeWhile continuesName) := by
  have named := Name.of_begins begins
  have whole : text.takeWhile continuesName ++ text.dropWhile continuesName = text :=
    List.takeWhile_append_dropWhile
  have scanned := scanPath_append_of_name named.continues (text.dropWhile continuesName)
  rw [whole] at scanned
  rw [scanned]
  -- the path goes on behind the name if a point and another name follow
  by_cases member : ∃ rest, text.dropWhile continuesName = '.' :: rest ∧ beginsName rest = true
  · obtain ⟨rest, dot, begins⟩ := member
    have more : scanPath ('.' :: rest) = ('.' :: (scanPath rest).1, (scanPath rest).2) := by
      rw [scanPath, begins]
      rfl
    have shorter : rest.length < text.length := by
      rw [← whole, dot]
      simp +arith
    rw [dot, more]
    exact .member named (path_scanPath begins)
  · have nothing : scanPath (text.dropWhile continuesName) = ([], text.dropWhile continuesName) := by
      refine scanPath_of_avoids ?_ ?_
      · intro c head
        have stops := List.head?_dropWhile_not continuesName text
        simpa [head] using stops
      · intro rest dot
        cases begins : beginsName rest with
        | false => rfl
        | true => exact absurd ⟨rest, dot, begins⟩ member
    rw [nothing, List.append_nil]
    exact .root named
termination_by text.length

/-! ## Keywords -/

theorem keyword?_eq_some_iff {name : List Char} {value : Value} :
    keyword? name = some value ↔ Keyword name value := by
  constructor
  · intro found
    rw [keyword?] at found
    split at found
    · rename_i same
      subst same
      cases found
      exact .true
    · split at found
      · rename_i same
        subst same
        cases found
        exact .false
      · split at found
        · rename_i same
          subst same
          cases found
          exact .null
        · split at found
          · rename_i same
            subst same
            cases found
            exact .undefined
          · cases found
  · intro word
    cases word <;> rfl

theorem keyword?_eq_none_iff {name : List Char} :
    keyword? name = none ↔ ∀ value, ¬ Keyword name value := by
  simp only [Option.eq_none_iff_forall_ne_some, ne_eq, keyword?_eq_some_iff]

theorem Keyword.name {value : Value} (word : Keyword text value) : Name text := by
  cases word <;> exact .mk rfl (List.all_eq_true.mp rfl)

end Grammar

/-! ## Names -/

/-- What the text of a name and the value it is read as have to do with each other. -/
structure Literal.NameText (scope : Scope) (token : List Char) (value : Template) : Prop where
  begins : beginsName token = true
  solid : Scan.Solid token
  plain : ∀ fields, value ≠ .object fields
  reads : ∀ (stop : Nat) {after : List Char}, Boundary after →
    readName ⟨scope, stop⟩ (token ++ after) = .ok (value, after)

open Grammar

variable {scope : Scope} {path root : List Char}

theorem nameTemplate_ne_object (scope : Scope) (path : String) (fields : Fields Template) :
    nameTemplate scope path ≠ .object fields := by
  rw [nameTemplate]
  split <;> exact nofun

/-- The text of a keyword. -/
theorem Grammar.Keyword.nameText {value : Value} (word : Keyword text value) :
    NameText scope text (.literal value) := by
  have name := word.name.continues
  refine ⟨?_, ?_, nofun, ?_⟩
  · simpa using word.name.begins []
  · exact solid_of_goesOn fun c here => goesOn_of_continuesName c (name c here)
  · intro stop after boundary
    obtain ⟨whole, left⟩ :=
      takeWhile_append_of_endsToken goesOn_of_continuesName name boundary.endsToken
    rw [readName, whole, keyword?_eq_some_iff.mpr word, left]

/-- A path that starts with no keyword is read as a path before what ends a token. -/
theorem Grammar.Dotted.keyword?_eq (dotted : Dotted path root) (ends : EndsToken after) :
    keyword? ((path ++ after).takeWhile continuesName) = none := by
  rw [dotted.path.takeWhile_eq (ends.mono goesOn_of_continuesName)]
  exact keyword?_eq_none_iff.mpr dotted.other

/-- The text of a dotted name that no parenthesis follows. -/
theorem Grammar.Dotted.nameText (dotted : Dotted path root) :
    NameText scope path (nameTemplate scope (String.ofList path)) := by
  refine ⟨?_, solid_of_goesOn dotted.path.goesOn, nameTemplate_ne_object scope _, ?_⟩
  · simpa using dotted.path.begins []
  · intro stop after boundary
    have ends := boundary.endsToken
    rw [readName, dotted.keyword?_eq ends]
    simp only [dotted.path.scanPath_eq ends]
    split
    · rename_i inner opens
      have head := boundary '(' (by rw [opens]; rfl)
      rcases head with head | head | head <;> cases head
    · rfl

/-- The text of a call: a dotted name, blanks, and a nested text in parentheses. -/
theorem Grammar.Dotted.nameText_call (dotted : Dotted path root) {blanks arguments : List Char}
    (blank : isBlankText blanks = true) (nested : Nested arguments) :
    NameText scope (path ++ (blanks ++ '(' :: (arguments ++ [')'])))
      (.invoke ⟨String.ofList path, String.ofList (trim arguments)⟩) := by
  refine ⟨dotted.path.begins _, ?_, nofun, ?_⟩
  · refine (solid_of_goesOn dotted.path.goesOn).append (Scan.Solid.append ?_ ?_)
    · exact solid_of_isBlankText blank
    · exact Scan.solid_brackets nested.keeps rfl rfl
  · intro stop after boundary
    -- the blanks and the parenthesis end the path, and the closing one ends the call, so
    -- what follows the call plays no part
    have ends : EndsToken (blanks ++ '(' :: (arguments ++ ')' :: after)) :=
      endsToken_append blank rfl
    have found := Scan.closing?_of_keeps nested.keeps (show Scan.isOpening '(' = true from rfl)
      (show Scan.isClosing ')' = true from rfl) after
    have shape : path ++ (blanks ++ '(' :: (arguments ++ [')'])) ++ after =
        path ++ (blanks ++ '(' :: (arguments ++ ')' :: after)) := by simp
    rw [shape, readName, dotted.keyword?_eq ends]
    simp only [dotted.path.scanPath_eq ends, trimStart_append blank]
    rw [trimStart_cons rfl]
    simp only [found, if_true]
    rfl

/-- What a dotted name without parentheses stands for is what the grammar says. -/
theorem Grammar.Dotted.denotes (dotted : Dotted path root) :
    Denotes scope path (nameTemplate scope (String.ofList path)) := by
  rw [nameTemplate, dotted.path.root_eq]
  cases known : scope.has (String.ofList root) with
  | true => exact .reference dotted known
  | false => exact .word dotted known

/-- **What is read as a name** is a keyword, a dotted name or a call at the front of the
text. -/
theorem exists_name {context : Context} {value : Template} (begins : beginsName text = true)
    (read : readName context text = .ok (value, rest)) :
    ∃ token, text = token ++ rest ∧ Denotes context.scope token value := by
  rw [readName] at read
  split at read
  · rename_i keyword found
    cases read
    exact ⟨_, List.takeWhile_append_dropWhile.symm, .keyword (keyword?_eq_some_iff.mp found)⟩
  · rename_i other
    have dotted : Dotted (scanPath text).1 (text.takeWhile continuesName) :=
      ⟨path_scanPath begins, keyword?_eq_none_iff.mp other⟩
    simp only at read
    split at read
    · -- a parenthesis makes it a call, up to the one that closes it
      rename_i inner opens
      split at read
      · cases read
      · rename_i inside closer after found
        split at read
        · rename_i closes
          subst closes
          cases read
          obtain ⟨body, rfl, rfl, keeps⟩ := Scan.keeps_of_closing? rfl found
          obtain ⟨blanks, blank, split⟩ := exists_blanks (scanPath text).2
          refine ⟨_, ?_, .call dotted blank keeps.nested⟩
          have whole := scanPath_append text
          rw [split, opens] at whole
          exact whole.symm.trans (by simp)
        · cases read
    · cases read
      exact ⟨_, (scanPath_append text).symm, dotted.denotes⟩

end Choreography
