import Choreography.Expression
import Choreography.Proofs.Literal.Keys
import Choreography.Proofs.Scan.Cuts

/-!
# Entries

What the text of a value, of an entry and of the inside of an object have to do with what
they are read as, by the reader of literals on one side and by cutting at commas and
colons on the other.  Each relation says what both of them answer:

* `ValueText`: the reader reads the value off the front of any text that goes on with a
  boundary;
* `EntryText`: one step of the reader gives the field, and so does the entry cut out of
  its text;
* `BodyText`: the reader goes up to the closing brace, and the body is cut into entries
  that give the same fields.
-/

namespace Choreography

open Text Literal Expression

/-- The animation that a field of an object names, if its value is an object. -/
def animation? : String × Template → Option (String × Fields Template)
  | (name, .object options) => some (name, options)
  | _ => none

/-- The inside of an object and the fields that it writes. -/
structure BodyText (scope : Scope) (text : List Char) (fields : List (String × Template)) :
    Prop where
  keeps : Scan.Keeps text
  noBrace : (trimStart text).head? ≠ some '{'
  reads : ∀ (stop fuel : Nat) (after : List Char), 2 * text.length + 1 ≤ fuel →
    readFields ⟨scope, stop⟩ fuel (text ++ '}' :: after) = .ok (fields, after)
  options : ∀ offset, (entriesOf ⟨text, offset⟩).map (readOption scope) = fields.map .ok
  named : ∀ (source : String) (offset : Nat),
    ((entriesOf ⟨text, offset⟩).map (compileNamed scope source)).flatMap Compiled.result =
      fields.filterMap animation?
  quiet : ∀ (source : String) (offset : Nat),
    ((entriesOf ⟨text, offset⟩).map (compileNamed scope source)).flatMap Compiled.diagnostics =
        [] ↔
      ∀ field ∈ fields, (animation? field).isSome = true

/-- The text of a value and the value. -/
structure ValueText (scope : Scope) (text : List Char) (value : Template) : Prop where
  solid : Scan.Solid text
  first : ∃ c rest, text = c :: rest ∧ isBlank c = false ∧ c ≠ ']'
  reads : ∀ (stop fuel : Nat) {after : List Char}, 2 * text.length ≤ fuel → Boundary after →
    readValue ⟨scope, stop⟩ fuel (text ++ after) = .ok (value, after)
  object : ∀ options, value = .object options → ∃ body fields,
    text = '{' :: (body ++ ['}']) ∧ BodyText scope body fields ∧ options = Fields.ofList fields
  brace : text.head? = some '{' → ∃ options, value = .object options

/-- The text of an entry and its field. -/
structure EntryText (scope : Scope) (text : List Char) (field : String × Template) : Prop where
  keeps : Scan.Keeps text
  run : Scan.start.run text = Scan.start
  free : Scan.start.IsFree ',' text
  starts : ∃ c, (trimStart text).head? = some c ∧ c ≠ '{' ∧ c ≠ '}'
  last : ∀ (stop fuel : Nat) (after : List Char), 2 * text.length ≤ fuel →
    readFields ⟨scope, stop⟩ (fuel + 1) (text ++ '}' :: after) = .ok ([field], after)
  more : ∀ (stop fuel : Nat) {after rest : List Char} {fields : List (String × Template)},
    2 * text.length ≤ fuel → readFields ⟨scope, stop⟩ fuel after = .ok (fields, rest) →
    readFields ⟨scope, stop⟩ (fuel + 1) (text ++ ',' :: after) = .ok (field :: fields, rest)
  option : ∀ offset, readOption scope ⟨text, offset⟩ = .ok field
  named : ∀ (source : String) (offset : Nat),
    (compileNamed scope source ⟨text, offset⟩).result = (animation? field).toList
  quiet : ∀ (source : String) (offset : Nat),
    (compileNamed scope source ⟨text, offset⟩).diagnostics = [] ↔
      (animation? field).isSome = true

variable {scope : Scope} {text : List Char} {fields : List (String × Template)}

/-! ## Bodies -/

/-- Where every entry of a body gives a field, the body gives these fields and no
warning. -/
theorem BodyText.compileBody_eq (written : BodyText scope text fields) (source : String)
    (offset : Nat) : compileBody scope source ⟨text, offset⟩ = ⟨Fields.ofList fields, []⟩ := by
  have options := written.options offset
  have result : (entriesOf ⟨text, offset⟩).filterMap
      (fun entry => (readOption scope entry).toOption) = fields := by
    have same := congrArg (List.filterMap Except.toOption) options
    rw [List.filterMap_map, List.filterMap_map] at same
    exact same.trans (List.filterMap_some ..)
  have quiet : ∀ entry ∈ entriesOf ⟨text, offset⟩, ∃ field, readOption scope entry = .ok field := by
    intro entry here
    have among : readOption scope entry ∈ fields.map .ok := options ▸ List.mem_map_of_mem here
    obtain ⟨field, -, same⟩ := List.mem_map.mp among
    exact ⟨field, same.symm⟩
  simp only [compileBody, List.filterMap_map, Compiled.mk.injEq, List.filterMap_eq_nil_iff,
    Function.comp_apply]
  refine ⟨congrArg Fields.ofList result, ?_⟩
  intro entry here
  obtain ⟨field, same⟩ := quiet entry here
  rw [same]

/-- A blank body writes no fields. -/
theorem BodyText.of_blank (scope : Scope) (blank : isBlankText text = true) :
    BodyText scope text [] := by
  have solid := solid_of_isBlankText blank
  have nothing : ∀ offset, entriesOf ⟨text, offset⟩ = [] := by
    intro offset
    rw [entriesOf, Segment.splitTop_of_free (solid.free ',' rfl)]
    simp [Segment.isBlank, blank]
  exact {
    keeps := solid.keeps
    noBrace := by
      rw [trimStart_eq_nil_iff.mpr blank]
      exact nofun
    reads := by
      intro stop fuel after enough
      obtain ⟨fuel, rfl⟩ : ∃ less, fuel = less + 1 := ⟨fuel - 1, by omega⟩
      rewrite [readFields, trimStart_append blank, trimStart_cons rfl]
      rfl
    options := by
      intro offset
      rw [nothing]
      rfl
    named := by
      intro source offset
      rw [nothing]
      rfl
    quiet := by
      intro source offset
      rw [nothing]
      exact iff_of_true rfl nofun }

namespace EntryText

variable {field : String × Template}

theorem not_blank (entry : EntryText scope text field) : isBlankText text = false := by
  obtain ⟨c, head, -⟩ := entry.starts
  cases blank : isBlankText text with
  | false => rfl
  | true =>
    rw [trimStart_eq_nil_iff.mpr blank] at head
    cases head

theorem entriesOf_last (entry : EntryText scope text field) (offset : Nat) :
    entriesOf ⟨text, offset⟩ = [⟨text, offset⟩] := by
  rw [entriesOf, Segment.splitTop_of_free entry.free]
  simp [Segment.isBlank, entry.not_blank]

theorem entriesOf_more (entry : EntryText scope text field) (rest : List Char) (offset : Nat) :
    entriesOf ⟨text ++ ',' :: rest, offset⟩ =
      ⟨text, offset⟩ :: entriesOf ⟨rest, offset + width text + ','.utf8Size⟩ := by
  rw [entriesOf, Segment.splitTop_append rfl entry.free entry.run]
  simp [Segment.isBlank, entry.not_blank, entriesOf]

theorem noBrace (entry : EntryText scope text field) (after : List Char) :
    (trimStart (text ++ after)).head? ≠ some '{' := by
  obtain ⟨c, head, other, -⟩ := entry.starts
  rw [head?_trimStart_append head after]
  simpa using other

/-- One entry is a body. -/
theorem bodyText (entry : EntryText scope text field) : BodyText scope text [field] where
  keeps := entry.keeps
  noBrace := by
    have other := entry.noBrace []
    rwa [List.append_nil] at other
  reads := by
    intro stop fuel after enough
    obtain ⟨fuel, rfl⟩ : ∃ less, fuel = less + 1 := ⟨fuel - 1, by omega⟩
    exact entry.last stop fuel after (by omega)
  options := by
    intro offset
    rw [entry.entriesOf_last, List.map_singleton, entry.option]
    rfl
  named := by
    intro source offset
    rw [entry.entriesOf_last, List.map_singleton, List.flatMap_singleton, entry.named]
    cases found : animation? field <;> simp [found]
  quiet := by
    intro source offset
    rw [entry.entriesOf_last]
    simp [entry.quiet]

/-- An entry, a comma and a body are a body. -/
theorem bodyText_cons (entry : EntryText scope text field) {rest : List Char}
    (later : BodyText scope rest fields) :
    BodyText scope (text ++ ',' :: rest) (field :: fields) where
  keeps := entry.keeps.append ((Scan.keeps_separator rfl).append later.keeps)
  noBrace := entry.noBrace _
  reads := by
    intro stop fuel after enough
    rw [List.length_append, List.length_cons] at enough
    obtain ⟨fuel, rfl⟩ : ∃ less, fuel = less + 1 := ⟨fuel - 1, by omega⟩
    have read := later.reads stop fuel after (by omega)
    rw [List.append_assoc, List.cons_append]
    exact entry.more stop fuel (by omega) read
  options := by
    intro offset
    rw [entry.entriesOf_more, List.map_cons, List.map_cons, entry.option, later.options]
  named := by
    intro source offset
    rw [entry.entriesOf_more, List.map_cons, List.flatMap_cons, later.named, entry.named]
    cases found : animation? field <;> simp [found]
  quiet := by
    intro source offset
    rw [entry.entriesOf_more, List.map_cons, List.flatMap_cons, List.append_eq_nil_iff,
      entry.quiet, later.quiet, List.forall_mem_cons]

end EntryText

/-! ## Entries -/

theorem ok_bind {ε α β : Type} (a : α) (next : α → Except ε β) :
    (Except.ok a >>= next) = next a := rfl

/-- The reader takes blanks before a value off. -/
theorem readValue_append {blanks : List Char} (blank : isBlankText blanks = true)
    (context : Context) (fuel : Nat) (text : List Char) :
    readValue context fuel (blanks ++ text) = readValue context fuel text := by
  cases fuel with
  | zero => rfl
  | succ fuel => simp only [readValue, trimStart_append blank]

theorem readContinuation_comma {blanks : List Char} (blank : isBlankText blanks = true)
    (context : Context) (closer : Char) (rest : List Char) :
    readContinuation context closer (blanks ++ ',' :: rest) = .ok (.more, rest) := by
  rewrite [readContinuation, trimStart_append blank, trimStart_cons rfl]
  rfl

theorem readContinuation_closer {blanks : List Char} (blank : isBlankText blanks = true)
    (context : Context) {closer : Char} (closes : closer = '}' ∨ closer = ']')
    (rest : List Char) :
    readContinuation context closer (blanks ++ closer :: rest) = .ok (.done, rest) := by
  rcases closes with rfl | rfl
  · rewrite [readContinuation, trimStart_append blank, trimStart_cons rfl]
    rfl
  · rewrite [readContinuation, trimStart_append blank, trimStart_cons rfl]
    rfl

/-- One step of the reader of fields: a key, a colon and a value, and then what the
continuation asks for. -/
theorem readFields_step {context : Context} {fuel : Nat} {c : Char} {name : String}
    {value : Template} {left left' left'' : List Char}
    (head : (trimStart text).head? = some c) (other : c ≠ '}')
    (key : readKey context text = .ok (name, left))
    (colon : readColon context left = .ok ((), left'))
    (read : readValue context fuel left' = .ok (value, left'')) :
    readFields context (fuel + 1) text = (do
      match ← readContinuation context '}' left'' with
      | (.done, rest) => .ok ([(name, value)], rest)
      | (.more, rest) =>
        let (fields, rest) ← readFields context fuel rest
        .ok ((name, value) :: fields, rest)) := by
  rw [readFields]
  split
  · rename_i nothing
    rw [nothing] at head
    cases head
  · rename_i closes
    rw [closes] at head
    cases head
    exact absurd rfl other
  · rewrite [key, ok_bind]
    show (readColon context left >>= _) = _
    rewrite [colon, ok_bind]
    show (readValue context fuel left' >>= _) = _
    rewrite [read, ok_bind]
    rfl

namespace ValueText

variable {value : Template} {before after : List Char}

/-- A value with blanks around it is read from its own text alone. -/
theorem read_eq (written : ValueText scope text value) (blank : isBlankText before = true)
    (blank' : isBlankText after = true) (offset : Nat) :
    Template.read scope ⟨before ++ (text ++ after), offset⟩ = .ok value := by
  obtain ⟨c, rest, rfl, visible, -⟩ := written.first
  have read := written.reads (offset + width (before ++ (c :: rest ++ after)))
    (fuelFor (c :: rest ++ after)) (by rw [fuelFor, List.length_append]; omega)
    (boundary_of_isBlankText blank')
  rw [Template.read]
  simp only [trimStart_append blank, List.cons_append, trimStart_cons visible] at read ⊢
  simp only [read, ok_bind, trimStart_eq_nil_iff.mpr blank']

/-- A value that is no object is not unwrapped, and one that is an object is unwrapped to
its body. -/
theorem unwrap?_eq (written : ValueText scope text value) (blank : isBlankText before = true)
    (blank' : isBlankText after = true) (offset : Nat) :
    (∃ options body fields inside, value = .object options ∧ BodyText scope body fields ∧
      options = Fields.ofList fields ∧
      Segment.unwrap? ⟨before ++ (text ++ after), offset⟩ = some ⟨body, inside⟩) ∨
    ((∀ options, value ≠ .object options) ∧
      Segment.unwrap? ⟨before ++ (text ++ after), offset⟩ = none) := by
  by_cases isObject : ∃ options, value = .object options
  · obtain ⟨options, same⟩ := isObject
    obtain ⟨body, fields, rfl, inner, list⟩ := written.object options same
    have unwrapped := Segment.unwrap?_of_keeps inner.keeps blank blank' offset
    exact .inl ⟨options, body, fields, _, same, inner, list, unwrapped⟩
  · refine .inr ⟨fun options same => isObject ⟨options, same⟩, Segment.unwrap?_eq_none ?_ offset⟩
    obtain ⟨c, rest, rfl, visible, -⟩ := written.first
    rw [trimStart_append blank, List.cons_append, trimStart_cons visible]
    intro brace
    exact isObject (written.brace brace)

end ValueText

theorem animation?_eq_none {name : String} {value : Template}
    (other : ∀ options, value ≠ .object options) : animation? (name, value) = none := by
  cases value with
  | object options => exact absurd rfl (other options)
  | _ => rfl

/-- An entry of a mapping gives the animation of its field, and a warning exactly if the
field names none. -/
theorem ValueText.compileNamed_eq {value : Template} {name : String} {entry : Segment}
    {before after : List Char} {place : Nat} (written : ValueText scope text value)
    (blank : isBlankText before = true) (blank' : isBlankText after = true)
    (split : splitEntry entry = .ok (name, ⟨before ++ (text ++ after), place⟩))
    (source : String) :
    (compileNamed scope source entry).result = (animation? (name, value)).toList ∧
      ((compileNamed scope source entry).diagnostics = [] ↔
        (animation? (name, value)).isSome = true) := by
  rcases written.unwrap?_eq blank blank' place with
    ⟨options, body, fields, inside, rfl, inner, rfl, unwrapped⟩ | ⟨other, kept⟩
  · have read : readNamed entry = .ok (name, ⟨body, inside⟩) := by
      simp only [readNamed, split, ok_bind, unwrapped]
    simp [compileNamed, read, inner.compileBody_eq, animation?]
  · have read : readNamed entry = .error (.notAnObject name) := by
      simp only [readNamed, split, ok_bind, kept]
    simp [compileNamed, read, animation?_eq_none other]

section

variable {front before after : List Char} {name : String} {value : Template}
  (key : KeyText front name)

include key

/-- The text before the first top-level colon is the key, and the rest comes after it. -/
theorem splitEntry_of_key (rest : List Char) (offset : Nat) :
    ∃ place, splitEntry ⟨front ++ ':' :: rest, offset⟩ = .ok (name, ⟨rest, place⟩) := by
  have found := Scan.findTop?_of_free rfl (key.solid.free ':' rfl) key.solid.run rest
  simp only [splitEntry, found, key.denotes]
  exact ⟨_, rfl⟩

variable (written : ValueText scope text value) (blank : isBlankText before = true)

include written blank

/-- The reader goes from the key of an entry to what follows its value. -/
theorem readFields_entry {stop fuel : Nat} {rest : List Char}
    (enough : 2 * (front ++ ':' :: (before ++ (text ++ after))).length ≤ fuel)
    (boundary : Boundary (after ++ rest)) :
    readFields ⟨scope, stop⟩ (fuel + 1)
        (front ++ ':' :: (before ++ (text ++ after)) ++ rest) = (do
      match ← readContinuation ⟨scope, stop⟩ '}' (after ++ rest) with
      | (.done, rest) => .ok ([(name, value)], rest)
      | (.more, rest) =>
        let (fields, rest) ← readFields ⟨scope, stop⟩ fuel rest
        .ok ((name, value) :: fields, rest)) := by
  obtain ⟨c, head, -, other⟩ := key.starts
  obtain ⟨left, reads, colon⟩ := key.reads ⟨scope, stop⟩ (before ++ (text ++ (after ++ rest)))
  have shape : front ++ ':' :: (before ++ (text ++ after)) ++ rest =
      front ++ ':' :: (before ++ (text ++ (after ++ rest))) := by simp
  -- the entry is longer than its value, so the fuel is enough for the value
  simp only [List.length_append, List.length_cons] at enough
  rw [shape]
  refine readFields_step (head?_trimStart_append head _) other reads colon ?_
  rw [readValue_append blank]
  exact written.reads stop fuel (by omega) boundary

/-- **A key, a colon and a value**, with blanks around the value, are an entry. -/
theorem entryText (blank' : isBlankText after = true) :
    EntryText scope (front ++ ':' :: (before ++ (text ++ after))) (name, value) := by
  have solid : Scan.Solid (before ++ (text ++ after)) :=
    (solid_of_isBlankText blank).append (written.solid.append (solid_of_isBlankText blank'))
  obtain ⟨c, head, other⟩ := key.starts
  exact {
    keeps := key.solid.keeps.append ((Scan.keeps_separator rfl).append solid.keeps)
    run := by
      rw [Scan.run_append, key.solid.run]
      exact solid.run
    free := by
      rw [Scan.isFree_append, key.solid.run]
      exact ⟨key.solid.free ',' rfl, rfl, solid.free ',' rfl⟩
    starts := ⟨c, head?_trimStart_append head _, other⟩
    last := by
      intro stop fuel rest enough
      rw [readFields_entry key written blank enough (boundary_append blank' (.inr (.inl rfl)) rest),
        readContinuation_closer blank' _ (.inl rfl), ok_bind]
    more := by
      intro stop fuel rest left fields enough later
      rw [readFields_entry key written blank enough (boundary_append blank' (.inl rfl) rest),
        readContinuation_comma blank']
      simp only [ok_bind, later]
    option := by
      intro offset
      obtain ⟨place, split⟩ := splitEntry_of_key key (before ++ (text ++ after)) offset
      simp only [readOption, split, ok_bind, written.read_eq blank blank']
    named := by
      intro source offset
      obtain ⟨place, split⟩ := splitEntry_of_key key (before ++ (text ++ after)) offset
      exact (written.compileNamed_eq blank blank' split source).1
    quiet := by
      intro source offset
      obtain ⟨place, split⟩ := splitEntry_of_key key (before ++ (text ++ after)) offset
      exact (written.compileNamed_eq blank blank' split source).2 }

end

end Choreography
