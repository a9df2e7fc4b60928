import Choreography.Proofs.Expression.Layout
import Choreography.Proofs.Fields.Mapped

/-!
# The two ways to read an expression

The text of a directive is cut into entries that are read one by one, so that a bad entry
does not spoil the others; the text of one value is read from its front to its end.
**Wherever the second way accepts a text, the first one agrees with it**
(`compile_agrees_with_read`):

* a text that is read as an object gives exactly the options of this object, in their
  order, and no diagnostics;
* a text that is read as an object of objects once braces are put around it gives exactly
  these named animations.

In the second case an entry whose value is no object is passed over with a warning even if
a later entry of the same name replaces it (`compile_warns_of_replaced_entry`), so there are
no diagnostics exactly if every value that is written is an object, and then the names
keep their order too.
-/

namespace Choreography

open Text Literal

namespace Literal

/-- The fields that the inside of an object writes, in order and with repeated keys. -/
def writtenFields? (scope : Scope) (body : List Char) : Option (List (String × Template)) :=
  match readFields ⟨scope, width body + 1⟩ (fuelFor body) (body ++ ['}']) with
  | .ok (fields, []) => some fields
  | _ => none

end Literal

namespace Expression

variable {scope : Scope} {text : List Char} {options : Fields Template}
  {written : List (String × Template)}

/-! ## Objects -/

/-- **A text that is read as an object** is compiled to the options of that object. -/
theorem compile_bare (read : Template.read scope ⟨text, 0⟩ = .ok (.object options))
    (source : String) : compile scope source text = ⟨.bare options, []⟩ := by
  obtain ⟨before, token, after, blank, blank', rfl, valueText⟩ := exists_valueText read
  have notBlank : isBlankText (before ++ (token ++ after)) = false := by
    obtain ⟨c, rest, rfl, visible, -⟩ := valueText.first
    simp [isBlankText, visible]
  rcases valueText.unwrap?_eq blank blank' 0 with
    ⟨_, body, fields, inside, same, bodyText, rfl, unwrapped⟩ | ⟨other, -⟩
  · cases same
    simp only [compile, notBlank, unwrapped, bodyText.compileBody_eq, Bool.false_eq_true, if_false]
  · exact absurd rfl (other options)

/-! ## Bodies without braces -/

theorem writtenFields?_eq (bodyText : BodyText scope text written) :
    writtenFields? scope text = some written := by
  have read := bodyText.reads (width text + 1) (fuelFor text) [] (by rw [fuelFor]; omega)
  rw [writtenFields?, read]

/-- A body without braces around it is compiled to the animations that its fields name. -/
theorem compile_named (bodyText : BodyText scope text written)
    (visible : isBlankText text = false) (source : String) :
    (compile scope source text).result = .named (Fields.ofList (written.filterMap animation?)) ∧
      ((compile scope source text).diagnostics = [] ↔
        ∀ field ∈ written, (animation? field).isSome = true) := by
  have kept : Segment.unwrap? ⟨text, 0⟩ = none := Segment.unwrap?_eq_none bodyText.noBrace 0
  rw [compile, visible]
  simp only [Bool.false_eq_true, if_false, kept, compileMapping, bodyText.named source 0]
  exact ⟨trivial, bodyText.quiet source 0⟩

/-! ## Named animations -/

theorem isSome_animation? {field : String × Template} :
    (animation? field).isSome = true ↔ ∃ inner, field.2 = .object inner := by
  obtain ⟨name, value⟩ := field
  cases value <;> simp [animation?]

/-- Where all values are objects, the fields are the animations with their options made
objects. -/
theorem mapValues_filterMap_animation?
    (objects : ∀ field ∈ written, ∃ inner, field.2 = .object inner) :
    Fields.mapValues Template.object (written.filterMap animation?) = written := by
  induction written with
  | nil => rfl
  | cons field rest ih =>
    obtain ⟨name, value⟩ := field
    obtain ⟨first, later⟩ := List.forall_mem_cons.mp objects
    obtain ⟨inner, rfl⟩ := first
    exact congrArg ((name, Template.object inner) :: ·) (ih later)

/-- While fields are put one after the other, a name that stands for an object names an
animation with its options, and a name that is not there names none. -/
structure NamesAnimations (fields : Fields Template) (animations : Fields (Fields Template)) :
    Prop where
  object : ∀ name inner, Fields.get? fields name = some (.object inner) →
    Fields.get? animations name = some inner
  absent : ∀ name, Fields.get? fields name = none → Fields.get? animations name = none

theorem NamesAnimations.nil : NamesAnimations [] [] := by
  refine ⟨?_, fun _ _ => rfl⟩
  intro name inner found
  cases found

theorem NamesAnimations.put {fields : Fields Template} {animations : Fields (Fields Template)}
    (names : NamesAnimations fields animations) (field : String × Template) :
    NamesAnimations (Fields.put fields field.1 field.2)
      (Fields.putAll animations (animation? field).toList) := by
  obtain ⟨key, value⟩ := field
  have absent {after : Fields (Fields Template)} (same : ∀ name, key ≠ name →
      Fields.get? after name = Fields.get? animations name) (name : String)
      (missing : Fields.get? (Fields.put fields key value) name = none) :
      Fields.get? after name = none := by
    rw [Fields.get?_put] at missing
    split at missing
    · cases missing
    · rename_i other
      rw [same name other]
      exact names.absent name missing
  by_cases isObject : ∃ options, value = .object options
  · -- the field and the animation are put under the same name
    obtain ⟨options, rfl⟩ := isObject
    refine ⟨?_, absent fun name other => ?_⟩
    · intro name inner found
      rw [Fields.get?_put] at found
      show Fields.get? (Fields.put animations key options) name = some inner
      rw [Fields.get?_put]
      split at found
      · rename_i same
        cases found
        rw [if_pos same]
      · rename_i other
        rw [if_neg other]
        exact names.object name inner found
    · show Fields.get? (Fields.put animations key options) name = _
      rw [Fields.get?_put, if_neg other]
  · -- such a field names no animation, and its name stands for no object any more
    have none_ : animation? (key, value) = none :=
      animation?_eq_none fun options same => isObject ⟨options, same⟩
    rw [none_]
    refine ⟨?_, absent fun name other => rfl⟩
    intro name inner found
    rw [Fields.get?_put] at found
    split at found
    · cases found
      exact absurd ⟨inner, rfl⟩ isObject
    · exact names.object name inner found

/-- It stays so while more fields are put. -/
theorem NamesAnimations.putAll {fields : Fields Template}
    {animations : Fields (Fields Template)} (names : NamesAnimations fields animations)
    (written : List (String × Template)) :
    NamesAnimations (Fields.putAll fields written)
      (Fields.putAll animations (written.filterMap animation?)) := by
  induction written generalizing fields animations with
  | nil => exact names
  | cons field rest ih =>
    have later := ih (names.put field)
    cases found : animation? field with
    | none =>
      rw [found] at later
      rw [List.filterMap_cons_none found]
      exact later
    | some animation =>
      rw [found] at later
      rw [List.filterMap_cons_some found]
      exact later

/-- Where all values that are not replaced are objects, they are the animations that are
named, in some order. -/
theorem perm_animations
    (objects : ∀ field ∈ Fields.ofList written, ∃ inner, field.2 = .object inner) :
    (Fields.mapValues Template.object (Fields.ofList (written.filterMap animation?))).Perm
      (Fields.ofList written) := by
  have names : NamesAnimations (Fields.ofList written)
      (Fields.ofList (written.filterMap animation?)) :=
    NamesAnimations.nil.putAll written
  refine Fields.perm_of_get?_eq ?_ (Fields.nodup_keys_ofList _) ?_
  · rw [Fields.keys_mapValues]
    exact Fields.nodup_keys_ofList _
  · intro name
    rw [Fields.get?_mapValues]
    cases found : Fields.get? (Fields.ofList written) name with
    | none => rw [names.absent name found, Option.map_none]
    | some value =>
      have here := (Fields.mem_iff_get? (Fields.nodup_keys_ofList written)).mpr found
      obtain ⟨inner, rfl⟩ := objects _ here
      rw [names.object name inner found, Option.map_some]

/-! ## The agreement -/

/-- **Both ways to read an expression agree** wherever the reader of literals accepts the
text as it stands, or with braces around it. -/
theorem compile_agrees_with_read (scope : Scope) (source : String) (text : List Char) :
    (∀ options, Template.read scope ⟨text, 0⟩ = .ok (.object options) →
      compile scope source text = ⟨.bare options, []⟩) ∧
    (∀ options, isBlankText text = false →
      Template.read scope ⟨'{' :: (text ++ ['}']), 0⟩ = .ok (.object options) →
      (∀ field ∈ options, ∃ inner, field.2 = .object inner) →
      ∃ written animations,
        writtenFields? scope text = some written ∧ options = Fields.ofList written ∧
        (compile scope source text).result = .named animations ∧
        (Fields.mapValues Template.object animations).Perm options ∧
        ((compile scope source text).diagnostics = [] ↔
          ∀ field ∈ written, ∃ inner, field.2 = .object inner) ∧
        ((∀ field ∈ written, ∃ inner, field.2 = .object inner) →
          Fields.mapValues Template.object animations = options)) := by
  refine ⟨fun options read => compile_bare read source, ?_⟩
  intro options visible read objects
  obtain ⟨written, bodyText, rfl⟩ := exists_bodyText read
  obtain ⟨result, quiet⟩ := compile_named bodyText visible source
  refine ⟨written, _, writtenFields?_eq bodyText, rfl, result, perm_animations objects, ?_, ?_⟩
  · rw [quiet]
    exact forall₂_congr fun field _ => isSome_animation?
  · intro all
    rw [Fields.mapValues_ofList, mapValues_filterMap_animation? all]

/-- A mapping with a quoted name, a bracket in a string and commas before the ends is read
both ways alike, and so is its first animation. -/
theorem compile_agrees_on_bracket_in_string :
    let bare := "\x7bx:[y,'\x7d'],\x7d".toList
    let mapping := "'a:b': \x7bx:[y,'\x7d'],\x7d, c:\x7b\x7d,".toList
    let options : Fields Template :=
      [("x", .array [.literal (.string "y"), .literal (.string "\x7d")])]
    compile [] "page" bare = ⟨.bare options, []⟩ ∧
      ∃ animations, compile [] "page" mapping = ⟨.named animations, []⟩ ∧
        Fields.mapValues Template.object animations =
          [("a:b", .object options), ("c", .object [])] := by
  intro bare mapping options
  let named : Fields Template := [("a:b", .object options), ("c", .object [])]
  -- spelled out, the texts are read by computation
  have bareSpelled : bare =
      ['{', 'x', ':', '[', 'y', ',', '\x27', '}', '\x27', ']', ',', '}'] := by decide
  have mappingSpelled : mapping =
      ['\x27', 'a', ':', 'b', '\x27', ':', ' ', '{', 'x', ':', '[', 'y', ',', '\x27', '}',
        '\x27', ']', ',', '}', ',', ' ', 'c', ':', '{', '}', ','] := by decide
  have readBare : Template.read [] ⟨bare, 0⟩ = .ok (.object options) := by
    rw [bareSpelled]
    rfl
  have visible : isBlankText mapping = false := by decide
  have readMapping :
      Template.read [] ⟨'{' :: (mapping ++ ['}']), 0⟩ = .ok (.object named) := by
    rw [mappingSpelled]
    rfl
  have objects : ∀ field ∈ named, ∃ inner, field.2 = Template.object inner := by simp [named]
  refine ⟨(compile_agrees_with_read [] "page" bare).1 options readBare, ?_⟩
  obtain ⟨written, animations, isWritten, -, result, -, quiet, order⟩ :=
    (compile_agrees_with_read [] "page" mapping).2 named visible readMapping objects
  have same : written = named := by
    rw [mappingSpelled] at isWritten
    exact (Option.some.inj isWritten).symm
  subst same
  have noDiagnostics := quiet.mpr objects
  refine ⟨animations, ?_, order objects⟩
  rw [← result, ← noDiagnostics]

/-- An entry whose value is no object is warned of although a later entry of the same name
replaces its value. -/
theorem compile_warns_of_replaced_entry :
    let text := "a: b, a: \x7bx: c\x7d".toList
    isBlankText text = false ∧
      Template.read [] ⟨'{' :: (text ++ ['}']), 0⟩ =
        .ok (.object [("a", .object [("x", .literal (.string "c"))])]) ∧
      (compile [] "page" text).diagnostics ≠ [] := by
  have spelled : "a: b, a: \x7bx: c\x7d".toList =
      ['a', ':', ' ', 'b', ',', ' ', 'a', ':', ' ', '{', 'x', ':', ' ', 'c', '}'] := by decide
  rw [spelled]
  exact ⟨by decide, rfl, by decide +kernel⟩

end Expression

end Choreography
