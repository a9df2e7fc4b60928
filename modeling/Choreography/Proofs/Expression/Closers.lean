import Choreography.Proofs.Expression.Layout

/-!
# What closes an object

The outermost brackets of an object are taken off before its inside is read, and only there
the kind of the closing one is not compared with that of the opening one.  So **an expression
that is compiled without a warning gives each animation an object that a brace opens and a
bracket closes**, with quotes closed and brackets nested between the two
(`compile_closed_of_quiet`), but **the bracket may be of any kind**: it makes no difference to
what is compiled (`compile_closer`, `compileNamed_closer`).  A mismatched one is passed over in
silence (`compile_quiet_on_mismatched`), although a mismatched bracket further inside is refused.
-/

namespace Choreography

open Text

/-- But for blanks around it, a text is put in brackets that a brace opens and `closer`
closes. -/
def ClosedBy (closer : Char) (text : List Char) : Prop :=
  ∃ body, Grammar.Nested body ∧ trim text = '{' :: (body ++ [closer])

/-- A text that is closed by a bracket ends with it. -/
theorem ClosedBy.getLast? {closer : Char} {text : List Char} (closed : ClosedBy closer text) :
    (trim text).getLast? = some closer := by
  obtain ⟨body, -, same⟩ := closed
  rw [same, ← List.cons_append, List.getLast?_concat]

theorem closedBy_of_unwrap? {text : List Char} {offset : Nat} {inside : Segment}
    (unwrapped : Segment.unwrap? ⟨text, offset⟩ = some inside) :
    ∃ closer, Scan.isClosing closer = true ∧ ClosedBy closer text := by
  obtain ⟨keeps, closer, closes, trimmed⟩ := Segment.keeps_of_unwrap? unwrapped
  exact ⟨closer, closes, inside.text, keeps.nested, trimmed⟩

namespace Expression

variable {scope : Scope} {source : String}

/-! ## The closing bracket is not compared -/

section

variable {before body after : List Char} {closer other : Char}
  (blank : isBlankText before = true) (nested : Grammar.Nested body)
  (closes : Scan.isClosing closer = true) (closes' : Scan.isClosing other = true)
  (blank' : isBlankText after = true)

include blank nested closes closes' blank'

theorem unwrap?_closer (offset : Nat) :
    Segment.unwrap? ⟨before ++ ('{' :: (body ++ [closer]) ++ after), offset⟩ =
      Segment.unwrap? ⟨before ++ ('{' :: (body ++ [other]) ++ after), offset⟩ := by
  rw [Segment.unwrap?_of_closing nested.keeps closes blank blank',
    Segment.unwrap?_of_closing nested.keeps closes' blank blank']

/-- **The bracket that closes an expression** makes no difference to what is compiled. -/
theorem compile_closer (scope : Scope) (source : String) :
    compile scope source (before ++ ('{' :: (body ++ [closer]) ++ after)) =
      compile scope source (before ++ ('{' :: (body ++ [other]) ++ after)) := by
  have visible (last : Char) :
      isBlankText (before ++ ('{' :: (body ++ [last]) ++ after)) = false := by
    simp [isBlankText, show isBlank '{' = false from rfl]
  simp only [compile, visible, unwrap?_closer blank nested closes closes' blank' 0,
    Segment.unwrap?_of_closing nested.keeps closes' blank blank']

/-- **The bracket that closes the object of a name** makes no difference to what is
compiled. -/
theorem compileNamed_closer {entry entry' : Segment} {name : String} {place : Nat}
    (split : splitEntry entry =
      .ok (name, ⟨before ++ ('{' :: (body ++ [closer]) ++ after), place⟩))
    (split' : splitEntry entry' =
      .ok (name, ⟨before ++ ('{' :: (body ++ [other]) ++ after), place⟩))
    (scope : Scope) (source : String) :
    compileNamed scope source entry = compileNamed scope source entry' := by
  have read : readNamed entry = .ok (name, ⟨body, place + width before + 1⟩) := by
    simp only [readNamed, split, ok_bind,
      Segment.unwrap?_of_closing nested.keeps closes blank blank']
  have read' : readNamed entry' = .ok (name, ⟨body, place + width before + 1⟩) := by
    simp only [readNamed, split', ok_bind,
      Segment.unwrap?_of_closing nested.keeps closes' blank blank']
  simp only [compileNamed, read, read']

end

/-! ## Expressions without warnings -/

/-- A name that is read stands before an object that some bracket closes. -/
theorem closedBy_of_readNamed {entry body : Segment} {name : String}
    (read : readNamed entry = .ok (name, body)) :
    ∃ value, splitEntry entry = .ok (name, value) ∧
      ∃ closer, Scan.isClosing closer = true ∧ ClosedBy closer value.text := by
  obtain ⟨⟨key, value⟩, split, rest⟩ := exists_of_bind_ok read
  dsimp only at rest
  split at rest
  · rename_i inside unwrapped
    cases rest
    exact ⟨value, split, closedBy_of_unwrap? unwrapped⟩
  · cases rest

/-- An entry of a mapping without warnings is a name and an object. -/
theorem exists_readNamed {entry : Segment}
    (quiet : (compileNamed scope source entry).diagnostics = []) :
    ∃ name body, readNamed entry = .ok (name, body) := by
  rw [compileNamed] at quiet
  split at quiet
  · rename_i name body read
    exact ⟨name, body, read⟩
  · cases quiet

/-- **Without a warning every animation has an object that a bracket closes**: the whole text
for the one without a name of its own, and the value of its entry for each named one. -/
theorem compile_closed_of_quiet (scope : Scope) (source : String) (text : List Char)
    (visible : isBlankText text = false)
    (quiet : (compile scope source text).diagnostics = []) :
    (∃ options, (compile scope source text).result = .bare options ∧
      ∃ closer, Scan.isClosing closer = true ∧ ClosedBy closer text) ∨
    (∃ animations, (compile scope source text).result = .named animations ∧
      ∀ entry ∈ entriesOf ⟨text, 0⟩, ∃ name value, splitEntry entry = .ok (name, value) ∧
        ∃ closer, Scan.isClosing closer = true ∧ ClosedBy closer value.text) := by
  cases unwrapped : Segment.unwrap? ⟨text, 0⟩ with
  | some body =>
    refine .inl ⟨(compileBody scope source body).result, ?_, closedBy_of_unwrap? unwrapped⟩
    simp only [compile, visible, unwrapped, Bool.false_eq_true, if_false]
  | none =>
    simp only [compile, visible, unwrapped, Bool.false_eq_true, if_false] at quiet ⊢
    refine .inr ⟨_, rfl, fun entry here => ?_⟩
    -- a mapping is quiet only if each of its entries is
    have all : ((entriesOf ⟨text, 0⟩).map (compileNamed scope source)).flatMap
        Compiled.diagnostics = [] := quiet
    obtain ⟨name, body, read⟩ :=
      exists_readNamed (List.flatMap_eq_nil_iff.mp all _ (List.mem_map_of_mem here))
    obtain ⟨value, split, closed⟩ := closedBy_of_readNamed read
    exact ⟨name, value, split, closed⟩

/-- Of two names one has an object that a brace closes, the other one that a square bracket
closes. -/
theorem compile_closed_beside_mismatched :
    let text := ['a', ':', '{', 'x', ':', '1', '}', ',', 'b', ':', '{', 'x', ':', '1', ']']
    isBlankText text = false ∧ (compile [] "page" text).diagnostics = [] ∧
      ∀ entry ∈ entriesOf ⟨text, 0⟩, ∃ name value, splitEntry entry = .ok (name, value) ∧
        ∃ closer, Scan.isClosing closer = true ∧ ClosedBy closer value.text := by
  intro text
  have visible : isBlankText text = false := by decide
  have quiet : (compile [] "page" text).diagnostics = [] := by decide +kernel
  refine ⟨visible, quiet, ?_⟩
  rcases compile_closed_of_quiet [] "page" text visible quiet with
    ⟨options, bare, -⟩ | ⟨animations, -, closed⟩
  · obtain ⟨animations, named⟩ :
        ∃ animations, (compile [] "page" text).result = .named animations := ⟨_, rfl⟩
    rw [named] at bare
    cases bare
  · exact closed

/-- The brace of an expression, and the one of a named object, are closed by other brackets,
and no warning says so. -/
theorem compile_quiet_on_mismatched :
    let bare := ['{', 'x', ':', '1', ']']
    let mapping := ['a', ':', '{', 'x', ':', '1', ')']
    (isBlankText bare = false ∧ (compile [] "page" bare).diagnostics = [] ∧
      (∃ options, (compile [] "page" bare).result = .bare options) ∧ ¬ ClosedBy '}' bare) ∧
    (isBlankText mapping = false ∧ (compile [] "page" mapping).diagnostics = [] ∧
      (∃ animations, (compile [] "page" mapping).result = .named animations) ∧
      ∃ entry ∈ entriesOf ⟨mapping, 0⟩, ∃ name value, splitEntry entry = .ok (name, value) ∧
        ¬ ClosedBy '}' value.text) := by
  intro bare mapping
  refine ⟨⟨by decide, by decide +kernel, ⟨_, rfl⟩, fun closed => ?_⟩,
    ⟨by decide, by decide +kernel, ⟨_, rfl⟩, ⟨mapping, 0⟩, ?_, "a", ⟨mapping.drop 2, 2⟩, rfl,
      fun closed => ?_⟩⟩
  · exact absurd closed.getLast? (by decide)
  · exact List.mem_singleton.mpr rfl
  · exact absurd closed.getLast? (by decide)

end Expression

end Choreography
