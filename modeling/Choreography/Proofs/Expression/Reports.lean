import Choreography.Animation

/-!
# What a compilation reports

The label and the element of a compilation are only shown, the one in its diagnostics
(`labelled_compile`) and the other in its animations (`element_of_mem_compile`).  No
diagnostic of a compilation is an error (`level_compile`).
-/

namespace Choreography

/-- A diagnostic with another label. -/
def Diagnostic.labelled (label : String) (diagnostic : Diagnostic) : Diagnostic :=
  { diagnostic with source := label }

namespace Expression

variable (scope : Scope) (source : String)

/-! ## Labels -/

/-- What was compiled, with another label on all its diagnostics. -/
def Compiled.labelled {α : Type} (label : String) (compiled : Compiled α) : Compiled α :=
  ⟨compiled.result, compiled.diagnostics.map (Diagnostic.labelled label)⟩

theorem labelled_compileBody (label : String) (body : Segment) :
    (compileBody scope source body).labelled label = compileBody scope label body := by
  simp only [compileBody, Compiled.labelled, List.filterMap_map, List.map_filterMap]
  congr 2
  funext entry
  simp only [Function.comp_apply]
  cases readOption scope entry <;> rfl

theorem labelled_compileNamed (label : String) (entry : Segment) :
    (compileNamed scope source entry).labelled label = compileNamed scope label entry := by
  rw [compileNamed, compileNamed]
  split
  · dsimp only
    rw [← labelled_compileBody scope source label]
    rfl
  · rfl

theorem labelled_compile (label : String) (text : List Char) :
    (compile scope source text).labelled label = compile scope label text := by
  have mapping (text : Segment) :
      (compileMapping scope source text).labelled label = compileMapping scope label text := by
    simp only [compileMapping, ← labelled_compileNamed scope source label, Compiled.labelled,
      List.flatMap_map, List.map_flatMap]
  rw [compile, compile]
  dsimp only
  split
  · rfl
  · split
    · rw [← labelled_compileBody scope source label]
      rfl
    · rw [← mapping]
      rfl

/-! ## Levels -/

theorem level_compileBody {body : Segment} {diagnostic : Diagnostic}
    (here : diagnostic ∈ (compileBody scope source body).diagnostics) :
    diagnostic.level = .warning := by
  obtain ⟨⟨entry, outcome⟩, -, skips⟩ := List.mem_filterMap.mp here
  cases outcome with
  | ok => cases skips
  | error => exact (Option.some.inj skips) ▸ rfl

theorem level_compile {text : List Char} {diagnostic : Diagnostic}
    (here : diagnostic ∈ (compile scope source text).diagnostics) :
    diagnostic.level = .warning := by
  rw [compile] at here
  dsimp only at here
  split at here
  · cases here
  · split at here
    · exact level_compileBody scope source here
    · obtain ⟨compiled, among, here⟩ := List.mem_flatMap.mp here
      obtain ⟨entry, -, rfl⟩ := List.mem_map.mp among
      rw [compileNamed] at here
      split at here
      · exact level_compileBody scope source here
      · rw [List.mem_singleton.mp here]
        rfl

end Expression

namespace Directive

variable (directive : Directive) (scope : Scope) (element : ElementId)

theorem labelled_compile (label other : String) :
    (directive.compile scope element label).labelled other =
      directive.compile scope element other := by
  rw [compile, compile, ← Expression.labelled_compile scope label other]
  obtain ⟨result, diagnostics⟩ := Expression.compile scope label directive.expression.toList
  cases result with
  | bare options => rfl
  | named animations =>
    simp [Expression.Compiled.labelled, Diagnostic.labelled, valueIgnored]

/-- The diagnostics do not depend on the element. -/
theorem diagnostics_compile_element (other : ElementId) (label : String) :
    (directive.compile scope element label).diagnostics =
      (directive.compile scope other label).diagnostics := by
  rw [compile, compile]
  dsimp only
  split <;> rfl

/-- No diagnostic of a compilation is an error. -/
theorem level_compile {label : String} {diagnostic : Diagnostic}
    (here : diagnostic ∈ (directive.compile scope element label).diagnostics) :
    diagnostic.level ≠ .error := by
  have warned : ∀ text, diagnostic ∈ (Expression.compile scope label text).diagnostics →
      diagnostic.level ≠ .error := by
    intro text among
    rw [Expression.level_compile scope label among]
    exact nofun
  rw [compile] at here
  dsimp only at here
  split at here
  · exact warned _ here
  · rcases List.mem_append.mp here with here | here
    · exact warned _ here
    · obtain ⟨value, -, rfl⟩ := List.mem_map.mp here
      exact nofun

/-- The animations of a directive are animations of its element. -/
theorem element_of_mem_compile {label : String} {animation : Animation}
    (here : animation ∈ (directive.compile scope element label).result) :
    animation.element = element := by
  rw [compile] at here
  dsimp only at here
  split at here
  · rw [List.mem_singleton.mp here]
  · obtain ⟨field, -, rfl⟩ := List.mem_map.mp here
    rfl

/-- The options of an animation have distinct names. -/
theorem nodup_keys_of_mem_compile {label : String} {animation : Animation}
    (here : animation ∈ (directive.compile scope element label).result) :
    (Fields.keys animation.options).Nodup := by
  have composed (options : Fields Template) : (Fields.keys (Fields.putAll (Modifier.entries
      (TriggerSet.extract directive.modifiers).2) options)).Nodup :=
    Fields.nodup_keys_putAll options (Modifier.nodup_keys_entries _)
  rw [compile] at here
  dsimp only at here
  split at here
  · rw [List.mem_singleton.mp here]
    exact composed _
  · obtain ⟨field, -, rfl⟩ := List.mem_map.mp here
    exact composed field.2

end Directive

end Choreography
