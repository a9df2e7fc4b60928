import Choreography.Proofs.Expression.Reports
import Choreography.Proofs.Expression.Scopes
import Choreography.Proofs.Stage.Reporting
import Choreography.Tool.DirectiveCheck

/-!
# What a check tells of a stage

Neither the animations of a directive nor its diagnostics depend on the scope, but for what
is a reference in one scope and a string in another.  So what the `compile` command of the
program and a check of a page report of a directive, without any data, **is what a stage
reports when the directive is applied to it** (`diagnostics_apply`), but for the label
(`compile_agrees_between_scopes`).
-/

namespace Choreography

/-! ## Checks -/

/-- The name of a directive starts like that of a directive. -/
theorem Directive.isPrefixOf_of_ofAttribute? {start name expression : String}
    {directive : Directive} (isDirective : ofAttribute? start name expression = some directive) :
    start.toList.isPrefixOf name.toList = true := by
  obtain ⟨rest, dropped, -⟩ := Option.bind_eq_some_iff.mp isDirective
  rw [List.isPrefixOf_iff_prefix]
  exact ⟨rest, (dropStart?_eq_some_iff.mp dropped).symm⟩

/-- The diagnostics of a directive do not depend on the scope. -/
theorem Directive.diagnostics_compile_scope (directive : Directive) (first second : Scope)
    (element : ElementId) (label : String) :
    (directive.compile first element label).diagnostics =
      (directive.compile second element label).diagnostics := by
  have spelled (scope : Scope) : (directive.compile scope element label).diagnostics =
      (directive.compile [] element label).diagnostics := by
    have same := congrArg Expression.Compiled.diagnostics
      (directive.spellOut_compile scope element label)
    exact same
  rw [spelled first, spelled second]

/-- Whoever compiles a directive has the same diagnostics, but for the label. -/
theorem Directive.diagnostics_compile_eq (directive : Directive) (first second : Scope)
    (element other : ElementId) (label shown : String) :
    (directive.compile second other shown).diagnostics =
      (directive.compile first element label).diagnostics.map (Diagnostic.labelled shown) :=
  calc
    (directive.compile second other shown).diagnostics =
        (directive.compile second element shown).diagnostics :=
      directive.diagnostics_compile_element second other element shown
    _ = (directive.compile second element label).diagnostics.map (Diagnostic.labelled shown) :=
      (congrArg Expression.Compiled.diagnostics
        (directive.labelled_compile second element label shown)).symm
    _ = (directive.compile first element label).diagnostics.map (Diagnostic.labelled shown) := by
      rw [directive.diagnostics_compile_scope second first]

/-- **The scope only decides which names are references.**  In any two scopes a directive
has the same diagnostics, and the same animations but for what is a reference in one scope
and a string in another.  So whoever compiles it without any data reports what a stage
reports when it is applied there, but for the label: the `compile` command of the program and
a check of the directives of a page. -/
theorem Directive.compile_agrees_between_scopes (first second : Scope) (element : ElementId)
    (label : String) (directive : Directive) :
    let here := directive.compile first element label
    let there := directive.compile second element label
    here.diagnostics = there.diagnostics ∧
      here.result.map (fun animation =>
          (animation.name, animation.triggers, Fields.keys animation.options)) =
        there.result.map (fun animation =>
          (animation.name, animation.triggers, Fields.keys animation.options)) ∧
      here.result.map Animation.spellOut = there.result.map Animation.spellOut ∧
      (∀ (settings : ToolSettings) (find : String → Found) (name expression : String),
        ofAttribute? settings.stage.directiveStart name expression = some directive →
        ∃ animations, (Command.compile name expression).perform settings find =
          ⟨some (.object [("animations", animations), ("diagnostics", Json.ofStrings
            ((here.diagnostics.map (Diagnostic.labelled
              (directive.label settings.stage.directiveStart))).map Diagnostic.text))]),
            none⟩) ∧
      (∀ (start source : String) (attr : Attribute),
        ofAttribute? start attr.name attr.value = some directive →
        Findings.ofAttribute start source element attr =
          ⟨1, here.diagnostics.map (Diagnostic.labelled s!"{source} {directive.label start}")⟩) ∧
      ∀ (stage : Stage) (chain : Chain), ∃ failures : List Diagnostic,
        (∀ diagnostic ∈ failures, diagnostic.level = .error) ∧
        (∀ diagnostic ∈ here.diagnostics, diagnostic.level ≠ .error) ∧
        (stage.apply element directive chain).1.diagnostics = stage.diagnostics ++
          here.diagnostics.map
            (Diagnostic.labelled (directive.label stage.settings.directiveStart)) ++
          failures := by
  intro here there
  have spelled : here.result.map Animation.spellOut = there.result.map Animation.spellOut := by
    have both := congrArg Expression.Compiled.result
      ((directive.spellOut_compile first element label).trans
        (directive.spellOut_compile second element label).symm)
    exact both
  have reported (scope : Scope) (other : ElementId) (shown : String) :
      (directive.compile scope other shown).diagnostics =
        here.diagnostics.map (Diagnostic.labelled shown) :=
    directive.diagnostics_compile_eq first scope element other label shown
  refine ⟨directive.diagnostics_compile_scope first second element label, ?_, spelled, ?_, ?_,
    ?_⟩
  · -- spelling out keeps names, triggers and keys, so equal spellings agree on these
    have shape := congrArg (List.map fun animation : Animation =>
      (animation.name, animation.triggers, Fields.keys animation.options)) spelled
    rw [List.map_map, List.map_map] at shape
    simpa only [Function.comp_def, Animation.spellOut, Fields.keys_mapValues] using shape
  · intro settings find name expression isDirective
    let shown := directive.label settings.stage.directiveStart
    refine ⟨.array ((directive.compile [] ⟨0⟩ shown).result.map Animation.outline), ?_⟩
    simp only [Command.perform, Attribute.outline, isDirective]
    rw [outline, ← reported [] ⟨0⟩ shown]
  · intro start source attr isDirective
    rw [Findings.ofAttribute, if_pos (isPrefixOf_of_ofAttribute? isDirective), isDirective]
    dsimp only
    rw [reported]
  · intro stage chain
    obtain ⟨failures, errors, added⟩ := stage.diagnostics_apply element directive chain
    rw [reported] at added
    exact ⟨failures, errors, fun _ => directive.level_compile first element, added⟩

/-- An entry that cannot be read, where a root is in scope and where it is not. -/
theorem Directive.compile_agrees_on_missing_root :
    let expression := "x: page.width, y: [1"
    let directive : Directive := ⟨some "card", [], expression⟩
    let compiled (scope : Scope) := directive.compile scope ⟨1⟩ "label"
    (compiled [[("page", .null)]]).diagnostics = (compiled []).diagnostics ∧
      Findings.ofAttribute "x-motion" "page#1" ⟨1⟩ ⟨"x-motion:card", expression⟩ =
        ⟨1, (compiled []).diagnostics.map (Diagnostic.labelled "page#1 x-motion:card")⟩ ∧
      ∃ animations, (Command.compile "x-motion:card" expression).perform .standard
          (fun _ => .nothing) =
        ⟨some (.object [("animations", animations), ("diagnostics", Json.ofStrings
          (((compiled []).diagnostics.map (Diagnostic.labelled "x-motion:card")).map
            Diagnostic.text))]), none⟩ := by
  intro expression directive compiled
  have isDirective : ofAttribute? "x-motion" "x-motion:card" expression = some directive := by
    decide
  have label : directive.label "x-motion" = "x-motion:card" := by decide
  have place : "page#1" ++ " " ++ directive.label "x-motion" = "page#1 x-motion:card" := by
    decide
  obtain ⟨same, -, -, printed, found, -⟩ :=
    compile_agrees_between_scopes [[("page", .null)]] [] ⟨1⟩ "label" directive
  refine ⟨same, ?_, ?_⟩
  · rw [found "x-motion" "page#1" ⟨"x-motion:card", expression⟩ isDirective, same]
    exact congrArg (fun source => Findings.mk 1
      ((compiled []).diagnostics.map (Diagnostic.labelled source))) place
  · obtain ⟨animations, printed⟩ :=
      printed .standard (fun _ => .nothing) "x-motion:card" expression isDirective
    refine ⟨animations, printed.trans ?_⟩
    rw [same]
    exact congrArg (fun source => Performance.mk (some (.object [("animations", animations),
      ("diagnostics", Json.ofStrings (((compiled []).diagnostics.map
        (Diagnostic.labelled source)).map Diagnostic.text))])) none) label

end Choreography
