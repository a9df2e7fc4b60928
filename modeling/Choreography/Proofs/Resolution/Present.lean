import Mathlib.Data.List.Forall2
import Choreography.Resolution

/-!
# Templates without calls

What a template shows in a scope, told by constructors (`Template.Shows`): itself with every
reference replaced by the value that it leads to, and by the undefined value where its root or a
member is missing.  There is no rule for a call.

Two recursions find that value, and they differ only on roots that the scope does not have.
**Options without calls are resolved at once to what they show, and each of them is evaluated to
the same value, unless a root is missing: then evaluation names the first one that is**
(`Template.resolve_agrees_with_evaluate`).
-/

namespace Choreography

/-! ## What is shown -/

/-- What a reference shows in a scope. -/
inductive Reference.Shows (scope : Scope) (reference : Reference) : Value → Prop
  | present {root value : Value} (known : scope.get? reference.root = some root)
      (leads : root.path? reference.members = some value) : Shows scope reference value
  | rootMissing (unknown : scope.get? reference.root = none) : Shows scope reference .undefined
  | memberMissing {root : Value} (known : scope.get? reference.root = some root)
      (breaks : root.path? reference.members = none) : Shows scope reference .undefined

theorem Reference.shows_iff {scope : Scope} {reference : Reference} {value : Value} :
    reference.Shows scope value ↔ value = reference.value scope := by
  rw [Reference.value]
  constructor
  · intro shows
    cases shows with
    | present known leads => rw [known, Option.bind_some, leads, Option.getD_some]
    | rootMissing unknown => rw [unknown, Option.bind_none, Option.getD_none]
    | memberMissing known breaks => rw [known, Option.bind_some, breaks, Option.getD_none]
  · rintro rfl
    cases known : scope.get? reference.root with
    | none => exact .rootMissing known
    | some root =>
      rw [Option.bind_some]
      cases leads : root.path? reference.members with
      | none => exact .memberMissing known leads
      | some value => exact .present known leads

namespace Template

mutual

/-- What a template shows in a scope. -/
inductive Shows (scope : Scope) : Template → Value → Prop
  | literal (value : Value) : Shows scope (.literal value) value
  | array {items : List Template} {values : List Value} (each : ItemsShow scope items values) :
      Shows scope (.array items) (.array values)
  | object {fields : List (String × Template)} {values : List (String × Value)}
      (each : FieldsShow scope fields values) : Shows scope (.object fields) (.object values)
  | lookup {reference : Reference} {value : Value} (shows : reference.Shows scope value) :
      Shows scope (.lookup reference) value

/-- What a list of templates shows, one after the other. -/
inductive ItemsShow (scope : Scope) : List Template → List Value → Prop
  | nil : ItemsShow scope [] []
  | cons {item : Template} {value : Value} {rest : List Template} {values : List Value}
      (first : Shows scope item value) (others : ItemsShow scope rest values) :
      ItemsShow scope (item :: rest) (value :: values)

/-- What a list of fields shows, each under its name. -/
inductive FieldsShow (scope : Scope) :
    List (String × Template) → List (String × Value) → Prop
  | nil : FieldsShow scope [] []
  | cons {name : String} {template : Template} {value : Value}
      {rest : List (String × Template)} {values : List (String × Value)}
      (first : Shows scope template value) (others : FieldsShow scope rest values) :
      FieldsShow scope ((name, template) :: rest) ((name, value) :: values)

end

end Template

/-! ## Evaluation -/

/-- The answer of an evaluation that comes to a value unless it meets a missing root: of the
roots of some references the first missing one is named. -/
def Scope.grant {α : Type} (scope : Scope) (references : List Reference) (value : α) :
    Except EvalError α :=
  match references.find? fun reference => !scope.has reference.root with
  | some reference => .error (.undefinedVariable reference.root)
  | none => .ok value

namespace Scope

variable {α β γ : Type} {scope : Scope} {references later : List Reference}

theorem grant_of_known (known : ∀ reference ∈ references, scope.has reference.root = true)
    (value : α) : scope.grant references value = .ok value := by
  have none_ : references.find? (fun reference => !scope.has reference.root) = none :=
    List.find?_eq_none.mpr fun reference here => by rw [known reference here]; exact nofun
  rw [grant, none_]

theorem grant_of_missing {reference : Reference}
    (known : ∀ earlier ∈ references, scope.has earlier.root = true)
    (missing : scope.has reference.root = false) (value : α) :
    scope.grant (references ++ reference :: later) value =
      .error (.undefinedVariable reference.root) := by
  have first : (references ++ reference :: later).find?
      (fun reference => !scope.has reference.root) = some reference := by
    refine List.find?_eq_some_iff_append.mpr ⟨by rw [missing]; rfl, references, later, rfl, ?_⟩
    intro earlier here
    rw [known earlier here]
    rfl
  rw [grant, first]

theorem grant_map (build : α → β) (value : α) :
    (do let value ← scope.grant references value
        Except.ok (build value)) = scope.grant references (build value) := by
  rw [grant, grant]
  split <;> rfl

/-- What is met first is named first. -/
theorem grant_append (build : α → β → γ) (value : α) (other : β) :
    (do let value ← scope.grant references value
        let other ← scope.grant later other
        Except.ok (build value other)) =
      scope.grant (references ++ later) (build value other) := by
  simp only [grant, List.find?_append]
  cases references.find? (fun reference => !scope.has reference.root) with
  | some reference => rfl
  | none =>
    cases later.find? (fun reference => !scope.has reference.root) <;> rfl

end Scope

namespace Template

variable {scope : Scope}

mutual

/-- **A template is evaluated to what it shows**, unless a root is missing. -/
theorem Shows.evaluate_eq {template : Template} {value : Value}
    (shows : template.Shows scope value) :
    template.evaluate scope = scope.grant template.references value := by
  cases shows with
  | literal => rfl
  | array each =>
    rw [evaluate, each.evaluate_eq, Scope.grant_map]
    rfl
  | object each =>
    rw [evaluate, each.evaluate_eq, Scope.grant_map]
    rfl
  | @lookup reference _ shows =>
    rw [evaluate, Reference.shows_iff.mp shows, references]
    cases known : scope.has reference.root with
    | true => rw [Scope.grant_of_known (by simpa using known), if_pos rfl]
    | false =>
      rw [if_neg Bool.false_ne_true]
      exact (Scope.grant_of_missing (List.forall_mem_nil _) known _).symm

theorem ItemsShow.evaluate_eq {items : List Template} {values : List Value}
    (shows : ItemsShow scope items values) :
    evaluateItems scope items = scope.grant (itemReferences items) values := by
  cases shows with
  | nil => rfl
  | cons first others =>
    rw [evaluateItems, first.evaluate_eq, others.evaluate_eq, Scope.grant_append]
    rfl

theorem FieldsShow.evaluate_eq {fields : List (String × Template)}
    {values : List (String × Value)} (shows : FieldsShow scope fields values) :
    evaluateFields scope fields = scope.grant (fieldReferences fields) values := by
  cases shows with
  | nil => rfl
  | @cons name _ _ _ _ first others =>
    rw [evaluateFields, first.evaluate_eq, others.evaluate_eq,
      Scope.grant_append fun value values => (name, value) :: values]
    rfl

end

end Template

/-! ## Resolution -/

namespace Sketch

variable (source : HelperSource) (scope : Scope) (loader : Loader)

mutual

/-- A template without calls is sketched with no place left open, and the sketch is finished with
what the template shows. -/
theorem ofTemplate_shows (template : Template) (uncalled : template.calls = []) :
    ∃ sketch value, ofTemplate source scope loader template = (loader, .ok sketch) ∧
      sketch.isWaiting = false ∧ (∀ field, sketch.finish field = .ok value) ∧
      template.Shows scope value := by
  cases template with
  | literal value => exact ⟨_, value, rfl, rfl, fun _ => rfl, .literal value⟩
  | lookup reference =>
    exact ⟨_, _, rfl, rfl, fun _ => rfl, .lookup (Reference.shows_iff.mpr rfl)⟩
  | invoke call => cases uncalled
  | array items =>
    obtain ⟨sketches, values, sketched, still, finished, each⟩ := ofItems_shows items uncalled
    refine ⟨.array sketches, .array values, ?_, still, fun field => ?_, .array each⟩
    · rw [ofTemplate, sketched]
    · rw [finish, finished]
      rfl
  | object fields =>
    obtain ⟨sketches, values, sketched, still, finished, -, each⟩ := ofFields_shows fields uncalled
    refine ⟨.object sketches, .object values, ?_, still, fun field => ?_, .object each⟩
    · rw [ofTemplate, sketched]
    · rw [finish, finished]
      rfl

theorem ofItems_shows (items : List Template) (uncalled : Template.itemCalls items = []) :
    ∃ sketches values, ofItems source scope loader items = (loader, .ok sketches) ∧
      itemsWait sketches = false ∧ (∀ field, finishItems field sketches = .ok values) ∧
      Template.ItemsShow scope items values := by
  cases items with
  | nil => exact ⟨[], [], rfl, rfl, fun _ => rfl, .nil⟩
  | cons item rest =>
    obtain ⟨none_, others⟩ := List.append_eq_nil_iff.mp uncalled
    obtain ⟨sketch, value, sketched, still, finished, first⟩ := ofTemplate_shows item none_
    obtain ⟨sketches, values, sketched', still', finished', each⟩ := ofItems_shows rest others
    refine ⟨sketch :: sketches, value :: values, ?_, ?_, fun field => ?_, .cons first each⟩
    · simp only [ofItems, sketched, sketched']
    · rw [itemsWait, still, still']
      rfl
    · rw [finishItems, finished, finished']
      rfl

/-- The same for fields, which are finished as those of an object and as options. -/
theorem ofFields_shows (fields : List (String × Template))
    (uncalled : Template.fieldCalls fields = []) :
    ∃ sketches values, ofFields source scope loader fields = (loader, .ok sketches) ∧
      fieldsWait sketches = false ∧ (∀ field, finishFields field sketches = .ok values) ∧
      PendingOptions.finish sketches = .ok values ∧ Template.FieldsShow scope fields values := by
  match fields with
  | [] => exact ⟨[], [], rfl, rfl, fun _ => rfl, rfl, .nil⟩
  | (name, template) :: rest =>
    obtain ⟨none_, others⟩ := List.append_eq_nil_iff.mp uncalled
    obtain ⟨sketch, value, sketched, still, finished, first⟩ := ofTemplate_shows template none_
    obtain ⟨sketches, values, sketched', still', finished', ended, each⟩ :=
      ofFields_shows rest others
    refine ⟨(name, sketch) :: sketches, (name, value) :: values, ?_, ?_, fun field => ?_, ?_,
      .cons first each⟩
    · simp only [ofFields, sketched, sketched']
    · rw [fieldsWait, still, still']
      rfl
    · rw [finishFields, finished, finished']
      rfl
    · rw [PendingOptions.finish, finished, ended]
      rfl

end

end Sketch

namespace Template

/-- What fields show, each with its name and its own value. -/
theorem FieldsShow.forall₂ {scope : Scope} {fields : List (String × Template)}
    {values : List (String × Value)} (shows : FieldsShow scope fields values) :
    List.Forall₂ (fun field value => field.1 = value.1 ∧ field.2.Shows scope value.2) fields
      values := by
  cases shows with
  | nil => exact .nil
  | cons first others => exact .cons ⟨rfl, first⟩ others.forall₂

/-- **Resolution and evaluation agree on options without calls.**  Such options are resolved at
once, without a helper being asked for, to fields of the same names in the same order, and the
value of each is what its template shows.  If the roots of all references in a template are in
scope, it is evaluated to that value, and else the evaluation names the first root that is
not. -/
theorem resolve_agrees_with_evaluate (source : HelperSource) (scope : Scope) (loader : Loader)
    (options : Fields Template) (uncalled : fieldCalls options = []) :
    ∃ values, resolve source scope loader options = (loader, .ok (.ready values)) ∧
      List.Forall₂ (fun option resolved =>
        option.1 = resolved.1 ∧ option.2.Shows scope resolved.2 ∧
        ((∀ reference ∈ option.2.references, scope.has reference.root = true) →
          option.2.evaluate scope = .ok resolved.2) ∧
        ∀ early reference late, option.2.references = early ++ reference :: late →
          (∀ earlier ∈ early, scope.has earlier.root = true) →
          scope.has reference.root = false →
          option.2.evaluate scope = .error (.undefinedVariable reference.root))
        options values := by
  obtain ⟨sketches, values, sketched, still, -, finished, each⟩ :=
    Sketch.ofFields_shows source scope loader options uncalled
  refine ⟨values, ?_, each.forall₂.imp ?_⟩
  · simp only [resolve, sketched, Resolution.ofPending, still, finished]
    rfl
  · rintro option resolved ⟨name, shows⟩
    refine ⟨name, shows, fun known => ?_, fun early reference late split known missing => ?_⟩
    · rw [shows.evaluate_eq, Scope.grant_of_known known]
    · rw [shows.evaluate_eq, split, Scope.grant_of_missing known missing]

/-- An item of an array in a member, an item that is not there, and a root that is not. -/
theorem resolve_agrees_with_evaluate_on_missing :
    let scope : Scope := [[("card", .object [("tags", .array [.string "new"])])]]
    let list : Template := .array [.lookup ⟨"card.tags.0"⟩, .lookup ⟨"card.tags.1"⟩]
    let object : Template := .object [("a", list), ("b", .lookup ⟨"gone.x"⟩), ("c", .lookup ⟨"lost"⟩)]
    fieldCalls [("x", list), ("y", object)] = [] ∧
    resolve (fun _ => .missing) scope Loader.empty [("x", list), ("y", object)] =
      (Loader.empty, .ok (.ready [("x", .array [.string "new", .undefined]),
        ("y", .object [("a", .array [.string "new", .undefined]), ("b", .undefined),
          ("c", .undefined)])])) ∧
    list.evaluate scope = .ok (.array [.string "new", .undefined]) ∧
    object.evaluate scope = .error (.undefinedVariable "gone") := by
  intro scope list object
  have uncalled : fieldCalls [("x", list), ("y", object)] = [] := rfl
  have computed : resolve (fun _ => .missing) scope Loader.empty [("x", list), ("y", object)] =
      (Loader.empty, .ok (.ready [("x", .array [.string "new", .undefined]),
        ("y", .object [("a", .array [.string "new", .undefined]), ("b", .undefined),
          ("c", .undefined)])])) := rfl
  refine ⟨uncalled, computed, ?_⟩
  obtain ⟨values, resolved, each⟩ := resolve_agrees_with_evaluate (fun _ => .missing) scope
    Loader.empty [("x", list), ("y", object)] uncalled
  cases computed.symm.trans resolved
  obtain ⟨⟨-, -, listed, -⟩, ⟨⟨-, -, -, missing⟩, -⟩⟩ :=
    (List.forall₂_cons.mp each).imp_right List.forall₂_cons.mp
  refine ⟨listed ?_, missing list.references ⟨"gone.x"⟩ [⟨"lost"⟩] rfl ?_ rfl⟩ <;> decide

end Template

end Choreography
