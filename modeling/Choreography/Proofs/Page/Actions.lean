import Choreography.Page.Replay
import Choreography.Proofs.Stage.Operation

/-!
# What a replay does to its stage

Whatever a page does, from its first directive to the last step of its script, is a sequence
of operations of a narrow kind: each directive is applied with the frames of its element,
helpers arrive by being polled only, and their source is never another one.  So **a stage in
the middle of a replay was reached by actions** (`play_mount_acts`), and has what they keep.
-/

namespace Choreography

namespace Page

/-- Whether an operation is of the kind that the replay of a page is made of. -/
def isAction (page : Page) : Operation → Bool
  | .apply element _ chain => element ∈ page.ids ∧ chain = page.chainOf element
  | .input _ => true
  | .tick => true
  | .lookup _ => true
  | .sequence .. => true
  | .write .. => true
  | _ => false

/-- One stage leads to another by operations of the kind that the replay of a page is made
of. -/
def Acts (page : Page) (before after : Stage) : Prop :=
  ∃ operations : List Operation, (∀ operation ∈ operations, page.isAction operation = true) ∧
    after = before.performAll operations

section

variable {page : Page} {first second third : Stage}

theorem Acts.refl (page : Page) (stage : Stage) : page.Acts stage stage := ⟨[], nofun, rfl⟩

theorem Acts.trans (early : page.Acts first second) (late : page.Acts second third) :
    page.Acts first third := by
  obtain ⟨before, actions, rfl⟩ := early
  obtain ⟨after, others, rfl⟩ := late
  refine ⟨before ++ after, ?_, (first.performAll_append before after).symm⟩
  intro operation here
  rcases List.mem_append.mp here with here | here
  · exact actions operation here
  · exact others operation here

theorem Acts.input (stage : Stage) (input : Input) : page.Acts stage (stage.handle input) :=
  ⟨[.input input], by simp [isAction], rfl⟩

theorem Acts.foldl {α : Type} {act : Stage → α → Stage} (items : List α)
    (acts : ∀ stage, ∀ item ∈ items, page.Acts stage (act stage item)) (stage : Stage) :
    page.Acts stage (items.foldl act stage) :=
  List.foldlRecOn items act (.refl page stage)
    fun _ early item here => early.trans (acts _ item here)

end

section

variable (page : Page) (stage : Stage)

theorem ticks_acts (count : Nat) : page.Acts stage (stage.ticks count) := by
  refine ⟨List.replicate count .tick, ?_, stage.ticks_eq_performAll count⟩
  intro operation here
  rw [List.eq_of_mem_replicate here]
  rfl

theorem mount_acts : page.Acts stage (page.mount stage) := by
  refine .foldl page.elements (fun stage element here => ?_) stage
  refine .foldl element.attributes (fun stage attr _ => ?_) stage
  unfold applyAttribute
  split
  · rename_i directive _
    refine ⟨[.apply element.id directive (page.chainOf element.id)], ?_, rfl⟩
    simpa [isAction, ids] using ⟨element, here, rfl⟩
  · exact .refl page stage

theorem set_acts (written : Option ElementId) (field : String) (value : Json) :
    page.Acts stage (page.set stage written field value) := by
  let frame := (written.bind page.frameOf?).getD pageFrame
  have wrote : page.Acts stage (stage.write frame field (Value.ofJson value)) :=
    ⟨[.write frame field (Value.ofJson value)], by simp [isAction], rfl⟩
  refine wrote.trans (.foldl _ (fun stage subscription _ => ?_) _)
  exact .input stage (.sourceChanged subscription)

theorem step_acts (step : ScriptStep) : page.Acts stage (page.step stage step) := by
  cases step with
  | set written field value => exact page.set_acts stage written field value
  | enterView element => exact .input stage (.enteredView element)
  | tick count => exact page.ticks_acts stage count
  | lookup name => exact ⟨[.lookup name], by simp [isAction], rfl⟩
  | sequence names options =>
    exact ⟨[.sequence names (Value.ofJsonMembers options)], by simp [isAction], rfl⟩
  | teardown element => exact .input stage (.teardown element)

theorem play_acts (script : List ScriptStep) : page.Acts stage (page.play stage script) :=
  .foldl script (fun stage step _ => page.step_acts stage step) stage

end

/-- **At any time of a replay its stage was reached by actions.** -/
theorem play_mount_acts (page : Page) (settings : Settings) (latency : Nat)
    (script : List ScriptStep) :
    page.Acts (page.stage settings latency)
      (page.play (page.mount (page.stage settings latency)) script) :=
  (page.mount_acts _).trans (page.play_acts _ script)

end Page

end Choreography
