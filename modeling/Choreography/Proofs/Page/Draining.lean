import Choreography.Proofs.Page.Actions
import Choreography.Proofs.Stage.Draining
import Choreography.Tool.Outcome

/-!
# Replays drain

The helpers of a replay arrive after as many polls as its settings say, and settings pass the
check only if a replay may tick for longer than that.  Every run that waits when the script is
over is in time, since all that has happened was done by actions (`played_prompt`); so **a
replay ends with nothing that waits, after no more ticks than a helper takes**
(`replay_drains`).
-/

namespace Choreography

namespace Page

/-- An action leaves it to the polls when helpers arrive. -/
theorem keepsHelpers_of_isAction {page : Page} {operation : Operation}
    (action : page.isAction operation = true) : operation.keepsHelpers = true := by
  cases operation <;> first | rfl | cases action

theorem Acts.prompt {page : Page} {before after : Stage} (acts : page.Acts before after)
    {latency : Nat} (prompt : Stage.Prompt latency before) : Stage.Prompt latency after := by
  obtain ⟨operations, actions, rfl⟩ := acts
  exact Stage.performAll_prompt prompt operations fun operation here =>
    keepsHelpers_of_isAction (actions operation here)

/-- When the script is over every run that waits is in time. -/
theorem played_prompt (page : Page) (settings : Settings) (latency : Nat) :
    Stage.Prompt latency (page.played settings latency) :=
  (page.play_mount_acts settings latency page.script).prompt
    (Stage.new_prompt settings page.store fun _ => builtinSource_prompt latency)

/-- **A replay with settings that pass the check drains.**  Once the script is over it takes at
most as many ticks as a helper does, each of them while something waits, and then nothing
waits, so that none is reported. -/
theorem replay_drains (page : Page) {settings : ToolSettings}
    (sound : settings.check = .ok settings) :
    let played := page.played settings.stage settings.helperLatency
    let drained := page.replay settings.stage settings.helperLatency settings.tickLimit
    (∃ count ≤ settings.helperLatency,
      drained = played.performAll (List.replicate count .tick) ∧
      ∀ fewer < count, (played.performAll (List.replicate fewer .tick)).pending ≠ []) ∧
    drained.pending = [] ∧ (page.reportFor settings).pendingCount = 0 := by
  intro played drained
  have enough := Nat.le_of_lt (ToolSettings.helperLatency_lt_tickLimit sound).2
  have prompt := page.played_prompt settings.stage settings.helperLatency
  obtain ⟨count, atMost, same, waits, gone⟩ := Stage.ticks_inTime prompt.inTime enough
  have none : drained.pending = [] := gone
  refine ⟨⟨count, atMost, same, waits⟩, none, ?_⟩
  show drained.pending.length = 0
  rw [none]
  rfl

namespace SharedSpring

/-- Settings by which a helper takes two ticks. -/
def settings : ToolSettings := ⟨"info", 2, 3, Settings.standard⟩

/-- An animation that passes data to a helper. -/
def animated : Attribute := ⟨"x-motion", "\x7bx: spring(k)\x7d"⟩

/-- An element asks for a helper, and once more when its data change after a tick. -/
def page : Page :=
  ⟨[("k", .integer 1)], [⟨⟨1⟩, [animated], []⟩], [.tick 1, .set (some ⟨1⟩) "k" (.integer 2)]⟩

end SharedSpring

open SharedSpring in
/-- Two runs wait when the script is over, the second one for less than a helper takes. -/
theorem replay_drains_shared_spring :
    settings.check = .ok settings ∧
      (page.played settings.stage settings.helperLatency).pending.length = 2 ∧
      (∃ count ≤ settings.helperLatency,
        page.replay settings.stage settings.helperLatency settings.tickLimit =
          (page.played settings.stage settings.helperLatency).performAll
            (List.replicate count .tick) ∧
        ∀ fewer < count, ((page.played settings.stage settings.helperLatency).performAll
          (List.replicate fewer .tick)).pending ≠ []) ∧
      (page.reportFor settings).pendingCount = 0 := by
  have faultless : settings.fault? = none := by decide +kernel
  have sound : settings.check = .ok settings := by rw [ToolSettings.check, faultless]
  obtain ⟨drains, -, reported⟩ := replay_drains page sound
  exact ⟨sound, by decide +kernel, drains, reported⟩

end Page

end Choreography
