import Mathlib.Data.List.Nodup
import Choreography.Proofs.Stage.Step

/-!
# Sound stages

What holds of every stage that operations lead to, and in the middle of a tick of the
stage and the runs that are still to be polled:

* the bindings in force have distinct ids, given out one after the other;
* the waiting runs stand in the order in which they were scheduled;
* a waiting run belongs to a binding in force, waits for some helper of its template,
  and every other helper of the template has settled.

`performAll_sound` is the invariant; `Held` is what holds while one run goes on.
-/

namespace Choreography

namespace Stage

/-- A waiting run that waits for helpers of its binding's template. -/
structure Waits (loader : Loader) (binding : Binding) (waiting : PendingRun) : Prop where
  id_eq : binding.id = waiting.binding
  serves : Serves loader (Template.fieldHelpers binding.animation.options)
    (Sketch.fieldsAwaited waiting.options)
  isOpen : Sketch.fieldsAwaited waiting.options ≠ []

/-- A stage in good order, with the runs that a tick has still to poll. -/
structure Sound (stage : Stage) (queue : List PendingRun) : Prop where
  distinct : (stage.bindings.map Binding.id).Nodup
  numbered : ∀ binding ∈ stage.bindings, binding.id.number ≤ stage.bindingCount
  ordered : (stage.pending ++ queue).Pairwise fun first second => first.run < second.run
  counted : ∀ waiting ∈ stage.pending ++ queue, waiting.run ≤ stage.runCount
  served : ∀ waiting ∈ stage.pending ++ queue, ∃ binding ∈ stage.bindings,
    Waits stage.loader binding waiting

theorem new_sound (settings : Settings) (data : Store) (source : HelperSupply) :
    Sound (new settings data source) [] where
  distinct := List.nodup_nil
  numbered := nofun
  ordered := List.Pairwise.nil
  counted := nofun
  served := nofun

/-- The binding with an id is the one in force that has it. -/
theorem binding?_of_mem {stage : Stage} (distinct : (stage.bindings.map Binding.id).Nodup)
    {binding : Binding} (here : binding ∈ stage.bindings) :
    stage.binding? binding.id = some binding := by
  cases found : stage.binding? binding.id with
  | none =>
    have absent := List.find?_eq_none.mp found binding here
    simp at absent
  | some other =>
    obtain ⟨there, same⟩ := mem_bindings_of_binding? found
    rw [List.inj_on_of_nodup_map distinct there here same]

namespace Sound

variable {stage after : Stage} {queue : List PendingRun}

/-- A sound stage stays sound when the bindings keep their ids and animations, the
waiting runs stay and the loads make progress. -/
theorem congr (sound : Sound stage queue)
    (bindings : ∃ change : Binding → Binding,
      (∀ binding, (change binding).id = binding.id ∧
        (change binding).animation = binding.animation) ∧
      after.bindings = stage.bindings.map change)
    (pending : after.pending = stage.pending)
    (bindingCount : after.bindingCount = stage.bindingCount)
    (runCount : after.runCount = stage.runCount)
    (precedes : stage.loader.Precedes after.loader) : Sound after queue := by
  obtain ⟨change, same, changed⟩ := bindings
  exact {
    distinct := by
      have ids : stage.bindings.map (Binding.id ∘ change) = stage.bindings.map Binding.id :=
        List.map_congr_left fun binding _ => (same binding).1
      rw [changed, List.map_map, ids]
      exact sound.distinct
    numbered := by
      rw [changed, bindingCount]
      intro binding here
      obtain ⟨original, there, rfl⟩ := List.mem_map.mp here
      rw [(same original).1]
      exact sound.numbered original there
    ordered := by
      rw [pending]
      exact sound.ordered
    counted := by
      rw [pending, runCount]
      exact sound.counted
    served := by
      rw [pending, changed]
      intro waiting here
      obtain ⟨binding, there, waits⟩ := sound.served waiting here
      refine ⟨change binding, List.mem_map_of_mem there, ?_, ?_, waits.isOpen⟩
      · rw [(same binding).1]
        exact waits.id_eq
      · rw [(same binding).2]
        exact waits.serves.of_precedes precedes }

/-- The same with no change in any binding. -/
theorem of_bindings_eq (sound : Sound stage queue) (bindings : after.bindings = stage.bindings)
    (pending : after.pending = stage.pending)
    (bindingCount : after.bindingCount = stage.bindingCount)
    (runCount : after.runCount = stage.runCount)
    (precedes : stage.loader.Precedes after.loader) : Sound after queue :=
  sound.congr ⟨fun binding => binding, fun _ => ⟨rfl, rfl⟩, by rw [bindings, List.map_id']⟩
    pending bindingCount runCount precedes

/-- A waiting run is dropped from the ones that are still to be polled. -/
theorem tail {waiting : PendingRun} (sound : Sound stage (waiting :: queue)) :
    Sound stage queue where
  distinct := sound.distinct
  numbered := sound.numbered
  ordered := sound.ordered.sublist ((List.sublist_cons_self waiting queue).append_left _)
  counted := fun other here => sound.counted other
    (((List.sublist_cons_self waiting queue).append_left _).subset here)
  served := fun other here => sound.served other
    (((List.sublist_cons_self waiting queue).append_left _).subset here)

end Sound

/-! ## One run goes on -/

/-- A sound stage on which a run of a binding is about to go on: it was scheduled after
the runs that wait and before those that are still to be polled. -/
structure Held (stage : Stage) (run : RunId) (binding : Binding)
    (queue : List PendingRun) : Prop where
  sound : Sound stage queue
  found : stage.binding? binding.id = some binding
  later : ∀ waiting ∈ stage.pending, waiting.run < run
  earlier : ∀ waiting ∈ queue, run < waiting.run
  counted : run ≤ stage.runCount

/-- What a resolution leaves waiting, it leaves waiting for helpers of its template. -/
def Suits (stage : Stage) (binding : Binding) (outcome : Except ResolveError Resolution) :
    Prop :=
  ∀ options, outcome = .ok (.pending options) →
    Serves stage.loader (Template.fieldHelpers binding.animation.options)
      (Sketch.fieldsAwaited options) ∧ Sketch.fieldsAwaited options ≠ []

/-- A run that goes back stands between those that were polled and those that will be. -/
theorem mem_put_back {waiting other : PendingRun} {polled unpolled : List PendingRun} :
    other ∈ (polled ++ [waiting]) ++ unpolled ↔
      other = waiting ∨ other ∈ polled ++ unpolled := by
  rw [List.append_assoc, List.singleton_append]
  exact List.perm_middle.mem_iff.trans List.mem_cons

/-- A stage stays sound when a run goes on. -/
theorem Held.advance_sound {stage : Stage} {run : RunId} {binding : Binding}
    {queue : List PendingRun} (held : Held stage run binding queue) (reason : RunReason)
    {outcome : Except ResolveError Resolution} (suits : Suits stage binding outcome) :
    Sound (stage.advance run binding reason outcome).1 queue := by
  match outcome with
  | .ok (.ready resolved) =>
    have dispatches := dispatch_dispatches held.found run reason resolved
    obtain ⟨change, touches, -, changed⟩ := dispatches.bindings
    refine held.sound.congr ⟨change, fun other => ⟨touches.id_eq other,
      touches.animation_eq other⟩, changed⟩ dispatches.keeps.pending
      dispatches.keeps.bindingCount dispatches.keeps.runCount ?_
    show stage.loader.Precedes (stage.dispatch run binding.id reason resolved).1.loader
    rw [dispatches.keeps.loader]
    exact Loader.Precedes.refl _
  | .error error =>
    exact held.sound.of_bindings_eq rfl rfl rfl rfl (Loader.Precedes.refl _)
  | .ok (.pending options) =>
    obtain ⟨serves, isOpen⟩ := suits options rfl
    let waiting : PendingRun := ⟨run, binding.id, reason, options⟩
    refine ⟨held.sound.distinct, held.sound.numbered, ?_, ?_, ?_⟩
    · -- the runs that were polled are earlier than this one, and those that will be are later
      obtain ⟨polled, unpolled, across⟩ := List.pairwise_append.mp held.sound.ordered
      show ((stage.pending ++ [waiting]) ++ queue).Pairwise _
      rw [List.append_assoc, List.singleton_append]
      refine List.pairwise_append.mpr ⟨polled, List.pairwise_cons.mpr
        ⟨held.earlier, unpolled⟩, ?_⟩
      intro first here second there
      rcases List.mem_cons.mp there with rfl | there
      · exact held.later first here
      · exact across first here second there
    · intro other here
      rcases mem_put_back.mp here with rfl | there
      · exact held.counted
      · exact held.sound.counted other there
    · intro other here
      rcases mem_put_back.mp here with rfl | there
      · exact ⟨binding, (mem_bindings_of_binding? held.found).1, rfl, serves, isOpen⟩
      · exact held.sound.served other there

/-- A scheduled run is about to go on. -/
theorem start_held {stage : Stage} (sound : Sound stage []) {binding : Binding}
    (found : stage.binding? binding.id = some binding) (reason : RunReason) :
    Held (stage.start binding reason) (stage.runCount + 1) binding [] where
  sound := by
    have started : Sound { stage.start binding reason with runCount := stage.runCount } [] :=
      sound.of_bindings_eq rfl rfl rfl rfl (resolve_grows stage binding).precedes
    exact ⟨started.distinct, started.numbered, started.ordered,
      fun waiting here => Nat.le_succ_of_le (started.counted waiting here), started.served⟩
  found := found
  later := fun waiting here =>
    Nat.lt_succ_of_le (sound.counted waiting (List.mem_append_left _ here))
  earlier := nofun
  counted := Nat.le_refl _

/-- A scheduled run that waits, waits for helpers of its template. -/
theorem start_suits (stage : Stage) (binding : Binding) (reason : RunReason) :
    Suits (stage.start binding reason) binding (stage.resolve binding).2 :=
  fun _ pending => (fits_of_resolve pending).imp_left Fits.serves

theorem schedule_sound {stage : Stage} (sound : Sound stage []) (id : BindingId)
    (reason : RunReason) : Sound (stage.schedule id reason).1 [] := by
  cases found : stage.binding? id with
  | none =>
    rw [schedule_of_none found]
    exact sound
  | some binding =>
    obtain ⟨-, rfl⟩ := mem_bindings_of_binding? found
    rw [schedule_eq found]
    exact (start_held sound found reason).advance_sound reason
      (start_suits stage binding reason)

/-- The first run that is still to be polled has its binding in force. -/
theorem Sound.binding?_head {stage : Stage} {waiting : PendingRun} {queue : List PendingRun}
    (sound : Sound stage (waiting :: queue)) :
    ∃ binding, stage.binding? waiting.binding = some binding ∧
      Waits stage.loader binding waiting := by
  obtain ⟨binding, here, waits⟩ :=
    sound.served waiting (List.mem_append_right _ List.mem_cons_self)
  refine ⟨binding, ?_, waits⟩
  rw [← waits.id_eq]
  exact binding?_of_mem sound.distinct here

/-- A polled run is about to go on. -/
theorem poll_held {stage : Stage} {waiting : PendingRun} {queue : List PendingRun}
    (sound : Sound stage (waiting :: queue)) {binding : Binding}
    (found : stage.binding? waiting.binding = some binding) :
    Held (stage.polled waiting) waiting.run binding queue where
  sound := sound.tail.of_bindings_eq rfl rfl rfl rfl
    (PendingOptions.poll_precedes stage.loader waiting.options)
  found := binding?_polled found
  later := fun other here =>
    (List.pairwise_append.mp sound.ordered).2.2 other here waiting List.mem_cons_self
  earlier := (List.pairwise_cons.mp (List.pairwise_append.mp sound.ordered).2.1).1
  counted := sound.counted waiting (List.mem_append_right _ List.mem_cons_self)

/-- A polled run that waits on, waits for helpers of its template. -/
theorem poll_suits {stage : Stage} {waiting : PendingRun} {binding : Binding}
    (waits : Waits stage.loader binding waiting) :
    Suits (stage.polled waiting) binding (waiting.options.poll stage.loader).2 :=
  fun _ still => PendingOptions.serves_of_poll waits.serves (Prod.ext rfl still)

theorem pollRun_sound {stage : Stage} {waiting : PendingRun} {queue : List PendingRun}
    (sound : Sound stage (waiting :: queue)) (plays : Nat) :
    Sound (pollRun (stage, plays) waiting).1 queue := by
  obtain ⟨binding, found, waits⟩ := sound.binding?_head
  rw [pollRun_eq found]
  exact (poll_held sound found).advance_sound waiting.reason (poll_suits waits)

theorem takeUp_sound {stage : Stage} (sound : Sound stage []) :
    Sound stage.takeUp stage.pending where
  distinct := sound.distinct
  numbered := sound.numbered
  ordered := by simpa [takeUp] using sound.ordered
  counted := by simpa [takeUp] using sound.counted
  served := by simpa [takeUp] using sound.served

/-! ## Every step keeps a stage sound -/

/-- Where ids are distinct, a release leaves the bindings that are not chosen. -/
theorem bindings_release {stage : Stage} (distinct : (stage.bindings.map Binding.id).Nodup)
    (chosen : Binding → Bool) :
    (stage.release chosen).bindings = stage.bindings.filter fun binding => !chosen binding := by
  rw [(release_releases stage chosen).bindings]
  refine List.filter_congr fun binding here => congrArg _ (Bool.eq_iff_iff.mpr ?_)
  rw [List.contains_iff_mem, List.mem_map]
  constructor
  · rintro ⟨other, there, id⟩
    obtain ⟨present, goes⟩ := List.mem_filter.mp there
    rwa [← List.inj_on_of_nodup_map distinct present here id]
  · intro goes
    exact ⟨binding, List.mem_filter.mpr ⟨here, goes⟩, rfl⟩

theorem mem_release_bindings_of_spared {stage : Stage}
    (distinct : (stage.bindings.map Binding.id).Nodup) {chosen : Binding → Bool}
    {binding : Binding} (here : binding ∈ stage.bindings) (spared : chosen binding = false) :
    binding ∈ (stage.release chosen).bindings := by
  rw [bindings_release distinct]
  exact List.mem_filter.mpr ⟨here, by rw [spared]; rfl⟩

theorem release_sound {stage : Stage} (sound : Sound stage []) (chosen : Binding → Bool) :
    Sound (stage.release chosen) [] := by
  have releases := release_releases stage chosen
  have sublist : (stage.release chosen).pending.Sublist stage.pending := by
    rw [releases.pending]
    exact List.filter_sublist
  have kept : ∀ waiting ∈ (stage.release chosen).pending ++ [],
      waiting ∈ stage.pending ++ [] := fun waiting here =>
    (sublist.append_right []).subset here
  exact {
    distinct := by
      rw [releases.bindings]
      exact sound.distinct.sublist (List.filter_sublist.map Binding.id)
    numbered := by
      rw [releases.bindings, releases.bindingCount]
      exact fun binding here => sound.numbered binding (List.mem_filter.mp here).1
    ordered := sound.ordered.sublist (sublist.append_right [])
    counted := by
      rw [releases.runCount]
      exact fun waiting here => sound.counted waiting (kept waiting here)
    served := by
      intro waiting here
      obtain ⟨binding, there, waits⟩ := sound.served waiting (kept waiting here)
      rw [List.append_nil, releases.pending] at here
      refine ⟨binding, ?_, ?_⟩
      · -- a waiting run that was not dropped has its binding still in force
        rw [releases.bindings]
        refine List.mem_filter.mpr ⟨there, ?_⟩
        rw [waits.id_eq]
        exact (List.mem_filter.mp here).2
      · rw [releases.loader]
        exact waits }

theorem bind_sound {stage : Stage} (sound : Sound stage []) (label : String)
    (animation : Animation) (chain : Chain) :
    Sound (stage.bind label animation chain).1 [] := by
  have binds := bind_binds stage label animation chain
  obtain ⟨subscriptions, bindings⟩ := binds.bindings
  exact {
    distinct := by
      rw [bindings, List.map_append, List.nodup_append]
      refine ⟨sound.distinct, by simp, ?_⟩
      intro id here other there same
      obtain ⟨binding, old, rfl⟩ := List.mem_map.mp here
      have bound := sound.numbered binding old
      rw [List.map_singleton, List.mem_singleton, binds.id_eq] at there
      rw [same, there] at bound
      exact Nat.not_succ_le_self _ bound
    numbered := by
      rw [bindings, binds.bindingCount]
      intro binding here
      rcases List.mem_append.mp here with here | here
      · exact Nat.le_succ_of_le (sound.numbered binding here)
      · rewrite [List.mem_singleton.mp here, binds.id_eq]
        exact Nat.le_refl _
    ordered := by
      rw [binds.pending]
      exact sound.ordered
    counted := by
      rw [binds.pending, binds.runCount]
      exact sound.counted
    served := by
      rw [binds.pending, binds.loader, bindings]
      intro waiting here
      obtain ⟨binding, there, waits⟩ := sound.served waiting here
      exact ⟨binding, List.mem_append_left _ there, waits⟩ }

theorem lookAt_sound {stage : Stage} (sound : Sound stage []) (binding : Binding) :
    Sound (stage.lookAt binding) [] := by
  have looks := lookAt_looks stage binding
  refine sound.congr ⟨_, ?_, looks.bindings⟩ looks.pending looks.bindingCount looks.runCount ?_
  · intro other
    by_cases same : other.id = binding.id <;> simp [same]
  · rw [looks.loader]
    exact Loader.Precedes.refl _

theorem Passes.sound {before after : Stage} (passes : Passes before after)
    (sound : Sound before []) : Sound after [] :=
  sound.of_bindings_eq passes.bindings passes.pending passes.bindingCount passes.runCount
    passes.precedes

theorem step_sound {told : Option BindingId} {before after : Stage}
    (step : Step told before after) (sound : Sound before []) : Sound after [] := by
  cases step with
  | unbound passes => exact passes.sound sound
  | released chosen => exact release_sound sound chosen
  | installed label animation chain =>
    exact schedule_sound (bind_sound sound label animation chain) _ _
  | changed tells => exact schedule_sound sound _ _
  | entered here responds =>
    rename_i binding
    rw [enter_eq]
    exact schedule_sound (lookAt_sound sound binding) _ _
  | tornDown element gone =>
    exact sound.of_bindings_eq rfl rfl rfl rfl (Loader.Precedes.refl _)

/-- **Operations keep a stage sound.** -/
theorem performAll_sound {stage : Stage} (sound : Sound stage [])
    (operations : List Operation) : Sound (stage.performAll operations) [] :=
  performAll_invariant Sound (fun _ sound => sound.distinct) (fun _ => takeUp_sound)
    (fun _ _ _ plays sound => pollRun_sound sound plays) (fun _ _ _ => step_sound)
    operations stage sound

end Stage

end Choreography
