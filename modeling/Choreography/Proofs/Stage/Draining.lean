import Choreography.Proofs.Resolution.Due
import Choreography.Proofs.Stage.Order

/-!
# Waiting runs come to their end

A run is in time for a number of ticks if every helper that it waits for is due in as many
polls.  A tick polls each waiting run, and with it the helpers that this run waits for, so
whatever still waits after a tick is in time for one tick less (`tick_inTime`); and no run is
in time for no tick at all.  So **runs that are in time for a number of ticks are gone after
as many** (`ticks_inTime`), whoever else polls the helpers they share.

On a stage whose source is prompt, every run that waits is in time from the moment it is
scheduled, as long as the source stays the same and all helpers arrive by being polled
(`performAll_prompt`).
-/

namespace Choreography

/-- Whether an operation leaves it to the polls when helpers arrive, and to the present source
what they are. -/
def Operation.keepsHelpers : Operation → Bool
  | .offer _ => false
  | .deliver .. => false
  | _ => true

namespace Stage

/-- Runs that wait for helpers all of which are due in a number of ticks; a run waits for one
tick at least. -/
def InTime (ticks : Nat) (loader : Loader) (runs : List PendingRun) : Prop :=
  ∀ waiting ∈ runs, 0 < ticks ∧
    ∀ name ∈ Sketch.fieldsAwaited waiting.options, loader.isDue ticks name = true

namespace InTime

variable {ticks : Nat} {loader later : Loader} {runs others : List PendingRun}

/-- Where no tick is left nothing waits. -/
theorem eq_nil (inTime : InTime 0 loader runs) : runs = [] :=
  List.eq_nil_iff_forall_not_mem.mpr fun waiting here =>
    Nat.lt_irrefl 0 (inTime waiting here).1

theorem subset (inTime : InTime ticks loader runs) (fewer : others ⊆ runs) :
    InTime ticks loader others :=
  fun waiting here => inTime waiting (fewer here)

/-- Helpers that are due no later leave runs in time. -/
theorem of_keeps (inTime : InTime ticks loader runs)
    (keeps : ∀ name, loader.isDue ticks name = true → later.isDue ticks name = true) :
    InTime ticks later runs :=
  fun waiting here => ⟨(inTime waiting here).1,
    fun name awaited => keeps name ((inTime waiting here).2 name awaited)⟩

theorem succ (inTime : InTime ticks loader runs) : InTime (ticks + 1) loader runs :=
  fun waiting here => ⟨Nat.succ_pos ticks,
    fun name awaited => Loader.isDue_succ ((inTime waiting here).2 name awaited)⟩

theorem append (first : InTime ticks loader runs) (second : InTime ticks loader others) :
    InTime ticks loader (runs ++ others) := by
  intro waiting here
  rcases List.mem_append.mp here with here | here
  · exact first waiting here
  · exact second waiting here

end InTime

/-- A run that goes on asks for no helper, and waits on in time if what its resolution leaves
open is due. -/
theorem advance_inTime {stage : Stage} {binding : Binding}
    (found : stage.binding? binding.id = some binding) {ticks : Nat}
    (inTime : InTime ticks stage.loader stage.pending) (run : RunId) (reason : RunReason)
    {outcome : Except ResolveError Resolution}
    (due : ∀ options, outcome = .ok (.pending options) → 0 < ticks ∧
      ∀ name ∈ Sketch.fieldsAwaited options, stage.loader.isDue ticks name = true) :
    InTime ticks (stage.advance run binding reason outcome).1.loader
      (stage.advance run binding reason outcome).1.pending := by
  rw [loader_advance found]
  rcases pending_advance found run reason outcome with same | ⟨options, waits, longer⟩
  · rw [same]
    exact inTime
  · rw [longer]
    refine inTime.append fun waiting here => ?_
    rw [List.mem_singleton.mp here]
    exact due options waits

/-! ## Ticks -/

/-- A poll of a waiting run brings it one tick nearer to its end, and leaves the others as
they are. -/
theorem pollRun_inTime {stage : Stage} {waiting : PendingRun} {queue : List PendingRun}
    {ticks : Nat} (polled : InTime ticks stage.loader stage.pending)
    (waits : InTime (ticks + 1) stage.loader (waiting :: queue)) (plays : Nat) :
    InTime ticks (pollRun (stage, plays) waiting).1.loader
        (pollRun (stage, plays) waiting).1.pending ∧
      InTime (ticks + 1) (pollRun (stage, plays) waiting).1.loader queue := by
  have rest : InTime (ticks + 1) stage.loader queue := waits.subset (List.subset_cons_self _ _)
  have hastens := Sketch.pollFields_hastens stage.loader waiting.options
  cases found : stage.binding? waiting.binding with
  | none =>
    rw [pollRun_of_none found]
    exact ⟨polled, rest⟩
  | some binding =>
    have still := binding?_polled found
    rw [pollRun_eq found]
    refine ⟨advance_inTime still (polled.of_keeps (hastens.keeps ticks)) _ _ ?_, ?_⟩
    · intro options pending
      obtain ⟨rfl, isOpen⟩ := Resolution.open_of_pending pending
      have lowered := hastens.lowers ticks (waits waiting List.mem_cons_self).2
      obtain ⟨name, awaited⟩ := List.exists_mem_of_ne_nil _ isOpen
      exact ⟨(lowered name awaited).1, fun name awaited => (lowered name awaited).2⟩
    · rw [loader_advance still]
      exact rest.of_keeps (hastens.keeps (ticks + 1))

/-- **A tick brings every waiting run one tick nearer to its end.** -/
theorem tick_inTime {stage : Stage} {ticks : Nat}
    (inTime : InTime (ticks + 1) stage.loader stage.pending) :
    InTime ticks stage.tick.1.loader stage.tick.1.pending :=
  (foldl_pollRun_invariant
    (fun after queue => InTime ticks after.loader after.pending ∧
      InTime (ticks + 1) after.loader queue)
    (fun _ _ _ plays both => pollRun_inTime both.1 both.2 plays)
    stage.pending (stage.takeUp, 0) ⟨nofun, inTime⟩).1

/-- **Runs that are in time are gone when their time is over.**  If more ticks are allowed than
the waiting runs need, some number of them is made, each while something waits, and nothing
waits after them. -/
theorem ticks_inTime {stage : Stage} {needed limit : Nat}
    (inTime : InTime needed stage.loader stage.pending) (enough : needed ≤ limit) :
    ∃ count ≤ needed,
      stage.ticks limit = stage.performAll (List.replicate count .tick) ∧
      (∀ fewer < count, (stage.performAll (List.replicate fewer .tick)).pending ≠ []) ∧
      (stage.ticks limit).pending = [] := by
  induction needed generalizing stage limit with
  | zero =>
    have idle := inTime.eq_nil
    refine ⟨0, Nat.le_refl 0, ?_, nofun, ?_⟩ <;> cases limit <;> simp [ticks, idle]
  | succ needed ih =>
    obtain ⟨left, rfl⟩ := Nat.exists_eq_succ_of_ne_zero (Nat.ne_of_gt
      (Nat.lt_of_lt_of_le (Nat.succ_pos needed) enough))
    by_cases idle : stage.pending = []
    · refine ⟨0, Nat.zero_le _, ?_, nofun, ?_⟩ <;> simp [ticks, idle]
    · obtain ⟨count, atMost, same, waits, gone⟩ :=
        ih (tick_inTime inTime) (Nat.le_of_succ_le_succ enough)
      have goesOn : stage.ticks (left + 1) = stage.tick.1.ticks left := by
        rw [ticks, if_neg (by simpa using idle)]
      refine ⟨count + 1, Nat.succ_le_succ atMost, ?_, ?_, ?_⟩
      · rw [goesOn, same]
        rfl
      · rintro (_ | fewer) below
        · exact idle
        · exact waits fewer (Nat.lt_of_succ_lt_succ below)
      · rw [goesOn]
        exact gone

/-! ## Prompt stages -/

/-- A stage on which every helper is due in a number of ticks, at the source and on its way,
and every waiting run is in time. -/
structure Prompt (latency : Nat) (stage : Stage) : Prop where
  source : ∀ run, (stage.source.asOf run).Prompt latency
  loader : stage.loader.Prompt latency
  inTime : InTime latency stage.loader stage.pending

theorem new_prompt (settings : Settings) (data : Store) {source : HelperSupply} {latency : Nat}
    (offers : ∀ run, (source.asOf run).Prompt latency) : Prompt latency (new settings data source) :=
  ⟨offers, Loader.empty_prompt latency, nofun⟩

section

variable {latency : Nat} {stage after : Stage}

/-- What leaves source and loads alone, and no more runs waiting, keeps a stage prompt. -/
theorem Prompt.congr (prompt : Prompt latency stage) (source : after.source = stage.source)
    (loader : after.loader = stage.loader) (fewer : after.pending ⊆ stage.pending) :
    Prompt latency after where
  source := source ▸ prompt.source
  loader := loader ▸ prompt.loader
  inTime := by
    rw [loader]
    exact prompt.inTime.subset fewer

theorem source_advance {binding : Binding}
    (found : stage.binding? binding.id = some binding) (run : RunId) (reason : RunReason)
    (outcome : Except ResolveError Resolution) :
    (stage.advance run binding reason outcome).1.source = stage.source := by
  match outcome with
  | .ok (.ready values) => exact (dispatch_dispatches found run reason values).keeps.source
  | .ok (.pending options) => rfl
  | .error error => rfl

/-- A scheduled run asks for helpers that are due, and if it waits it waits for such ones. -/
theorem schedule_prompt (prompt : Prompt latency stage) (id : BindingId)
    (reason : RunReason) : Prompt latency (stage.schedule id reason).1 := by
  cases found : stage.binding? id with
  | none =>
    rw [schedule_of_none found]
    exact prompt
  | some binding =>
    obtain ⟨-, rfl⟩ := mem_bindings_of_binding? found
    have still : (stage.start binding reason).binding? binding.id = some binding := found
    have asked : (stage.start binding reason).loader.Prompt latency :=
      Template.resolve_relates (demands_prompt (prompt.source _)) (stage.data.scope binding.chain)
        stage.loader binding.animation.options prompt.loader
    have grows : stage.loader.Grows (stage.start binding reason).loader :=
      resolve_grows stage binding
    have waited : InTime latency (stage.start binding reason).loader
        (stage.start binding reason).pending :=
      prompt.inTime.of_keeps fun name => grows.isDue
    rw [schedule_eq found]
    refine ⟨?_, ?_, advance_inTime still waited _ _ ?_⟩
    · rw [source_advance still]
      exact prompt.source
    · rw [loader_advance still]
      exact asked
    · intro options pending
      obtain ⟨fits, isOpen⟩ := fits_of_resolve pending
      have due : ∀ name ∈ Sketch.fieldsAwaited options,
          (stage.start binding reason).loader.isDue latency name = true :=
        fun name awaited => asked.isDue (fits.serves.asked name awaited).2
      refine ⟨Nat.pos_of_ne_zero ?_, due⟩
      -- a fresh sketch waits for no helper that has settled
      rintro rfl
      obtain ⟨name, awaited⟩ := List.exists_mem_of_ne_nil _ isOpen
      have settled := due name awaited
      rw [Loader.isDue_zero] at settled
      exact Bool.false_ne_true ((fits.fresh name awaited).symm.trans settled)

theorem release_prompt (prompt : Prompt latency stage) (chosen : Binding → Bool) :
    Prompt latency (stage.release chosen) := by
  have releases := release_releases stage chosen
  refine prompt.congr releases.source releases.loader ?_
  rw [releases.pending]
  exact List.filter_subset_self _

theorem enter_prompt (prompt : Prompt latency stage) (binding : Binding) :
    Prompt latency (stage.enter binding) := by
  have looks := lookAt_looks stage binding
  rw [enter_eq]
  exact schedule_prompt (prompt.congr looks.source looks.loader fun _ here =>
    looks.pending ▸ here) _ .enteredView

theorem apply_prompt (prompt : Prompt latency stage) (element : ElementId)
    (directive : Directive) (chain : Chain) :
    Prompt latency (stage.apply element directive chain).1 := by
  refine apply_induction (release_prompt prompt _) (fun _ _ prompt => ?_)
    fun before label animation _ prompt => ?_
  · exact prompt.congr rfl rfl (List.Subset.refl _)
  · have binds := bind_binds before label animation chain
    exact schedule_prompt (prompt.congr binds.source binds.loader fun _ here =>
      binds.pending ▸ here) _ .initial

theorem handle_prompt (prompt : Prompt latency stage) (input : Input) :
    Prompt latency (stage.handle input) :=
  handle_induction prompt input (release_prompt prompt)
    (fun _ binding prompt => enter_prompt prompt binding)
    (fun id => schedule_prompt prompt id .sourceChanged)
    fun _ _ prompt => prompt.congr rfl rfl (List.Subset.refl _)

/-- A poll asks for nothing, and makes no helper due later. -/
theorem pollRun_loader_prompt (prompt : stage.loader.Prompt latency) (waiting : PendingRun)
    (plays : Nat) :
    (pollRun (stage, plays) waiting).1.source = stage.source ∧
      (pollRun (stage, plays) waiting).1.loader.Prompt latency := by
  refine pollRun_cases (motive := fun after =>
    after.source = stage.source ∧ after.loader.Prompt latency) (stage, plays) waiting
    ⟨rfl, prompt⟩ ?_
  intro binding found _ outcome
  rw [source_advance found, loader_advance found]
  exact ⟨rfl, Sketch.pollFields_relates (polls_prompt latency) stage.loader waiting.options prompt⟩

theorem tick_prompt (prompt : Prompt latency stage) : Prompt latency stage.tick.1 := by
  have begun : stage.takeUp.source = stage.source ∧ stage.takeUp.loader.Prompt latency :=
    ⟨rfl, prompt.loader⟩
  have polled : stage.tick.1.source = stage.source ∧ stage.tick.1.loader.Prompt latency := by
    refine tick_induction (motive := fun after =>
      after.source = stage.source ∧ after.loader.Prompt latency) begun ?_
    rintro ⟨before, plays⟩ waiting ⟨source, loader⟩
    obtain ⟨same, still⟩ := pollRun_loader_prompt loader waiting plays
    exact ⟨same.trans source, still⟩
  refine ⟨polled.1 ▸ prompt.source, polled.2, ?_⟩
  cases latency with
  | zero =>
    rw [tick_of_idle prompt.inTime.eq_nil]
    exact prompt.inTime
  | succ ticks => exact (tick_inTime prompt.inTime).succ

theorem perform_prompt (prompt : Prompt latency stage) {operation : Operation}
    (keeps : operation.keepsHelpers = true) : Prompt latency (stage.perform operation) := by
  cases operation with
  | apply element directive chain => exact apply_prompt prompt element directive chain
  | input input => exact handle_prompt prompt input
  | tick => exact tick_prompt prompt
  | lookup name =>
    show Prompt latency (stage.lookup name).1
    unfold lookup
    split <;> exact prompt.congr rfl rfl (List.Subset.refl _)
  | sequence names options =>
    exact sequence_induction prompt names options
      (fun _ _ _ prompt => prompt.congr rfl rfl (List.Subset.refl _))
      fun _ _ prompt => prompt.congr rfl rfl (List.Subset.refl _)
  | animate element options => exact prompt.congr rfl rfl (List.Subset.refl _)
  | followScroll link => exact prompt.congr rfl rfl (List.Subset.refl _)
  | write frame name value => exact prompt.congr rfl rfl (List.Subset.refl _)
  | erase frame name => exact prompt.congr rfl rfl (List.Subset.refl _)
  | offer source => cases keeps
  | deliver name delivery => cases keeps
  | clearDiagnostics => exact prompt.congr rfl rfl (List.Subset.refl _)

/-- **Where helpers arrive by being polled every waiting run is in time.** -/
theorem performAll_prompt (prompt : Prompt latency stage) (operations : List Operation)
    (keeps : ∀ operation ∈ operations, operation.keepsHelpers = true) :
    Prompt latency (stage.performAll operations) :=
  List.foldlRecOn operations perform prompt fun _ prompt operation here =>
    perform_prompt prompt (keeps operation here)

end

end Stage

end Choreography
