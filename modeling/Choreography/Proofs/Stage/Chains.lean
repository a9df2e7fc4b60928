import Choreography.Proofs.Stage.Membership

/-!
# What a binding sees

A binding keeps the element and the chain that it began with, and only the host writes data.
So whatever else happens to a stage, **its data are the same, and its bindings are bindings
that were there before** (`Stays`), unless a directive is applied, which begins bindings of its
element with its chain (`apply_chains`).
-/

namespace Choreography

namespace Stage

/-- A later stage with the same data, on which every binding was there before, as far as its
element and its chain go. -/
structure Stays (before after : Stage) : Prop where
  data : after.data = before.data
  origin : ∀ binding ∈ after.bindings, ∃ old ∈ before.bindings,
    old.element = binding.element ∧ old.chain = binding.chain

namespace Stays

variable {before after : Stage}

theorem of_same (data : after.data = before.data) (bindings : after.bindings = before.bindings) :
    Stays before after :=
  ⟨data, fun binding here => ⟨binding, bindings ▸ here, rfl, rfl⟩⟩

theorem refl (stage : Stage) : Stays stage stage := .of_same rfl rfl

theorem trans {first second third : Stage} (early : Stays first second)
    (late : Stays second third) : Stays first third where
  data := late.data.trans early.data
  origin := by
    intro binding here
    obtain ⟨between, there, element, chain⟩ := late.origin binding here
    obtain ⟨old, present, sameElement, sameChain⟩ := early.origin between there
    exact ⟨old, present, sameElement.trans element, sameChain.trans chain⟩

end Stays

/-- What begins and ends nothing leaves elements and chains alone. -/
theorem Steady.stays {before after : Stage} (steady : Steady before after)
    (data : after.data = before.data) : Stays before after where
  data := data
  origin := by
    obtain ⟨change, keeps, changed⟩ := steady.bindings
    intro binding here
    rw [changed] at here
    obtain ⟨old, there, rfl⟩ := List.mem_map.mp here
    refine ⟨old, there, ?_, ?_⟩
    · rw [Binding.element, Binding.element, keeps]
    · rw [keeps]

/-! ## Runs and entries -/

theorem data_advance {stage : Stage} {binding : Binding}
    (found : stage.binding? binding.id = some binding) (run : RunId) (reason : RunReason)
    (outcome : Except ResolveError Resolution) :
    (stage.advance run binding reason outcome).1.data = stage.data := by
  match outcome with
  | .ok (.ready resolved) => exact (dispatch_dispatches found run reason resolved).keeps.data
  | .ok (.pending options) => rfl
  | .error error => rfl

theorem schedule_stays (stage : Stage) (id : BindingId) (reason : RunReason) :
    Stays stage (stage.schedule id reason).1 := by
  refine (schedule_steady stage id reason).stays ?_
  refine schedule_cases (motive := fun after => after.data = stage.data) stage id reason rfl ?_
  intro binding found _ outcome
  exact data_advance found _ reason outcome

theorem pollRun_stays (state : Stage × Nat) (waiting : PendingRun) :
    Stays state.1 (pollRun state waiting).1 := by
  refine (pollRun_steady state waiting).stays ?_
  refine pollRun_cases (motive := fun after => after.data = state.1.data) state waiting rfl ?_
  intro binding found _ outcome
  exact data_advance found _ _ outcome

theorem tick_stays (stage : Stage) : Stays stage stage.tick.1 := by
  have begun : Stays stage stage.takeUp := .of_same rfl rfl
  exact tick_induction begun fun state waiting early => early.trans (pollRun_stays state waiting)

theorem enter_stays (stage : Stage) (binding : Binding) : Stays stage (stage.enter binding) := by
  rw [enter_eq]
  exact ((lookAt_steady stage binding).stays (lookAt_looks stage binding).data).trans
    (schedule_stays _ _ _)

/-! ## Operations -/

theorem release_stays (stage : Stage) (chosen : Binding → Bool) :
    Stays stage (stage.release chosen) where
  data := (release_releases stage chosen).data
  origin := fun binding here => ⟨binding, (mem_release_bindings.mp here).1, rfl, rfl⟩

theorem handle_stays (stage : Stage) (input : Input) : Stays stage (stage.handle input) :=
  handle_induction (.refl stage) input (release_stays stage)
    (fun _ binding early => early.trans (enter_stays _ binding))
    (fun id => schedule_stays stage id .sourceChanged)
    fun _ _ early => early.trans (.of_same rfl rfl)

theorem lookup_stays (stage : Stage) (name : String) : Stays stage (stage.lookup name).1 := by
  unfold lookup
  split <;> exact .of_same rfl rfl

theorem sequence_stays (stage : Stage) (names : List String) (options : Fields Value) :
    Stays stage (stage.sequence names options).1 :=
  sequence_induction (.refl stage) names options
    (fun _ _ _ early => early.trans (.of_same rfl rfl))
    fun _ _ early => early.trans (.of_same rfl rfl)

/-- A directive that is applied leaves the data as they are, and every binding was there before
or has its element and its chain. -/
theorem apply_chains (stage : Stage) (element : ElementId) (directive : Directive)
    (chain : Chain) :
    (stage.apply element directive chain).1.data = stage.data ∧
      ∀ binding ∈ (stage.apply element directive chain).1.bindings,
        (binding.element = element ∧ binding.chain = chain) ∨
          ∃ old ∈ stage.bindings, old.element = binding.element ∧ old.chain = binding.chain := by
  refine apply_induction (motive := fun after => after.data = stage.data ∧
    ∀ binding ∈ after.bindings, (binding.element = element ∧ binding.chain = chain) ∨
      ∃ old ∈ stage.bindings, old.element = binding.element ∧ old.chain = binding.chain)
    ?_ (fun _ _ holds => holds) ?_
  · have releases := release_stays stage fun binding => binding.element = element &&
      binding.label = directive.label stage.settings.directiveStart
    exact ⟨releases.data, fun binding here => .inr (releases.origin binding here)⟩
  · rintro before label animation own ⟨data, chains⟩
    have binds := bind_binds before label animation chain
    have runs := schedule_stays (before.bind label animation chain).1
      (before.bind label animation chain).2 .initial
    obtain ⟨subscriptions, bindings⟩ := binds.bindings
    refine ⟨runs.data.trans (binds.data.trans data), fun binding here => ?_⟩
    obtain ⟨old, there, sameElement, sameChain⟩ := runs.origin binding here
    rw [← sameElement, ← sameChain]
    rw [bindings] at there
    rcases List.mem_append.mp there with there | there
    · exact chains old there
    · rw [List.mem_singleton.mp there]
      exact .inl ⟨own, rfl⟩

end Stage

end Choreography
