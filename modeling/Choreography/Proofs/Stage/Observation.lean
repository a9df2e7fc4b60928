import Choreography.Helper.Catalogue
import Choreography.Proofs.Stage.Accounts
import Choreography.Proofs.Stage.Sound

/-!
# Who is observed

An engine is asked to observe an element, and to stop that, for the element as a whole, while
each binding of the element has it observed for itself.  A binding that is replaced stops the
observation even if another binding of the element still waits for the first entry, and unless
what comes in its place asks for it again the element is not observed any more (`Blinds`).
**This is the only way for an element with a binding that waits to be unobserved**
(`observed_iff_never_blinded`), and it can happen (`blinded_by_replacement`).
-/

namespace Choreography

/-- What an event asks of the observation of an element: that it begins, or that it ends. -/
def Event.watch? (element : ElementId) : Event → Option Bool
  | .observed _ other => if other = element then some true else none
  | .unobserved _ other => if other = element then some false else none
  | _ => none

/-- Whether an event asks nothing of the observation of an element. -/
def Event.sparesWatch (element : ElementId) (event : Event) : Bool :=
  (event.watch? element).isNone

namespace Stage

/-- What was asked last of the observation of an element, if anything was. -/
def watch? (stage : Stage) (element : ElementId) : Option Bool :=
  stage.history.findSome? (Event.watch? element)

/-- A binding of an element waits for its first entry into the view. -/
def Armed (stage : Stage) (element : ElementId) : Prop :=
  ∃ binding ∈ stage.bindings, binding.element = element ∧ binding.view = .waiting

instance (stage : Stage) (element : ElementId) : Decidable (stage.Armed element) :=
  inferInstanceAs (Decidable (∃ binding ∈ stage.bindings, _))

/-- Whether an operation replaces a binding, by applying a directive of its label to its
element. -/
def replaces (stage : Stage) : Operation → Binding → Bool
  | .apply element directive _, binding =>
    binding.element = element && binding.label = directive.label stage.settings.directiveStart
  | _, _ => false

/-- Whether an operation brings an animation that waits for the view. -/
def arms (stage : Stage) : Operation → Bool
  | .apply element directive chain =>
    (directive.compile (stage.data.scope chain) element
      (directive.label stage.settings.directiveStart)).result.any fun animation =>
        animation.triggers.visible
  | _ => false

/-- An operation blinds an element: it replaces a binding for which the element is observed,
by nothing that waits for the view, while another binding of the element waits. -/
def Blinds (stage : Stage) (operation : Operation) (element : ElementId) : Prop :=
  (∃ binding ∈ stage.bindings, stage.replaces operation binding = true ∧
    binding.element = element ∧ isObserving stage.settings binding.view = true) ∧
  (∃ binding ∈ stage.bindings, stage.replaces operation binding = false ∧
    binding.element = element ∧ binding.view = .waiting) ∧
  stage.arms operation = false

instance (stage : Stage) (operation : Operation) (element : ElementId) :
    Decidable (stage.Blinds operation element) :=
  inferInstanceAs (Decidable (_ ∧ _ ∧ _))

/-- None of some operations blinds an element. -/
def NeverBlinded (element : ElementId) : Stage → List Operation → Prop
  | _, [] => True
  | stage, operation :: rest =>
    ¬ stage.Blinds operation element ∧ NeverBlinded element (stage.perform operation) rest

/-! ## What is calm -/

/-- A later stage on which the same is asked of the observation of an element, and a binding of
it waits if one did. -/
structure Calm (element : ElementId) (before after : Stage) : Prop where
  armed : after.Armed element ↔ before.Armed element
  watch : after.watch? element = before.watch? element

section

variable {element : ElementId} {before after : Stage}

namespace Calm

theorem refl (element : ElementId) (stage : Stage) : Calm element stage stage :=
  ⟨Iff.rfl, rfl⟩

theorem trans {first second third : Stage} (early : Calm element first second)
    (late : Calm element second third) : Calm element first third :=
  ⟨late.armed.trans early.armed, late.watch.trans early.watch⟩

end Calm

/-- Events that ask nothing leave the observation as it was. -/
theorem watch?_of_adds (adds : Adds (Event.sparesWatch element) before after) :
    after.watch? element = before.watch? element := by
  obtain ⟨events, spares, added⟩ := adds
  have none : events.findSome? (Event.watch? element) = none :=
    List.findSome?_eq_none_iff.mpr fun event here =>
      Option.isNone_iff_eq_none.mp (spares event here)
  rw [watch?, added, List.findSome?_append, none, Option.none_or]
  rfl

/-- A change that keeps who waits keeps an element armed. -/
theorem armed_map {change : Binding → Binding}
    (changed : after.bindings = before.bindings.map change)
    (keeps : ∀ binding ∈ before.bindings,
      ((change binding).element = element ∧ (change binding).view = .waiting) ↔
        (binding.element = element ∧ binding.view = .waiting)) :
    after.Armed element ↔ before.Armed element := by
  rw [Armed, changed]
  constructor
  · rintro ⟨_, here, waits⟩
    obtain ⟨binding, there, rfl⟩ := List.mem_map.mp here
    exact ⟨binding, there, (keeps binding there).mp waits⟩
  · rintro ⟨binding, here, waits⟩
    exact ⟨change binding, List.mem_map_of_mem here, (keeps binding here).mpr waits⟩

end

/-! ## What leaves the view alone -/

/-- A later stage on which nothing has happened to the view of an element: every binding stands
to the view as it did, and nothing was asked of the observation of the element. -/
structure Still (element : ElementId) (before after : Stage) : Prop where
  settings : after.settings = before.settings
  bindings : ∃ change : Binding → Binding,
    (∀ binding, (change binding).element = binding.element ∧
      (change binding).view = binding.view) ∧
    after.bindings = before.bindings.map change
  adds : Adds (Event.sparesWatch element) before after

section

variable {element : ElementId} {before after : Stage}

namespace Still

theorem of_same (settings : after.settings = before.settings)
    (bindings : after.bindings = before.bindings)
    (adds : Adds (Event.sparesWatch element) before after) : Still element before after :=
  ⟨settings, ⟨fun binding => binding, fun _ => ⟨rfl, rfl⟩, bindings.trans (List.map_id' _).symm⟩,
    adds⟩

theorem refl (element : ElementId) (stage : Stage) : Still element stage stage :=
  .of_same rfl rfl (.refl _ stage)

theorem trans {first second third : Stage} (early : Still element first second)
    (late : Still element second third) : Still element first third where
  settings := late.settings.trans early.settings
  bindings := by
    obtain ⟨change, keeps, changed⟩ := early.bindings
    obtain ⟨next, still, moved⟩ := late.bindings
    refine ⟨fun binding => next (change binding), fun binding => ?_, ?_⟩
    · exact ⟨(still _).1.trans (keeps binding).1, (still _).2.trans (keeps binding).2⟩
    · rw [moved, changed, List.map_map]
      rfl
  adds := early.adds.trans late.adds

theorem calm (still : Still element before after) : Calm element before after := by
  obtain ⟨change, keeps, changed⟩ := still.bindings
  refine ⟨armed_map changed fun binding _ => ?_, watch?_of_adds still.adds⟩
  rw [(keeps binding).1, (keeps binding).2]

end Still

theorem Passes.still (passes : Passes before after) : Still element before after := by
  refine .of_same passes.settings passes.bindings (passes.adds.mono fun event kind => ?_)
  cases event <;> first | rfl | cases kind

end

section

variable (element : ElementId)

theorem advance_still {stage : Stage} {binding : Binding}
    (found : stage.binding? binding.id = some binding) (run : RunId) (reason : RunReason)
    (outcome : Except ResolveError Resolution) :
    Still element stage (stage.advance run binding reason outcome).1 := by
  obtain ⟨settings, change, touches, changed⟩ := advance_touches found run reason outcome
  refine ⟨settings, ⟨change, fun other => ⟨touches.element_eq other, touches.view_eq other⟩,
    changed⟩, ?_⟩
  match outcome with
  | .ok (.ready resolved) =>
    refine (dispatch_dispatches found run reason resolved).adds ?_ ?_ rfl
    · intro event notice
      cases event <;> first | rfl | cases notice
    · intro event play
      cases event <;> first | rfl | cases play
  | .ok (.pending options) => exact .refl _ stage
  | .error error =>
    exact ⟨[.reported _, .failed run binding.id error], by
      simp [Event.sparesWatch, Event.watch?], rfl⟩

theorem schedule_still (stage : Stage) (id : BindingId) (reason : RunReason) :
    Still element stage (stage.schedule id reason).1 := by
  refine schedule_cases (motive := Still element stage) stage id reason (.refl element stage) ?_
  intro binding found _ outcome
  have started : Still element stage (stage.start binding reason) :=
    .of_same rfl rfl (.single rfl rfl)
  exact started.trans (advance_still element found _ reason outcome)

theorem takeUp_still (stage : Stage) : Still element stage stage.takeUp :=
  .of_same rfl rfl (.refl _ stage)

theorem pollRun_still (state : Stage × Nat) (waiting : PendingRun) :
    Still element state.1 (pollRun state waiting).1 := by
  refine pollRun_cases (motive := Still element state.1) state waiting
    (.of_same rfl rfl (.single rfl rfl)) ?_
  intro binding found _ outcome
  have polled : Still element state.1 (state.1.polled waiting) :=
    .of_same rfl rfl (.refl _ state.1)
  exact polled.trans (advance_still element found _ _ outcome)

theorem tick_still (stage : Stage) : Still element stage stage.tick.1 :=
  tick_induction (takeUp_still element stage) fun state waiting early =>
    early.trans (pollRun_still element state waiting)

end

/-! ## Entries into view -/

/-- When elements enter the view, the bindings that this concerns have entered it, and the
others stay as they are. -/
theorem foldl_enter_views (entering : List Binding) (stage : Stage) :
    ∃ change : Binding → Binding,
      (∀ binding, (change binding).id = binding.id ∧
        (change binding).element = binding.element ∧
        (change binding).view =
          if binding.id ∈ entering.map Binding.id then .entered else binding.view) ∧
      (entering.foldl enter stage).bindings = stage.bindings.map change := by
  induction entering generalizing stage with
  | nil => exact ⟨fun binding => binding, fun _ => ⟨rfl, rfl, rfl⟩, (List.map_id' _).symm⟩
  | cons first rest ih =>
    obtain ⟨-, touched, touches, changed⟩ := enter_bindings stage first
    obtain ⟨change, keeps, moved⟩ := ih (stage.enter first)
    refine ⟨_, ?_, by rw [List.foldl_cons, moved, changed, List.map_map, List.map_map]⟩
    intro binding
    obtain ⟨id, own, view⟩ := keeps (touched
      (if binding.id = first.id then { binding with view := .entered } else binding))
    rw [touches.id_eq] at id view
    rw [touches.element_eq] at own
    rw [touches.view_eq] at view
    dsimp only [Function.comp_apply]
    rw [id, own, view]
    by_cases same : binding.id = first.id <;> simp [same, Binding.element]

/-- The entry of another element asks nothing of the observation of an element. -/
theorem watch?_enter {element : ElementId} (stage : Stage) {binding : Binding}
    (different : binding.element ≠ element) :
    (stage.enter binding).watch? element = stage.watch? element := by
  have looked : Adds (Event.sparesWatch element) stage (stage.lookAt binding) := by
    unfold lookAt
    dsimp only
    split
    · exact .single (by simp [Event.sparesWatch, Event.watch?, different]) rfl
    · exact .refl _ stage
  rw [enter_eq, (schedule_still element _ _ _).calm.watch]
  exact watch?_of_adds looked

/-- Once an element has entered the view, no binding of it waits. -/
theorem not_armed_of_entered (stage : Stage) (element : ElementId) :
    ¬ (stage.handle (.enteredView element)).Armed element := by
  rintro ⟨binding, here, own, waits⟩
  obtain ⟨change, keeps, changed⟩ := foldl_enter_views (stage.bindings.filter fun binding =>
    binding.element = element && respondsToView stage.settings binding.view) stage
  have moved : (stage.handle (.enteredView element)).bindings = stage.bindings.map change :=
    changed
  rw [moved] at here
  obtain ⟨old, there, rfl⟩ := List.mem_map.mp here
  obtain ⟨-, sameElement, view⟩ := keeps old
  rw [sameElement] at own
  rw [waits] at view
  split at view
  · cases view
  · rename_i apart
    refine apart (List.mem_map_of_mem (List.mem_filter.mpr ⟨there, ?_⟩))
    rw [← view]
    simp [own, respondsToView]

/-- The entry of another element is calm. -/
theorem enteredView_calm {stage : Stage} (distinct : (stage.bindings.map Binding.id).Nodup)
    {element other : ElementId} (different : other ≠ element) :
    Calm element stage (stage.handle (.enteredView other)) := by
  let entering := stage.bindings.filter fun binding =>
    binding.element = other && respondsToView stage.settings binding.view
  have elsewhere : ∀ binding ∈ entering, binding ∈ stage.bindings ∧ binding.element = other := by
    intro binding here
    obtain ⟨there, chosen⟩ := List.mem_filter.mp here
    rw [Bool.and_eq_true, decide_eq_true_eq] at chosen
    exact ⟨there, chosen.1⟩
  obtain ⟨change, keeps, changed⟩ := foldl_enter_views entering stage
  refine ⟨armed_map changed fun binding here => ?_, ?_⟩
  · obtain ⟨-, own, view⟩ := keeps binding
    rw [own, view]
    refine and_congr_right fun same => ?_
    rw [if_neg]
    intro among
    obtain ⟨entered, there, id⟩ := List.mem_map.mp among
    obtain ⟨present, others⟩ := elsewhere entered there
    -- ids are distinct, so the binding would be one of the other element
    rw [List.inj_on_of_nodup_map distinct present here id] at others
    exact different (others.symm.trans same)
  · exact List.foldlRecOn (motive := fun after : Stage =>
      after.watch? element = stage.watch? element) entering enter rfl
      fun after early binding here =>
        (watch?_enter after ((elsewhere binding here).2 ▸ different)).trans early

/-! ## Releases -/

/-- A release that stops no observation of an element is calm. -/
theorem release_calm {stage : Stage} (distinct : (stage.bindings.map Binding.id).Nodup)
    {element : ElementId} {chosen : Binding → Bool}
    (spared : ∀ binding ∈ stage.bindings, chosen binding = true → binding.element = element →
      isObserving stage.settings binding.view = false) :
    Calm element stage (stage.release chosen) := by
  refine ⟨⟨?_, ?_⟩, ?_⟩
  · rintro ⟨binding, here, waits⟩
    exact ⟨binding, (mem_release_bindings.mp here).1, waits⟩
  · rintro ⟨binding, here, own, waits⟩
    refine ⟨binding, mem_release_bindings_of_spared distinct here ?_, own, waits⟩
    rw [Bool.eq_false_iff]
    intro goes
    have observing : isObserving stage.settings binding.view = true := by rw [waits]; rfl
    exact Bool.noConfusion (observing.symm.trans (spared binding here goes own))
  · refine watch?_of_adds (release_adds stage chosen ?_ fun _ _ _ _ => rfl)
    intro binding here goes event among
    rcases mem_farewell.mp among with ⟨observing, rfl⟩ | ⟨subscription, -, rfl⟩ | rfl
    · have different : binding.element ≠ element := fun own =>
        Bool.noConfusion (observing.symm.trans (spared binding here goes own))
      simp [Event.sparesWatch, Event.watch?, different]
    · rfl
    · rfl

/-- A release of a binding for which its element is observed stops the observation. -/
theorem watch?_release {stage : Stage} {chosen : Binding → Bool} {binding : Binding}
    (here : binding ∈ stage.bindings) (goes : chosen binding = true)
    (observing : isObserving stage.settings binding.view = true) :
    (stage.release chosen).watch? binding.element = some false := by
  let ends := (stage.bindings.filter chosen).reverse.flatMap (farewell stage.settings)
  have stops : Event.unobserved binding.id binding.element ∈ ends :=
    List.mem_flatMap.mpr ⟨binding, List.mem_reverse.mpr (List.mem_filter.mpr ⟨here, goes⟩),
      mem_farewell.mpr (.inl ⟨observing, rfl⟩)⟩
  have never : ∀ event ∈ ends, event.watch? binding.element ≠ some true := by
    intro event among
    obtain ⟨other, -, ending⟩ := List.mem_flatMap.mp among
    rcases mem_farewell.mp ending with ⟨-, rfl⟩ | ⟨subscription, -, rfl⟩ | rfl <;>
      simp [Event.watch?]
  have stopped : ends.findSome? (Event.watch? binding.element) = some false := by
    cases found : ends.findSome? (Event.watch? binding.element) with
    | none => simpa [Event.watch?] using List.findSome?_eq_none_iff.mp found _ stops
    | some observed =>
      obtain ⟨event, among, asks⟩ := List.exists_of_findSome?_eq_some found
      cases observed with
      | false => rfl
      | true => exact (never event among asks).elim
  rw [watch?, release_eq]
  dsimp only
  rw [List.findSome?_append, List.findSome?_append, stopped, List.findSome?_eq_none_iff.mpr]
  · rfl
  · intro event among
    obtain ⟨run, -, rfl⟩ := List.mem_map.mp (List.mem_reverse.mp among)
    rfl

/-! ## Animations that are installed -/

/-- An animation that waits for the view has its element observed. -/
theorem watch?_install (label : String) (chain : Chain) (state : Stage × List BindingId)
    {animation : Animation} (visible : animation.triggers.visible = true) :
    (install label chain state animation).1.watch? animation.element = some true := by
  have bound : (state.1.bind label animation chain).1.watch? animation.element = some true := by
    rw [bind_eq]
    simp [watch?, welcome, visible, Event.watch?]
  exact (schedule_still _ _ _ _).calm.watch.trans bound

/-- An animation of another element, or one that does not wait for the view, is calm. -/
theorem install_calm {element : ElementId} (label : String) (chain : Chain)
    (state : Stage × List BindingId) {animation : Animation}
    (silent : animation.triggers.visible = true → animation.element ≠ element) :
    Calm element state.1 (install label chain state animation).1 := by
  have bound : Calm element state.1 (state.1.bind label animation chain).1 := by
    rw [bind_eq]
    refine ⟨⟨?_, ?_⟩, watch?_of_adds ⟨_, ?_, rfl⟩⟩
    · rintro ⟨binding, here, own, waits⟩
      rcases List.mem_append.mp here with here | here
      · exact ⟨binding, here, own, waits⟩
      · rw [List.mem_singleton.mp here] at own waits
        dsimp only at waits
        split at waits
        · exact (silent ‹_› own).elim
        · cases waits
    · rintro ⟨binding, here, waits⟩
      exact ⟨binding, List.mem_append_left _ here, waits⟩
    · intro event among
      rcases mem_welcome.mp among with ⟨visible, rfl⟩ | ⟨entry, -, rfl⟩ | rfl
      · simp [Event.sparesWatch, Event.watch?, silent visible]
      · rfl
      · rfl
  exact bound.trans (schedule_still element _ _ _).calm

theorem foldl_install_calm {element : ElementId} (label : String) (chain : Chain)
    (animations : List Animation) (state : Stage × List BindingId)
    (silent : ∀ animation ∈ animations, animation.triggers.visible = true →
      animation.element ≠ element) :
    Calm element state.1 (animations.foldl (install label chain) state).1 :=
  List.foldlRecOn (motive := fun later : Stage × List BindingId => Calm element state.1 later.1)
    animations (install label chain) (.refl element state.1)
    fun later early animation here =>
      early.trans (install_calm label chain later (silent animation here))

/-- If one of an element's animations waits for the view, the element is observed in the end. -/
theorem watch?_foldl_install {element : ElementId} (label : String) (chain : Chain)
    {animations : List Animation} (state : Stage × List BindingId)
    (own : ∀ animation ∈ animations, animation.element = element)
    (visible : ∃ animation ∈ animations, animation.triggers.visible = true) :
    (animations.foldl (install label chain) state).1.watch? element = some true := by
  induction animations generalizing state with
  | nil => obtain ⟨_, here, -⟩ := visible; cases here
  | cons first rest ih =>
    rw [List.foldl_cons]
    by_cases later : ∃ animation ∈ rest, animation.triggers.visible = true
    · exact ih _ (fun animation here => own animation (List.mem_cons_of_mem _ here)) later
    · -- the first one is the last to ask for the observation
      have firstVisible : first.triggers.visible = true := by
        obtain ⟨animation, here, waits⟩ := visible
        rcases List.mem_cons.mp here with rfl | here
        · exact waits
        · exact (later ⟨animation, here, waits⟩).elim
      rw [(foldl_install_calm label chain rest _ fun animation here waits =>
        (later ⟨animation, here, waits⟩).elim).watch,
        ← own first List.mem_cons_self]
      exact watch?_install label chain state firstVisible

/-! ## Operations -/

/-- An element with a binding that waits is observed. -/
def Attends (stage : Stage) (element : ElementId) : Prop :=
  stage.Armed element → stage.watch? element = some true

theorem Calm.attends {element : ElementId} {before after : Stage}
    (calm : Calm element before after) (attends : before.Attends element) :
    after.Attends element :=
  fun armed => calm.watch.trans (attends (calm.armed.mp armed))

section

variable {stage : Stage} {element other : ElementId} {directive : Directive} {chain : Chain}

/-- After the release by which an application begins, it is calm for every other element, and
for its own one as well if it brings nothing that waits. -/
theorem calm_after_release (silent : other = element →
      stage.arms (.apply other directive chain) = false) :
    Calm element (stage.release (stage.replaces (.apply other directive chain)))
      (stage.apply other directive chain).1 := by
  let label := directive.label stage.settings.directiveStart
  let released := stage.release (stage.replaces (.apply other directive chain))
  refine (absorb_passes released _).still.calm.trans
    (foldl_install_calm label chain _ (_, []) fun animation here visible => ?_)
  rw [directive.element_of_mem_compile _ _ here]
  intro own
  have among : animation ∈
      (directive.compile (stage.data.scope chain) other label).result := by
    rw [← (release_releases stage _).data]
    exact here
  exact List.any_eq_false.mp (silent own) animation among visible

/-- An application that brings an animation that waits has its element observed. -/
theorem watch?_apply (arms : stage.arms (.apply element directive chain) = true) :
    (stage.apply element directive chain).1.watch? element = some true := by
  refine watch?_foldl_install _ chain (_, []) (fun animation here =>
    directive.element_of_mem_compile _ _ here) ?_
  obtain ⟨animation, here, visible⟩ := List.any_eq_true.mp arms
  refine ⟨animation, ?_, visible⟩
  rw [(release_releases stage _).data]
  exact here

theorem apply_attends (sound : Sound stage []) (attends : stage.Attends element)
    (keeps : ¬ stage.Blinds (.apply other directive chain) element) :
    (stage.apply other directive chain).1.Attends element := by
  let operation : Operation := .apply other directive chain
  by_cases stops : ∃ binding ∈ stage.bindings, stage.replaces operation binding = true ∧
    binding.element = element ∧ isObserving stage.settings binding.view = true
  · obtain ⟨replaced, here, goes, own, observing⟩ := stops
    obtain rfl : other = element := by
      rw [← own]
      exact (decide_eq_true_eq.mp (Bool.and_eq_true_iff.mp goes).1).symm
    cases arms : stage.arms operation with
    | true => exact fun _ => watch?_apply arms
    | false =>
      -- a binding that still waits would make this a case of blinding
      refine (calm_after_release fun _ => arms).attends ?_
      rintro ⟨binding, left, waits⟩
      obtain ⟨there, others⟩ := mem_release_bindings.mp left
      have spared : stage.replaces operation binding = false := by
        rw [Bool.eq_false_iff]
        exact fun replaced => others binding there replaced rfl
      exact (keeps ⟨⟨replaced, here, goes, own, observing⟩,
        ⟨binding, there, spared, waits⟩, arms⟩).elim
  · have released : Calm element stage (stage.release (stage.replaces operation)) := by
      refine release_calm sound.distinct fun binding here goes own => ?_
      rw [Bool.eq_false_iff]
      exact fun observing => stops ⟨binding, here, goes, own, observing⟩
    by_cases silent : other = element → stage.arms operation = false
    · exact (released.trans (calm_after_release silent)).attends attends
    · obtain ⟨rfl, arms⟩ := Classical.not_imp.mp silent
      exact fun _ => watch?_apply ((Bool.not_eq_false _).mp arms)

theorem handle_attends (sound : Sound stage []) (attends : stage.Attends element)
    (input : Input) : (stage.handle input).Attends element := by
  cases input with
  | sourceChanged subscription =>
    unfold handle
    dsimp only
    split
    · exact (schedule_still element stage _ _).calm.attends attends
    · exact attends
  | enteredView entered =>
    by_cases own : entered = element
    · subst own
      exact fun armed => (not_armed_of_entered stage entered armed).elim
    · exact (enteredView_calm sound.distinct own).attends attends
  | teardown torn =>
    let chosen : Binding → Bool := fun binding => binding.element = torn
    by_cases own : torn = element
    · subst own
      rintro ⟨binding, here, own, -⟩
      obtain ⟨there, others⟩ := mem_release_bindings.mp here
      exact (others binding there (decide_eq_true own) rfl).elim
    · have released : Calm element stage (stage.release chosen) := by
        refine release_calm sound.distinct fun binding _ goes same => ?_
        exact (own ((decide_eq_true_eq.mp goes).symm.trans same)).elim
      have named : Calm element (stage.release chosen) (stage.handle (.teardown torn)) :=
        Still.calm (.of_same rfl rfl (.single rfl rfl))
      exact (released.trans named).attends attends

/-- **Only an operation that blinds an element leaves it unobserved while a binding waits.** -/
theorem perform_attends (sound : Sound stage []) (attends : stage.Attends element)
    {operation : Operation} (keeps : ¬ stage.Blinds operation element) :
    (stage.perform operation).Attends element := by
  cases operation with
  | apply other directive chain => exact apply_attends sound attends keeps
  | input input => exact handle_attends sound attends input
  | tick => exact (tick_still element stage).calm.attends attends
  | _ => exact (perform_passes stage rfl).still.calm.attends attends

/-- **An operation that blinds an element does leave it so.** -/
theorem perform_blinds (sound : Sound stage []) {operation : Operation}
    (blinds : stage.Blinds operation element) :
    (stage.perform operation).Armed element ∧
      (stage.perform operation).watch? element = some false := by
  obtain ⟨⟨replaced, here, goes, rfl, observing⟩, ⟨binding, there, spared, waits⟩, silent⟩ :=
    blinds
  cases operation with
  | apply other directive chain =>
    have calm : Calm replaced.element _ (stage.apply other directive chain).1 :=
      calm_after_release fun _ => silent
    have left : binding ∈ (stage.release (stage.replaces (.apply other directive chain))).bindings :=
      mem_release_bindings_of_spared sound.distinct there spared
    exact ⟨calm.armed.mpr ⟨binding, left, waits⟩,
      calm.watch.trans (watch?_release here goes observing)⟩
  | _ => cases goes

end

/-! ## Runs of operations -/

/-- From a sound stage on, an element that is attended stays so exactly as long as no operation
blinds it. -/
theorem attends_iff_neverBlinded {stage : Stage} (sound : Sound stage []) {element : ElementId}
    (attends : stage.Attends element) (operations : List Operation) :
    (∀ earlier later, operations = earlier ++ later →
      (stage.performAll earlier).Attends element) ↔ NeverBlinded element stage operations := by
  induction operations generalizing stage with
  | nil =>
    refine ⟨fun _ => trivial, fun _ earlier later parts => ?_⟩
    rw [(List.append_eq_nil_iff.mp parts.symm).1]
    exact attends
  | cons operation rest ih =>
    have soundAfter : Sound (stage.perform operation) [] := performAll_sound sound [operation]
    constructor
    · intro always
      have kept : ¬ stage.Blinds operation element := by
        intro blinds
        obtain ⟨armed, unobserved⟩ := perform_blinds sound blinds
        have observed := always [operation] rest rfl armed
        rw [performAll_cons, performAll_nil, unobserved] at observed
        cases observed
      refine ⟨kept, (ih soundAfter (perform_attends sound attends kept)).mp ?_⟩
      rintro earlier later rfl
      exact always (operation :: earlier) later rfl
    · rintro ⟨kept, never⟩ earlier later parts
      cases earlier with
      | nil => exact attends
      | cons first more =>
        obtain ⟨rfl, rfl⟩ := List.cons.inj parts
        exact (ih soundAfter (perform_attends sound attends kept)).mpr never more later rfl

/-- **An element with a binding that waits is observed at any time exactly if no operation
ever blinds it.** -/
theorem observed_iff_never_blinded (settings : Settings) (data : Store) (source : HelperSupply)
    (operations : List Operation) (element : ElementId) :
    (∀ earlier later, operations = earlier ++ later →
      ((new settings data source).performAll earlier).Attends element) ↔
    NeverBlinded element (new settings data source) operations := by
  refine attends_iff_neverBlinded (new_sound settings data source) ?_ operations
  rintro ⟨binding, here, -⟩
  cases here

namespace TwoDirectives

/-- A directive that moves something as soon as its element comes into view, or at once. -/
def applied (name : String) (modifiers : List String) : Operation :=
  .apply ⟨1⟩ ⟨some name, modifiers, "{x: 1}"⟩ [0]

/-- A stage without any data. -/
def begun : Stage := .new .standard [[]] (Helper.builtinSource 1)

end TwoDirectives

open TwoDirectives in
/-- Two directives of an element wait for the view.  One is applied again so that it does not
wait any more, and the element is not observed although the other one still waits. -/
theorem blinded_by_replacement :
    let stage := begun.performAll [applied "a" ["in-view"], applied "b" ["in-view"],
      applied "a" []]
    stage.Armed ⟨1⟩ ∧ stage.watch? ⟨1⟩ = some false := by
  decide +kernel

end Stage

end Choreography
