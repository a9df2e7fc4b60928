import Choreography.Proofs.Stage.Subscriptions

/-!
# Who is told of a write

The host holds one subscription of a binding for each root that the binding reads
(`performAll_oncePerRoot`), however often the root is mentioned.  So **when the host tells some
of the subscriptions for a root, each binding that holds one of them is run once**
(`foldl_sourceChanged_runs`).
-/

namespace Choreography

theorem nodup_eraseDups {α : Type} [DecidableEq α] (list : List α) : list.eraseDups.Nodup := by
  -- what is left of the list is filtered, so the induction is on the length
  induction size : list.length using Nat.strongRecOn generalizing list with
  | ind size ih =>
    cases list with
    | nil => exact List.nodup_nil
    | cons first rest =>
      rw [List.eraseDups_cons, List.nodup_cons, List.mem_eraseDups]
      refine ⟨by simp, ih _ ?_ _ rfl⟩
      rw [← size]
      exact Nat.lt_succ_of_le (List.length_filter_le _ rest)

namespace Stage

/-- The host watches a root name for a binding. -/
def Watches (stage : Stage) (binding : Binding) (root : String) : Prop :=
  ∃ subscription ∈ binding.subscriptions, (subscription, root) ∈ stage.listeners

instance (stage : Stage) (binding : Binding) (root : String) :
    Decidable (stage.Watches binding root) :=
  inferInstanceAs (Decidable (∃ subscription ∈ binding.subscriptions, _))

/-- No root name is watched twice for a binding. -/
def OncePerRoot (stage : Stage) : Prop :=
  ∀ binding ∈ stage.bindings, ∀ first ∈ stage.listeners, ∀ second ∈ stage.listeners,
    first.1 ∈ binding.subscriptions → second.1 ∈ binding.subscriptions →
      first.2 = second.2 → first.1 = second.1

theorem Steady.oncePerRoot {before after : Stage} (steady : Steady before after)
    (once : OncePerRoot before) : OncePerRoot after := by
  intro binding here
  obtain ⟨old, there, -, -, -, same⟩ := steady.exists_old here
  rw [steady.listeners, ← same]
  exact once old there

theorem release_oncePerRoot {stage : Stage} (chosen : Binding → Bool)
    (once : OncePerRoot stage) : OncePerRoot (stage.release chosen) := by
  have listed : ∀ listener ∈ (stage.release chosen).listeners, listener ∈ stage.listeners := by
    rw [release_eq]
    exact fun listener here => (List.mem_filter.mp here).1
  intro binding here first among second present
  exact once binding (mem_release_bindings.mp here).1 first (listed first among) second
    (listed second present)

/-- The roots of new subscriptions are distinct, and their numbers are new. -/
theorem bind_oncePerRoot {stage : Stage} (subscribed : Subscribed stage)
    (once : OncePerRoot stage) (label : String) (animation : Animation) (chain : Chain) :
    OncePerRoot (stage.bind label animation chain).1 := by
  let names := roots (stage.data.scope chain) animation
  let fresh := freshSubscriptions stage.subscriptionCount names
  have old : ∀ listener ∈ stage.listeners,
      listener.1.number ≤ stage.subscriptionCount := by
    intro listener here
    have listed : listener.1 ∈ stage.subscribers.map Prod.fst :=
      subscribed.listening ▸ List.mem_map_of_mem here
    obtain ⟨entry, among, same⟩ := List.mem_map.mp listed
    exact same ▸ subscribed.numbered entry among
  have distinct : (fresh.map Prod.snd).Nodup := by
    rw [map_snd_freshSubscriptions]
    exact nodup_eraseDups _
  rw [bind_eq]
  intro binding here first among second present holdsFirst holdsSecond same
  rcases List.mem_append.mp here with here | here
  · -- an older binding holds no new subscription
    have older : ∀ listener ∈ stage.listeners ++ fresh,
        listener.1 ∈ binding.subscriptions → listener ∈ stage.listeners := by
      intro listener listed holds
      refine (List.mem_append.mp listed).resolve_right fun issued => ?_
      have given := subscribed.numbered _ (subscribed.held binding here listener.1 holds)
      exact ne_of_mem_freshSubscriptions issued given rfl
    exact once binding here first (older first among holdsFirst) second
      (older second present holdsSecond) holdsFirst holdsSecond same
  · -- the new binding holds the new ones only
    rw [List.mem_singleton.mp here] at holdsFirst holdsSecond
    have newer : ∀ listener ∈ stage.listeners ++ fresh,
        listener.1 ∈ fresh.map Prod.fst → listener ∈ fresh := by
      intro listener listed holds
      refine (List.mem_append.mp listed).resolve_left fun issued => ?_
      obtain ⟨entry, given, number⟩ := List.mem_map.mp holds
      exact ne_of_mem_freshSubscriptions given (old listener issued) number
    exact congrArg Prod.fst (List.inj_on_of_nodup_map distinct (newer first among holdsFirst)
      (newer second present holdsSecond) same)

/-- **Operations let no root be watched twice for a binding.** -/
theorem performAll_oncePerRoot {stage : Stage} (sound : Sound stage [])
    (subscribed : Subscribed stage) (once : OncePerRoot stage) (operations : List Operation) :
    OncePerRoot (stage.performAll operations) :=
  (performAll_membership (fun stage => Subscribed stage ∧ OncePerRoot stage)
    (fun _ _ steady both => ⟨steady.subscribed both.1, steady.oncePerRoot both.2⟩)
    (fun _ chosen sound both =>
      ⟨release_subscribed chosen sound both.1, release_oncePerRoot chosen both.2⟩)
    (fun _ label animation chain both =>
      ⟨bind_subscribed both.1 label animation chain,
        bind_oncePerRoot both.1 both.2 label animation chain⟩)
    sound ⟨subscribed, once⟩ operations).2

/-! ## Telling subscriptions -/

/-- A subscription leads to the element of the binding that holds it. -/
theorem subscriptionElement?_of_holds {stage : Stage}
    (distinct : (stage.bindings.map Binding.id).Nodup) (subscribed : Subscribed stage)
    {binding : Binding} (here : binding ∈ stage.bindings) {subscription : SubscriptionId}
    (holds : subscription ∈ binding.subscriptions) :
    stage.subscriptionElement? subscription = some binding.element := by
  rw [subscriptionElement?, subscribed.subscriber?_of_holds here holds, Option.bind_eq_bind,
    Option.bind_some, binding?_of_mem distinct here]
  rfl

/-- Some binding holds each subscription of the host. -/
theorem exists_owner {stage : Stage} (subscribed : Subscribed stage)
    {subscription : SubscriptionId} {root : String}
    (listed : (subscription, root) ∈ stage.listeners) :
    ∃ binding ∈ stage.bindings, subscription ∈ binding.subscriptions := by
  have among : subscription ∈ stage.subscribers.map Prod.fst :=
    subscribed.listening ▸ List.mem_map_of_mem listed
  obtain ⟨entry, present, rfl⟩ := List.mem_map.mp among
  obtain ⟨binding, here, -, holds⟩ := subscribed.owned entry present
  exact ⟨binding, here, holds⟩

/-- The subscriptions that the host holds for a root. -/
theorem mem_listenersOf {stage : Stage} {root : String} {subscription : SubscriptionId} :
    subscription ∈ stage.listenersOf root ↔ (subscription, root) ∈ stage.listeners := by
  simp [listenersOf]

/-- For every subscription that is told a run is scheduled. -/
theorem foldl_sourceChanged_accounts (told : List SubscriptionId) (stage : Stage)
    (reach : ∀ subscription ∈ told, ∃ id, stage.subscriber? subscription = some id ∧
      ∃ binding ∈ stage.bindings, binding.id = id) :
    Accounts [] ((told.filterMap stage.subscriber?).map fun id => (id, .sourceChanged)) stage
      (told.foldl (fun stage subscription => stage.handle (.sourceChanged subscription))
        stage) := by
  induction told generalizing stage with
  | nil => exact .refl stage
  | cons subscription rest ih =>
    obtain ⟨id, leads, present⟩ := reach subscription List.mem_cons_self
    obtain ⟨binding, found⟩ := exists_binding? stage present
    have first : stage.handle (.sourceChanged subscription) =
        (stage.schedule id .sourceChanged).1 := by
      rw [handle, leads]
    have steady := schedule_steady stage id .sourceChanged
    have same : (stage.schedule id .sourceChanged).1.subscriber? = stage.subscriber? := by
      funext other
      rw [subscriber?, subscriber?, steady.subscribers]
    rw [List.foldl_cons, first, List.filterMap_cons, leads]
    refine (schedule_accounts found .sourceChanged).trans ?_
    rw [← same]
    refine ih _ fun other here => ?_
    -- a run ends no binding, so the other subscriptions lead where they led
    obtain ⟨id, leads, binding, there, own⟩ := reach other (List.mem_cons_of_mem _ here)
    obtain ⟨current, still, sameId, -⟩ := steady.exists_new there
    exact ⟨id, same ▸ leads, current, still, sameId.trans own⟩

/-- **A binding that is told of a root through any of its subscriptions is run once.** -/
theorem foldl_sourceChanged_runs {stage : Stage}
    (distinct : (stage.bindings.map Binding.id).Nodup) (subscribed : Subscribed stage)
    (once : OncePerRoot stage) {root : String} {told : List SubscriptionId}
    (some : told.Sublist (stage.listenersOf root)) :
    ∃ ids : List BindingId, ids.Nodup ∧
      Accounts [] (ids.map fun id => (id, .sourceChanged)) stage
        (told.foldl (fun stage subscription => stage.handle (.sourceChanged subscription))
          stage) ∧
      ∀ id, id ∈ ids ↔ ∃ subscription ∈ told, ∃ binding ∈ stage.bindings,
        binding.id = id ∧ subscription ∈ binding.subscriptions := by
  have listed : ∀ subscription ∈ told, (subscription, root) ∈ stage.listeners :=
    fun subscription here => mem_listenersOf.mp (some.subset here)
  have different : told.Nodup := by
    have keys : (stage.listeners.map Prod.fst).Nodup := subscribed.listening ▸ subscribed.distinct
    exact (keys.sublist (List.filter_sublist.map Prod.fst)).sublist some
  refine ⟨told.filterMap stage.subscriber?, ?_, ?_, ?_⟩
  · refine List.pairwise_filterMap.mpr (different.imp_of_mem ?_)
    rintro first second here there distinctOnes id leads other also rfl
    -- two subscriptions for one root are not held by one binding
    obtain ⟨binding, among, holds⟩ := exists_owner subscribed (listed first here)
    obtain ⟨same, present, alsoHolds⟩ := exists_owner subscribed (listed second there)
    rw [subscribed.subscriber?_of_holds among holds] at leads
    rw [subscribed.subscriber?_of_holds present alsoHolds] at also
    obtain rfl := List.inj_on_of_nodup_map distinct among present
      (Option.some.inj (leads.trans also.symm))
    exact distinctOnes (once binding among _ (listed first here) _ (listed second there) holds
      alsoHolds rfl)
  · refine foldl_sourceChanged_accounts told stage fun subscription here => ?_
    obtain ⟨binding, there, holds⟩ := exists_owner subscribed (listed subscription here)
    exact ⟨binding.id, subscribed.subscriber?_of_holds there holds, binding, there, rfl⟩
  · intro id
    rw [List.mem_filterMap]
    refine exists_congr fun subscription => and_congr_right fun here => ?_
    constructor
    · intro leads
      obtain ⟨binding, there, holds⟩ := exists_owner subscribed (listed subscription here)
      rw [subscribed.subscriber?_of_holds there holds, Option.some.injEq] at leads
      exact ⟨binding, there, leads, holds⟩
    · rintro ⟨binding, there, rfl, holds⟩
      exact subscribed.subscriber?_of_holds there holds

end Stage

end Choreography
