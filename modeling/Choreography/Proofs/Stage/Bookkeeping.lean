import Mathlib.Data.List.Flatten
import Choreography.Proofs.Stage.Listeners

/-!
# Bookkeeping

A stage keeps five records that must fit together: the bindings in force, the subscriptions that
each of them holds, the binding of each subscription, what the host was asked for, and the runs
that wait.  They are changed one by one, and **fit together after any operations**
(`bookkeeping_consistent`).

`Subscribed` and `Sound` say most of it.  What is left is how subscriptions were asked for and
given back (`Issued`).
-/

namespace Choreography

namespace Event

/-- The subscription that an event makes. -/
def issued? : Event → Option SubscriptionId
  | .subscribed _ _ subscription => some subscription
  | _ => none

/-- The root name that an event has watched for a binding. -/
def watchedRoot? (id : BindingId) : Event → Option String
  | .subscribed binding root _ => if binding = id then some root else none
  | _ => none

/-- Whether an event is the beginning of a subscription, or its end. -/
def holds? (subscription : SubscriptionId) : Event → Option Bool
  | .subscribed _ _ made => if made = subscription then some true else none
  | .unsubscribed _ ended => if ended = subscription then some false else none
  | _ => none

section

variable {event : Event}

/-- An event that neither begins nor ends anything makes no subscription. -/
theorem issued?_of_isSteady (steady : event.isSteady = true) : event.issued? = none := by
  cases event <;> first | rfl | cases steady

theorem watchedRoot?_of_isSteady (id : BindingId) (steady : event.isSteady = true) :
    event.watchedRoot? id = none := by
  cases event <;> first | rfl | cases steady

theorem holds?_of_isSteady (subscription : SubscriptionId) (steady : event.isSteady = true) :
    event.holds? subscription = none := by
  cases event <;> first | rfl | cases steady

/-- Nor does the end of a binding. -/
theorem issued?_of_isEnding (ending : event.isEnding = true) : event.issued? = none := by
  cases event <;> first | rfl | cases ending

theorem watchedRoot?_of_isEnding (id : BindingId) (ending : event.isEnding = true) :
    event.watchedRoot? id = none := by
  cases event <;> first | rfl | cases ending

end

end Event

/-- Whether the host holds a subscription: it was asked for it, and not since to give it up. -/
def heldByHost (history : List Event) (subscription : SubscriptionId) : Bool :=
  (history.findSome? (Event.holds? subscription)).getD false

section

variable {events history : List Event} {subscription : SubscriptionId}

/-- What is not about a subscription leaves it held or not. -/
theorem heldByHost_append_of_silent
    (silent : ∀ event ∈ events, event.holds? subscription = none) :
    heldByHost (events ++ history) subscription = heldByHost history subscription := by
  rw [heldByHost, List.findSome?_append, List.findSome?_eq_none_iff.mpr silent]
  rfl

/-- What only begins a subscription, or only ends it, decides whether it is held. -/
theorem heldByHost_append {verdict : Bool} {event : Event} (here : event ∈ events)
    (reads : event.holds? subscription = some verdict)
    (same : ∀ event ∈ events, event.holds? subscription ≠ some !verdict) :
    heldByHost (events ++ history) subscription = verdict := by
  rw [heldByHost, List.findSome?_append]
  cases found : events.findSome? (Event.holds? subscription) with
  | none =>
    rw [List.findSome?_eq_none_iff.mp found event here] at reads
    cases reads
  | some last =>
    obtain ⟨other, among, decides⟩ := List.exists_of_findSome?_eq_some found
    have different := same other among
    cases last <;> cases verdict <;> first | rfl | exact (different decides).elim

end

namespace Stage

/-- How subscriptions were issued on a stage: each with the next number, for a binding that was
bound by then and, for one binding, for distinct roots.  The host holds those that are entered,
and no binding holds one twice, or one of another binding. -/
structure Issued (stage : Stage) : Prop where
  numbers : (gather Event.issued? stage.history).map SubscriptionId.number =
    List.range' 1 stage.subscriptionCount
  given : ∀ id root subscription, Event.subscribed id root subscription ∈ stage.history →
    id.number ≤ stage.bindingCount
  roots : ∀ id, (gather (Event.watchedRoot? id) stage.history).Nodup
  once : (stage.bindings.flatMap Binding.subscriptions).Nodup
  held : ∀ subscription, heldByHost stage.history subscription = true ↔
    subscription ∈ stage.subscribers.map Prod.fst

theorem new_issued (settings : Settings) (data : Store) (source : HelperSupply) :
    Issued (new settings data source) :=
  ⟨rfl, nofun, fun _ => List.nodup_nil, List.nodup_nil,
    fun subscription => by simp [heldByHost, new]⟩

theorem Steady.issued {before after : Stage} (steady : Steady before after)
    (issued : Issued before) : Issued after := by
  obtain ⟨events, kinds, added⟩ := steady.adds
  exact {
    numbers := by
      rw [added, steady.subscriptionCount,
        gather_append_of_silent fun event here => Event.issued?_of_isSteady (kinds event here)]
      exact issued.numbers
    given := by
      intro id root subscription here
      rw [steady.bindingCount]
      rw [added] at here
      rcases List.mem_append.mp here with here | here
      · cases kinds _ here
      · exact issued.given id root subscription here
    roots := by
      intro id
      rw [added, gather_append_of_silent fun event here =>
        Event.watchedRoot?_of_isSteady id (kinds event here)]
      exact issued.roots id
    once := by
      obtain ⟨change, keeps, changed⟩ := steady.bindings
      have same : (fun binding => (change binding).subscriptions) = Binding.subscriptions := by
        funext binding
        rw [keeps]
      rw [changed, List.flatMap_map, same]
      exact issued.once
    held := by
      intro subscription
      rw [added, steady.subscribers, heldByHost_append_of_silent fun event here =>
        Event.holds?_of_isSteady subscription (kinds event here)]
      exact issued.held subscription }

/-- The ends of bindings end the subscriptions that these hold, and no others. -/
theorem holds?_of_mem_farewells (subscription : SubscriptionId) {settings : Settings}
    {released : List Binding} {event : Event}
    (here : event ∈ released.flatMap (farewell settings)) :
    event.holds? subscription = none ∨ event.holds? subscription = some false ∧
      ∃ binding ∈ released, subscription ∈ binding.subscriptions := by
  obtain ⟨binding, there, among⟩ := List.mem_flatMap.mp here
  rcases mem_farewell.mp among with ⟨-, rfl⟩ | ⟨own, holds, rfl⟩ | rfl
  · exact .inl rfl
  · by_cases same : own = subscription
    · exact .inr ⟨if_pos same, binding, there, same ▸ holds⟩
    · exact .inl (if_neg same)
  · exact .inl rfl

/-- After a release the host holds what it held before, but for the subscriptions of the bindings
that were chosen. -/
theorem heldByHost_release (stage : Stage) (chosen : Binding → Bool)
    (subscription : SubscriptionId) :
    heldByHost (stage.release chosen).history subscription = true ↔
      heldByHost stage.history subscription = true ∧
        ∀ binding ∈ stage.bindings, chosen binding = true →
          subscription ∉ binding.subscriptions := by
  let released := stage.bindings.filter chosen
  let ends := released.reverse.flatMap (farewell stage.settings)
  let drops := ((stage.pending.filter fun run =>
    (released.map Binding.id).contains run.binding).map
      fun run => Event.dropped run.run run.binding).reverse
  have dropsNothing : ∀ event ∈ drops, event.holds? subscription = none := by
    intro event here
    obtain ⟨run, -, rfl⟩ := List.mem_map.mp (List.mem_reverse.mp here)
    rfl
  have parts : (stage.release chosen).history = drops ++ (ends ++ stage.history) := by
    rw [release_eq]
  rw [parts, heldByHost_append_of_silent dropsNothing]
  by_cases goes : ∃ binding ∈ released, subscription ∈ binding.subscriptions
  · obtain ⟨binding, there, holds⟩ := goes
    have present := List.mem_filter.mp there
    have given : Event.unsubscribed binding.id subscription ∈ ends :=
      List.mem_flatMap.mpr ⟨binding, List.mem_reverse.mpr there,
        mem_farewell.mpr (.inr (.inl ⟨subscription, holds, rfl⟩))⟩
    have gone : heldByHost (ends ++ stage.history) subscription = false := by
      refine heldByHost_append given (if_pos rfl) fun event here => ?_
      rcases holds?_of_mem_farewells subscription here with silent | ⟨ends, -⟩
      · simp [silent]
      · simp [ends]
    rw [gone]
    exact ⟨nofun, fun both => (both.2 binding present.1 present.2 holds).elim⟩
  · have silent : ∀ event ∈ ends, event.holds? subscription = none := fun event here =>
      (holds?_of_mem_farewells subscription here).resolve_right fun ⟨_, binding, there, holds⟩ =>
        goes ⟨binding, List.mem_reverse.mp there, holds⟩
    rw [heldByHost_append_of_silent silent]
    refine ⟨fun held => ⟨held, fun binding there isChosen holds => goes ?_⟩, And.left⟩
    exact ⟨binding, List.mem_filter.mpr ⟨there, isChosen⟩, holds⟩

theorem release_issued {stage : Stage} (chosen : Binding → Bool) (issued : Issued stage) :
    Issued (stage.release chosen) := by
  have releases := release_releases stage chosen
  obtain ⟨events, endings, added⟩ := releases.adds
  exact {
    numbers := by
      rw [added, releases.subscriptionCount,
        gather_append_of_silent fun event here => Event.issued?_of_isEnding (endings event here)]
      exact issued.numbers
    given := by
      intro id root subscription here
      rw [releases.bindingCount]
      rw [added] at here
      rcases List.mem_append.mp here with here | here
      · cases endings _ here
      · exact issued.given id root subscription here
    roots := by
      intro id
      rw [added, gather_append_of_silent fun event here =>
        Event.watchedRoot?_of_isEnding id (endings event here)]
      exact issued.roots id
    once := by
      rw [releases.bindings]
      exact issued.once.sublist (List.filter_sublist.flatMap Binding.subscriptions)
    held := by
      intro subscription
      rw [heldByHost_release, issued.held]
      simp only [List.mem_map, mem_release_subscribers]
      constructor
      · rintro ⟨⟨entry, here, rfl⟩, free⟩
        exact ⟨entry, ⟨here, free⟩, rfl⟩
      · rintro ⟨entry, ⟨here, free⟩, rfl⟩
        exact ⟨⟨entry, here, rfl⟩, free⟩ }

/-! ## New subscriptions -/

/-- What the beginning of a binding makes is read off its new subscriptions. -/
theorem gather_welcome_subscribed {α : Type} {read : Event → Option α} {id : BindingId}
    {label : String} {animation : Animation} (fresh : List (SubscriptionId × String))
    (bound : read (.bound id label animation) = none)
    (observed : read (.observed id animation.element) = none) :
    gather read (welcome id label animation fresh) =
      fresh.filterMap fun entry => read (.subscribed id entry.2 entry.1) := by
  have late : gather read (if animation.triggers.visible then
      [.observed id animation.element] else []) = [] := by
    refine gather_eq_nil fun event here => ?_
    split at here
    · rw [List.mem_singleton.mp here]
      exact observed
    · cases here
  rw [welcome, gather_append, late, List.append_nil, gather_append]
  simp [gather, bound, List.filterMap_map]

/-- A new binding watches its root names, and no other binding does so. -/
theorem gather_watchedRoot?_welcome (id other : BindingId) (label : String)
    (animation : Animation) (count : Nat) (names : List String) :
    gather (Event.watchedRoot? other)
        (welcome id label animation (freshSubscriptions count names)) =
      if id = other then names else [] := by
  rw [gather_welcome_subscribed _ rfl rfl]
  split
  · rename_i own
    have read : ∀ entry ∈ freshSubscriptions count names,
        (Event.subscribed id entry.2 entry.1).watchedRoot? other = some entry.2 :=
      fun entry _ => if_pos own
    rw [List.filterMap_congr read]
    show (freshSubscriptions count names).filterMap (some ∘ Prod.snd) = names
    rw [List.filterMap_eq_map, map_snd_freshSubscriptions]
  · rename_i different
    exact List.filterMap_eq_nil_iff.mpr fun entry _ => if_neg different

/-- Nothing is watched for a binding that is still to begin. -/
theorem Issued.unwatched {stage : Stage} (issued : Issued stage) {id : BindingId}
    (unborn : stage.bindingCount < id.number) :
    gather (Event.watchedRoot? id) stage.history = [] := by
  refine gather_eq_nil fun event here => ?_
  cases event with
  | subscribed binding root subscription =>
    refine if_neg fun same => ?_
    exact Nat.not_le_of_lt unborn (same ▸ issued.given binding root subscription here)
  | _ => rfl

/-- The host comes to hold the subscriptions of a new binding. -/
theorem heldByHost_welcome {id : BindingId} {label : String} {animation : Animation}
    {fresh : List (SubscriptionId × String)} {history : List Event}
    {subscription : SubscriptionId} :
    heldByHost (welcome id label animation fresh ++ history) subscription = true ↔
      heldByHost history subscription = true ∨ subscription ∈ fresh.map Prod.fst := by
  by_cases new : subscription ∈ fresh.map Prod.fst
  · obtain ⟨entry, among, rfl⟩ := List.mem_map.mp new
    have made : Event.subscribed id entry.2 entry.1 ∈ welcome id label animation fresh :=
      mem_welcome_subscribed.mpr ⟨rfl, among⟩
    refine iff_of_true (heldByHost_append made (if_pos rfl) fun event here => ?_) (.inr new)
    rcases mem_welcome.mp here with ⟨-, rfl⟩ | ⟨other, -, rfl⟩ | rfl <;> simp [Event.holds?]
  · have silent : ∀ event ∈ welcome id label animation fresh,
        event.holds? subscription = none := by
      intro event here
      rcases mem_welcome.mp here with ⟨-, rfl⟩ | ⟨other, among, rfl⟩ | rfl
      · rfl
      · exact if_neg fun same : other.1 = subscription => new (same ▸ List.mem_map_of_mem among)
      · rfl
    rw [heldByHost_append_of_silent silent, or_iff_left new]

theorem bind_issued {stage : Stage} (subscribed : Subscribed stage) (issued : Issued stage)
    (label : String) (animation : Animation) (chain : Chain) :
    Issued (stage.bind label animation chain).1 := by
  let id : BindingId := ⟨stage.bindingCount + 1⟩
  let names := roots (stage.data.scope chain) animation
  let fresh := freshSubscriptions stage.subscriptionCount names
  rw [bind_eq]
  exact {
    numbers := by
      show (gather Event.issued? (welcome id label animation fresh ++ stage.history)).map
        SubscriptionId.number = List.range' 1 (stage.subscriptionCount + names.length)
      have numbers : (fresh.map Prod.fst).map SubscriptionId.number =
          List.range' (1 + stage.subscriptionCount) names.length := by
        rw [map_fst_freshSubscriptions, List.map_map, Nat.add_comm 1]
        exact List.map_id _
      rw [gather_append, gather_welcome_subscribed fresh rfl rfl, List.map_append, issued.numbers]
      show _ ++ (fresh.filterMap (some ∘ Prod.fst)).map SubscriptionId.number = _
      rw [List.filterMap_eq_map, numbers, List.range'_append_1]
    given := by
      intro other root subscription here
      show other.number ≤ stage.bindingCount + 1
      rcases List.mem_append.mp here with here | here
      · exact Nat.le_of_eq (congrArg BindingId.number (mem_welcome_subscribed.mp here).1)
      · exact Nat.le_succ_of_le (issued.given other root subscription here)
    roots := by
      intro other
      show (gather (Event.watchedRoot? other)
        (welcome id label animation fresh ++ stage.history)).Nodup
      rw [gather_append, gather_watchedRoot?_welcome]
      split
      · rename_i own
        rw [issued.unwatched (own ▸ Nat.lt_succ_self stage.bindingCount)]
        exact nodup_eraseDups _
      · rw [List.append_nil]
        exact issued.roots other
    once := by
      show ((stage.bindings ++ [_]).flatMap Binding.subscriptions).Nodup
      rw [List.flatMap_append, List.flatMap_singleton, List.nodup_append]
      refine ⟨issued.once, nodup_freshSubscriptions _ _, ?_⟩
      rintro subscription here other there rfl
      obtain ⟨binding, among, holds⟩ := List.mem_flatMap.mp here
      obtain ⟨entry, new, rfl⟩ := List.mem_map.mp there
      -- the host counts upwards, so what a binding holds already is no fresh number
      have older := subscribed.numbered _ (subscribed.held binding among entry.1 holds)
      exact ne_of_mem_freshSubscriptions new older rfl
    held := by
      intro subscription
      show heldByHost (welcome id label animation fresh ++ stage.history) subscription = true ↔
        subscription ∈ (stage.subscribers ++ fresh.map fun entry => (entry.1, id)).map Prod.fst
      rw [heldByHost_welcome, issued.held, List.map_append, List.map_map, List.mem_append]
      rfl }

/-- **Operations issue subscriptions in order.** -/
theorem performAll_issued {stage : Stage} (sound : Sound stage []) (subscribed : Subscribed stage)
    (issued : Issued stage) (operations : List Operation) :
    Issued (stage.performAll operations) :=
  (performAll_membership (fun stage => Subscribed stage ∧ Issued stage)
    (fun _ _ steady both => ⟨steady.subscribed both.1, steady.issued both.2⟩)
    (fun _ chosen sound both =>
      ⟨release_subscribed chosen sound both.1, release_issued chosen both.2⟩)
    (fun _ label animation chain both =>
      ⟨bind_subscribed both.1 label animation chain,
        bind_issued both.1 both.2 label animation chain⟩)
    sound ⟨subscribed, issued⟩ operations).2

/-! ## All records together -/

/-- A stage whose records fit together. -/
structure Consistent (stage : Stage) : Prop where
  /-- A subscription is entered for a binding exactly if this is in force and holds it, -/
  entered : ∀ subscription id, (subscription, id) ∈ stage.subscribers ↔
    ∃ binding ∈ stage.bindings, binding.id = id ∧ subscription ∈ binding.subscriptions
  /-- and that is what is found for it. -/
  found : ∀ subscription id, stage.subscriber? subscription = some id ↔
    (subscription, id) ∈ stage.subscribers
  /-- Every subscription is held by one binding, once. -/
  once : (stage.bindings.flatMap Binding.subscriptions).Nodup
  /-- The host holds the subscriptions that are entered, and no others. -/
  hosted : ∀ subscription, heldByHost stage.history subscription = true ↔
    (stage.subscriber? subscription).isSome
  /-- It watches distinct root names for any one binding. -/
  roots : ∀ id, (gather (Event.watchedRoot? id) stage.history).Nodup
  /-- Every run that waits is one of a binding in force. -/
  waiting : ∀ run ∈ stage.pending, ∃ binding ∈ stage.bindings, binding.id = run.binding
  /-- Ids and subscriptions in use are among those that were counted, -/
  counted : ∀ binding ∈ stage.bindings, binding.id.number ≤ stage.bindingCount ∧
    ∀ subscription ∈ binding.subscriptions, subscription.number ≤ stage.subscriptionCount
  /-- and ids were given out one after the other, each once, -/
  bound : (gather Event.bound? stage.history).map Prod.fst = List.range' 1 stage.bindingCount
  /-- as were subscriptions; so no two bindings in force have one id. -/
  issued : (gather Event.issued? stage.history).map SubscriptionId.number =
    List.range' 1 stage.subscriptionCount
  distinct : (stage.bindings.map Binding.id).Nodup

/-- **The records of a stage fit together** after any operations on a new one. -/
theorem bookkeeping_consistent (settings : Settings) (data : Store) (source : HelperSupply)
    (operations : List Operation) :
    Consistent ((new settings data source).performAll operations) := by
  have begun := new_sound settings data source
  have sound := performAll_sound begun operations
  have subscribed := performAll_subscribed begun (new_subscribed settings data source) operations
  have enrolled := performAll_enrolled begun (new_enrolled settings data source) operations
  have issued := performAll_issued begun (new_subscribed settings data source)
    (new_issued settings data source) operations
  refine ⟨?_, fun _ _ => subscribed.subscriber?_eq_some_iff, issued.once, ?_, issued.roots, ?_, ?_,
    enrolled.numbers, issued.numbers, sound.distinct⟩
  · intro subscription id
    refine ⟨fun entry => subscribed.owned _ entry, ?_⟩
    rintro ⟨binding, here, rfl, holds⟩
    exact subscribed.held binding here subscription holds
  · intro subscription
    rw [issued.held, List.mem_map, Option.isSome_iff_exists]
    simp [subscribed.subscriber?_eq_some_iff]
  · intro run here
    obtain ⟨binding, there, waits⟩ := sound.served run (List.mem_append_left _ here)
    exact ⟨binding, there, waits.id_eq⟩
  · intro binding here
    refine ⟨enrolled.number_le here, fun subscription holds => ?_⟩
    exact subscribed.numbered _ (subscribed.held binding here subscription holds)

end Stage

end Choreography
