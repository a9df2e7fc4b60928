import Choreography.Proofs.Stage.Membership

/-!
# Subscriptions

A subscription is made for one binding, which holds it as long as it is in force, and ends
when the binding does (`performAll_subscribed`).  So a change of data reaches the binding
that holds the subscription (`subscriber?_eq`), and what was made for a binding that is gone
has been given back (`Subscribed.unsubscribed`).
-/

namespace Choreography

namespace Stage

/-- Entries with the same names keep the same names when they are filtered by name. -/
theorem filter_fst_congr {α β γ : Type} {first : List (α × β)} {second : List (α × γ)}
    (same : first.map Prod.fst = second.map Prod.fst) (kept : α → Bool) :
    (first.filter fun entry => kept entry.1).map Prod.fst =
      (second.filter fun entry => kept entry.1).map Prod.fst := by
  have filtered := congrArg (List.filter kept) same
  rwa [List.filter_map, List.filter_map] at filtered

/-- A stage on which bindings and subscriptions belong together. -/
structure Subscribed (stage : Stage) : Prop where
  numbered : ∀ entry ∈ stage.subscribers, entry.1.number ≤ stage.subscriptionCount
  distinct : (stage.subscribers.map Prod.fst).Nodup
  held : ∀ binding ∈ stage.bindings, ∀ subscription ∈ binding.subscriptions,
    (subscription, binding.id) ∈ stage.subscribers
  owned : ∀ entry ∈ stage.subscribers, ∃ binding ∈ stage.bindings,
    binding.id = entry.2 ∧ entry.1 ∈ binding.subscriptions
  listening : stage.listeners.map Prod.fst = stage.subscribers.map Prod.fst
  made : ∀ id root subscription, Event.subscribed id root subscription ∈ stage.history →
    (subscription, id) ∈ stage.subscribers ∨
      Event.unsubscribed id subscription ∈ stage.history
  ended : ∀ id subscription, Event.unsubscribed id subscription ∈ stage.history →
    subscription.number ≤ stage.subscriptionCount ∧
      ∀ entry ∈ stage.subscribers, entry.1 ≠ subscription

theorem new_subscribed (settings : Settings) (data : Store) (source : HelperSupply) :
    Subscribed (new settings data source) :=
  ⟨nofun, List.nodup_nil, nofun, nofun, rfl, nofun, nofun⟩

namespace Subscribed

variable {stage after : Stage}

/-- A subscription belongs to one binding. -/
theorem unique (subscribed : Subscribed stage) {subscription : SubscriptionId}
    {first second : BindingId} (here : (subscription, first) ∈ stage.subscribers)
    (there : (subscription, second) ∈ stage.subscribers) : first = second :=
  congrArg Prod.snd (List.inj_on_of_nodup_map subscribed.distinct here there rfl)

/-- Where ids are distinct, a subscription is held by one binding. -/
theorem eq_of_holds (subscribed : Subscribed stage)
    (distinct : (stage.bindings.map Binding.id).Nodup) {first second : Binding}
    (here : first ∈ stage.bindings) (there : second ∈ stage.bindings)
    {subscription : SubscriptionId} (holds : subscription ∈ first.subscriptions)
    (shares : subscription ∈ second.subscriptions) : first = second :=
  List.inj_on_of_nodup_map distinct here there (subscribed.unique
    (subscribed.held first here subscription holds)
    (subscribed.held second there subscription shares))

/-- What is found for a subscription is what is entered for it. -/
theorem subscriber?_eq_some_iff (subscribed : Subscribed stage) {subscription : SubscriptionId}
    {id : BindingId} :
    stage.subscriber? subscription = some id ↔ (subscription, id) ∈ stage.subscribers := by
  have entered : ∀ {other}, stage.subscriber? subscription = some other →
      (subscription, other) ∈ stage.subscribers := by
    intro other found
    obtain ⟨before, rest, entries, -⟩ := List.lookup_eq_some_iff.mp found
    rw [entries]
    exact List.mem_append_right _ List.mem_cons_self
  refine ⟨entered, fun entry => ?_⟩
  cases found : stage.subscriber? subscription with
  | none => simpa using List.lookup_eq_none_iff.mp found _ entry
  | some other => rw [subscribed.unique (entered found) entry]

theorem subscriber?_of_holds (subscribed : Subscribed stage) {binding : Binding}
    (here : binding ∈ stage.bindings) {subscription : SubscriptionId}
    (holds : subscription ∈ binding.subscriptions) :
    stage.subscriber? subscription = some binding.id :=
  subscribed.subscriber?_eq_some_iff.mpr (subscribed.held binding here subscription holds)

/-- **A subscription leads to the binding that holds it.** -/
theorem subscriber?_eq (subscribed : Subscribed stage) (subscription : SubscriptionId) :
    stage.subscriber? subscription =
      (stage.bindings.find? fun binding => subscription ∈ binding.subscriptions).map
        Binding.id := by
  cases found : stage.bindings.find? fun binding => subscription ∈ binding.subscriptions with
  | some holder =>
    refine subscribed.subscriber?_of_holds (List.mem_of_find?_eq_some found) ?_
    simpa using List.find?_some found
  | none =>
    -- whatever is entered is held by some binding
    refine Option.eq_none_iff_forall_ne_some.mpr fun id entered => ?_
    obtain ⟨binding, here, -, holds⟩ :=
      subscribed.owned _ (subscribed.subscriber?_eq_some_iff.mp entered)
    simpa [holds] using List.find?_eq_none.mp found binding here

/-- What was made for a binding that is not in force has ended. -/
theorem unsubscribed (subscribed : Subscribed stage) {id : BindingId} {root : String}
    {subscription : SubscriptionId}
    (made : Event.subscribed id root subscription ∈ stage.history)
    (gone : ∀ binding ∈ stage.bindings, binding.id ≠ id) :
    Event.unsubscribed id subscription ∈ stage.history ∧
      ∀ listener ∈ stage.listeners, listener.1 ≠ subscription := by
  rcases subscribed.made id root subscription made with entry | past
  · obtain ⟨binding, here, same, -⟩ := subscribed.owned _ entry
    exact absurd same (gone binding here)
  · refine ⟨past, fun listener here same => ?_⟩
    have listed : subscription ∈ stage.subscribers.map Prod.fst := by
      rw [← subscribed.listening, ← same]
      exact List.mem_map_of_mem here
    obtain ⟨entry, among, equal⟩ := List.mem_map.mp listed
    exact (subscribed.ended id subscription past).2 entry among equal

end Subscribed

theorem Steady.subscribed {before after : Stage} (steady : Steady before after)
    (subscribed : Subscribed before) : Subscribed after := by
  obtain ⟨events, kinds, added⟩ := steady.adds
  have old {event : Event} (ends : event.isSteady = false) (here : event ∈ after.history) :
      event ∈ before.history := by
    rw [added] at here
    refine (List.mem_append.mp here).resolve_left fun new => ?_
    rw [kinds event new] at ends
    cases ends
  exact {
    numbered := by
      rw [steady.subscribers, steady.subscriptionCount]
      exact subscribed.numbered
    distinct := by
      rw [steady.subscribers]
      exact subscribed.distinct
    held := by
      intro binding here subscription holds
      obtain ⟨old, there, id, -, -, same⟩ := steady.exists_old here
      rw [steady.subscribers, ← id]
      exact subscribed.held old there subscription (same ▸ holds)
    owned := by
      intro entry here
      rw [steady.subscribers] at here
      obtain ⟨binding, there, id, holds⟩ := subscribed.owned entry here
      obtain ⟨current, present, sameId, same⟩ := steady.exists_new there
      exact ⟨current, present, sameId.trans id, same ▸ holds⟩
    listening := by
      rw [steady.listeners, steady.subscribers]
      exact subscribed.listening
    made := by
      intro id root subscription here
      rw [steady.subscribers, added]
      exact (subscribed.made id root subscription (old rfl here)).imp_right
        (List.mem_append_right _)
    ended := by
      intro id subscription here
      rw [steady.subscribers, steady.subscriptionCount]
      exact subscribed.ended id subscription (old rfl here) }

/-- The subscriptions that a release ends are those of the bindings that are chosen. -/
theorem mem_release_unsubscribed {stage : Stage} {chosen : Binding → Bool} {id : BindingId}
    {subscription : SubscriptionId} :
    Event.unsubscribed id subscription ∈ (stage.release chosen).history ↔
      (∃ binding ∈ stage.bindings, chosen binding = true ∧ binding.id = id ∧
        subscription ∈ binding.subscriptions) ∨
        Event.unsubscribed id subscription ∈ stage.history := by
  have farewells (binding : Binding) :
      Event.unsubscribed id subscription ∈ farewell stage.settings binding ↔
        binding.id = id ∧ subscription ∈ binding.subscriptions := by
    simpa [mem_farewell, and_comm] using fun _ => eq_comm
  rw [release_eq]
  simp [farewells, and_assoc]

/-- The subscriptions that are left after a release are those that no chosen binding holds. -/
theorem mem_release_subscribers {stage : Stage} {chosen : Binding → Bool}
    {entry : SubscriptionId × BindingId} :
    entry ∈ (stage.release chosen).subscribers ↔ entry ∈ stage.subscribers ∧
      ∀ binding ∈ stage.bindings, chosen binding = true → entry.1 ∉ binding.subscriptions := by
  rw [release_eq]
  simp

theorem release_subscribed {stage : Stage} (chosen : Binding → Bool) (sound : Sound stage [])
    (subscribed : Subscribed stage) : Subscribed (stage.release chosen) := by
  have releases := release_releases stage chosen
  exact {
    numbered := by
      intro entry here
      rw [releases.subscriptionCount]
      exact subscribed.numbered entry (mem_release_subscribers.mp here).1
    distinct := subscribed.distinct.sublist (releases.subscribers.map Prod.fst)
    held := by
      intro binding here subscription holds
      obtain ⟨before, kept⟩ := mem_release_bindings.mp here
      have entry := subscribed.held binding before subscription holds
      refine mem_release_subscribers.mpr ⟨entry, fun other there isChosen also => ?_⟩
      exact kept other there isChosen
        (subscribed.unique (subscribed.held other there subscription also) entry)
    owned := by
      intro entry here
      obtain ⟨before, free⟩ := mem_release_subscribers.mp here
      obtain ⟨binding, there, id, holds⟩ := subscribed.owned entry before
      refine ⟨binding, mem_release_bindings_of_spared sound.distinct there ?_, id, holds⟩
      rw [Bool.eq_false_iff]
      exact fun isChosen => free binding there isChosen holds
    listening := by
      rw [release_eq]
      dsimp only
      exact filter_fst_congr subscribed.listening fun subscription =>
        subscription ∉ (stage.bindings.filter chosen).flatMap Binding.subscriptions
    made := by
      intro id root subscription here
      have before : Event.subscribed id root subscription ∈ stage.history := by
        obtain ⟨events, endings, added⟩ := releases.adds
        rw [added] at here
        exact (List.mem_append.mp here).resolve_left fun new => nomatch endings _ new
      rw [mem_release_unsubscribed, mem_release_subscribers]
      rcases subscribed.made id root subscription before with entry | past
      · obtain ⟨binding, there, same, holds⟩ := subscribed.owned _ entry
        cases isChosen : chosen binding with
        | true => exact .inr (.inl ⟨binding, there, isChosen, same, holds⟩)
        | false =>
          -- no other binding holds the subscription, so it is not given back
          refine .inl ⟨entry, fun other present goes also => ?_⟩
          rw [subscribed.eq_of_holds sound.distinct present there also holds, isChosen] at goes
          cases goes
      · exact .inr (.inr past)
    ended := by
      intro id subscription here
      rw [releases.subscriptionCount]
      rcases mem_release_unsubscribed.mp here with ⟨binding, there, isChosen, -, holds⟩ | past
      · refine ⟨subscribed.numbered _ (subscribed.held binding there subscription holds), ?_⟩
        intro entry among same
        exact (mem_release_subscribers.mp among).2 binding there isChosen (same ▸ holds)
      · obtain ⟨given, absent⟩ := subscribed.ended id subscription past
        exact ⟨given, fun entry among => absent entry (mem_release_subscribers.mp among).1⟩ }

/-! ## New subscriptions -/

/-- The numbers of new subscriptions are the next ones. -/
theorem number_of_mem_freshSubscriptions {count : Nat} {roots : List String}
    {entry : SubscriptionId × String} (here : entry ∈ freshSubscriptions count roots) :
    count < entry.1.number ∧ entry.1.number ≤ count + roots.length := by
  obtain ⟨⟨root, number⟩, among, rfl⟩ := List.mem_map.mp here
  obtain ⟨least, greatest, -⟩ := List.mem_zipIdx among
  exact ⟨least, by show number ≤ _; omega⟩

/-- A subscription that was issued before is not a new one. -/
theorem ne_of_mem_freshSubscriptions {count : Nat} {roots : List String}
    {entry : SubscriptionId × String} (here : entry ∈ freshSubscriptions count roots)
    {subscription : SubscriptionId} (given : subscription.number ≤ count) :
    entry.1 ≠ subscription := by
  rintro rfl
  exact Nat.not_le_of_lt (number_of_mem_freshSubscriptions here).1 given

theorem map_fst_freshSubscriptions (count : Nat) (roots : List String) :
    (freshSubscriptions count roots).map Prod.fst =
      (List.range' (count + 1) roots.length).map SubscriptionId.mk := by
  rw [← List.zipIdx_map_snd (count + 1) roots, freshSubscriptions, List.map_map, List.map_map]
  rfl

theorem nodup_freshSubscriptions (count : Nat) (roots : List String) :
    ((freshSubscriptions count roots).map Prod.fst).Nodup := by
  rw [map_fst_freshSubscriptions]
  refine List.Nodup.map ?_ List.nodup_range'
  intro first second same
  exact SubscriptionId.mk.inj same

theorem mem_welcome_subscribed {id other : BindingId} {label root : String}
    {animation : Animation} {fresh : List (SubscriptionId × String)}
    {subscription : SubscriptionId} :
    Event.subscribed other root subscription ∈ welcome id label animation fresh ↔
      other = id ∧ (subscription, root) ∈ fresh := by
  simp [mem_welcome, and_comm]

theorem bind_subscribed {stage : Stage} (subscribed : Subscribed stage) (label : String)
    (animation : Animation) (chain : Chain) :
    Subscribed (stage.bind label animation chain).1 := by
  let id : BindingId := ⟨stage.bindingCount + 1⟩
  let fresh := freshSubscriptions stage.subscriptionCount
    (roots (stage.data.scope chain) animation)
  rw [bind_eq]
  exact {
    numbered := by
      intro entry here
      rcases List.mem_append.mp here with here | here
      · exact Nat.le_add_right_of_le (subscribed.numbered entry here)
      · obtain ⟨given, among, rfl⟩ := List.mem_map.mp here
        exact (number_of_mem_freshSubscriptions among).2
    distinct := by
      show ((stage.subscribers ++ fresh.map fun entry => (entry.1, id)).map Prod.fst).Nodup
      rw [List.map_append, List.map_map, List.nodup_append]
      refine ⟨subscribed.distinct, nodup_freshSubscriptions _ _, ?_⟩
      intro subscription here other there same
      obtain ⟨entry, among, rfl⟩ := List.mem_map.mp here
      obtain ⟨given, present, rfl⟩ := List.mem_map.mp there
      exact ne_of_mem_freshSubscriptions present (subscribed.numbered entry among) same.symm
    held := by
      intro binding here subscription holds
      rcases List.mem_append.mp here with here | here
      · exact List.mem_append_left _ (subscribed.held binding here subscription holds)
      · rw [List.mem_singleton.mp here] at holds ⊢
        obtain ⟨entry, among, rfl⟩ := List.mem_map.mp holds
        exact List.mem_append_right _ (List.mem_map_of_mem among)
    owned := by
      intro entry here
      rcases List.mem_append.mp here with here | here
      · obtain ⟨binding, there, same⟩ := subscribed.owned entry here
        exact ⟨binding, List.mem_append_left _ there, same⟩
      · obtain ⟨given, among, rfl⟩ := List.mem_map.mp here
        exact ⟨_, List.mem_append_right _ (List.mem_singleton.mpr rfl), rfl,
          List.mem_map_of_mem among⟩
    listening := by
      show (stage.listeners ++ fresh).map Prod.fst =
        (stage.subscribers ++ fresh.map fun entry => (entry.1, id)).map Prod.fst
      rw [List.map_append, List.map_append, subscribed.listening, List.map_map]
      rfl
    made := by
      intro other root subscription here
      rcases List.mem_append.mp here with here | here
      · obtain ⟨rfl, among⟩ := mem_welcome_subscribed.mp here
        exact .inl (List.mem_append_right _ (List.mem_map_of_mem among))
      · rcases subscribed.made other root subscription here with entry | past
        · exact .inl (List.mem_append_left _ entry)
        · exact .inr (List.mem_append_right _ past)
    ended := by
      intro other subscription here
      rcases List.mem_append.mp here with here | here
      · cases isBeginning_of_mem_welcome here
      · obtain ⟨given, absent⟩ := subscribed.ended other subscription here
        refine ⟨Nat.le_add_right_of_le given, fun entry among => ?_⟩
        rcases List.mem_append.mp among with among | among
        · exact absent entry among
        · obtain ⟨issued, present, rfl⟩ := List.mem_map.mp among
          exact ne_of_mem_freshSubscriptions present given }

/-- **Operations keep bindings and subscriptions together.** -/
theorem performAll_subscribed {stage : Stage} (sound : Sound stage [])
    (subscribed : Subscribed stage) (operations : List Operation) :
    Subscribed (stage.performAll operations) :=
  performAll_membership Subscribed (fun _ _ => Steady.subscribed)
    (fun _ => release_subscribed)
    (fun _ label animation chain subscribed =>
      bind_subscribed subscribed label animation chain)
    sound subscribed operations

end Stage

end Choreography
