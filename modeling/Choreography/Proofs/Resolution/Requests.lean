import Choreography.Proofs.Resolution.Sessions

/-!
# The ledger of requests

What the events of a session say of each helper is where the loader has it stand
(`Session.Ledger`): a helper that was not asked for with success was not offered, and what was
offered or delivered is what is here or on its way.  **The ledger is kept by whatever is done to
a loader**: by asking for a helper (`Asks.demand`), by polls (`Ledger.poll`) and by deliveries
(`Ledger.deliver`).
-/

namespace Choreography

/-- What an offer delivers, as far as that is known. -/
def Offer.delivery? : Offer → Option (Option Helper)
  | .ready helper => some (some helper)
  | .later (some (_, delivery)) => some delivery
  | .later none => none
  | .missing => none

namespace Arrival

/-- What is delivered, as far as that is known. -/
def delivery? : Arrival → Option (Option Helper)
  | .ready helper => some (some helper)
  | .unavailable => some none
  | .awaited => none
  | .arriving _ delivery => some delivery

theorem delivery?_ofDelivery (delivery : Option Helper) :
    (ofDelivery delivery).delivery? = some delivery := by
  cases delivery <;> rfl

/-- A poll may see what is delivered, but does not change it. -/
theorem delivery?_poll (arrival : Arrival) : arrival.poll.delivery? = arrival.delivery? := by
  cases arrival with
  | arriving polls delivery =>
    rw [poll]
    split
    · rw [delivery?_ofDelivery, delivery?]
    · rfl
  | _ => rfl

/-- What was offered is what is delivered. -/
theorem delivery?_ofOffer? (offer : Offer) :
    (ofOffer? offer).bind delivery? = offer.delivery? := by
  cases offer with
  | later polls => cases polls <;> rfl
  | _ => rfl

end Arrival

namespace Session

/-- What an event says to be delivered for a helper. -/
def Event.delivery? (name : String) : Event → Option (Option Helper)
  | .requested other offer => if other = name then offer.delivery? else none
  | .delivered other delivery => if other = name then some delivery else none
  | .finished _ _ _ => none
  | .asked _ _ => none

/-- What is delivered for a helper, in order. -/
def deliveries (name : String) (events : List Event) : List (Option Helper) :=
  events.filterMap (Event.delivery? name)

/-- A source that has offered a helper is not asked for it again. -/
def AskedOnce (early late : Event) : Prop :=
  ∀ name offer offer', early = .requested name offer → late = .requested name offer' →
    offer = .missing

/-! ## The ledger -/

/-- What some events say of each helper is where a loader has it stand. -/
structure Ledger (loader : Loader) (events : List Event) : Prop where
  once : events.Pairwise AskedOnce
  unasked : ∀ name offer, loader.arrival? name = none → .requested name offer ∈ events →
    offer = .missing
  delivered : ∀ name,
    deliveries name events = ((loader.arrival? name).bind Arrival.delivery?).toList

/-- An event that says nothing of a load. -/
def Event.IsQuiet : Event → Prop
  | .requested _ _ => False
  | .delivered _ _ => False
  | .finished _ _ _ => True
  | .asked _ _ => True

theorem deliveries_append (name : String) (events more : List Event) :
    deliveries name (events ++ more) = deliveries name events ++ deliveries name more :=
  List.filterMap_append

theorem deliveries_singleton (name : String) (event : Event) :
    deliveries name [event] = (event.delivery? name).toList := by
  rw [deliveries, List.filterMap_cons]
  cases event.delivery? name <;> rfl

namespace Ledger

variable {loader later : Loader} {events more : List Event}

theorem empty : Ledger .empty [] := ⟨.nil, nofun, fun _ => rfl⟩

theorem append_quiet (ledger : Ledger loader events) (quiet : ∀ event ∈ more, event.IsQuiet) :
    Ledger loader (events ++ more) where
  once := by
    refine List.pairwise_append.mpr ⟨ledger.once, ?_, ?_⟩
    · refine List.pairwise_of_forall_mem_list fun early here late _ => ?_
      rintro name offer offer' rfl -
      exact (quiet _ here).elim
    · rintro early - late here name offer offer' - rfl
      exact (quiet _ here).elim
  unasked := by
    intro name offer unasked here
    rcases List.mem_append.mp here with early | late
    · exact ledger.unasked name offer unasked early
    · exact (quiet _ late).elim
  delivered := by
    intro name
    have nothing : deliveries name more = [] := by
      refine List.filterMap_eq_nil_iff.mpr fun event here => ?_
      have event_quiet := quiet event here
      cases event with
      | requested => exact event_quiet.elim
      | delivered => exact event_quiet.elim
      | finished => rfl
      | asked => rfl
    rw [deliveries_append, nothing, List.append_nil, ledger.delivered]

/-- A helper that was not asked for is requested, and stands as it was offered. -/
theorem request (ledger : Ledger loader events) {name : String} {offer : Offer}
    (unasked : loader.arrival? name = none)
    (stands : ∀ other, later.arrival? other =
      if name = other then Arrival.ofOffer? offer else loader.arrival? other) :
    Ledger later (events ++ [.requested name offer]) where
  once := by
    refine List.pairwise_append.mpr ⟨ledger.once, List.pairwise_singleton _ _, ?_⟩
    rintro early here late last other first second rfl again
    rw [List.mem_singleton.mp last] at again
    cases again
    exact ledger.unasked name first unasked here
  unasked := by
    intro other offered still here
    rw [stands] at still
    rcases List.mem_append.mp here with early | last
    · by_cases same : name = other
      · subst same
        exact ledger.unasked name offered unasked early
      · rw [if_neg same] at still
        exact ledger.unasked other offered still early
    · -- the helper that was just asked for stands as unknown only if the source has none
      cases List.mem_singleton.mp last
      rw [if_pos rfl] at still
      cases offer with
      | ready => cases still
      | later polls => cases polls <;> cases still
      | missing => rfl
  delivered := by
    intro other
    rw [deliveries_append, deliveries_singleton, ledger.delivered, stands, Event.delivery?]
    by_cases same : name = other
    · subst same
      rw [if_pos rfl, if_pos rfl, Arrival.delivery?_ofOffer?, unasked]
      rfl
    · rw [if_neg same, if_neg same]
      simp

end Ledger

/-! ## Asking for helpers -/

section

variable {source : HelperSource} {loader between later : Loader}

theorem requestsBetween_eq {names : List String} (more : later.requests = names ++ loader.requests) :
    requestsBetween source loader later =
      names.reverse.map fun name => .requested name (source name) := by
  rw [requestsBetween, more, List.length_append, Nat.add_sub_cancel, List.take_left']
  rfl

theorem requestsBetween_self : requestsBetween source loader loader = [] :=
  requestsBetween_eq (List.nil_append _).symm

theorem requestsBetween_trans {names others : List String}
    (early : between.requests = names ++ loader.requests)
    (late : later.requests = others ++ between.requests) :
    requestsBetween source loader later =
      requestsBetween source loader between ++ requestsBetween source between later := by
  have both : later.requests = (others ++ names) ++ loader.requests := by
    rw [late, early, List.append_assoc]
  rw [requestsBetween_eq early, requestsBetween_eq late, requestsBetween_eq both,
    List.reverse_append, List.map_append]

/-- A loader goes on by asking for helpers: the requests are kept, and the ledger with the
new ones is right. -/
structure Asks (source : HelperSource) (loader later : Loader) : Prop where
  kept : ∃ names, later.requests = names ++ loader.requests
  ledger : ∀ events, Ledger loader events →
    Ledger later (events ++ requestsBetween source loader later)

theorem Asks.refl (source : HelperSource) (loader : Loader) : Asks source loader loader where
  kept := ⟨[], rfl⟩
  ledger := by
    intro events ledger
    rw [requestsBetween_self, List.append_nil]
    exact ledger

theorem Asks.trans (early : Asks source loader between) (late : Asks source between later) :
    Asks source loader later := by
  obtain ⟨names, before⟩ := early.kept
  obtain ⟨others, after⟩ := late.kept
  refine ⟨⟨others ++ names, by rw [after, before, List.append_assoc]⟩, ?_⟩
  intro events ledger
  rw [requestsBetween_trans before after, ← List.append_assoc]
  exact late.ledger _ (early.ledger events ledger)

/-- **Demanding a helper** requests it if it was not offered before. -/
theorem Asks.demand (source : HelperSource) (loader : Loader) (name : String) :
    Asks source loader (loader.demand source name).1 := by
  cases here : loader.arrival? name with
  | some arrival =>
    rw [Loader.demand_of_arrival? here]
    exact .refl source loader
  | none =>
    have unasked : Fields.get? loader.arrivals name = none := here
    have requests : (loader.demand source name).1.requests = [name] ++ loader.requests := by
      rw [Loader.demand, unasked]
      dsimp only
      cases Arrival.ofOffer? (source name) <;> rfl
    have stands (other : String) : (loader.demand source name).1.arrival? other =
        if name = other then Arrival.ofOffer? (source name) else loader.arrival? other := by
      rw [Loader.demand, unasked]
      dsimp only
      cases offered : Arrival.ofOffer? (source name) with
      | none =>
        by_cases same : name = other
        · rw [if_pos same, ← same]
          exact here
        · rw [if_neg same]
          rfl
      | some arrival => simp only [Loader.arrival?, Fields.get?_put]
    refine ⟨⟨[name], requests⟩, ?_⟩
    intro events ledger
    rw [requestsBetween_eq requests]
    exact ledger.request here stands

theorem demands_asks (source : HelperSource) : Sketch.Demands source (Asks source) :=
  ⟨.refl source, .trans, .demand source⟩

end

/-! ## Polls and deliveries -/

/-- A loader goes on without being asked for more: the ledger stays right. -/
def KeepsLedger (loader later : Loader) (_ _ : List String) : Prop :=
  ∀ events, Ledger loader events → Ledger later events

theorem Ledger.poll {loader : Loader} {events : List Event} (ledger : Ledger loader events)
    (name : String) : Ledger (loader.poll name).1 events where
  once := ledger.once
  unasked := by
    intro other offer still here
    refine ledger.unasked other offer ?_ here
    rw [Loader.arrival?_poll] at still
    split at still
    · exact Option.map_eq_none_iff.mp still
    · exact still
  delivered := by
    intro other
    rw [ledger.delivered, Loader.arrival?_poll]
    split
    · cases loader.arrival? other with
      | none => rfl
      | some arrival => exact congrArg Option.toList (Arrival.delivery?_poll arrival).symm
    · rfl

theorem polls_keepsLedger : Sketch.Polls KeepsLedger where
  nil := fun _ _ ledger => ledger
  append := fun early late events ledger => late events (early events ledger)
  call := by
    intro loader call events ledger
    rw [Sketch.fst_pollCall]
    exact ledger.poll call.helper

theorem Ledger.deliver {loader later : Loader} {events : List Event} {name : String}
    {delivery : Option Helper} (ledger : Ledger loader events)
    (delivered : loader.deliver? name delivery = some later) :
    Ledger later (events ++ [.delivered name delivery]) := by
  rw [Loader.deliver?] at delivered
  split at delivered
  · rename_i awaited
    cases delivered
    have here : loader.arrival? name = some .awaited := awaited
    refine ⟨List.pairwise_append.mpr ⟨ledger.once, List.pairwise_singleton _ _, ?_⟩, ?_, ?_⟩
    · rintro early - late last other offer offer' - rfl
      cases List.mem_singleton.mp last
    · intro other offer still requested
      rcases List.mem_append.mp requested with early | last
      · refine ledger.unasked other offer ?_ early
        rw [Loader.arrival?, Fields.get?_put] at still
        split at still
        · cases still
        · exact still
      · cases List.mem_singleton.mp last
    · intro other
      rw [deliveries_append, deliveries_singleton, ledger.delivered, Event.delivery?,
        Loader.arrival?, Loader.arrival?, Fields.get?_put]
      by_cases same : name = other
      · subst same
        rw [if_pos rfl, if_pos rfl, awaited]
        rfl
      · rw [if_neg same, if_neg same]
        simp
  · cases delivered

end Session

end Choreography
