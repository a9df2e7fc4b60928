import Choreography.Helper.Loader

/-!
# The progress of loads

A helper that has been asked for stays asked for, and one that has settled, because
it came or because nothing came, stays as it is.  Two relations between loaders
say so:

* `Loader.Grows` — every helper that was asked for stands exactly where it stood;
  this is what asking for more helpers does (`demand_grows`);
* `Loader.Precedes` — every helper that was asked for still is, and every settled
  one stands where it stood; polls and deliveries do no more than that
  (`poll_precedes`, `deliver?_precedes`).

`Happening` lists what can be done to a loader, and `after_precedes` is the one
statement about all of it.
-/

namespace Choreography

namespace Arrival

/-- Whether nothing more will happen to a helper. -/
def isSettled : Arrival → Bool
  | .ready _ => true
  | .unavailable => true
  | .awaited => false
  | .arriving _ _ => false

/-- A poll does nothing to a helper that has settled. -/
@[simp] theorem poll_of_isSettled {arrival : Arrival} (settled : arrival.isSettled = true) :
    arrival.poll = arrival := by
  cases arrival with
  | ready => rfl
  | unavailable => rfl
  | awaited => rfl
  | arriving => simp [isSettled] at settled

@[simp] theorem isSettled_ofDelivery (delivery : Option Helper) :
    (ofDelivery delivery).isSettled = true := by
  cases delivery <;> rfl

end Arrival

namespace Loader

/-- Where a helper stands, if it has been asked for. -/
def arrival? (loader : Loader) (name : String) : Option Arrival :=
  Fields.get? loader.arrivals name

/-- Whether a helper has been asked for and has settled. -/
def hasSettled (loader : Loader) (name : String) : Bool :=
  (loader.arrival? name).any Arrival.isSettled

theorem hasSettled_of_arrival? {loader : Loader} {name : String} {arrival : Arrival}
    (asked : loader.arrival? name = some arrival) :
    loader.hasSettled name = arrival.isSettled := by
  simp [hasSettled, asked]

/-! ## Loaders over time -/

/-- A later loader in which every helper that was asked for stands where it
stood. -/
def Grows (earlier later : Loader) : Prop :=
  ∀ name arrival, earlier.arrival? name = some arrival →
    later.arrival? name = some arrival

/-- A later loader in which every helper that was asked for still is, and every
helper that had settled stands where it stood. -/
structure Precedes (earlier later : Loader) : Prop where
  asked : ∀ name, (earlier.arrival? name).isSome → (later.arrival? name).isSome
  settled : ∀ name arrival, earlier.arrival? name = some arrival →
    arrival.isSettled = true → later.arrival? name = some arrival

theorem Grows.refl (loader : Loader) : loader.Grows loader := fun _ _ asked => asked

theorem Grows.trans {first second third : Loader} (early : first.Grows second)
    (late : second.Grows third) : first.Grows third :=
  fun name arrival asked => late name arrival (early name arrival asked)

theorem Grows.precedes {earlier later : Loader} (grows : earlier.Grows later) :
    earlier.Precedes later where
  asked := by
    intro name asked
    obtain ⟨arrival, here⟩ := Option.isSome_iff_exists.mp asked
    rw [grows name arrival here]
    rfl
  settled := fun name arrival here _ => grows name arrival here

theorem Precedes.refl (loader : Loader) : loader.Precedes loader :=
  (Grows.refl loader).precedes

theorem Precedes.trans {first second third : Loader} (early : first.Precedes second)
    (late : second.Precedes third) : first.Precedes third where
  asked := fun name here => late.asked name (early.asked name here)
  settled := fun name arrival here settled =>
    late.settled name arrival (early.settled name arrival here settled) settled

/-- A helper that has settled stays settled. -/
theorem Precedes.hasSettled {earlier later : Loader} (precedes : earlier.Precedes later)
    {name : String} (settled : earlier.hasSettled name = true) :
    later.hasSettled name = true := by
  cases here : earlier.arrival? name with
  | none => simp [Loader.hasSettled, here] at settled
  | some arrival =>
    rw [hasSettled_of_arrival? here] at settled
    rw [hasSettled_of_arrival? (precedes.settled name arrival here settled)]
    exact settled

/-- A helper that is here stays here. -/
theorem Precedes.isLoaded {earlier later : Loader} (precedes : earlier.Precedes later)
    {name : String} (loaded : earlier.isLoaded name = true) : later.isLoaded name = true := by
  rw [Loader.isLoaded] at loaded
  split at loaded
  · rename_i helper here
    have still : Fields.get? later.arrivals name = some (.ready helper) :=
      precedes.settled name (.ready helper) here rfl
    rw [Loader.isLoaded, still]
  · cases loaded

/-! ## What can be done to a loader -/

/-- Where a helper stands when it is demanded is where it then stands. -/
theorem arrival?_demand {source : HelperSource} {loader later : Loader} {name : String}
    {arrival : Arrival} (demanded : loader.demand source name = (later, some arrival)) :
    later.arrival? name = some arrival := by
  unfold demand at demanded
  split at demanded
  · rename_i asked
    cases demanded
    exact asked
  · split at demanded
    · cases demanded
      simp [arrival?, Fields.get?_put]
    · cases demanded

/-- A helper that its source does not know stays unasked for. -/
theorem arrival?_demand_none {source : HelperSource} {loader later : Loader} {name : String}
    (demanded : loader.demand source name = (later, none)) : later.arrival? name = none := by
  unfold demand at demanded
  split at demanded
  · cases demanded
  · rename_i unasked
    split at demanded
    · cases demanded
    · cases demanded
      exact unasked

/-- Demanding a helper changes nothing for the others. -/
theorem arrival?_demand_of_ne (source : HelperSource) (loader : Loader) {name other : String}
    (different : name ≠ other) :
    (loader.demand source name).1.arrival? other = loader.arrival? other := by
  rw [demand]
  split
  · rfl
  · split
    · rw [arrival?, Fields.get?_put, if_neg different, arrival?]
    · rfl

/-- What a demand is answered with depends only on where the helper stands. -/
theorem snd_demand_congr {source : HelperSource} {loader later : Loader} {name : String}
    (same : later.arrival? name = loader.arrival? name) :
    (later.demand source name).2 = (loader.demand source name).2 := by
  rw [arrival?, arrival?] at same
  rw [demand, demand, same]
  cases Fields.get? loader.arrivals name with
  | some arrival => rfl
  | none => cases Arrival.ofOffer? (source name) <;> rfl

/-- A helper that was asked for stands where it stood, and is not requested again. -/
theorem demand_of_arrival? {source : HelperSource} {loader : Loader} {name : String}
    {arrival : Arrival} (asked : loader.arrival? name = some arrival) :
    loader.demand source name = (loader, some arrival) := by
  rw [arrival?] at asked
  rw [demand, asked]

/-- Demanding a helper changes nothing for those that were asked for. -/
theorem demand_grows (source : HelperSource) (loader : Loader) (name : String) :
    loader.Grows (loader.demand source name).1 := by
  intro other arrival asked
  by_cases same : name = other
  · rw [same, demand_of_arrival? asked]
    exact asked
  · rw [arrival?_demand_of_ne source loader same]
    exact asked

/-- Where a helper stands after a poll of any helper. -/
theorem arrival?_poll (loader : Loader) (name other : String) :
    (loader.poll name).1.arrival? other =
      if name = other then (loader.arrival? other).map Arrival.poll
      else loader.arrival? other := by
  unfold poll
  cases here : Fields.get? loader.arrivals name with
  | none =>
    by_cases same : name = other
    · subst same
      simp [arrival?, here]
    · simp [same]
  | some arrival =>
    by_cases same : name = other
    · subst same
      simp [arrival?, Fields.get?_put, here]
    · simp [arrival?, Fields.get?_put, same]

/-- The answer to a poll is where the helper then stands. -/
theorem snd_poll (loader : Loader) (name : String) :
    (loader.poll name).2 = (loader.poll name).1.arrival? name := by
  rw [arrival?_poll, if_pos rfl, poll, arrival?]
  cases Fields.get? loader.arrivals name <;> rfl

theorem poll_precedes (loader : Loader) (name : String) :
    loader.Precedes (loader.poll name).1 where
  asked := by
    intro other here
    rw [arrival?_poll]
    split
    · rw [Option.isSome_map]
      exact here
    · exact here
  settled := by
    intro other arrival here settled
    rw [arrival?_poll]
    split
    · rw [here, Option.map_some, Arrival.poll_of_isSettled settled]
    · exact here

theorem deliver?_precedes {loader later : Loader} {name : String}
    {delivery : Option Helper} (delivered : loader.deliver? name delivery = some later) :
    loader.Precedes later := by
  unfold deliver? at delivered
  split at delivered
  · rename_i awaited
    cases delivered
    refine ⟨?_, ?_⟩
    · intro other here
      rw [arrival?, Fields.get?_put]
      split
      · rfl
      · exact here
    · intro other arrival here settled
      rw [arrival?, Fields.get?_put]
      split
      · -- an awaited helper has not settled
        rename_i same
        rw [arrival?, ← same, awaited] at here
        cases here
        cases settled
      · exact here
  · cases delivered

/-- A delivery is seen by the next poll, and settles nothing before. -/
theorem hasSettled_deliver? {loader later : Loader} {name : String}
    {delivery : Option Helper} (delivered : loader.deliver? name delivery = some later)
    (other : String) : later.hasSettled other = loader.hasSettled other := by
  unfold deliver? at delivered
  split at delivered
  · rename_i awaited
    cases delivered
    by_cases same : name = other
    · subst same
      simp [hasSettled, arrival?, Fields.get?_put, awaited, Arrival.isSettled]
    · simp [hasSettled, arrival?, Fields.get?_put, same]
  · cases delivered

/-- One thing that can be done to a loader. -/
inductive Happening where
  | demanded (source : HelperSource) (name : String)
  | polled (name : String)
  | delivered (name : String) (delivery : Option Helper)

/-- The loader after something was done to it. -/
def after (loader : Loader) : Happening → Loader
  | .demanded source name => (loader.demand source name).1
  | .polled name => (loader.poll name).1
  | .delivered name delivery => (loader.deliver? name delivery).getD loader

theorem after_precedes (loader : Loader) (happening : Happening) :
    loader.Precedes (loader.after happening) := by
  cases happening with
  | demanded source name => exact (demand_grows source loader name).precedes
  | polled name => exact poll_precedes loader name
  | delivered name delivery =>
    show loader.Precedes ((loader.deliver? name delivery).getD loader)
    cases delivered : loader.deliver? name delivery with
    | none => exact Precedes.refl loader
    | some later => exact deliver?_precedes delivered

/-- Whatever is done to a loader, it only makes progress. -/
theorem foldl_after_precedes (happenings : List Happening) (loader : Loader) :
    loader.Precedes (happenings.foldl after loader) := by
  induction happenings generalizing loader with
  | nil => exact Precedes.refl loader
  | cons happening rest ih =>
    exact (after_precedes loader happening).trans (ih (loader.after happening))

end Loader

end Choreography
