import Choreography.Helper.Catalogue
import Choreography.Proofs.Resolution.Places

/-!
# Helpers that are due

A helper is due in a number of polls if it has settled after them.  Whoever polls it, it is
due no later, and a pass over the open places of a sketch polls every helper that they wait
for, so **whatever is still open after the pass is due one poll earlier**
(`pollFields_hastens`).

What a source offers is due in a number of polls if that holds of every helper that it would
begin to load; the built-in helpers are due in as many polls as they take to arrive
(`builtinSource_prompt`).
-/

namespace Choreography

namespace Arrival

/-- Whether a helper has settled after a number of polls. -/
def isDue : Nat → Arrival → Bool
  | 0, arrival => arrival.isSettled
  | polls + 1, arrival => isDue polls arrival.poll

theorem isDue_zero (arrival : Arrival) : arrival.isDue 0 = arrival.isSettled := rfl

theorem isDue_succ (polls : Nat) (arrival : Arrival) :
    arrival.isDue (polls + 1) = arrival.poll.isDue polls := rfl

theorem isDue_of_isSettled {arrival : Arrival} (settled : arrival.isSettled = true)
    (polls : Nat) : arrival.isDue polls = true := by
  induction polls with
  | zero => exact settled
  | succ polls ih =>
    rw [isDue_succ, poll_of_isSettled settled]
    exact ih

/-- A poll makes no helper due later. -/
theorem isDue_poll {arrival : Arrival} {polls : Nat} (due : arrival.isDue polls = true) :
    arrival.poll.isDue polls = true := by
  induction polls generalizing arrival with
  | zero =>
    rw [isDue_zero] at due
    rw [poll_of_isSettled due]
    exact due
  | succ polls ih => exact ih due

/-- A helper that arrives after a number of polls is due in as many. -/
theorem isDue_arriving (polls : Nat) (delivery : Option Helper) :
    (arriving (polls + 1) delivery).isDue (polls + 1) = true := by
  induction polls with
  | zero => exact isSettled_ofDelivery delivery
  | succ polls ih =>
    have goesOn : (arriving (polls + 2) delivery).poll = arriving (polls + 1) delivery := by
      simp [poll]
    rw [isDue_succ, goesOn]
    exact ih

end Arrival

namespace Loader

/-- Whether a helper has been asked for and has settled after a number of polls. -/
def isDue (loader : Loader) (polls : Nat) (name : String) : Bool :=
  (loader.arrival? name).any (Arrival.isDue polls)

theorem isDue_of_arrival? {loader : Loader} {name : String} {arrival : Arrival}
    (asked : loader.arrival? name = some arrival) (polls : Nat) :
    loader.isDue polls name = arrival.isDue polls := by
  simp [isDue, asked]

theorem exists_arrival?_of_isDue {loader : Loader} {polls : Nat} {name : String}
    (due : loader.isDue polls name = true) :
    ∃ arrival, loader.arrival? name = some arrival ∧ arrival.isDue polls = true := by
  cases asked : loader.arrival? name with
  | none => simp [isDue, asked] at due
  | some arrival => exact ⟨arrival, rfl, (isDue_of_arrival? asked polls).symm.trans due⟩

/-- What is due in no poll has settled. -/
theorem isDue_zero (loader : Loader) (name : String) :
    loader.isDue 0 name = loader.hasSettled name := rfl

/-- What is due in some polls is due in more. -/
theorem isDue_succ {loader : Loader} {polls : Nat} {name : String}
    (due : loader.isDue polls name = true) : loader.isDue (polls + 1) name = true := by
  obtain ⟨arrival, asked, isDue⟩ := exists_arrival?_of_isDue due
  rw [isDue_of_arrival? asked]
  exact Arrival.isDue_poll isDue

/-- Where nothing changes for the helpers that were asked for, they stay due. -/
theorem Grows.isDue {loader later : Loader} (grows : loader.Grows later) {polls : Nat}
    {name : String} (due : loader.isDue polls name = true) : later.isDue polls name = true := by
  obtain ⟨arrival, asked, isDue⟩ := exists_arrival?_of_isDue due
  rw [isDue_of_arrival? (grows name arrival asked)]
  exact isDue

/-- A poll of any helper makes none due later. -/
theorem isDue_poll {loader : Loader} {polls : Nat} {name : String}
    (due : loader.isDue polls name = true) (other : String) :
    (loader.poll other).1.isDue polls name = true := by
  obtain ⟨arrival, asked, isDue⟩ := exists_arrival?_of_isDue due
  rw [Loader.isDue, arrival?_poll, asked]
  split
  · exact Arrival.isDue_poll isDue
  · exact isDue

/-- A poll of a helper makes it due one poll earlier. -/
theorem isDue_poll_self {loader : Loader} {polls : Nat} {name : String}
    (due : loader.isDue (polls + 1) name = true) :
    (loader.poll name).1.isDue polls name = true := by
  obtain ⟨arrival, asked, isDue⟩ := exists_arrival?_of_isDue due
  rw [Loader.isDue, arrival?_poll, asked, if_pos rfl]
  exact isDue

/-- Every helper that has been asked for is due in a number of polls. -/
def Prompt (loader : Loader) (polls : Nat) : Prop :=
  ∀ name arrival, loader.arrival? name = some arrival → arrival.isDue polls = true

theorem empty_prompt (polls : Nat) : empty.Prompt polls := nofun

theorem Prompt.isDue {loader : Loader} {polls : Nat} (prompt : loader.Prompt polls)
    {name : String} (asked : (loader.arrival? name).isSome) : loader.isDue polls name = true := by
  obtain ⟨arrival, here⟩ := Option.isSome_iff_exists.mp asked
  rw [isDue_of_arrival? here]
  exact prompt name arrival here

theorem Prompt.poll {loader : Loader} {polls : Nat} (prompt : loader.Prompt polls)
    (name : String) : (loader.poll name).1.Prompt polls := by
  intro other arrival here
  rw [arrival?_poll] at here
  split at here
  · obtain ⟨before, asked, rfl⟩ := Option.map_eq_some_iff.mp here
    exact Arrival.isDue_poll (prompt other before asked)
  · exact prompt other arrival here

end Loader

/-- A source each of whose helpers is due in a number of polls once it is asked for. -/
def HelperSource.Prompt (source : HelperSource) (polls : Nat) : Prop :=
  ∀ name arrival, Arrival.ofOffer? (source name) = some arrival → arrival.isDue polls = true

/-- The built-in helpers are due in as many polls as they take to arrive. -/
theorem builtinSource_prompt (latency : Nat) :
    HelperSource.Prompt (Helper.builtinSource latency) latency := by
  intro name arrival offered
  unfold Helper.builtinSource at offered
  split at offered
  · cases offered
  · split at offered
    · cases offered
      exact Arrival.isDue_of_isSettled rfl latency
    · rename_i delayed
      obtain ⟨polls, rfl⟩ := Nat.exists_eq_succ_of_ne_zero delayed
      cases offered
      exact Arrival.isDue_arriving polls _

theorem Loader.Prompt.demand {source : HelperSource} {loader : Loader} {polls : Nat}
    (prompt : loader.Prompt polls) (offers : source.Prompt polls) (name : String) :
    (loader.demand source name).1.Prompt polls := by
  unfold Loader.demand
  split
  · exact prompt
  · split
    · rename_i offered
      intro other arrival here
      rw [Loader.arrival?, Fields.get?_put] at here
      split at here
      · cases here
        exact offers name _ offered
      · exact prompt other arrival here
    · exact prompt

/-! ## A pass over the open places -/

/-- What a pass over some open places does: no helper is due later than before, and what is
still open after it is due one poll earlier. -/
structure Hastens (loader later : Loader) (before after : List String) : Prop where
  keeps : ∀ polls name, loader.isDue polls name = true → later.isDue polls name = true
  lowers : ∀ polls, (∀ name ∈ before, loader.isDue (polls + 1) name = true) →
    ∀ name ∈ after, 0 < polls ∧ later.isDue polls name = true

theorem Hastens.nil (loader : Loader) : Hastens loader loader [] [] :=
  ⟨fun _ _ due => due, fun _ _ => nofun⟩

/-- Two passes, one after the other. -/
theorem Hastens.append {loader between later : Loader}
    {before after moreBefore moreAfter : List String}
    (first : Hastens loader between before after)
    (second : Hastens between later moreBefore moreAfter) :
    Hastens loader later (before ++ moreBefore) (after ++ moreAfter) where
  keeps := fun polls name due => second.keeps polls name (first.keeps polls name due)
  lowers := by
    intro polls due name stillOpen
    rcases List.mem_append.mp stillOpen with stillOpen | stillOpen
    · obtain ⟨more, lowered⟩ := first.lowers polls
        (fun name here => due name (List.mem_append_left _ here)) name stillOpen
      exact ⟨more, second.keeps polls name lowered⟩
    · refine second.lowers polls (fun name here => ?_) name stillOpen
      exact first.keeps _ name (due name (List.mem_append_right _ here))

namespace Sketch

theorem pollCall_hastens (loader : Loader) (call : WaitingCall) :
    Hastens loader (pollCall loader call).1 [call.helper] (pollCall loader call).2.awaited := by
  rw [awaited_pollCall, fst_pollCall]
  refine ⟨fun polls name due => Loader.isDue_poll due call.helper, ?_⟩
  intro polls due name stillOpen
  split at stillOpen
  · cases stillOpen
  · rename_i unsettled
    rw [List.mem_singleton.mp stillOpen]
    have lowered := Loader.isDue_poll_self (due call.helper (List.mem_singleton.mpr rfl))
    refine ⟨Nat.pos_of_ne_zero ?_, lowered⟩
    rintro rfl
    exact unsettled lowered

theorem polls_hastens : Polls Hastens := ⟨Hastens.nil, Hastens.append, pollCall_hastens⟩

/-- **A poll of options that wait brings what is still open one poll nearer.** -/
theorem pollFields_hastens (loader : Loader) (fields : List (String × Sketch)) :
    Hastens loader (pollFields loader fields).1 (fieldsAwaited fields)
      (fieldsAwaited (pollFields loader fields).2) :=
  pollFields_relates polls_hastens loader fields

end Sketch

/-! ## Loaders whose helpers are all due -/

/-- Asking for helpers keeps a loader prompt if the source is. -/
theorem demands_prompt {source : HelperSource} {polls : Nat} (offers : source.Prompt polls) :
    Sketch.Demands source fun loader later => loader.Prompt polls → later.Prompt polls where
  refl := fun _ prompt => prompt
  trans := fun early late prompt => late (early prompt)
  demand := fun _ name prompt => prompt.demand offers name

/-- And so do polls. -/
theorem polls_prompt (count : Nat) :
    Sketch.Polls fun loader later _ _ => loader.Prompt count → later.Prompt count where
  nil := fun _ prompt => prompt
  append := fun early late prompt => late (early prompt)
  call := fun loader call prompt => by
    rw [Sketch.fst_pollCall]
    exact prompt.poll call.helper

end Choreography
