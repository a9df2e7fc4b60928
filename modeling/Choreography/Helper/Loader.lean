import Choreography.Text.Quoted
import Choreography.Value

/-!
# Loading helpers

Helpers compute values from arguments.  A helper is asked for when it is first
called, from a source that has it at once, delivers it later, or does not know
it.  While it is on its way, each poll by any call that waits for it counts: the
poll that sees the delivery settles the matter for all of them.
-/

namespace Choreography

/-- A helper computes a value from the values of its arguments. -/
abbrev Helper := List Value → Value

/-- Where a helper stands that has been asked for. -/
inductive Arrival where
  /-- It is here. -/
  | ready (helper : Helper)
  /-- Nothing will come. -/
  | unavailable
  /-- It is on its way, and nobody knows when it comes. -/
  | awaited
  /-- The poll of the given number from now on, counting from one, sees what is
  delivered; zero counts as one. -/
  | arriving (polls : Nat) (delivery : Option Helper)

/-- What a source answers when it is asked for a helper. -/
inductive Offer where
  | ready (helper : Helper)
  /-- It is on its way, without or with a known number of polls. -/
  | later (polls : Option (Nat × Option Helper))
  | missing

/-- A source of helpers at one moment. -/
abbrev HelperSource := String → Offer

namespace Arrival

/-- Where a helper stands once its delivery is seen. -/
def ofDelivery : Option Helper → Arrival
  | some helper => .ready helper
  | none => .unavailable

/-- Where a helper stands after one more poll. -/
def poll : Arrival → Arrival
  | .arriving polls delivery =>
    if polls ≤ 1 then ofDelivery delivery else .arriving (polls - 1) delivery
  | arrival => arrival

/-- Where a helper stands that a source has just been asked for; none if the
source does not know it. -/
def ofOffer? : Offer → Option Arrival
  | .ready helper => some (.ready helper)
  | .later none => some .awaited
  | .later (some (polls, delivery)) => some (.arriving polls delivery)
  | .missing => none

end Arrival

/-- The helpers that have been asked for, and every request made of a source,
the latest first. -/
structure Loader where
  arrivals : Fields Arrival
  requests : List String

namespace Loader

/-- No helper has been asked for. -/
def empty : Loader := ⟨[], []⟩

/-- Whether a helper is here. -/
def isLoaded (loader : Loader) (name : String) : Bool :=
  match Fields.get? loader.arrivals name with
  | some (.ready _) => true
  | _ => false

/-- Where a helper stands.  One that has not been asked for yet is requested from
the source; it stays unasked for if the source does not know it. -/
def demand (source : HelperSource) (loader : Loader) (name : String) :
    Loader × Option Arrival :=
  match Fields.get? loader.arrivals name with
  | some arrival => (loader, some arrival)
  | none =>
    let requests := name :: loader.requests
    match Arrival.ofOffer? (source name) with
    | some arrival => (⟨Fields.put loader.arrivals name arrival, requests⟩, some arrival)
    | none => (⟨loader.arrivals, requests⟩, none)

/-- One poll of a helper, and where it stands after that. -/
def poll (loader : Loader) (name : String) : Loader × Option Arrival :=
  match Fields.get? loader.arrivals name with
  | some arrival =>
    ({ loader with arrivals := Fields.put loader.arrivals name arrival.poll },
      some arrival.poll)
  | none => (loader, none)

/-- The delivery for a helper that is awaited, to be seen by the next poll; none
if the helper is not awaited. -/
def deliver? (loader : Loader) (name : String) (delivery : Option Helper) :
    Option Loader :=
  match Fields.get? loader.arrivals name with
  | some .awaited =>
    some { loader with
      arrivals := Fields.put loader.arrivals name (.arriving 1 delivery) }
  | _ => none

/-- The names that have been asked for with success, in alphabetical order. -/
def names (loader : Loader) : List String :=
  (Fields.keys loader.arrivals).mergeSort

/-- The text that shows a loader: the quoted names that have been asked for. -/
def text (loader : Loader) : String :=
  let listed := ", ".intercalate (loader.names.map Text.quoted)
  s!"CallResolver \x7b helpers: [{listed}] \x7d"

end Loader

end Choreography
