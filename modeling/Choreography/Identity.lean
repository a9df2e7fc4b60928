/-!
# Identities

The numbers by which elements, animations, subscriptions and bindings are known,
each in a type of its own, and the texts that show them.
-/

namespace Choreography

/-- An element of the page. -/
structure ElementId where
  number : Nat
deriving DecidableEq, Repr, Inhabited

/-- A running animation, as the engine named it. -/
structure Handle where
  number : Nat
deriving DecidableEq, Repr, Inhabited

/-- An interest in one root name of the reactive data. -/
structure SubscriptionId where
  number : Nat
deriving DecidableEq, Repr, Inhabited

/-- One animation bound to an element. -/
structure BindingId where
  number : Nat
deriving DecidableEq, Repr, Inhabited

/-- The text that shows an element. -/
def ElementId.text (id : ElementId) : String := s!"Element({id.number})"

/-- The text that shows an animation. -/
def Handle.text (id : Handle) : String := s!"Animation({id.number})"

/-- The text that shows a subscription. -/
def SubscriptionId.text (id : SubscriptionId) : String := s!"Subscription({id.number})"

/-- The text that shows a binding. -/
def BindingId.text (id : BindingId) : String := s!"Binding({id.number})"

end Choreography
