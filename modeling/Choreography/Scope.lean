import Choreography.Template

/-!
# Scopes

A frame is one layer of the data that directives read, and a scope is a chain of
frames with the nearest one first: a name belongs to the first frame that has
it.  Frames are shared, so what is kept is a store of numbered frames and chains
of their numbers; a write to a frame is seen through every chain that holds it.
-/

namespace Choreography

/-- One layer of named data. -/
abbrev Frame := Fields Value

/-- The frames in reach, nearest first. -/
abbrev Scope := List Frame

namespace Scope

/-- The value of a name in the nearest frame that has it. -/
def get? (scope : Scope) (name : String) : Option Value :=
  scope.findSome? fun frame => Fields.get? frame name

/-- Whether some frame has a name. -/
def has (scope : Scope) (name : String) : Bool :=
  scope.any fun frame => Fields.has frame name

/-- A name is in scope exactly if it has a value there. -/
theorem has_eq_isSome_get? (scope : Scope) (name : String) :
    has scope name = (get? scope name).isSome := by
  induction scope with
  | nil => rfl
  | cons frame rest ih =>
    simp only [has, get?, List.any_cons, List.findSome?_cons] at ih ⊢
    rw [ih, Fields.has]
    cases Fields.get? frame name <;> simp

end Scope

/-- The number of a frame in a store. -/
abbrev FrameId := Nat

/-- A chain of frames, nearest first. -/
abbrev Chain := List FrameId

/-- The text that shows a chain. -/
def Chain.text (chain : Chain) : String :=
  s!"ScopeChain \x7b frames: {chain.length} \x7d"

/-- The frames that chains refer to. -/
abbrev Store := List Frame

namespace Store

/-- The frame of a number; a number without a frame reads as an empty one. -/
def frame (store : Store) (id : FrameId) : Frame := store[id]?.getD []

/-- The scope that a chain denotes at present. -/
def scope (store : Store) (chain : Chain) : Scope := chain.map (frame store)

/-- The store with a field of one frame set. -/
def set (store : Store) (id : FrameId) (name : String) (value : Value) : Store :=
  List.modify store id fun frame => Fields.put frame name value

/-- The store with a field of one frame removed. -/
def remove (store : Store) (id : FrameId) (name : String) : Store :=
  List.modify store id fun frame => Fields.erase frame name

end Store

end Choreography
