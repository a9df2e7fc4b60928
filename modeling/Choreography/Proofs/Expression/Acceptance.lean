import Choreography.Proofs.Expression.Layout

/-!
# What the reader accepts

**The reader of literals accepts exactly the texts of the grammar, and answers with what they
denote** (`Template.read_eq_ok_iff`): it neither misses a way to put a text together nor finds
one that the grammar does not have, in any scope and at any place.  So no text denotes two
things (`Grammar.Item.unique`), although `Grammar` tells the value of a text without saying in
which order its parts are looked for.
-/

namespace Choreography

variable {scope : Scope} {text : List Char} {value other : Template}

/-- A text of the grammar is read as what it denotes, wherever it stands. -/
theorem Grammar.Item.read_eq (item : Grammar.Item scope text value) (offset : Nat) :
    Template.read scope ⟨text, offset⟩ = .ok value := by
  obtain ⟨before, token, after, blank, blank', rfl, written⟩ := item.valueText
  exact written.read_eq blank blank' offset

/-- **The reader accepts exactly the grammar** and gives what a text denotes. -/
theorem Template.read_eq_ok_iff (scope : Scope) (text : List Char) (offset : Nat)
    (value : Template) :
    Template.read scope ⟨text, offset⟩ = .ok value ↔ Grammar.Item scope text value :=
  ⟨item_of_read, fun item => item.read_eq offset⟩

/-- No text denotes two things. -/
theorem Grammar.Item.unique (first : Grammar.Item scope text value)
    (second : Grammar.Item scope text other) : value = other := by
  have read := first.read_eq 0
  rw [second.read_eq 0] at read
  exact (Except.ok.inj read).symm

end Choreography
