import Choreography.Modifier

/-!
# The words of a key

A joint of a key is a dash or an underscore in front of a lower-case letter.  It is closed by
leaving the separator out and making the letter upper-case; a separator in front of anything
else stays as it is.

Closing a joint never makes a new one: what is left of it is an upper-case letter, and that is
neither a separator nor lower-case.  **So the field name of a key is the one text without joints
that comes from closing joints of the key** (`fieldName_exact`), and the field name of a field
name is the same again.
-/

namespace Choreography.Modifier

/-! ## Joints -/

/-- A separator of words with a lower-case letter behind it. -/
def IsJoint (separator letter : Char) : Prop :=
  (separator = '-' ∨ separator = '_') ∧ letter.isLower = true

/-- A character is in no joint with the text behind it. -/
def Apart (c : Char) (rest : List Char) : Prop := ∀ letter ∈ rest.head?, ¬IsJoint c letter

/-- No separator in a text stands right in front of a lower-case letter. -/
def Jointless (text : List Char) : Prop :=
  ∀ before separator letter after, text = before ++ separator :: letter :: after →
    ¬IsJoint separator letter

/-- The second text is the first one with some of its joints closed, and with nothing else
changed. -/
inductive Closes : List Char → List Char → Prop
  | nil : Closes [] []
  | keep (c : Char) {rest closed : List Char} (others : Closes rest closed) :
      Closes (c :: rest) (c :: closed)
  | close {separator letter : Char} {rest closed : List Char} (joint : IsJoint separator letter)
      (others : Closes rest closed) :
      Closes (separator :: letter :: rest) (letter.toUpper :: closed)

variable {c separator letter : Char} {text rest closed : List Char}

theorem IsJoint.not_isLower (joint : IsJoint separator letter) : separator.isLower = false := by
  rcases joint.1 with rfl | rfl <;> rfl

/-- An upper-case letter is no separator. -/
theorem IsJoint.not_isUpper (joint : IsJoint separator letter) : separator.isUpper = false := by
  rcases joint.1 with rfl | rfl <;> rfl

/-- What is left of a closed joint is an upper-case letter, and no lower-case one. -/
theorem IsJoint.toUpper_kind (joint : IsJoint separator letter) :
    letter.toUpper.isUpper = true ∧ letter.toUpper.isLower = false := by
  -- no lower-case letter has a greater code than the last one, so they can be looked at in turn
  have letters : ∀ code ≤ 'z'.toNat, (Char.ofNat code).isLower = true →
      (Char.ofNat code).toUpper.isUpper = true ∧ (Char.ofNat code).toUpper.isLower = false := by
    decide
  have inside : letter.toNat ≤ 'z'.toNat :=
    of_decide_eq_true (Bool.and_eq_true_iff.mp joint.2).2
  have kind := letters letter.toNat inside
  rw [Char.ofNat_toNat] at kind
  exact kind joint.2

theorem jointless_cons : Jointless (c :: rest) ↔ Apart c rest ∧ Jointless rest := by
  constructor
  · refine fun jointless => ⟨fun letter first => ?_, fun before separator letter after split => ?_⟩
    · obtain ⟨after, rfl⟩ := List.head?_eq_some_iff.mp first
      exact jointless [] c letter after rfl
    · exact jointless (c :: before) separator letter after (congrArg (c :: ·) split)
  · rintro ⟨apart, later⟩ before separator letter after split
    cases before with
    | nil =>
      obtain ⟨rfl, rfl⟩ := List.cons.inj split
      exact apart letter rfl
    | cons _ before => exact later before separator letter after (List.cons.inj split).2

/-- A character of a text is in a joint with the next one, or it is in none. -/
theorem joint_or_apart (c : Char) (rest : List Char) :
    (∃ letter later, rest = letter :: later ∧ IsJoint c letter) ∨ Apart c rest := by
  by_cases joint : ∃ letter later, rest = letter :: later ∧ IsJoint c letter
  · exact .inl joint
  · refine .inr fun letter first closes => joint ?_
    obtain ⟨later, rfl⟩ := List.head?_eq_some_iff.mp first
    exact ⟨letter, later, rfl, closes⟩

/-! ## Closing joints -/

namespace Closes

/-- Nothing has to be closed. -/
theorem refl (text : List Char) : Closes text text := by
  induction text with
  | nil => exact .nil
  | cons c rest ih => exact .keep c ih

/-- **Closing joints makes no joint** with a character in front, and undoes none: a separator at
the front of a joint is no lower-case letter, and what is left of the joint is none either. -/
theorem apart_iff (closes : Closes text closed) (c : Char) : Apart c text ↔ Apart c closed := by
  cases closes with
  | nil => exact Iff.rfl
  | keep => exact Iff.rfl
  | @close separator letter _ _ joint _ =>
    refine iff_of_true ?_ ?_
    · rintro first ⟨⟩ ⟨-, lower⟩
      rw [joint.not_isLower] at lower
      cases lower
    · rintro first ⟨⟩ ⟨-, lower⟩
      rw [joint.toUpper_kind.2] at lower
      cases lower

end Closes

/-- The letter that is left of a closed joint is in no joint with what follows. -/
theorem IsJoint.apart_toUpper (joint : IsJoint separator letter) (rest : List Char) :
    Apart letter.toUpper rest := by
  intro next _ other
  have upper := joint.toUpper_kind.1
  rw [other.not_isUpper] at upper
  cases upper

/-! ## Joining words -/

theorem joinWords_of_joint (joint : IsJoint separator letter) (rest : List Char) :
    joinWords (separator :: letter :: rest) = letter.toUpper :: joinWords rest := by
  rw [joinWords]
  exact if_pos joint

theorem joinWords_of_apart (apart : Apart c rest) :
    joinWords (c :: rest) = c :: joinWords rest := by
  cases rest with
  | nil => rfl
  | cons letter rest =>
    rw [joinWords]
    exact if_neg (apart letter rfl)

/-- Words are joined by closing joints, until none is left. -/
theorem closes_joinWords (text : List Char) :
    Closes text (joinWords text) ∧ Jointless (joinWords text) := by
  match text with
  | [] => exact ⟨.nil, fun before _ _ _ split => by cases before <;> cases split⟩
  | c :: rest =>
    rcases joint_or_apart c rest with ⟨letter, later, rfl, joint⟩ | apart
    · obtain ⟨closes, jointless⟩ := closes_joinWords later
      rw [joinWords_of_joint joint, jointless_cons]
      exact ⟨.close joint closes, joint.apart_toUpper _, jointless⟩
    · obtain ⟨closes, jointless⟩ := closes_joinWords rest
      rw [joinWords_of_apart apart, jointless_cons]
      exact ⟨.keep c closes, (closes.apart_iff c).mp apart, jointless⟩
termination_by text.length

/-- **Whoever closes joints until none is left** comes to the joined words. -/
theorem Closes.eq_joinWords (closes : Closes text closed) (jointless : Jointless closed) :
    closed = joinWords text := by
  induction closes with
  | nil => rfl
  | keep c others ih =>
    -- a joint that is kept would still be one in the end
    obtain ⟨apart, later⟩ := jointless_cons.mp jointless
    rw [joinWords_of_apart ((others.apart_iff c).mpr apart), ← ih later]
  | close joint others ih =>
    rw [joinWords_of_joint joint, ← ih (jointless_cons.mp jointless).2]

/-- **A field name is its key with all joints closed.**  For every key:

* no dash or underscore in the field name stands in front of a lower-case letter;
* the field name of the field name is the same again;
* the field name is the key with joints closed and nothing else changed, and it is the only text
  without joints of which that holds. -/
theorem fieldName_exact (key : String) :
    Jointless (fieldName key).toList ∧
    fieldName (fieldName key) = fieldName key ∧
    Closes key.toList (fieldName key).toList ∧
    ∀ name, Closes key.toList name ∧ Jointless name ↔ name = (fieldName key).toList := by
  have same : (fieldName key).toList = joinWords key.toList := String.toList_ofList
  obtain ⟨closes, jointless⟩ := closes_joinWords key.toList
  rw [same]
  refine ⟨jointless, ?_, closes, fun name => ⟨fun other => other.1.eq_joinWords other.2, ?_⟩⟩
  · -- there is nothing left to close
    rw [fieldName, same, ← (Closes.refl _).eq_joinWords jointless]
    rfl
  · rintro rfl
    exact ⟨closes, jointless⟩

end Choreography.Modifier
