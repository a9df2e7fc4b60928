import Choreography.Text

/-!
# Places in a text

A place is a number of UTF-8 bytes.  A text can only be cut at the places where one of its
characters starts or where it ends; `splitBytes?` cuts it there, and nowhere else
(`splitBytes?_eq_some_iff`).  So `slice?` gives what stands between two places exactly if
both are places of the text and inside none of its characters, and `charAt?` the character
at a place.
-/

namespace Choreography.Text

/-- The text before a place and the text from there on. -/
def splitBytes? : Nat → List Char → Option (List Char × List Char)
  | 0, text => some ([], text)
  | _ + 1, [] => none
  | count + 1, c :: rest =>
    if c.utf8Size ≤ count + 1 then
      (splitBytes? (count + 1 - c.utf8Size) rest).map fun (before, after) =>
        (c :: before, after)
    else none

/-- Whether a character of a text starts at a place, or the text ends there. -/
def isBoundary (place : Nat) (text : List Char) : Bool := (splitBytes? place text).isSome

/-- What stands between two places of a text. -/
def slice? (first stop : Nat) (text : List Char) : Option (List Char) :=
  if first ≤ stop then
    (splitBytes? first text).bind fun cut => (splitBytes? (stop - first) cut.2).map Prod.fst
  else none

/-- The character at a place of a text. -/
def charAt? (place : Nat) (text : List Char) : Option Char :=
  (splitBytes? place text).bind fun cut => cut.2.head?

/-! ## Bytes -/

/-- Places are counted in the bytes of the text as a string. -/
theorem width_eq_utf8ByteSize (text : List Char) :
    width text = (String.ofList text).utf8ByteSize := by
  induction text with
  | nil => rfl
  | cons c rest ih =>
    rw [String.ofList_cons, String.utf8ByteSize_append, String.utf8ByteSize_singleton,
      width_cons, ih]

/-! ## What stands where -/

variable {place first stop : Nat} {text before piece after : List Char} {c : Char}

theorem splitBytes?_cons (count : Nat) (c : Char) (rest : List Char) :
    splitBytes? (c.utf8Size + count) (c :: rest) =
      (splitBytes? count rest).map fun (before, after) => (c :: before, after) := by
  have positive := c.utf8Size_pos
  obtain ⟨more, same⟩ : ∃ more, c.utf8Size + count = more + 1 :=
    ⟨c.utf8Size + count - 1, by omega⟩
  rw [same, splitBytes?, if_pos (by omega)]
  congr 2
  omega

theorem splitBytes?_append (before after : List Char) :
    splitBytes? (width before) (before ++ after) = some (before, after) := by
  induction before with
  | nil => cases after <;> rfl
  | cons c rest ih =>
    rw [width_cons, List.cons_append, splitBytes?_cons, ih]
    rfl

/-- **A text is cut at a place** exactly if that many bytes of whole characters stand before
it. -/
theorem splitBytes?_eq_some_iff :
    splitBytes? place text = some (before, after) ↔
      text = before ++ after ∧ width before = place := by
  constructor
  · intro cut
    -- along the text, with the place that is left after each character
    induction text generalizing place before after with
    | nil =>
      cases place with
      | zero =>
        cases cut
        exact ⟨rfl, rfl⟩
      | succ => cases cut
    | cons c rest ih =>
      cases place with
      | zero =>
        cases cut
        exact ⟨rfl, rfl⟩
      | succ count =>
        rw [splitBytes?] at cut
        split at cut
        · rename_i fits
          obtain ⟨⟨front, back⟩, later, same⟩ := Option.map_eq_some_iff.mp cut
          cases same
          obtain ⟨rfl, wide⟩ := ih later
          refine ⟨rfl, ?_⟩
          rw [width_cons, wide]
          omega
        · cases cut
  · rintro ⟨rfl, rfl⟩
    exact splitBytes?_append before after

theorem isBoundary_iff :
    isBoundary place text = true ↔ ∃ before after, text = before ++ after ∧
      width before = place := by
  rw [isBoundary, Option.isSome_iff_exists]
  constructor
  · rintro ⟨⟨before, after⟩, cut⟩
    exact ⟨before, after, splitBytes?_eq_some_iff.mp cut⟩
  · rintro ⟨before, after, cut⟩
    exact ⟨(before, after), splitBytes?_eq_some_iff.mpr cut⟩

/-- **A slice of a text** is what stands between two places at which the text can be cut. -/
theorem slice?_eq_some_iff :
    slice? first stop text = some piece ↔ ∃ before after,
      text = before ++ (piece ++ after) ∧ width before = first ∧
        first + width piece = stop := by
  rw [slice?]
  split
  · rename_i forward
    constructor
    · intro cut
      obtain ⟨⟨before, rest⟩, front, cut⟩ := Option.bind_eq_some_iff.mp cut
      obtain ⟨⟨found, after⟩, back, same⟩ := Option.map_eq_some_iff.mp cut
      obtain rfl : found = piece := same
      obtain ⟨rfl, wide⟩ := splitBytes?_eq_some_iff.mp front
      obtain ⟨rfl, wide'⟩ := splitBytes?_eq_some_iff.mp back
      exact ⟨before, after, rfl, wide, by omega⟩
    · rintro ⟨before, after, rfl, rfl, rfl⟩
      rw [Nat.add_sub_cancel_left, splitBytes?_append, Option.bind_some, splitBytes?_append]
      rfl
  · rename_i backward
    constructor
    · intro cut
      cases cut
    · rintro ⟨before, after, -, -, stops⟩
      omega

theorem charAt?_eq_some_iff :
    charAt? place text = some c ↔ ∃ before after,
      text = before ++ c :: after ∧ width before = place := by
  rw [charAt?, Option.bind_eq_some_iff]
  constructor
  · rintro ⟨⟨before, rest⟩, cut, head⟩
    obtain ⟨rfl, wide⟩ := splitBytes?_eq_some_iff.mp cut
    obtain ⟨after, rfl⟩ := List.head?_eq_some_iff.mp head
    exact ⟨before, after, rfl, wide⟩
  · rintro ⟨before, after, rfl, wide⟩
    exact ⟨(before, c :: after), splitBytes?_eq_some_iff.mpr ⟨rfl, wide⟩, rfl⟩

/-! ## Fronts of a text -/

theorem width_eq_zero_iff : width text = 0 ↔ text = [] := by
  cases text with
  | nil => exact iff_of_true rfl rfl
  | cons c rest =>
    have positive := c.utf8Size_pos
    exact iff_of_false (by rw [width_cons]; omega) (List.cons_ne_nil c rest)

/-- Of two fronts of a text one that is no wider is a front of the other. -/
theorem prefix_of_width_le {narrow wide : List Char} (front : narrow <+: text)
    (other : wide <+: text) (le : width narrow ≤ width wide) : narrow <+: wide := by
  rcases List.prefix_or_prefix_of_prefix front other with shorter | ⟨more, rfl⟩
  · exact shorter
  · have nothing : width more = 0 := by
      rw [width_append] at le
      omega
    obtain rfl := width_eq_zero_iff.mp nothing
    exact ⟨[], by rw [List.append_nil, List.append_nil]⟩

/-- A front that is narrower than another one is short of it by a character at least. -/
theorem concat_prefix_of_width_lt {narrow wide : List Char} (front : narrow ++ c :: after = text)
    (other : wide <+: text) (lt : width narrow < width wide) : narrow ++ [c] <+: wide := by
  have longer : narrow ++ [c] <+: text := ⟨after, by rw [List.append_assoc]; exact front⟩
  obtain ⟨more, rfl⟩ := prefix_of_width_le ⟨c :: after, front⟩ other (Nat.le_of_lt lt)
  cases more with
  | nil =>
    rw [List.append_nil] at lt
    exact absurd lt (Nat.lt_irrefl _)
  | cons d more =>
    obtain ⟨rest, split⟩ := other
    rw [← front, List.append_assoc] at split
    obtain ⟨rfl, -⟩ := List.cons.inj (List.append_cancel_left split)
    exact ⟨more, by rw [List.append_assoc]; rfl⟩

end Choreography.Text
