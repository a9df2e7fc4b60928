/-!
# Fields

A list of named values in the order in which the names first appeared.  `put`
replaces the value of a name in place, or adds the name at the end, so a list
built by `put` never holds a name twice: `nodup_keys_put` keeps that, and
`get?_put` says what each later look-up answers.
-/

namespace Choreography

/-- Named values, in the order of the first appearance of each name. -/
abbrev Fields (α : Type) := List (String × α)

namespace Fields

variable {α β : Type}

/-- The value of the first field with the given name. -/
def get? (fields : List (String × α)) (name : String) : Option α :=
  match fields with
  | [] => none
  | (key, value) :: rest => if key = name then some value else get? rest name

/-- Whether there is a field with the given name. -/
def has (fields : List (String × α)) (name : String) : Bool :=
  (get? fields name).isSome

/-- The fields with `name` given `value`: in place if the name is there, at the
end if it is not. -/
def put (fields : List (String × α)) (name : String) (value : α) : Fields α :=
  match fields with
  | [] => [(name, value)]
  | (key, old) :: rest =>
    if key = name then (key, value) :: rest else (key, old) :: put rest name value

/-- The fields without the first one of the given name. -/
def erase (fields : List (String × α)) (name : String) : Fields α :=
  match fields with
  | [] => []
  | (key, value) :: rest =>
    if key = name then rest else (key, value) :: erase rest name

/-- Every field of `later` put into `earlier`, in turn. -/
def putAll (earlier later : List (String × α)) : Fields α :=
  later.foldl (fun fields field => put fields field.1 field.2) earlier

/-- The fields that a list of pairs describes when a later pair replaces the
value of an earlier one of the same name. -/
def ofList (pairs : List (String × α)) : Fields α := putAll [] pairs

/-- The names, in order. -/
def keys (fields : List (String × α)) : List String := fields.map Prod.fst

/-- The fields with each value replaced by its image. -/
def mapValues (f : α → β) (fields : List (String × α)) : Fields β :=
  fields.map fun (name, value) => (name, f value)

/-! ## Laws of `put` -/

@[simp] theorem get?_nil (name : String) : get? ([] : List (String × α)) name = none := rfl

@[simp] theorem keys_nil : keys ([] : List (String × α)) = [] := rfl

@[simp] theorem keys_cons (field : String × α) (rest : List (String × α)) :
    keys (field :: rest) = field.1 :: keys rest := rfl

theorem get?_put (fields : List (String × α)) (name other : String) (value : α) :
    get? (put fields name value) other =
      if name = other then some value else get? fields other := by
  induction fields with
  | nil => simp [put, get?]
  | cons field rest ih =>
    obtain ⟨key, old⟩ := field
    by_cases same : key = name
    · subst same
      by_cases here : key = other <;> simp [put, get?, here]
    · simp only [put, same, if_false, get?, ih]
      by_cases here : key = other
      · subst here; simp [Ne.symm same]
      · simp [here]

/-- What is looked up is among the fields. -/
theorem mem_of_get? {fields : List (String × α)} {name : String} {value : α}
    (found : get? fields name = some value) : (name, value) ∈ fields := by
  induction fields with
  | nil => cases found
  | cons field rest ih =>
    obtain ⟨key, old⟩ := field
    rw [get?] at found
    split at found
    · rename_i same
      cases found
      exact same ▸ List.mem_cons_self
    · exact List.mem_cons_of_mem _ (ih found)

/-- A field is there after a `put` if it was there before or is the one that was put. -/
theorem mem_put {fields : List (String × α)} {name : String} {value : α} {field : String × α}
    (here : field ∈ put fields name value) : field ∈ fields ∨ field = (name, value) := by
  induction fields with
  | nil => exact .inr (List.mem_singleton.mp here)
  | cons other rest ih =>
    obtain ⟨key, old⟩ := other
    rw [put] at here
    split at here
    · rename_i same
      rcases List.mem_cons.mp here with rfl | here
      · exact .inr (same ▸ rfl)
      · exact .inl (List.mem_cons_of_mem _ here)
    · rcases List.mem_cons.mp here with rfl | here
      · exact .inl List.mem_cons_self
      · exact (ih here).imp_left (List.mem_cons_of_mem _)

theorem keys_put (fields : List (String × α)) (name : String) (value : α) :
    keys (put fields name value) =
      if name ∈ keys fields then keys fields else keys fields ++ [name] := by
  induction fields with
  | nil => simp [put]
  | cons field rest ih =>
    obtain ⟨key, old⟩ := field
    by_cases same : key = name
    · simp [put, same]
    · have other : ¬ name = key := fun equal => same equal.symm
      simp only [put, same, if_false, keys_cons, ih, List.mem_cons, other, false_or]
      split <;> simp

/-- Putting a field keeps the names distinct. -/
theorem nodup_keys_put {fields : List (String × α)} (name : String) (value : α)
    (distinct : (keys fields).Nodup) : (keys (put fields name value)).Nodup := by
  rw [keys_put]
  split
  · exact distinct
  · rename_i absent
    rw [List.nodup_append]
    refine ⟨distinct, by simp, ?_⟩
    intro key present other single equal
    simp only [List.mem_singleton] at single
    exact absent (single ▸ equal ▸ present)

theorem nodup_keys_putAll {earlier : List (String × α)} (later : List (String × α))
    (distinct : (keys earlier).Nodup) : (keys (putAll earlier later)).Nodup := by
  induction later generalizing earlier with
  | nil => exact distinct
  | cons field rest ih => exact ih (nodup_keys_put field.1 field.2 distinct)

/-- Fields made from any list of pairs have distinct names. -/
theorem nodup_keys_ofList (pairs : List (String × α)) : (keys (ofList pairs)).Nodup :=
  nodup_keys_putAll pairs (by simp)

theorem get?_eq_none_iff {fields : List (String × α)} {name : String} :
    get? fields name = none ↔ name ∉ keys fields := by
  induction fields with
  | nil => simp
  | cons field rest ih =>
    obtain ⟨key, value⟩ := field
    by_cases same : key = name
    · simp [get?, same]
    · have other : ¬ name = key := fun equal => same equal.symm
      simp [get?, same, ih, other]

/-- Leaving fields out keeps the names distinct. -/
theorem nodup_keys_filter {fields : List (String × α)} (distinct : (keys fields).Nodup)
    (keep : String × α → Bool) : (keys (fields.filter keep)).Nodup :=
  (List.filter_sublist.map Prod.fst).nodup distinct

/-- If the names are distinct, what is left of some fields answers a look-up as before if it
keeps the answer. -/
theorem get?_filter {fields : List (String × α)} (distinct : (keys fields).Nodup)
    (keep : String × α → Bool) (name : String) :
    get? (fields.filter keep) name = (get? fields name).filter fun value => keep (name, value) := by
  induction fields with
  | nil => rfl
  | cons field rest ih =>
    obtain ⟨key, value⟩ := field
    obtain ⟨first, others⟩ := List.nodup_cons.mp distinct
    have rest := ih others
    by_cases same : key = name
    · subst same
      rw [get?_eq_none_iff.mpr first] at rest
      by_cases kept : keep (key, value) = true <;> simp [get?, kept, rest, Option.filter]
    · by_cases kept : keep (key, value) = true <;> simp [get?, kept, rest, same]

end Fields

end Choreography
