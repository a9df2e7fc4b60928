import Mathlib.Data.List.Basic
import Mathlib.Data.List.Induction
import Choreography.Proofs.Fields.Mapped

/-!
# Fields that are put one after the other

What a sequence of names and values leaves when each is put in turn: every name once, where
it first appears in the sequence, with the value it last has there (`ComposedOf`).  **Putting
what one sequence leaves into what another leaves is putting the two sequences one after the
other** (`ComposedOf.putAll`), so it does not matter in how many steps fields are put together.

Told as a function of the whole sequence, this is `merge`: **putting values one after the other
merges them** (`ofList_eq_merge`), and fields with distinct names are merged already
(`merge_of_distinct`).
-/

namespace Choreography.Fields

variable {α : Type}

/-- What a sequence leaves when each of its values is put in turn. -/
structure ComposedOf (sequence : List (String × α)) (fields : Fields α) : Prop where
  distinct : (keys fields).Nodup
  order : keys fields = (keys sequence).eraseDups
  last : ∀ name, get? fields name = get? sequence.reverse name

theorem keys_append (first second : List (String × α)) :
    keys (first ++ second) = keys first ++ keys second :=
  List.map_append

theorem get?_append (first second : List (String × α)) (name : String) :
    get? (first ++ second) name = (get? first name).or (get? second name) := by
  induction first with
  | nil => rfl
  | cons field rest ih =>
    obtain ⟨key, value⟩ := field
    by_cases same : key = name <;> simp [get?, same, ih]

/-- Fields with distinct names answer the same in either order. -/
theorem get?_reverse {fields : List (String × α)} (distinct : (keys fields).Nodup)
    (name : String) : get? fields.reverse name = get? fields name := by
  have distinct' : (keys fields.reverse).Nodup :=
    ((List.reverse_perm fields).map Prod.fst).nodup_iff.mpr distinct
  refine Option.ext fun value => ?_
  rw [← mem_iff_get? distinct, ← mem_iff_get? distinct', List.mem_reverse]

theorem mem_putAll {earlier later : List (String × α)} {field : String × α}
    (here : field ∈ putAll earlier later) : field ∈ earlier ∨ field ∈ later := by
  induction later generalizing earlier with
  | nil => exact .inl here
  | cons next rest ih =>
    rcases ih here with put | later
    · rcases mem_put put with early | rfl
      · exact .inl early
      · exact .inr List.mem_cons_self
    · exact .inr (List.mem_cons_of_mem _ later)

theorem mem_of_mem_ofList {pairs : List (String × α)} {field : String × α}
    (here : field ∈ ofList pairs) : field ∈ pairs :=
  (mem_putAll here).resolve_left List.not_mem_nil

/-! ## Names without repetitions -/

theorem eraseDups_concat (names : List String) (name : String) :
    (names ++ [name]).eraseDups =
      if name ∈ names then names.eraseDups else names.eraseDups ++ [name] := by
  rw [List.eraseDups_append]
  by_cases here : name ∈ names
  · simp [here, List.removeAll]
  · simp [here, List.removeAll, List.eraseDups_cons]

/-- Repetitions may be erased from the later names first. -/
theorem eraseDups_append_eraseDups (first second : List String) :
    (first ++ second.eraseDups).eraseDups = (first ++ second).eraseDups := by
  induction second using List.reverseRecOn with
  | nil => rfl
  | append_singleton rest name ih =>
    rw [eraseDups_concat, ← List.append_assoc, eraseDups_concat]
    by_cases here : name ∈ rest
    · simp [here, ih]
    · rw [if_neg here, ← List.append_assoc, eraseDups_concat, ih]
      simp

theorem eraseDups_of_nodup {names : List String} (distinct : names.Nodup) :
    names.eraseDups = names := by
  induction names with
  | nil => rfl
  | cons name rest ih =>
    obtain ⟨fresh, others⟩ := List.nodup_cons.mp distinct
    have kept : rest.filter (fun other => !other == name) = rest := by
      refine List.filter_eq_self.mpr fun other here => ?_
      rw [Bool.not_eq_true', beq_eq_false_iff_ne]
      rintro rfl
      exact fresh here
    rw [List.eraseDups_cons, kept, ih others]

namespace ComposedOf

variable {sequence later : List (String × α)} {fields : Fields α}

theorem nil : ComposedOf ([] : List (String × α)) [] := ⟨List.nodup_nil, rfl, fun _ => rfl⟩

theorem put (composed : ComposedOf sequence fields) (name : String) (value : α) :
    ComposedOf (sequence ++ [(name, value)]) (put fields name value) where
  distinct := nodup_keys_put name value composed.distinct
  order := by
    rw [keys_put, keys_append, keys_cons, keys_nil, eraseDups_concat, composed.order]
    simp only [List.mem_eraseDups]
  last := by
    intro other
    rw [get?_put, List.reverse_concat, get?, composed.last]

theorem putEach (composed : ComposedOf sequence fields) (later : List (String × α)) :
    ComposedOf (sequence ++ later) (Fields.putAll fields later) := by
  induction later generalizing sequence fields with
  | nil =>
    rw [List.append_nil]
    exact composed
  | cons field rest ih =>
    rw [List.append_cons]
    exact ih (composed.put field.1 field.2)

/-- **What one sequence leaves, put into what another leaves,** is what the two leave one
after the other. -/
theorem putAll {other : Fields α} (composed : ComposedOf sequence fields)
    (composed' : ComposedOf later other) :
    ComposedOf (sequence ++ later) (Fields.putAll fields other) := by
  have each := composed.putEach other
  refine ⟨each.distinct, ?_, ?_⟩
  · rw [each.order, keys_append, keys_append, composed'.order, eraseDups_append_eraseDups]
  · intro name
    rw [each.last, List.reverse_append, List.reverse_append, get?_append, get?_append,
      get?_reverse composed'.distinct, composed'.last]

/-- Every field was written. -/
theorem mem (composed : ComposedOf sequence fields) {field : String × α}
    (here : field ∈ fields) : field ∈ sequence := by
  have found := (mem_iff_get? composed.distinct).mp here
  rw [composed.last] at found
  exact List.mem_reverse.mp (mem_of_get? found)

end ComposedOf

theorem composedOf_ofList (sequence : List (String × α)) :
    ComposedOf sequence (ofList sequence) :=
  ComposedOf.nil.putEach sequence

/-! ## Merged fields -/

/-- Each name of a sequence once: where it is first, and with the value that it has last. -/
def merge (sequence : List (String × α)) : Fields α :=
  (keys sequence).eraseDups.filterMap fun name =>
    (get? sequence.reverse name).map fun value => (name, value)

/-- Fields with distinct names are what is looked up under their names. -/
theorem filterMap_get?_keys {fields : List (String × α)} (distinct : (keys fields).Nodup) :
    ((keys fields).filterMap fun name => (get? fields name).map fun value => (name, value)) =
      fields := by
  induction fields with
  | nil => rfl
  | cons field rest ih =>
    obtain ⟨key, value⟩ := field
    obtain ⟨fresh, others⟩ := List.nodup_cons.mp distinct
    have later : ∀ name ∈ keys rest, get? ((key, value) :: rest) name = get? rest name := by
      intro name here
      rw [get?, if_neg]
      rintro rfl
      exact fresh here
    rw [keys_cons, List.filterMap_cons_some (b := (key, value)) (by simp [get?])]
    refine congrArg _ (Eq.trans ?_ (ih others))
    exact List.filterMap_congr fun name here => by rw [later name here]

/-- **Putting values one after the other merges them.** -/
theorem ofList_eq_merge (sequence : List (String × α)) : ofList sequence = merge sequence := by
  have composed := composedOf_ofList sequence
  rw [← filterMap_get?_keys composed.distinct, composed.order, merge]
  exact List.filterMap_congr fun name _ => by rw [composed.last]

theorem merge_of_distinct {fields : List (String × α)} (distinct : (keys fields).Nodup) :
    merge fields = fields := by
  rw [merge, eraseDups_of_nodup distinct]
  exact (List.filterMap_congr fun name _ => by rw [get?_reverse distinct]).trans
    (filterMap_get?_keys distinct)

theorem ofList_of_distinct {fields : List (String × α)} (distinct : (keys fields).Nodup) :
    ofList fields = fields :=
  (ofList_eq_merge fields).trans (merge_of_distinct distinct)

end Choreography.Fields
