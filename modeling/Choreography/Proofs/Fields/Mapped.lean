import Choreography.Fields

/-!
# Fields with mapped values

Mapping the values of fields commutes with putting and looking up (`mapValues_ofList`,
`get?_mapValues`), and fields with distinct names are determined by what is looked up in
them, but for their order (`perm_of_get?_eq`).
-/

namespace Choreography.Fields

variable {α β : Type}

theorem keys_mapValues (f : α → β) (fields : Fields α) :
    keys (mapValues f fields) = keys fields := by
  simp [keys, mapValues]

theorem mapValues_cons (f : α → β) (name : String) (value : α) (rest : Fields α) :
    mapValues f ((name, value) :: rest) = (name, f value) :: mapValues f rest := rfl

theorem get?_mapValues (f : α → β) (fields : Fields α) (name : String) :
    get? (mapValues f fields) name = (get? fields name).map f := by
  induction fields with
  | nil => rfl
  | cons field rest ih =>
    obtain ⟨key, value⟩ := field
    simp only [mapValues_cons, get?, ih]
    split <;> rfl

theorem mapValues_put (f : α → β) (fields : Fields α) (name : String) (value : α) :
    mapValues f (put fields name value) = put (mapValues f fields) name (f value) := by
  induction fields with
  | nil => rfl
  | cons field rest ih =>
    obtain ⟨key, old⟩ := field
    simp only [put, mapValues_cons]
    split
    · rfl
    · rw [mapValues_cons, ih]

theorem mapValues_putAll (f : α → β) (earlier later : Fields α) :
    mapValues f (putAll earlier later) = putAll (mapValues f earlier) (mapValues f later) := by
  induction later generalizing earlier with
  | nil => rfl
  | cons field rest ih =>
    have tail := ih (put earlier field.1 field.2)
    rw [mapValues_put] at tail
    exact tail

theorem mapValues_ofList (f : α → β) (pairs : Fields α) :
    mapValues f (ofList pairs) = ofList (mapValues f pairs) :=
  mapValues_putAll f [] pairs

theorem mem_iff_get? {fields : Fields α} (distinct : (keys fields).Nodup) {name : String}
    {value : α} : (name, value) ∈ fields ↔ get? fields name = some value := by
  induction fields with
  | nil => simp
  | cons field rest ih =>
    obtain ⟨key, first⟩ := field
    rw [keys_cons, List.nodup_cons] at distinct
    obtain ⟨fresh, distinct⟩ := distinct
    by_cases same : key = name
    · subst same
      have absent : (key, value) ∉ rest := fun here =>
        fresh (List.mem_map.mpr ⟨(key, value), here, rfl⟩)
      simp [get?, absent, eq_comm]
    · have other : ¬name = key := fun equal => same equal.symm
      simp [get?, same, other, ih distinct]

theorem nodup_of_nodup_keys {fields : Fields α} (distinct : (keys fields).Nodup) :
    fields.Nodup :=
  List.Pairwise.of_map Prod.fst (fun _ _ other same => other (congrArg Prod.fst same)) distinct

/-- **Fields in which the same is looked up** are the same fields, in some order. -/
theorem perm_of_get?_eq {first second : Fields α} (distinct : (keys first).Nodup)
    (distinct' : (keys second).Nodup) (same : ∀ name, get? first name = get? second name) :
    first.Perm second := by
  refine (List.perm_ext_iff_of_nodup (nodup_of_nodup_keys distinct)
    (nodup_of_nodup_keys distinct')).mpr ?_
  rintro ⟨name, value⟩
  rw [mem_iff_get? distinct, mem_iff_get? distinct', same]

end Choreography.Fields
