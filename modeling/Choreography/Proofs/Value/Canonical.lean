import Choreography.Value
import Choreography.Proofs.Fields.Composed
import Choreography.Proofs.Number.Rounding

/-!
# Values that JSON data keep

JSON data have no undefined value, no infinity and nothing that is not a number, an integer in
them has no negative zero, and an object in them has each name once.  What is left of a value is
its canonical form (`canonical`), in which nothing more is lost (`IsCanonical`).

**A value comes back from its JSON data in canonical form** (`json_roundTrip`): a canonical value
comes back as it was, and the data of what came back are those of the value.  The proof is one
lemma for numbers, `ofJson_numberToJson`, carried through items and fields; in an object, putting
the members one after the other is merging them.
-/

namespace Choreography.Value

/-! ## Canonical forms -/

mutual

/-- A value as JSON data can hold it: null in place of what JSON cannot say, no negative zero,
and each name of an object once, where it is first and with the value it has last. -/
def canonical : Value → Value
  | .undefined => .null
  | .null => .null
  | .bool value => .bool value
  | .number amount => if amount.isFinite then .number amount.withoutNegativeZero else .null
  | .string value => .string value
  | .array items => .array (canonicalItems items)
  | .object fields => .object (Fields.merge (canonicalFields fields))
termination_by structural value => value

/-- The items of an array in canonical form. -/
def canonicalItems : List Value → List Value
  | [] => []
  | item :: rest => item.canonical :: canonicalItems rest
termination_by structural items => items

/-- The fields of an object with values in canonical form, repeated names included. -/
def canonicalFields : List (String × Value) → List (String × Value)
  | [] => []
  | (name, value) :: rest => (name, value.canonical) :: canonicalFields rest
termination_by structural fields => fields

end

/-- Values in canonical form. -/
inductive IsCanonical : Value → Prop
  | null : IsCanonical .null
  | bool (value : Bool) : IsCanonical (.bool value)
  | number {amount : Number} (finite : amount.isFinite = true)
      (signless : amount ≠ .finite true ⟨0, by decide⟩) : IsCanonical (.number amount)
  | string (value : String) : IsCanonical (.string value)
  | array {items : List Value} (within : ∀ item ∈ items, item.IsCanonical) :
      IsCanonical (.array items)
  | object {fields : List (String × Value)} (distinct : (Fields.keys fields).Nodup)
      (within : ∀ field ∈ fields, field.2.IsCanonical) : IsCanonical (.object fields)

theorem canonicalItems_eq_map (items : List Value) :
    canonicalItems items = items.map canonical := by
  induction items with
  | nil => rfl
  | cons item rest ih => rw [canonicalItems, ih, List.map_cons]

theorem canonicalFields_eq_mapValues (fields : List (String × Value)) :
    canonicalFields fields = Fields.mapValues canonical fields := by
  induction fields with
  | nil => rfl
  | cons field rest ih =>
    obtain ⟨name, value⟩ := field
    rw [canonicalFields, ih, Fields.mapValues_cons]

/-! ## Numbers -/

/-- A number is written in one of three ways. -/
theorem numberToJson_cases (amount : Number) :
    (∃ whole, amount.toInt? = some whole ∧ whole.natAbs ≤ greatestInteger ∧
      numberToJson amount = .integer whole) ∨
    (amount.isFinite = true ∧ amount.toInt? ≠ some 0 ∧ numberToJson amount = .double amount) ∨
    (amount.isFinite = false ∧ numberToJson amount = .null) := by
  rw [numberToJson]
  cases is : amount.toInt? with
  | some whole =>
    dsimp only
    split
    · exact .inl ⟨whole, rfl, ‹_›, rfl⟩
    · rename_i large
      refine .inr (.inl ⟨Number.isFinite_of_toInt? is, fun zero => large ?_, rfl⟩)
      rw [Option.some.inj zero]
      decide
  | none =>
    dsimp only
    cases finite : amount.isFinite with
    | true => exact .inr (.inl ⟨rfl, nofun, rfl⟩)
    | false => exact .inr (.inr ⟨rfl, rfl⟩)

/-- **A number comes back from its JSON data in canonical form.** -/
theorem ofJson_numberToJson (amount : Number) :
    ofJson (numberToJson amount) = canonical (.number amount) := by
  rw [canonical]
  obtain ⟨whole, is, -, data⟩ | ⟨finite, other, data⟩ | ⟨infinite, data⟩ :=
    numberToJson_cases amount
  · rw [data, ofJson, Number.isFinite_of_toInt? is, if_pos rfl, Number.ofInt_of_toInt? is]
  · rw [data, ofJson, finite, if_pos rfl,
      Number.withoutNegativeZero_of_ne (Number.ne_negativeZero other)]
  · rw [data, ofJson, infinite, if_neg Bool.false_ne_true]

/-- The sign of a zero is not written. -/
theorem numberToJson_withoutNegativeZero (amount : Number) :
    numberToJson amount.withoutNegativeZero = numberToJson amount := by
  by_cases zero : amount = .finite true ⟨0, by decide⟩
  · subst zero
    have is : Number.toInt? (.finite true ⟨0, by decide⟩) = some 0 := by decide
    have is' : (Number.withoutNegativeZero (.finite true ⟨0, by decide⟩)).toInt? = some 0 := by
      decide
    rw [numberToJson, numberToJson, is, is']
    rfl
  · rw [Number.withoutNegativeZero_of_ne zero]

theorem toJson_canonical_number (amount : Number) :
    (canonical (.number amount)).toJson = (Value.number amount).toJson := by
  rw [canonical]
  cases finite : amount.isFinite with
  | true => rw [if_pos rfl, toJson, toJson, numberToJson_withoutNegativeZero]
  | false =>
    obtain ⟨_, is, -⟩ | ⟨finite', -⟩ | ⟨-, data⟩ := numberToJson_cases amount
    · rw [Number.isFinite_of_toInt? is] at finite
      cases finite
    · rw [finite'] at finite
      cases finite
    · rw [if_neg Bool.false_ne_true, toJson, toJson, data]

/-! ## All values -/

mutual

/-- **What comes back from the data of a value** is its canonical form. -/
theorem ofJson_toJson (value : Value) : ofJson value.toJson = value.canonical := by
  cases value with
  | undefined => rfl
  | null => rfl
  | bool => rfl
  | number amount => exact ofJson_numberToJson amount
  | string => rfl
  | array items => rw [toJson, ofJson, canonical, ofJsonItems_toJsonItems items]
  | object fields =>
    -- members merge before they are read, fields after it: both ways the last value stays
    rw [toJson, ofJson, canonical, ofJsonMembers_eq_mapValues, Fields.mapValues_ofList,
      ← ofJsonMembers_eq_mapValues, ofJsonMembers_toJsonFields fields, Fields.ofList_eq_merge]

theorem ofJsonItems_toJsonItems (items : List Value) :
    ofJsonItems (toJsonItems items) = canonicalItems items := by
  cases items with
  | nil => rfl
  | cons item rest =>
    rw [toJsonItems, ofJsonItems, canonicalItems, ofJson_toJson item,
      ofJsonItems_toJsonItems rest]

theorem ofJsonMembers_toJsonFields (fields : List (String × Value)) :
    ofJsonMembers (toJsonFields fields) = canonicalFields fields := by
  match fields with
  | [] => rfl
  | (name, value) :: rest =>
    rw [toJsonFields, ofJsonMembers, canonicalFields, ofJson_toJson value,
      ofJsonMembers_toJsonFields rest]

end

mutual

theorem isCanonical_canonical (value : Value) : value.canonical.IsCanonical := by
  cases value with
  | undefined => exact .null
  | null => exact .null
  | bool value => exact .bool value
  | number amount =>
    rw [canonical]
    split
    · rename_i finite
      exact .number ((Number.isFinite_withoutNegativeZero amount).trans finite)
        (Number.withoutNegativeZero_ne amount)
    · exact .null
  | string value => exact .string value
  | array items => exact .array (isCanonical_of_mem_canonicalItems items)
  | object fields =>
    rw [canonical, ← Fields.ofList_eq_merge]
    exact .object (Fields.nodup_keys_ofList _) fun field here =>
      isCanonical_of_mem_canonicalFields fields field (Fields.mem_of_mem_ofList here)

theorem isCanonical_of_mem_canonicalItems (items : List Value) :
    ∀ item ∈ canonicalItems items, item.IsCanonical := by
  cases items with
  | nil => exact nofun
  | cons item rest =>
    exact List.forall_mem_cons.mpr
      ⟨isCanonical_canonical item, isCanonical_of_mem_canonicalItems rest⟩

theorem isCanonical_of_mem_canonicalFields (fields : List (String × Value)) :
    ∀ field ∈ canonicalFields fields, field.2.IsCanonical := by
  match fields with
  | [] => exact nofun
  | (name, value) :: rest =>
    exact List.forall_mem_cons.mpr
      ⟨isCanonical_canonical value, isCanonical_of_mem_canonicalFields rest⟩

end

/-- A canonical value is its own canonical form. -/
theorem IsCanonical.canonical_eq {value : Value} (is : value.IsCanonical) :
    value.canonical = value := by
  induction is with
  | null => rfl
  | bool => rfl
  | number finite signless =>
    rw [canonical, finite, if_pos rfl, Number.withoutNegativeZero_of_ne signless]
  | string => rfl
  | @array items within ih =>
    have same : canonicalItems items = items := by
      rw [canonicalItems_eq_map]
      exact (List.map_congr_left ih).trans (List.map_id items)
    rw [canonical, same]
  | @object fields distinct within ih =>
    have same : canonicalFields fields = fields := by
      rw [canonicalFields_eq_mapValues]
      have each : ∀ field ∈ fields, (field.1, field.2.canonical) = id field :=
        fun field here => Prod.ext rfl (ih field here)
      exact (List.map_congr_left each).trans (List.map_id fields)
    rw [canonical, same, Fields.merge_of_distinct distinct]

mutual

/-- **The data of a value are those of its canonical form.** -/
theorem toJson_canonical (value : Value) : value.canonical.toJson = value.toJson := by
  cases value with
  | undefined => rfl
  | null => rfl
  | bool => rfl
  | number amount => exact toJson_canonical_number amount
  | string => rfl
  | array items => rw [canonical, toJson, toJson, toJsonItems_canonicalItems items]
  | object fields =>
    rw [canonical, toJson, toJson, ← Fields.ofList_eq_merge, toJsonFields_eq_mapValues,
      Fields.mapValues_ofList, ← toJsonFields_eq_mapValues,
      Fields.ofList_of_distinct (Fields.nodup_keys_ofList _),
      toJsonFields_canonicalFields fields]

theorem toJsonItems_canonicalItems (items : List Value) :
    toJsonItems (canonicalItems items) = toJsonItems items := by
  cases items with
  | nil => rfl
  | cons item rest =>
    rw [canonicalItems, toJsonItems, toJsonItems, toJson_canonical item,
      toJsonItems_canonicalItems rest]

theorem toJsonFields_canonicalFields (fields : List (String × Value)) :
    toJsonFields (canonicalFields fields) = toJsonFields fields := by
  match fields with
  | [] => rfl
  | (name, value) :: rest =>
    rw [canonicalFields, toJsonFields, toJsonFields, toJson_canonical value,
      toJsonFields_canonicalFields rest]

end

/-! ## The round trip -/

/-- **Values go to JSON data and back.**  What comes back is the canonical form, which is in
canonical form; its data are those of the value; and a value that is in canonical form comes back
as it was.  A whole number of moderate size is written as an integer of 64 bits, and it is the
double that comes back from this integer, but for the sign of a zero. -/
theorem json_roundTrip (value : Value) :
    (ofJson value.toJson = value.canonical ∧ value.canonical.IsCanonical ∧
      (ofJson value.toJson).toJson = value.toJson) ∧
    (value.IsCanonical → ofJson value.toJson = value) ∧
    ∀ (amount : Number) (whole : Int), amount.toInt? = some whole →
      whole.natAbs ≤ 9007199254740991 →
        (Value.number amount).toJson = .integer whole ∧
        -0x8000000000000000 ≤ whole ∧ whole < 0x8000000000000000 ∧
        Number.ofInt whole = amount.withoutNegativeZero ∧
        (Number.ofInt whole).toInt? = some whole := by
  refine ⟨⟨ofJson_toJson value, isCanonical_canonical value, ?_⟩, fun is => ?_,
    fun amount whole is small => ⟨?_, by omega, by omega, Number.ofInt_of_toInt? is, ?_⟩⟩
  · rw [ofJson_toJson, toJson_canonical]
  · rw [ofJson_toJson, is.canonical_eq]
  · rw [toJson, numberToJson, is]
    exact if_pos small
  · exact Number.toInt?_ofInt (Nat.lt_of_le_of_lt small (by decide))

/-- What is left of an object with a name twice, a negative zero and what is not a number comes
back, and so does the greatest whole number of moderate size. -/
theorem json_roundTrip_of_greatest :
    ofJson (Value.object [("b", .undefined), ("a", .bool true),
        ("b", .array [.number (.finite true ⟨0, by decide⟩), .number .nan])]).toJson =
      .object [("b", .array [.number Number.zero, .null]), ("a", .bool true)] ∧
    IsCanonical (.array [.number Number.zero, .null]) ∧
    ofJson (Value.array [.number Number.zero, .null]).toJson =
      .array [.number Number.zero, .null] ∧
    (Number.ofInt 9007199254740991).toInt? = some 9007199254740991 ∧
    (Value.number (Number.ofInt 9007199254740991)).toJson = .integer 9007199254740991 := by
  have canonical_ : IsCanonical (.array [.number Number.zero, .null]) :=
    .array (List.forall_mem_cons.mpr
      ⟨.number rfl (by decide), List.forall_mem_singleton.mpr .null⟩)
  have is : (Number.ofInt 9007199254740991).toInt? = some 9007199254740991 :=
    Number.toInt?_ofInt (by decide)
  refine ⟨(json_roundTrip _).1.1.trans ?_, canonical_, (json_roundTrip _).2.1 canonical_, is,
    ((json_roundTrip .null).2.2 _ _ is (by decide)).1⟩
  rfl

end Choreography.Value
