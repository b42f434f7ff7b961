import WritePath.Bson.Spelling

namespace WritePath

/-!
# Values that records keep

A value in a record is spelled out when the record is written, and some are not the same afterwards.

* `Bson.Kept` — a value that is the same after the record that holds it was written and read.
* `Bson.isPlain` — no name within the value begins with a dollar sign, the options of its regular
  expressions are sorted, and its decimals have the form that their texts have.
* `Document.of_spelledField?` — what is spelled out has a dollar sign, and is never null.
* `Bson.kept_of_isPlain` — plain values are kept.
* `Bson.stored_ne_null` — no value but null becomes null in a record.
-/

/-! ### Plain values -/

/-- Whether a name may begin the spelling of a value. -/
def beginsSpelling (key : String) : Bool :=
  key.toList.head? == some '$'

mutual

/-- Whether nothing in a value has another spelling. -/
def Bson.isPlain : Bson → Bool
  | .array items => plainItems items
  | .document fields => plainFields fields
  | .regex _ options => sortedOptions options == options
  | .decimal128 bytes => Decimal128.respelled bytes == bytes
  | .scopedJavascript _ scope => plainFields scope
  | _ => true

/-- Whether nothing in the items of an array has another spelling. -/
def plainItems : List Bson → Bool
  | [] => true
  | v :: rest => v.isPlain && plainItems rest

/-- Whether nothing in the fields of a document has another spelling. -/
def plainFields : List (String × Bson) → Bool
  | [] => true
  | (key, v) :: rest => !beginsSpelling key && (v.isPlain && plainFields rest)

end

/-! ### What documents spell out -/

namespace Document

variable {d : Document} {key text : String} {v w : Bson}

theorem of_spelledText? (h : spelledText? key text = some w) :
    beginsSpelling key = true ∧ w ≠ .null := by
  constructor
  · unfold spelledText? at h
    split at h
    case h_9 => cases h
    all_goals rfl
  · rintro rfl
    unfold spelledText? at h
    split at h <;> simp [Option.bind_eq_some_iff] at h

theorem spelledBinary?_ne_null : d.spelledBinary? ≠ some .null := by
  intro h
  unfold spelledBinary? at h
  split at h
  · simp only [Option.bind_eq_bind, Option.bind_eq_some_iff] at h
    obtain ⟨bytes, -, subtype, -, digits, -, h⟩ := h
    split at h <;> cases h
  · simp [Option.bind_eq_some_iff] at h

theorem of_spelledNested? (h : spelledNested? key d = some w) :
    beginsSpelling key = true ∧ w ≠ .null := by
  constructor
  · unfold spelledNested? at h
    split at h
    case h_4 => cases h
    all_goals rfl
  · rintro rfl
    unfold spelledNested? spelledTimestamp? spelledRegex? at h
    split at h
    · exact spelledBinary?_ne_null h
    · split at h <;> simp [Option.bind_eq_some_iff] at h
    · simp [Option.bind_eq_some_iff] at h
    · cases h

theorem of_spelledEnd? (h : spelledEnd? key = some w) :
    beginsSpelling key = true ∧ w ≠ .null := by
  unfold spelledEnd? at h
  split at h
  case h_3 => cases h
  all_goals
    cases h
    exact ⟨rfl, by simp⟩

/-- The name in the spelling of a value begins with a dollar sign, and the value is not null. -/
theorem of_spelledField? (h : spelledField? key v = some w) :
    beginsSpelling key = true ∧ w ≠ .null := by
  unfold spelledField? at h
  split at h
  · exact of_spelledText? h
  · exact of_spelledNested? h
  · obtain ⟨-, h⟩ := Option.ite_none_right_eq_some.1 h
    exact of_spelledEnd? h
  · split at h
    · next hdate =>
      cases h
      exact ⟨by rw [hdate]; rfl, by simp⟩
    · obtain ⟨-, h⟩ := Option.ite_none_right_eq_some.1 h
      exact of_spelledEnd? h
  · obtain ⟨hbytes, h⟩ := Option.ite_none_right_eq_some.1 h
    obtain ⟨bytes, -, rfl⟩ := Option.map_eq_some_iff.1 h
    exact ⟨by rw [hbytes]; rfl, by simp⟩
  · obtain ⟨hundefined, h⟩ := Option.ite_none_right_eq_some.1 h
    cases h
    exact ⟨by rw [hundefined.1]; rfl, by simp⟩
  · cases h

theorem spelledScope?_ne_null : d.spelledScope? ≠ some .null := by
  intro h
  unfold spelledScope? at h
  split at h <;> cases h

theorem value_ne_null (d : Document) : d.value ≠ .null := by
  intro h
  rw [value] at h
  cases hspelled : d.spelled? with
  | none =>
    rw [hspelled] at h
    cases h
  | some w =>
    have hw : w = .null := by rwa [hspelled] at h
    rw [hw] at hspelled
    unfold spelled? at hspelled
    split at hspelled
    · exact (of_spelledField? hspelled).2 rfl
    · exact spelledScope?_ne_null hspelled
    · cases hspelled

theorem get?_of_plainFields (h : plainFields d = true) (hkey : beginsSpelling key = true) :
    d.get? key = none := by
  induction d with
  | nil => rfl
  | cons field rest ih =>
    obtain ⟨name, v⟩ := field
    simp only [plainFields, Bool.and_eq_true, Bool.not_eq_true'] at h
    rw [get?_cons, if_neg, ih h.2.2]
    rintro rfl
    rw [hkey] at h
    cases h.1

/-- A document without dollar signs spells out nothing but itself. -/
theorem value_of_plainFields (h : plainFields d = true) : d.value = .document d := by
  have hspelled : d.spelled? = none := by
    unfold spelled?
    split
    · next key v =>
      rw [Option.eq_none_iff_forall_ne_some]
      intro w hw
      simp [plainFields, (of_spelledField? hw).1] at h
    · next first second =>
      rw [spelledScope?, get?_of_plainFields h (by rfl)]
    · rfl
  rw [value, hspelled, Option.getD_none]

end Document

/-! ### Plain values are kept -/

/-- A value that is the same after the record that holds it was written and read. -/
def Bson.Kept (v : Bson) : Prop :=
  v.stored.loaded = v

mutual

/-- A plain value is the same when the record is written, and again when it is read. -/
theorem Bson.eq_of_isPlain : ∀ {v : Bson}, v.isPlain = true → v.stored = v ∧ v.loaded = v
  | .array items => by
    intro h
    rw [Bson.isPlain] at h
    obtain ⟨hstored, hloaded⟩ := items_of_plainItems h
    rw [Bson.stored, Bson.loaded, hstored, hloaded]
    exact ⟨rfl, rfl⟩
  | .document fields => by
    intro h
    rw [Bson.isPlain] at h
    obtain ⟨hstored, hloaded⟩ := fields_of_plainFields h
    rw [Bson.stored, Bson.loaded, hstored, hloaded]
    -- Without dollar signs the fields are not taken for the spelling of another value.
    exact ⟨Document.value_of_plainFields h, rfl⟩
  | .regex pattern options => by
    intro h
    rw [Bson.isPlain, beq_iff_eq] at h
    rw [Bson.stored, Bson.loaded, h]
    exact ⟨rfl, rfl⟩
  | .decimal128 bytes => by
    intro h
    rw [Bson.isPlain, beq_iff_eq] at h
    rw [Bson.stored, h]
    exact ⟨rfl, rfl⟩
  | .scopedJavascript code scope => by
    intro h
    rw [Bson.isPlain] at h
    obtain ⟨hstored, hloaded⟩ := fields_of_plainFields h
    -- Code with a scope is spelled out as a document, and read from it at once.
    rw [Bson.stored, Bson.loaded, hstored, hloaded, Document.value_of_plainFields h]
    exact ⟨rfl, rfl⟩
  | .double _ | .string _ | .boolean _ | .null | .int32 _ | .int64 _ | .objectId _ | .dateTime _
  | .timestamp _ _ | .binary _ _ | .javascript _ | .symbol _ | .undefined | .minKey | .maxKey =>
    fun _ => ⟨rfl, rfl⟩

theorem items_of_plainItems :
    ∀ {items : List Bson}, plainItems items = true →
      storedItems items = items ∧ loadedItems items = items
  | [] => fun _ => ⟨rfl, rfl⟩
  | v :: rest => by
    intro h
    rw [plainItems, Bool.and_eq_true] at h
    obtain ⟨hstored, hloaded⟩ := Bson.eq_of_isPlain h.1
    obtain ⟨hstored', hloaded'⟩ := items_of_plainItems h.2
    rw [storedItems, loadedItems, hstored, hloaded, hstored', hloaded']
    exact ⟨rfl, rfl⟩

theorem fields_of_plainFields :
    ∀ {fields : List (String × Bson)}, plainFields fields = true →
      storedFields fields = fields ∧ loadedFields fields = fields
  | [] => fun _ => ⟨rfl, rfl⟩
  | (key, v) :: rest => by
    intro h
    rw [plainFields, Bool.and_eq_true, Bool.and_eq_true] at h
    obtain ⟨hstored, hloaded⟩ := Bson.eq_of_isPlain h.2.1
    obtain ⟨hstored', hloaded'⟩ := fields_of_plainFields h.2.2
    rw [storedFields, loadedFields, hstored, hloaded, hstored', hloaded']
    exact ⟨rfl, rfl⟩

end

namespace Bson

variable {v : Bson}

/-- **Plain values.** Plain values are kept. -/
theorem kept_of_isPlain (h : v.isPlain = true) : v.Kept := by
  obtain ⟨hstored, hloaded⟩ := eq_of_isPlain h
  rw [Kept, hstored, hloaded]

/-- No value but null becomes null in a record. -/
theorem stored_ne_null (h : v ≠ .null) : v.stored ≠ .null := by
  cases v with
  | document | scopedJavascript =>
    rw [stored]
    exact Document.value_ne_null _
  | null => exact absurd rfl h
  | _ => simp [stored]

end Bson

end WritePath
