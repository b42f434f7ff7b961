import WritePath.Proofs.Concerns
import WritePath.Proofs.Replies

namespace WritePath

/-!
# Write concerns that are read back

A write concern has one document, but may be read from many values: the time limit and the journal
go by two names, integers have two widths, null stands for what is not set, and an array will do.

* `Duration.IsMillis`, `WriteConcern.IsNormal` — the form of a write concern that can be told.
* `Duration.sent`, `WriteConcern.integer?_timeoutToBson` — the number that is sent for a time limit.
* `Duration.ofMillis_millis`, `Acknowledgment.ofBson?_of_toBson?` — its parts are read back.
* `WriteConcern.ofBson?_of_toDocument?` — a write concern of this form is read back.
* `WriteConcern.isNormal_of_ofBson?` — whatever is read is of this form.
* `WriteConcern.read_back` — both, and what follows for a write concern that is read twice.
-/

/-! ### Spans of time -/

namespace Duration

/-- A span of whole milliseconds, so many that an int64 can hold them. -/
def IsMillis (d : Duration) : Prop :=
  d.nanos.toNat % 1000000 = 0 ∧ d.millis ≤ 0x7fffffffffffffff

/-- Such a span is that of its milliseconds. -/
theorem ofMillis_millis {d : Duration} (h : d.IsMillis) : ofMillis (UInt64.ofNat d.millis) = d := by
  obtain ⟨hwhole, hle⟩ := h
  have hnanos := d.nanos_lt
  have hmillis : (UInt64.ofNat d.millis).toNat = d.millis := by
    rw [UInt64.toNat_ofNat', Nat.mod_eq_of_lt (by omega)]
  have hseconds : d.millis / 1000 = d.seconds.toNat := by
    unfold millis
    omega
  have hrest : d.millis % 1000 * 1000000 = d.nanos.toNat := by
    unfold millis
    omega
  rw [Duration.mk.injEq]
  constructor
  · show UInt64.ofNat ((UInt64.ofNat d.millis).toNat / 1000) = d.seconds
    rw [hmillis, hseconds, UInt64.ofNat_toNat]
  · show UInt32.ofNat ((UInt64.ofNat d.millis).toNat % 1000 * 1000000) = d.nanos
    rw [hmillis, hrest, UInt32.ofNat_toNat]

/-- The number that is sent for a span: what the lowest 64 bits of its milliseconds say. -/
def sent (d : Duration) : Int :=
  (Int64.ofInt d.millis).toInt

/-- It is the number of milliseconds if an int64 can hold that. -/
theorem sent_of_millis_le {d : Duration} (h : d.millis ≤ 0x7fffffffffffffff) : d.sent = d.millis :=
  Int64.toInt_ofInt_of_le (by omega) (by omega)

theorem isMillis_ofMillis {n : UInt64} (h : n.toNat ≤ 0x7fffffffffffffff) :
    (ofMillis n).IsMillis := by
  constructor
  · rw [toNat_nanos_ofMillis, Nat.mul_mod_left]
  · rw [millis_ofMillis]
    exact h

end Duration

/-! ### Values -/

/-- No value that is read as an unsigned word is greater than an int64. -/
theorem Bson.toNat_le_of_readUInt64? {v : Bson} {n : UInt64} (h : v.readUInt64? = some n) :
    n.toNat ≤ 0x7fffffffffffffff := by
  obtain ⟨i, hi, hn⟩ := Option.bind_eq_some_iff.1 h
  have hvalue := toNat_of_uint64?_eq_some hn
  have hbound : i < 0x8000000000000000 := by
    cases v with
    | int32 m | int64 m =>
      have hm : m.toInt = i := Option.some.inj hi
      have := m.toInt_lt
      omega
    | _ => cases hi
  omega

namespace Acknowledgment

/-- What is told is understood, unless a tag has the name that stands for a majority. -/
theorem ofBson?_of_toBson? {a : Acknowledgment} {v : Bson} (hname : a ≠ .custom "majority")
    (h : a.toBson? = some v) : ofBson? v = some a ∧ v ≠ .null := by
  cases a with
  | nodes n =>
    rw [toBson?, Option.map_eq_some_iff] at h
    obtain ⟨i, hi, rfl⟩ := h
    have hread : (Bson.int32 i).readUInt32? = some n := by
      show uint32? i.toInt = some n
      rw [toInt_of_int32?_eq_some hi, uint32?_toNat]
    constructor
    · rw [ofBson?, hread]
    · simp
  | majority =>
    cases h
    constructor
    · rfl
    · simp
  | custom name =>
    cases h
    have hother : ofName name = custom name := by
      rw [ofName, if_neg]
      rintro rfl
      exact hname rfl
    constructor
    · show some (ofName name) = some (custom name)
      rw [hother]
    · simp

/-- No tag that is read has that name. -/
theorem ne_of_ofBson? {a : Acknowledgment} {v : Bson} (h : ofBson? v = some a) :
    a ≠ .custom "majority" := by
  rintro rfl
  rw [ofBson?] at h
  split at h
  · cases h
  · obtain ⟨name, -, hname⟩ := Option.map_eq_some_iff.1 h
    rw [ofName] at hname
    split at hname
    · cases hname
    · next hother => exact hother (custom.inj hname)

end Acknowledgment

/-! ### Write concerns -/

namespace WriteConcern

variable {c : WriteConcern} {fields : Document} {v : Bson}

/-- The form of a write concern that can be told: no tag has the name that stands for a majority,
and the time limit is a number of milliseconds that an int64 can hold. -/
structure IsNormal (c : WriteConcern) : Prop where
  w : c.w ≠ some (.custom "majority")
  timeout : ∀ d, c.timeout = some d → d.IsMillis

/-- Either width holds the same number. -/
theorem integer?_timeoutToBson (d : Duration) : (timeoutToBson d).integer? = some d.sent := by
  unfold timeoutToBson
  split
  · show some (Int32.ofInt d.millis).toInt = _
    rw [Int32.toInt_ofInt_of_le (by omega) (by omega), Duration.sent_of_millis_le (by omega)]
  · rfl

/-- A time limit is told in milliseconds, in as many bits as they take. -/
theorem readUInt64?_timeoutToBson {d : Duration} (h : d.millis ≤ 0x7fffffffffffffff) :
    (timeoutToBson d).readUInt64? = some (UInt64.ofNat d.millis) := by
  rw [Bson.readUInt64?, integer?_timeoutToBson, Duration.sent_of_millis_le h, Option.bind_some,
    uint64?, if_pos (by omega), Int.toNat_natCast]

theorem timeoutToBson_ne_null (d : Duration) : timeoutToBson d ≠ .null := by
  unfold timeoutToBson
  split <;> simp

/-- The document has none of the other names. -/
theorem get?_of_toDocument?_of_not_mem (h : c.toDocument? = some fields) {key : String}
    (hkey : key ∉ ["w", "wtimeout", "j"]) : fields.get? key = none := by
  rw [Document.get?_eq_none_iff, keys_of_toDocument? h]
  intro hmem
  exact hkey (c.names_sublist.subset hmem)

/-- What stands under the names that it may have. -/
theorem get?_of_toDocument? (h : c.toDocument? = some fields) :
    c.w.mapM Acknowledgment.toBson? = some (fields.get? "w") ∧
    fields.get? "wtimeout" = c.timeout.map timeoutToBson ∧
    fields.get? "j" = c.journal.map .boolean := by
  rw [toDocument?] at h
  obtain ⟨w, hw, hfields⟩ := Option.bind_eq_some_iff.1 h
  have htimeout : (c.timeout.map fun d => ("wtimeout", timeoutToBson d))
      = (c.timeout.map timeoutToBson).map fun v => ("wtimeout", v) :=
    (Option.map_map ..).symm
  have hjournal : (c.journal.map fun j => ("j", Bson.boolean j))
      = (c.journal.map Bson.boolean).map fun v => ("j", v) :=
    (Option.map_map ..).symm
  cases Option.some.inj hfields
  simp only [htimeout, hjournal, Document.get?_append, Document.get?_toList, hw]
  simp

/-- A document without the second names is read field by field. -/
theorem ofBson?_document_eq_some_iff (htimeout : fields.get? "wtimeoutMS" = none)
    (hjournal : fields.get? "journal" = none) :
    ofBson? (.document fields) = some c ↔
      fields.Offers "w" Acknowledgment.ofBson? c.w ∧
      (∃ millis?, fields.Offers "wtimeout" Bson.readUInt64? millis? ∧
        millis?.map Duration.ofMillis = c.timeout) ∧
      fields.Offers "j" Bson.readBool? c.journal := by
  have hrecord : (Bson.document fields).record? = some (.named fields) := rfl
  unfold ofBson?
  simp only [hrecord, Option.bind_eq_bind, Option.bind_some, Option.bind_eq_some_iff,
    Record.slot_alias htimeout, Record.slot_alias hjournal, Record.trailingOptional_slot,
    Record.optional_slot_eq_some_iff]
  constructor
  · rintro ⟨w, hw, millis?, hmillis, journal, hj, h⟩
    cases h
    exact ⟨hw, ⟨millis?, hmillis, rfl⟩, hj⟩
  · rintro ⟨hw, ⟨millis?, hmillis, hset⟩, hj⟩
    exact ⟨_, hw, _, hmillis, _, hj, by rw [hset]⟩

/-- **Round trip.** A write concern of the normal form is read back from its document. -/
theorem ofBson?_of_toDocument? (h : c.toDocument? = some fields) (hc : c.IsNormal) :
    ofBson? (.document fields) = some c := by
  obtain ⟨hw, htimeout, hjournal⟩ := get?_of_toDocument? h
  rw [ofBson?_document_eq_some_iff (get?_of_toDocument?_of_not_mem h (by decide))
    (get?_of_toDocument?_of_not_mem h (by decide))]
  -- What is not set is left out, so each field is read as set or as not set.
  refine ⟨?w, ⟨c.timeout.map fun d => UInt64.ofNat d.millis, ?timeout, ?millis⟩, ?journal⟩
  case w =>
    cases ha : c.w with
    | none =>
      rw [ha] at hw
      exact .inl (Option.some.inj hw).symm
    | some a =>
      rw [ha] at hw
      obtain ⟨v, hv, hfield⟩ : ∃ v, a.toBson? = some v ∧ some v = fields.get? "w" := by
        simpa using hw
      obtain ⟨hread, hnull⟩ := Acknowledgment.ofBson?_of_toBson? (fun hm => hc.w (hm ▸ ha)) hv
      exact ⟨v, hfield.symm, hnull, hread⟩
  case timeout =>
    cases hd : c.timeout with
    | none => exact .inl (by rw [htimeout, hd, Option.map_none])
    | some d =>
      have hread := readUInt64?_timeoutToBson (hc.timeout d hd).2
      exact ⟨_, by rw [htimeout, hd, Option.map_some], timeoutToBson_ne_null d, hread⟩
  case millis =>
    cases hd : c.timeout with
    | none => rfl
    | some d => exact congrArg some (Duration.ofMillis_millis (hc.timeout d hd))
  case journal =>
    cases hj : c.journal with
    | none => exact .inl (by rw [hjournal, hj, Option.map_none])
    | some j => exact ⟨.boolean j, by rw [hjournal, hj, Option.map_some], by simp, rfl⟩

/-- **Normal form.** Whatever is read is of this form. -/
theorem isNormal_of_ofBson? (h : ofBson? v = some c) : c.IsNormal := by
  obtain ⟨r, -, h⟩ := Option.bind_eq_some_iff.1 h
  obtain ⟨w, hw, h⟩ := Option.bind_eq_some_iff.1 h
  obtain ⟨millis, hmillis, h⟩ := Option.bind_eq_some_iff.1 h
  obtain ⟨journal, -, h⟩ := Option.bind_eq_some_iff.1 h
  cases Option.some.inj h
  -- Whatever the record looks like, what is set was read of some value.
  constructor
  case w =>
    rintro rfl
    obtain ⟨v, hv⟩ := Slot.exists_of_optional hw
    exact Acknowledgment.ne_of_ofBson? hv rfl
  case timeout =>
    intro d hd
    obtain ⟨n, rfl, rfl⟩ := Option.map_eq_some_iff.1 hd
    obtain ⟨v, hv⟩ := Slot.exists_of_trailingOptional hmillis
    exact Duration.isMillis_ofMillis (Bson.toNat_le_of_readUInt64? hv)

/-- So this is the form of just those that are read back from their document. -/
theorem isNormal_iff (h : c.toDocument? = some fields) :
    c.IsNormal ↔ ofBson? (.document fields) = some c :=
  ⟨ofBson?_of_toDocument? h, isNormal_of_ofBson?⟩

/-- **Reading back.** A write concern of the normal form that asks for no more servers than an int32
    tells has a document, from which it is read back. Whatever a write concern is read from, it is of
    the normal form. So if it has a document, which it has unless it asks for too many servers, it is
    read from that again. -/
theorem read_back :
    (∀ c : WriteConcern, c.IsNormal → (∀ n, c.w = some (.nodes n) → n.toNat ≤ 0x7fffffff) →
      ∃ fields, c.toDocument? = some fields ∧ ofBson? (.document fields) = some c) ∧
    (∀ v c, ofBson? v = some c → c.IsNormal) ∧
    ∀ v c fields, ofBson? v = some c → c.toDocument? = some fields →
      ofBson? (.document fields) = some c := by
  refine ⟨fun c hc hfits => ?_, fun v c h => isNormal_of_ofBson? h, fun v c fields h hfields => ?_⟩
  · cases hfields : c.toDocument? with
    | none =>
      obtain ⟨n, hn, hexcess⟩ := toDocument?_eq_none_iff.1 hfields
      have := hfits n hn
      omega
    | some fields => exact ⟨fields, rfl, ofBson?_of_toDocument? hfields hc⟩
  · exact (isNormal_iff hfields).1 (isNormal_of_ofBson? h)

/-- The second names are read and not written. Of the servers, more can be read than written. -/
theorem read_back_secondNames :
    let tagged : WriteConcern := ⟨some (.custom "tagged"), some (.ofMillis 50), some false⟩
    let named : Bson :=
      .document [("wtimeoutMS", .int64 50), ("journal", .boolean false), ("w", .string "tagged")]
    (ofBson? named = some tagged ∧ tagged.IsNormal ∧
      ∃ fields, tagged.toDocument? = some fields ∧ fields.keys = ["w", "wtimeout", "j"] ∧
        ofBson? (.document fields) = some tagged) ∧
    ofBson? (.array [.int64 0x80000000, .null, .null]) = some (.nodes 0x80000000) ∧
    (nodes 0x80000000).IsNormal ∧ (nodes 0x80000000).toDocument? = none := by
  intro tagged named
  have hnamed : ofBson? named = some tagged := rfl
  have hlisted : ofBson? (.array [.int64 0x80000000, .null, .null]) = some (.nodes 0x80000000) := rfl
  obtain ⟨htold, hnormal, -⟩ := read_back
  obtain ⟨fields, hfields, hback⟩ := htold tagged (hnormal _ _ hnamed) (by simp [tagged])
  exact ⟨⟨hnamed, hnormal _ _ hnamed, fields, hfields, keys_of_toDocument? hfields, hback⟩,
    hlisted, hnormal _ _ hlisted, toDocument?_eq_none_iff.2 ⟨0x80000000, rfl, by decide⟩⟩

end WriteConcern

end WritePath
