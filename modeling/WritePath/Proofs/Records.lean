import WritePath.Proofs.Numbers
import WritePath.Proofs.Replies
import WritePath.Proofs.Spellings
import WritePath.Report.CommandFailure
import WritePath.Report.WriteResult

namespace WritePath

/-!
# Records that are written and read back

What a write did and what went wrong with it are recorded, and the records are read back.

* `ReadBack` — which records are not written, and which are read back as they were.
* `ReadBack.mapM_eq_none_iff`, `ReadBack.mapM_eq_some_iff` — the same of a list of records.
* `Upsert.readBack`, `BatchResult.readBack`, `RequestFailure.readBack`, `ConcernFailure.readBack`,
  `CommandFailure.readBack` — one record at a time, and `reports_kept` — all of them.
* `WriteResult.ofBson?_of_toBson?` — what the result of a write is read back as, and
  `WriteResult.kept_unless_null` — when it is the same.
-/

/-! ### Counts -/

namespace Bson

variable {n : UInt64} {v : Bson}

/-- A count is not written exactly if it is beyond the greatest one. -/
theorem ofWord?_eq_none_iff : ofWord? n = none ↔ greatestCount < n.toNat := by
  rw [ofWord?, Option.map_eq_none_iff, int64?_natCast_eq_none_iff]

/-- A record with a single count is not written exactly if the count is not. -/
theorem bind_ofWord?_eq_none_iff {f : Bson → Bson} :
    ((ofWord? n).bind fun w => some (f w)) = none ↔ greatestCount < n.toNat := by
  rw [← ofWord?_eq_none_iff]
  cases ofWord? n <;> simp

/-- A count that is written is read back. -/
theorem of_ofWord? (h : ofWord? n = some v) : v.readUInt64? = some n ∧ v ≠ .null := by
  rw [ofWord?, Option.map_eq_some_iff] at h
  obtain ⟨i, hi, rfl⟩ := h
  refine ⟨?_, by simp⟩
  show uint64? i.toInt = some n
  rw [toInt_of_int64?_eq_some hi, uint64?_toNat]

/-- A code that is written is read back. -/
theorem readInt32?_int32 (n : Int32) : (int32 n).readInt32? = some n :=
  int32?_toInt n

/-- Embedded documents are read back where they are kept. -/
theorem readDocument?_stored {d : Document} :
    (document d).stored.readDocument? = some d ↔ (document d).Kept := by
  rw [Kept]
  cases (document d).stored <;> simp [readDocument?, loaded]

end Bson

/-! ### Records and lists of them -/

/-- No record is written of a number beyond the greatest count, and any other is read back as it was
    exactly if the values within it are kept. -/
structure ReadBack {α : Type} (write : α → Option Bson) (read : Bson → Option α)
    (numbers : α → List UInt64) (values : α → List Bson) : Prop where
  writes : ∀ a, write a = none ↔ ∃ n ∈ numbers a, greatestCount < n.toNat
  reads : ∀ a v, write a = some v → (read v = some a ↔ ∀ w ∈ values a, w.Kept)

namespace ReadBack

variable {α : Type} {write : α → Option Bson} {read : Bson → Option α}
  {numbers : α → List UInt64} {values : α → List Bson}

/-- A list is written if each of its records is. -/
theorem mapM_eq_none_iff (h : ReadBack write read numbers values) (as : List α) :
    as.mapM write = none ↔ ∃ n ∈ as.flatMap numbers, greatestCount < n.toNat := by
  induction as with
  | nil => simp
  | cons a rest ih =>
    have hnone : (a :: rest).mapM write = none ↔ write a = none ∨ rest.mapM write = none := by
      rw [List.mapM_cons]
      cases write a <;> cases rest.mapM write <;> simp
    rw [hnone, h.writes a, ih, List.flatMap_cons]
    simp only [List.mem_append, or_and_right, exists_or]

/-- A list is read back if each of its records is. -/
theorem mapM_eq_some_iff (h : ReadBack write read numbers values) {as : List α} {vs : List Bson}
    (hwrite : as.mapM write = some vs) :
    vs.mapM read = some as ↔ ∀ w ∈ as.flatMap values, w.Kept := by
  induction as generalizing vs with
  | nil =>
    cases hwrite
    simp
  | cons a rest ih =>
    simp only [List.mapM_cons, Option.bind_eq_bind, Option.bind_eq_some_iff] at hwrite
    obtain ⟨v, hv, vs', hvs', h'⟩ := hwrite
    cases h'
    -- The items are read one by one, in the order of the records.
    have hsome : (v :: vs').mapM read = some (a :: rest) ↔
        read v = some a ∧ vs'.mapM read = some rest := by
      rw [List.mapM_cons]
      cases read v <;> cases vs'.mapM read <;> simp
    rw [hsome, h.reads a v hv, ih hvs', List.flatMap_cons]
    simp only [List.mem_append, or_imp, forall_and]

end ReadBack

/-! ### The results of batches -/

namespace Upsert

theorem ofBson?_fields (index id : Bson) :
    ofBson? (.document [("index", index), ("_id", id)])
      = index.readUInt64?.bind fun index => id.readValue?.bind fun id => some ⟨index, id⟩ :=
  rfl

/-- Any `_id` is written and read, null as well. -/
theorem readBack : ReadBack toBson? ofBson? (fun u => [u.index]) (fun u => [u.id]) := by
  constructor
  case writes =>
    intro u
    rw [toBson?, Option.bind_eq_bind, Bson.bind_ofWord?_eq_none_iff]
    simp
  case reads =>
    rintro ⟨index, id⟩ v hv
    simp only [toBson?, Option.bind_eq_bind, Option.bind_eq_some_iff] at hv
    obtain ⟨w, hw, hv⟩ := hv
    cases hv
    rw [ofBson?_fields, (Bson.of_ofWord? hw).1]
    simp [Bson.readValue?, Bson.Kept]

end Upsert

namespace BatchResult

/-- The counts of a result and the places of its upserts. -/
def numbers (r : BatchResult) : List UInt64 :=
  r.inserted :: r.matched :: r.removed :: (r.modified.toList ++ r.upserts.map (·.index))

theorem toBson?_eq_none_iff {r : BatchResult} :
    r.toBson? = none ↔ Bson.ofWord? r.inserted = none ∨ Bson.ofWord? r.matched = none ∨
      r.modified.mapM Bson.ofWord? = none ∨ Bson.ofWord? r.removed = none ∨
        r.upserts.mapM Upsert.toBson? = none := by
  unfold toBson?
  cases Bson.ofWord? r.inserted <;> cases Bson.ofWord? r.matched <;>
    cases r.modified.mapM Bson.ofWord? <;> cases Bson.ofWord? r.removed <;>
      cases r.upserts.mapM Upsert.toBson? <;> simp

theorem ofBson?_fields (inserted matched modified removed upserts : Bson) :
    ofBson?
        (.document
          [("insertedCount", inserted), ("matchedCount", matched), ("modifiedCount", modified),
            ("removedCount", removed), ("upserts", upserts)])
      = inserted.readUInt64?.bind fun inserted => matched.readUInt64?.bind fun matched =>
          ((Slot.filled modified).optional Bson.readUInt64?).bind fun modified =>
            removed.readUInt64?.bind fun removed =>
              (upserts.readList? Upsert.ofBson?).bind fun upserts =>
                some ⟨inserted, matched, modified, removed, upserts⟩ :=
  rfl

/-- An unset count is written as null, which no count is, and so it is read as unset. -/
theorem optional_modified {n? : Option UInt64} {v? : Option Bson}
    (h : n?.mapM Bson.ofWord? = some v?) :
    (Slot.filled (v?.getD .null)).optional Bson.readUInt64? = some n? := by
  cases n? with
  | none =>
    cases h
    rfl
  | some n =>
    rw [Option.mapM_some, Option.map_eq_map, Option.map_eq_some_iff] at h
    obtain ⟨v, hv, rfl⟩ := h
    obtain ⟨hread, hnull⟩ := Bson.of_ofWord? hv
    rw [Option.getD_some, Record.optional_filled hnull, hread, Option.map_some]

/-- The counts are read as they were written, and so it depends on the upserts alone what is read. -/
theorem ofBson?_of_toBson? {r : BatchResult} {v : Bson} (h : r.toBson? = some v) :
    ∃ vs, r.upserts.mapM Upsert.toBson? = some vs ∧
      ofBson? v = (vs.mapM Upsert.ofBson?).map fun upserts => { r with upserts } := by
  simp only [toBson?, Option.bind_eq_bind, Option.bind_eq_some_iff] at h
  obtain ⟨inserted, hinserted, matched, hmatched, modified, hmodified, removed, hremoved,
    vs, hvs, h⟩ := h
  cases h
  refine ⟨vs, hvs, ?_⟩
  rw [ofBson?_fields, (Bson.of_ofWord? hinserted).1, (Bson.of_ofWord? hmatched).1,
    optional_modified hmodified, (Bson.of_ofWord? hremoved).1, Option.map_eq_bind]
  rfl

/-- The upserts are read in the order in which they were written. -/
theorem readBack : ReadBack toBson? ofBson? numbers (fun r => r.upserts.map (·.id)) := by
  constructor
  case writes =>
    intro r
    have hmodified : r.modified.mapM Bson.ofWord? = none ↔
        ∃ n ∈ r.modified.toList, greatestCount < n.toNat := by
      cases r.modified with
      | none => simp
      | some n =>
        rw [Option.mapM_some, Option.map_eq_map, Option.map_eq_none_iff, Bson.ofWord?_eq_none_iff]
        simp
    rw [toBson?_eq_none_iff, hmodified, Upsert.readBack.mapM_eq_none_iff, ← List.map_eq_flatMap]
    simp only [Bson.ofWord?_eq_none_iff, numbers, List.mem_cons, List.mem_append, or_and_right,
      exists_or, exists_eq_left, or_left_comm]
  case reads =>
    intro r v hv
    obtain ⟨vs, hvs, hread⟩ := ofBson?_of_toBson? hv
    -- What is left to compare are the upserts.
    rw [hread, List.map_eq_flatMap, ← Upsert.readBack.mapM_eq_some_iff hvs, Option.map_eq_some_iff]
    constructor
    · rintro ⟨upserts, hupserts, hr⟩
      have hsame : upserts = r.upserts := congrArg BatchResult.upserts hr
      rw [hupserts, hsame]
    · intro hupserts
      exact ⟨r.upserts, hupserts, rfl⟩

end BatchResult

/-! ### Failures -/

namespace RequestFailure

theorem ofBson?_fields (index code message details : Bson) :
    ofBson?
        (.document
          [("index", index), ("code", code), ("errmsg", message), ("errInfo", details)])
      = index.readUInt64?.bind fun index => code.readInt32?.bind fun code =>
          message.readString?.bind fun message => details.readDocument?.bind fun details =>
            some ⟨index, code, message, details⟩ :=
  rfl

theorem readBack :
    ReadBack toBson? ofBson? (fun e => [e.index]) (fun e => [.document e.details]) := by
  constructor
  case writes =>
    intro e
    rw [toBson?, Option.bind_eq_bind, Bson.bind_ofWord?_eq_none_iff]
    simp
  case reads =>
    rintro ⟨index, code, message, details⟩ v hv
    simp only [toBson?, Option.bind_eq_bind, Option.bind_eq_some_iff] at hv
    obtain ⟨w, hw, hv⟩ := hv
    cases hv
    rw [ofBson?_fields, (Bson.of_ofWord? hw).1, Bson.readInt32?_int32]
    simp [Bson.readString?, ← Bson.readDocument?_stored, Option.bind_eq_some_iff]

end RequestFailure

namespace ConcernFailure

theorem ofBson?_fields (code codeName message details labels : Bson) :
    ofBson?
        (.document
          [("code", code), ("codeName", codeName), ("message", message), ("errInfo", details),
            ("errorLabels", labels)])
      = code.readInt32?.bind fun code => codeName.readString?.bind fun codeName =>
          message.readString?.bind fun message => details.readDocument?.bind fun details =>
            (labels.readList? Bson.readString?).bind fun labels =>
              some ⟨code, codeName, message, details, labels⟩ :=
  rfl

/-- The message is written under one of its two names alone, so that there is no doubt about it. -/
theorem readBack :
    ReadBack (fun e => some e.toBson) ofBson? (fun _ => []) (fun e => [.document e.details]) := by
  constructor
  case writes => simp
  case reads =>
    rintro ⟨code, codeName, message, details, labels⟩ v hv
    cases hv
    have hlabels : (Bson.array (labels.map .string)).readList? Bson.readString? = some labels :=
      Bson.mapM_readString? labels
    rw [toBson, ofBson?_fields, Bson.readInt32?_int32, hlabels]
    simp [Bson.readString?, ← Bson.readDocument?_stored, Option.bind_eq_some_iff]

end ConcernFailure

namespace CommandFailure

theorem ofBson?_fields (code codeName message : Bson) :
    ofBson? (.document [("code", code), ("codeName", codeName), ("errmsg", message)])
      = code.readInt32?.bind fun code => codeName.readString?.bind fun codeName =>
          message.readString?.bind fun message => some ⟨code, codeName, message⟩ :=
  rfl

theorem readBack : ReadBack (fun e => some e.toBson) ofBson? (fun _ => []) (fun _ => []) := by
  constructor
  case writes => simp
  case reads =>
    intro e v hv
    cases hv
    rw [toBson, ofBson?_fields, Bson.readInt32?_int32]
    simp [Bson.readString?]

end CommandFailure

/-! ### All of them -/

/-- **Reports.** The record of an upsert, of the result of a batch, of a request that failed, of a
    write concern that was not satisfied or of a command that was not carried out is written unless
    some count or place in it is beyond the greatest count. It is then read back as what was written
    exactly if the values that the caller or the server put in it are kept. -/
theorem reports_kept :
    ReadBack Upsert.toBson? Upsert.ofBson? (fun u => [u.index]) (fun u => [u.id]) ∧
    ReadBack BatchResult.toBson? BatchResult.ofBson? BatchResult.numbers
      (fun r => r.upserts.map (·.id)) ∧
    ReadBack RequestFailure.toBson? RequestFailure.ofBson? (fun e => [e.index])
      (fun e => [.document e.details]) ∧
    ReadBack (fun e => some (ConcernFailure.toBson e)) ConcernFailure.ofBson? (fun _ => [])
      (fun e => [.document e.details]) ∧
    ReadBack (fun e => some (CommandFailure.toBson e)) CommandFailure.ofBson? (fun _ => [])
      (fun _ => []) :=
  ⟨Upsert.readBack, BatchResult.readBack, RequestFailure.readBack, ConcernFailure.readBack,
    CommandFailure.readBack⟩

/-- A server that does not count modified documents upserted two, one of them with null as its
    `_id`. -/
theorem reports_kept_uncounted :
    let r : BatchResult :=
      { matched := 3, upserts := [⟨0, .null⟩, ⟨2, .document [("a", .string "$b")]⟩] }
    ∃ v, r.toBson? = some v ∧ BatchResult.ofBson? v = some r := by
  intro r
  obtain ⟨-, hbatch, -⟩ := reports_kept
  have hwritten : r.toBson? ≠ none := by
    rw [Ne, hbatch.writes]
    decide
  obtain ⟨v, hv⟩ := Option.ne_none_iff_exists'.1 hwritten
  refine ⟨v, hv, (hbatch.reads r v hv).2 ?_⟩
  -- A dollar sign spells nothing out unless a name begins with it.
  simp only [r, List.map_cons, List.map_nil, List.forall_mem_cons, List.not_mem_nil]
  exact ⟨Bson.kept_of_isPlain (by decide), Bson.kept_of_isPlain (by decide), nofun⟩

/-! ### The results of writes -/

namespace WriteResult

/-- What a result tells of an upserted document after it was written and read. -/
def retold : Option Bson → Option Bson
  | none | some .null => none
  | some id => some id.stored.loaded

theorem retold_of_ne_null {id : Bson} (h : id ≠ .null) :
    retold (some id) = some id.stored.loaded := by
  cases id with
  | null => exact absurd rfl h
  | _ => rfl

theorem retold_eq_self_iff {id? : Option Bson} :
    retold id? = id? ↔ id? ≠ some .null ∧ ∀ id, id? = some id → id.Kept := by
  cases id? with
  | none => simp [retold]
  | some id =>
    by_cases hnull : id = .null
    · simp [hnull, retold]
    · rw [retold_of_ne_null hnull]
      simp [hnull, Bson.Kept]

theorem retold_eq_none_iff {id? : Option Bson} :
    retold id? = none ↔ id? = none ∨ id? = some .null := by
  cases id? with
  | none => simp [retold]
  | some id =>
    by_cases hnull : id = .null
    · simp [hnull, retold]
    · simp [retold_of_ne_null hnull, hnull]

theorem ofBson?_fields (acknowledged count updated id : Bson) :
    ofBson?
        (.document
          [("acknowledged", acknowledged), ("count", count), ("updatedExisting", updated),
            ("upsertedId", id)])
      = acknowledged.readBool?.bind fun acknowledged => count.readUInt64?.bind fun count =>
          updated.readBool?.bind fun updated =>
            ((Slot.filled id).optional Bson.readValue?).bind fun id =>
              some ⟨acknowledged, count, updated, id⟩ :=
  rfl

/-- No `_id` but null becomes null in the record, where it says that nothing was upserted. -/
theorem optional_upsertedId (id? : Option Bson) :
    (Slot.filled ((id?.map Bson.stored).getD .null)).optional Bson.readValue?
      = some (retold id?) := by
  cases id? with
  | none => rfl
  | some id =>
    by_cases hnull : id = .null
    · subst hnull
      rfl
    · rw [retold_of_ne_null hnull, Option.map_some, Option.getD_some,
        Record.optional_filled (Bson.stored_ne_null hnull)]
      rfl

/-- A result is read back as it was written, but for what it tells of an upserted document. -/
theorem ofBson?_of_toBson? {r : WriteResult} {v : Bson} (h : r.toBson? = some v) :
    ofBson? v = some { r with upsertedId := retold r.upsertedId } := by
  simp only [toBson?, Option.bind_eq_bind, Option.bind_eq_some_iff] at h
  obtain ⟨count, hcount, h⟩ := h
  cases h
  rw [ofBson?_fields, (Bson.of_ofWord? hcount).1, optional_upsertedId]
  rfl

/-- **Upserted documents.** The result of a write is recorded if a value can hold its count, and the
    record is read back. What is read is the same exactly if the `_id` of an upserted document is
    kept and is not null. With null, everything else is the same but no document seems to be
    upserted; with any other `_id` one still does. -/
theorem kept_unless_null (r : WriteResult) (hcount : r.count.toNat ≤ greatestCount) :
    ∃ v r', r.toBson? = some v ∧ ofBson? v = some r' ∧
      (r' = r ↔ r.upsertedId ≠ some .null ∧ ∀ id, r.upsertedId = some id → id.Kept) ∧
      (r.upsertedId = some .null → r' = { r with upsertedId := none }) ∧
      (r'.upsertedId = none ↔ r.upsertedId = none ∨ r.upsertedId = some .null) := by
  have hwritten : r.toBson? ≠ none := by
    rw [toBson?, Option.bind_eq_bind, Ne, Bson.bind_ofWord?_eq_none_iff]
    omega
  obtain ⟨v, hv⟩ := Option.ne_none_iff_exists'.1 hwritten
  refine ⟨v, _, hv, ofBson?_of_toBson? hv, ?_, ?_, retold_eq_none_iff⟩
  · rw [← retold_eq_self_iff]
    constructor
    · exact congrArg WriteResult.upsertedId
    · intro hid
      rw [hid]
  · intro hid
    rw [hid]
    rfl

/-- An embedded document as an `_id` is kept. -/
theorem kept_unless_null_document :
    let r : WriteResult := ⟨true, 1, false, some (.document [("a", .int32 7)])⟩
    r.count.toNat ≤ greatestCount ∧ ∃ v, r.toBson? = some v ∧ ofBson? v = some r := by
  intro r
  have hcount : r.count.toNat ≤ greatestCount := by decide
  obtain ⟨v, r', hv, hread, hsame, -⟩ := kept_unless_null r hcount
  have hid : r' = r := by
    rw [hsame]
    refine ⟨by simp [r], ?_⟩
    rintro id ⟨⟩
    exact Bson.kept_of_isPlain (by decide)
  rw [hid] at hread
  exact ⟨hcount, v, hv, hread⟩

/-- An update that upserted a document with null as its `_id` does not seem to have upserted any. -/
theorem kept_unless_null_null :
    ¬ ∀ r : WriteResult, r.count.toNat ≤ greatestCount →
      ∃ v, r.toBson? = some v ∧ ofBson? v = some r := by
  intro h
  obtain ⟨v, hv, hread⟩ := h ⟨true, 1, false, some .null⟩ (by decide)
  rw [ofBson?_of_toBson? hv] at hread
  simp [retold] at hread

end WriteResult

end WritePath
