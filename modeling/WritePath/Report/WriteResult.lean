import WritePath.Bson.Record

namespace WritePath

/-!
# Results of operations

Whatever way a write takes, it is reported in the same shape, with one count of documents.

* `WriteResult` — the outcome of a write.
* `WriteResult.toBson?`, `WriteResult.ofBson?` — the record of a result and its reading. The count
  becomes an int64, so the greatest ones cannot be recorded.
-/

/-- The outcome of a write. -/
structure WriteResult where
  /-- Whether the server reported anything; if not, the other fields say nothing. -/
  acknowledged : Bool
  /-- The number of documents updated, upserted or removed; zero for an insertion. -/
  count : UInt64
  /-- Whether an existing document was updated and none upserted. -/
  updatedExisting : Bool
  /-- The `_id` of an upserted document. -/
  upsertedId : Option Bson

namespace WriteResult

/-- The outcome of a write that the server did not acknowledge. -/
def unacknowledged : WriteResult :=
  ⟨false, 0, false, none⟩

/-- The result as a record. An `_id` that is missing and one that is null look the same. -/
def toBson? (r : WriteResult) : Option Bson := do
  let count ← Bson.ofWord? r.count
  some
    (.document
      [("acknowledged", .boolean r.acknowledged), ("count", count),
        ("updatedExisting", .boolean r.updatedExisting),
        ("upsertedId", (r.upsertedId.map Bson.stored).getD .null)])

/-- Reads a result. -/
def ofBson? (v : Bson) : Option WriteResult := do
  let r ← v.record?
  let acknowledged ← (r.slot 0 ["acknowledged"]).required Bson.readBool?
  let count ← (r.slot 1 ["count"]).required Bson.readUInt64?
  let updatedExisting ← (r.slot 2 ["updatedExisting"]).required Bson.readBool?
  let upsertedId ← (r.slot 3 ["upsertedId"]).optional Bson.readValue?
  some { acknowledged, count, updatedExisting, upsertedId }

end WriteResult

end WritePath
