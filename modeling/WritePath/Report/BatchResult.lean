import WritePath.Bson.Record

namespace WritePath

/-!
# Results of batches

A batch sent as a command is reported by what was done to how many documents.

* `BatchResult` — the outcome of a batch.
* `Upsert` — a document that was upserted in it.
* `toBson?`, `ofBson?` of each — the record and its reading. Counts become int64 values, so the
  greatest ones cannot be recorded.
-/

/-- A document that was upserted. -/
structure Upsert where
  /-- The place of the request in the batch. -/
  index : UInt64
  /-- The `_id` of the document. -/
  id : Bson

namespace Upsert

/-- The upsert as a record. -/
def toBson? (u : Upsert) : Option Bson := do
  let index ← Bson.ofWord? u.index
  some (.document [("index", index), ("_id", u.id.stored)])

/-- Reads an upsert. -/
def ofBson? (v : Bson) : Option Upsert := do
  let r ← v.record?
  let index ← (r.slot 0 ["index"]).required Bson.readUInt64?
  let id ← (r.slot 1 ["_id"]).required Bson.readValue?
  some { index, id }

end Upsert

/-- The outcome of a batch sent as a command. -/
structure BatchResult where
  inserted : UInt64 := 0
  matched : UInt64 := 0
  /-- Not every server tells how many documents were modified. -/
  modified : Option UInt64 := none
  removed : UInt64 := 0
  /-- The upserted documents, in the order reported. -/
  upserts : List Upsert := []

namespace BatchResult

/-- The result as a record. -/
def toBson? (r : BatchResult) : Option Bson := do
  let inserted ← Bson.ofWord? r.inserted
  let matched ← Bson.ofWord? r.matched
  let modified ← r.modified.mapM Bson.ofWord?
  let removed ← Bson.ofWord? r.removed
  let upserts ← r.upserts.mapM Upsert.toBson?
  some
    (.document
      [("insertedCount", inserted), ("matchedCount", matched),
        ("modifiedCount", modified.getD .null), ("removedCount", removed),
        ("upserts", .array upserts)])

/-- Reads a result. -/
def ofBson? (v : Bson) : Option BatchResult := do
  let r ← v.record?
  let inserted ← (r.slot 0 ["insertedCount"]).required Bson.readUInt64?
  let matched ← (r.slot 1 ["matchedCount"]).required Bson.readUInt64?
  let modified ← (r.slot 2 ["modifiedCount"]).optional Bson.readUInt64?
  let removed ← (r.slot 3 ["removedCount"]).required Bson.readUInt64?
  let upserts ← (r.slot 4 ["upserts"]).required (Bson.readList? Upsert.ofBson?)
  some { inserted, matched, modified, removed, upserts }

end BatchResult

end WritePath
