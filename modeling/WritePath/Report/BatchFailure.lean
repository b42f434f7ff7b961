import WritePath.Report.BatchResult
import WritePath.ServerAddress

namespace WritePath

/-!
# Failures of batches

* `RequestFailure` — one request of a batch failed.
* `ConcernFailure` — the write concern was not satisfied.
* `BatchFailure` — what went wrong with a batch, beside what succeeded.
* `toBson?` or `toBson`, and `ofBson?`, of the first two — the record and its reading.
-/

/-- One request of a batch failed. -/
structure RequestFailure where
  /-- The place of the request in the batch. -/
  index : UInt64
  code : Int32
  message : String
  /-- What the server adds in explanation. -/
  details : Document

namespace RequestFailure

/-- The failure as a record. -/
def toBson? (e : RequestFailure) : Option Bson := do
  let index ← Bson.ofWord? e.index
  some
    (.document
      [("index", index), ("code", .int32 e.code), ("errmsg", .string e.message),
        ("errInfo", (Bson.document e.details).stored)])

/-- Reads a failure. -/
def ofBson? (v : Bson) : Option RequestFailure := do
  let r ← v.record?
  let index ← (r.slot 0 ["index"]).withDefault 0 Bson.readUInt64?
  let code ← (r.slot 1 ["code"]).required Bson.readInt32?
  let message ← (r.slot 2 ["errmsg"]).withDefault "" Bson.readString?
  let details ← (r.slot 3 ["errInfo"]).withDefault [] Bson.readDocument?
  some { index, code, message, details }

end RequestFailure

/-- The write concern was not satisfied. -/
structure ConcernFailure where
  code : Int32
  codeName : String
  message : String
  /-- The setting that was not satisfied. -/
  details : Document
  labels : List String

namespace ConcernFailure

/-- The failure as a record. -/
def toBson (e : ConcernFailure) : Bson :=
  .document
    [("code", .int32 e.code), ("codeName", .string e.codeName), ("message", .string e.message),
      ("errInfo", (Bson.document e.details).stored), ("errorLabels", .array (e.labels.map .string))]

/-- Reads a failure, whose message goes by two names. -/
def ofBson? (v : Bson) : Option ConcernFailure := do
  let r ← v.record?
  let code ← (r.slot 0 ["code"]).required Bson.readInt32?
  let codeName ← (r.slot 1 ["codeName"]).withDefault "" Bson.readString?
  let message ← (r.slot 2 ["message", "errmsg"]).withDefault "" Bson.readString?
  let details ← (r.slot 3 ["errInfo"]).withDefault [] Bson.readDocument?
  let labels ← (r.slot 4 ["errorLabels"]).withDefault [] (Bson.readList? Bson.readString?)
  some { code, codeName, message, details, labels }

end ConcernFailure

/-- What went wrong with a batch sent as a command. -/
structure BatchFailure where
  /-- What succeeded. -/
  result : BatchResult
  /-- The requests that failed, in the order reported. -/
  requests : List RequestFailure
  concern : Option ConcernFailure
  /-- The server that reports it. -/
  address : ServerAddress

namespace BatchFailure

/-- The code of the last request that failed, or else of the write concern. -/
def code? (f : BatchFailure) : Option Int32 :=
  match f.requests.getLast? with
  | some e => some e.code
  | none => f.concern.map (·.code)

end BatchFailure

end WritePath
