import WritePath.Error.Basic

namespace WritePath

/-!
# Batches in the older shape

Whatever protocol a write takes, callers see the older shape: a result with one count, or an error
with the document that the server would have answered about the last error.

* `ReplyStep`, `LastErrorForm.start` — such a document is built field by field.
* `LastErrorForm.result` — the result of a batch.
* `LastErrorForm.response`, `LastErrorForm.failure` — the document and the failure of a batch.
* `LastErrorForm.error` — the error of a batch.
-/

/-! ### Building the document -/

/-- A step in building the document about a last error. -/
inductive ReplyStep where
  /-- Tells whether an existing document was updated, and the `_id` of an upserted one. -/
  | outcome (updatedExisting : Bool) (upsertedId : Option Bson)
  /-- Takes over all fields of some details. -/
  | details (d : Document)
  /-- Tells a message and a code. -/
  | error (message : String) (code : Int32)

namespace ReplyStep

/-- The fields that a step sets, in order. -/
def fields : ReplyStep → Document
  | outcome updatedExisting upsertedId =>
    ("updatedExisting", .boolean updatedExisting) :: (upsertedId.map ("upserted", ·)).toList
  | details d => d
  | error message code => [("err", .string message), ("code", .int32 code)]

/-- The document after a step. -/
def apply (d : Document) (s : ReplyStep) : Document :=
  d.merge s.fields

end ReplyStep

namespace LastErrorForm

/-- The document before any step, with the number of documents touched. -/
def start (count : UInt64) : Document :=
  [("ok", .int32 1), ("n", Bson.ofCount count)]

/-- The document after some steps. -/
def build (count : UInt64) (steps : List ReplyStep) : Document :=
  steps.foldl ReplyStep.apply (start count)

theorem nodup_keys_start (count : UInt64) : (start count).keys.Nodup := by
  simp [start, Document.keys]

/-! ### Results -/

/-- The documents that an update matched or upserted, up to the greatest word. -/
def updateCount (r : BatchResult) : UInt64 :=
  UInt64.ofNat (min (r.matched.toNat + r.upserts.length) 0xffffffffffffffff)

/-- The result of a batch. An update that upserted nothing is taken to have updated a document. -/
def result (r : BatchResult) : WriteKind → WriteResult
  | .insert => ⟨true, 0, false, none⟩
  | .delete => ⟨true, r.removed, false, none⟩
  | .update | .replace =>
    match r.upserts with
    | [] => ⟨true, updateCount r, true, none⟩
    | u :: _ => ⟨true, updateCount r, false, some u.id⟩

/-! ### Failures -/

/-- The steps about what succeeded, which only an update tells. -/
def outcomeSteps (kind : WriteKind) (r : WriteResult) : List ReplyStep :=
  if kind.isUpdate then [.outcome r.updatedExisting r.upsertedId] else []

/-- The steps about what failed: the last request that did, or else the write concern. The details
of the write concern come first, so that those of the request prevail. -/
def failureSteps (f : BatchFailure) : List ReplyStep :=
  (f.concern.map fun c => .details c.details).toList
    ++ match f.requests.getLast?, f.concern with
      | some e, _ => [.error e.message e.code, .details e.details]
      | none, some c => [.error c.message c.code]
      | none, none => []

/-- The document about a failed batch. -/
def response (f : BatchFailure) (kind : WriteKind) : Document :=
  let r := result f.result kind
  build r.count (outcomeSteps kind r ++ failureSteps f)

/-- Whether the last request that failed ran into a unique index. -/
def isDuplicateKey (f : BatchFailure) : Bool :=
  f.requests.getLast?.any fun e => duplicateKeyCodes.contains e.code

/-- The failure of a batch. -/
def failure (f : BatchFailure) (kind : WriteKind) : LastErrorFailure where
  response := response f kind
  address := f.address
  result := result f.result kind

/-- The kind of the error of a failed batch. -/
def errorKind (f : BatchFailure) (kind : WriteKind) : ErrorKind :=
  if isDuplicateKey f then .duplicateKey (failure f kind) else .writeConcern (failure f kind)

/-- The error of a failed batch that carries given labels. -/
def labelledError (f : BatchFailure) (labels : LabelSet) (kind : WriteKind) : Error where
  kind := errorKind f kind
  labels := labels
  sources := []

/-- The error of a failed batch. -/
def error (f : BatchFailure) (kind : WriteKind) : Error :=
  labelledError f .empty kind

end LastErrorForm

end WritePath
