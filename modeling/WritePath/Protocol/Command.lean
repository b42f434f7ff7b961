import WritePath.Error.Basic
import WritePath.Request.WriteBatch

namespace WritePath

/-!
# Writes as commands

A batch is sent as one command. The reply says how many documents were touched, which requests
failed and whether the write concern was satisfied.

* `Command.build` — the command that carries a batch.
* `Command.readReply` — what a reply means.
-/

namespace Command

/-! ### The command -/

/-- An update within a command. -/
def updateEntry (filter : Document) (update : Bson) (upsert multi : Bool) : Bson :=
  .document
    [("q", .document filter), ("u", update), ("upsert", .boolean upsert), ("multi", .boolean multi)]

/-- The field that holds the requests. -/
def requestField : Requests → String × Bson
  | .insert documents => ("documents", .array (documents.map .document))
  | .update requests =>
    ("updates",
      .array (requests.map fun r => updateEntry r.filter r.update.toBson r.upsert r.multi))
  | .replace requests =>
    ("updates",
      .array (requests.map fun r => updateEntry r.filter (.document r.replacement) r.upsert false))
  | .delete requests =>
    ("deletes",
      .array (requests.map fun r =>
        .document
          [("q", .document r.filter), ("limit", .int64 (Int64.ofInt r.limit.toNat))]))

/-- The write concern of a command. An empty one is left to the server. -/
def concernField? (c : WriteConcern) : Option Document :=
  if c.isEmpty then some []
  else do
    let d ← c.toDocument?
    some [("writeConcern", .document d)]

/-- The command that carries a batch. The write concern may not fit into it. -/
def build? (b : WriteBatch) : Option Document := do
  let concern ← concernField? b.writeConcern
  some
    ([(b.kind.commandName, .string b.ns.coll), requestField b.requests,
        ("ordered", .boolean b.ordered)]
      ++ concern
      ++ (b.bypassValidation.map fun v => ("bypassDocumentValidation", .boolean v)).toList)

/-- The command that carries a batch, or the error of a write concern that cannot be written. -/
def build (b : WriteBatch) : Except Error Document :=
  Error.encoded (build? b)

/-! ### The reply -/

/-- Whether a reply reports that the command was carried out. -/
def isOk (reply : Document) : Bool :=
  ((reply.get? "ok").bind Bson.toInteger?) = some 1

/-- The error of a reply to a command that was not carried out. -/
def refusal (reply : Document) : Error :=
  if reply.hasKey "code" then
    let record := Record.named reply
    let error? := do
      let labels ← (record.slot 0 ["errorLabels"]).optional (Bson.readList? Bson.readString?)
      let failure ← CommandFailure.ofRecord? record
      some (Error.of (.command failure) (labels.getD []))
    error?.getD (Error.ofKind .undecodable)
  else Error.ofKind (.invalidResponse (.noErrorCode reply))

/-- The contents of a reply to a command that was carried out. -/
structure Reply where
  n : UInt64
  modified : Option UInt64
  upserted : Option (List Upsert)
  requestFailures : Option (List RequestFailure)
  concernFailure : Option ConcernFailure
  labels : Option (List String)

namespace Reply

/-- Reads a reply. -/
def ofDocument? (reply : Document) : Option Reply := do
  let r := Record.named reply
  let n ← (r.slot 0 ["n"]).withDefault 0 Bson.readUInt64?
  let modified ← (r.slot 1 ["nModified"]).optional Bson.readUInt64?
  let upserted ← (r.slot 2 ["upserted"]).optional (Bson.readList? Upsert.ofBson?)
  let requestFailures ←
    (r.slot 3 ["writeErrors"]).optional (Bson.readList? RequestFailure.ofBson?)
  let concernFailure ← (r.slot 4 ["writeConcernError"]).optional ConcernFailure.ofBson?
  let labels ← (r.slot 5 ["errorLabels"]).optional (Bson.readList? Bson.readString?)
  some { n, modified, upserted, requestFailures, concernFailure, labels }

/-- The matched documents: what is counted, less what was upserted. -/
def matchedCount (r : Reply) : UInt64 :=
  UInt64.ofNat (r.n.toNat - (r.upserted.getD []).length)

/-- The result that the reply reports. -/
def result (r : Reply) : WriteKind → BatchResult
  | .insert => { inserted := r.n }
  | .update | .replace =>
    { matched := r.matchedCount, modified := r.modified, upserts := r.upserted.getD [] }
  | .delete => { removed := r.n }

/-- Whether the reply reports a failure. A list of failed requests does so even if it is empty. -/
def isFailure (r : Reply) : Bool :=
  r.requestFailures.isSome || r.concernFailure.isSome

/-- The failure that the reply reports. -/
def failure (r : Reply) (kind : WriteKind) (address : ServerAddress) : BatchFailure where
  result := r.result kind
  requests := r.requestFailures.getD []
  concern := r.concernFailure
  address := address

end Reply

/-- What a reply means. A failed batch carries the labels of the reply. -/
def readReply (kind : WriteKind) (reply : Document) (address : ServerAddress) :
    Except Error BatchResult :=
  if isOk reply then
    match Reply.ofDocument? reply with
    | none => .error (Error.ofKind .undecodable)
    | some r =>
      if r.isFailure then
        .error (Error.of (.batch (r.failure kind address)) (r.labels.getD []))
      else .ok (r.result kind)
  else .error (refusal reply)

end Command

end WritePath
