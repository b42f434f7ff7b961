import WritePath.Bson.ExtendedJson
import WritePath.Error.Text
import WritePath.Protocol.Selection
import WritePath.Request.WriteBatch

namespace WritePath

/-!
# Traced events

* `TraceEvent` — what happens on the way of a write that is worth a note.
* `TraceEvent.message`, `TraceEvent.fields` — how the note reads.
-/

/-- What a write ends with. -/
abbrev Outcome := Except Error WriteResult

/-- What is worth a note. -/
inductive TraceEvent where
  /-- The way a write is sent has been chosen. -/
  | protocolSelected (batch : WriteBatch) (stream : StreamDescription) (protocol : WireProtocol)
  /-- The failure of a batch has been put into the older shape. -/
  | failureReshaped (kind : WriteKind) (duplicateKey : Bool) (response : Document)
  /-- The deployment cannot tell a repeated write from a new one. -/
  | retryableWritesNotSupported (failure : Error)
  /-- A write has ended. -/
  | completed (batch : WriteBatch) (outcome : Outcome)

/-- The value of a field of a note. -/
inductive TraceValue where
  | text (s : String)
  | flag (b : Bool)
  | number (n : Int)
  /-- An error of which nothing is said in words. -/
  | untold

namespace TraceValue

/-- The words of an error. -/
def ofError (e : Error) : TraceValue :=
  e.text?.elim untold text

end TraceValue

namespace TraceEvent

/-- What a note says. -/
def message : TraceEvent → String
  | protocolSelected .. => "Write protocol selected"
  | failureReshaped .. => "Write command failure translated"
  | retryableWritesNotSupported _ => "Deployment does not support retryable writes"
  | completed _ (.ok _) => "Write succeeded"
  | completed _ (.error _) => "Write failed"

/-- The names and values of a note. -/
def fields : TraceEvent → List (String × TraceValue)
  | protocolSelected batch stream protocol =>
    [("namespace", .text batch.ns.text), ("writeKind", .text batch.kind.name),
      ("requestCount", .number batch.requests.size),
      ("acknowledged", .flag batch.writeConcern.isAcknowledged), ("protocol", .text protocol.name),
      ("serverHost", .text stream.address.host),
      ("serverPort", .number stream.address.effectivePort.toNat)]
      ++ (stream.maxWireVersion.map fun v => ("maxWireVersion", .number v.toInt)).toList
  | failureReshaped kind duplicateKey response =>
    [("writeKind", .text kind.name), ("duplicateKey", .flag duplicateKey),
      ("response", .text response.extendedJson)]
  | retryableWritesNotSupported failure => [("failure", .ofError failure)]
  | completed batch (.ok r) =>
    [("namespace", .text batch.ns.text), ("writeKind", .text batch.kind.name),
      ("acknowledged", .flag r.acknowledged), ("count", .number r.count.toNat),
      ("updatedExisting", .flag r.updatedExisting)]
  | completed batch (.error e) =>
    [("namespace", .text batch.ns.text), ("writeKind", .text batch.kind.name),
      ("failure", .ofError e)]

end TraceEvent

end WritePath
