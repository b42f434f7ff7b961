import WritePath.Error.TransactionNumbers
import WritePath.Execution.Deployment
import WritePath.Protocol.LastErrorForm
import WritePath.Request.Operation

namespace WritePath

/-!
# The stages of an execution

What is decided between two calls does not depend on whether anyone waits for them.

* `Operation.protocolFor` — how a write goes over a connection.
* `Operation.reshape`, `Operation.send` — sending it, with the outcome in the older shape.
* `Operation.conclude` — what is made of the outcome once the connection is given back.
* `Noted` — a value and the events noted on the way to it.
-/

/-- A value and the events noted on the way to it. -/
structure Noted (α : Type) where
  events : List TraceEvent
  value : α

/-- The error that is reported for an error, where retrying was asked for. -/
def Error.explain (e : Error) : Noted Error where
  events := if e.refusesTransactionNumbers then [.retryableWritesNotSupported e.explained] else []
  value := e.explained

@[simp] theorem Error.value_explain (e : Error) : e.explain.value = e.explained := rfl

namespace Operation

/-- The protocol by which the operation goes over a connection. -/
def protocolFor (op : Operation) (stream : StreamDescription) : WireProtocol :=
  .select op.batch.writeConcern stream.supportsCommands

/-- The outcome of a command in the older shape. An error keeps its labels. -/
def reshape (op : Operation) : Except Error BatchResult → Noted Outcome
  | .ok r => ⟨[], .ok (LastErrorForm.result r op.kind)⟩
  | .error e =>
    match e.kind with
    | .batch f =>
      { events :=
          [.failureReshaped op.kind (LastErrorForm.isDuplicateKey f)
            (LastErrorForm.response f op.kind)]
        value := .error (LastErrorForm.labelledError f e.labels op.kind) }
    | _ => ⟨[], .error e⟩

/-- Sends the batch. -/
def send (op : Operation) (c : Connection) : WireProtocol → Call (Noted Outcome)
  | .command => (c.sendCommand op.batch).map op.reshape
  | .legacy => (c.sendLegacy op.batch).map fun outcome => ⟨[], outcome⟩

/-- What is made of the outcome of the write. -/
def conclude (op : Operation) : Outcome → Noted Outcome
  | .ok r => ⟨[.completed op.batch (.ok r)], .ok r⟩
  | .error e =>
    let explained := if op.isRetrying then e.explain else ⟨[], e⟩
    { events := explained.events ++ [.completed op.batch (.error explained.value)]
      value := .error explained.value }

end Operation

end WritePath
