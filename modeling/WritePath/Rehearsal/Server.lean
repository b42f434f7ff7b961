import WritePath.Execution.Deployment
import WritePath.Protocol.Command
import WritePath.Protocol.LastError

namespace WritePath

/-!
# Simulated servers

Executions can be rehearsed against a server that answers as it is told to.

* `Server` — how it behaves.
* `Server.commandOutcome`, `Server.legacyOutcome` — what it makes of a write.
* `Server.deployment` — the deployment that it makes up.
-/

/-- How a simulated server behaves. -/
structure Server where
  /-- The greatest wire version that it knows. -/
  wire : Option Int32 := none
  /-- What it replies to commands. -/
  reply : Document := []
  /-- The address that it goes by, if not the usual one. -/
  address : Option String := none
  acquireError : Option Error := none
  probeError : Option Error := none
  writeError : Option Error := none
  /-- The result of a command, in place of its reply. -/
  result : Option BatchResult := none
  /-- A write that nobody waits for never ends. -/
  hangs : Bool := false
  /-- A write that nobody waits for panics. -/
  panics : Bool := false
  /-- Connections have no probe of their own. -/
  defaultProbe : Bool := false

namespace Server

/-- The outcome of a command. -/
def commandOutcome (s : Server) (address : ServerAddress) (b : WriteBatch) :
    Except Error BatchResult :=
  match Command.build b with
  | .error e => .error e
  | .ok _ =>
    match s.writeError, s.result with
    | some e, _ => .error e
    | none, some r => .ok r
    | none, none => Command.readReply b.kind s.reply address

/-- The outcome of a write by the older protocol. -/
def legacyOutcome (s : Server) (address : ServerAddress) (b : WriteBatch) : Outcome :=
  match s.writeError with
  | some e => .error e
  | none =>
    if b.writeConcern.isAcknowledged then
      match LastError.build b.writeConcern with
      | .error e => .error e
      | .ok _ => LastError.readReply b.kind s.reply address
    else .ok .unacknowledged

/-- Whether writes break off before the server sees them. They do so only where nobody waits. -/
def breaksOff (s : Server) (waiting : Bool) : Bool :=
  !waiting && (s.hangs || s.panics)

/-- How a write with a given outcome ends. -/
def ending {α : Type} (s : Server) (waiting : Bool) (outcome : α) : Ending α :=
  if s.breaksOff waiting then if s.hangs then .hangs else .panics else .returns outcome

/-- A connection to the server. -/
def connection (s : Server) (waiting : Bool) (address : ServerAddress) : Connection where
  stream := ⟨address, s.wire⟩
  probe :=
    .immediate
      (if s.defaultProbe then .ok ()
      else match s.probeError with
        | some e => .error e
        | none => .ok ())
  sendCommand b := ⟨0, s.ending waiting (s.commandOutcome address b)⟩
  sendLegacy b := ⟨0, s.ending waiting (s.legacyOutcome address b)⟩

/-- The connection that is handed out, if any. -/
def acquisition (s : Server) (waiting : Bool) : Except Error Connection :=
  match s.acquireError with
  | some e => .error e
  | none =>
    match s.address with
    | none => .ok (s.connection waiting .localhost)
    | some text =>
      match ServerAddress.parse text with
      | .error cause => .error (Error.ofRefusal cause)
      | .ok address => .ok (s.connection waiting address)

/-- The deployment made up of the server. -/
def deployment (s : Server) (waiting : Bool) : Deployment where
  acquire := .immediate (s.acquisition waiting)

end Server

end WritePath
