import WritePath.Request.WriteConcern
import WritePath.ServerAddress

namespace WritePath

/-!
# Wire protocols

* `StreamDescription` — what is known of a connection.
* `WireProtocol`, `WireProtocol.select` — the two ways to send a write, and the choice between them.
-/

/-- The way a write is sent. -/
inductive WireProtocol where
  /-- One message per request, after which the last error is asked for. -/
  | legacy
  /-- One command for the whole batch. -/
  | command
  deriving DecidableEq, Repr

/-- What is known of a connection. -/
structure StreamDescription where
  address : ServerAddress
  maxWireVersion : Option Int32
  deriving DecidableEq, Repr

/-- The first wire version that has write commands. -/
def writeCommandsVersion : Int32 := 2

/-- Whether the server takes writes as commands. -/
def StreamDescription.supportsCommands (d : StreamDescription) : Bool :=
  d.maxWireVersion.any fun version => writeCommandsVersion ≤ version

namespace WireProtocol

/-- The name of the protocol. -/
def name : WireProtocol → String
  | legacy => "legacy"
  | command => "command"

/-- The protocol of a write. A command always has a reply, so a write whose outcome is not
acknowledged is never sent as one. -/
def select (c : WriteConcern) (supportsCommands : Bool) : WireProtocol :=
  if c.isAcknowledged && supportsCommands then command else legacy

theorem select_eq_command_iff {c : WriteConcern} {s : Bool} :
    select c s = command ↔ c.isAcknowledged = true ∧ s = true := by
  unfold select
  cases c.isAcknowledged <;> cases s <;> simp

end WireProtocol

end WritePath
