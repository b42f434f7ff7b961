import WritePath.Execution.Trace

namespace WritePath

/-!
# What an execution has to do with

A write is executed with the help of a deployment, which hands out connections. Whatever is asked of
either may take its time, and may never come to an end.

* `Ending`, `Call` — how something that is asked for goes.
* `Connection`, `Deployment` — what can be asked for.
* `Act` — what is done in an execution and can be seen from outside.
-/

/-! ### Calls -/

/-- How a call ends. -/
inductive Ending (α : Type) where
  | returns (value : α)
  | panics
  | hangs

namespace Ending

variable {α β : Type}

/-- The ending with its value changed. -/
def map (f : α → β) : Ending α → Ending β
  | returns a => returns (f a)
  | panics => panics
  | hangs => hangs

theorem map_eq_returns_iff {f : α → β} {e : Ending α} {b : β} :
    e.map f = .returns b ↔ ∃ a, e = .returns a ∧ f a = b := by
  cases e <;> simp [map]

end Ending

/-- How a call goes: so many times it is found unfinished, and then it ends. -/
structure Call (α : Type) where
  waits : Nat
  ending : Ending α

namespace Call

variable {α β : Type}

/-- The call with its value changed. -/
def map (f : α → β) (c : Call α) : Call β :=
  ⟨c.waits, c.ending.map f⟩

/-- The call that returns a value at once. -/
def immediate (a : α) : Call α :=
  ⟨0, .returns a⟩

end Call

/-! ### Connections -/

/-- A connection to a server. -/
structure Connection where
  stream : StreamDescription
  /-- Asks whether the deployment can tell a repeated write from a new one. -/
  probe : Call (Except Error Unit)
  /-- Sends a batch as a command. -/
  sendCommand : WriteBatch → Call (Except Error BatchResult)
  /-- Sends a batch by the older protocol. -/
  sendLegacy : WriteBatch → Call Outcome

/-- Where connections come from. -/
structure Deployment where
  acquire : Call (Except Error Connection)

/-! ### What is done -/

/-- What is done in an execution and can be seen from outside. -/
inductive Act where
  /-- A connection is asked for. -/
  | acquire
  /-- A connection is handed over. -/
  | connected (stream : StreamDescription)
  /-- The connection is asked whether the write may be repeated. -/
  | probe
  /-- The batch is sent. -/
  | send (protocol : WireProtocol) (batch : WriteBatch)
  /-- The connection is given back. -/
  | release
  /-- An event is noted. -/
  | note (event : TraceEvent)
  /-- The callback learns the outcome. -/
  | callback (outcome : Outcome)

namespace Act

/-- Events that are noted one after the other. -/
def notes (events : List TraceEvent) : List Act :=
  events.map note

/-- The event that is noted. -/
def event? : Act → Option TraceEvent
  | note event => some event
  | _ => none

/-- The outcome that a callback learns. -/
def callback? : Act → Option Outcome
  | callback outcome => some outcome
  | _ => none

end Act

end WritePath
