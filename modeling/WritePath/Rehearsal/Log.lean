import WritePath.Rehearsal.Server

namespace WritePath

/-!
# The log of a simulated server

* `ServerLog`, `LogEntry` — what has been seen.
* `Server.record` — how the log grows with what is done in an execution.
-/

/-- What the server sees, and the invocation of the callback. -/
inductive LogEntry where
  | acquire
  | check
  | command
  | legacy
  | release
  | callback
  deriving DecidableEq, Repr

/-- The name of an entry. -/
def LogEntry.name : LogEntry → String
  | acquire => "acquire"
  | check => "check"
  | command => "command"
  | legacy => "legacy"
  | release => "release"
  | callback => "callback"

/-- What has been seen. -/
structure ServerLog where
  acquired : Nat := 0
  released : Nat := 0
  callbacks : Nat := 0
  calls : List LogEntry := []
  /-- The commands that reached the server, and the questions about the last error. -/
  commands : List Document := []

/-- The log with one more entry. -/
def ServerLog.add (l : ServerLog) (entry : LogEntry) : ServerLog :=
  { l with calls := l.calls ++ [entry] }

namespace Server

/-- The log after a command. -/
def recordCommand (l : ServerLog) (b : WriteBatch) : ServerLog :=
  { l.add .command with commands := l.commands ++ (Command.build? b).toList }

/-- The log after a write by the older protocol. -/
def recordLegacy (s : Server) (l : ServerLog) (b : WriteBatch) : ServerLog :=
  let asked := s.writeError.isNone && b.writeConcern.isAcknowledged
  { l.add .legacy with
    commands := l.commands ++ if asked then (LastError.build? b.writeConcern).toList else [] }

/-- The log after something was done. -/
def record (s : Server) (waiting : Bool) (l : ServerLog) : Act → ServerLog
  | .connected _ => { l.add .acquire with acquired := l.acquired + 1 }
  | .probe => if s.defaultProbe then l else l.add .check
  | .send protocol b =>
    if s.breaksOff waiting then l
    else match protocol with
      | .command => recordCommand l b
      | .legacy => s.recordLegacy l b
  | .release => { l.add .release with released := l.released + 1 }
  | .callback _ => { l.add .callback with callbacks := l.callbacks + 1 }
  | .acquire | .note _ => l

end Server

end WritePath
