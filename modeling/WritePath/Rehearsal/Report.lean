import WritePath.Execution.Blocking
import WritePath.Execution.Callback
import WritePath.Rehearsal.Log

namespace WritePath

/-!
# Rehearsals

* `Style` — the ways to execute a write.
* `Rehearsal.run`, `Rehearsal.report` — one rehearsal, and what it leaves behind.
* `Rehearsal.session` — several of them with one log.
-/

/-- The ways to execute a write. -/
inductive Style where
  /-- Someone waits for it. -/
  | blocking
  /-- It is polled until it ends. -/
  | async
  /-- It is polled once and then discarded. -/
  | cancel
  /-- It gets one turn in the background. -/
  | callback
  /-- There is nothing to run it on. -/
  | noRuntime
  /-- It gets one turn in the background, which is then shut down. -/
  | shutdown
  deriving DecidableEq, Repr

/-- Whether someone waits for the calls. -/
def Style.isWaiting : Style → Bool
  | blocking => true
  | async | cancel | callback | noRuntime | shutdown => false

/-- What is done in a rehearsal, and its outcome if it has one. -/
structure Rehearsal where
  acts : List Act
  outcome : Option Outcome

/-- What a rehearsal leaves behind. -/
structure RehearsalReport where
  /-- The outcome, unless the write was still under way. -/
  outcome : Option Outcome
  log : ServerLog
  events : List TraceEvent

namespace Rehearsal

/-- The rehearsal of a write that someone waits for. -/
def ofRun (r : Run Outcome) : Rehearsal :=
  match r.ending with
  | .returns outcome => ⟨r.acts, some outcome⟩
  | .panics | .hangs => ⟨r.acts, none⟩

/-- The rehearsal of a write that is polled, and discarded if it is then still under way. -/
def ofStep (s : Step) : Rehearsal :=
  match s.progress with
  | .ready outcome => ⟨s.acts, some outcome⟩
  | .pending f => ⟨s.acts ++ f.discard, none⟩
  | .panicked => ⟨s.acts, none⟩

/-- The rehearsal of a write whose outcome a callback learns. -/
def ofCallback (acts : List Act) : Rehearsal :=
  ⟨acts, acts.findSome? Act.callback?⟩

/-- Rehearses a write. The server answers at once, so that one poll is all it takes. -/
def run (op : Operation) (s : Server) (style : Style) : Rehearsal :=
  let d := s.deployment style.isWaiting
  match style with
  | .blocking => ofRun (op.execute d)
  | .async | .cancel => ofStep (op.executeInPolls d 1)
  | .callback => ofCallback (op.executeWithCallback d (some [.turn]))
  | .noRuntime => ofCallback (op.executeWithCallback d none)
  | .shutdown => ofCallback (op.executeWithCallback d (some [.turn, .shutdown]))

/-- Rehearses a write with a server that has a log already. -/
def report (op : Operation) (s : Server) (style : Style) (log : ServerLog) : RehearsalReport :=
  let r := run op s style
  { outcome := r.outcome
    log := r.acts.foldl (s.record style.isWaiting) log
    events := r.acts.filterMap Act.event? }

/-- The error of a write that someone waits for. -/
def error? (op : Operation) (s : Server) : Option Error :=
  match (run op s .blocking).outcome with
  | some (.error e) => some e
  | _ => none

/-- Rehearses several writes, each with a server and in a style of its own, which share a log. One
that could not be asked for leaves no trace in it. -/
def session (log : ServerLog) :
    List (Except Error Operation × Server × Style) → List (Except Error RehearsalReport)
  | [] => []
  | (.error e, _, _) :: rest => .error e :: session log rest
  | (.ok op, s, style) :: rest =>
    let r := report op s style log
    .ok r :: session r.log rest

end Rehearsal

end WritePath
