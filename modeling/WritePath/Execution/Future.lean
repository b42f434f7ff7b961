import WritePath.Execution.Stages

namespace WritePath

/-!
# Executing without waiting

In this style an execution is a machine that is polled. A poll carries it on as far as it goes
without waiting; between two polls it rests at a call that has not ended. It may be discarded
at any time.

* `Future` — where it rests.
* `Future.poll` — one poll.
* `Future.polls` — several of them.
* `Future.discard` — what is done when it is discarded.
-/

/-- Where an execution rests, with the number of polls that will find the call unfinished. -/
inductive Future where
  | unstarted
  | acquiring (waits : Nat)
  | probing (c : Connection) (waits : Nat)
  | writing (c : Connection) (protocol : WireProtocol) (waits : Nat)
  | finished

/-- What becomes of an execution. -/
inductive Progress where
  | pending (f : Future)
  | ready (outcome : Outcome)
  | panicked

/-- What is done in a poll, and what becomes of the execution. -/
structure Step where
  acts : List Act
  progress : Progress

/-- The step with something done before it. -/
def Step.after (s : Step) (acts : List Act) : Step :=
  { s with acts := acts ++ s.acts }

/-- What a poll of a call finds. -/
inductive Poll (α : Type) where
  | pending (waits : Nat)
  | ready (value : α)
  | panicked

/-- Polls a call with so many waits left. One that hangs is found unfinished for ever. -/
def Call.poll {α : Type} (c : Call α) : Nat → Poll α
  | n + 1 => .pending n
  | 0 =>
    match c.ending with
    | .returns a => .ready a
    | .panics => .panicked
    | .hangs => .pending 0

namespace Future

/-! ### The stages -/

/-- Polls the write. Once it has ended, the connection is given back and the outcome reported. -/
def pollWriting (op : Operation) (c : Connection) (protocol : WireProtocol) (waits : Nat) : Step :=
  match (op.send c protocol).poll waits with
  | .pending n => ⟨[], .pending (.writing c protocol n)⟩
  | .panicked => ⟨[.release], .panicked⟩
  | .ready result =>
    let concluded := op.conclude result.value
    ⟨Act.notes result.events ++ .release :: Act.notes concluded.events, .ready concluded.value⟩

/-- Sends the write. -/
def startWriting (op : Operation) (c : Connection) : Step :=
  let protocol := op.protocolFor c.stream
  (pollWriting op c protocol (op.send c protocol).waits).after
    [.note (.protocolSelected op.batch c.stream protocol), .send protocol op.batch]

/-- Polls the probe. A write that may not be repeated is not sent. -/
def pollProbing (op : Operation) (c : Connection) (waits : Nat) : Step :=
  match c.probe.poll waits with
  | .pending n => ⟨[], .pending (.probing c n)⟩
  | .panicked => ⟨[.release], .panicked⟩
  | .ready (.error e) =>
    ⟨Act.notes e.explain.events ++ [.release], .ready (.error e.explain.value)⟩
  | .ready (.ok ()) => startWriting op c

/-- Uses the connection, after a probe where retrying was asked for. -/
def startUsing (op : Operation) (c : Connection) : Step :=
  if op.isRetrying then (pollProbing op c c.probe.waits).after [.probe] else startWriting op c

/-- Polls the acquisition of a connection. -/
def pollAcquiring (op : Operation) (d : Deployment) (waits : Nat) : Step :=
  match d.acquire.poll waits with
  | .pending n => ⟨[], .pending (.acquiring n)⟩
  | .panicked => ⟨[], .panicked⟩
  | .ready (.error e) => ⟨[], .ready (.error e)⟩
  | .ready (.ok c) => (startUsing op c).after [.connected c.stream]

/-! ### Polling and discarding -/

/-- One poll. An execution that has ended must not be polled again. -/
def poll (op : Operation) (d : Deployment) : Future → Step
  | unstarted => (pollAcquiring op d d.acquire.waits).after [.acquire]
  | acquiring waits => pollAcquiring op d waits
  | probing c waits => pollProbing op c waits
  | writing c protocol waits => pollWriting op c protocol waits
  | finished => ⟨[], .panicked⟩

/-- Several polls, until the execution ends. -/
def polls (op : Operation) (d : Deployment) : Nat → Future → Step
  | 0, f => ⟨[], .pending f⟩
  | n + 1, f =>
    let s := f.poll op d
    match s.progress with
    | .pending g => (polls op d n g).after s.acts
    | .ready _ | .panicked => s

/-- What is done when an execution is discarded: a connection that it holds is given back. -/
def discard : Future → List Act
  | probing _ _ | writing _ _ _ => [.release]
  | unstarted | acquiring _ | finished => []

end Future

namespace Operation

/-- Executes a write in so many polls. -/
def executeInPolls (op : Operation) (d : Deployment) (polls : Nat) : Step :=
  Future.polls op d polls .unstarted

end Operation

end WritePath
