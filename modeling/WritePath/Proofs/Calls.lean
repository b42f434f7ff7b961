import WritePath.Proofs.Courses

namespace WritePath

/-!
# The calls of an execution

Whatever is asked of a deployment or of a connection is a call. Which calls an execution makes is
decided by the wish to retry, by the write concern, by the wire version, and by the answers to the
earlier calls.

* `callsOf` — the calls among what is done.
* `Operation.Asks` — the calls that an execution may make, in order, and what each sequence of them
  takes; `Operation.Asks.not_mem_send_of_refused` and its siblings say what that rules out.
* `Operation.Course.asks` — whichever course an execution takes, it makes such calls.
* `Operation.calls_exact` — the calls of an execution that has come to its end.
-/

/-! ### Calls -/

/-- Something is asked of a deployment or of a connection. -/
def Act.isCall : Act → Bool
  | acquire | probe | send _ _ => true
  | connected _ | release | note _ | callback _ => false

/-- A batch is sent. -/
def Act.isSend : Act → Bool
  | send _ _ => true
  | _ => false

/-- The calls among what is done. -/
def callsOf (acts : List Act) : List Act :=
  acts.filter Act.isCall

@[simp] theorem callsOf_nil : callsOf [] = [] := rfl

@[simp] theorem callsOf_cons (a : Act) (rest : List Act) :
    callsOf (a :: rest) = if a.isCall then a :: callsOf rest else callsOf rest :=
  List.filter_cons

@[simp] theorem callsOf_append (first next : List Act) :
    callsOf (first ++ next) = callsOf first ++ callsOf next :=
  List.filter_append ..

/-- To note something is no call. -/
@[simp] theorem callsOf_notes (events : List TraceEvent) : callsOf (Act.notes events) = [] := by
  rw [callsOf, List.filter_eq_nil_iff]
  intro a ha
  obtain ⟨e, -, rfl⟩ := List.mem_map.1 ha
  exact nofun

namespace Operation

variable {op : Operation} {d : Deployment} {c : Connection} {outcome : Outcome}

/-- Nor is it to tell a callback. -/
theorem callsOf_telling (outcome : Outcome) (m : Manner) : callsOf (telling outcome m) = [] := by
  cases m <;> rfl

/-! ### What is decided before a call -/

theorem isRetrying_iff :
    op.isRetrying = true ↔
      op.retryWrites = true ∧ op.batch.writeConcern.isAcknowledged = true := by
  rw [isRetrying, Bool.and_eq_true]

/-- A protocol is that of a write: commands are for a write that is acknowledged, on a connection
    whose server is known to have the second wire version or a later one. -/
def GoesBy (op : Operation) (stream : StreamDescription) (protocol : WireProtocol) : Prop :=
  protocol = .command ↔
    op.batch.writeConcern.isAcknowledged = true ∧
      ∃ version, stream.maxWireVersion = some version ∧ 2 ≤ version.toInt

theorem goesBy_protocolFor (op : Operation) (stream : StreamDescription) :
    op.GoesBy stream (op.protocolFor stream) := by
  have hsupports : stream.supportsCommands = true ↔
      ∃ version, stream.maxWireVersion = some version ∧ 2 ≤ version.toInt := by
    rw [StreamDescription.supportsCommands, Option.any_eq_true]
    simp only [decide_eq_true_eq, Int32.le_iff_toInt_le]
    rfl
  rw [GoesBy, protocolFor, WireProtocol.select_eq_command_iff, hsupports]

/-! ### The calls that may be made -/

/-- The calls that an execution may make, in order. -/
inductive Asks (op : Operation) (d : Deployment) : List Act → Prop where
  /-- No connection is to be had. -/
  | unconnected {e : Error} (h : d.acquire.ending = .returns (.error e)) : Asks op d [.acquire]
  /-- Retrying is asked for and there is an acknowledgement to miss, but the probe is answered by an
      error. -/
  | refused {c : Connection} {e : Error} (hc : d.acquire.ending = .returns (.ok c))
      (hretry : op.retryWrites = true) (hack : op.batch.writeConcern.isAcknowledged = true)
      (h : c.probe.ending = .returns (.error e)) : Asks op d [.acquire, .probe]
  /-- The probe is answered by none. -/
  | probed {c : Connection} {protocol : WireProtocol} (hc : d.acquire.ending = .returns (.ok c))
      (hretry : op.retryWrites = true) (hack : op.batch.writeConcern.isAcknowledged = true)
      (h : c.probe.ending = .returns (.ok ())) (hprotocol : op.GoesBy c.stream protocol) :
      Asks op d [.acquire, .probe, .send protocol op.batch]
  /-- There is no need of a probe. -/
  | unprobed {c : Connection} {protocol : WireProtocol} (hc : d.acquire.ending = .returns (.ok c))
      (h : ¬(op.retryWrites = true ∧ op.batch.writeConcern.isAcknowledged = true))
      (hprotocol : op.GoesBy c.stream protocol) :
      Asks op d [.acquire, .send protocol op.batch]

namespace Asks

variable {calls : List Act}

/-- After a probe that is answered by an error, nothing is sent. -/
theorem not_mem_send_of_refused {e : Error} (h : op.Asks d calls)
    (hc : d.acquire.ending = .returns (.ok c)) (hretry : op.retryWrites = true)
    (hack : op.batch.writeConcern.isAcknowledged = true)
    (hprobe : c.probe.ending = .returns (.error e)) (protocol : WireProtocol) (batch : WriteBatch) :
    .send protocol batch ∉ calls := by
  cases h with
  | unconnected | refused => simp
  | probed hc' _ _ h =>
    -- It is the same connection, whose probe has one answer.
    cases eq_of_acquire hc hc'
    rw [hprobe] at h
    cases h
  | unprobed _ h => exact absurd ⟨hretry, hack⟩ h

/-- A write that is not acknowledged is not probed. -/
theorem not_mem_probe_of_unacknowledged (h : op.Asks d calls)
    (hack : op.batch.writeConcern.isAcknowledged = false) : .probe ∉ calls := by
  cases h with
  | refused _ _ hack' | probed _ _ hack' =>
    rw [hack] at hack'
    cases hack'
  | unconnected | unprobed => simp

/-- Nor is it sent as a command. -/
theorem not_mem_command_of_unacknowledged (h : op.Asks d calls)
    (hack : op.batch.writeConcern.isAcknowledged = false) (batch : WriteBatch) :
    .send .command batch ∉ calls := by
  cases h with
  | unconnected | refused => simp
  | probed _ _ hack' =>
    rw [hack] at hack'
    cases hack'
  | @unprobed _ protocol _ _ hprotocol =>
    intro hmem
    obtain ⟨rfl, -⟩ : .command = protocol ∧ batch = op.batch := by simpa using hmem
    have hack' := (hprotocol.1 rfl).1
    rw [hack] at hack'
    cases hack'

/-- Nothing is sent twice. -/
theorem countP_isSend_le (h : op.Asks d calls) : calls.countP Act.isSend ≤ 1 := by
  cases h <;> simp [Act.isSend]

end Asks

/-! ### The calls that are made -/

/-- **Calls.** Whichever course an execution takes, it makes the calls that belong to it. -/
theorem Course.asks (h : op.Course d outcome) : op.Asks d (callsOf (op.execute d).acts) := by
  cases h with
  | unconnected h =>
    rw [execute_of_unconnected h]
    exact .unconnected h
  | refused hc hretrying h =>
    obtain ⟨hretry, hack⟩ := isRetrying_iff.1 hretrying
    rw [execute_of_refused hc hretrying h]
    simpa [Act.isCall] using Asks.refused hc hretry hack h
  | @sent c _ hc hprobe h =>
    have hcalls : callsOf (op.execute d).acts
        = .acquire :: (op.probes ++ [.send (op.protocolFor c.stream) op.batch]) := by
      rw [execute_of_sent hc hprobe h]
      cases hretrying : op.isRetrying <;> simp [Act.isCall, probes, hretrying]
    rw [hcalls, probes]
    by_cases hretrying : op.isRetrying = true
    · obtain ⟨hretry, hack⟩ := isRetrying_iff.1 hretrying
      rw [if_pos hretrying]
      exact .probed hc hretry hack (hprobe hretrying) (goesBy_protocolFor ..)
    · rw [if_neg hretrying]
      exact .unprobed hc (mt isRetrying_iff.2 hretrying) (goesBy_protocolFor ..)

/-- **The calls of an execution.** Where everyone answers, an execution has an outcome and makes one
    of four sequences of calls. Every way of execution makes the same, once it has come to its end,
    which it has after any number of polls that is greater than that of the waits. In all of them a
    probe that is answered by an error is the last call, a write that is not acknowledged is neither
    probed nor sent as a command, and no batch is sent twice. -/
theorem calls_exact (op : Operation) (d : Deployment) (h : d.Answers op.batch) :
    ∃ outcome calls,
      (op.Returns d outcome ∧ op.Asks d calls) ∧
      (∀ m, op.Completes d m → callsOf (op.actsIn d m) = calls) ∧
      (∀ n, (∀ f, (op.executeInPolls d n).progress ≠ .pending f) ↔ op.waits d < n) ∧
      (∀ c e, d.acquire.ending = .returns (.ok c) → op.retryWrites = true →
        op.batch.writeConcern.isAcknowledged = true → c.probe.ending = .returns (.error e) →
        ∀ protocol batch, .send protocol batch ∉ calls) ∧
      (op.batch.writeConcern.isAcknowledged = false →
        .probe ∉ calls ∧ ∀ batch, .send .command batch ∉ calls) ∧
      calls.countP Act.isSend ≤ 1 := by
  obtain ⟨outcome, hends⟩ := exists_returns_of_answers h
  have hasks := (returns_iff_course.1 hends).asks
  refine ⟨outcome, callsOf (op.execute d).acts, ⟨returns_iff.2 hends, hasks⟩, ?same,
    not_pending_iff hends, ?refused, ?unacknowledged, hasks.countP_isSend_le⟩
  case same =>
    intro m hm
    rw [actsIn_of_completes hends hm, callsOf_append, callsOf_telling, List.append_nil]
  case refused =>
    intro c e hc hretry hack hprobe
    exact hasks.not_mem_send_of_refused hc hretry hack hprobe
  case unacknowledged =>
    intro hack
    exact ⟨hasks.not_mem_probe_of_unacknowledged hack,
      hasks.not_mem_command_of_unacknowledged hack⟩

/-- A removal that may be repeated is probed, and is then sent as a command. -/
theorem calls_exact_slow :
    let accepted : Deployment := .slow (.returns (.ok { removed := 1 }))
    accepted.Answers removeFirst.batch ∧
    ∃ calls, removeFirst.Asks accepted calls ∧
      (∀ m, removeFirst.Completes accepted m → callsOf (removeFirst.actsIn accepted m) = calls) ∧
      calls = [.acquire, .probe, .send .command removeFirst.batch] := by
  intro accepted
  have hanswers : accepted.Answers removeFirst.batch := Deployment.answers_slow _ _
  obtain ⟨outcome, calls, ⟨-, hasks⟩, hsame, -⟩ := calls_exact removeFirst accepted hanswers
  exact ⟨hanswers, calls, hasks, hsame, (hsame .waiting trivial).symm⟩

end Operation

end WritePath
