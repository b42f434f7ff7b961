import WritePath.Proofs.Background

namespace WritePath

/-!
# The styles of execution

A write that is waited for, one that is polled and one that tells a callback have the same outcome
and do the same on the way to it, where everyone answers.

* `turnsIn_of_not_mem` — a task whose runtime is not shut down gets all of its turns.
* `Operation.executeWithCallback_of_returns` — with enough of them, it does what waiting does.
* `Operation.styles_agree` — the styles agree.
-/

/-- A task whose runtime is not shut down gets all of its turns. -/
theorem turnsIn_of_not_mem {events : List RuntimeEvent} (h : .shutdown ∉ events) :
    turnsIn events = events.length := by
  induction events with
  | nil => rfl
  | cons e rest ih =>
    obtain ⟨he, hrest⟩ := not_or.1 (mt List.mem_cons.2 h)
    cases e with
    | turn => rw [turnsIn, ih hrest, List.length_cons]
    | shutdown => exact absurd rfl he

/-- What is done sends no batch but the one given. -/
def Act.SendsOnly (batch : WriteBatch) : Act → Prop
  | send _ b => b = batch
  | _ => True

namespace Operation

/-- No batch is sent but that of the operation. -/
theorem eq_batch_of_send {op : Operation} {d : Deployment} {protocol : WireProtocol}
    {batch : WriteBatch} (h : .send protocol batch ∈ (op.execute d).acts) : batch = op.batch := by
  have honly : (op.execute d).Only (Act.SendsOnly op.batch) :=
    only_execute trivial (fun _ => trivial) (fun _ => trivial) trivial (fun _ => rfl) trivial d
  exact honly _ h

/-- An execution in the background that has ended did what the waiting one does, and told its
    callback. -/
theorem executeWithCallback_of_returns {op : Operation} {d : Deployment} {outcome : Outcome}
    {events : List RuntimeEvent} (hends : (op.execute d).ending = .returns outcome)
    (h : op.waits d < turnsIn events) :
    op.executeWithCallback d (some events) = (op.execute d).acts ++ [.callback outcome] := by
  rw [executeWithCallback_some, executeInPolls_of_returns hends h]
  rfl

/-- **The styles agree.** Where everyone answers, the waiting execution has an outcome, and sends no
    batch but its own. However often the calls are found unfinished, the polled execution does the
    same on the way to the same outcome: it is under way in so many polls, and it has ended after
    any greater number. In the background it does so as well, and then tells its callback the
    outcome. -/
theorem styles_agree (op : Operation) (d : Deployment) (h : d.Answers op.batch) :
    ∃ outcome,
      (op.execute d).ending = .returns outcome ∧
      (∀ protocol batch, .send protocol batch ∈ (op.execute d).acts → batch = op.batch) ∧
      (∀ n ≤ op.waits d, ∃ f, (op.executeInPolls d n).progress = .pending f) ∧
      (∀ n, op.waits d < n → op.executeInPolls d n = ⟨(op.execute d).acts, .ready outcome⟩) ∧
      ∀ events, .shutdown ∉ events → op.waits d < events.length →
        op.executeWithCallback d (some events) = (op.execute d).acts ++ [.callback outcome] := by
  obtain ⟨outcome, hends⟩ := exists_returns_of_answers h
  refine ⟨outcome, hends, fun _ _ => eq_batch_of_send, fun n => exists_pending_of_le_waits,
    fun n => executeInPolls_of_returns hends, ?_⟩
  intro events hshut hlt
  rw [← turnsIn_of_not_mem hshut] at hlt
  exact executeWithCallback_of_returns hends hlt

/-- A removal on a slow connection is found unfinished four times in five polls. -/
theorem styles_agree_slow :
    let accepted : Deployment := .slow (.returns (.ok { removed := 1 }))
    accepted.Answers removeFirst.batch ∧ removeFirst.waits accepted = 4 ∧
    ∃ outcome,
      (removeFirst.execute accepted).ending = .returns outcome ∧
      removeFirst.executeInPolls accepted 5
        = ⟨(removeFirst.execute accepted).acts, .ready outcome⟩ ∧
      removeFirst.executeWithCallback accepted (some (.replicate 7 .turn))
        = (removeFirst.execute accepted).acts ++ [.callback outcome] := by
  intro accepted
  have hconnection :
      (Connection.slow (.returns (.ok { removed := 1 }))).Answers removeFirst.batch :=
    ⟨⟨_, rfl⟩, ⟨_, rfl⟩, ⟨_, rfl⟩⟩
  have hanswers : accepted.Answers removeFirst.batch := by
    refine ⟨_, rfl, ?_⟩
    rintro c ⟨⟩
    exact hconnection
  obtain ⟨outcome, hends, -, -, hpolls, hbackground⟩ := styles_agree removeFirst accepted hanswers
  exact ⟨hanswers, rfl, outcome, hends, hpolls 5 (by decide),
    hbackground (.replicate 7 .turn) (by decide) (by decide)⟩

end Operation

end WritePath
