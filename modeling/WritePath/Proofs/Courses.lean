import WritePath.Proofs.Conservation
import WritePath.Proofs.Styles

namespace WritePath

/-!
# The courses of an execution

Where the calls that are made return something, an execution takes one of three courses: no
connection is to be had, or the probe is answered by an error, or the write is sent.

* `Operation.execute_of_unconnected`, `Operation.execute_of_refused`, `Operation.execute_of_sent` —
  what is done in each of them, and what it comes to.
* `Operation.Course` — the three of them; `Operation.returns_iff_course` says that there are no
  others.
* `Operation.Returns` — an outcome is learnt whichever way the execution goes. That of an execution
  that is waited for is (`Operation.returns_iff`).
* `Operation.actsIn_of_completes` — what is done is the same as well, up to telling a callback.
-/

namespace Operation

variable {op : Operation} {d : Deployment} {c : Connection} {outcome : Outcome}

/-! ### What is done in each of them -/

/-- The probe, where there is one. -/
def probes (op : Operation) : List Act :=
  if op.isRetrying then [.probe] else []

theorem execute_of_unconnected {e : Error} (h : d.acquire.ending = .returns (.error e)) :
    op.execute d = ⟨[.acquire], .returns (.error e)⟩ := by
  rw [execute_eq, finishAcquiring, Run.await, h]
  rfl

theorem execute_of_refused {e : Error} (hc : d.acquire.ending = .returns (.ok c))
    (hretrying : op.isRetrying = true) (h : c.probe.ending = .returns (.error e)) :
    op.execute d
      = ⟨[.acquire, .connected c.stream, .probe] ++ (Act.notes e.explain.events ++ [.release]),
          .returns (.error e.explained)⟩ := by
  have huse :
      op.use c = ⟨.probe :: Act.notes e.explain.events, .returns (.refused e.explained)⟩ := by
    rw [use_eq, if_pos hretrying, finishProbing, Run.await, h]
    simp [Run.noted, Run.after]
  rw [execute_eq, finishAcquiring_of_ok hc, huse]
  simp [Run.holding, Run.after, report]

/-- The batch is sent once, and what comes of it is noted before and after the connection is given
    back. -/
theorem execute_of_sent {result : Noted Outcome} (hc : d.acquire.ending = .returns (.ok c))
    (hprobe : op.isRetrying = true → c.probe.ending = .returns (.ok ()))
    (h : (op.send c (op.protocolFor c.stream)).ending = .returns result) :
    op.execute d
      = ⟨[.acquire, .connected c.stream] ++ (op.probes ++
            ([.note (.protocolSelected op.batch c.stream (op.protocolFor c.stream)),
              .send (op.protocolFor c.stream) op.batch] ++
            (Act.notes result.events ++ .release :: Act.notes (op.conclude result.value).events))),
          .returns (op.conclude result.value).value⟩ := by
  have hwrite : op.write c
      = ⟨[.note (.protocolSelected op.batch c.stream (op.protocolFor c.stream)),
            .send (op.protocolFor c.stream) op.batch] ++ Act.notes result.events,
          .returns (.sent result.value)⟩ := by
    rw [write_eq, finishWriting, Run.await, h]
    simp [Run.noted, Run.after]
  -- A probe that was answered adds itself and nothing else.
  have huse : op.use c = (op.write c).after op.probes := by
    rw [use_eq, probes]
    cases hretrying : op.isRetrying with
    | false => rfl
    | true =>
      rw [if_pos rfl, if_pos rfl, finishProbing, Run.await, hprobe hretrying]
      rfl
  rw [execute_eq, finishAcquiring_of_ok hc, huse, hwrite]
  simp [Run.holding, Run.after, report, Run.noted]

/-! ### There are no others -/

/-- A deployment hands out one connection. -/
theorem eq_of_acquire {c c' : Connection} (h : d.acquire.ending = .returns (.ok c))
    (h' : d.acquire.ending = .returns (.ok c')) : c = c' := by
  rw [h] at h'
  cases h'
  rfl

/-- How an execution comes to an outcome. -/
inductive Course (op : Operation) (d : Deployment) : Outcome → Prop where
  /-- No connection is to be had. -/
  | unconnected {e : Error} (h : d.acquire.ending = .returns (.error e)) : Course op d (.error e)
  /-- The probe is answered by an error, and the write is not sent. -/
  | refused {c : Connection} {e : Error} (hc : d.acquire.ending = .returns (.ok c))
      (hretrying : op.isRetrying = true) (h : c.probe.ending = .returns (.error e)) :
      Course op d (.error e.explained)
  /-- The write is sent. -/
  | sent {c : Connection} {result : Noted Outcome} (hc : d.acquire.ending = .returns (.ok c))
      (hprobe : op.isRetrying = true → c.probe.ending = .returns (.ok ()))
      (h : (op.send c (op.protocolFor c.stream)).ending = .returns result) :
      Course op d (op.conclude result.value).value

theorem Course.ending_execute (h : op.Course d outcome) :
    (op.execute d).ending = .returns outcome := by
  cases h with
  | unconnected h => rw [execute_of_unconnected h]
  | refused hc hretrying h => rw [execute_of_refused hc hretrying h]
  | sent hc hprobe h => rw [execute_of_sent hc hprobe h]

/-- A write that returns something was sent by a call that did. -/
theorem exists_send_of_write {use : Use} (h : (op.write c).ending = .returns use) :
    ∃ result, (op.send c (op.protocolFor c.stream)).ending = .returns result := by
  rw [write_eq] at h
  have hfinish : (op.finishWriting c (op.protocolFor c.stream)).ending = .returns use := h
  obtain ⟨result, hresult, -⟩ := Run.ending_bind_eq_returns_iff.1 hfinish
  exact ⟨result, hresult⟩

theorem exists_course (h : (op.execute d).ending = .returns outcome) :
    ∃ outcome', op.Course d outcome' := by
  cases ha : d.acquire.ending with
  | panics | hangs =>
    rw [execute_eq, finishAcquiring, Run.await, ha] at h
    cases h
  | returns answer =>
    cases answer with
    | error e => exact ⟨_, .unconnected ha⟩
    | ok c =>
      rw [execute_eq, finishAcquiring_of_ok ha] at h
      obtain ⟨use, huse, -⟩ := Run.ending_bind_eq_returns_iff.1 h
      rw [Run.ending_holding, use_eq] at huse
      by_cases hretrying : op.isRetrying = true
      · -- The probe returned something, and if that was no error, so did the write after it.
        rw [if_pos hretrying] at huse
        obtain ⟨answer, hanswer, hrest⟩ := Run.ending_bind_eq_returns_iff.1 huse
        cases answer with
        | error e => exact ⟨_, .refused ha hretrying hanswer⟩
        | ok _ =>
          obtain ⟨result, hresult⟩ := exists_send_of_write hrest
          exact ⟨_, .sent ha (fun _ => hanswer) hresult⟩
      · rw [if_neg hretrying] at huse
        obtain ⟨result, hresult⟩ := exists_send_of_write huse
        exact ⟨_, .sent ha (fun hr => absurd hr hretrying) hresult⟩

/-- **Courses.** An execution that is waited for has an outcome exactly where it comes to it in one
    of the three ways. -/
theorem returns_iff_course :
    (op.execute d).ending = .returns outcome ↔ op.Course d outcome := by
  refine ⟨fun h => ?_, Course.ending_execute⟩
  obtain ⟨outcome', hcourse⟩ := exists_course h
  have hsame := h.symm.trans hcourse.ending_execute
  cases hsame
  exact hcourse

/-! ### Whichever way it goes -/

/-- An execution that goes in some way gets as many polls as it takes, before it is cut off. -/
def Completes (op : Operation) (d : Deployment) : Manner → Prop
  | .waiting => True
  | .polled n | .discarded n => op.waits d < n
  | .background none => False
  | .background (some events) => op.waits d < turnsIn events

/-- Whoever executes a write in some way learns an outcome. -/
def Delivers (op : Operation) (d : Deployment) (outcome : Outcome) : Manner → Prop
  | .waiting => (op.execute d).ending = .returns outcome
  | .polled n | .discarded n => (op.executeInPolls d n).progress = .ready outcome
  | .background environment => op.callbacks d environment = [outcome]

/-- Whichever way an execution goes, an outcome is learnt. -/
def Returns (op : Operation) (d : Deployment) (outcome : Outcome) : Prop :=
  ∀ m, op.Completes d m → op.Delivers d outcome m

theorem callbacks_of_returns {events : List RuntimeEvent}
    (hends : (op.execute d).ending = .returns outcome) (h : op.waits d < turnsIn events) :
    op.callbacks d (some events) = [outcome] := by
  rw [callbacks_some, executeInPolls_of_returns hends h]
  rfl

/-- **Outcomes.** Every way of execution has the outcome of the one that is waited for. -/
theorem returns_iff : op.Returns d outcome ↔ (op.execute d).ending = .returns outcome := by
  refine ⟨fun h => h .waiting trivial, fun hends m hm => ?_⟩
  cases m with
  | waiting => exact hends
  | polled n | discarded n =>
    show (op.executeInPolls d n).progress = _
    rw [executeInPolls_of_returns hends hm]
  | background environment =>
    cases environment with
    | none => exact absurd hm id
    | some events => exact callbacks_of_returns hends hm

theorem Course.returns (h : op.Course d outcome) : op.Returns d outcome :=
  returns_iff.2 h.ending_execute

theorem Returns.course (h : op.Returns d outcome) : op.Course d outcome :=
  returns_iff_course.1 (returns_iff.1 h)

/-- What is done beside the execution itself: a callback is told, where there is one. -/
def telling (outcome : Outcome) : Manner → List Act
  | .waiting | .polled _ | .discarded _ => []
  | .background _ => [.callback outcome]

theorem actsIn_of_completes {m : Manner} (hends : (op.execute d).ending = .returns outcome)
    (h : op.Completes d m) : op.actsIn d m = (op.execute d).acts ++ telling outcome m := by
  cases m with
  | waiting => exact (List.append_nil _).symm
  | polled n =>
    rw [actsIn, executeInPolls_of_returns hends h]
    exact (List.append_nil _).symm
  | discarded n =>
    rw [actsIn, executeInPolls_of_returns hends h]
    exact (List.append_nil _).symm
  | background environment =>
    cases environment with
    | none => exact absurd h id
    | some events => exact executeWithCallback_of_returns hends h

/-- An execution that is polled is under way in just as many polls as find a call unfinished, if no
    call hangs. -/
theorem not_pending_iff (hends : (op.execute d).ending = .returns outcome) (n : Nat) :
    (∀ f, (op.executeInPolls d n).progress ≠ .pending f) ↔ op.waits d < n := by
  constructor
  · intro hnot
    refine Nat.lt_of_not_le fun hle => ?_
    obtain ⟨f, hf⟩ := exists_pending_of_le_waits hle
    exact hnot f hf
  · exact not_pending_of_waits_lt (by rw [hends]; exact nofun)

end Operation

end WritePath
