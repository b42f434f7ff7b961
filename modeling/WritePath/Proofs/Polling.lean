import WritePath.Execution.Future
import WritePath.Proofs.Runs

namespace WritePath

/-!
# Polling does what waiting does

An execution that is polled rests at a call that has not ended. What it would still do, if someone
waited for it from there on, is the end of the same run that `Operation.execute` is.

* `Future.rest` — what is left to do where an execution rests.
* `Future.waitsLeft` — the number of polls that will find a call unfinished.
* `Future.begins_poll` — a poll does the first part of what is left, and leaves one wait less.
* `Future.rest_polls`, `Future.exists_pending_of_le`, `Future.not_pending_of_lt` — several polls do
  so as well; up to the number of waits the execution is under way, and with more it has ended.
* `Operation.executeInPolls_of_returns` — it has then ended as the waiting one does.
-/

/-! ### What is left to do -/

/-- What is left to do where an execution rests. There is nothing left of one that has ended, and
    whoever goes on with it panics. -/
def Future.rest (op : Operation) (d : Deployment) : Future → Run Outcome
  | unstarted => op.execute d
  | acquiring _ => op.finishAcquiring d
  | probing c _ => (op.finishProbing c).holding >>= op.report
  | writing c protocol _ => (op.finishWriting c protocol).holding >>= op.report
  | finished => ⟨[], .panics⟩

/-- What is done in a step, and what is left to do after it. -/
def Step.rest (op : Operation) (d : Deployment) (s : Step) : Run Outcome :=
  match s.progress with
  | .pending f => (f.rest op d).after s.acts
  | .ready outcome => ⟨s.acts, .returns outcome⟩
  | .panicked => ⟨s.acts, .panics⟩

/-! ### How many polls it takes -/

namespace Operation

/-- The number of polls that find the write unfinished. -/
def writeWaits (op : Operation) (c : Connection) : Nat :=
  (op.send c (op.protocolFor c.stream)).waits

/-- The number of polls that find a call unfinished once the probe has ended. -/
def probedWaits (op : Operation) (c : Connection) : Nat :=
  match c.probe.ending with
  | .returns (.ok ()) => op.writeWaits c
  | _ => 0

/-- The number of polls that find a call on a connection unfinished. -/
def useWaits (op : Operation) (c : Connection) : Nat :=
  if op.isRetrying then c.probe.waits + op.probedWaits c else op.writeWaits c

/-- The number of polls that find a call unfinished once the acquisition has ended. -/
def acquiredWaits (op : Operation) (d : Deployment) : Nat :=
  match d.acquire.ending with
  | .returns (.ok c) => op.useWaits c
  | _ => 0

/-- The number of polls that find a call unfinished in the whole execution. -/
def waits (op : Operation) (d : Deployment) : Nat :=
  d.acquire.waits + op.acquiredWaits d

end Operation

/-- The number of polls that will find a call unfinished. -/
def Future.waitsLeft (op : Operation) (d : Deployment) : Future → Nat
  | unstarted => op.waits d
  | acquiring waits => waits + op.acquiredWaits d
  | probing c waits => waits + op.probedWaits c
  | writing _ _ waits => waits
  | finished => 0

/-- A step leaves an execution under way as the first of so many that do. Where none was expected
    to, only a call that hangs can do so. -/
def Step.IsFirstOf (op : Operation) (d : Deployment) (s : Step) (waits : Nat) : Prop :=
  match s.progress with
  | .pending f => f.waitsLeft op d + 1 = waits ∨ waits = 0 ∧ (f.rest op d).ending = .hangs
  | .ready _ | .panicked => waits = 0

/-- A step does the first part of a run in which calls are found unfinished so many times. -/
structure Step.Begins (op : Operation) (d : Deployment) (s : Step) (r : Run Outcome) (waits : Nat) :
    Prop where
  rest_eq : s.rest op d = r
  isFirstOf : s.IsFirstOf op d waits

theorem Step.rest_after (op : Operation) (d : Deployment) (s : Step) (acts : List Act) :
    (s.after acts).rest op d = (s.rest op d).after acts := by
  obtain ⟨done, progress⟩ := s
  cases progress with
  | pending f => exact (Run.after_after ..).symm
  | ready outcome | panicked => rfl

theorem Step.Begins.after {op : Operation} {d : Deployment} {s : Step} {r : Run Outcome}
    {waits : Nat} (h : s.Begins op d r waits) (acts : List Act) :
    (s.after acts).Begins op d (r.after acts) waits where
  rest_eq := by rw [rest_after, h.rest_eq]
  isFirstOf := h.isFirstOf

/-- A step that leaves the execution where it was does the first part of anything that hangs. -/
theorem Step.begins_of_hangs {op : Operation} {d : Deployment} {f : Future} {r : Run Outcome}
    (hr : f.rest op d = r) (h : r.ending = .hangs) : Step.Begins op d ⟨[], .pending f⟩ r 0 where
  rest_eq := hr
  isFirstOf := .inr ⟨rfl, hr ▸ h⟩

/-- A step in which a run ends does all of it. -/
theorem Step.eq_of_rest_returns {op : Operation} {d : Deployment} {s : Step} {r : Run Outcome}
    {outcome : Outcome} (hnot : ∀ f, s.progress ≠ .pending f) (hrest : s.rest op d = r)
    (h : r.ending = .returns outcome) : s = ⟨r.acts, .ready outcome⟩ := by
  obtain ⟨acts, progress⟩ := s
  subst hrest
  cases progress with
  | pending f => exact absurd rfl (hnot f)
  | ready o =>
    cases h
    rfl
  | panicked => cases h

namespace Call

variable {α : Type} {c : Call α}

theorem poll_of_returns {a : α} (h : c.ending = .returns a) : c.poll 0 = .ready a := by
  rw [poll, h]

theorem poll_of_panics (h : c.ending = .panics) : c.poll 0 = .panicked := by
  rw [poll, h]

theorem poll_of_hangs (h : c.ending = .hangs) : c.poll 0 = .pending 0 := by
  rw [poll, h]

end Call

namespace Future

theorem begins_pollWriting (op : Operation) (d : Deployment) (c : Connection)
    (protocol : WireProtocol) (waits : Nat) :
    (pollWriting op c protocol waits).Begins op d ((writing c protocol waits).rest op d) waits := by
  cases waits with
  | succ n => exact ⟨rfl, .inl rfl⟩
  | zero =>
    cases h : (op.send c protocol).ending with
    | hangs =>
      rw [pollWriting, Call.poll_of_hangs h]
      refine Step.begins_of_hangs rfl ?_
      rw [rest, Operation.finishWriting, Run.await, h]
      rfl
    | panics =>
      rw [pollWriting, Call.poll_of_panics h, rest, Operation.finishWriting, Run.await, h]
      exact ⟨rfl, rfl⟩
    | returns result =>
      rw [pollWriting, Call.poll_of_returns h, rest, Operation.finishWriting, Run.await, h]
      refine ⟨?_, rfl⟩
      simp [Step.rest, Run.noted, Run.holding, Operation.report]

theorem begins_startWriting (op : Operation) (d : Deployment) (c : Connection) :
    (startWriting op c).Begins op d ((op.write c).holding >>= op.report) (op.writeWaits c) := by
  rw [Operation.write_eq, Run.holding_after, Run.after_bind]
  exact (begins_pollWriting op d c _ _).after _

theorem begins_pollProbing (op : Operation) (d : Deployment) (c : Connection) (waits : Nat) :
    (pollProbing op c waits).Begins op d ((probing c waits).rest op d)
      (waits + op.probedWaits c) := by
  cases waits with
  | succ n => exact ⟨rfl, .inl (Nat.add_right_comm ..)⟩
  | zero =>
    rw [Nat.zero_add, Operation.probedWaits]
    cases h : c.probe.ending with
    | hangs =>
      rw [pollProbing, Call.poll_of_hangs h]
      refine Step.begins_of_hangs rfl ?_
      rw [rest, Operation.finishProbing, Run.await, h]
      rfl
    | panics =>
      rw [pollProbing, Call.poll_of_panics h, rest, Operation.finishProbing, Run.await, h]
      exact ⟨rfl, rfl⟩
    | returns answer =>
      rw [pollProbing, Call.poll_of_returns h, rest, Operation.finishProbing, Run.await, h]
      cases answer with
      | error e =>
        refine ⟨?_, rfl⟩
        simp [Step.rest, Run.noted, Run.holding, Operation.report]
      | ok _ => exact begins_startWriting op d c

theorem begins_startUsing (op : Operation) (d : Deployment) (c : Connection) :
    (startUsing op c).Begins op d ((op.use c).holding >>= op.report) (op.useWaits c) := by
  rw [startUsing, Operation.use_eq, Operation.useWaits]
  cases op.isRetrying with
  | false => exact begins_startWriting op d c
  | true =>
    rw [if_pos rfl, if_pos rfl, if_pos rfl, Run.holding_after, Run.after_bind]
    exact (begins_pollProbing op d c _).after _

theorem begins_pollAcquiring (op : Operation) (d : Deployment) (waits : Nat) :
    (pollAcquiring op d waits).Begins op d ((acquiring waits).rest op d)
      (waits + op.acquiredWaits d) := by
  cases waits with
  | succ n => exact ⟨rfl, .inl (Nat.add_right_comm ..)⟩
  | zero =>
    rw [Nat.zero_add, Operation.acquiredWaits]
    cases h : d.acquire.ending with
    | hangs =>
      rw [pollAcquiring, Call.poll_of_hangs h]
      refine Step.begins_of_hangs rfl ?_
      rw [rest, Operation.finishAcquiring, Run.await, h]
      rfl
    | panics =>
      rw [pollAcquiring, Call.poll_of_panics h, rest, Operation.finishAcquiring, Run.await, h]
      exact ⟨rfl, rfl⟩
    | returns answer =>
      rw [pollAcquiring, Call.poll_of_returns h, rest, Operation.finishAcquiring, Run.await, h]
      cases answer with
      | error e => exact ⟨rfl, rfl⟩
      | ok c => exact (begins_startUsing op d c).after _

/-- **One poll.** A poll does the first part of what is left. If it finds a call unfinished, it
    leaves one such poll less. -/
theorem begins_poll (op : Operation) (d : Deployment) (f : Future) :
    (f.poll op d).Begins op d (f.rest op d) (f.waitsLeft op d) := by
  cases f with
  | unstarted =>
    rw [rest, Operation.execute_eq]
    exact (begins_pollAcquiring op d _).after _
  | acquiring waits => exact begins_pollAcquiring op d waits
  | probing c waits => exact begins_pollProbing op d c waits
  | writing c protocol waits => exact begins_pollWriting op d c protocol waits
  | finished => exact ⟨rfl, rfl⟩

/-! ### Several polls -/

/-- **Several polls.** They do the first part of what is left, whether the execution ends in them or
    not. -/
theorem rest_polls (op : Operation) (d : Deployment) (n : Nat) (f : Future) :
    (polls op d n f).rest op d = f.rest op d := by
  induction n generalizing f with
  | zero => rfl
  | succ n ih =>
    -- The other polls begin with what the first one leaves to do.
    rw [polls, ← (begins_poll op d f).rest_eq]
    generalize f.poll op d = s
    obtain ⟨acts, progress⟩ := s
    cases progress with
    | pending g => exact (Step.rest_after op d _ acts).trans (congrArg (Run.after · acts) (ih g))
    | ready outcome | panicked => rfl

/-- As long as there are waits left, a poll finds a call unfinished. -/
theorem exists_pending_of_le {op : Operation} {d : Deployment} {n : Nat} {f : Future}
    (h : n ≤ f.waitsLeft op d) : ∃ g, (polls op d n f).progress = .pending g := by
  induction n generalizing f with
  | zero => exact ⟨f, rfl⟩
  | succ n ih =>
    have hfirst := (begins_poll op d f).isFirstOf
    rw [polls]
    generalize f.poll op d = s at hfirst
    obtain ⟨acts, progress⟩ := s
    cases progress with
    | pending g =>
      -- A poll that was expected to find a call unfinished leaves one wait less.
      have hg : n ≤ g.waitsLeft op d := by
        rcases hfirst with hg | ⟨hzero, -⟩ <;> omega
      exact ih hg
    | ready outcome | panicked => exact absurd (show f.waitsLeft op d = 0 from hfirst) (by omega)

/-- Once there are none, an execution in which nothing hangs ends. -/
theorem not_pending_of_lt {op : Operation} {d : Deployment} {n : Nat} {f : Future}
    (hends : (f.rest op d).ending ≠ .hangs) (h : f.waitsLeft op d < n) (g : Future) :
    (polls op d n f).progress ≠ .pending g := by
  induction n generalizing f with
  | zero => omega
  | succ n ih =>
    obtain ⟨hrest, hfirst⟩ := begins_poll op d f
    rw [← hrest] at hends
    rw [polls]
    generalize f.poll op d = s at hends hfirst
    obtain ⟨acts, progress⟩ := s
    cases progress with
    | pending f' =>
      have hf' : f'.waitsLeft op d < n := by
        rcases hfirst with hf' | ⟨-, hhangs⟩
        · omega
        · -- Without any wait left, only a call that hangs is found unfinished.
          exact absurd hhangs hends
      exact ih hends hf'
    | ready outcome | panicked => exact nofun

end Future

/-! ### The whole execution -/

namespace Operation

variable {op : Operation} {d : Deployment} {n : Nat}

theorem rest_executeInPolls (op : Operation) (d : Deployment) (n : Nat) :
    (op.executeInPolls d n).rest op d = op.execute d :=
  Future.rest_polls op d n .unstarted

/-- An execution that is polled does nothing that the waiting one would not do. -/
theorem acts_executeInPolls_isPrefix (op : Operation) (d : Deployment) (n : Nat) :
    (op.executeInPolls d n).acts <+: (op.execute d).acts := by
  rw [← rest_executeInPolls op d n]
  generalize op.executeInPolls d n = s
  obtain ⟨acts, progress⟩ := s
  cases progress with
  | pending f => exact List.prefix_append ..
  | ready outcome | panicked => exact List.prefix_rfl

/-- If it ends, it ends as the waiting one does. -/
theorem execute_of_ready {outcome : Outcome}
    (h : (op.executeInPolls d n).progress = .ready outcome) :
    op.execute d = ⟨(op.executeInPolls d n).acts, .returns outcome⟩ := by
  rw [← rest_executeInPolls op d n, Step.rest, h]

/-- Up to the number of waits, it is under way. -/
theorem exists_pending_of_le_waits (h : n ≤ op.waits d) :
    ∃ f, (op.executeInPolls d n).progress = .pending f :=
  Future.exists_pending_of_le h

theorem not_pending_of_waits_lt (hends : (op.execute d).ending ≠ .hangs) (h : op.waits d < n)
    (f : Future) : (op.executeInPolls d n).progress ≠ .pending f :=
  Future.not_pending_of_lt (f := .unstarted) hends h f

/-- **Ending.** With more polls, it has ended if the waiting one ends. -/
theorem executeInPolls_of_returns {outcome : Outcome}
    (hends : (op.execute d).ending = .returns outcome) (h : op.waits d < n) :
    op.executeInPolls d n = ⟨(op.execute d).acts, .ready outcome⟩ :=
  Step.eq_of_rest_returns (not_pending_of_waits_lt (by rw [hends]; exact nofun) h)
    (rest_executeInPolls op d n) hends

end Operation

end WritePath
