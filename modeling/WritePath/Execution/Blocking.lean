import WritePath.Execution.Stages

namespace WritePath

/-!
# Executing and waiting

Whoever executes a write in this style waits for each call to end.

* `Run` — what is done, and how it ends.
* `Run.holding` — a connection is given back however its use ends, unless that never ends.
* `Operation.execute` — the execution.
-/

/-- What is done, and how it ends. -/
structure Run (α : Type) where
  acts : List Act
  ending : Ending α

namespace Run

variable {α β : Type}

/-- Goes on with the value of a run that returns one. -/
def andThen (r : Run α) (next : α → Run β) : Run β :=
  match r.ending with
  | .returns a => ⟨r.acts ++ (next a).acts, (next a).ending⟩
  | .panics => ⟨r.acts, .panics⟩
  | .hangs => ⟨r.acts, .hangs⟩

instance : Monad Run where
  pure a := ⟨[], .returns a⟩
  bind := andThen

/-- Something is done. -/
def act (a : Act) : Run Unit :=
  ⟨[a], .returns ()⟩

/-- Waits for a call. -/
def await (c : Call α) : Run α :=
  ⟨[], c.ending⟩

/-- The value that events were noted on the way to. -/
def noted (n : Noted α) : Run α :=
  ⟨Act.notes n.events, .returns n.value⟩

/-- Gives a connection back after its use. -/
def holding (r : Run α) : Run α :=
  match r.ending with
  | .hangs => r
  | _ => { r with acts := r.acts ++ [.release] }

@[simp] theorem pure_eq (a : α) : (pure a : Run α) = ⟨[], .returns a⟩ := rfl

@[simp] theorem bind_returns (acts : List Act) (a : α) (next : α → Run β) :
    (Run.mk acts (.returns a) >>= next) = ⟨acts ++ (next a).acts, (next a).ending⟩ :=
  rfl

@[simp] theorem bind_panics (acts : List Act) (next : α → Run β) :
    (Run.mk acts .panics >>= next) = ⟨acts, .panics⟩ :=
  rfl

@[simp] theorem bind_hangs (acts : List Act) (next : α → Run β) :
    (Run.mk acts .hangs >>= next) = ⟨acts, .hangs⟩ :=
  rfl

end Run

/-- What comes of using a connection. -/
inductive Use where
  /-- The write was not sent. -/
  | refused (e : Error)
  /-- The write was sent. -/
  | sent (outcome : Outcome)

namespace Operation

/-- Sends the write. -/
def write (op : Operation) (c : Connection) : Run Use := do
  let protocol := op.protocolFor c.stream
  Run.act (.note (.protocolSelected op.batch c.stream protocol))
  Run.act (.send protocol op.batch)
  let result ← Run.await (op.send c protocol)
  let outcome ← Run.noted result
  return .sent outcome

/-- Sends the write if it may be repeated, or if it does not have to be. -/
def use (op : Operation) (c : Connection) : Run Use := do
  if op.isRetrying then
    Run.act .probe
    match ← Run.await c.probe with
    | .error e =>
      let explained ← Run.noted e.explain
      return .refused explained
    | .ok () => op.write c
  else op.write c

/-- Executes a write and waits for it. The connection is given back before the outcome is
reported. -/
def execute (op : Operation) (d : Deployment) : Run Outcome := do
  Run.act .acquire
  match ← Run.await d.acquire with
  | .error e => return .error e
  | .ok c =>
    Run.act (.connected c.stream)
    match ← (op.use c).holding with
    | .refused e => return .error e
    | .sent outcome => Run.noted (op.conclude outcome)

end Operation

end WritePath
