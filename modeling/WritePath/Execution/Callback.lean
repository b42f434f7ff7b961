import WritePath.Execution.Future

namespace WritePath

/-!
# Executing for a callback

In this style an execution runs in the background and tells a callback how it ended. The callback
is in the keeping of a guard, which invokes it when the execution completes, or when it is discarded
before.

* `Guard`, `GuardStep` — the guard and what happens to it.
* `Task`, `RuntimeEvent` — an execution in the background and what happens to it.
* `Operation.executeWithCallback` — the execution.
-/

/-- The outcome of an execution that was interrupted. -/
def Interruption.outcome (cause : Interruption) : Outcome :=
  .error (Error.ofKind (.internal cause))

/-! ### The guard -/

/-- Whether the callback has still to be invoked. -/
inductive Guard where
  | armed
  | spent
  deriving DecidableEq, Repr

/-- What happens to a guard. Whoever completes it discards it as well, and so does a callback
that panics. -/
inductive GuardStep where
  | complete (outcome : Outcome)
  | discard

namespace Guard

/-- Invokes the callback if it has still to be. -/
def fire (outcome : Outcome) : Guard → List Act × Guard
  | armed => ([.callback outcome], spent)
  | spent => ([], spent)

/-- What a step does. A guard that is discarded too early reports that the write was abandoned. -/
def step (g : Guard) : GuardStep → List Act × Guard
  | .complete outcome => g.fire outcome
  | .discard => g.fire Interruption.abandoned.outcome

/-- What several steps do. -/
def run (g : Guard) : List GuardStep → List Act × Guard
  | [] => ([], g)
  | s :: rest =>
    let (acts, g₁) := g.step s
    let (more, g₂) := g₁.run rest
    (acts ++ more, g₂)

/-- Completes the guard, which is then discarded. -/
def finish (g : Guard) (outcome : Outcome) : List Act × Guard :=
  g.run [.complete outcome, .discard]

end Guard

/-! ### The task -/

/-- An execution in the background. -/
structure Task where
  future : Future
  guard : Guard

/-- What happens to a task. -/
inductive RuntimeEvent where
  /-- It gets a turn. -/
  | turn
  /-- What it runs on is shut down. -/
  | shutdown
  deriving DecidableEq, Repr

namespace Task

/-- A task before its first turn. -/
def spawned : Task :=
  ⟨.unstarted, .armed⟩

/-- A turn of a task: the execution is polled, and if it ends the callback learns how. -/
def turn (op : Operation) (d : Deployment) (t : Task) : List Act × Task :=
  match t.guard with
  | .spent => ([], t)
  | .armed =>
    let s := t.future.poll op d
    match s.progress with
    | .pending f => (s.acts, { t with future := f })
    | .ready outcome =>
      let (acts, g) := t.guard.finish outcome
      (s.acts ++ acts, ⟨.finished, g⟩)
    | .panicked =>
      let (acts, g) := t.guard.finish Interruption.panicked.outcome
      (s.acts ++ acts, ⟨.finished, g⟩)

/-- The end of a task whose runtime is shut down: the execution is discarded, and then the guard. -/
def shutdown (t : Task) : List Act × Task :=
  let (acts, g) := t.guard.step .discard
  (t.future.discard ++ acts, ⟨.finished, g⟩)

/-- What happens to a task in an event. -/
def step (op : Operation) (d : Deployment) (t : Task) : RuntimeEvent → List Act × Task
  | .turn => t.turn op d
  | .shutdown => t.shutdown

/-- What happens to a task in several events. -/
def run (op : Operation) (d : Deployment) (t : Task) : List RuntimeEvent → List Act × Task
  | [] => ([], t)
  | e :: rest =>
    let (acts, t₁) := t.step op d e
    let (more, t₂) := t₁.run op d rest
    (acts ++ more, t₂)

end Task

namespace Operation

/-- Executes a write in the background and tells a callback how it ended. Without a runtime the
callback learns at once that there is none; otherwise it depends on what happens to the runtime. -/
def executeWithCallback (op : Operation) (d : Deployment) : Option (List RuntimeEvent) → List Act
  | none => (Guard.armed.finish Interruption.noRuntime.outcome).1
  | some events => (Task.spawned.run op d events).1

end Operation

end WritePath
