import WritePath.Execution.Callback
import WritePath.Proofs.Polling

namespace WritePath

/-!
# Telling a callback

A guard invokes its callback in the first step that it takes and never again, and the task that
keeps it takes no step with it before the execution ends or is discarded. So whatever happens to a
task comes to this: the turns before a shutdown are polls, and the callback learns what they come
to.

* `Guard.run_cons` — the steps of a guard.
* `Step.inBackground` — what several polls and perhaps a shutdown come to in the background.
* `Task.run_armed` — whatever happens to a task comes to that.
* `Operation.callbacks` — the outcomes that callbacks learn.
* `Operation.callback_once` — there is one of them, and which.
-/

/-! ### The guard -/

/-- The outcome that a step would have the callback learn. -/
def GuardStep.outcome : GuardStep → Outcome
  | complete outcome => outcome
  | discard => Interruption.abandoned.outcome

namespace Guard

theorem run_eq (g : Guard) (s : GuardStep) (rest : List GuardStep) :
    g.run (s :: rest)
      = ((g.step s).1 ++ ((g.step s).2.run rest).1, ((g.step s).2.run rest).2) :=
  rfl

theorem step_armed (s : GuardStep) : armed.step s = ([.callback s.outcome], spent) := by
  cases s <;> rfl

theorem step_spent (s : GuardStep) : spent.step s = ([], spent) := by
  cases s <;> rfl

/-- A callback that has been invoked is not invoked again. -/
theorem run_spent (steps : List GuardStep) : spent.run steps = ([], spent) := by
  induction steps with
  | nil => rfl
  | cons s rest ih => rw [run_eq, step_spent, ih, List.append_nil]

/-- **One invocation.** Whatever happens to a guard, its callback is invoked in the first step. -/
theorem run_cons (s : GuardStep) (rest : List GuardStep) :
    armed.run (s :: rest) = ([.callback s.outcome], spent) := by
  rw [run_eq, step_armed, run_spent, List.append_nil]

theorem finish_armed (outcome : Outcome) :
    armed.finish outcome = ([.callback outcome], spent) :=
  run_cons (.complete outcome) [.discard]

end Guard

/-! ### The task -/

/-- A task of which nothing is left. -/
def Task.ended : Task :=
  ⟨.finished, .spent⟩

/-- What the polls of an execution come to in the background, and perhaps a shutdown after them. The
    callback learns the outcome, or what was in its way. -/
def Step.inBackground (s : Step) (isShutDown : Bool) : List Act × Task :=
  match s.progress with
  | .ready outcome => (s.acts ++ [.callback outcome], .ended)
  | .panicked => (s.acts ++ [.callback Interruption.panicked.outcome], .ended)
  | .pending f =>
    if isShutDown then
      (s.acts ++ (f.discard ++ [.callback Interruption.abandoned.outcome]), .ended)
    else (s.acts, ⟨f, .armed⟩)

theorem Step.inBackground_after (s : Step) (acts : List Act) (isShutDown : Bool) :
    (s.after acts).inBackground isShutDown
      = (acts ++ (s.inBackground isShutDown).1, (s.inBackground isShutDown).2) := by
  obtain ⟨done, progress⟩ := s
  cases progress with
  | pending f => cases isShutDown <;> simp [after, inBackground]
  | ready outcome | panicked => simp [after, inBackground]

/-- The number of turns that a task gets before its runtime is shut down. -/
def turnsIn : List RuntimeEvent → Nat
  | .turn :: rest => turnsIn rest + 1
  | .shutdown :: _ | [] => 0

namespace Task

variable {op : Operation} {d : Deployment}

theorem run_eq (t : Task) (e : RuntimeEvent) (rest : List RuntimeEvent) :
    t.run op d (e :: rest)
      = ((t.step op d e).1 ++ ((t.step op d e).2.run op d rest).1,
        ((t.step op d e).2.run op d rest).2) :=
  rfl

theorem turn_armed (f : Future) :
    (⟨f, .armed⟩ : Task).turn op d = (f.poll op d).inBackground false := by
  rw [turn, Step.inBackground]
  generalize f.poll op d = s
  obtain ⟨acts, progress⟩ := s
  cases progress with
  | pending g => rfl
  | ready outcome | panicked => rw [Guard.finish_armed]; rfl

theorem shutdown_armed (f : Future) :
    (⟨f, .armed⟩ : Task).shutdown = (Step.mk [] (.pending f)).inBackground true := by
  rw [shutdown, Guard.step_armed]
  rfl

/-- Nothing happens to a task of which nothing is left. -/
theorem run_ended (events : List RuntimeEvent) : ended.run op d events = ([], ended) := by
  induction events with
  | nil => rfl
  | cons e rest ih =>
    have hstep : ended.step op d e = ([], ended) := by cases e <;> rfl
    rw [run_eq, hstep, ih, List.append_nil]

/-- **Events.** Whatever happens to a task comes to the polls in the turns before a shutdown, and to
    the shutdown if there is one. -/
theorem run_armed (f : Future) (events : List RuntimeEvent) :
    (⟨f, .armed⟩ : Task).run op d events
      = (f.polls op d (turnsIn events)).inBackground (decide (.shutdown ∈ events)) := by
  induction events generalizing f with
  | nil => rfl
  | cons e rest ih =>
    rw [run_eq]
    cases e with
    | shutdown =>
      -- The shutdown leaves nothing of the task for the other events.
      have hended : ((⟨f, .armed⟩ : Task).step op d .shutdown).2 = ended := by
        rw [step, shutdown_armed]
        rfl
      rw [hended, run_ended, List.append_nil, step, shutdown_armed]
      simp [turnsIn, Future.polls, Step.inBackground]
    | turn =>
      have hshut : decide (RuntimeEvent.shutdown ∈ RuntimeEvent.turn :: rest)
          = decide (.shutdown ∈ rest) := by simp
      rw [turnsIn, Future.polls, hshut, step, turn_armed]
      -- The first poll decides whether there is a task left for the other events.
      generalize f.poll op d = s
      obtain ⟨acts, progress⟩ := s
      cases progress with
      | pending g =>
        show (acts ++ ((⟨g, .armed⟩ : Task).run op d rest).1,
          ((⟨g, .armed⟩ : Task).run op d rest).2) = _
        rw [ih g]
        exact (Step.inBackground_after _ acts _).symm
      | ready outcome | panicked =>
        show (_ ++ (ended.run op d rest).1, (ended.run op d rest).2) = _
        rw [run_ended, List.append_nil]
        rfl

end Task

/-! ### What a callback learns -/

/-- What the callback learns when several polls, and perhaps a shutdown, have come to an end. -/
def Step.told (s : Step) (isShutDown : Bool) : Option Outcome :=
  match s.progress with
  | .ready outcome => some outcome
  | .panicked => some Interruption.panicked.outcome
  | .pending _ => if isShutDown then some Interruption.abandoned.outcome else none

theorem Future.callbacks_discard (f : Future) : f.discard.filterMap Act.callback? = [] := by
  cases f <;> rfl

/-- Where the execution itself tells no callback anything, the callback learns one thing at most. -/
theorem Step.callbacks_inBackground {s : Step} (h : s.acts.filterMap Act.callback? = [])
    (isShutDown : Bool) :
    (s.inBackground isShutDown).1.filterMap Act.callback? = (s.told isShutDown).toList := by
  obtain ⟨acts, progress⟩ := s
  have htell (more : List Act) (hmore : more.filterMap Act.callback? = []) (outcome : Outcome) :
      (acts ++ (more ++ [Act.callback outcome])).filterMap Act.callback? = [outcome] := by
    rw [List.filterMap_append, List.filterMap_append, h, hmore]
    rfl
  cases progress with
  | ready outcome => exact htell [] rfl outcome
  | panicked => exact htell [] rfl _
  | pending f =>
    cases isShutDown with
    | false => exact h
    | true => exact htell f.discard f.callbacks_discard _

namespace Operation

/-- What a callback sees of an execution in the background comes to the same. -/
theorem executeWithCallback_some (op : Operation) (d : Deployment) (events : List RuntimeEvent) :
    op.executeWithCallback d (some events)
      = ((op.executeInPolls d (turnsIn events)).inBackground (decide (.shutdown ∈ events))).1 :=
  congrArg Prod.fst (Task.run_armed .unstarted events)

/-- The outcomes that callbacks learn in an execution in the background. -/
def callbacks (op : Operation) (d : Deployment) (environment : Option (List RuntimeEvent)) :
    List Outcome :=
  (op.executeWithCallback d environment).filterMap Act.callback?

theorem callbacks_executeInPolls (op : Operation) (d : Deployment) (n : Nat) :
    (op.executeInPolls d n).acts.filterMap Act.callback? = [] := by
  have honly : (op.execute d).Only fun a => a.callback? = none :=
    only_execute (p := fun a => a.callback? = none) rfl (fun _ => rfl) (fun _ => rfl) rfl
      (fun _ => rfl) rfl d
  rw [List.filterMap_eq_nil_iff]
  intro a ha
  exact honly a ((acts_executeInPolls_isPrefix op d n).subset ha)

theorem callbacks_some (op : Operation) (d : Deployment) (events : List RuntimeEvent) :
    op.callbacks d (some events)
      = ((op.executeInPolls d (turnsIn events)).told (decide (.shutdown ∈ events))).toList := by
  rw [callbacks, executeWithCallback_some]
  exact Step.callbacks_inBackground (callbacks_executeInPolls op d _) _

end Operation

end WritePath
