import WritePath.Proofs.Background
import WritePath.Proofs.Completion
import WritePath.Proofs.Custody

namespace WritePath

/-!
# Connections are given back

Whatever becomes of an execution, it has one connection at most, uses it while it has it, and gives
it back once. Where the connection is when an execution rests is known from the call at which it
rests.

* `Step.Carries`, `Future.carries_poll` — what a poll does is allowed, and leaves the connection
  where the execution says that it is.
* `Operation.custody_execute` — what is done by an execution that is waited for is allowed.
* `Manner` — the ways in which an execution may go.
* `Operation.custody_actsIn` — in all of them, what is done is allowed.
* `Operation.connections_conserved` — connections are conserved.
-/

/-! ### Executions that are polled -/

/-- Where the connection is when an execution rests. -/
def Future.custody : Future → Custody
  | unstarted => .unasked
  | acquiring _ => .asked
  | probing _ _ | writing _ _ _ => .held
  | finished => .returned

/-- What is done in a step may be done, and leaves the connection where the execution says that it
    is, or where the execution may end. -/
def Step.Carries (s : Step) (c : Custody) : Prop :=
  match s.progress with
  | .pending f => c.run s.acts = some f.custody
  | .ready _ | .panicked => ∃ c', c.run s.acts = some c' ∧ c'.isClear = true

theorem Step.Carries.after {s : Step} {c c' : Custody} {acts : List Act} (h : s.Carries c')
    (hacts : c.run acts = some c') : (s.after acts).Carries c := by
  obtain ⟨done, progress⟩ := s
  have hdone : c.run (acts ++ done) = c'.run done := Custody.run_append_of_run hacts done
  cases progress with
  | pending f => exact hdone.trans h
  | ready outcome | panicked =>
    obtain ⟨c'', hrun, hclear⟩ := h
    exact ⟨c'', hdone.trans hrun, hclear⟩

namespace Future

theorem carries_pollWriting (op : Operation) (c : Connection) (protocol : WireProtocol)
    (waits : Nat) : (pollWriting op c protocol waits).Carries .held := by
  rw [pollWriting]
  cases (op.send c protocol).poll waits with
  | pending n => exact Eq.refl (some Custody.held)
  | panicked => exact ⟨.returned, rfl, rfl⟩
  | ready result =>
    refine ⟨.returned, ?_, rfl⟩
    show Custody.held.run (Act.notes _ ++ .release :: Act.notes _) = _
    rw [Custody.run_append_of_run (Custody.run_notes (c := .held) (by decide) _)]
    exact Custody.run_notes (c := .returned) (by decide) _

theorem carries_startWriting (op : Operation) (c : Connection) :
    (startWriting op c).Carries .held :=
  (carries_pollWriting op c _ _).after rfl

theorem carries_pollProbing (op : Operation) (c : Connection) (waits : Nat) :
    (pollProbing op c waits).Carries .held := by
  rw [pollProbing]
  cases c.probe.poll waits with
  | pending n => exact Eq.refl (some Custody.held)
  | panicked => exact ⟨.returned, rfl, rfl⟩
  | ready answer =>
    cases answer with
    | ok _ => exact carries_startWriting op c
    | error e =>
      refine ⟨.returned, ?_, rfl⟩
      show Custody.held.run (Act.notes _ ++ [.release]) = _
      rw [Custody.run_append_of_run (Custody.run_notes (c := .held) (by decide) _)]
      rfl

theorem carries_startUsing (op : Operation) (c : Connection) : (startUsing op c).Carries .held := by
  rw [startUsing]
  cases op.isRetrying with
  | false => exact carries_startWriting op c
  | true => exact (carries_pollProbing op c _).after rfl

theorem carries_pollAcquiring (op : Operation) (d : Deployment) (waits : Nat) :
    (pollAcquiring op d waits).Carries .asked := by
  rw [pollAcquiring]
  cases d.acquire.poll waits with
  | pending n => exact Eq.refl (some Custody.asked)
  | panicked => exact ⟨.asked, rfl, rfl⟩
  | ready answer =>
    cases answer with
    | error e => exact ⟨.asked, rfl, rfl⟩
    | ok c => exact (carries_startUsing op c).after rfl

/-- **One poll.** From wherever an execution rests, a poll does what may be done there. -/
theorem carries_poll (op : Operation) (d : Deployment) (f : Future) :
    (f.poll op d).Carries f.custody := by
  cases f with
  | unstarted => exact (carries_pollAcquiring op d _).after rfl
  | acquiring waits => exact carries_pollAcquiring op d waits
  | probing c waits => exact carries_pollProbing op c waits
  | writing c protocol waits => exact carries_pollWriting op c protocol waits
  | finished => exact ⟨.returned, rfl, rfl⟩

/-- **Several polls.** So do they all. -/
theorem carries_polls (op : Operation) (d : Deployment) (n : Nat) (f : Future) :
    (polls op d n f).Carries f.custody := by
  induction n generalizing f with
  | zero => exact Eq.refl (some f.custody)
  | succ n ih =>
    have hpoll := carries_poll op d f
    rw [polls]
    generalize f.poll op d = s at hpoll
    obtain ⟨acts, progress⟩ := s
    cases progress with
    -- The first poll leaves the connection where the next one takes it up.
    | pending g => exact (ih g).after hpoll
    | ready outcome | panicked => exact hpoll

/-- An execution may be discarded wherever it rests. -/
theorem run_discard (f : Future) : ∃ c, f.custody.run f.discard = some c ∧ c.isClear = true := by
  cases f with
  | unstarted => exact ⟨.unasked, rfl, rfl⟩
  | acquiring waits => exact ⟨.asked, rfl, rfl⟩
  | probing c waits | writing c protocol waits | finished => exact ⟨.returned, rfl, rfl⟩

end Future

/-! ### Executions that are waited for -/

namespace Operation

/-- A connection stays with the execution while it is used. -/
theorem run_use (op : Operation) (c : Connection) : Custody.held.run (op.use c).acts = some .held :=
  Custody.run_of_forall_step
    (only_use (p := fun a => Custody.held.step a = some .held) (fun _ => rfl) rfl (fun _ => rfl) c)

/-- What is done in an execution that is waited for may be done, and unless it hangs, the connection
    is then where the execution may end. -/
theorem custody_execute (op : Operation) (d : Deployment) :
    ∃ c, Custody.unasked.run (op.execute d).acts = some c ∧
      ((op.execute d).ending ≠ .hangs → c.isClear = true) := by
  cases h : d.acquire.ending with
  | hangs | panics =>
    -- There was no connection yet to give back.
    rw [execute_eq, finishAcquiring, Run.await, h]
    exact ⟨.asked, rfl, fun _ => rfl⟩
  | returns answer =>
    cases answer with
    | error e =>
      rw [execute_eq, finishAcquiring, Run.await, h]
      exact ⟨.asked, rfl, fun _ => rfl⟩
    | ok c =>
      rw [execute_eq, finishAcquiring_of_ok h]
      show ∃ c', Custody.held.run ((op.use c).holding >>= op.report).acts = some c' ∧ _
      have huse := run_use op c
      generalize op.use c = r at huse
      obtain ⟨acts, ending⟩ := r
      -- The use of a connection ends with its return, unless it never ends.
      cases ending with
      | hangs => exact ⟨.held, huse, fun hends => absurd rfl hends⟩
      | panics => exact ⟨.returned, (Custody.run_append_of_run huse _).trans rfl, fun _ => rfl⟩
      | returns use =>
        refine ⟨.returned, ?_, fun _ => rfl⟩
        show Custody.held.run ((acts ++ [.release]) ++ (op.report use).acts) = _
        rw [List.append_assoc, Custody.run_append_of_run huse]
        cases use with
        | refused e => rfl
        | sent outcome => exact Custody.run_notes (c := .returned) (by decide) _

end Operation

/-! ### The ways in which an execution may go -/

/-- The ways in which an execution may go. -/
inductive Manner where
  /-- Someone waits for it. -/
  | waiting
  /-- It is polled so many times. -/
  | polled (polls : Nat)
  /-- It is polled so many times, and then discarded. -/
  | discarded (polls : Nat)
  /-- It goes on in the background, if there is one, and tells a callback. -/
  | background (environment : Option (List RuntimeEvent))

/-- What is done in a step after which the execution is discarded. -/
def Step.discarded (s : Step) : List Act :=
  match s.progress with
  | .pending f => s.acts ++ f.discard
  | .ready _ | .panicked => s.acts

namespace Operation

/-- What is done in an execution before it is cut off. -/
def doneIn (op : Operation) (d : Deployment) : Manner → List Act
  | .waiting => (op.execute d).acts
  | .polled n | .discarded n => (op.executeInPolls d n).acts
  | .background none => []
  | .background (some events) => (op.executeInPolls d (turnsIn events)).acts

/-- What is done in an execution. -/
def actsIn (op : Operation) (d : Deployment) : Manner → List Act
  | .waiting => (op.execute d).acts
  | .polled n => (op.executeInPolls d n).acts
  | .discarded n => (op.executeInPolls d n).discarded
  | .background environment => op.executeWithCallback d environment

/-- An execution has ended, by itself or because it was cut off. -/
def HasEnded (op : Operation) (d : Deployment) : Manner → Prop
  | .waiting => (op.execute d).ending ≠ .hangs
  | .polled n => ∀ f, (op.executeInPolls d n).progress ≠ .pending f
  | .discarded _ | .background none => True
  | .background (some events) =>
    .shutdown ∈ events ∨ ∀ f, (op.executeInPolls d (turnsIn events)).progress ≠ .pending f

end Operation

/-! ### What is done when an execution is cut off -/

/-- What may be done to an execution from outside: its connection is given back, and its callback
    learns something. -/
def Act.isEpilogue : Act → Bool
  | release | callback _ => true
  | _ => false

theorem Future.isEpilogue_discard (f : Future) : ∀ a ∈ f.discard, a.isEpilogue = true := by
  cases f with
  | unstarted | acquiring waits | finished => exact List.forall_mem_nil _
  | probing c waits | writing c protocol waits => exact List.forall_mem_singleton.2 rfl

theorem Step.exists_discarded_eq (s : Step) :
    ∃ tail, s.discarded = s.acts ++ tail ∧ ∀ a ∈ tail, a.isEpilogue = true := by
  obtain ⟨acts, progress⟩ := s
  cases progress with
  | pending f => exact ⟨f.discard, rfl, f.isEpilogue_discard⟩
  | ready outcome | panicked => exact ⟨[], (List.append_nil _).symm, List.forall_mem_nil _⟩

theorem Step.exists_inBackground_eq (s : Step) (isShutDown : Bool) :
    ∃ tail, (s.inBackground isShutDown).1 = s.acts ++ tail ∧ ∀ a ∈ tail, a.isEpilogue = true := by
  have hcallback (outcome : Outcome) : ∀ a ∈ [Act.callback outcome], a.isEpilogue = true :=
    List.forall_mem_singleton.2 rfl
  obtain ⟨acts, progress⟩ := s
  cases progress with
  | ready outcome | panicked => exact ⟨_, rfl, hcallback _⟩
  | pending f =>
    cases isShutDown with
    | false => exact ⟨[], (List.append_nil _).symm, List.forall_mem_nil _⟩
    | true => exact ⟨_, rfl, List.forall_mem_append.2 ⟨f.isEpilogue_discard, hcallback _⟩⟩

/-- A step may be the last one. -/
theorem Step.Carries.discarded {s : Step} {c : Custody} (h : s.Carries c) :
    ∃ c', c.run s.discarded = some c' ∧ c'.isClear = true := by
  obtain ⟨acts, progress⟩ := s
  cases progress with
  | ready outcome | panicked => exact h
  | pending f =>
    obtain ⟨c', hrun, hclear⟩ := f.run_discard
    exact ⟨c', (Custody.run_append_of_run h _).trans hrun, hclear⟩

/-- In the background it may be, too, and the callback is told when the connection is given back. -/
theorem Step.Carries.inBackground {s : Step} {c : Custody} (h : s.Carries c) (isShutDown : Bool) :
    ∃ c', c.run (s.inBackground isShutDown).1 = some c' ∧
      (isShutDown = true ∨ (∀ f, s.progress ≠ .pending f) → c'.holding = 0) := by
  have htell {acts : List Act} (hclear : ∃ c', c.run acts = some c' ∧ c'.isClear = true)
      (outcome : Outcome) : c.run (acts ++ [.callback outcome]) = some .settled := by
    obtain ⟨c', hrun, hclear⟩ := hclear
    rw [Custody.run_append_of_run hrun, Custody.run_cons, Custody.step_callback hclear]
    rfl
  -- A shutdown discards the execution first, which leaves the callback free to be told.
  have hdiscarded := h.discarded
  obtain ⟨acts, progress⟩ := s
  cases progress with
  | ready outcome => exact ⟨.settled, htell h outcome, fun _ => rfl⟩
  | panicked => exact ⟨.settled, htell h Interruption.panicked.outcome, fun _ => rfl⟩
  | pending f =>
    cases isShutDown with
    | true =>
      have htold := htell hdiscarded Interruption.abandoned.outcome
      rw [Step.discarded, List.append_assoc] at htold
      exact ⟨.settled, htold, fun _ => rfl⟩
    | false =>
      refine ⟨f.custody, h, fun hends => ?_⟩
      rcases hends with hends | hends
      · cases hends
      · exact absurd rfl (hends f)

/-! ### Conservation -/

namespace Operation

/-- **Custody.** Whichever way an execution goes, what is done in it may be done, and once it has
    ended no connection is held. -/
theorem custody_actsIn (op : Operation) (d : Deployment) (m : Manner) :
    ∃ c, Custody.unasked.run (op.actsIn d m) = some c ∧ (op.HasEnded d m → c.holding = 0) := by
  have hpolls (n : Nat) : (op.executeInPolls d n).Carries .unasked :=
    Future.carries_polls op d n .unstarted
  cases m with
  | waiting =>
    obtain ⟨c, hrun, hclear⟩ := op.custody_execute d
    exact ⟨c, hrun, fun hends => Custody.holding_of_isClear (hclear hends)⟩
  | polled n =>
    have hcarries := hpolls n
    rw [actsIn, HasEnded]
    generalize op.executeInPolls d n = s at hcarries
    obtain ⟨acts, progress⟩ := s
    cases progress with
    | pending f => exact ⟨f.custody, hcarries, fun hends => absurd rfl (hends f)⟩
    | ready outcome | panicked =>
      obtain ⟨c, hrun, hclear⟩ := hcarries
      exact ⟨c, hrun, fun _ => Custody.holding_of_isClear hclear⟩
  | discarded n =>
    obtain ⟨c, hrun, hclear⟩ := (hpolls n).discarded
    exact ⟨c, hrun, fun _ => Custody.holding_of_isClear hclear⟩
  | background environment =>
    cases environment with
    | none => exact ⟨.settled, rfl, fun _ => rfl⟩
    | some events =>
      obtain ⟨c, hrun, hends⟩ :=
        (hpolls (turnsIn events)).inBackground (decide (.shutdown ∈ events))
      rw [actsIn, executeWithCallback_some]
      exact ⟨c, hrun, fun h => hends (h.imp_left decide_eq_true)⟩

theorem doneIn_isPrefix (op : Operation) (d : Deployment) (m : Manner) :
    op.doneIn d m <+: (op.execute d).acts := by
  cases m with
  | waiting => exact List.prefix_rfl
  | polled n | discarded n => exact acts_executeInPolls_isPrefix op d n
  | background environment =>
    cases environment with
    | none => exact List.nil_prefix
    | some events => exact acts_executeInPolls_isPrefix op d _

/-- Once an execution is cut off, it does nothing itself. -/
theorem exists_actsIn_eq (op : Operation) (d : Deployment) (m : Manner) :
    ∃ tail, op.actsIn d m = op.doneIn d m ++ tail ∧ ∀ a ∈ tail, a.isEpilogue = true := by
  cases m with
  | waiting | polled n => exact ⟨[], (List.append_nil _).symm, List.forall_mem_nil _⟩
  | discarded n => exact Step.exists_discarded_eq _
  | background environment =>
    cases environment with
    | none =>
      exact ⟨[.callback Interruption.noRuntime.outcome], rfl, List.forall_mem_singleton.2 rfl⟩
    | some events =>
      rw [actsIn, executeWithCallback_some]
      exact Step.exists_inBackground_eq _ _

/-- **Connections are conserved.** Whatever the calls come to, and whichever way the execution goes:
    it asks for a connection once at most, and gets one at most; once it has ended, by itself or
    because it was cut off, every connection that it got was given back; the probe, the write and
    the return of a connection come after it was got and before it was given back; a callback is told
    when it has been given back, and nothing comes after that. What is done before the execution is
    cut off is the first part of what it does when nobody does so, even if the calls that hang come
    to some end then; afterwards there is only the return of the connection and the callback, so
    that no write is sent. -/
theorem connections_conserved (op : Operation) (d : Deployment) (m : Manner) :
    ((op.actsIn d m).countP Act.isAcquisition ≤ 1 ∧ (op.actsIn d m).countP Act.isHandover ≤ 1) ∧
    (op.HasEnded d m →
      (op.actsIn d m).countP Act.isReturn = (op.actsIn d m).countP Act.isHandover) ∧
    (∀ before a after, op.actsIn d m = before ++ a :: after → a.needsConnection = true →
      before.countP Act.isHandover = 1 ∧ before.countP Act.isReturn = 0) ∧
    (∀ before outcome after, op.actsIn d m = before ++ .callback outcome :: after →
      before.countP Act.isReturn = before.countP Act.isHandover ∧ after = []) ∧
    ∃ tail, op.actsIn d m = op.doneIn d m ++ tail ∧ (∀ a ∈ tail, a.isEpilogue = true) ∧
      ∀ d', d.Becomes d' → op.doneIn d m <+: (op.execute d').acts := by
  obtain ⟨c, hrun, hends⟩ := op.custody_actsIn d m
  obtain ⟨tail, htail, hepilogue⟩ := op.exists_actsIn_eq d m
  refine ⟨⟨?acquisitions, ?handovers⟩, ?balance, ?needs, ?callback, tail, htail, hepilogue, ?done⟩
  case acquisitions =>
    exact Nat.le_of_add_right_le (Custody.countP_le_of_step Custody.step_askable hrun)
  case handovers =>
    exact Nat.le_of_add_right_le (Custody.countP_le_of_step Custody.step_expected hrun)
  case balance =>
    intro hended
    have hbalance := Custody.run_balance hrun
    rw [hends hended] at hbalance
    exact hbalance.symm
  case needs =>
    intro before a after hsplit
    rw [hsplit] at hrun
    exact Custody.counts_of_needsConnection hrun
  case callback =>
    intro before outcome after hsplit
    rw [hsplit] at hrun
    exact Custody.counts_of_callback hrun
  case done =>
    intro d' hd'
    exact (op.doneIn_isPrefix d m).trans (op.execute_becomes hd').acts_isPrefix

/-- A removal that hangs is discarded with a connection, which is given back. If the command had
    been accepted, the removal would have gone on from there. -/
theorem connections_conserved_slow :
    let accepted : Deployment := .slow (.returns (.ok { removed := 1 }))
    (removeFirst.HasEnded (.slow .hangs) (.discarded 9) ∧
      (removeFirst.actsIn (.slow .hangs) (.discarded 9)).countP Act.isHandover = 1 ∧
      (removeFirst.actsIn (.slow .hangs) (.discarded 9)).countP Act.isReturn = 1) ∧
    (Deployment.slow .hangs).Becomes accepted ∧
    removeFirst.doneIn (.slow .hangs) (.discarded 9) <+: (removeFirst.execute accepted).acts := by
  intro accepted
  have hconnection :
      (Connection.slow .hangs).Becomes (.slow (.returns (.ok { removed := 1 }))) :=
    ⟨rfl, .inr rfl, fun _ => .inl rfl, fun _ => .inr rfl⟩
  have hbecomes : (Deployment.slow .hangs).Becomes accepted := .connecting rfl rfl hconnection
  have hended : removeFirst.HasEnded (.slow .hangs) (.discarded 9) := trivial
  have hhandover : (removeFirst.actsIn (.slow .hangs) (.discarded 9)).countP Act.isHandover = 1 :=
    rfl
  obtain ⟨-, hbalance, -, -, -, -, -, hdone⟩ :=
    connections_conserved removeFirst (.slow .hangs) (.discarded 9)
  exact ⟨⟨hended, hhandover, (hbalance hended).trans hhandover⟩, hbecomes, hdone accepted hbecomes⟩

end Operation

end WritePath
