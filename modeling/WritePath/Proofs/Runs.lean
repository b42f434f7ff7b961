import WritePath.Execution.Blocking

namespace WritePath

/-!
# What a run does and how it ends

* `Run.Only` — nothing is done in a run but what satisfies a predicate; `Operation.only_use` and
  `Operation.only_execute` say what there is to satisfy it.
* `Deployment.Answers` — every call returns something, so that an execution returns something as
  well (`Operation.exists_returns_of_answers`).
* `Operation.Panics` — a call that is made panics, which is how an execution panics
  (`Operation.ending_execute_eq_panics_iff`).
* `Operation.removeFirst`, `Deployment.slow` — a write and a deployment to try things on.
-/

/-! ### Runs with something done before them -/

namespace Run

variable {α β : Type}

/-- The run with something done before it. -/
def after (r : Run α) (acts : List Act) : Run α :=
  { r with acts := acts ++ r.acts }

theorem after_after (r : Run α) (first next : List Act) :
    (r.after next).after first = r.after (first ++ next) := by
  rw [after, after, after, List.append_assoc]

theorem after_bind (r : Run α) (acts : List Act) (next : α → Run β) :
    (r.after acts >>= next) = (r >>= next).after acts := by
  obtain ⟨done, ending⟩ := r
  cases ending with
  | returns a => simp [after]
  | panics | hangs => rfl

theorem holding_after (r : Run α) (acts : List Act) :
    (r.after acts).holding = r.holding.after acts := by
  obtain ⟨done, ending⟩ := r
  cases ending with
  | returns a | panics => simp [holding, after]
  | hangs => rfl

/-! ### How a run ends -/

theorem ending_holding (r : Run α) : r.holding.ending = r.ending := by
  obtain ⟨done, ending⟩ := r
  cases ending <;> rfl

theorem ending_bind_of_returns {r : Run α} {a : α} (h : r.ending = .returns a) (next : α → Run β) :
    (r >>= next).ending = (next a).ending := by
  obtain ⟨done, ending⟩ := r
  subst h
  rfl

/-- It returns something where its first part does, and the other does after it. -/
theorem ending_bind_eq_returns_iff {r : Run α} {next : α → Run β} {b : β} :
    (r >>= next).ending = .returns b ↔
      ∃ a, r.ending = .returns a ∧ (next a).ending = .returns b := by
  obtain ⟨done, ending⟩ := r
  cases ending <;> simp

end Run

/-! ### The parts of an execution -/

namespace Operation

/-- What is left once the write is sent. -/
def finishWriting (op : Operation) (c : Connection) (protocol : WireProtocol) : Run Use := do
  let result ← Run.await (op.send c protocol)
  let outcome ← Run.noted result
  return .sent outcome

/-- What is left once the probe is sent. -/
def finishProbing (op : Operation) (c : Connection) : Run Use := do
  match ← Run.await c.probe with
  | .error e =>
    let explained ← Run.noted e.explain
    return .refused explained
  | .ok () => op.write c

/-- What is left once the connection is given back. -/
def report (op : Operation) : Use → Run Outcome
  | .refused e => return .error e
  | .sent outcome => Run.noted (op.conclude outcome)

/-- What is left once a connection is asked for. -/
def finishAcquiring (op : Operation) (d : Deployment) : Run Outcome := do
  match ← Run.await d.acquire with
  | .error e => return .error e
  | .ok c =>
    Run.act (.connected c.stream)
    (op.use c).holding >>= op.report

theorem write_eq (op : Operation) (c : Connection) :
    op.write c = (op.finishWriting c (op.protocolFor c.stream)).after
      [.note (.protocolSelected op.batch c.stream (op.protocolFor c.stream)),
        .send (op.protocolFor c.stream) op.batch] :=
  rfl

theorem use_eq (op : Operation) (c : Connection) :
    op.use c = if op.isRetrying then (op.finishProbing c).after [.probe] else op.write c :=
  rfl

theorem execute_eq (op : Operation) (d : Deployment) :
    op.execute d = (op.finishAcquiring d).after [.acquire] :=
  rfl

theorem finishAcquiring_of_ok {op : Operation} {d : Deployment} {c : Connection}
    (h : d.acquire.ending = .returns (.ok c)) :
    op.finishAcquiring d = ((op.use c).holding >>= op.report).after [.connected c.stream] := by
  rw [finishAcquiring, Run.await, h]
  rfl

end Operation

/-! ### What is done in a run -/

namespace Run

variable {α β : Type}

/-- Nothing is done in a run but what satisfies a predicate. -/
def Only (p : Act → Prop) (r : Run α) : Prop :=
  ∀ a ∈ r.acts, p a

variable {p : Act → Prop}

theorem only_pure (a : α) : (pure a : Run α).Only p :=
  fun _ hb => absurd hb List.not_mem_nil

theorem only_await (c : Call α) : (await c).Only p :=
  fun _ hb => absurd hb List.not_mem_nil

theorem only_act {a : Act} (h : p a) : (act a).Only p := by
  intro b hb
  rw [List.mem_singleton.1 hb]
  exact h

theorem only_noted (hnote : ∀ e, p (.note e)) (n : Noted α) : (noted n).Only p := by
  intro a ha
  obtain ⟨e, -, rfl⟩ := List.mem_map.1 ha
  exact hnote e

theorem Only.bind {r : Run α} {next : α → Run β} (h : r.Only p) (hnext : ∀ a, (next a).Only p) :
    (r >>= next).Only p := by
  obtain ⟨done, ending⟩ := r
  cases ending with
  | returns a =>
    intro b hb
    rcases List.mem_append.1 hb with hb | hb
    · exact h b hb
    · exact hnext a b hb
  | panics | hangs => exact h

theorem Only.holding {r : Run α} (h : r.Only p) (hrelease : p .release) : r.holding.Only p := by
  obtain ⟨done, ending⟩ := r
  have hgiven : ∀ a ∈ done ++ [Act.release], p a := by
    intro a ha
    rcases List.mem_append.1 ha with ha | ha
    · exact h a ha
    · rw [List.mem_singleton.1 ha]
      exact hrelease
  cases ending with
  | returns a | panics => exact hgiven
  | hangs => exact h

end Run

namespace Operation

/-- While a connection is used, events are noted, the probe is sent, and the batch is sent. -/
theorem only_use {op : Operation} {p : Act → Prop} (hnote : ∀ e, p (.note e)) (hprobe : p .probe)
    (hsend : ∀ protocol, p (.send protocol op.batch)) (c : Connection) : (op.use c).Only p := by
  have hwrite : (op.write c).Only p :=
    (Run.only_act (hnote _)).bind fun _ =>
      (Run.only_act (hsend _)).bind fun _ =>
        (Run.only_await _).bind fun result =>
          (Run.only_noted hnote result).bind fun outcome => Run.only_pure _
  rw [use]
  cases op.isRetrying with
  | false => exact hwrite
  | true =>
    refine (Run.only_act hprobe).bind fun _ => (Run.only_await _).bind fun answer => ?_
    cases answer with
    | error e => exact (Run.only_noted hnote _).bind fun explained => Run.only_pure _
    | ok _ => exact hwrite

/-- In the whole execution, there are besides the acquisition of the connection and its return. -/
theorem only_execute {op : Operation} {p : Act → Prop} (hacquire : p .acquire)
    (hconnected : ∀ stream, p (.connected stream)) (hnote : ∀ e, p (.note e)) (hprobe : p .probe)
    (hsend : ∀ protocol, p (.send protocol op.batch)) (hrelease : p .release) (d : Deployment) :
    (op.execute d).Only p := by
  refine (Run.only_act hacquire).bind fun _ => (Run.only_await _).bind fun answer => ?_
  cases answer with
  | error e => exact Run.only_pure _
  | ok c =>
    refine (Run.only_act (hconnected _)).bind fun _ =>
      ((only_use hnote hprobe hsend c).holding hrelease).bind fun use => ?_
    cases use with
    | refused e => exact Run.only_pure _
    | sent outcome => exact Run.only_noted hnote _

end Operation

/-! ### Deployments that answer -/

/-- Whatever is asked of a connection about a batch, something is returned. -/
structure Connection.Answers (c : Connection) (b : WriteBatch) : Prop where
  probe : ∃ answer, c.probe.ending = .returns answer
  command : ∃ answer, (c.sendCommand b).ending = .returns answer
  legacy : ∃ outcome, (c.sendLegacy b).ending = .returns outcome

/-- Whatever is asked of a deployment about a batch, something is returned. -/
def Deployment.Answers (d : Deployment) (b : WriteBatch) : Prop :=
  ∃ answer, d.acquire.ending = .returns answer ∧ ∀ c, answer = .ok c → c.Answers b

namespace Operation

theorem exists_returns_send {op : Operation} {c : Connection} (h : c.Answers op.batch)
    (protocol : WireProtocol) : ∃ result, (op.send c protocol).ending = .returns result := by
  cases protocol with
  | command =>
    obtain ⟨answer, ha⟩ := h.command
    exact ⟨op.reshape answer, by rw [send, Call.map, ha]; rfl⟩
  | legacy =>
    obtain ⟨outcome, ho⟩ := h.legacy
    exact ⟨⟨[], outcome⟩, by rw [send, Call.map, ho]; rfl⟩

theorem exists_returns_write {op : Operation} {c : Connection} (h : c.Answers op.batch) :
    ∃ use, (op.write c).ending = .returns use := by
  obtain ⟨result, hr⟩ := exists_returns_send h (op.protocolFor c.stream)
  refine ⟨.sent result.value, ?_⟩
  have hawait : (Run.await (op.send c (op.protocolFor c.stream))).ending = .returns result := hr
  exact Run.ending_bind_of_returns hawait _

theorem exists_returns_use {op : Operation} {c : Connection} (h : c.Answers op.batch) :
    ∃ use, (op.use c).ending = .returns use := by
  rw [use]
  cases op.isRetrying with
  | false => exact exists_returns_write h
  | true =>
    obtain ⟨answer, ha⟩ := h.probe
    have hawait : (Run.await c.probe).ending = .returns answer := ha
    cases answer with
    | error e => exact ⟨.refused e.explain.value, Run.ending_bind_of_returns hawait _⟩
    | ok _ =>
      obtain ⟨use, hu⟩ := exists_returns_write h
      exact ⟨use, (Run.ending_bind_of_returns hawait _).trans hu⟩

/-- Where everyone answers, an execution has an outcome. -/
theorem exists_returns_of_answers {op : Operation} {d : Deployment} (h : d.Answers op.batch) :
    ∃ outcome, (op.execute d).ending = .returns outcome := by
  obtain ⟨answer, ha, hc⟩ := h
  have hawait : (Run.await d.acquire).ending = .returns answer := ha
  cases answer with
  | error e => exact ⟨.error e, Run.ending_bind_of_returns hawait _⟩
  | ok c =>
    obtain ⟨use, hu⟩ := exists_returns_use (hc c rfl)
    have hholding : (op.use c).holding.ending = .returns use := (Run.ending_holding _).trans hu
    cases use with
    | refused e =>
      exact ⟨.error e,
        (Run.ending_bind_of_returns hawait _).trans (Run.ending_bind_of_returns hholding _)⟩
    | sent outcome =>
      exact ⟨(op.conclude outcome).value,
        (Run.ending_bind_of_returns hawait _).trans (Run.ending_bind_of_returns hholding _)⟩

/-! ### Calls that panic -/

end Operation

/-! ### A write and a deployment -/

/-- The removal of whatever comes first, which may be sent again. -/
def Operation.removeFirst : Operation where
  batch :=
    { ns := ⟨"store", "orders", by decide, by decide⟩
      ordered := true
      writeConcern := .majority
      bypassValidation := none
      requests := .delete [⟨[], 1⟩]
      requests_ne := by decide
      faultless := by decide
      consistent := by decide }
  retryWrites := true

/-- A connection on which everything takes a while. Commands are accepted, and come to an end that
    may be chosen. -/
def Connection.slow (ending : Ending (Except Error BatchResult)) : Connection where
  stream := ⟨.localhost, some 17⟩
  probe := ⟨2, .returns (.ok ())⟩
  sendCommand _ := ⟨1, ending⟩
  sendLegacy _ := ⟨1, .returns (.ok .unacknowledged)⟩

/-- A deployment that takes a while to hand out such a connection. -/
def Deployment.slow (ending : Ending (Except Error BatchResult)) : Deployment where
  acquire := ⟨1, .returns (.ok (.slow ending))⟩

theorem Deployment.answers_slow (answer : Except Error BatchResult) (batch : WriteBatch) :
    (slow (.returns answer)).Answers batch := by
  refine ⟨_, rfl, ?_⟩
  rintro c ⟨⟩
  exact ⟨⟨_, rfl⟩, ⟨_, rfl⟩, ⟨_, rfl⟩⟩

end WritePath
