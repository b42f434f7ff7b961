import WritePath.Proofs.Courses

namespace WritePath

/-!
# What becomes of errors

An error of a call reaches the caller as it is, with two exceptions: where retrying was asked for,
the error of a deployment that refuses transaction numbers comes with an explanation in front of it,
and the failure of a batch that was sent as a command is told in the older shape.

* `Error.source?_explained_of_refuses`, `Error.refuses_explained` — an explanation keeps the error
  behind it, and needs no other.
* `Operation.kind_ne_batch_of_reshape` — no failure of a batch is left once it is told in the older
  shape, which does not look like a refusal (`LastErrorForm.refuses_labelledError`).
* `Operation.PassesOn` — what the caller learns of an error.
* `Operation.errors_reported` — what becomes of the errors of every call.
-/

/-! ### Explanations -/

namespace Error

variable {e : Error}

theorem kind_explained_of_refuses (h : e.refusesTransactionNumbers = true) :
    e.explained.kind = .retryableWritesNotSupported := by
  rw [explained, if_pos h]
  rfl

/-- The error behind an explanation is the one that it explains, with all that is behind it. -/
theorem source?_explained_of_refuses (h : e.refusesTransactionNumbers = true) :
    e.explained.source? = some e := by
  rw [explained, if_pos h]
  rfl

/-- What has an explanation, or needs none, does not need another. -/
theorem refuses_explained (e : Error) : e.explained.refusesTransactionNumbers = false := by
  cases h : e.refusesTransactionNumbers with
  | false => rw [explained_of_not_refuses h, h]
  | true => rw [refusesTransactionNumbers, kind_explained_of_refuses h]

/-- An error is the failure of a batch, or it is that of none. -/
theorem batch_or_other (e : Error) : (∃ f, e.kind = .batch f) ∨ ∀ f, e.kind ≠ .batch f :=
  (Classical.em _).imp_right not_exists.1

/-- Nor is an explanation. -/
theorem kind_explained_ne_batch (h : ∀ f, e.kind ≠ .batch f) (f : BatchFailure) :
    e.explained.kind ≠ .batch f := by
  cases hrefuses : e.refusesTransactionNumbers with
  | false => rw [explained_of_not_refuses hrefuses]; exact h f
  | true => rw [kind_explained_of_refuses hrefuses]; exact nofun

end Error

/-! ### Failures of batches -/

namespace LastErrorForm

theorem kind_labelledError_cases (f : BatchFailure) (labels : LabelSet) (kind : WriteKind) :
    (labelledError f labels kind).kind = .duplicateKey (failure f kind) ∨
      (labelledError f labels kind).kind = .writeConcern (failure f kind) := by
  show errorKind f kind = _ ∨ errorKind f kind = _
  rw [errorKind]
  cases isDuplicateKey f with
  | true => exact .inl rfl
  | false => exact .inr rfl

/-- A failure in the older shape is never taken for a refusal of transaction numbers. -/
theorem refuses_labelledError (f : BatchFailure) (labels : LabelSet) (kind : WriteKind) :
    (labelledError f labels kind).refusesTransactionNumbers = false := by
  rw [Error.refusesTransactionNumbers]
  rcases kind_labelledError_cases f labels kind with h | h <;> rw [h]

end LastErrorForm

namespace Operation

variable {op : Operation} {d : Deployment} {c : Connection} {outcome : Outcome} {e : Error}

theorem reshape_of_batch {f : BatchFailure} (h : e.kind = .batch f) :
    op.reshape (.error e)
      = ⟨[.failureReshaped op.kind (LastErrorForm.isDuplicateKey f)
            (LastErrorForm.response f op.kind)],
          .error (LastErrorForm.labelledError f e.labels op.kind)⟩ := by
  rw [reshape, h]

/-- Any other error is left as it is, without a word. -/
theorem reshape_of_ne_batch (h : ∀ f, e.kind ≠ .batch f) :
    op.reshape (.error e) = ⟨[], .error e⟩ := by
  rw [reshape]
  split
  · next f hf => exact absurd hf (h f)
  · rfl

theorem value_reshape_of_batch {f : BatchFailure} (h : e.kind = .batch f) :
    (op.reshape (.error e)).value = .error (LastErrorForm.labelledError f e.labels op.kind) := by
  rw [reshape_of_batch h]

theorem value_reshape_of_ne_batch (h : ∀ f, e.kind ≠ .batch f) :
    (op.reshape (.error e)).value = .error e := by
  rw [reshape_of_ne_batch h]

/-- No failure of a batch is left once it is told in the older shape. -/
theorem kind_ne_batch_of_reshape {answer : Except Error BatchResult}
    (h : (op.reshape answer).value = .error e) (f : BatchFailure) : e.kind ≠ .batch f := by
  cases answer with
  | ok r => cases h
  | error e' =>
    rcases e'.batch_or_other with ⟨f', hf'⟩ | hother
    · rw [value_reshape_of_batch hf'] at h
      cases h
      rcases LastErrorForm.kind_labelledError_cases f' e'.labels op.kind with hkind | hkind <;>
        rw [hkind] <;> exact nofun
    · rw [value_reshape_of_ne_batch hother] at h
      cases h
      exact hother f

/-! ### What is reported for an error -/

/-- The error that is reported for an error of the probe or of the write. -/
def reported (op : Operation) (e : Error) : Error :=
  if op.isRetrying then e.explained else e

theorem value_conclude_error (op : Operation) (e : Error) :
    (op.conclude (.error e)).value = .error (op.reported e) := by
  rw [conclude, reported]
  cases op.isRetrying <;> rfl

theorem reported_of_not_refuses (h : e.refusesTransactionNumbers = false) :
    op.reported e = e := by
  rw [reported, Error.explained_of_not_refuses h, ite_self]

theorem reported_of_isRetrying (h : op.isRetrying = true) : op.reported e = e.explained := by
  rw [reported, if_pos h]

/-- Either nothing is explained at all, or there is nothing to explain. -/
theorem reported_of_not (h : ¬ (op.isRetrying = true ∧ e.refusesTransactionNumbers = true)) :
    op.reported e = e := by
  cases hretrying : op.isRetrying with
  | false => rw [reported, hretrying]; rfl
  | true =>
    refine reported_of_not_refuses ?_
    rw [Bool.eq_false_iff]
    exact fun hrefuses => h ⟨hretrying, hrefuses⟩

theorem kind_reported_ne_batch (h : ∀ f, e.kind ≠ .batch f) (f : BatchFailure) :
    (op.reported e).kind ≠ .batch f := by
  rw [reported]
  split
  · exact Error.kind_explained_ne_batch h f
  · exact h f

/-- What the caller learns of an error of the probe or of the write: where retrying was asked for, a
    refusal of transaction numbers is explained and stands behind its explanation; any other error
    is the one that the caller gets. -/
def PassesOn (op : Operation) (d : Deployment) (e : Error) : Prop :=
  if op.isRetrying = true ∧ e.refusesTransactionNumbers = true then
    ∃ e', op.Returns d (.error e') ∧ e'.kind = .retryableWritesNotSupported ∧
      e'.source? = some e
  else op.Returns d (.error e)

theorem Returns.passesOn (h : op.Returns d (.error (op.reported e))) : op.PassesOn d e := by
  rw [PassesOn]
  split
  · next hboth =>
    obtain ⟨hretrying, hrefuses⟩ := hboth
    rw [reported_of_isRetrying hretrying] at h
    exact ⟨e.explained, h, Error.kind_explained_of_refuses hrefuses,
      Error.source?_explained_of_refuses hrefuses⟩
  · next hnot =>
    rwa [reported_of_not hnot] at h

/-! ### What comes of each call -/

theorem returns_of_refused (hc : d.acquire.ending = .returns (.ok c))
    (hretrying : op.isRetrying = true) (h : c.probe.ending = .returns (.error e)) :
    op.Returns d (.error (op.reported e)) := by
  rw [reported_of_isRetrying hretrying]
  exact (Course.refused hc hretrying h).returns

theorem returns_of_command {answer : Except Error BatchResult}
    (hc : d.acquire.ending = .returns (.ok c))
    (hprobe : op.isRetrying = true → c.probe.ending = .returns (.ok ()))
    (hprotocol : op.protocolFor c.stream = .command)
    (h : (c.sendCommand op.batch).ending = .returns answer) :
    op.Returns d (op.conclude (op.reshape answer).value).value := by
  have hsend : (op.send c (op.protocolFor c.stream)).ending = .returns (op.reshape answer) := by
    rw [hprotocol, send, Call.map, h]
    rfl
  exact (Course.sent hc hprobe hsend).returns

theorem returns_of_legacy (hc : d.acquire.ending = .returns (.ok c))
    (hprobe : op.isRetrying = true → c.probe.ending = .returns (.ok ()))
    (hprotocol : op.protocolFor c.stream = .legacy)
    (h : (c.sendLegacy op.batch).ending = .returns outcome) :
    op.Returns d (op.conclude outcome).value := by
  have hsend : (op.send c (op.protocolFor c.stream)).ending = .returns ⟨[], outcome⟩ := by
    rw [hprotocol, send, Call.map, h]
    rfl
  exact (Course.sent hc hprobe hsend).returns

/-- The failure of a batch that was sent as a command is told in the older shape, and nothing is
    put in front of it. -/
theorem returns_of_batch {f : BatchFailure} (hc : d.acquire.ending = .returns (.ok c))
    (hprobe : op.isRetrying = true → c.probe.ending = .returns (.ok ()))
    (hprotocol : op.protocolFor c.stream = .command)
    (h : (c.sendCommand op.batch).ending = .returns (.error e)) (hf : e.kind = .batch f) :
    op.Returns d (.error (LastErrorForm.labelledError f e.labels op.kind)) := by
  have hreturns := returns_of_command hc hprobe hprotocol h
  rwa [value_reshape_of_batch hf, value_conclude_error,
    reported_of_not_refuses (LastErrorForm.refuses_labelledError ..)] at hreturns

/-- An error that is learnt where a connection was had came of the probe or of the write. -/
theorem exists_reported_of_returns (hc : d.acquire.ending = .returns (.ok c))
    (h : op.Returns d (.error e)) : ∃ e', e = op.reported e' := by
  generalize ho : (Except.error e : Outcome) = outcome at h
  cases h.course with
  | unconnected hfails =>
    rw [hc] at hfails
    cases hfails
  | refused _ hretrying _ =>
    cases ho
    exact ⟨_, (reported_of_isRetrying hretrying).symm⟩
  | @sent _ result _ _ _ =>
    cases hvalue : result.value with
    | ok r =>
      rw [hvalue] at ho
      cases ho
    | error e' =>
      rw [hvalue, value_conclude_error] at ho
      cases ho
      exact ⟨e', rfl⟩

/-- Once the write is sent, an outcome came of it. -/
theorem exists_send_of_returns (hc : d.acquire.ending = .returns (.ok c))
    (hprobe : op.isRetrying = true → c.probe.ending = .returns (.ok ()))
    (h : op.Returns d outcome) :
    ∃ result, (op.send c (op.protocolFor c.stream)).ending = .returns result ∧
      outcome = (op.conclude result.value).value := by
  cases h.course with
  | unconnected hfails =>
    rw [hc] at hfails
    cases hfails
  | refused hc' hretrying hfails =>
    -- It is the same connection, whose probe has one answer.
    cases eq_of_acquire hc hc'
    rw [hprobe hretrying] at hfails
    cases hfails
  | sent hc' _ hsend =>
    cases eq_of_acquire hc hc'
    exact ⟨_, hsend, rfl⟩

/-- Once it is sent as a command, no failure of a batch is learnt. -/
theorem kind_ne_batch_of_returns (hc : d.acquire.ending = .returns (.ok c))
    (hprobe : op.isRetrying = true → c.probe.ending = .returns (.ok ()))
    (hprotocol : op.protocolFor c.stream = .command) (h : op.Returns d (.error e))
    (f : BatchFailure) : e.kind ≠ .batch f := by
  obtain ⟨result, hsend, hvalue⟩ := exists_send_of_returns hc hprobe h
  rw [hprotocol, send, Call.map] at hsend
  obtain ⟨answer, -, rfl⟩ := Ending.map_eq_returns_iff.1 hsend
  cases hreshape : (op.reshape answer).value with
  | ok r =>
    rw [hreshape] at hvalue
    cases hvalue
  | error e' =>
    rw [hreshape, value_conclude_error] at hvalue
    cases hvalue
    exact kind_reported_ne_batch (kind_ne_batch_of_reshape hreshape) f

/-- **Errors.** Whatever the calls come to, and whichever way the execution goes: an error of the
    acquisition is the one that the caller gets. So is an error of the probe and of the write, by
    either protocol, but for two. A refusal of transaction numbers is explained where retrying was
    asked for, with that very error behind the explanation, so that the refusal itself is never what
    the caller gets then. The failure of a batch that was sent as a command is told as a duplicate
    key or as a write concern, and never as the failure of a batch. A result of the older protocol
    is the one that the caller gets. -/
theorem errors_reported (op : Operation) (d : Deployment) :
    (∀ e, d.acquire.ending = .returns (.error e) → op.Returns d (.error e)) ∧
    ∀ c, d.acquire.ending = .returns (.ok c) →
      (op.isRetrying = true → ∀ e, c.probe.ending = .returns (.error e) → op.PassesOn d e) ∧
      ((op.isRetrying = true → c.probe.ending = .returns (.ok ())) →
        (op.protocolFor c.stream = .command →
          (∀ e, (c.sendCommand op.batch).ending = .returns (.error e) →
            (∀ f, e.kind ≠ .batch f) → op.PassesOn d e) ∧
          (∀ e f, (c.sendCommand op.batch).ending = .returns (.error e) → e.kind = .batch f →
            ∃ e' f', op.Returns d (.error e') ∧
              (e'.kind = .duplicateKey f' ∨ e'.kind = .writeConcern f')) ∧
          ∀ e, op.Returns d (.error e) → ∀ f, e.kind ≠ .batch f) ∧
        (op.protocolFor c.stream = .legacy →
          (∀ e, (c.sendLegacy op.batch).ending = .returns (.error e) → op.PassesOn d e) ∧
          ∀ r, (c.sendLegacy op.batch).ending = .returns (.ok r) → op.Returns d (.ok r))) ∧
      (op.isRetrying = true →
        ∀ e, op.Returns d (.error e) → e.refusesTransactionNumbers = false) := by
  refine ⟨fun e h => (Course.unconnected h).returns, fun c hc => ⟨?probe, ?write, ?refusal⟩⟩
  case probe =>
    intro hretrying e h
    exact (returns_of_refused hc hretrying h).passesOn
  case write =>
    intro hprobe
    refine ⟨fun hprotocol => ⟨?other, ?batch, ?never⟩, fun hprotocol => ⟨?legacy, ?result⟩⟩
    case other =>
      intro e h hother
      have hreturns := returns_of_command hc hprobe hprotocol h
      rw [value_reshape_of_ne_batch hother, value_conclude_error] at hreturns
      exact hreturns.passesOn
    case batch =>
      intro e f h hf
      exact ⟨_, _, returns_of_batch hc hprobe hprotocol h hf,
        LastErrorForm.kind_labelledError_cases f e.labels op.kind⟩
    case never =>
      intro e h
      exact kind_ne_batch_of_returns hc hprobe hprotocol h
    case legacy =>
      intro e h
      have hreturns := returns_of_legacy hc hprobe hprotocol h
      rw [value_conclude_error] at hreturns
      exact hreturns.passesOn
    case result =>
      intro r h
      exact returns_of_legacy hc hprobe hprotocol h
  case refusal =>
    intro hretrying e h
    obtain ⟨e', rfl⟩ := exists_reported_of_returns hc h
    rw [reported_of_isRetrying hretrying]
    exact e'.refuses_explained

/-- What a deployment without transaction numbers answers. -/
def refusal : Error :=
  Error.ofKind (.command ⟨20, "IllegalOperation", "Transaction numbers are not allowed"⟩)

/-- A removal is refused by such a deployment, and fails on another one with the labels of its write
    concern. -/
theorem errors_reported_slow :
    let refusing : Deployment := .slow (.returns (.error refusal))
    let failure : BatchFailure :=
      ⟨{ removed := 1 }, [], some ⟨64, "", "timed out", [], ["RetryableWriteError"]⟩, .localhost⟩
    let failing : Deployment := .slow (.returns (.error (Error.ofKind (.batch failure))))
    (∃ e', removeFirst.Returns refusing (.error e') ∧ e'.kind = .retryableWritesNotSupported ∧
      e'.source? = some refusal) ∧
    ∃ e' f', removeFirst.Returns failing (.error e') ∧
      (e'.kind = .duplicateKey f' ∨ e'.kind = .writeConcern f') := by
  intro refusing failure failing
  obtain ⟨-, hrefusing⟩ := errors_reported removeFirst refusing
  obtain ⟨-, hwrite, -⟩ := hrefusing _ rfl
  obtain ⟨hother, -, -⟩ := (hwrite fun _ => rfl).1 rfl
  have hpasses : removeFirst.PassesOn refusing refusal := hother refusal rfl fun _ => nofun
  rw [PassesOn, if_pos ⟨rfl, by decide⟩] at hpasses
  obtain ⟨-, hfailing⟩ := errors_reported removeFirst failing
  obtain ⟨-, hwrite', -⟩ := hfailing _ rfl
  obtain ⟨-, hbatch, -⟩ := (hwrite' fun _ => rfl).1 rfl
  exact ⟨hpasses, hbatch _ failure rfl rfl⟩

end Operation

end WritePath
