import WritePath.Proofs.Errors
import WritePath.Proofs.Replies

namespace WritePath

/-!
# Failed batches, from the reply to the caller

A reply to a command may report that requests failed, or that the write concern was not satisfied.
The caller is told of either in the older shape.

* `Operation.failed_reply_reported` — what the caller is told of them.
* `LastErrorForm.labels_of_translation` — what becomes of the labels of a failure that is put into
  the older shape on its own.
-/

/-! ### What the caller is told -/

namespace LastErrorForm

variable {f : BatchFailure} {labels : LabelSet} {kind : WriteKind}

theorem kind_labelledError_eq_duplicateKey_iff :
    (labelledError f labels kind).kind = .duplicateKey (failure f kind) ↔
      ∃ last ∈ f.requests.getLast?, last.code ∈ duplicateKeyCodes := by
  have hlast : isDuplicateKey f = true ↔
      ∃ last ∈ f.requests.getLast?, last.code ∈ duplicateKeyCodes := by
    rw [isDuplicateKey, Option.any_eq_true]
    simp only [List.contains_iff_mem, Option.mem_def]
  rw [← hlast]
  show errorKind f kind = _ ↔ _
  rw [errorKind]
  cases isDuplicateKey f <;> simp

end LastErrorForm

namespace Operation

variable {c : Connection} {reply : Document} {r : Command.Reply}

/-- **Failed replies.** A batch was sent as a command, and the reply, which says that the command was
    carried out, reports failed requests or a write concern that was not satisfied. Then the caller
    is told of a duplicate key if some requests failed, and the last of them with a code that blames
    a unique index; and of a write concern otherwise. The error has the labels of the reply and
    those of its write concern, and no others. It tells the address of the connection, and, in the
    older shape, the result that the reply would have been read as if it had not reported any
    failure. -/
theorem failed_reply_reported (op : Operation) (d : Deployment)
    (hc : d.acquire.ending = .returns (.ok c))
    (hprobe : op.isRetrying = true → c.probe.ending = .returns (.ok ()))
    (hprotocol : op.protocolFor c.stream = .command)
    (hsend : (c.sendCommand op.batch).ending
      = .returns (Command.readReply op.kind reply c.stream.address))
    (hok : Command.isOk reply = true) (hread : Command.Reply.ofDocument? reply = some r)
    (hfails : r.requestFailures ≠ none ∨ r.concernFailure ≠ none) :
    ∃ e failure result, op.Returns d (.error e) ∧
      (e.kind = .duplicateKey failure ∨ e.kind = .writeConcern failure) ∧
      (e.kind = .duplicateKey failure ↔
        ∃ last ∈ (r.requestFailures.getD []).getLast?, last.code ∈ [11000, 11001, 12582]) ∧
      (∀ label, label ∈ e.labels ↔
        label ∈ r.labels.getD [] ∨ ∃ concern ∈ r.concernFailure, label ∈ concern.labels) ∧
      failure.address = c.stream.address ∧
      Command.readReply op.kind (reply.without ["writeErrors", "writeConcernError"])
        c.stream.address = .ok result ∧
      failure.result = LastErrorForm.result result op.kind := by
  have hisFailure : r.isFailure = true := by
    rw [Command.Reply.isFailure, Bool.or_eq_true, Option.isSome_iff_ne_none,
      Option.isSome_iff_ne_none]
    exact hfails
  have hreply := Command.readReply_of_isFailure op.kind c.stream.address hok hread hisFailure
  rw [hreply] at hsend
  have hlabels (label : String) :
      label ∈ (ErrorKind.batch (r.failure op.kind c.stream.address)).concernLabels ↔
        ∃ concern ∈ r.concernFailure, label ∈ concern.labels := by
    show label ∈ r.concernFailure.elim [] (·.labels) ↔ _
    cases r.concernFailure <;> simp
  refine ⟨_, _, _, returns_of_batch hc hprobe hprotocol hsend rfl,
    LastErrorForm.kind_labelledError_cases .., LastErrorForm.kind_labelledError_eq_duplicateKey_iff,
    fun label => ?_, rfl, Command.readReply_without op.kind c.stream.address hok hread, rfl⟩
  exact Error.mem_labels_of.trans (or_congr_right (hlabels label))

/-- Two replacements, which may be repeated. -/
def replaceTwo : Operation where
  batch :=
    { removeFirst.batch with
      requests := .replace [⟨[("_id", .int32 1)], [], true⟩, ⟨[("_id", .int32 2)], [], true⟩]
      requests_ne := by decide
      faultless := by decide }
  retryWrites := true

/-- One of them upserts a document and the other runs into a unique index, while the server waits for
    others in vain. -/
theorem failed_reply_reported_replaceTwo :
    let reply : Document :=
      [("ok", .int32 1), ("n", .int32 1), ("nModified", .int32 0),
        ("upserted", .array [.document [("index", .int32 0), ("_id", .int32 1)]]),
        ("writeErrors", .array [.document [("index", .int32 1), ("code", .int32 11000)]]),
        ("writeConcernError",
          .document [("code", .int32 64), ("errorLabels", .array [.string "Late"])]),
        ("errorLabels", .array [.string "Again"])]
    let r : Command.Reply :=
      { n := 1, modified := some 0, upserted := some [⟨0, .int32 1⟩]
        requestFailures := some [⟨1, 11000, "", []⟩]
        concernFailure := some ⟨64, "", "", [], ["Late"]⟩, labels := some ["Again"] }
    let d : Deployment := .slow (.returns (Command.readReply .replace reply .localhost))
    (Command.isOk reply = true ∧ Command.Reply.ofDocument? reply = some r ∧
      r.requestFailures ≠ none) ∧
    ∃ e failure, replaceTwo.Returns d (.error e) ∧ e.kind = .duplicateKey failure ∧
      ("Again" ∈ e.labels ∧ "Late" ∈ e.labels) ∧ failure.address = .localhost ∧
      failure.result = ⟨true, 1, false, some (.int32 1)⟩ := by
  intro reply r d
  have hok : Command.isOk reply = true := by decide
  have hread : Command.Reply.ofDocument? reply = some r := rfl
  have hfails : r.requestFailures ≠ none := nofun
  obtain ⟨e, failure, result, hreturns, -, hkind, hlabels, haddress, hresult, htold⟩ :=
    failed_reply_reported replaceTwo d rfl (fun _ => rfl) rfl rfl hok hread (.inl hfails)
  -- Without its failures, the reply is that of a single upsert.
  have hsuccess : Command.readReply .replace (reply.without ["writeErrors", "writeConcernError"])
      .localhost = .ok { modified := some 0, upserts := [⟨0, .int32 1⟩] } := rfl
  cases hresult.symm.trans hsuccess
  exact ⟨⟨hok, hread, hfails⟩, e, failure, hreturns, hkind.2 ⟨_, rfl, by decide⟩,
    ⟨(hlabels _).2 (.inl (by decide)), (hlabels _).2 (.inr ⟨_, rfl, by decide⟩)⟩, haddress, htold⟩

end Operation

/-! ### Failures on their own -/

namespace LastErrorForm

/-- No label is left of a failure that is put into the older shape on its own. -/
theorem labels_error (f : BatchFailure) (kind : WriteKind) : (error f kind).labels = .empty := rfl

theorem labels_error_eq_iff {f : BatchFailure} {kind : WriteKind} :
    (error f kind).labels = (Error.ofKind (.batch f)).labels ↔
      (ErrorKind.batch f).concernLabels = [] := by
  have hmem (label : String) :
      label ∈ (Error.ofKind (.batch f)).labels ↔ label ∈ (ErrorKind.batch f).concernLabels := by
    rw [Error.ofKind, Error.mem_labels_of, or_iff_right List.not_mem_nil]
  rw [labels_error, List.eq_nil_iff_forall_not_mem]
  constructor
  · intro h label hlabel
    rw [← hmem, ← h] at hlabel
    exact LabelSet.not_mem_empty label hlabel
  · intro h
    apply LabelSet.ext
    intro label
    rw [hmem, iff_false_intro (h label), iff_false]
    exact LabelSet.not_mem_empty label

/-- **Labels.** A failure that is put into the older shape on its own has no label, so that its
    labels are those of the failed batch only if that has none. In an execution, where it comes with
    its labels, it keeps all of them. -/
theorem labels_of_translation (f : BatchFailure) (kind : WriteKind) :
    (error f kind).labels = .empty ∧
    ((error f kind).labels = (Error.ofKind (.batch f)).labels ↔
      (ErrorKind.batch f).concernLabels = []) ∧
    ∀ (op : Operation) (labels : List String),
      ∃ e, (op.reshape (.error (Error.of (.batch f) labels))).value = .error e ∧
        e.labels = (Error.of (.batch f) labels).labels :=
  ⟨labels_error f kind, labels_error_eq_iff,
    fun _ _ => ⟨_, Operation.value_reshape_of_batch rfl, rfl⟩⟩

/-- The labels of a write concern that was not satisfied in time are lost. -/
theorem labels_error_ne :
    let timedOut : BatchFailure :=
      { result := { matched := 1 }, requests := [], address := .localhost
        concern := some ⟨64, "", "x", [], ["b", "a", "b"]⟩ }
    (error timedOut .update).labels ≠ (Error.ofKind (.batch timedOut)).labels := by
  intro timedOut
  rw [Ne, labels_error_eq_iff]
  exact List.cons_ne_nil _ _

end LastErrorForm

end WritePath
