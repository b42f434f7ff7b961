import WritePath.Proofs.Doubles
import WritePath.Proofs.Errors
import WritePath.Proofs.FailureDocuments
import WritePath.Proofs.Replies

namespace WritePath

/-!
# Replies that either protocol may read

A server says in the same fields why it does not carry out a command and how many documents it
removed, but each of the protocols reads them in a way of its own.

* `Document.numberAt?` — the exact number under a name; `Command.isOk_iff` and `LastError.isOk_iff`
  tell which ones report that a command was carried out.
* `CommandFailure.Told` — a reply tells why a command was not carried out.
* `CommandFailure.Told.readReply_command`, `CommandFailure.Told.readReply_lastError` — what each of
  the protocols makes of it.
* `CommandFailure.refusals_alike` — both make the same of it, and so does the check for transaction
  numbers.
* `WriteResult.removals_alike` — what each of them makes of a count.
-/

/-! ### Success -/

/-- The exact number under a name. -/
def Document.numberAt? (d : Document) (key : String) : Option ℚ :=
  (d.get? key).bind Bson.number?

theorem Document.toInteger?_eq_some_one_iff {d : Document} {key : String} :
    (d.get? key).bind Bson.toInteger? = some 1 ↔
      d.numberAt? key = some 1 ∨ d.numberAt? key = some Binary64.nextToOne := by
  rw [numberAt?]
  cases d.get? key with
  | none => simp
  | some v => exact Bson.toInteger?_eq_some_one_iff

theorem Command.isOk_iff {reply : Document} :
    isOk reply = true ↔
      reply.numberAt? "ok" = some 1 ∨ reply.numberAt? "ok" = some Binary64.nextToOne := by
  rw [isOk, decide_eq_true_eq, Document.toInteger?_eq_some_one_iff]

/-- The older protocol tells success in the same way. -/
theorem LastError.isOk_iff {reply : Document} :
    isOk reply = true ↔
      reply.numberAt? "ok" = some 1 ∨ reply.numberAt? "ok" = some Binary64.nextToOne :=
  Command.isOk_iff

/-! ### Refusals -/

/-- A code is read as it is, whatever width it was written in. -/
theorem Bson.toInt32?_int64 (n : Int32) : (int64 n.toInt64).toInt32? = some n := by
  rw [toInt32?, toInteger?_int64, Option.bind_some, Int32.toInt_toInt64, int32?_toInt]

theorem Bson.readInt32?_int64 (n : Int32) : (int64 n.toInt64).readInt32? = some n := by
  show int32? n.toInt64.toInt = some n
  rw [Int32.toInt_toInt64, int32?_toInt]

namespace CommandFailure

/-- A reply tells why a command was not carried out: by a code in an integer of either width, by its
    name and a message where the server has them, and by labels. -/
structure Told (reply : Document) (failure : CommandFailure) (labels : List String) : Prop where
  code : reply.get? "code" = some (.int32 failure.code) ∨
    reply.get? "code" = some (.int64 failure.code.toInt64)
  codeName : reply.get? "codeName" = some (.string failure.codeName) ∨
    reply.get? "codeName" = none ∧ failure.codeName = ""
  message : reply.get? "errmsg" = some (.string failure.message) ∨
    reply.get? "errmsg" = none ∧ reply.get? "err" = none ∧ failure.message = ""
  labels : reply.get? "errorLabels" = some (.array (labels.map .string)) ∨
    reply.Omits "errorLabels" ∧ labels = []

variable {reply : Document} {failure : CommandFailure} {labels : List String}

/-! #### As the reply to a command -/

/-- A text is read as it is, or is empty where the field is left out. -/
theorem withDefault_slot_of_get? {place : Nat} {key text : String}
    (h : reply.get? key = some (.string text) ∨ reply.get? key = none ∧ text = "") :
    ((Record.named reply).slot place [key]).withDefault "" Bson.readString? = some text := by
  rw [Record.slot_named]
  rcases h with htext | ⟨hnone, hdefault⟩
  · rw [htext]
    rfl
  · rw [hnone, hdefault]
    rfl

theorem Told.ofRecord? (h : Told reply failure labels) :
    CommandFailure.ofRecord? (.named reply) = some failure := by
  have hcode : ((Record.named reply).slot 0 ["code"]).required Bson.readInt32?
      = some failure.code := by
    rw [Record.slot_named]
    rcases h.code with hcode | hcode <;> rw [hcode]
    · exact int32?_toInt failure.code
    · exact Bson.readInt32?_int64 failure.code
  have hmessage : reply.get? "errmsg" = some (.string failure.message) ∨
      reply.get? "errmsg" = none ∧ failure.message = "" :=
    h.message.imp_right fun hnone => ⟨hnone.1, hnone.2.2⟩
  rw [CommandFailure.ofRecord?, hcode, withDefault_slot_of_get? h.codeName,
    withDefault_slot_of_get? hmessage]
  rfl

theorem Told.exists_labels (h : Told reply failure labels) :
    ∃ labels? : Option (List String),
      ((Record.named reply).slot 0 ["errorLabels"]).optional (Bson.readList? Bson.readString?)
        = some labels? ∧ labels?.getD [] = labels := by
  rcases h.labels with hlabels | ⟨homits, rfl⟩
  · refine ⟨some labels, ?_, rfl⟩
    rw [Record.optional_slot_eq_some_iff]
    exact ⟨_, hlabels, nofun, Bson.mapM_readString? labels⟩
  · refine ⟨none, ?_, rfl⟩
    rw [Record.optional_slot_eq_some_iff]
    exact homits

theorem Told.refusal_command (h : Told reply failure labels) :
    Command.refusal reply = Error.of (.command failure) labels := by
  obtain ⟨labels?, hread, hlabels⟩ := h.exists_labels
  have hcode : reply.hasKey "code" = true := by
    rw [Document.hasKey]
    rcases h.code with hcode | hcode <;> rw [hcode] <;> rfl
  rw [Command.refusal, if_pos hcode]
  dsimp only
  rw [hread, h.ofRecord?, ← hlabels]
  rfl

theorem Told.readReply_command (h : Told reply failure labels) (kind : WriteKind)
    (address : ServerAddress) (hok : Command.isOk reply = false) :
    Command.readReply kind reply address = .error (Error.of (.command failure) labels) := by
  rw [Command.readReply, hok, h.refusal_command]
  rfl

/-! #### As the answer about the last error -/

theorem Told.refusal_lastError (h : Told reply failure labels) :
    LastError.refusal reply = failure := by
  have hcode : LastError.code? reply = some failure.code := by
    rw [LastError.code?]
    rcases h.code with hcode | hcode <;> rw [hcode, Option.bind_some]
    · exact Bson.toInt32?_int32 failure.code
    · exact Bson.toInt32?_int64 failure.code
  have hname : (LastError.stringField? reply "codeName").getD "" = failure.codeName := by
    rw [LastError.stringField?]
    rcases h.codeName with hname | ⟨hname, hdefault⟩ <;> rw [hname]
    · rfl
    · rw [hdefault]; rfl
  have hmessage : ((LastError.stringField? reply "errmsg").or
      (LastError.stringField? reply "err")).getD "" = failure.message := by
    rw [LastError.stringField?, LastError.stringField?]
    rcases h.message with hmessage | ⟨hmessage, herr, hdefault⟩
    · rw [hmessage]; rfl
    · rw [hmessage, herr, hdefault]; rfl
  rw [LastError.refusal, hcode, hname, hmessage]
  rfl

theorem Told.readReply_lastError (h : Told reply failure labels) (kind : WriteKind)
    (address : ServerAddress) (hok : LastError.isOk reply = false) :
    LastError.readReply kind reply address = .error (Error.ofKind (.command failure)) := by
  rw [LastError.readReply, hok, h.refusal_lastError]
  rfl

end CommandFailure

/-! ### Replies that are taken for successes -/

theorem Command.kind_ne_command_of_isOk {kind : WriteKind} {reply : Document}
    {address : ServerAddress} {e : Error} (hok : isOk reply = true)
    (h : readReply kind reply address = .error e) (failure : CommandFailure) :
    e.kind ≠ .command failure := by
  intro hkind
  cases hread : Reply.ofDocument? reply with
  | none =>
    rw [readReply, if_pos hok, hread] at h
    cases h
    cases hkind
  | some r =>
    cases hfails : r.isFailure with
    | false =>
      rw [readReply_of_not_isFailure kind address hok hread hfails] at h
      cases h
    | true =>
      rw [readReply_of_isFailure kind address hok hread hfails] at h
      cases h
      cases hkind

theorem LastError.kind_ne_command_of_isOk {kind : WriteKind} {reply : Document}
    {address : ServerAddress} {e : Error} (hok : isOk reply = true)
    (h : readReply kind reply address = .error e) (failure : CommandFailure) :
    e.kind ≠ .command failure := by
  intro hkind
  cases herr : stringField? reply "err" with
  | none =>
    rw [readReply, if_pos hok, herr] at h
    cases h
  | some message =>
    rw [readReply, if_pos hok, herr] at h
    cases h
    -- What it says has a document, which no failure of a command has.
    have hdocument := lastErrorFailure?_failureKind ⟨reply, address, resultIn kind reply⟩
    rw [Error.lastErrorFailure?, hkind] at hdocument
    cases hdocument

/-! ### What the caller is told -/

namespace Operation

variable {op : Operation} {d : Deployment} {c : Connection} {reply : Document}

/-- The server answers a write by a reply, which is read as the protocol of the write has it. -/
def AnsweredBy (op : Operation) (c : Connection) (reply : Document) : Prop :=
  match op.protocolFor c.stream with
  | .command =>
    (c.sendCommand op.batch).ending
      = .returns (Command.readReply op.kind reply c.stream.address)
  | .legacy =>
    (c.sendLegacy op.batch).ending
      = .returns (LastError.readReply op.kind reply c.stream.address)

/-- The failure of a command is reported by either protocol, for all that it may be explained. -/
theorem exists_returns_of_told {failure : CommandFailure} {labels : List String}
    (h : CommandFailure.Told reply failure labels) (hok : Command.isOk reply = false)
    (hc : d.acquire.ending = .returns (.ok c))
    (hprobe : op.isRetrying = true → c.probe.ending = .returns (.ok ()))
    (hanswered : op.AnsweredBy c reply) :
    ∃ e, op.Returns d (.error (op.reported e)) ∧ e.kind = .command failure := by
  rw [AnsweredBy] at hanswered
  cases hprotocol : op.protocolFor c.stream with
  | command =>
    rw [hprotocol] at hanswered
    have hreturns := returns_of_command hc hprobe hprotocol hanswered
    have hother : ∀ f, (Error.of (.command failure) labels).kind ≠ .batch f := fun _ => nofun
    rw [h.readReply_command _ _ hok, value_reshape_of_ne_batch hother, value_conclude_error]
      at hreturns
    exact ⟨_, hreturns, rfl⟩
  | legacy =>
    rw [hprotocol] at hanswered
    have hreturns := returns_of_legacy hc hprobe hprotocol hanswered
    rw [h.readReply_lastError _ _ hok, value_conclude_error] at hreturns
    exact ⟨_, hreturns, rfl⟩

theorem kind_reported_iff {e : Error} {failure : CommandFailure} (h : e.kind = .command failure) :
    (op.reported e).kind = .retryableWritesNotSupported ↔
      op.isRetrying = true ∧ failure.refusesTransactionNumbers = true := by
  have hrefuses : e.refusesTransactionNumbers = failure.refusesTransactionNumbers := by
    rw [Error.refusesTransactionNumbers, h]
  rw [← hrefuses]
  constructor
  · intro hkind
    by_contra hnot
    rw [reported_of_not hnot, h] at hkind
    cases hkind
  · rintro ⟨hretrying, htrue⟩
    rw [reported_of_isRetrying hretrying, Error.kind_explained_of_refuses htrue]

end Operation

namespace CommandFailure

variable {reply : Document} {failure : CommandFailure} {labels : List String}

/-- **Refusals.** A reply tells why a command was not carried out, and the number by which it reports
    success is not one. Unless that is the next double, both protocols read the same failure in it;
    only the reply to a command has labels, which are those of the error. So the check for
    transaction numbers, and what the caller is told of it, do not depend on the protocol. The next
    double is taken for one by both of them, and no failure of a command is read then. -/
theorem refusals_alike (kind : WriteKind) (address : ServerAddress)
    (h : Told reply failure labels) (hone : reply.numberAt? "ok" ≠ some 1) :
    (reply.numberAt? "ok" ≠ some Binary64.nextToOne →
      (∃ e, Command.readReply kind reply address = .error e ∧ e.kind = .command failure ∧
        (∀ label, label ∈ e.labels ↔ label ∈ labels) ∧
        e.refusesTransactionNumbers = failure.refusesTransactionNumbers) ∧
      (∃ e, LastError.readReply kind reply address = .error e ∧ e.kind = .command failure ∧
        e.refusesTransactionNumbers = failure.refusesTransactionNumbers) ∧
      ∀ (op : Operation) (d : Deployment) (c : Connection),
        d.acquire.ending = .returns (.ok c) →
        (op.isRetrying = true → c.probe.ending = .returns (.ok ())) → op.AnsweredBy c reply →
        ∃ e, op.Returns d (.error e) ∧
          (e.kind = .retryableWritesNotSupported ↔
            op.isRetrying = true ∧ failure.refusesTransactionNumbers = true)) ∧
    (reply.numberAt? "ok" = some Binary64.nextToOne →
      (∀ e, Command.readReply kind reply address = .error e → ∀ f, e.kind ≠ .command f) ∧
      ∀ e, LastError.readReply kind reply address = .error e → ∀ f, e.kind ≠ .command f) := by
  refine ⟨fun hnext => ?_, fun hnext => ?_⟩
  · have hok : Command.isOk reply = false := by
      rw [Bool.eq_false_iff, Ne, Command.isOk_iff]
      exact not_or_intro hone hnext
    refine ⟨⟨_, h.readReply_command kind address hok, rfl, fun label => ?_, rfl⟩,
      ⟨_, h.readReply_lastError kind address hok, rfl, rfl⟩, fun op d c hc hprobe hanswered => ?_⟩
    · rw [Error.mem_labels_of]
      exact or_iff_left List.not_mem_nil
    · obtain ⟨e, hreturns, hkind⟩ :=
        Operation.exists_returns_of_told h hok hc hprobe hanswered
      exact ⟨_, hreturns, Operation.kind_reported_iff hkind⟩
  · have hok : Command.isOk reply = true := Command.isOk_iff.2 (.inr hnext)
    exact ⟨fun e he => Command.kind_ne_command_of_isOk hok he,
      fun e he => LastError.kind_ne_command_of_isOk hok he⟩

/-- A removal is refused by a deployment without transaction numbers, which does not give its code a
    name. -/
theorem refusals_alike_removeFirst :
    let reply : Document :=
      [("ok", .int32 0), ("errmsg", .string "Transaction numbers are not allowed"),
        ("code", .int64 20), ("errorLabels", .array [.string "b", .string "a"])]
    let failure : CommandFailure := ⟨20, "", "Transaction numbers are not allowed"⟩
    let d : Deployment := .slow (.returns (Command.readReply .delete reply .localhost))
    (Told reply failure ["b", "a"] ∧ reply.numberAt? "ok" ≠ some 1 ∧
      reply.numberAt? "ok" ≠ some Binary64.nextToOne) ∧
    (∃ e, Command.readReply .delete reply .localhost = .error e ∧ e.kind = .command failure ∧
      "a" ∈ e.labels) ∧
    (∃ e, LastError.readReply .delete reply .localhost = .error e ∧ e.kind = .command failure) ∧
    ∃ e, Operation.removeFirst.Returns d (.error e) ∧ e.kind = .retryableWritesNotSupported := by
  intro reply failure d
  have htold : Told reply failure ["b", "a"] :=
    ⟨.inr rfl, .inr ⟨rfl, rfl⟩, .inl rfl, .inl rfl⟩
  have hnumber : reply.numberAt? "ok" = some ((0 : ℤ) : ℚ) := rfl
  have hone : reply.numberAt? "ok" ≠ some 1 := by
    rw [hnumber]
    norm_num
  have hnext : reply.numberAt? "ok" ≠ some Binary64.nextToOne := by
    rw [hnumber, Ne, Option.some.injEq]
    exact Binary64.intCast_ne_nextToOne 0
  obtain ⟨⟨e, he, hkind, hlabels, -⟩, ⟨e', he', hkind', -⟩, htells⟩ :=
    (refusals_alike .delete .localhost htold hone).1 hnext
  obtain ⟨told, hreturns, hexplained⟩ :=
    htells Operation.removeFirst d _ rfl (fun _ => rfl) rfl
  exact ⟨⟨htold, hone, hnext⟩, ⟨e, he, hkind, (hlabels "a").2 (by decide)⟩, ⟨e', he', hkind'⟩,
    told, hreturns, hexplained.2 ⟨rfl, by decide⟩⟩

/-- A reply whose success is not one is taken for a success by both protocols, although it tells why
    the command was not carried out. -/
theorem refusals_alike_nextToOne :
    let reply : Document :=
      [("ok", .double ⟨0x3ff0000000000001⟩), ("code", .int32 20),
        ("errmsg", .string "Transaction numbers are not allowed")]
    (Told reply ⟨20, "", "Transaction numbers are not allowed"⟩ [] ∧
      reply.numberAt? "ok" ≠ some 1) ∧
    (∃ result, Command.readReply .update reply .localhost = .ok result) ∧
    ∃ result, LastError.readReply .update reply .localhost = .ok result := by
  intro reply
  have htold : Told reply ⟨20, "", "Transaction numbers are not allowed"⟩ [] :=
    ⟨.inl rfl, .inr ⟨rfl, rfl⟩, .inl rfl, .inr ⟨.inl rfl, rfl⟩⟩
  have hnumber : reply.numberAt? "ok" = some Binary64.nextToOne :=
    Bson.number?_double_eq_some_iff.2 ⟨by decide, Binary64.value_nextToOne⟩
  have hone : reply.numberAt? "ok" ≠ some 1 := by
    rw [hnumber, Ne, Option.some.injEq, Binary64.nextToOne]
    norm_num
  exact ⟨⟨htold, hone⟩, ⟨_, rfl⟩, ⟨_, rfl⟩⟩

end CommandFailure

/-! ### Counts of removals -/

/-- A whole number that an int64 can hold is a count, whatever it is held in. -/
theorem Bson.toCount?_of_number? {v : Bson} {count : UInt64}
    (h : v.number? = some (count.toNat : ℚ)) (hcount : count.toNat ≤ greatestCount) :
    v.toCount? = some count := by
  rw [greatestCount] at hcount
  have hinteger : v.toInteger? = some (Int64.ofInt count.toNat) := by
    refine toInteger?_of_number? ?_ (by omega) (by omega)
    rw [h, Int.cast_natCast]
  rw [toCount?, hinteger, Option.bind_some, Int64.toInt_ofInt_of_le (by omega) (by omega),
    uint64?_toNat]

/-- The reply to a command has its count in an integer, which is read as it is. -/
theorem Bson.readUInt64?_of_number? {v : Bson} {count : UInt64}
    (h : v.number? = some (count.toNat : ℚ)) (hinteger : ∀ x, v ≠ .double x) :
    v.readUInt64? = some count := by
  cases v with
  | int32 n | int64 n =>
    have hn : n.toInt = count.toNat := by exact_mod_cast Option.some.inj h
    show uint64? n.toInt = some count
    rw [hn, uint64?_toNat]
  | double x => exact absurd rfl (hinteger x)
  | _ => cases h

namespace WriteResult

variable {reply : Document} {count : UInt64}

/-- The outcome of a removal. -/
def removed (count : UInt64) : WriteResult :=
  ⟨true, count, false, none⟩

theorem readReply_lastError_of_keys (h : reply.keys ⊆ ["ok", "n"]) (address : ServerAddress)
    (hok : LastError.isOk reply = true) {v : Bson} (hv : reply.get? "n" = some v)
    (hcount : v.toCount? = some count) :
    LastError.readReply .delete reply address = .ok (removed count) := by
  have hother (key : String) (hkey : key ∉ ["ok", "n"]) : reply.get? key = none :=
    Document.get?_eq_none_iff.2 fun hmem => hkey (h hmem)
  have hn : LastError.countIn .delete reply = count :=
    LastError.countIn_eq (by decide) hv hcount
  have hupdated : reply.get? "updatedExisting" = (none : Option Bool).map .boolean :=
    hother _ (by decide)
  rw [LastError.readReply_of_err_eq_none address hok (hother _ (by decide)), LastError.resultIn,
    hn, LastError.updatedExistingIn_eq hupdated, hother "upserted" (by decide)]
  rfl

theorem readReply_command_of_keys (h : reply.keys ⊆ ["ok", "n"]) (address : ServerAddress)
    (hok : Command.isOk reply = true) {v : Bson} (hv : reply.get? "n" = some v)
    (hcount : v.readUInt64? = some count) :
    Command.readReply .delete reply address = .ok { removed := count } := by
  have homits (key : String) (hkey : key ∉ ["ok", "n"]) : reply.Omits key :=
    .inl (Document.get?_eq_none_iff.2 fun hmem => hkey (h hmem))
  have hread : Command.Reply.ofDocument? reply
      = some { n := count, modified := none, upserted := none, requestFailures := none
               concernFailure := none, labels := none } := by
    rw [Command.Reply.ofDocument?_eq_some_iff]
    constructor
    case n => exact .inr ⟨v, hv, hcount⟩
    all_goals exact homits _ (by decide)
  rw [Command.readReply_of_not_isFailure .delete address hok hread rfl]
  rfl

/-- A count that cannot be read makes the whole reply unreadable. -/
theorem readReply_command_of_unreadable {kind : WriteKind} (address : ServerAddress)
    (hok : Command.isOk reply = true) {v : Bson} (hv : reply.get? "n" = some v)
    (hcount : v.readUInt64? = none) :
    Command.readReply kind reply address = .error (Error.ofKind .undecodable) := by
  have hread : Command.Reply.ofDocument? reply = none := by
    rw [Option.eq_none_iff_forall_ne_some]
    intro r hr
    rcases (Command.Reply.ofDocument?_eq_some_iff.1 hr).n with ⟨hnone, -⟩ | ⟨v', hv', hn⟩
    · rw [hv] at hnone
      cases hnone
    · rw [hv] at hv'
      cases hv'
      rw [hcount] at hn
      cases hn
  rw [Command.readReply, if_pos hok, hread]

/-- **Removals.** A reply has no other fields than its success, which is one, and a count of removed
    documents that an int64 can hold. As the answer about the last error it is read as the result
    of so many removals, whatever the count is held in. As the reply to a command it comes to the
    same result in the older shape if the count is an integer; held in a double it cannot be read,
    though it is the same number. -/
theorem removals_alike (address : ServerAddress) (hfields : reply.keys ⊆ ["ok", "n"])
    (hok : reply.numberAt? "ok" = some 1) (hn : reply.numberAt? "n" = some (count.toNat : ℚ))
    (hcount : count.toNat ≤ greatestCount) :
    LastError.readReply .delete reply address = .ok (removed count) ∧
    ((∀ x, reply.get? "n" ≠ some (.double x)) →
      ∃ b, Command.readReply .delete reply address = .ok b ∧
        LastErrorForm.result b .delete = removed count) ∧
    ∀ x, reply.get? "n" = some (.double x) →
      Command.readReply .delete reply address = .error (Error.ofKind .undecodable) := by
  have hisOk : Command.isOk reply = true := Command.isOk_iff.2 (.inl hok)
  obtain ⟨v, hv, hnumber⟩ := Option.bind_eq_some_iff.1 hn
  refine ⟨?_, fun hinteger => ?_, fun x hx => ?_⟩
  · have hread : v.toCount? = some count := Bson.toCount?_of_number? hnumber hcount
    exact readReply_lastError_of_keys hfields address hisOk hv hread
  · have hread : v.readUInt64? = some count := by
      refine Bson.readUInt64?_of_number? hnumber fun x hx => ?_
      rw [hx] at hv
      exact hinteger x hv
    exact ⟨_, readReply_command_of_keys hfields address hisOk hv hread, rfl⟩
  · exact readReply_command_of_unreadable address hisOk hx rfl

/-- Removed documents are counted in an int64 and in a double. -/
theorem removals_alike_three :
    let counted (n : Bson) : Document := [("n", n), ("ok", .double ⟨0x3ff0000000000000⟩)]
    let integer : Document := counted (.int64 3)
    let double : Document := counted (.double ⟨0x4008000000000000⟩)
    (integer.keys ⊆ ["ok", "n"] ∧ double.keys ⊆ ["ok", "n"] ∧
      integer.numberAt? "ok" = some 1 ∧ double.numberAt? "ok" = some 1 ∧
      integer.numberAt? "n" = some 3 ∧ double.numberAt? "n" = some 3) ∧
    LastError.readReply .delete integer .localhost = .ok (removed 3) ∧
    LastError.readReply .delete double .localhost = .ok (removed 3) ∧
    (∃ b, Command.readReply .delete integer .localhost = .ok b ∧
      LastErrorForm.result b .delete = removed 3) ∧
    Command.readReply .delete double .localhost = .error (Error.ofKind .undecodable) := by
  intro counted integer double
  have hfields (n : Bson) : (counted n).keys ⊆ ["ok", "n"] := by
    show ["n", "ok"] ⊆ ["ok", "n"]
    decide
  have hok (n : Bson) : (counted n).numberAt? "ok" = some 1 :=
    Bson.number?_double_eq_some_iff.2 ⟨by decide, Binary64.value_one⟩
  have hinteger : integer.numberAt? "n" = some (((3 : UInt64).toNat : ℕ) : ℚ) := rfl
  have hthree : Binary64.value ⟨0x4008000000000000⟩ = ((3 : ℕ) : ℚ) := by
    rw [Binary64.value_of_fields (m := 3 * 2 ^ 51) (e := -51) (by decide) (by decide) (by decide)]
    norm_num
  have hdouble : double.numberAt? "n" = some (((3 : UInt64).toNat : ℕ) : ℚ) :=
    Bson.number?_double_eq_some_iff.2 ⟨by decide, hthree⟩
  have hcount : (3 : UInt64).toNat ≤ greatestCount := by decide
  obtain ⟨hlast, hcommand, -⟩ :=
    removals_alike .localhost (hfields _) (hok _) hinteger hcount
  obtain ⟨hlast', -, hunreadable⟩ :=
    removals_alike .localhost (hfields _) (hok _) hdouble hcount
  exact ⟨⟨hfields _, hfields _, hok _, hok _, hinteger, hdouble⟩, hlast, hlast',
    hcommand fun x => nofun, hunreadable _ rfl⟩

/-- A removal that succeeded is read as a failure because its count is held in a double. -/
theorem removals_alike_double :
    let reply : Document := [("ok", .int32 1), ("n", .double ⟨0x3ff0000000000000⟩)]
    (reply.numberAt? "ok" = some 1 ∧ reply.numberAt? "n" = some 1) ∧
    LastError.readReply .delete reply .localhost = .ok (removed 1) ∧
    ¬ ∃ b, Command.readReply .delete reply .localhost = .ok b := by
  intro reply
  have hok : reply.numberAt? "ok" = some ((1 : ℤ) : ℚ) := rfl
  have hn : reply.numberAt? "n" = some 1 :=
    Bson.number?_double_eq_some_iff.2 ⟨by decide, Binary64.value_one⟩
  refine ⟨⟨by rw [hok, Int.cast_one], hn⟩, rfl, ?_⟩
  rintro ⟨b, hb⟩
  cases hb

end WriteResult

end WritePath
