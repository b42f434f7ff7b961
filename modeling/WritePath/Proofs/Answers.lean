import WritePath.Proofs.Agreement

namespace WritePath

/-!
# What answers about the last error report

An answer reports a failed write by a message under `err`, and a command that failed by an `ok` other
than one.

* `LastError.readReply_of_not_isOk`, `LastError.readReply_of_err_ne_string` — commands that failed,
  and writes that succeeded.
* `LastError.failureKind_of_mem`, `LastError.failureKind_of_not_mem` — the number under `code` tells
  the kind of a failure.
* `LastError.answers_exact` — what every answer is read as, and which ones are read amiss.
-/

namespace LastError

variable {kind : WriteKind} {reply : Document} {address : ServerAddress}

/-! ### Successes and failures -/

theorem readReply_of_not_isOk (hok : isOk reply = false) :
    readReply kind reply address = .error (Error.ofKind (.command (refusal reply))) := by
  rw [readReply, hok, if_neg Bool.false_ne_true]

/-- No message but a string makes an answer report a failure. -/
theorem readReply_of_err_ne_string (hok : isOk reply = true)
    (herr : ∀ s, reply.get? "err" ≠ some (.string s)) :
    readReply kind reply address = .ok (resultIn kind reply) := by
  have hnone : stringField? reply "err" = none := by
    rw [Option.eq_none_iff_forall_ne_some]
    intro s hs
    exact herr s (stringField?_eq_some_iff.1 hs)
  rw [readReply, if_pos hok, hnone]

theorem exists_readReply_eq_ok_iff :
    (∃ result, readReply kind reply address = .ok result) ↔
      isOk reply = true ∧ ∀ s, reply.get? "err" ≠ some (.string s) := by
  constructor
  · rintro ⟨result, h⟩
    cases hok : isOk reply with
    | false =>
      rw [readReply_of_not_isOk hok] at h
      cases h
    | true =>
      refine ⟨rfl, fun s hs => ?_⟩
      rw [readReply_of_err_eq_string address hok hs] at h
      cases h
  · rintro ⟨hok, herr⟩
    exact ⟨_, readReply_of_err_ne_string hok herr⟩

/-- A message that is left out is no string. -/
theorem err_ne_string_of_omits (h : reply.Omits "err") (s : String) :
    reply.get? "err" ≠ some (.string s) := by
  intro hs
  exact Document.not_omits hs (by simp) h

/-! ### Kinds of failures -/

variable {failure : LastErrorFailure}

/-- The codes of unique indexes are beyond one, where a number stands for no integer but itself. -/
theorem code?_eq_some_iff {code : Int32} (hcode : code ∈ duplicateKeyCodes) :
    failure.code? = some code ↔ failure.response.numberAt? "code" = some (code.toInt : ℚ) := by
  have hlow : 2 ≤ code.toInt.natAbs := by
    simp only [duplicateKeyCodes, List.mem_cons, List.not_mem_nil, or_false] at hcode
    rcases hcode with rfl | rfl | rfl <;> decide
  rw [LastErrorFailure.code?, Document.numberAt?]
  cases failure.response.get? "code" with
  | none => simp
  | some v => exact Bson.toInt32?_eq_some_iff hlow

theorem failureKind_of_mem {code : Int32} (hcode : code ∈ duplicateKeyCodes)
    (h : failure.response.numberAt? "code" = some (code.toInt : ℚ)) :
    failureKind failure = .duplicateKey failure := by
  rw [failureKind, (code?_eq_some_iff hcode).2 h]
  exact if_pos hcode

theorem failureKind_of_not_mem
    (h : ∀ code ∈ duplicateKeyCodes,
      failure.response.numberAt? "code" ≠ some (code.toInt : ℚ)) :
    failureKind failure = .writeConcern failure := by
  rw [failureKind]
  cases hcode : failure.code? with
  | none => rfl
  | some code =>
    have hnot : code ∉ duplicateKeyCodes := by
      intro hmem
      exact h code hmem ((code?_eq_some_iff hmem).1 hcode)
    exact if_neg hnot

/-! ### All answers -/

/-- **Answers.** Where the `ok` of an answer is not the double next to one, and its `err` is a string
    or is left out, a success is read exactly if the `ok` is one and the `err` is left out. The other
    answers are read amiss: a success is read of an `ok` next to one as if it were one, and of any
    `err` that is not a string as if it were left out.

    Of every answer that is not read as a success an error is read. It is that of a command that
    failed if the `ok` is none of the two. Otherwise its document is the answer itself, and it is a
    duplicate key if the number under `code` is the code of one, and else a write concern. -/
theorem answers_exact (kind : WriteKind) (reply : Document) (address : ServerAddress) :
    (reply.numberAt? "ok" ≠ some Binary64.nextToOne →
      (reply.Omits "err" ∨ ∃ s, reply.get? "err" = some (.string s)) →
      ((∃ result, readReply kind reply address = .ok result) ↔
        reply.numberAt? "ok" = some 1 ∧ reply.Omits "err")) ∧
    ((∃ result, readReply kind reply address = .ok result) ↔
      (reply.numberAt? "ok" = some 1 ∨ reply.numberAt? "ok" = some Binary64.nextToOne) ∧
        ∀ s, reply.get? "err" ≠ some (.string s)) ∧
    (reply.numberAt? "ok" ≠ some 1 → reply.numberAt? "ok" ≠ some Binary64.nextToOne →
      ∃ e failure, readReply kind reply address = .error e ∧ e.kind = .command failure) ∧
    (reply.numberAt? "ok" = some 1 ∨ reply.numberAt? "ok" = some Binary64.nextToOne →
      ∀ s, reply.get? "err" = some (.string s) →
      ∃ e failure, readReply kind reply address = .error e ∧
        failure.response = reply ∧ failure.address = address ∧
        ((∃ code ∈ duplicateKeyCodes, reply.numberAt? "code" = some (code.toInt : ℚ)) →
          e.kind = .duplicateKey failure) ∧
        ((∀ code ∈ duplicateKeyCodes, reply.numberAt? "code" ≠ some (code.toInt : ℚ)) →
          e.kind = .writeConcern failure)) := by
  have hexact : (∃ result, readReply kind reply address = .ok result) ↔
      (reply.numberAt? "ok" = some 1 ∨ reply.numberAt? "ok" = some Binary64.nextToOne) ∧
        ∀ s, reply.get? "err" ≠ some (.string s) := by
    rw [exists_readReply_eq_ok_iff, isOk_iff]
  refine ⟨fun hnext herr => ?_, hexact, fun hone hnext => ?_, fun hok s hs => ?_⟩
  · rw [hexact, or_iff_left hnext, and_congr_right_iff]
    intro _
    constructor
    · intro hstring
      refine herr.resolve_right ?_
      rintro ⟨s, hs⟩
      exact hstring s hs
    · exact err_ne_string_of_omits
  · have hok : isOk reply = false := by
      rw [Bool.eq_false_iff, Ne, isOk_iff]
      exact not_or_intro hone hnext
    exact ⟨_, _, readReply_of_not_isOk hok, rfl⟩
  · refine ⟨_, ⟨reply, address, resultIn kind reply⟩,
      readReply_of_err_eq_string address (isOk_iff.2 hok) hs, rfl, rfl, ?_, ?_⟩
    · rintro ⟨code, hcode, hnumber⟩
      exact failureKind_of_mem hcode hnumber
    · intro hother
      exact failureKind_of_not_mem hother

/-- An answer about a duplicate key whose code is held in a double. -/
theorem answers_exact_duplicateKey :
    let reply : Document :=
      [("ok", .int32 1), ("err", .string "E11000 duplicate key"),
        ("code", .double ⟨0x40c57c0000000000⟩)]
    (reply.numberAt? "ok" = some 1 ∧ reply.get? "err" = some (.string "E11000 duplicate key")) ∧
    (¬ ∃ result, readReply .insert reply .localhost = .ok result) ∧
    ∃ e failure, readReply .insert reply .localhost = .error e ∧
      failure.response = reply ∧ e.kind = .duplicateKey failure := by
  intro reply
  have hnumber : reply.numberAt? "ok" = some ((1 : ℤ) : ℚ) := rfl
  have hok : reply.numberAt? "ok" = some 1 := by rw [hnumber, Int.cast_one]
  have hnext : reply.numberAt? "ok" ≠ some Binary64.nextToOne := by
    rw [hnumber, Ne, Option.some.injEq]
    exact Binary64.intCast_ne_nextToOne 1
  have hcode : reply.numberAt? "code" = some ((11000 : Int32).toInt : ℚ) := by
    have hvalue : Binary64.value ⟨0x40c57c0000000000⟩ = ((11000 : Int32).toInt : ℚ) := by
      rw [Binary64.value_of_fields (m := 11000 * 2 ^ 39) (e := -39) (by decide) (by decide)
        (by decide), (by decide : (11000 : Int32).toInt = 11000)]
      norm_num
    exact Bson.number?_double_eq_some_iff.2 ⟨by decide, hvalue⟩
  obtain ⟨htold, -, -, hfails⟩ := answers_exact .insert reply .localhost
  obtain ⟨e, failure, he, hresponse, -, hduplicate, -⟩ := hfails (.inl hok) _ rfl
  refine ⟨⟨hok, rfl⟩, ?_, e, failure, he, hresponse, hduplicate ⟨11000, by decide, hcode⟩⟩
  rw [htold hnext (.inr ⟨_, rfl⟩)]
  rintro ⟨-, homits⟩
  exact err_ne_string_of_omits homits _ rfl

/-- An answer whose message is a document, and one with an `ok` that is not one, are read as
    successes. -/
theorem answers_exact_swallowed :
    let told : Document :=
      [("ok", .int32 1), ("n", .int32 1), ("err", .document [("a", .int32 1)]),
        ("code", .int32 11000)]
    let next : Document := [("ok", .double ⟨0x3ff0000000000001⟩)]
    (¬ told.Omits "err" ∧ ∃ result, readReply .update told .localhost = .ok result) ∧
    next.numberAt? "ok" ≠ some 1 ∧ ∃ result, readReply .update next .localhost = .ok result := by
  intro told next
  have hnumber : next.numberAt? "ok" = some Binary64.nextToOne :=
    Bson.number?_double_eq_some_iff.2 ⟨by decide, Binary64.value_nextToOne⟩
  refine ⟨⟨Document.not_omits rfl (by simp), _, rfl⟩, ?_, _, rfl⟩
  rw [hnumber, Ne, Option.some.injEq, Binary64.nextToOne]
  norm_num

end LastError

end WritePath
