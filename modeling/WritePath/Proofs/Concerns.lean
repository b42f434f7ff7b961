import WritePath.Proofs.Documents
import WritePath.Proofs.Numbers
import WritePath.Protocol.Command
import WritePath.Protocol.LastError

namespace WritePath

/-!
# Write concerns in either protocol

A command holds the document of its write concern, unless that is left to the server. The question
about the last error takes over the fields of that document, however many there are.

* `WriteConcern.toDocument?_eq_none_iff` — there is no such document if too many servers have to
  apply the write.
* `WriteConcern.keys_of_toDocument?` — otherwise it has the fields that are set, and it is empty
  where nothing is set (`WriteConcern.isEmpty_of_toDocument?`).
* `Command.body`, `LastError.question` — what is made of the document in each of the protocols.
* `WriteConcern.told_alike` — both protocols refuse the same write concerns, and tell the others in
  the same fields.
-/

/-! ### The document of a write concern -/

theorem Acknowledgment.toBson?_eq_none_iff {a : Acknowledgment} :
    a.toBson? = none ↔ ∃ n, a = .nodes n ∧ 0x7fffffff < n.toNat := by
  cases a with
  | nodes n =>
    have hfits : int32? n.toNat = none ↔ 0x7fffffff < n.toNat := int32?_natCast_eq_none_iff
    rw [toBson?, Option.map_eq_none_iff, hfits]
    constructor
    · intro h
      exact ⟨n, rfl, h⟩
    · rintro ⟨m, ⟨⟩, h⟩
      exact h
  | majority | custom name => simp [toBson?]

namespace WriteConcern

variable {c : WriteConcern} {fields : Document}

/-- The names of the fields that are set, in the order in which they are sent. -/
def names (c : WriteConcern) : List String :=
  (if c.w.isSome then ["w"] else []) ++ (if c.timeout.isSome then ["wtimeout"] else [])
    ++ if c.journal.isSome then ["j"] else []

theorem names_sublist (c : WriteConcern) : c.names.Sublist ["w", "wtimeout", "j"] := by
  rw [names]
  cases c.w.isSome <;> cases c.timeout.isSome <;> cases c.journal.isSome <;> decide

theorem names_eq_nil_iff : c.names = [] ↔ c.isEmpty = true := by
  rw [names, isEmpty]
  cases c.w <;> cases c.timeout <;> cases c.journal <;> simp

/-- There is no document if too many servers have to apply the write. -/
theorem toDocument?_eq_none_iff :
    c.toDocument? = none ↔ ∃ n, c.w = some (.nodes n) ∧ 0x7fffffff < n.toNat := by
  have hencoded : c.toDocument? = none ↔ c.w.mapM Acknowledgment.toBson? = none := by
    rw [toDocument?]
    cases c.w.mapM Acknowledgment.toBson? <;> simp
  rw [hencoded]
  cases c.w with
  | none => simp
  | some a =>
    have hvalue : (some a).mapM Acknowledgment.toBson? = none ↔ a.toBson? = none := by
      cases ha : a.toBson? <;> simp [ha]
    rw [hvalue, Acknowledgment.toBson?_eq_none_iff]
    simp only [Option.some.injEq]

/-- The document has the fields that are set. -/
theorem keys_of_toDocument? (h : c.toDocument? = some fields) : fields.keys = c.names := by
  rw [toDocument?] at h
  obtain ⟨w, hw, h⟩ := Option.bind_eq_some_iff.1 h
  have hset : w.isSome = c.w.isSome := by
    cases hc : c.w with
    | none =>
      rw [hc] at hw
      cases hw
      rfl
    | some a =>
      rw [hc] at hw
      obtain ⟨v, -, rfl⟩ : ∃ v, a.toBson? = some v ∧ some v = w := by simpa using hw
      rfl
  cases h
  rw [names, ← hset]
  cases w <;> cases c.timeout <;> cases c.journal <;> rfl

theorem isEmpty_of_toDocument? (h : c.toDocument? = some fields) :
    fields.isEmpty = c.isEmpty := by
  have hkeys : fields = [] ↔ c.names = [] := by
    rw [← keys_of_toDocument? h, Document.keys, List.map_eq_nil_iff]
  rw [Bool.eq_iff_iff, List.isEmpty_iff, hkeys, names_eq_nil_iff]

theorem toDocument?_of_isEmpty (h : c.isEmpty = true) : c.toDocument? = some [] := by
  cases hd : c.toDocument? with
  | none =>
    obtain ⟨n, hn, -⟩ := toDocument?_eq_none_iff.1 hd
    simp [isEmpty, hn] at h
  | some fields =>
    rw [← isEmpty_of_toDocument? hd, List.isEmpty_iff] at h
    rw [h]

end WriteConcern

/-! ### What is made of it -/

namespace Command

/-- The command that carries a batch and the document of a write concern, unless that is empty. -/
def body (b : WriteBatch) (concern : Document) : Document :=
  [(b.kind.commandName, .string b.ns.coll), requestField b.requests,
      ("ordered", .boolean b.ordered)]
    ++ (if concern.isEmpty then [] else [("writeConcern", .document concern)])
    ++ (b.bypassValidation.map fun v => ("bypassDocumentValidation", .boolean v)).toList

/-- A command is made of a batch and the document of its write concern. -/
theorem build?_eq (b : WriteBatch) : build? b = b.writeConcern.toDocument?.map (body b) := by
  have hfield : concernField? b.writeConcern = b.writeConcern.toDocument?.map fun d =>
      if d.isEmpty then [] else [("writeConcern", .document d)] := by
    rw [concernField?]
    split
    · next h => rw [WriteConcern.toDocument?_of_isEmpty h]; rfl
    · next h =>
      cases hd : b.writeConcern.toDocument? with
      | none => rfl
      | some d =>
        rw [← WriteConcern.isEmpty_of_toDocument? hd] at h
        rw [Option.map_some, if_neg h]
        rfl
  rw [build?, hfield]
  cases b.writeConcern.toDocument? <;> rfl

/-- What may be left out of a command has other names than the fields before it. -/
theorem get?_body {key : String} (hkey : key ∈ ["writeConcern", "bypassDocumentValidation"])
    (b : WriteBatch) (concern : Document) :
    (body b concern).get? key
      = (Document.get? (if concern.isEmpty then [] else [("writeConcern", .document concern)])
          key).or
        (Document.get? (b.bypassValidation.map fun v => ("bypassDocumentValidation", .boolean v)).toList
          key) := by
  have hfirst : Document.get? [(b.kind.commandName, .string b.ns.coll), requestField b.requests,
      ("ordered", .boolean b.ordered)] key = none := by
    simp only [List.mem_cons, List.not_mem_nil, or_false] at hkey
    rw [WriteBatch.kind]
    rcases hkey with rfl | rfl <;> cases b.requests <;>
      simp [Requests.kind, WriteKind.commandName, requestField, Document.get?_cons]
  rw [body, Document.get?_append, Document.get?_append, hfirst, Option.none_or]

theorem get?_writeConcern_body (b : WriteBatch) (concern : Document) :
    (body b concern).get? "writeConcern"
      = if concern.isEmpty then none else some (.document concern) := by
  rw [get?_body (by decide)]
  cases concern.isEmpty <;> cases b.bypassValidation <;> simp [Document.get?_cons]

theorem get?_bypassDocumentValidation_body (b : WriteBatch) (concern : Document) :
    (body b concern).get? "bypassDocumentValidation" = b.bypassValidation.map .boolean := by
  rw [get?_body (by decide)]
  cases concern.isEmpty <;> cases b.bypassValidation <;> simp [Document.get?_cons]

/-- No name is used twice in a command. -/
theorem nodup_keys_body (b : WriteBatch) (concern : Document) : (body b concern).keys.Nodup := by
  rw [body, WriteBatch.kind]
  cases b.requests <;> cases concern.isEmpty <;> cases b.bypassValidation <;>
    simp [Requests.kind, WriteKind.commandName, requestField, Document.keys]

end Command

namespace LastError

/-- The question that takes over the fields of the document of a write concern. -/
def question (concern : Document) : Document :=
  ("getlasterror", .int32 1) :: concern

/-- The fields of a write concern have other names than the question itself, and are added to it. -/
theorem build?_eq (c : WriteConcern) : build? c = c.toDocument?.map question := by
  rw [build?]
  cases hd : c.toDocument? with
  | none => rfl
  | some d =>
    have hnodup : (["getlasterror"] ++ c.names).Nodup := by
      have hsub := c.names_sublist.cons_cons "getlasterror"
      exact hsub.nodup (by decide)
    rw [← WriteConcern.keys_of_toDocument? hd] at hnodup
    have hmerge : Document.merge [("getlasterror", .int32 1)] d = question d :=
      Document.merge_eq_append hnodup
    rw [Option.map_some, ← hmerge]
    rfl

end LastError

/-! ### Either protocol -/

/-- **Write concerns.** Whatever the write concern and the batch, the question about the last error
    and the command can both be built, or neither can, which is so if more servers have to apply the
    write than an int32 tells. Where they can, the question consists of its own name and the fields
    of the document of the write concern: those that are set, in the order of the server. The
    command has just this document for its write concern, and none if nothing is set, that is, if the
    document would be empty. -/
theorem WriteConcern.told_alike (c : WriteConcern) :
    (∀ e, LastError.build c = .error e ↔
      e = Error.ofKind .unencodable ∧ ∃ n, c.w = some (.nodes n) ∧ 0x7fffffff < n.toNat) ∧
    (∀ b : WriteBatch, b.writeConcern = c →
      ∀ e, Command.build b = .error e ↔ LastError.build c = .error e) ∧
    ∀ question, LastError.build c = .ok question →
      ∃ fields, c.toDocument? = some fields ∧ question = ("getlasterror", .int32 1) :: fields ∧
        fields.keys.Sublist ["w", "wtimeout", "j"] ∧ (c.isEmpty = true ↔ fields = []) ∧
        ∀ b : WriteBatch, b.writeConcern = c →
          ∃ command, Command.build b = .ok command ∧ command.keys.Nodup ∧
            command.get? "writeConcern" = if c.isEmpty then none else some (.document fields) := by
  refine ⟨fun e => ?_, fun b hb e => ?_, fun question hquestion => ?_⟩
  · rw [LastError.build, Error.encoded_eq_error_iff, LastError.build?_eq, Option.map_eq_none_iff,
      toDocument?_eq_none_iff, and_comm]
  · rw [LastError.build, Command.build, Error.encoded_eq_error_iff, Error.encoded_eq_error_iff,
      LastError.build?_eq, Command.build?_eq, Option.map_eq_none_iff, Option.map_eq_none_iff, hb]
  · rw [LastError.build, Error.encoded_eq_ok_iff, LastError.build?_eq] at hquestion
    obtain ⟨fields, hfields, rfl⟩ := Option.map_eq_some_iff.1 hquestion
    have hempty := isEmpty_of_toDocument? hfields
    refine ⟨fields, hfields, rfl, ?_, ?_, fun b hb => ?_⟩
    · rw [keys_of_toDocument? hfields]
      exact c.names_sublist
    · rw [← hempty, List.isEmpty_iff]
    · refine ⟨Command.body b fields, ?_, Command.nodup_keys_body b fields, ?_⟩
      · rw [Command.build, Error.encoded_eq_ok_iff, Command.build?_eq, hb, hfields, Option.map_some]
      · rw [Command.get?_writeConcern_body, hempty]

/-- A majority within half a second, without the journal, is told in three fields. One more server
    than an int32 tells is refused. -/
theorem WriteConcern.told_alike_withinHalfSecond :
    let withinHalfSecond : WriteConcern :=
      { w := some .majority, timeout := some (.ofMillis 500), journal := some false }
    let fields : Document := [("w", .string "majority"), ("wtimeout", .int32 500), ("j", .boolean false)]
    let batch (c : WriteConcern) (hc : c.isContradictory = false) : WriteBatch :=
      { ns := ⟨"db", "c", by decide, by decide⟩, ordered := true, writeConcern := c
        bypassValidation := none, requests := .delete [⟨[], 1⟩]
        requests_ne := by decide, faultless := by decide, consistent := hc }
    LastError.build withinHalfSecond = .ok (("getlasterror", .int32 1) :: fields) ∧
    (∃ command, Command.build (batch withinHalfSecond rfl) = .ok command ∧
      command.get? "writeConcern" = some (.document fields)) ∧
    LastError.build (.nodes 0x80000000) = .error (Error.ofKind .unencodable) ∧
    Command.build (batch (.nodes 0x80000000) rfl) = .error (Error.ofKind .unencodable) := by
  intro withinHalfSecond fields batch
  have htimeout : timeoutToBson (.ofMillis 500) = .int32 500 := by
    rw [timeoutToBson, Duration.millis_ofMillis]
    rfl
  have hdocument : withinHalfSecond.toDocument? = some fields := by
    show some [("w", Bson.string "majority"), ("wtimeout", timeoutToBson (.ofMillis 500)), _] = _
    rw [htimeout]
  have hquestion : LastError.build withinHalfSecond = .ok (("getlasterror", .int32 1) :: fields) := by
    rw [LastError.build, LastError.build?_eq, hdocument]
    rfl
  obtain ⟨-, -, htold⟩ := told_alike withinHalfSecond
  obtain ⟨fields', -, hfields, -, -, hbatch⟩ := htold _ hquestion
  cases hfields
  obtain ⟨command, hcommand, -, hconcern⟩ := hbatch (batch withinHalfSecond rfl) rfl
  obtain ⟨hrefused, halike, -⟩ := told_alike (.nodes 0x80000000)
  have hexcess := (hrefused _).2 ⟨rfl, 0x80000000, rfl, by decide⟩
  exact ⟨hquestion, ⟨command, hcommand, hconcern⟩, hexcess,
    (halike (batch (.nodes 0x80000000) rfl) rfl _).2 hexcess⟩

end WritePath
