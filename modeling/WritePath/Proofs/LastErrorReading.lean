import WritePath.Proofs.Documents
import WritePath.Proofs.Numbers
import WritePath.Protocol.LastError
import WritePath.Protocol.LastErrorForm

namespace WritePath

/-!
# Reading a batch in the older shape

`LastErrorForm` writes the document that a server would have answered about the last error, and
`LastError.readReply` reads such answers. What the one says the other understands.

* `LastErrorForm.told` — the part of the document about what succeeded.
* `BatchFailure.reported?` — the message and the code that the document blames.
* `LastErrorForm.get?_response` — under every name of the document about a failed batch stands the
  value of the part that comes last.
* `LastErrorForm.resultIn_told` — what succeeded is understood.
* `LastErrorForm.failureKind_failure` — so is what failed.
* `LastErrorForm.readReply_written` — so is the document as a whole, where no details meddle with
  its own fields.
-/

/-! ### Reading an answer -/

namespace LastError

/-- A count that a value stands for is understood, unless a document was inserted. -/
theorem countIn_eq {kind : WriteKind} {reply : Document} {v : Bson} {n : UInt64}
    (hkind : kind ≠ .insert) (hv : reply.get? "n" = some v) (hn : v.toCount? = some n) :
    countIn kind reply = n := by
  cases kind with
  | insert => exact absurd rfl hkind
  | update | replace | delete =>
    show ((reply.get? "n").bind Bson.toCount?).getD 0 = n
    rw [hv, Option.bind_some, hn, Option.getD_some]

/-- Nothing is taken for an update of an existing document but the word that there was one. -/
theorem updatedExistingIn_eq {reply : Document} {b? : Option Bool}
    (h : reply.get? "updatedExisting" = b?.map .boolean) :
    updatedExistingIn reply = b?.getD false := by
  rw [updatedExistingIn, h]
  cases b? <;> rfl

/-- What an answer reports depends on three of its fields alone. -/
theorem resultIn_congr {reply reply' : Document} (kind : WriteKind)
    (hn : reply.get? "n" = reply'.get? "n")
    (hupdated : reply.get? "updatedExisting" = reply'.get? "updatedExisting")
    (hupserted : reply.get? "upserted" = reply'.get? "upserted") :
    resultIn kind reply = resultIn kind reply' := by
  have hcountIn : countIn kind reply = countIn kind reply' := by
    unfold countIn
    rw [hn]
  have hupdatedIn : updatedExistingIn reply = updatedExistingIn reply' := by
    unfold updatedExistingIn
    rw [hupdated]
  rw [resultIn, resultIn, hcountIn, hupdatedIn, hupserted]

/-- An answer whose success is the int32 one was given. -/
theorem isOk_eq_true {reply : Document} (h : reply.get? "ok" = some (.int32 1)) :
    isOk reply = true := by
  rw [isOk, h]
  decide

/-- An answer without a message reports a success. -/
theorem readReply_of_err_eq_none {kind : WriteKind} {reply : Document} (address : ServerAddress)
    (hok : isOk reply = true) (herr : reply.get? "err" = none) :
    readReply kind reply address = .ok (resultIn kind reply) := by
  rw [readReply, if_pos hok, stringField?, herr]

/-- An answer with a message reports a failure, and is itself the document about it. -/
theorem readReply_of_err_eq_string {kind : WriteKind} {reply : Document} (address : ServerAddress)
    {s : String} (hok : isOk reply = true) (herr : reply.get? "err" = some (.string s)) :
    readReply kind reply address
      = .error (Error.ofKind (failureKind ⟨reply, address, resultIn kind reply⟩)) := by
  rw [readReply, if_pos hok, stringField?, herr]

/-- The code that the document tells decides what kind of failure it is. -/
theorem failureKind_of_code {failure : LastErrorFailure} {code : Int32}
    (h : failure.response.get? "code" = some (.int32 code)) :
    failureKind failure
      = if code ∈ duplicateKeyCodes then .duplicateKey failure else .writeConcern failure := by
  have hcode : failure.code? = some code := by
    rw [LastErrorFailure.code?, h, Option.bind_some, Bson.toInt32?_int32]
  rw [failureKind, hcode]

end LastError

/-! ### The parts of the document -/

/-- The message and the code of the last request that failed, or else of the write concern. -/
def BatchFailure.reported? (f : BatchFailure) : Option (String × Int32) :=
  match f.requests.getLast? with
  | some e => some (e.message, e.code)
  | none => f.concern.map fun c => (c.message, c.code)

/-- Something is blamed as soon as anything failed. -/
theorem BatchFailure.exists_reported {f : BatchFailure}
    (h : f.requests ≠ [] ∨ ∃ c, f.concern = some c) : ∃ p, f.reported? = some p := by
  rw [reported?]
  cases hl : f.requests.getLast? with
  | some e => exact ⟨_, rfl⟩
  | none =>
    obtain ⟨c, hc⟩ := h.resolve_left fun hne => hne (List.getLast?_eq_none_iff.1 hl)
    exact ⟨(c.message, c.code), by rw [hc, Option.map_some]⟩

namespace LastErrorForm

/-- The names of the fields about what succeeded. -/
def resultNames : List String := ["ok", "n", "updatedExisting", "upserted"]

/-- The names of the fields about what failed. -/
def failureNames : List String := ["err", "code"]

/-- The part of the document about what succeeded. -/
def told (r : BatchResult) (kind : WriteKind) : Document :=
  build (result r kind).count (outcomeSteps kind (result r kind))

/-- What failed is told after what succeeded. -/
theorem response_eq (f : BatchFailure) (kind : WriteKind) :
    response f kind = (failureSteps f).foldl ReplyStep.apply (told f.result kind) := by
  show build _ (_ ++ _) = _
  rw [build, List.foldl_append]
  rfl

/-- After a step, the fields that it sets prevail. -/
theorem get?_apply (d : Document) (s : ReplyStep) (key : String) :
    (s.apply d).get? key = (Document.get? s.fields.reverse key).or (d.get? key) :=
  Document.get?_merge d s.fields key

/-- **Precedence.** Under every name stands what the details of the last request say; else the
    message or the code that is blamed; else what the details of the write concern say; else what is
    told of the success. -/
theorem get?_response (f : BatchFailure) (kind : WriteKind) (key : String) :
    (response f kind).get? key =
      (f.requests.getLast?.bind fun e => Document.get? e.details.reverse key).or
        ((f.reported?.bind fun p =>
            Document.get? [("code", Bson.int32 p.2), ("err", Bson.string p.1)] key).or
          ((f.concern.bind fun c => Document.get? c.details.reverse key).or
            ((told f.result kind).get? key))) := by
  rw [response_eq, failureSteps, BatchFailure.reported?]
  -- Every step puts its fields before those of the steps so far.
  cases f.requests.getLast? <;> cases f.concern <;>
    simp [get?_apply, ReplyStep.fields]

/-! ### What succeeded -/

/-- The fields about what succeeded, all of them under names of their own. -/
theorem told_eq (r : BatchResult) (kind : WriteKind) :
    told r kind = ("ok", .int32 1) :: ("n", Bson.ofCount (result r kind).count) ::
      if kind.isUpdate then
        (ReplyStep.outcome (result r kind).updatedExisting (result r kind).upsertedId).fields
      else [] := by
  rw [told, build, outcomeSteps]
  cases kind.isUpdate with
  | false => rfl
  | true =>
    -- The names differ, so each step adds its fields at the end.
    cases (result r kind).upsertedId <;>
      simp [start, ReplyStep.apply, ReplyStep.fields, Document.insert]

/-- Only an update reports more than a count. -/
theorem result_of_not_isUpdate {kind : WriteKind} (h : kind.isUpdate = false) (r : BatchResult) :
    (result r kind).updatedExisting = false ∧ (result r kind).upsertedId = none := by
  cases kind with
  | insert | delete => exact ⟨rfl, rfl⟩
  | update | replace => cases h

theorem get?_told_ok (r : BatchResult) (kind : WriteKind) :
    (told r kind).get? "ok" = some (.int32 1) := by
  rw [told_eq, Document.get?_cons, if_pos rfl]

theorem get?_told_n (r : BatchResult) (kind : WriteKind) :
    (told r kind).get? "n" = some (Bson.ofCount (result r kind).count) := by
  rw [told_eq, Document.get?_cons, if_neg (by decide), Document.get?_cons, if_pos rfl]

/-- A result of a batch says that it was acknowledged. -/
theorem acknowledged_result (r : BatchResult) (kind : WriteKind) :
    (result r kind).acknowledged = true := by
  cases kind with
  | insert | delete => rfl
  | update | replace =>
    rw [result]
    split <;> rfl

theorem get?_told_updatedExisting (r : BatchResult) (kind : WriteKind) :
    (told r kind).get? "updatedExisting"
      = (if kind.isUpdate then some (result r kind).updatedExisting else none).map .boolean := by
  rw [told_eq]
  cases kind.isUpdate <;> simp [ReplyStep.fields, Document.get?_cons]

theorem get?_told_upserted (r : BatchResult) (kind : WriteKind) :
    (told r kind).get? "upserted" = (result r kind).upsertedId := by
  rw [told_eq]
  cases hk : kind.isUpdate with
  | true =>
    cases hid : (result r kind).upsertedId <;> simp [ReplyStep.fields, Document.get?_cons]
  | false => simp [Document.get?_cons, (result_of_not_isUpdate hk r).2]

theorem get?_told_of_not_mem {key : String} (hkey : key ∉ resultNames) (r : BatchResult)
    (kind : WriteKind) : (told r kind).get? key = none := by
  simp only [resultNames, List.mem_cons, List.not_mem_nil, or_false, not_or] at hkey
  obtain ⟨hok, hn, hupdated, hupserted⟩ := hkey
  rw [told_eq]
  cases kind.isUpdate <;> cases (result r kind).upsertedId <;>
    simp [ReplyStep.fields, Document.get?_cons, hok, hn, hupdated, hupserted]

/-- What is acknowledged, counted, updated and upserted is understood by whoever reads the part
    about what succeeded. -/
theorem resultIn_told {r : BatchResult} {kind : WriteKind}
    (hcount : (result r kind).count.toNat ≤ greatestCount) :
    LastError.resultIn kind (told r kind) = result r kind := by
  have hcountIn : LastError.countIn kind (told r kind) = (result r kind).count := by
    by_cases hkind : kind = .insert
    · -- Insertions are not counted, whatever the answer says.
      subst hkind
      rfl
    · exact LastError.countIn_eq hkind (get?_told_n r kind) (Bson.toCount?_ofCount hcount)
  have hupdated : LastError.updatedExistingIn (told r kind) = (result r kind).updatedExisting := by
    rw [LastError.updatedExistingIn_eq (get?_told_updatedExisting r kind)]
    cases hk : kind.isUpdate with
    | true => rfl
    | false => exact (result_of_not_isUpdate hk r).1.symm
  rw [LastError.resultIn, hcountIn, hupdated, get?_told_upserted, ← acknowledged_result r kind]

/-! ### What failed -/

/-- Details that leave the fields about what succeeded alone do not change them. -/
theorem get?_response_of_mem_resultNames {f : BatchFailure} (kind : WriteKind) {key : String}
    (hconcern : ∀ c ∈ f.concern, c.details.Lacks resultNames)
    (hlast : ∀ e ∈ f.requests.getLast?, e.details.Lacks resultNames) (hkey : key ∈ resultNames) :
    (response f kind).get? key = (told f.result kind).get? key := by
  have hnone : (f.requests.getLast?.bind fun e => Document.get? e.details.reverse key) = none := by
    rw [Option.bind_eq_none_iff]
    exact fun e he => (hlast e he).get?_reverse hkey
  have hnone' : (f.concern.bind fun c => Document.get? c.details.reverse key) = none := by
    rw [Option.bind_eq_none_iff]
    exact fun c hc => (hconcern c hc).get?_reverse hkey
  have hother : ∀ p : String × Int32,
      Document.get? [("code", Bson.int32 p.2), ("err", Bson.string p.1)] key = none := by
    intro p
    rw [Document.get?_eq_none_iff]
    exact fun hmem => absurd hkey ((by decide : ∀ k ∈ ["code", "err"], k ∉ resultNames) key hmem)
  -- Of the four parts only the last one can have a field of that name.
  rw [get?_response, hnone, hnone', Option.bind_eq_none_iff.2 fun p _ => hother p, Option.none_or,
    Option.none_or, Option.none_or]

/-- The message and the code that are blamed stand in the document, unless the details of the last
    request have others. -/
theorem get?_response_of_reported {f : BatchFailure} (kind : WriteKind) {message : String}
    {code : Int32} (h : f.reported? = some (message, code))
    (hlast : ∀ e ∈ f.requests.getLast?, e.details.Lacks failureNames) :
    (response f kind).get? "err" = some (.string message) ∧
      (response f kind).get? "code" = some (.int32 code) := by
  have hnone : ∀ key ∈ failureNames,
      (f.requests.getLast?.bind fun e => Document.get? e.details.reverse key) = none := by
    intro key hkey
    rw [Option.bind_eq_none_iff]
    exact fun e he => (hlast e he).get?_reverse hkey
  constructor
  · rw [get?_response, hnone "err" (by decide), h, Option.none_or, Option.bind_some,
      Document.get?_cons, if_neg (by decide), Document.get?_cons, if_pos rfl, Option.some_or]
  · rw [get?_response, hnone "code" (by decide), h, Option.none_or, Option.bind_some,
      Document.get?_cons, if_pos rfl, Option.some_or]

/-- A failure that is blamed on a request, or on the write concern with a code that no unique index
    has, is understood to be of its own kind. -/
theorem failureKind_failure {f : BatchFailure} (kind : WriteKind)
    (hlast : ∀ e ∈ f.requests.getLast?, e.details.Lacks failureNames)
    (hblame : f.requests ≠ [] ∨ ∃ c ∈ f.concern, c.code ∉ duplicateKeyCodes) :
    LastError.failureKind (failure f kind) = errorKind f kind := by
  cases hl : f.requests.getLast? with
  | some e =>
    -- The last request is to blame, and both sides go by its code.
    have hreported : f.reported? = some (e.message, e.code) := by
      rw [BatchFailure.reported?, hl]
    have hcode := (get?_response_of_reported kind hreported hlast).2
    have hdup : isDuplicateKey f = duplicateKeyCodes.contains e.code := by
      rw [isDuplicateKey, hl, Option.any_some]
    rw [LastError.failureKind_of_code hcode, errorKind, hdup]
    simp only [List.contains_iff_mem]
  | none =>
    -- No request is to blame, so it is the write concern, which cannot look like a unique index.
    obtain ⟨c, hc, hnot⟩ : ∃ c ∈ f.concern, c.code ∉ duplicateKeyCodes :=
      hblame.resolve_left fun hne => hne (List.getLast?_eq_none_iff.1 hl)
    have hreported : f.reported? = some (c.message, c.code) := by
      rw [BatchFailure.reported?, hl, Option.mem_def.1 hc, Option.map_some]
    have hcode := (get?_response_of_reported kind hreported hlast).2
    have hdup : isDuplicateKey f = false := by
      rw [isDuplicateKey, hl, Option.any_none]
    rw [LastError.failureKind_of_code hcode, if_neg hnot, errorKind, hdup, if_neg (by decide)]

/-! ### The document as a whole -/

/-- The error of a failed batch is that of its kind, without any labels. -/
theorem error_eq (f : BatchFailure) (kind : WriteKind) :
    error f kind = Error.ofKind (errorKind f kind) := by
  rw [error, labelledError]
  unfold errorKind
  cases isDuplicateKey f <;> rfl

/-- The document about a failed batch is read as the failure that it was written for. -/
theorem readReply_response {f : BatchFailure} {kind : WriteKind}
    (hcount : (result f.result kind).count.toNat ≤ greatestCount)
    (hconcern : ∀ c ∈ f.concern, c.details.Lacks resultNames)
    (hlast : ∀ e ∈ f.requests.getLast?, e.details.Lacks (resultNames ++ failureNames))
    (hblame : f.requests ≠ [] ∨ ∃ c ∈ f.concern, c.code ∉ duplicateKeyCodes) :
    LastError.readReply kind (response f kind) f.address = .error (error f kind) := by
  have hlast_result : ∀ e ∈ f.requests.getLast?, e.details.Lacks resultNames :=
    fun e he => (hlast e he).mono (List.subset_append_left ..)
  have hlast_failure : ∀ e ∈ f.requests.getLast?, e.details.Lacks failureNames :=
    fun e he => (hlast e he).mono (List.subset_append_right ..)
  -- What is read of the success is what would be there without any failure.
  have hsame : ∀ key ∈ resultNames, (response f kind).get? key = (told f.result kind).get? key :=
    fun key hkey => get?_response_of_mem_resultNames kind hconcern hlast_result hkey
  have hok : LastError.isOk (response f kind) = true := by
    apply LastError.isOk_eq_true
    rw [hsame "ok" (by decide), get?_told_ok]
  have hresult : LastError.resultIn kind (response f kind) = result f.result kind := by
    rw [LastError.resultIn_congr kind (hsame "n" (by decide))
      (hsame "updatedExisting" (by decide)) (hsame "upserted" (by decide)), resultIn_told hcount]
  obtain ⟨⟨message, code⟩, hreported⟩ : ∃ p, f.reported? = some p :=
    BatchFailure.exists_reported (hblame.imp_right fun ⟨c, hc, _⟩ => ⟨c, hc⟩)
  -- The message makes it a failure, and the code says of which kind.
  have herr := (get?_response_of_reported kind hreported hlast_failure).1
  rw [LastError.readReply_of_err_eq_string f.address hok herr, hresult]
  show Except.error (Error.ofKind (LastError.failureKind (failure f kind))) = _
  rw [failureKind_failure kind hlast_failure hblame, error_eq]

/-- The document without anything about a failure is read as the success that it was written for. -/
theorem readReply_told {r : BatchResult} {kind : WriteKind} (address : ServerAddress)
    (hcount : (result r kind).count.toNat ≤ greatestCount) :
    LastError.readReply kind (told r kind) address = .ok (result r kind) := by
  have hok : LastError.isOk (told r kind) = true := LastError.isOk_eq_true (get?_told_ok r kind)
  have herr : (told r kind).get? "err" = none := get?_told_of_not_mem (by decide) r kind
  rw [LastError.readReply_of_err_eq_none address hok herr, resultIn_told hcount]

/-- **Reading what was written.** Where the count fits a value and no details use the names of other
    fields, the document about a failed batch is read as the very error that it was written for: of
    the same kind, with the same document, address and result. (A write concern whose code is that
    of a unique index is left out; on its own it is not reported as a duplicate key.) The document
    about a batch that succeeded is read as its result. -/
theorem readReply_written :
    (∀ (f : BatchFailure) (kind : WriteKind),
      (result f.result kind).count.toNat ≤ greatestCount →
      (∀ c ∈ f.concern, c.details.Lacks ["ok", "n", "updatedExisting", "upserted"]) →
      (∀ e ∈ f.requests.getLast?,
        e.details.Lacks ["ok", "n", "updatedExisting", "upserted", "err", "code"]) →
      (f.requests ≠ [] ∨ ∃ c ∈ f.concern, c.code ∉ duplicateKeyCodes) →
      LastError.readReply kind (failure f kind).response f.address = .error (error f kind)) ∧
    (∀ (r : BatchResult) (kind : WriteKind) (address : ServerAddress),
      (result r kind).count.toNat ≤ greatestCount →
      LastError.readReply kind (build (result r kind).count (outcomeSteps kind (result r kind)))
        address = .ok (result r kind)) :=
  ⟨fun _ _ hcount hconcern hlast hblame => readReply_response hcount hconcern hlast hblame,
    fun _ _ address hcount => readReply_told address hcount⟩

/-- A replacement upserted a document and then ran into a unique index, while the server waited for
    others in vain. -/
def duplicateAfterUpsert : BatchFailure where
  result := { matched := 1, upserts := [⟨1, .null⟩] }
  requests :=
    [⟨0, 121, "Document failed validation", [("n", .int32 5)]⟩,
      ⟨2, 11000, "E11000 duplicate key", [("keyValue", .document [("_id", .int32 7)])]⟩]
  concern := some
    { code := 64, codeName := "WriteConcernFailed", message := "timed out", labels := []
      details := [("wtimeout", .boolean true), ("err", .string "timeout")] }
  address := .localhost

/-- Neither the details of an earlier request nor a message in those of the write concern matter. -/
theorem readReply_written_duplicateAfterUpsert :
    ((result duplicateAfterUpsert.result .replace).count.toNat ≤ greatestCount ∧
      (∀ c ∈ duplicateAfterUpsert.concern,
        c.details.Lacks ["ok", "n", "updatedExisting", "upserted"]) ∧
      (∀ e ∈ duplicateAfterUpsert.requests.getLast?,
        e.details.Lacks ["ok", "n", "updatedExisting", "upserted", "err", "code"]) ∧
      duplicateAfterUpsert.requests ≠ []) ∧
    LastError.readReply .replace (failure duplicateAfterUpsert .replace).response .localhost
      = .error (error duplicateAfterUpsert .replace) ∧
    LastError.readReply .delete (build 3 []) .localhost = .ok ⟨true, 3, false, none⟩ := by
  have hcount : (result duplicateAfterUpsert.result .replace).count.toNat ≤ greatestCount := by
    decide
  have hconcern : ∀ c ∈ duplicateAfterUpsert.concern,
      c.details.Lacks ["ok", "n", "updatedExisting", "upserted"] := by
    rintro c ⟨⟩
    decide
  have hlast : ∀ e ∈ duplicateAfterUpsert.requests.getLast?,
      e.details.Lacks ["ok", "n", "updatedExisting", "upserted", "err", "code"] := by
    rintro e ⟨⟩
    decide
  have hblame : duplicateAfterUpsert.requests ≠ [] := by simp [duplicateAfterUpsert]
  exact ⟨⟨hcount, hconcern, hlast, hblame⟩,
    readReply_written.1 duplicateAfterUpsert .replace hcount hconcern hlast (.inl hblame),
    readReply_written.2 { removed := 3 } .delete .localhost (by decide)⟩

end LastErrorForm

end WritePath
