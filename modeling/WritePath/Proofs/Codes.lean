import WritePath.Proofs.LastErrorReading

namespace WritePath

/-!
# Codes of failed batches

The error of a failed batch tells the code of the last request that failed, or else that of the
write concern. In the older shape the code is looked up in the document about the failure, which
takes over the details of that request after its code. So a detail of that name prevails.

* `BatchFailure.detailCode?` — the detail.
* `BatchFailure.KeepsCode` — it does not change the code.
* `LastErrorForm.code?_failure_of_some`, `LastErrorForm.code?_failure_of_none` — the code in the
  document, with such a detail and without one.
* `LastErrorForm.code_of_translation` — what becomes of the code, and `LastErrorForm.code_error_ne`,
  that it may change.
-/

namespace BatchFailure

/-- What the details of the last request that failed say under the name of the code. -/
def detailCode? (f : BatchFailure) : Option Bson :=
  f.requests.getLast?.bind fun last => Document.get? last.details.reverse "code"

/-- If the details of the last request that failed tell a code, it is that of the request. -/
def KeepsCode (f : BatchFailure) : Prop :=
  ∀ last ∈ f.requests.getLast?, ∀ v, Document.get? last.details.reverse "code" = some v →
    v.toInt32? = some last.code

variable {f : BatchFailure}

theorem detailCode?_eq_some_iff {v : Bson} :
    f.detailCode? = some v ↔
      ∃ last ∈ f.requests.getLast?, Document.get? last.details.reverse "code" = some v := by
  rw [detailCode?, Option.bind_eq_some_iff]
  rfl

/-- A request that failed is asked for its code first. -/
theorem code?_of_getLast? {last : RequestFailure} (h : f.requests.getLast? = some last) :
    f.code? = some last.code := by
  rw [code?, h]

/-- The code that is blamed is the one that the error of the batch tells. -/
theorem map_snd_reported? (f : BatchFailure) : f.reported?.map Prod.snd = f.code? := by
  rw [reported?, code?]
  cases f.requests.getLast? with
  | some last => rfl
  | none => cases f.concern <;> rfl

/-- Nothing is blamed where there is no write concern to blame either. -/
theorem concern_of_reported?_eq_none (h : f.reported? = none) : f.concern = none := by
  rw [reported?] at h
  cases hlast : f.requests.getLast? with
  | some last =>
    rw [hlast] at h
    cases h
  | none =>
    rw [hlast] at h
    exact Option.map_eq_none_iff.1 h

end BatchFailure

namespace LastErrorForm

variable {f : BatchFailure} {kind : WriteKind}

/-! ### The code in the document -/

theorem code?_failure_of_some {v : Bson} (h : f.detailCode? = some v) :
    (failure f kind).code? = v.toInt32? := by
  have hcode : (response f kind).get? "code" = some v := by
    rw [BatchFailure.detailCode?] at h
    rw [get?_response, h, Option.some_or]
  show ((response f kind).get? "code").bind Bson.toInt32? = _
  rw [hcode, Option.bind_some]

theorem code?_failure_of_none (h : f.detailCode? = none) : (failure f kind).code? = f.code? := by
  rw [BatchFailure.detailCode?] at h
  have hblamed (p : String × Int32) :
      Document.get? [("code", Bson.int32 p.2), ("err", Bson.string p.1)] "code"
        = some (.int32 p.2) := by
    rw [Document.get?_cons, if_pos rfl]
  show ((response f kind).get? "code").bind Bson.toInt32? = _
  rw [get?_response, h, Option.none_or, ← f.map_snd_reported?]
  cases hreported : f.reported? with
  | some p =>
    -- The code that is blamed comes after the details of the write concern.
    rw [Option.bind_some, hblamed, Option.some_or, Option.bind_some, Bson.toInt32?_int32]
    rfl
  | none =>
    -- There are no details at all, and what succeeded has no code.
    rw [BatchFailure.concern_of_reported?_eq_none hreported,
      get?_told_of_not_mem (by decide) f.result kind]
    rfl

theorem code?_failure_of_getLast? {last : RequestFailure} {v : Bson}
    (hlast : f.requests.getLast? = some last)
    (hv : Document.get? last.details.reverse "code" = some v) :
    (failure f kind).code? = v.toInt32? :=
  code?_failure_of_some (BatchFailure.detailCode?_eq_some_iff.2 ⟨last, hlast, hv⟩)

/-! ### The code of the error -/

/-- In either kind of error, the code is that in the document. -/
theorem code?_error (f : BatchFailure) (kind : WriteKind) :
    (error f kind).code? = (failure f kind).code? := by
  have hkind : (errorKind f kind).code? = (failure f kind).code? := by
    rw [errorKind]
    cases isDuplicateKey f <;> rfl
  show [(⟨errorKind f kind, .empty⟩ : Cause)].findSome? (·.kind.code?) = _
  rw [List.findSome?_singleton, hkind]

theorem code?_ofKind_batch (f : BatchFailure) :
    (Error.ofKind (.batch f)).code? = f.code? := by
  show [(Error.ofKind (.batch f)).toCause].findSome? (·.kind.code?) = _
  rw [List.findSome?_singleton]
  rfl

/-- Whatever its labels are, the error is that of a duplicate key for the last request that failed. -/
theorem isDuplicateKey_labelledError (f : BatchFailure) (labels : LabelSet) (kind : WriteKind) :
    (labelledError f labels kind).isDuplicateKey = isDuplicateKey f := by
  simp only [Error.isDuplicateKey, labelledError, errorKind]
  cases isDuplicateKey f <;> rfl

/-- The code stays the same exactly where the details of the last request do not tell another. -/
theorem code?_failure_eq_iff :
    (failure f kind).code? = f.code? ↔ f.KeepsCode := by
  constructor
  · intro h last hlast v hv
    rw [code?_failure_of_getLast? hlast hv, BatchFailure.code?_of_getLast? hlast] at h
    exact h
  · intro h
    cases hdetail : f.detailCode? with
    | none => exact code?_failure_of_none hdetail
    | some v =>
      obtain ⟨last, hlast, hv⟩ := BatchFailure.detailCode?_eq_some_iff.1 hdetail
      rw [code?_failure_of_some hdetail, BatchFailure.code?_of_getLast? hlast]
      exact h last hlast v hv

/-- **Codes.** A failed batch has the same code in the older shape, unless the details of the last
    request that failed tell another one; and where it has, a duplicate key is reported with the code
    of one. Otherwise the code is the one in the details, and there is none if they hold no number
    that fits one. -/
theorem code_of_translation (f : BatchFailure) (kind : WriteKind) :
    ((error f kind).code? = (Error.ofKind (.batch f)).code? ↔
      ∀ last ∈ f.requests.getLast?, ∀ v, Document.get? last.details.reverse "code" = some v →
        v.toInt32? = some last.code) ∧
    ((error f kind).code? = (Error.ofKind (.batch f)).code? →
      (error f kind).isDuplicateKey = true →
      ∃ code ∈ [11000, 11001, 12582], (error f kind).code? = some code) ∧
    ∀ last ∈ f.requests.getLast?, ∀ v, Document.get? last.details.reverse "code" = some v →
      (error f kind).code? = v.toInt32? := by
  rw [code?_error, code?_ofKind_batch, error, isDuplicateKey_labelledError]
  refine ⟨code?_failure_eq_iff, fun hsame hdup => ?_, fun last hlast v hv => ?_⟩
  · -- The kind of the error goes by the code of the last request.
    obtain ⟨last, hlast, hcode⟩ := (Option.any_eq_true _ _).1 hdup
    rw [hsame, BatchFailure.code?_of_getLast? hlast]
    exact ⟨last.code, List.contains_iff_mem.1 hcode, rfl⟩
  · exact code?_failure_of_getLast? hlast hv

/-- The details of the last request tell the violated index and no code, so the code of the request
    is reported, although those of the write concern tell a code as well. -/
theorem code_of_translation_ranIntoIndex :
    let ranIntoIndex : BatchFailure :=
      { result := {}, address := .localhost
        requests :=
          [⟨0, 121, "Document failed validation", [("code", .int32 9)]⟩,
            ⟨1, 11001, "E11000 duplicate key", [("index", .string "sku_1")]⟩]
        concern := some ⟨64, "", "timed out", [("code", .int32 50)], []⟩ }
    (error ranIntoIndex .insert).isDuplicateKey = true ∧
    (error ranIntoIndex .insert).code? = (Error.ofKind (.batch ranIntoIndex)).code? ∧
    ∃ code ∈ [11000, 11001, 12582], (error ranIntoIndex .insert).code? = some code := by
  intro ranIntoIndex
  have hdup : (error ranIntoIndex .insert).isDuplicateKey = true := by decide
  have hkeeps : ranIntoIndex.KeepsCode := by
    rintro last ⟨⟩ v hv
    cases hv
  obtain ⟨hsame, hcode, -⟩ := code_of_translation ranIntoIndex .insert
  exact ⟨hdup, hsame.2 hkeeps, hcode (hsame.2 hkeeps) hdup⟩

/-- A duplicate key is reported with a code that no unique index has, because the details of the
    request tell it. -/
theorem code_error_ne :
    let overridden : BatchFailure :=
      { result := {}, concern := none, address := .localhost
        requests := [⟨0, 11000, "E11000 duplicate key", [("code", .int32 5)]⟩] }
    (error overridden .insert).code? ≠ (Error.ofKind (.batch overridden)).code? ∧
    (error overridden .insert).isDuplicateKey = true ∧
    (error overridden .insert).code? = some 5 := by
  decide

end LastErrorForm

end WritePath
