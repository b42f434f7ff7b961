import WritePath.Proofs.Documents
import WritePath.Protocol.Command
import WritePath.Protocol.LastErrorForm

namespace WritePath

/-!
# Replies to commands

A reply to a command that was carried out tells how many documents were touched and, if something
went wrong, which requests failed and whether the write concern was satisfied.

* `Document.Omits`, `Document.Counts`, `Document.Offers`, `Document.Lists` — what stands under a name
  of a document.
* `Record.optional_slot_eq_some_iff`, `Record.slot_alias`, `Slot.exists_of_optional` — what is read of
  a field of a document by one of its names.
* `Command.Reply.Reads` — what a reply is read as, field by field.
* `Command.Reply.ofDocument?_without` — a reply without its failures is read in the same way, and as
  a success (`Command.readReply_without`).
* `Command.failures_reported` — which replies are read as failures, and of what.
* `Command.counts_reported` — what becomes of the counts in the others.
-/

/-! ### What stands under a name -/

theorem Bson.readList?_eq_some_nil_iff {α : Type} {read : Bson → Option α} {v : Bson} :
    v.readList? read = some [] ↔ v = .array [] := by
  constructor
  · intro h
    unfold readList? at h
    split at h
    · next items =>
      cases items with
      | nil => rfl
      | cons item rest => simp [List.mapM_cons, Option.bind_eq_some_iff] at h
    · cases h
  · rintro rfl
    rfl

theorem Bson.mapM_readString? (ss : List String) :
    (ss.map Bson.string).mapM Bson.readString? = some ss := by
  induction ss with
  | nil => rfl
  | cons s rest ih => rw [List.map_cons, List.mapM_cons, ih]; rfl

namespace Document

variable {α : Type}

/-- A field is left out, or null stands under its name, which says the same. -/
def Omits (d : Document) (key : String) : Prop :=
  d.get? key = none ∨ d.get? key = some .null

/-- A count stands under a name. It is zero where the field is left out. -/
def Counts (d : Document) (key : String) (n : UInt64) : Prop :=
  d.get? key = none ∧ n = 0 ∨ ∃ v, d.get? key = some v ∧ v.readUInt64? = some n

/-- What is read of a field that may be left out. -/
def Offers (d : Document) (key : String) (read : Bson → Option α) : Option α → Prop
  | none => d.Omits key
  | some a => ∃ v, d.get? key = some v ∧ v ≠ .null ∧ read v = some a

/-- The items of an array under a name. There are none where the field is left out. -/
def Lists (d : Document) (key : String) (read : Bson → Option α) (items : List α) : Prop :=
  ∃ items? : Option (List α), d.Offers key (Bson.readList? read) items? ∧ items?.getD [] = items

/-- A field with a value is not left out. -/
theorem not_omits {d : Document} {key : String} {v : Bson} (hv : d.get? key = some v)
    (hnull : v ≠ .null) : ¬ d.Omits key := by
  rintro (hnone | hsome)
  · cases hnone.symm.trans hv
  · exact hnull (Option.some.inj (hv.symm.trans hsome))

theorem Offers.congr {d d' : Document} {key : String} {read : Bson → Option α} {a? : Option α}
    (hsame : d'.get? key = d.get? key) (h : d.Offers key read a?) : d'.Offers key read a? := by
  cases a? with
  | none => exact (congrArg (fun v? => v? = none ∨ v? = some Bson.null) hsame).mpr h
  | some a =>
    obtain ⟨v, hv, hread⟩ := h
    exact ⟨v, hsame.trans hv, hread⟩

/-- Nothing is read exactly where the field is left out. -/
theorem Offers.eq_none_iff {d : Document} {key : String} {read : Bson → Option α} {a? : Option α}
    (h : d.Offers key read a?) : a? = none ↔ d.Omits key := by
  cases a? with
  | none => exact iff_of_true rfl h
  | some a =>
    obtain ⟨v, hv, hnull, -⟩ := h
    exact iff_of_false nofun (not_omits hv hnull)

/-- An empty list is read exactly of an empty array. -/
theorem Offers.eq_some_nil_iff {d : Document} {key : String} {read : Bson → Option α}
    {items? : Option (List α)} (h : d.Offers key (Bson.readList? read) items?) :
    items? = some [] ↔ d.get? key = some (.array []) := by
  constructor
  · rintro rfl
    obtain ⟨v, hv, -, hread⟩ := h
    rw [hv, Bson.readList?_eq_some_nil_iff.1 hread]
  · intro hempty
    cases items? with
    | none => exact absurd h (not_omits hempty nofun)
    | some items =>
      obtain ⟨v, hv, -, hread⟩ := h
      cases hv.symm.trans hempty
      exact hread.symm

end Document

namespace Record

variable {α : Type} {d : Document} {place : Nat} {key other : String} {read : Bson → Option α}

theorem slot_named (d : Document) (place : Nat) (key : String) :
    (named d).slot place [key] = (d.get? key).elim .absent .filled := by
  rw [slot]
  cases h : d.get? key <;> simp [h]

/-- A second name that is not in use makes no difference. -/
theorem slot_alias (h : d.get? other = none) :
    (named d).slot place [key, other] = (named d).slot place [key] := by
  unfold slot
  cases hkey : d.get? key <;> simp [h, hkey]

/-- No document ends before one of its fields. -/
theorem trailingOptional_slot :
    ((named d).slot place [key]).trailingOptional read
      = ((named d).slot place [key]).optional read := by
  rw [slot_named]
  cases d.get? key <;> rfl

theorem optional_filled {v : Bson} (h : v ≠ .null) :
    (Slot.filled v).optional read = (read v).map some := by
  unfold Slot.optional
  split
  · next hnull => exact absurd (Slot.filled.inj hnull) h
  · next hv => rw [Slot.filled.inj hv]
  all_goals contradiction

theorem optional_slot_eq_some_iff {a? : Option α} :
    ((named d).slot place [key]).optional read = some a? ↔ d.Offers key read a? := by
  rw [slot_named]
  cases hv : d.get? key with
  | none => cases a? <;> simp [Slot.optional, Document.Offers, Document.Omits, hv]
  | some v =>
    by_cases hnull : v = .null
    · subst hnull
      cases a? <;> simp [Slot.optional, Document.Offers, Document.Omits, hv]
    · rw [Option.elim_some, optional_filled hnull]
      cases a? <;> simp [Document.Offers, Document.Omits, hv, hnull]

theorem withDefault_slot_eq_some_iff {n : UInt64} :
    ((named d).slot place [key]).withDefault 0 Bson.readUInt64? = some n ↔ d.Counts key n := by
  rw [slot_named]
  cases hv : d.get? key <;> simp [Slot.withDefault, Document.Counts, hv, eq_comm]

end Record

namespace Slot

variable {α : Type} {s : Slot} {read : Bson → Option α} {a : α}

/-- What is read of a field is read of a value. -/
theorem exists_of_optional (h : s.optional read = some (some a)) : ∃ v, read v = some a := by
  cases s with
  | filled v =>
    by_cases hnull : v = .null
    · subst hnull
      cases Option.some.inj h
    · rw [Record.optional_filled hnull] at h
      obtain ⟨b, hb, hba⟩ := Option.map_eq_some_iff.1 h
      exact ⟨v, hb.trans hba⟩
  | absent => cases Option.some.inj h
  | beyond | doubled => cases h

theorem exists_of_trailingOptional (h : s.trailingOptional read = some (some a)) :
    ∃ v, read v = some a := by
  cases s with
  | beyond => cases Option.some.inj h
  | filled v => exact exists_of_optional (s := .filled v) h
  | absent => exact exists_of_optional (s := .absent) h
  | doubled => exact exists_of_optional (s := .doubled) h

end Slot

namespace Command

/-! ### What a reply is read as -/

namespace Reply

/-- What a reply is read as, field by field. -/
structure Reads (r : Reply) (reply : Document) : Prop where
  n : reply.Counts "n" r.n
  modified : reply.Offers "nModified" Bson.readUInt64? r.modified
  upserted : reply.Offers "upserted" (Bson.readList? Upsert.ofBson?) r.upserted
  requestFailures :
    reply.Offers "writeErrors" (Bson.readList? RequestFailure.ofBson?) r.requestFailures
  concernFailure : reply.Offers "writeConcernError" ConcernFailure.ofBson? r.concernFailure
  labels : reply.Offers "errorLabels" (Bson.readList? Bson.readString?) r.labels

/-- A reply is read exactly if each of its fields is. -/
theorem ofDocument?_eq_some_iff {reply : Document} {r : Reply} :
    ofDocument? reply = some r ↔ r.Reads reply := by
  unfold ofDocument?
  simp only [Option.bind_eq_bind, Option.bind_eq_some_iff, Record.optional_slot_eq_some_iff,
    Record.withDefault_slot_eq_some_iff]
  constructor
  · rintro ⟨n, hn, modified, hmodified, upserted, hupserted, requestFailures, hrequests,
      concernFailure, hconcern, labels, hlabels, h⟩
    cases h
    exact ⟨hn, hmodified, hupserted, hrequests, hconcern, hlabels⟩
  · rintro ⟨hn, hmodified, hupserted, hrequests, hconcern, hlabels⟩
    exact ⟨_, hn, _, hmodified, _, hupserted, _, hrequests, _, hconcern, _, hlabels, rfl⟩

end Reply

variable {reply : Document} {r : Reply} {kind : WriteKind} {address : ServerAddress}

/-- The fields of a reply that tell of failures. -/
def failureFields : List String := ["writeErrors", "writeConcernError"]

/-- What a reply tells beside its failures, it tells without them. -/
theorem Reply.ofDocument?_without (h : Reply.ofDocument? reply = some r) :
    Reply.ofDocument? (reply.without failureFields)
      = some { r with requestFailures := none, concernFailure := none } := by
  have hreads := Reply.ofDocument?_eq_some_iff.1 h
  have hsame (key : String) (hkey : key ∉ failureFields) :
      (reply.without failureFields).get? key = reply.get? key :=
    Document.get?_without_of_not_mem hkey reply
  have hnone (key : String) (hkey : key ∈ failureFields) :
      (reply.without failureFields).get? key = none :=
    Document.get?_without_of_mem hkey reply
  -- The four fields that are kept are read as before, and the other two are not there.
  rw [Reply.ofDocument?_eq_some_iff]
  constructor
  case n => simpa only [Document.Counts, hsame "n" (by decide)] using hreads.n
  case modified => exact Document.Offers.congr (hsame _ (by decide)) hreads.modified
  case upserted => exact Document.Offers.congr (hsame _ (by decide)) hreads.upserted
  case requestFailures => exact .inl (hnone _ (by decide))
  case concernFailure => exact .inl (hnone _ (by decide))
  case labels => exact Document.Offers.congr (hsame _ (by decide)) hreads.labels

theorem isOk_without (reply : Document) : isOk (reply.without failureFields) = isOk reply := by
  rw [isOk, isOk, Document.get?_without_of_not_mem (by decide)]

/-- A reply without any failure is that of a success. -/
theorem readReply_of_not_isFailure (kind : WriteKind) (address : ServerAddress)
    (hok : isOk reply = true) (h : Reply.ofDocument? reply = some r)
    (hfails : r.isFailure = false) : readReply kind reply address = .ok (r.result kind) := by
  rw [readReply, if_pos hok, h]
  exact if_neg (Bool.not_eq_true _ ▸ hfails)

/-- Without its failures, a reply is that of a success. -/
theorem readReply_without (kind : WriteKind) (address : ServerAddress)
    (hok : isOk reply = true) (h : Reply.ofDocument? reply = some r) :
    readReply kind (reply.without failureFields) address = .ok (r.result kind) := by
  rw [readReply_of_not_isFailure kind address ((isOk_without reply).trans hok)
    (Reply.ofDocument?_without h) rfl]
  cases kind <;> rfl

/-- With them, it is an error that carries them, and the labels of the reply. -/
theorem readReply_of_isFailure (kind : WriteKind) (address : ServerAddress)
    (hok : isOk reply = true) (h : Reply.ofDocument? reply = some r)
    (hfails : r.isFailure = true) :
    readReply kind reply address
      = .error (Error.of (.batch (r.failure kind address)) (r.labels.getD [])) := by
  rw [readReply, if_pos hok, h]
  exact if_pos hfails

/-! ### Failures -/

/-- A reply that is read tells of no failure exactly if neither of the two fields is there. -/
theorem Reply.Reads.isFailure_eq_false_iff (h : r.Reads reply) :
    r.isFailure = false ↔ reply.Omits "writeErrors" ∧ reply.Omits "writeConcernError" := by
  rw [← h.requestFailures.eq_none_iff, ← h.concernFailure.eq_none_iff, isFailure]
  cases r.requestFailures <;> cases r.concernFailure <;> simp

/-- Nothing has failed where an empty list of failed requests is all that makes it a failure. -/
theorem Reply.failure_of_nothing_iff :
    (r.isFailure = true ∧ (r.failure kind address).requests = [] ∧
        (r.failure kind address).concern = none) ↔
      r.requestFailures = some [] ∧ r.concernFailure = none := by
  unfold isFailure failure
  cases r.requestFailures <;> cases r.concernFailure <;> simp

theorem exists_readReply_eq_ok_iff (hok : isOk reply = true)
    (h : Reply.ofDocument? reply = some r) :
    (∃ result, readReply kind reply address = .ok result) ↔ r.isFailure = false := by
  cases hfails : r.isFailure with
  | false => exact iff_of_true ⟨_, readReply_of_not_isFailure kind address hok h hfails⟩ rfl
  | true =>
    rw [readReply_of_isFailure kind address hok h hfails]
    exact iff_of_false nofun nofun

/-- A reply is read as no other failure than its own. -/
theorem exists_readReply_eq_error_iff {P : BatchFailure → Prop} (hok : isOk reply = true)
    (h : Reply.ofDocument? reply = some r) :
    (∃ e f, readReply kind reply address = .error e ∧ e.kind = .batch f ∧ P f) ↔
      r.isFailure = true ∧ P (r.failure kind address) := by
  cases hfails : r.isFailure with
  | false =>
    rw [readReply_of_not_isFailure kind address hok h hfails]
    constructor
    · rintro ⟨e, f, he, -⟩
      cases he
    · rintro ⟨hfailure, -⟩
      cases hfailure
  | true =>
    rw [readReply_of_isFailure kind address hok h hfails]
    constructor
    · rintro ⟨e, f, he, hf, hP⟩
      cases he
      cases hf
      exact ⟨rfl, hP⟩
    · rintro ⟨-, hP⟩
      exact ⟨_, _, rfl, rfl, hP⟩

/-- **Failures.** A reply that says that the command was carried out is read as a success exactly if
    neither a list of failed requests nor a failure of the write concern is there. Otherwise it is
    read as the failure of the batch: with all requests in the order of the list, the write concern
    and the address, and with the result that the reply would have been read as without the two
    fields. A list that is there but empty makes it a failure as well, of nothing. -/
theorem failures_reported (kind : WriteKind) (address : ServerAddress)
    (hok : isOk reply = true) (hread : (Reply.ofDocument? reply).isSome = true) :
    ((∃ result, readReply kind reply address = .ok result) ↔
      reply.Omits "writeErrors" ∧ reply.Omits "writeConcernError") ∧
    (¬ (reply.Omits "writeErrors" ∧ reply.Omits "writeConcernError") →
      ∃ e f, readReply kind reply address = .error e ∧ e.kind = .batch f ∧
        reply.Lists "writeErrors" RequestFailure.ofBson? f.requests ∧
        reply.Offers "writeConcernError" ConcernFailure.ofBson? f.concern ∧
        f.address = address ∧
        readReply kind (reply.without ["writeErrors", "writeConcernError"]) address
          = .ok f.result) ∧
    ((∃ e f, readReply kind reply address = .error e ∧ e.kind = .batch f ∧
        f.requests = [] ∧ f.concern = none) ↔
      reply.get? "writeErrors" = some (.array []) ∧ reply.Omits "writeConcernError") := by
  obtain ⟨r, hr⟩ := Option.isSome_iff_exists.1 hread
  have hreads := Reply.ofDocument?_eq_some_iff.1 hr
  have homits := hreads.isFailure_eq_false_iff
  refine ⟨(exists_readReply_eq_ok_iff hok hr).trans homits, fun hnot => ?_, ?_⟩
  · rw [← homits, Bool.not_eq_false] at hnot
    exact (exists_readReply_eq_error_iff hok hr).2
      ⟨hnot, ⟨_, hreads.requestFailures, rfl⟩, hreads.concernFailure, rfl,
        readReply_without kind address hok hr⟩
  · rw [exists_readReply_eq_error_iff hok hr, Reply.failure_of_nothing_iff,
      hreads.requestFailures.eq_some_nil_iff, hreads.concernFailure.eq_none_iff]

/-- A validator refused two of the documents and a unique index a third one, which the reply tells
    in this order. -/
theorem failures_reported_refusedThree :
    let reply : Document :=
      [("ok", .int32 1), ("n", .int32 2), ("writeConcernError", .null),
        ("writeErrors",
          .array
            [.document [("index", .int32 0), ("code", .int32 121)],
              .document [("index", .int32 4), ("code", .int32 11000)],
              .document [("index", .int32 3), ("code", .int32 121)]])]
    (isOk reply = true ∧ (Reply.ofDocument? reply).isSome = true ∧
      ¬ (reply.Omits "writeErrors" ∧ reply.Omits "writeConcernError")) ∧
    ∃ e f, readReply .insert reply .localhost = .error e ∧ e.kind = .batch f ∧
      reply.Lists "writeErrors" RequestFailure.ofBson? f.requests ∧
      f.result = { inserted := 2 } := by
  intro reply
  have hok : isOk reply = true := by decide
  have hread : (Reply.ofDocument? reply).isSome = true := rfl
  have hnot : ¬ (reply.Omits "writeErrors" ∧ reply.Omits "writeConcernError") :=
    fun h => Document.not_omits (v := .array _) rfl nofun h.1
  obtain ⟨-, hfailure, -⟩ := failures_reported .insert .localhost hok hread
  obtain ⟨e, f, h, hf, hrequests, -, -, hresult⟩ := hfailure hnot
  -- Without its failures, the reply is that of two insertions.
  have hsuccess : readReply .insert (reply.without ["writeErrors", "writeConcernError"]) .localhost
      = .ok { inserted := 2 } := rfl
  exact ⟨⟨hok, hread, hnot⟩, e, f, h, hf, hrequests, Except.ok.inj (hresult.symm.trans hsuccess)⟩

/-- A removal that succeeded is read as a failure because the list of failed requests is there,
    although it is empty. -/
theorem failures_reported_none :
    let reply : Document := [("ok", .int32 1), ("n", .int32 1), ("writeErrors", .array [])]
    (isOk reply = true ∧ (Reply.ofDocument? reply).isSome = true ∧
      reply.Lists "writeErrors" RequestFailure.ofBson? [] ∧ reply.Omits "writeConcernError") ∧
    ¬ ∃ result, readReply .delete reply .localhost = .ok result := by
  refine ⟨⟨by decide, rfl, ⟨some [], ⟨_, rfl, nofun, rfl⟩, rfl⟩, .inl rfl⟩, ?_⟩
  rintro ⟨result, h⟩
  cases h

/-! ### Counts -/

/-- The upserted documents of a reply. -/
def Reply.upserts (r : Reply) : List Upsert :=
  r.upserted.getD []

/-- The subtraction stops at zero, and does not wrap. -/
theorem Reply.toNat_matchedCount (r : Reply) :
    r.matchedCount.toNat = r.n.toNat - r.upserts.length := by
  have hn := r.n.toNat_lt
  show (UInt64.ofNat (r.n.toNat - r.upserts.length)).toNat = _
  rw [UInt64.toNat_ofNat', Nat.mod_eq_of_lt (by omega)]

end Command

namespace LastErrorForm

/-- The addition is exact as long as a word holds the sum. -/
theorem toNat_updateCount {b : BatchResult}
    (h : b.matched.toNat + b.upserts.length < 0x10000000000000000) :
    (updateCount b).toNat = b.matched.toNat + b.upserts.length := by
  have hmin : min (b.matched.toNat + b.upserts.length) 0xffffffffffffffff
      = b.matched.toNat + b.upserts.length := by omega
  rw [updateCount, hmin, UInt64.toNat_ofNat', Nat.mod_eq_of_lt h]

theorem result_of_isUpdate {kind : WriteKind} (h : kind.isUpdate = true) (b : BatchResult) :
    result b kind = ⟨true, updateCount b, b.upserts.isEmpty, b.upserts.head?.map (·.id)⟩ := by
  cases kind with
  | insert | delete => cases h
  | update | replace => cases hupserts : b.upserts <;> simp [result, hupserts]

end LastErrorForm

namespace Command

variable {reply : Document} {r : Reply}

theorem Reply.result_of_isUpdate {kind : WriteKind} (h : kind.isUpdate = true) (r : Reply) :
    r.result kind = { matched := r.matchedCount, modified := r.modified, upserts := r.upserts } := by
  cases kind with
  | insert | delete => cases h
  | update | replace => rfl

/-- A word holds the sum of what is left of the count and what was subtracted from it. -/
theorem Reply.toNat_updateCount {kind : WriteKind} (h : kind.isUpdate = true)
    (hlength : r.upserts.length < 0x10000000000000000) :
    (LastErrorForm.updateCount (r.result kind)).toNat
      = (r.result kind).matched.toNat + r.upserts.length := by
  have hn := r.n.toNat_lt
  have hmatched := r.toNat_matchedCount
  rw [r.result_of_isUpdate h]
  apply LastErrorForm.toNat_updateCount
  show r.matchedCount.toNat + r.upserts.length < 0x10000000000000000
  omega

/-- **Counts.** A reply that says that the command was carried out and has neither a list of failed
    requests nor a failure of the write concern is read as a result that counts nothing but what a
    write of its kind does. In the older shape, an insertion has no count and a removal that of the
    reply. An update has the count of the reply or the number of upserted documents, whichever is
    greater: what is subtracted in one place is added in the other, and no word overflows. (No list
    in memory has more items than a word can count.) It is taken to have updated a document unless
    it upserted one, and then the first of these is told, whatever its `_id` is. -/
theorem counts_reported (kind : WriteKind) (address : ServerAddress)
    (hok : isOk reply = true) (hread : Reply.ofDocument? reply = some r)
    (hrequests : reply.Omits "writeErrors") (hconcern : reply.Omits "writeConcernError")
    (hlength : r.upserts.length < 0x10000000000000000) :
    reply.Counts "n" r.n ∧ reply.Lists "upserted" Upsert.ofBson? r.upserts ∧
    ∃ b, readReply kind reply address = .ok b ∧
      (kind ≠ .insert → b.inserted = 0) ∧ (kind ≠ .delete → b.removed = 0) ∧
      (kind.isUpdate = false → b.matched = 0 ∧ b.modified = none ∧ b.upserts = []) ∧
      (kind = .insert → LastErrorForm.result b kind = ⟨true, 0, false, none⟩) ∧
      (kind = .delete → LastErrorForm.result b kind = ⟨true, r.n, false, none⟩) ∧
      (kind.isUpdate = true →
        b.matched.toNat = r.n.toNat - r.upserts.length ∧
        ∃ w, LastErrorForm.result b kind = w ∧ w.acknowledged = true ∧
          w.count.toNat = b.matched.toNat + r.upserts.length ∧
          w.count.toNat = max r.n.toNat r.upserts.length ∧
          (r.upserts.length ≤ r.n.toNat → w.count = r.n) ∧
          (w.updatedExisting = true ↔ r.upserts = []) ∧
          w.upsertedId = r.upserts.head?.map (·.id)) := by
  have hreads := Reply.ofDocument?_eq_some_iff.1 hread
  have hsuccess := hreads.isFailure_eq_false_iff.2 ⟨hrequests, hconcern⟩
  refine ⟨hreads.n, ⟨_, hreads.upserted, rfl⟩, r.result kind,
    readReply_of_not_isFailure kind address hok hread hsuccess,
    ?inserted, ?removed, ?updated, ?insertion, ?removal, ?update⟩
  case update =>
    intro hupdate
    have hmatched : (r.result kind).matched.toNat = r.n.toNat - r.upserts.length := by
      rw [r.result_of_isUpdate hupdate, ← r.toNat_matchedCount]
    have hupserts : (r.result kind).upserts = r.upserts := by
      rw [r.result_of_isUpdate hupdate]
    have hsum := Reply.toNat_updateCount hupdate hlength
    have hmax : (LastErrorForm.updateCount (r.result kind)).toNat
        = max r.n.toNat r.upserts.length := by omega
    refine ⟨hmatched, _, LastErrorForm.result_of_isUpdate hupdate _, rfl, hsum, hmax, ?_, ?_, ?_⟩
    · intro hle
      apply UInt64.toNat_inj.1
      show (LastErrorForm.updateCount (r.result kind)).toNat = _
      omega
    · show (r.result kind).upserts.isEmpty = true ↔ _
      rw [hupserts, List.isEmpty_iff]
    · show (r.result kind).upserts.head?.map (·.id) = _
      rw [hupserts]
  -- The rest is about the other kinds, or about fields that no result of an update has.
  all_goals cases kind <;> simp [Reply.result, LastErrorForm.result, WriteKind.isUpdate]

/-- A reply that counts fewer documents than it lists as upserted, the first of them under a null
    `_id`. -/
theorem counts_reported_twoUpserts :
    let reply : Document :=
      [("n", .int64 1), ("ok", .double ⟨0x3ff0000000000000⟩), ("writeErrors", .null),
        ("upserted",
          .array
            [.document [("index", .int32 0), ("_id", .null)],
              .array [.int64 1, .string "a"]])]
    let r : Reply :=
      { n := 1, modified := none, upserted := some [⟨0, .null⟩, ⟨1, .string "a"⟩]
        requestFailures := none, concernFailure := none, labels := none }
    (isOk reply = true ∧ Reply.ofDocument? reply = some r ∧ reply.Omits "writeErrors" ∧
      reply.Omits "writeConcernError" ∧ r.upserts.length < 0x10000000000000000) ∧
    ∃ b w, readReply .replace reply .localhost = .ok b ∧ LastErrorForm.result b .replace = w ∧
      b.inserted = 0 ∧ w.count.toNat = 2 ∧ w.updatedExisting ≠ true ∧ w.upsertedId = some .null := by
  intro reply r
  have hok : isOk reply = true := by decide
  have hread : Reply.ofDocument? reply = some r := rfl
  have hrequests : reply.Omits "writeErrors" := .inr rfl
  have hconcern : reply.Omits "writeConcernError" := .inl rfl
  have hlength : r.upserts.length < 0x10000000000000000 := by decide
  obtain ⟨-, -, b, hb, hinserted, -, -, -, -, hupdate⟩ :=
    counts_reported .replace .localhost hok hread hrequests hconcern hlength
  obtain ⟨-, w, hw, -, -, hmax, -, hupdated, hid⟩ := hupdate rfl
  have hcount : w.count.toNat = 2 := hmax.trans (by decide)
  exact ⟨⟨hok, hread, hrequests, hconcern, hlength⟩, b, w, hb, hw, hinserted nofun, hcount,
    fun h => absurd (hupdated.1 h) (List.cons_ne_nil _ _), hid⟩

end Command

end WritePath
