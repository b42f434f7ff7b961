import WritePath.Proofs.ConcernReading

namespace WritePath

/-!
# Time limits that are sent

A time limit is sent as the number of its whole milliseconds. A span of time may have more of them
than an int64 can hold; then their lowest 64 bits are sent, which say something else.

* `Duration.sent_eq_millis_iff` — when the number that is sent is right.
* `Duration.millis_le_millis`, `Duration.ofMillis_le_iff` — spans and their milliseconds are in the
  same order.
* `Duration.millis_le_iff` — the numbers that are sent are in this order as well, as far as an int64
  reaches, and no further.
* `WriteConcern.Sends` — the limit that a write concern is sent with, whatever it is sent in.
* `WriteConcern.limits_in_order` — the order of the limits that are sent.
-/

/-! ### Spans of time -/

namespace Duration

variable {d e : Duration}

/-- Spans of time are compared by their seconds first. -/
instance : LE Duration where
  le d e := d.seconds < e.seconds ∨ d.seconds = e.seconds ∧ d.nanos ≤ e.nanos

theorem le_iff :
    d ≤ e ↔ d.seconds.toNat < e.seconds.toNat ∨
      d.seconds.toNat = e.seconds.toNat ∧ d.nanos.toNat ≤ e.nanos.toNat := by
  rw [UInt64.toNat_inj]
  exact Iff.rfl

/-- A longer span has no fewer milliseconds. -/
theorem millis_le_millis (h : d ≤ e) : d.millis ≤ e.millis := by
  have hnanos := d.nanos_lt
  rw [le_iff] at h
  unfold millis
  omega

/-- The span of some milliseconds is the shortest that has as many. -/
theorem ofMillis_le_iff {n : UInt64} : ofMillis n ≤ d ↔ n.toNat ≤ d.millis := by
  have hnanos := d.nanos_lt
  rw [le_iff, toNat_seconds_ofMillis, toNat_nanos_ofMillis]
  unfold millis
  omega

/-! #### The number that is sent -/

theorem sent_lt (d : Duration) : d.sent < 0x8000000000000000 :=
  Int64.toInt_lt _

/-- It is the number of milliseconds just if an int64 can hold that. -/
theorem sent_eq_millis_iff : d.sent = d.millis ↔ d.millis ≤ 0x7fffffffffffffff := by
  constructor
  · intro h
    have hlt := d.sent_lt
    omega
  · exact sent_of_millis_le

/-- The shortest span that has more milliseconds than an int64 can hold. -/
def tooLong : Duration :=
  ofMillis 0x8000000000000000

theorem millis_tooLong : tooLong.millis = 0x8000000000000000 := by
  rw [tooLong, millis_ofMillis]
  simp

/-- For this span the least of all numbers is sent. -/
theorem sent_tooLong : tooLong.sent = -0x8000000000000000 := by
  rw [sent, millis_tooLong]
  rfl

theorem tooLong_le_iff : tooLong ≤ d ↔ 0x7fffffffffffffff < d.millis := by
  rw [tooLong, ofMillis_le_iff, ← millis_ofMillis, ← tooLong, millis_tooLong]
  exact Nat.lt_iff_add_one_le.symm

/-- The numbers are in the order of the spans, and none of them is negative, as far as an int64
reaches, and no further. -/
theorem millis_le_iff :
    d.millis ≤ 0x7fffffffffffffff ↔ ∀ shorter ≤ d, 0 ≤ shorter.sent ∧ shorter.sent ≤ d.sent := by
  constructor
  · intro h shorter hle
    have hmillis := millis_le_millis hle
    rw [sent_of_millis_le h, sent_of_millis_le (by omega)]
    omega
  · intro h
    by_contra hlong
    -- Beyond this point a shorter span has a negative number, however long the span itself is.
    obtain ⟨hnonneg, -⟩ := h tooLong (tooLong_le_iff.2 (by omega))
    rw [sent_tooLong] at hnonneg
    omega

end Duration

/-! ### Write concerns -/

/-- The time limit in the document of a write concern. -/
def Document.timeLimit? (fields : Document) : Option Int :=
  (fields.get? "wtimeout").bind Bson.integer?

namespace WriteConcern

variable {c : WriteConcern} {d : Duration} {i j : Int}

/-- The write concern with another time limit. -/
def within (c : WriteConcern) (d : Duration) : WriteConcern :=
  { c with timeout := some d }

/-- A write concern is sent, and with this time limit: so say its document, the question about the
last error, and the command of every batch with this write concern. -/
structure Sends (c : WriteConcern) (limit : Int) : Prop where
  document : ∃ fields : Document, c.toDocument? = some fields ∧ fields.timeLimit? = some limit
  question : ∃ question : Document,
    LastError.build c = .ok question ∧ question.timeLimit? = some limit
  command : ∀ b : WriteBatch, b.writeConcern = c → ∃ command fields : Document,
    Command.build b = .ok command ∧ command.get? "writeConcern" = some (.document fields) ∧
      fields.timeLimit? = some limit

/-- It is sent with one limit only. -/
theorem Sends.unique (hi : c.Sends i) (hj : c.Sends j) : i = j := by
  obtain ⟨fields, hfields, hlimit⟩ := hi.document
  obtain ⟨fields', hfields', hlimit'⟩ := hj.document
  cases Option.some.inj (hfields.symm.trans hfields')
  exact Option.some.inj (hlimit.symm.trans hlimit')

/-- The time limit is in the document. -/
theorem timeLimit?_of_toDocument? {fields : Document}
    (h : (c.within d).toDocument? = some fields) : fields.timeLimit? = some d.sent := by
  obtain ⟨-, htimeout, -⟩ := get?_of_toDocument? h
  rw [Document.timeLimit?, htimeout]
  exact integer?_timeoutToBson d

/-- Whether there is a document does not depend on the time limit. -/
theorem exists_toDocument?_within :
    (∃ fields, (c.within d).toDocument? = some fields) ↔
      ∀ n, c.w = some (.nodes n) → n.toNat ≤ 0x7fffffff := by
  have hnone : (c.within d).toDocument? = none ↔
      ∃ n, c.w = some (.nodes n) ∧ 0x7fffffff < n.toNat := toDocument?_eq_none_iff
  rw [← Option.ne_none_iff_exists', Ne, hnone]
  simp only [not_exists, not_and, Nat.not_lt]

/-- With a document, the write concern is sent with the number of its time limit. -/
theorem sends_within {fields : Document} (h : (c.within d).toDocument? = some fields) :
    (c.within d).Sends d.sent := by
  have hlimit := timeLimit?_of_toDocument? h
  constructor
  case document => exact ⟨fields, h, hlimit⟩
  case question =>
    refine ⟨LastError.question fields, ?_, ?_⟩
    · rw [LastError.build, Error.encoded_eq_ok_iff, LastError.build?_eq, h, Option.map_some]
    · rw [Document.timeLimit?, LastError.question, Document.get?_cons, if_neg (by decide)]
      exact hlimit
  case command =>
    intro b hb
    -- The document is not empty, so that the command does not leave it out.
    have hempty : fields.isEmpty = false := by
      rw [isEmpty_of_toDocument? h, isEmpty]
      simp [within]
    refine ⟨Command.body b fields, fields, ?_, ?_, hlimit⟩
    · rw [Command.build, Error.encoded_eq_ok_iff, Command.build?_eq, hb, h, Option.map_some]
    · rw [Command.get?_writeConcern_body, hempty]
      rfl

theorem sends_within_iff :
    (c.within d).Sends j ↔ (∀ n, c.w = some (.nodes n) → n.toNat ≤ 0x7fffffff) ∧ j = d.sent := by
  rw [← exists_toDocument?_within (d := d)]
  constructor
  · intro h
    obtain ⟨fields, hfields, -⟩ := h.document
    exact ⟨⟨fields, hfields⟩, h.unique (sends_within hfields)⟩
  · rintro ⟨⟨fields, hfields⟩, rfl⟩
    exact sends_within hfields

/-- **Time limits.** Whatever its time limit, a write concern is sent unless it asks for more servers
    than an int32 tells. The number sent for the limit is that of its whole milliseconds exactly if
    an int64 can hold them. This is also exactly when no shorter limit is sent, with the same write
    concern otherwise, as a greater number or as a negative one. -/
theorem limits_in_order (c : WriteConcern) (d : Duration) :
    ((∃ j, (c.within d).Sends j) ↔ ∀ n, c.w = some (.nodes n) → n.toNat ≤ 0x7fffffff) ∧
    ∀ j, (c.within d).Sends j →
      (j = d.millis ↔ d.millis ≤ 0x7fffffffffffffff) ∧
      (d.millis ≤ 0x7fffffffffffffff ↔
        ∀ shorter ≤ d, ∀ i, (c.within shorter).Sends i → 0 ≤ i ∧ i ≤ j) := by
  refine ⟨?_, fun j hj => ?_⟩
  · simp only [sends_within_iff, exists_and_left, exists_eq, and_true]
  · obtain ⟨hfits, rfl⟩ := sends_within_iff.1 hj
    refine ⟨Duration.sent_eq_millis_iff, ?_⟩
    rw [Duration.millis_le_iff]
    constructor
    · intro h shorter hle i hi
      obtain ⟨-, rfl⟩ := sends_within_iff.1 hi
      exact h shorter hle
    · intro h shorter hle
      exact h shorter hle _ (sends_within_iff.2 ⟨hfits, rfl⟩)

/-- The greatest limit that is sent as an int32 and the next one, which is sent as an int64, are sent
as they are. -/
theorem limits_in_order_acrossWidths :
    let short : Duration := .ofMillis 0x7fffffff
    let long : Duration := .ofMillis 0x80000000
    (majority.within short).Sends 0x7fffffff ∧ (majority.within long).Sends 0x80000000 ∧
      short ≤ long ∧ ∀ i, (majority.within short).Sends i → 0 ≤ i ∧ i ≤ 0x80000000 := by
  intro short long
  have hshort : short.millis = 0x7fffffff := Duration.millis_ofMillis _
  have hlong : long.millis = 0x80000000 := Duration.millis_ofMillis _
  have hle : short ≤ long := Duration.ofMillis_le_iff.2 (by rw [hlong]; decide)
  have hfits : ∀ n, majority.w = some (.nodes n) → n.toNat ≤ 0x7fffffff := by simp [majority]
  obtain ⟨hsent, hlimit⟩ := limits_in_order majority short
  obtain ⟨i, hi⟩ := hsent.2 hfits
  obtain ⟨hsent', hlimit'⟩ := limits_in_order majority long
  obtain ⟨j, hj⟩ := hsent'.2 hfits
  obtain ⟨heq, -⟩ := hlimit i hi
  obtain ⟨heq', horder⟩ := hlimit' j hj
  have hi' : i = 0x7fffffff := by rw [heq.2 (by omega), hshort]; rfl
  have hj' : j = 0x80000000 := by rw [heq'.2 (by omega), hlong]; rfl
  subst hi' hj'
  exact ⟨hi, hj, hle, horder.1 (by omega) short hle⟩

/-- The first limit that no int64 can hold is sent as the least of all numbers, although the one
before it is sent as the greatest. -/
theorem limits_in_order_tooLong :
    let long : Duration := .ofMillis 0x7fffffffffffffff
    long ≤ .tooLong ∧ (empty.within long).Sends 0x7fffffffffffffff ∧
      (empty.within .tooLong).Sends (-0x8000000000000000) := by
  intro long
  have hmillis : long.millis = 0x7fffffffffffffff := by
    show (Duration.ofMillis 0x7fffffffffffffff).millis = _
    rw [Duration.millis_ofMillis]
    simp
  have hfits : ∀ n, empty.w = some (.nodes n) → n.toNat ≤ 0x7fffffff := by simp [empty]
  have hle : long ≤ .tooLong := by
    rw [Duration.ofMillis_le_iff, Duration.millis_tooLong]
    decide
  have hsent : long.sent = 0x7fffffffffffffff := by
    rw [Duration.sent_of_millis_le (by omega), hmillis]
    rfl
  exact ⟨hle, sends_within_iff.2 ⟨hfits, hsent.symm⟩,
    sends_within_iff.2 ⟨hfits, Duration.sent_tooLong.symm⟩⟩

end WriteConcern

end WritePath
