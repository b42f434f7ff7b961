namespace WritePath

/-!
# Spans of time

* `Duration` — seconds and the nanoseconds of the second that has begun.
* `Duration.millis`, `Duration.ofMillis` — the whole milliseconds, and the span of so many.
-/

/-- A span of time. -/
structure Duration where
  seconds : UInt64
  nanos : UInt32
  nanos_lt : nanos.toNat < 1000000000
  deriving DecidableEq, Repr

namespace Duration

/-- The span of some seconds and nanoseconds. Full seconds among the nanoseconds are carried
over. -/
def ofParts (seconds : UInt64) (nanos : UInt32) : Duration where
  seconds := seconds + UInt64.ofNat (nanos.toNat / 1000000000)
  nanos := UInt32.ofNat (nanos.toNat % 1000000000)
  nanos_lt := by rw [UInt32.toNat_ofNat']; omega

/-- The whole milliseconds. -/
def millis (d : Duration) : Nat :=
  d.seconds.toNat * 1000 + d.nanos.toNat / 1000000

/-- The span of some milliseconds. -/
def ofMillis (millis : UInt64) : Duration where
  seconds := UInt64.ofNat (millis.toNat / 1000)
  nanos := UInt32.ofNat (millis.toNat % 1000 * 1000000)
  nanos_lt := by
    have h : millis.toNat % 1000 * 1000000 < 0x100000000 := by omega
    rw [UInt32.toNat_ofNat', Nat.mod_eq_of_lt h]
    omega

theorem toNat_seconds_ofMillis (n : UInt64) : (ofMillis n).seconds.toNat = n.toNat / 1000 := by
  have hn := n.toNat_lt
  show (UInt64.ofNat (n.toNat / 1000)).toNat = _
  rw [UInt64.toNat_ofNat', Nat.mod_eq_of_lt (by omega)]

theorem toNat_nanos_ofMillis (n : UInt64) :
    (ofMillis n).nanos.toNat = n.toNat % 1000 * 1000000 := by
  show (UInt32.ofNat (n.toNat % 1000 * 1000000)).toNat = _
  rw [UInt32.toNat_ofNat', Nat.mod_eq_of_lt (by omega)]

@[simp] theorem millis_ofMillis (n : UInt64) : (ofMillis n).millis = n.toNat := by
  rw [millis, toNat_seconds_ofMillis, toNat_nanos_ofMillis]
  omega

end Duration

end WritePath
