import WritePath.Bson.Record
import WritePath.Duration
import WritePath.Request.InvalidArgument

namespace WritePath

/-!
# Write concerns

A write concern says what has to happen before the server reports a write as done. An empty one
leaves that to the server, which then acknowledges.

* `Acknowledgment`, `WriteConcern` — the servers that have to apply the write, how long to wait for
  them, and whether the journal counts.
* `WriteConcern.isAcknowledged` — whether the server reports anything at all.
* `WriteConcern.toDocument?`, `WriteConcern.ofBson?` — the document sent with a write, and the
  reading of one. Unset fields are left out.
-/

/-- The servers that have to apply a write. -/
inductive Acknowledgment where
  /-- So many servers; none asks for no acknowledgement. -/
  | nodes (n : UInt32)
  /-- A majority of the replica set. -/
  | majority
  /-- The servers that carry a tag. -/
  | custom (name : String)
  deriving DecidableEq, Repr

namespace Acknowledgment

/-- The servers that a name stands for. -/
def ofName (name : String) : Acknowledgment :=
  if name = "majority" then majority else custom name

/-- The value sent: a number of servers is an int32, which it has to fit. -/
def toBson? : Acknowledgment → Option Bson
  | nodes n => (int32? n.toNat).map .int32
  | majority => some (.string "majority")
  | custom name => some (.string name)

/-- Reads a number of servers or a name. -/
def ofBson? (v : Bson) : Option Acknowledgment :=
  match v.readUInt32? with
  | some n => some (nodes n)
  | none => v.readString?.map ofName

end Acknowledgment

/-- What has to happen before a write is reported as done. -/
structure WriteConcern where
  w : Option Acknowledgment := none
  timeout : Option Duration := none
  journal : Option Bool := none
  deriving DecidableEq, Repr

namespace WriteConcern

/-- The concern that sets nothing. -/
def empty : WriteConcern := {}

/-- So many servers have to apply the write. -/
def nodes (n : UInt32) : WriteConcern := { w := some (.nodes n) }

/-- A majority of the replica set has to apply the write. -/
def majority : WriteConcern := { w := some .majority }

/-- The server reports nothing. -/
def unacknowledged : WriteConcern := nodes 0

/-- Whether the server reports the outcome: not if no server has to apply the write, unless it has
to reach the journal. -/
def isAcknowledged (c : WriteConcern) : Bool :=
  c.w ≠ some (.nodes 0) || c.journal = some true

/-- Whether nothing is set. -/
def isEmpty (c : WriteConcern) : Bool :=
  c.w.isNone && c.timeout.isNone && c.journal.isNone

/-- Whether it asks for no acknowledgement and for the journal at once. -/
def isContradictory (c : WriteConcern) : Bool :=
  c.w = some (.nodes 0) && c.journal = some true

/-! ### As BSON -/

/-- A time limit in whole milliseconds: an int32 if it fits, else the lowest 64 bits. -/
def timeoutToBson (d : Duration) : Bson :=
  if d.millis < 0x80000000 then .int32 (Int32.ofInt d.millis) else .int64 (Int64.ofInt d.millis)

/-- The document that is sent. The number of servers may not fit. -/
def toDocument? (c : WriteConcern) : Option Document := do
  let w ← c.w.mapM Acknowledgment.toBson?
  some
    ((w.map ("w", ·)).toList ++ (c.timeout.map fun d => ("wtimeout", timeoutToBson d)).toList
      ++ (c.journal.map fun j => ("j", .boolean j)).toList)

/-- Reads a write concern. The time limit and the journal go by two names each. -/
def ofBson? (v : Bson) : Option WriteConcern := do
  let r ← v.record?
  let w ← (r.slot 0 ["w"]).optional Acknowledgment.ofBson?
  let timeout ← (r.slot 1 ["wtimeout", "wtimeoutMS"]).trailingOptional Bson.readUInt64?
  let journal ← (r.slot 2 ["j", "journal"]).optional Bson.readBool?
  some { w, timeout := timeout.map Duration.ofMillis, journal }

end WriteConcern

end WritePath
