import WritePath.Bson.Number
import WritePath.Bson.Spelling

namespace WritePath

/-!
# Reading records from BSON values

A record of known fields is given as a document of named values or as an array of the values in
their fixed order. Fields that a record does not know are ignored, and so are items beyond its last
field.

* `Record` — the two forms.
* `Record.slot` — what a record holds for one of its fields.
* `Slot.required`, `Slot.optional`, `Slot.withDefault` — how a field that is missing is treated.
* `Bson.readInt32?` and its like — the plain values that fields hold.
-/

/-! ### Plain values -/

namespace Bson

/-- An integer given as such; a double is none. -/
def integer? : Bson → Option Int
  | .int32 n => some n.toInt
  | .int64 n => some n.toInt
  | _ => none

/-- A signed 32-bit integer. -/
def readInt32? (v : Bson) : Option Int32 :=
  v.integer?.bind int32?

/-- An unsigned 32-bit integer. -/
def readUInt32? (v : Bson) : Option UInt32 :=
  v.integer?.bind uint32?

/-- An unsigned 64-bit integer. -/
def readUInt64? (v : Bson) : Option UInt64 :=
  v.integer?.bind uint64?

/-- A truth value. -/
def readBool? : Bson → Option Bool
  | .boolean b => some b
  | _ => none

/-- A text: a string, or plain binary data that holds one. -/
def readString? : Bson → Option String
  | .string s => some s
  | .binary 0 bytes => String.fromUTF8? ⟨bytes.toArray⟩
  | _ => none

/-- Any value. -/
def readValue? (v : Bson) : Option Bson :=
  some v.loaded

/-- A document. -/
def readDocument? : Bson → Option Document
  | .document d => some (loadedFields d)
  | _ => none

/-- An array whose items can all be read. -/
def readList? {α : Type} (read : Bson → Option α) : Bson → Option (List α)
  | .array items => items.mapM read
  | _ => none

end Bson

/-! ### Records and their fields -/

/-- The two forms in which a record is given. -/
inductive Record where
  | named (fields : Document)
  | listed (items : List Bson)

/-- The record a value gives. A value that only extended JSON can spell out is a record too, but its
names begin with `$`, so that it has none of the fields. -/
def Bson.record? : Bson → Option Record
  | .document d => some (.named d)
  | .array items => some (.listed items)
  | .double _ | .string _ | .boolean _ | .null | .int32 _ | .int64 _ | .binary 0 _ => none
  | _ => some (.named [])

/-- What a record holds for a field. -/
inductive Slot where
  /-- A value. -/
  | filled (v : Bson)
  /-- Nothing, in a record of named values. -/
  | absent
  /-- Nothing, in an array that ends before the field. -/
  | beyond
  /-- Values under two names of the field. -/
  | doubled

/-- What a record holds for the field at a place of the order, which goes by one of several
names. -/
def Record.slot (r : Record) (place : Nat) (names : List String) : Slot :=
  match r with
  | .listed items => items[place]?.elim .beyond .filled
  | .named d =>
    match names.filterMap d.get? with
    | [] => .absent
    | [v] => .filled v
    | _ => .doubled

namespace Slot

variable {α : Type}

/-- A field that has to be there. -/
def required (read : Bson → Option α) : Slot → Option α
  | .filled v => read v
  | _ => none

/-- A field that may be missing; null says the same. -/
def optional (read : Bson → Option α) : Slot → Option (Option α)
  | .filled .null => some none
  | .filled v => (read v).map some
  | .absent => some none
  | .beyond | .doubled => none

/-- A field that may be missing and then takes a default; null is no value of it. -/
def withDefault (default : α) (read : Bson → Option α) : Slot → Option α
  | .filled v => read v
  | .absent | .beyond => some default
  | .doubled => none

/-- A field that may be missing, also at the end of an array; null says the same. -/
def trailingOptional (read : Bson → Option α) : Slot → Option (Option α)
  | .beyond => some none
  | s => s.optional read

end Slot

end WritePath
