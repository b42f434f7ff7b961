import WritePath.Bson.Record

namespace WritePath

/-!
# Commands that are not carried out

* `CommandFailure` — the code, its name and the message of the server.
* `CommandFailure.text` — the failure in words.
* `CommandFailure.toBson`, `CommandFailure.ofBson?` — the record of a failure and its reading.
-/

/-- A command was not carried out. -/
structure CommandFailure where
  code : Int32
  codeName : String
  message : String
  deriving DecidableEq, Repr

namespace CommandFailure

/-- The failure in words. -/
def text (e : CommandFailure) : String :=
  "Error code " ++ toString e.code.toInt ++ " (" ++ e.codeName ++ "): " ++ e.message

/-- The failure as a record. -/
def toBson (e : CommandFailure) : Bson :=
  .document
    [("code", .int32 e.code), ("codeName", .string e.codeName), ("errmsg", .string e.message)]

/-- Reads a failure from a record. -/
def ofRecord? (r : Record) : Option CommandFailure := do
  let code ← (r.slot 0 ["code"]).required Bson.readInt32?
  let codeName ← (r.slot 1 ["codeName"]).withDefault "" Bson.readString?
  let message ← (r.slot 2 ["errmsg"]).withDefault "" Bson.readString?
  some { code, codeName, message }

/-- Reads a failure. -/
def ofBson? (v : Bson) : Option CommandFailure :=
  v.record?.bind ofRecord?

end CommandFailure

end WritePath
