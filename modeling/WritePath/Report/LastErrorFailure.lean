import WritePath.Bson.Number
import WritePath.Report.WriteResult
import WritePath.ServerAddress

namespace WritePath

/-!
# Failed writes in the older shape

A server that is asked about the last error answers with a document, and that document is the
failure.

* `duplicateKeyCodes` — the codes that blame a unique index.
* `LastErrorFailure` — the document, who answered it, and what succeeded.
* `LastErrorFailure.code?`, `LastErrorFailure.message?`, `LastErrorFailure.text` — what it tells.
-/

/-- The codes by which servers report that a unique index forbids a write. -/
def duplicateKeyCodes : List Int32 := [11000, 11001, 12582]

/-- A failed write in the older shape. -/
structure LastErrorFailure where
  /-- The document that tells the last error. -/
  response : Document
  /-- The server that reports it. -/
  address : ServerAddress
  /-- What succeeded. -/
  result : WriteResult

namespace LastErrorFailure

/-- The code in the document. -/
def code? (e : LastErrorFailure) : Option Int32 :=
  (e.response.get? "code").bind Bson.toInt32?

/-- The message in the document, where it is a string. -/
def message? (e : LastErrorFailure) : Option String :=
  match e.response.get? "err" with
  | some (.string s) => some s
  | _ => none

/-- The failure in words. -/
def text (e : LastErrorFailure) : String :=
  e.message?.getD "no error message" ++ " (code "
    ++ e.code?.elim "None" (fun n => "Some(" ++ toString n.toInt ++ ")")
    ++ ") reported by " ++ e.address.text

end LastErrorFailure

end WritePath
