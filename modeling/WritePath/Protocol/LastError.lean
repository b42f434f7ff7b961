import WritePath.Error.Basic
import WritePath.Request.WriteConcern

namespace WritePath

/-!
# Asking for the last error

In the older protocol a write has no reply. Whoever wants one asks for the last error and says what
has to happen before the answer.

* `LastError.build` — the question.
* `LastError.readReply` — what the answer means.
-/

namespace LastError

/-- The code of a command that failed without saying why. -/
def unknownCode : Int32 := 8

/-- The question, which carries a write concern. -/
def build? (c : WriteConcern) : Option Document := do
  let d ← c.toDocument?
  some (Document.merge [("getlasterror", .int32 1)] d)

/-- The question, or the error of a write concern that cannot be written. -/
def build (c : WriteConcern) : Except Error Document :=
  Error.encoded (build? c)

/-- Whether an answer was given. -/
def isOk (reply : Document) : Bool :=
  ((reply.get? "ok").bind Bson.toInteger?) = some 1

/-- The string under a name. -/
def stringField? (reply : Document) (key : String) : Option String :=
  match reply.get? key with
  | some (.string s) => some s
  | _ => none

/-- The code in an answer. -/
def code? (reply : Document) : Option Int32 :=
  (reply.get? "code").bind Bson.toInt32?

/-- Why no answer was given. -/
def refusal (reply : Document) : CommandFailure where
  code := (code? reply).getD unknownCode
  codeName := (stringField? reply "codeName").getD ""
  message := ((stringField? reply "errmsg").or (stringField? reply "err")).getD ""

/-- The number of documents that an answer reports, which says nothing about an insertion. -/
def countIn (kind : WriteKind) (reply : Document) : UInt64 :=
  match kind with
  | .insert => 0
  | .update | .replace | .delete => ((reply.get? "n").bind Bson.toCount?).getD 0

/-- Whether an answer reports that an existing document was updated. -/
def updatedExistingIn (reply : Document) : Bool :=
  match reply.get? "updatedExisting" with
  | some (.boolean b) => b
  | _ => false

/-- The result that an answer reports. -/
def resultIn (kind : WriteKind) (reply : Document) : WriteResult where
  acknowledged := true
  count := countIn kind reply
  updatedExisting := updatedExistingIn reply
  upsertedId := reply.get? "upserted"

/-- The kind of a failure: a duplicate key if its code says so. -/
def failureKind (failure : LastErrorFailure) : ErrorKind :=
  match failure.code? with
  | some code => if code ∈ duplicateKeyCodes then .duplicateKey failure else .writeConcern failure
  | none => .writeConcern failure

/-- What an answer means. The write failed if its message is a string. -/
def readReply (kind : WriteKind) (reply : Document) (address : ServerAddress) :
    Except Error WriteResult :=
  if isOk reply then
    match stringField? reply "err" with
    | none => .ok (resultIn kind reply)
    | some _ =>
      .error
        (Error.ofKind
          (failureKind { response := reply, address := address, result := resultIn kind reply }))
  else .error (Error.ofKind (.command (refusal reply)))

end LastError

end WritePath
