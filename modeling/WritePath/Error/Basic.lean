import WritePath.Bson.Text
import WritePath.Error.LabelSet
import WritePath.Report.BatchFailure
import WritePath.Report.CommandFailure
import WritePath.Report.LastErrorFailure
import WritePath.Request.InvalidArgument

namespace WritePath

/-!
# Errors

An error has a kind and labels, and it may have come out of another error, which in turn may have
come out of another.

* `ErrorKind` — what went wrong.
* `Error` — a kind, labels, and the errors behind it, nearest first.
* `Error.of` — the error of a kind. A failed batch brings along the labels of its write concern.
* `Error.encoded` — what is to be written, unless it cannot be.
* `Error.code?`, `Error.reportedMessage?`, `Error.hasLabel` — what an error tells. Codes and labels
  are also looked for behind it.
* `Error.lastErrorFailure?` — what it tells in the older shape.
-/

/-! ### Kinds -/

/-- Why a reply makes no sense. -/
inductive InvalidResponse where
  /-- A command failed without a code. -/
  | noErrorCode (reply : Document)
  | missingField
  | otherType

/-- The wording of a reply that makes no sense. -/
def InvalidResponse.message : InvalidResponse → String
  | noErrorCode reply => "write command failed without an error code: " ++ reply.text
  | missingField => "field is not present"
  | otherType => "field does not have the expected type"

/-- Why a write that reports to a callback did not complete. -/
inductive Interruption where
  /-- There is nothing to run it on. -/
  | noRuntime
  /-- It panicked. -/
  | panicked
  /-- What it ran on was shut down. -/
  | abandoned
  deriving DecidableEq, Repr

/-- The wording of an interruption. -/
def Interruption.message : Interruption → String
  | noRuntime =>
    "callback execution requires a tokio runtime, but none is running: there is no reactor "
      ++ "running, must be called from the context of a Tokio 1.x runtime"
  | panicked => "write panicked before completing"
  | abandoned => "write was abandoned before completing because its runtime shut down"

/-- Why a connection broke off. -/
inductive IoFailure where
  | notFound
  | connectionRefused
  | connectionReset
  | connectionAborted
  | notConnected
  | brokenPipe
  | timedOut
  | interrupted
  | unexpectedEnd
  /-- Another reason, in words. -/
  | other (message : String)
  deriving DecidableEq, Repr

/-- The wording of a broken connection. -/
def IoFailure.message : IoFailure → String
  | notFound => "entity not found"
  | connectionRefused => "connection refused"
  | connectionReset => "connection reset"
  | connectionAborted => "connection aborted"
  | notConnected => "not connected"
  | brokenPipe => "broken pipe"
  | timedOut => "timed out"
  | interrupted => "operation interrupted"
  | unexpectedEnd => "unexpected end of file"
  | other message => message

/-- What went wrong. -/
inductive ErrorKind where
  | invalidArgument (cause : InvalidArgument)
  /-- A value that cannot be read. -/
  | undecodable
  /-- A value that cannot be written. -/
  | unencodable
  /-- A batch sent as a command failed. -/
  | batch (failure : BatchFailure)
  /-- A command was not carried out. -/
  | command (failure : CommandFailure)
  /-- A unique index forbids a write. -/
  | duplicateKey (failure : LastErrorFailure)
  /-- A write failed, or its write concern was not satisfied. -/
  | writeConcern (failure : LastErrorFailure)
  /-- The deployment cannot tell a repeated write from a new one. -/
  | retryableWritesNotSupported
  | internal (cause : Interruption)
  | io (cause : IoFailure)
  | invalidResponse (cause : InvalidResponse)
  /-- No connection could be had. -/
  | connectionUnavailable (message : String)

namespace ErrorKind

/-- The message about a deployment that cannot tell a repeated write from a new one. -/
def retryableWritesMessage : String :=
  "This MongoDB deployment does not support retryable writes. "
    ++ "Please add retryWrites=false to your connection string."

/-- The code that the server reported. -/
def code? : ErrorKind → Option Int32
  | command e => some e.code
  | duplicateKey e | writeConcern e => e.code?
  | batch f => f.code?
  | _ => none

/-- The message that the server reported, or that tells the caller what to mend. -/
def reportedMessage? : ErrorKind → Option String
  | command e => some e.message
  | duplicateKey e | writeConcern e => e.message?
  | retryableWritesNotSupported => some retryableWritesMessage
  | invalidArgument cause => some cause.message
  | invalidResponse cause => some cause.message
  | _ => none

/-- The labels that the server put on the write concern of a failed batch. -/
def concernLabels : ErrorKind → List String
  | batch f => f.concern.elim [] (·.labels)
  | _ => []

end ErrorKind

/-! ### Errors -/

/-- A kind and labels. -/
structure Cause where
  kind : ErrorKind
  labels : LabelSet

/-- An error and those behind it. -/
structure Error extends Cause where
  /-- The errors that it came out of, nearest first. -/
  sources : List Cause

namespace Error

/-- The error of a kind with some labels. A failed batch brings along the labels of its write
concern. -/
def of (kind : ErrorKind) (labels : List String) : Error where
  kind := kind
  labels := (LabelSet.ofList labels).insertAll kind.concernLabels
  sources := []

/-- The error of a kind without further labels. -/
def ofKind (kind : ErrorKind) : Error :=
  of kind []

/-- The error of a refused argument. -/
def ofRefusal (cause : InvalidArgument) : Error :=
  ofKind (.invalidArgument cause)

/-- What is to be written, or the error of a value that cannot be written. -/
def encoded {α : Type} (v? : Option α) : Except Error α :=
  v?.elim (.error (ofKind .unencodable)) .ok

/-- The error and those behind it. -/
def causes (e : Error) : List Cause :=
  e.toCause :: e.sources

/-- The error behind this one. -/
def source? (e : Error) : Option Error :=
  match e.sources with
  | [] => none
  | c :: rest => some { toCause := c, sources := rest }

/-- An error that came out of another one. -/
def causedBy (e source : Error) : Error :=
  { e with sources := source.causes }

/-- The code that the server reported, here or behind this error. -/
def code? (e : Error) : Option Int32 :=
  e.causes.findSome? (·.kind.code?)

/-- The message of this error. -/
def reportedMessage? (e : Error) : Option String :=
  e.kind.reportedMessage?

/-- Whether a label is on this error or on one behind it. -/
def hasLabel (e : Error) (label : String) : Bool :=
  e.causes.any fun c => decide (label ∈ c.labels)

/-- Whether a unique index forbids the write. -/
def isDuplicateKey (e : Error) : Bool :=
  match e.kind with
  | .duplicateKey _ => true
  | _ => false

/-- Whether the deployment cannot tell a repeated write from a new one. -/
def isRetryableWritesNotSupported (e : Error) : Bool :=
  match e.kind with
  | .retryableWritesNotSupported => true
  | _ => false

/-- The failure that this error tells in the older shape. -/
def lastErrorFailure? (e : Error) : Option LastErrorFailure :=
  match e.kind with
  | .duplicateKey failure | .writeConcern failure => some failure
  | _ => none

@[simp] theorem kind_of (kind : ErrorKind) (labels : List String) : (of kind labels).kind = kind :=
  rfl

@[simp] theorem sources_of (kind : ErrorKind) (labels : List String) :
    (of kind labels).sources = [] :=
  rfl

theorem encoded_eq_ok_iff {α : Type} {v? : Option α} {v : α} : encoded v? = .ok v ↔ v? = some v := by
  cases v? <;> simp [encoded]

theorem encoded_eq_error_iff {α : Type} {v? : Option α} {e : Error} :
    encoded v? = .error e ↔ v? = none ∧ e = ofKind .unencodable := by
  cases v? <;> simp [encoded, eq_comm]

theorem mem_labels_of {kind : ErrorKind} {labels : List String} {z : String} :
    z ∈ (of kind labels).labels ↔ z ∈ labels ∨ z ∈ kind.concernLabels := by
  simp [of, or_comm]

end Error

end WritePath
