import WritePath.Request.WriteBatch

namespace WritePath

/-!
# Operations

An operation is a batch together with the wish that it may be sent again.

* `Operation` — the batch and the wish.
* `Operation.ofRequests` — the operation of some requests and options, if they are allowed.
* `Operation.isRetrying` — whether the wish has any effect.
-/

/-- A write that can be executed. -/
structure Operation where
  batch : WriteBatch
  retryWrites : Bool

namespace Operation

/-- What the operation does. -/
def kind (op : Operation) : WriteKind :=
  op.batch.kind

/-- Whether the deployment has to be asked first if it can tell a repeated write from a new one:
retrying was asked for, and there is an acknowledgement to miss. -/
def isRetrying (op : Operation) : Bool :=
  op.retryWrites && op.batch.writeConcern.isAcknowledged

/-- The operation of some requests. Options that are not given are unset. -/
def ofRequests (ns : Namespace) (requests : Requests) (options : Option WriteOptions) :
    Except InvalidArgument Operation := do
  let options := options.getD {}
  let batch ← WriteBatch.ofRequests ns requests options
  return { batch, retryWrites := options.retryWrites.getD false }

end Operation

end WritePath
