import WritePath.Request.Namespace
import WritePath.Request.Requests
import WritePath.Request.WriteOptions

namespace WritePath

/-!
# Batches of requests

* `WriteBatch` — what a connection needs to send a write. It has a request, nothing is wrong with
  any of them, and its write concern does not contradict itself.
* `WriteBatch.ofRequests` — the batch of some requests and options, if they are allowed.
-/

/-- What a connection needs to send a write. -/
structure WriteBatch where
  ns : Namespace
  ordered : Bool
  writeConcern : WriteConcern
  bypassValidation : Option Bool
  requests : Requests
  requests_ne : requests.size ≠ 0
  faultless : requests.fault? = none
  consistent : writeConcern.isContradictory = false

namespace WriteBatch

/-- What the batch does. -/
def kind (b : WriteBatch) : WriteKind :=
  b.requests.kind

/-- The batch of some requests. What is wrong with a request is reported first, then that there is
none, and then a write concern that contradicts itself. -/
def ofRequests (ns : Namespace) (requests : Requests) (options : WriteOptions) :
    Except InvalidArgument WriteBatch :=
  let writeConcern := options.writeConcern.getD .empty
  match hf : requests.fault? with
  | some cause => .error cause
  | none =>
    if hr : requests.size = 0 then .error (.noRequests requests.kind)
    else if hc : writeConcern.isContradictory = true then .error .contradictoryConcern
    else
      .ok
        { ns, writeConcern, requests
          ordered := options.ordered.getD true
          bypassValidation := options.bypassValidation
          requests_ne := hr
          faultless := hf
          consistent := by simpa using hc }

end WriteBatch

end WritePath
