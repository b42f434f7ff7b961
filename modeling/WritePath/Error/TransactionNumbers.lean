import WritePath.Error.Basic

namespace WritePath

/-!
# Retryable writes

A write that may be sent again carries a transaction number, by which the server tells it from a new
one. Not every deployment can do so, and the error of one that cannot is replaced by an error that
says how to do without.

* `Error.refusesTransactionNumbers` — whether an error is that of such a deployment.
* `Error.explained` — the error that is reported instead.
-/

/-- The code of an operation that the server does not allow. -/
def illegalOperationCode : Int32 := 20

/-- How the message of a deployment without transaction numbers begins. -/
def transactionNumbersOpening : String := "Transaction numbers"

/-- Whether the deployment refuses transaction numbers. -/
def CommandFailure.refusesTransactionNumbers (e : CommandFailure) : Bool :=
  e.code == illegalOperationCode
    && transactionNumbersOpening.toList.isPrefixOf e.message.toList

namespace Error

/-- Whether the error says that the deployment refuses transaction numbers. -/
def refusesTransactionNumbers (e : Error) : Bool :=
  match e.kind with
  | .command f => f.refusesTransactionNumbers
  | _ => false

/-- The error that is reported for an error: another one in front of it if the deployment refuses
transaction numbers, and the same otherwise. -/
def explained (e : Error) : Error :=
  if e.refusesTransactionNumbers then (ofKind .retryableWritesNotSupported).causedBy e else e

theorem explained_of_not_refuses {e : Error} (h : e.refusesTransactionNumbers = false) :
    e.explained = e := by
  simp [explained, h]

end Error

end WritePath
