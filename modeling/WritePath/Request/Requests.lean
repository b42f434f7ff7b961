import WritePath.Request.InvalidArgument
import WritePath.Request.Modification

namespace WritePath

/-!
# Requests

A write is asked for by requests of one kind. Each kind has its own rule for what they hold.

* `UpdateRequest`, `ReplaceRequest`, `DeleteRequest` — single requests; an insertion is a document.
* `Requests` — several of them, all of one kind.
* `Requests.fault?` — what is wrong with them.
-/

/-- A change to the documents that match a filter. -/
structure UpdateRequest where
  filter : Document
  update : Modification
  /-- Whether a document is inserted when none matches. -/
  upsert : Bool := false
  /-- Whether all matching documents are changed. -/
  multi : Bool := false

/-- A new document in place of the first one that matches a filter. -/
structure ReplaceRequest where
  filter : Document
  replacement : Document
  /-- Whether the document is inserted when none matches. -/
  upsert : Bool := false

/-- The removal of the documents that match a filter. -/
structure DeleteRequest where
  filter : Document
  /-- One removes the first match, zero removes all. -/
  limit : UInt32

/-- The requests of a write, in order. -/
inductive Requests where
  | insert (documents : List Document)
  | update (requests : List UpdateRequest)
  | replace (requests : List ReplaceRequest)
  | delete (requests : List DeleteRequest)

namespace Requests

/-- What the requests do. -/
def kind : Requests → WriteKind
  | insert _ => .insert
  | update _ => .update
  | replace _ => .replace
  | delete _ => .delete

/-- The number of requests. -/
def size : Requests → Nat
  | insert ds => ds.length
  | update rs => rs.length
  | replace rs => rs.length
  | delete rs => rs.length

end Requests

/-! ### What requests may hold -/

/-- Whether a name is that of an update operator. -/
def isOperatorName (key : String) : Bool :=
  key.toList.head? == some '$'

/-- Whether an update may use a document: it holds update operators and nothing else. -/
def isUpdateDocument (d : Document) : Bool :=
  !d.isEmpty && d.all fun field => isOperatorName field.1

/-- The first update operator in a document. -/
def firstOperator? (d : Document) : Option String :=
  d.keys.find? isOperatorName

/-- Whether an update may be asked for. Nothing is required of a pipeline. -/
def UpdateRequest.isAllowed (r : UpdateRequest) : Bool :=
  match r.update with
  | .operators d => isUpdateDocument d
  | .pipeline _ => true

/-- What is wrong with the requests. A replacement holds no operator, and a removal is of one or of
all; of several that do otherwise the first is named. -/
def Requests.fault? : Requests → Option InvalidArgument
  | insert _ => none
  | update rs => if rs.all UpdateRequest.isAllowed then none else some .updateWithoutOperators
  | replace rs => (rs.findSome? fun r => firstOperator? r.replacement).map .operatorInReplacement
  | delete rs => (rs.find? fun r => 1 < r.limit).map fun r => .deleteLimit r.limit

end WritePath
