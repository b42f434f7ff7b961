namespace WritePath

/-!
# Kinds of writes

* `WriteKind` — what a write does to documents.
* `WriteKind.name`, `WriteKind.commandName` — its own name, and that of the command that carries it.
-/

/-- What a write does to documents. -/
inductive WriteKind where
  | insert
  | update
  | replace
  | delete
  deriving DecidableEq, Repr

namespace WriteKind

/-- The name of the kind. -/
def name : WriteKind → String
  | insert => "insert"
  | update => "update"
  | replace => "replace"
  | delete => "delete"

/-- The name of the write command. A replacement is sent as an update. -/
def commandName : WriteKind → String
  | insert => "insert"
  | update | replace => "update"
  | delete => "delete"

/-- Whether the write changes documents in place, so that it can match, modify and upsert. -/
def isUpdate : WriteKind → Bool
  | update | replace => true
  | insert | delete => false

end WriteKind

end WritePath
