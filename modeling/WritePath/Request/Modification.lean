import WritePath.Bson.Record

namespace WritePath

/-!
# Modifications

* `Modification` — what an update does to a document: update operators, or a pipeline of stages.
* `Modification.toBson` — the document or the array of stages.
* `Modification.stored`, `Modification.ofBson?` — the same as a record, and its reading.
-/

/-- What an update does to a document. -/
inductive Modification where
  | operators (d : Document)
  | pipeline (stages : List Document)

namespace Modification

/-- The document of operators or the array of stages. -/
def toBson : Modification → Bson
  | operators d => .document d
  | pipeline stages => .array (stages.map .document)

/-- The document or the array as a record. -/
def stored (m : Modification) : Bson :=
  m.toBson.stored

/-- Reads a document, or an array of documents. -/
def ofBson? (v : Bson) : Option Modification :=
  match v.readDocument? with
  | some d => some (operators d)
  | none => (v.readList? Bson.readDocument?).map pipeline

end Modification

end WritePath
