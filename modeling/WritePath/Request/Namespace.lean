import WritePath.Bson.Record
import WritePath.Request.InvalidArgument

namespace WritePath

/-!
# Namespaces

A namespace names the collection that a write goes to, by database and collection. Its text is the
two names with a dot between them; only the name of the collection may contain dots if the text is
to be read again.

* `Namespace` — two names, neither of them empty.
* `Namespace.ofNames` — the namespace of two names, if they are allowed.
* `Namespace.text`, `Namespace.parse?` — the text and its reading.
* `Namespace.toBson`, `Namespace.ofBson?` — the text as a value.
-/

/-- A database and a collection in it. -/
structure Namespace where
  db : String
  coll : String
  db_ne : db ≠ ""
  coll_ne : coll ≠ ""
  deriving DecidableEq, Repr

namespace Namespace

/-- The namespace of two names. An empty database is reported before an empty collection. -/
def ofNames (db coll : String) : Except InvalidArgument Namespace :=
  if hd : db = "" then .error .emptyDatabase
  else if hc : coll = "" then .error .emptyCollection
  else .ok ⟨db, coll, hd, hc⟩

/-- The two names with a dot between them. -/
def text (ns : Namespace) : String :=
  ns.db ++ "." ++ ns.coll

/-- Reads a namespace: of the pieces between the dots the first is the database, and the others are
the collection, with the dots between them. -/
def parse? (s : String) : Option Namespace :=
  match s.toList.splitOn '.' with
  | [] => none
  | db :: pieces =>
    (ofNames (String.ofList db) (String.ofList (['.'].intercalate pieces))).toOption

/-- The text as a value. -/
def toBson (ns : Namespace) : Bson :=
  .string ns.text

/-- The namespace of a value that holds its text. -/
def ofBson? (v : Bson) : Option Namespace :=
  v.readString?.bind parse?

@[simp] theorem ofNames_of_ne {db coll : String} (hd : db ≠ "") (hc : coll ≠ "") :
    ofNames db coll = .ok ⟨db, coll, hd, hc⟩ := by
  simp [ofNames, hd, hc]

end Namespace

end WritePath
