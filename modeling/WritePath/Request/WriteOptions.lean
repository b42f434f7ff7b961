import WritePath.Request.WriteConcern

namespace WritePath

/-!
# Options of writes

* `WriteOptions` — what may be set for any kind of write.
* `WriteOptions.toDocument?`, `WriteOptions.ofBson?` — the options as BSON, where retrying is not
  recorded.
-/

/-- What may be set for any kind of write. -/
structure WriteOptions where
  /-- Whether the first failure stops the batch; it does unless told otherwise. -/
  ordered : Option Bool := none
  writeConcern : Option WriteConcern := none
  /-- Whether the write may be sent again; it may not unless told otherwise. -/
  retryWrites : Option Bool := none
  /-- Whether the server skips the validation of documents. -/
  bypassValidation : Option Bool := none
  deriving DecidableEq, Repr

namespace WriteOptions

/-- The options as a document, without those that are unset. -/
def toDocument? (o : WriteOptions) : Option Document := do
  let concern ← o.writeConcern.mapM WriteConcern.toDocument?
  some
    ((o.ordered.map fun b => ("ordered", .boolean b)).toList
      ++ (concern.map fun d => ("writeConcern", .document d)).toList
      ++ (o.bypassValidation.map fun b => ("bypassDocumentValidation", .boolean b)).toList)

/-- Reads options. -/
def ofBson? (v : Bson) : Option WriteOptions := do
  let r ← v.record?
  let ordered ← (r.slot 0 ["ordered"]).optional Bson.readBool?
  let writeConcern ← (r.slot 1 ["writeConcern"]).optional WriteConcern.ofBson?
  let bypassValidation ← (r.slot 2 ["bypassDocumentValidation"]).optional Bson.readBool?
  some { ordered, writeConcern, bypassValidation }

end WriteOptions

end WritePath
