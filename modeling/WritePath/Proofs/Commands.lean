import WritePath.Proofs.Concerns
import WritePath.Request.Operation

namespace WritePath

/-!
# What a command tells

A command tells everything about a write but the name of the database, and whether the write may be
sent again. Updates and replacements go by the same names in it. They are told apart by their
documents, as an update has operators in it, and a replacement has none.

* `Modification.toBson_inj` — a document and a pipeline are told apart.
* `Command.requestField_update_ne_replace`, `Command.requestField_inj` — so are updates and
  replacements, and any requests that are allowed.
* `Command.body_inj` — the command of a batch tells its requests, its options and its write concern.
* `Operation.command_eq_iff` — two operations have one command exactly if they ask for the same.
-/

/-! ### Requests that are allowed -/

theorem Requests.fault?_update_eq_none_iff {us : List UpdateRequest} :
    (update us).fault? = none ↔ ∀ u ∈ us, u.isAllowed = true := by
  rw [fault?, ← List.all_eq_true]
  cases us.all UpdateRequest.isAllowed <;> simp

theorem Requests.fault?_replace_eq_none_iff {rs : List ReplaceRequest} :
    (replace rs).fault? = none ↔ ∀ r ∈ rs, firstOperator? r.replacement = none := by
  rw [fault?, Option.map_eq_none_iff, List.findSome?_eq_none_iff]

/-- An update document is not empty, so it has a first operator. -/
theorem firstOperator?_ne_none {d : Document} (h : isUpdateDocument d = true) :
    firstOperator? d ≠ none := by
  cases d with
  | nil => cases h
  | cons field rest =>
    have hfirst : isOperatorName field.1 = true := by
      rw [isUpdateDocument, List.all_cons] at h
      simp only [Bool.and_eq_true] at h
      exact h.2.1
    rw [firstOperator?, Document.keys, List.map_cons, List.find?_cons_of_pos hfirst]
    exact Option.some_ne_none _

/-! ### Values that tell what they stand for -/

theorem documents_inj {ds ds' : List Document} :
    ds.map Bson.document = ds'.map Bson.document ↔ ds = ds' :=
  List.map_inj_right fun _ _ h => Bson.document.inj h

/-- A document and a pipeline are told apart. -/
theorem Modification.toBson_inj {m m' : Modification} : m.toBson = m'.toBson ↔ m = m' := by
  cases m with
  | operators d => cases m' <;> simp [toBson]
  | pipeline stages =>
    cases m' with
    | operators d => simp [toBson]
    | pipeline stages' => rw [toBson, toBson, Bson.array.injEq, documents_inj, pipeline.injEq]

namespace Command

theorem updateEntry_inj {filter filter' : Document} {update update' : Bson}
    {upsert upsert' multi multi' : Bool} :
    updateEntry filter update upsert multi = updateEntry filter' update' upsert' multi' ↔
      filter = filter' ∧ update = update' ∧ upsert = upsert' ∧ multi = multi' := by
  simp [updateEntry]

/-! ### Requests -/

/-- An entry tells its update. -/
theorem update_inj {u u' : UpdateRequest}
    (h : updateEntry u.filter u.update.toBson u.upsert u.multi
      = updateEntry u'.filter u'.update.toBson u'.upsert u'.multi) : u = u' := by
  obtain ⟨hfilter, hupdate, hupsert, hmulti⟩ := updateEntry_inj.1 h
  rw [Modification.toBson_inj] at hupdate
  cases u
  cases u'
  rw [UpdateRequest.mk.injEq]
  exact ⟨hfilter, hupdate, hupsert, hmulti⟩

/-- An entry tells its replacement, if it is known to have one. -/
theorem replacement_inj {r r' : ReplaceRequest}
    (h : updateEntry r.filter (.document r.replacement) r.upsert false
      = updateEntry r'.filter (.document r'.replacement) r'.upsert false) : r = r' := by
  obtain ⟨hfilter, hreplacement, hupsert, -⟩ := updateEntry_inj.1 h
  cases r
  cases r'
  rw [ReplaceRequest.mk.injEq]
  exact ⟨hfilter, Bson.document.inj hreplacement, hupsert⟩

/-- An entry tells its removal. -/
theorem removal_inj {r r' : DeleteRequest}
    (h : Bson.document [("q", .document r.filter), ("limit", .int64 (Int64.ofInt r.limit.toNat))]
      = .document [("q", .document r'.filter), ("limit", .int64 (Int64.ofInt r'.limit.toNat))]) :
    r = r' := by
  simp only [Bson.document.injEq, List.cons.injEq, Prod.mk.injEq, Bson.int64.injEq,
    int64_ofUInt32_inj, true_and, and_true] at h
  cases r
  cases r'
  rw [DeleteRequest.mk.injEq]
  exact h

/-- Updates are not taken for replacements: the first of each would have the same document. -/
theorem requestField_update_ne_replace {us : List UpdateRequest} {rs : List ReplaceRequest}
    (hne : us ≠ []) (hus : (Requests.update us).fault? = none)
    (hrs : (Requests.replace rs).fault? = none) :
    requestField (.update us) ≠ requestField (.replace rs) := by
  intro h
  have hentries := Bson.array.inj (Prod.mk.inj h).2
  cases us with
  | nil => exact hne rfl
  | cons u us =>
    cases rs with
    | nil => cases hentries
    | cons r rs =>
      have hsame : u.update.toBson = .document r.replacement :=
        (updateEntry_inj.1 (List.cons.inj hentries).1).2.1
      have hallowed := Requests.fault?_update_eq_none_iff.1 hus u List.mem_cons_self
      have hplain := Requests.fault?_replace_eq_none_iff.1 hrs r List.mem_cons_self
      rw [UpdateRequest.isAllowed] at hallowed
      cases hupdate : u.update with
      | pipeline stages =>
        rw [hupdate] at hsame
        cases hsame
      | operators d =>
        rw [hupdate] at hsame hallowed
        cases hsame
        exact firstOperator?_ne_none hallowed hplain

/-- **Requests.** The field that holds some requests tells of which kind they are, and all that
    they ask for. -/
theorem requestField_inj {rs rs' : Requests} (hne : rs.size ≠ 0) (hne' : rs'.size ≠ 0)
    (hrs : rs.fault? = none) (hrs' : rs'.fault? = none) (h : requestField rs = requestField rs') :
    rs = rs' := by
  have hentries := (Prod.mk.inj h).2
  cases rs <;> cases rs'
  case insert.insert ds ds' =>
    rw [documents_inj.1 (Bson.array.inj hentries)]
  case update.update us us' =>
    rw [(List.map_inj_right fun _ _ => update_inj).1 (Bson.array.inj hentries)]
  case replace.replace rs rs' =>
    rw [(List.map_inj_right fun _ _ => replacement_inj).1 (Bson.array.inj hentries)]
  case delete.delete rs rs' =>
    rw [(List.map_inj_right fun _ _ => removal_inj).1 (Bson.array.inj hentries)]
  case update.replace us rs =>
    have hus : us ≠ [] := fun hnil => hne (congrArg List.length hnil)
    exact absurd h (requestField_update_ne_replace hus hrs hrs')
  case replace.update rs us =>
    have hus : us ≠ [] := fun hnil => hne' (congrArg List.length hnil)
    exact absurd h.symm (requestField_update_ne_replace hus hrs' hrs)
  -- The others go by different names.
  all_goals simp [requestField] at h

/-! ### Whole commands -/

/-- **Batches.** A command tells the collection, the requests, each of the options and the document
    of the write concern. -/
theorem body_inj {b b' : WriteBatch} {concern concern' : Document} :
    body b concern = body b' concern' ↔
      b.ns.coll = b'.ns.coll ∧ b.requests = b'.requests ∧ b.ordered = b'.ordered ∧
      b.bypassValidation = b'.bypassValidation ∧ concern = concern' := by
  constructor
  · intro h
    -- The first three fields are always there, in this order.
    have hfields := h
    simp only [body, List.cons_append, List.cons.injEq, Prod.mk.injEq, Bson.string.injEq,
      Bson.boolean.injEq, true_and] at hfields
    obtain ⟨⟨-, hcoll⟩, hrequests, hordered, -⟩ := hfields
    have hbypass := congrArg (Document.get? · "bypassDocumentValidation") h
    simp only [get?_bypassDocumentValidation_body] at hbypass
    have hconcern := congrArg (Document.get? · "writeConcern") h
    simp only [get?_writeConcern_body] at hconcern
    refine ⟨hcoll, ?_, hordered, ?_, ?_⟩
    · exact requestField_inj b.requests_ne b'.requests_ne b.faultless b'.faultless hrequests
    · exact Option.map_injective (fun _ _ => Bson.boolean.inj) hbypass
    · cases concern <;> cases concern' <;> simp_all
  · rintro ⟨hcoll, hrequests, hordered, hbypass, rfl⟩
    rw [body, body, WriteBatch.kind, WriteBatch.kind, hcoll, hrequests, hordered, hbypass]

end Command

/-! ### Operations -/

/-- A batch is for the collection it was made for, and has the requests it was made of. -/
theorem WriteBatch.of_ofRequests {ns : Namespace} {requests : Requests} {options : WriteOptions}
    {b : WriteBatch} (h : ofRequests ns requests options = .ok b) :
    b.ns = ns ∧ b.requests = requests := by
  unfold ofRequests at h
  dsimp only at h
  split at h
  · cases h
  · split at h
    · cases h
    · split at h
      · cases h
      · cases h
        exact ⟨rfl, rfl⟩

namespace Operation

variable {ns ns' : Namespace} {requests requests' : Requests} {options options' : Option WriteOptions}
  {op op' : Operation} {command command' : Document}

theorem batch_of_ofRequests (h : ofRequests ns requests options = .ok op) :
    op.batch.ns = ns ∧ op.batch.requests = requests := by
  rw [ofRequests] at h
  cases hbatch : WriteBatch.ofRequests ns requests (options.getD {}) with
  | error cause =>
    rw [hbatch] at h
    cases h
  | ok b =>
    rw [hbatch] at h
    cases h
    exact WriteBatch.of_ofRequests hbatch

/-- **Commands.** Two operations are sent as one command exactly if they ask for the same: with
    requests of one kind, the same ones in the same order, in collections of one name, stopping at a
    failure or not, with the validation of documents skipped, kept or left open alike, and with
    write concerns that come to the same document. -/
theorem command_eq_iff (h : ofRequests ns requests options = .ok op)
    (h' : ofRequests ns' requests' options' = .ok op')
    (hcommand : Command.build op.batch = .ok command)
    (hcommand' : Command.build op'.batch = .ok command') :
    command = command' ↔
      op.kind = op'.kind ∧ ns.coll = ns'.coll ∧ requests = requests' ∧
      op.batch.ordered = op'.batch.ordered ∧
      op.batch.bypassValidation = op'.batch.bypassValidation ∧
      op.batch.writeConcern.toDocument? = op'.batch.writeConcern.toDocument? := by
  obtain ⟨hns, hrequests⟩ := batch_of_ofRequests h
  obtain ⟨hns', hrequests'⟩ := batch_of_ofRequests h'
  rw [Command.build, Error.encoded_eq_ok_iff, Command.build?_eq, Option.map_eq_some_iff]
    at hcommand hcommand'
  obtain ⟨concern, hconcern, rfl⟩ := hcommand
  obtain ⟨concern', hconcern', rfl⟩ := hcommand'
  rw [Command.body_inj, hns, hns', hrequests, hrequests', hconcern, hconcern', Option.some.injEq,
    kind, kind, WriteBatch.kind, WriteBatch.kind, hrequests, hrequests']
  constructor
  · rintro ⟨hcoll, hsame, hoptions⟩
    exact ⟨congrArg Requests.kind hsame, hcoll, hsame, hoptions⟩
  · rintro ⟨-, h⟩
    exact h

/-- Documents are replaced in two databases, acknowledged once by a majority and once by the servers
    that carry a tag of this name. The command is the same, though only one of them may be sent
    again. -/
theorem command_eq_iff_twoDatabases :
    let requests : Requests := .replace [⟨[], [], true⟩, ⟨[("a", .null)], [("a", .minKey)], false⟩]
    let tagged : WriteConcern := { w := some (.custom "majority") }
    let op (ns : Namespace) (c : WriteConcern) (hc : c.isContradictory = false) (retry : Bool) :
        Operation :=
      { retryWrites := retry
        batch :=
          { ns, ordered := true, writeConcern := c, bypassValidation := none, requests
            requests_ne := by decide, faultless := by decide, consistent := hc } }
    let store := op ⟨"store", "orders", by decide, by decide⟩ .majority rfl true
    let archive := op ⟨"archive", "orders", by decide, by decide⟩ tagged rfl false
    ofRequests store.batch.ns requests
        (some { writeConcern := some .majority, retryWrites := some true }) = .ok store ∧
      ofRequests archive.batch.ns requests
        (some { writeConcern := some tagged, ordered := some true }) = .ok archive ∧
      ∃ command command', Command.build store.batch = .ok command ∧
        Command.build archive.batch = .ok command' ∧ command = command' := by
  intro requests tagged op store archive
  have hstore : ofRequests store.batch.ns requests
      (some { writeConcern := some .majority, retryWrites := some true }) = .ok store := rfl
  have harchive : ofRequests archive.batch.ns requests
      (some { writeConcern := some tagged, ordered := some true }) = .ok archive := rfl
  refine ⟨hstore, harchive, _, _, rfl, rfl, ?_⟩
  exact (command_eq_iff hstore harchive rfl rfl).2 ⟨rfl, rfl, rfl, rfl, rfl, rfl⟩

end Operation

end WritePath
