import WritePath.Proofs.Commands

namespace WritePath

/-!
# Which operations there are

An operation can be made of any requests that hold what their kind allows, unless there are none or
the write concern contradicts itself.

* `NamesOperator`, `Requests.Allowed` — what requests may hold.
* `IsFirst`, `Requests.Blames` — what is said of the first request that holds something else.
* `Requests.fault?_eq_none_iff`, `Requests.fault?_eq_some_iff` — requests are faultless exactly if
  they are allowed, and otherwise the fault is what is said of the first.
* `Operation.MadeOf`, `Operation.ofRequests_cases` — what an operation holds, and why there is none.
* `Operation.construction` — which operations there are, and what becomes of the others.
-/

/-! ### The first of several -/

/-- The first item of a list with some property. -/
def IsFirst {α : Type} (l : List α) (P : α → Prop) (a : α) : Prop :=
  ∃ before after, l = before ++ a :: after ∧ P a ∧ ∀ b ∈ before, ¬ P b

theorem find?_eq_some_iff_isFirst {α : Type} {l : List α} {p : α → Bool} {P : α → Prop} {a : α}
    (h : ∀ b, p b = true ↔ P b) : l.find? p = some a ↔ IsFirst l P a := by
  rw [List.find?_eq_some_iff_append, IsFirst]
  simp only [h, Bool.not_eq_true', ← Bool.not_eq_true]
  constructor
  · rintro ⟨hP, before, after, hl, hbefore⟩
    exact ⟨before, after, hl, hP, hbefore⟩
  · rintro ⟨before, after, hl, hP, hbefore⟩
    exact ⟨hP, before, after, hl, hbefore⟩

/-! ### What requests may hold -/

/-- A name is that of an update operator. -/
def NamesOperator (key : String) : Prop :=
  ∃ rest, key = "$" ++ rest

theorem isOperatorName_iff {key : String} : isOperatorName key = true ↔ NamesOperator key := by
  rw [isOperatorName, beq_iff_eq, List.head?_eq_some_iff]
  constructor
  · rintro ⟨rest, h⟩
    have hrest : (String.ofList rest).toList = rest := String.toList_ofList
    refine ⟨String.ofList rest, ?_⟩
    rw [← String.toList_inj, String.toList_append, hrest, h]
    rfl
  · rintro ⟨rest, rfl⟩
    exact ⟨rest.toList, String.toList_append⟩

namespace Requests

/-- What requests may hold: an update document consists of operators, a replacement has none, and a
removal is of one document or of all. Nothing is required of an insertion or of a pipeline. -/
def Allowed : Requests → Prop
  | insert _ => True
  | update us =>
    ∀ u ∈ us, ∀ d, u.update = .operators d → d ≠ [] ∧ ∀ key ∈ d.keys, NamesOperator key
  | replace rs => ∀ r ∈ rs, ∀ key ∈ r.replacement.keys, ¬ NamesOperator key
  | delete rs => ∀ r ∈ rs, r.limit = 0 ∨ r.limit = 1

/-- What is said of requests that hold something else. The first replacement with an operator is
blamed for its first one, and the first removal of several documents for its limit. -/
def Blames : Requests → InvalidArgument → Prop
  | insert _, _ => False
  | update us, cause =>
    cause = .updateWithoutOperators ∧
      ∃ u ∈ us, ∃ d, u.update = .operators d ∧ (d = [] ∨ ∃ key ∈ d.keys, ¬ NamesOperator key)
  | replace rs, cause =>
    ∃ r key, cause = .operatorInReplacement key ∧
      IsFirst rs (fun r => ∃ key ∈ r.replacement.keys, NamesOperator key) r ∧
      IsFirst r.replacement.keys NamesOperator key
  | delete rs, cause =>
    ∃ r, cause = .deleteLimit r.limit ∧ IsFirst rs (fun r => ¬ (r.limit = 0 ∨ r.limit = 1)) r

/-! #### Update documents and replacements -/

theorem isUpdateDocument_iff {d : Document} :
    isUpdateDocument d = true ↔ d ≠ [] ∧ ∀ key ∈ d.keys, NamesOperator key := by
  rw [isUpdateDocument, Bool.and_eq_true, Bool.not_eq_true', List.isEmpty_eq_false_iff,
    List.all_eq_true, Document.keys]
  simp only [List.forall_mem_map, isOperatorName_iff]

theorem isAllowed_iff {u : UpdateRequest} :
    u.isAllowed = true ↔
      ∀ d, u.update = .operators d → d ≠ [] ∧ ∀ key ∈ d.keys, NamesOperator key := by
  rw [UpdateRequest.isAllowed]
  cases u.update with
  | operators d => simp [isUpdateDocument_iff]
  | pipeline stages => simp

theorem firstOperator?_eq_some_iff {d : Document} {key : String} :
    firstOperator? d = some key ↔ IsFirst d.keys NamesOperator key :=
  find?_eq_some_iff_isFirst fun _ => isOperatorName_iff

theorem firstOperator?_eq_none_iff {d : Document} :
    firstOperator? d = none ↔ ∀ key ∈ d.keys, ¬ NamesOperator key := by
  simp only [firstOperator?, List.find?_eq_none, isOperatorName_iff]

theorem isTooMany_iff {limit : UInt32} : decide (1 < limit) = true ↔ ¬ (limit = 0 ∨ limit = 1) := by
  rw [decide_eq_true_eq, UInt32.lt_iff_toNat_lt, ← UInt32.toNat_inj, ← UInt32.toNat_inj]
  show 1 < limit.toNat ↔ ¬ (limit.toNat = 0 ∨ limit.toNat = 1)
  omega

/-! #### Faults -/

/-- Requests are faultless exactly if they are allowed. -/
theorem fault?_eq_none_iff {requests : Requests} : requests.fault? = none ↔ requests.Allowed := by
  cases requests with
  | insert ds => exact iff_of_true rfl trivial
  | update us =>
    rw [fault?_update_eq_none_iff, Allowed]
    simp only [isAllowed_iff]
  | replace rs =>
    rw [fault?_replace_eq_none_iff, Allowed]
    simp only [firstOperator?_eq_none_iff]
  | delete rs =>
    rw [fault?, Option.map_eq_none_iff, List.find?_eq_none, Allowed]
    simp only [isTooMany_iff, not_not]

/-- A replacement with an operator comes first, and this operator comes first in it. -/
theorem findSome?_firstOperator?_eq_some_iff {rs : List ReplaceRequest} {key : String} :
    rs.findSome? (fun r => firstOperator? r.replacement) = some key ↔
      ∃ r, IsFirst rs (fun r => ∃ key ∈ r.replacement.keys, NamesOperator key) r ∧
        IsFirst r.replacement.keys NamesOperator key := by
  rw [List.findSome?_eq_some_iff]
  simp only [firstOperator?_eq_some_iff, firstOperator?_eq_none_iff]
  constructor
  · rintro ⟨before, r, after, hrs, hkey, hbefore⟩
    have hmem : key ∈ r.replacement.keys := by
      obtain ⟨earlier, later, hkeys, -⟩ := hkey
      rw [hkeys]
      exact List.mem_append_right _ List.mem_cons_self
    refine ⟨r, ⟨before, after, hrs, ⟨key, hmem, ?_⟩, fun b hb => ?_⟩, hkey⟩
    · obtain ⟨-, -, -, hoperator, -⟩ := hkey
      exact hoperator
    · rintro ⟨k, hk, hoperator⟩
      exact hbefore b hb k hk hoperator
  · rintro ⟨r, ⟨before, after, hrs, -, hbefore⟩, hkey⟩
    exact ⟨before, r, after, hrs, hkey, fun b hb k hk hoperator => hbefore b hb ⟨k, hk, hoperator⟩⟩

/-- Otherwise the fault is what is said of the first request that is not. -/
theorem fault?_eq_some_iff {requests : Requests} {cause : InvalidArgument} :
    requests.fault? = some cause ↔ requests.Blames cause := by
  cases requests with
  | insert ds => exact iff_of_false (Option.some_ne_none cause).symm id
  | update us =>
    have hbad : us.all UpdateRequest.isAllowed = true ↔
        ¬ ∃ u ∈ us, ∃ d, u.update = .operators d ∧
          (d = [] ∨ ∃ key ∈ d.keys, ¬ NamesOperator key) := by
      rw [List.all_eq_true]
      simp only [isAllowed_iff]
      push Not
      rfl
    rw [fault?, Blames]
    by_cases hall : us.all UpdateRequest.isAllowed = true
    · rw [if_pos hall]
      exact iff_of_false (Option.some_ne_none cause).symm fun hblamed => hbad.1 hall hblamed.2
    · rw [if_neg hall, Option.some.injEq, eq_comm, iff_self_and]
      exact fun _ => not_not.1 (mt hbad.2 hall)
  | replace rs =>
    rw [fault?, Option.map_eq_some_iff, Blames]
    simp only [findSome?_firstOperator?_eq_some_iff]
    constructor
    · rintro ⟨key, ⟨r, hr, hkey⟩, rfl⟩
      exact ⟨r, key, rfl, hr, hkey⟩
    · rintro ⟨r, key, rfl, hr, hkey⟩
      exact ⟨key, ⟨r, hr, hkey⟩, rfl⟩
  | delete rs =>
    rw [fault?, Option.map_eq_some_iff, Blames]
    simp only [find?_eq_some_iff_isFirst fun _ => isTooMany_iff]
    constructor
    · rintro ⟨r, hr, rfl⟩
      exact ⟨r, rfl, hr⟩
    · rintro ⟨r, rfl, hr⟩
      exact ⟨r, hr, rfl⟩

/-- Nothing is said of requests that are allowed. -/
theorem Blames.not_allowed {requests : Requests} {cause : InvalidArgument}
    (h : requests.Blames cause) : ¬ requests.Allowed := by
  intro hallowed
  rw [← fault?_eq_some_iff, fault?_eq_none_iff.2 hallowed] at h
  cases h

theorem Blames.unique {requests : Requests} {cause cause' : InvalidArgument}
    (h : requests.Blames cause) (h' : requests.Blames cause') : cause = cause' := by
  rw [← fault?_eq_some_iff] at h h'
  exact Option.some.inj (h.symm.trans h')

theorem allowed_of_size_eq_zero {requests : Requests} (h : requests.size = 0) :
    requests.Allowed := by
  cases requests with
  | insert ds => trivial
  | update us | replace rs | delete rs =>
    rw [List.length_eq_zero_iff.1 h]
    exact List.forall_mem_nil _

end Requests

/-! ### What becomes of them -/

theorem WriteConcern.isContradictory_iff {c : WriteConcern} :
    c.isContradictory = true ↔ c.w = some (.nodes 0) ∧ c.journal = some true := by
  rw [isContradictory, Bool.and_eq_true, decide_eq_true_eq, decide_eq_true_eq]

/-- A write concern that does not contradict itself is acknowledged unless it is told not to be. -/
theorem WriteConcern.isAcknowledged_iff {c : WriteConcern} (h : c.isContradictory = false) :
    c.isAcknowledged = true ↔ c.w ≠ some (.nodes 0) := by
  rw [isAcknowledged, Bool.or_eq_true, decide_eq_true_eq, decide_eq_true_eq]
  constructor
  · rintro (hw | hjournal) hnone
    · exact hw hnone
    · rw [isContradictory_iff.2 ⟨hnone, hjournal⟩] at h
      cases h
  · exact .inl

namespace Operation

variable {ns : Namespace} {requests : Requests} {options : Option WriteOptions} {op : Operation}

/-- What an operation holds that is made of some requests and options. -/
structure MadeOf (op : Operation) (ns : Namespace) (requests : Requests) (given : WriteOptions) :
    Prop where
  ns : op.batch.ns = ns
  requests : op.batch.requests = requests
  ordered : op.batch.ordered = given.ordered.getD true
  writeConcern : op.batch.writeConcern = given.writeConcern.getD .empty
  bypassValidation : op.batch.bypassValidation = given.bypassValidation
  retryWrites : op.retryWrites = given.retryWrites.getD false

/-- Why no operation is made of some requests and a write concern: one of the requests is not allowed,
there are none, or the requests are all right and the write concern contradicts itself. -/
inductive Refused (requests : Requests) (concern : WriteConcern) : InvalidArgument → Prop where
  | request {cause : InvalidArgument} (h : requests.Blames cause) : Refused requests concern cause
  | noRequests (h : requests.size = 0) : Refused requests concern (.noRequests requests.kind)
  | concern (hallowed : requests.Allowed) (hsize : requests.size ≠ 0)
      (hcontradictory : concern.isContradictory = true) :
      Refused requests concern .contradictoryConcern

/-- What an operation needs. -/
structure Accepted (requests : Requests) (concern : WriteConcern) : Prop where
  size_ne : requests.size ≠ 0
  allowed : requests.Allowed
  consistent : concern.isContradictory = false

theorem Refused.not_accepted {concern : WriteConcern} {cause : InvalidArgument}
    (h : Refused requests concern cause) : ¬ Accepted requests concern := by
  rintro ⟨hsize, hallowed, hconsistent⟩
  cases h with
  | request hblamed => exact hblamed.not_allowed hallowed
  | noRequests hnone => exact hsize hnone
  | concern _ _ hcontradictory =>
    rw [hconsistent] at hcontradictory
    cases hcontradictory

/-- There is one reason at a time. -/
theorem Refused.unique {concern : WriteConcern} {cause cause' : InvalidArgument}
    (h : Refused requests concern cause) (h' : Refused requests concern cause') :
    cause = cause' := by
  cases h with
  | request hblamed =>
    cases h' with
    | request hblamed' => exact hblamed.unique hblamed'
    | noRequests hnone => exact absurd (Requests.allowed_of_size_eq_zero hnone) hblamed.not_allowed
    | concern hallowed => exact absurd hallowed hblamed.not_allowed
  | noRequests hnone =>
    cases h' with
    | request hblamed => exact absurd (Requests.allowed_of_size_eq_zero hnone) hblamed.not_allowed
    | noRequests => rfl
    | concern _ hsize => exact absurd hnone hsize
  | concern hallowed hsize =>
    cases h' with
    | request hblamed => exact absurd hallowed hblamed.not_allowed
    | noRequests hnone => exact absurd hnone hsize
    | concern => rfl

/-- Either there is a reason against it, or an operation is made. -/
theorem ofRequests_cases (ns : Namespace) (requests : Requests) (options : Option WriteOptions) :
    (∃ cause, Refused requests ((options.getD {}).writeConcern.getD .empty) cause ∧
      ofRequests ns requests options = .error cause) ∨
    Accepted requests ((options.getD {}).writeConcern.getD .empty) ∧
      ∃ op, ofRequests ns requests options = .ok op ∧
        op.MadeOf ns requests (options.getD {}) := by
  have hbind : ofRequests ns requests options
      = (WriteBatch.ofRequests ns requests (options.getD {})).map
          fun batch => { batch, retryWrites := (options.getD {}).retryWrites.getD false } := by
    rw [ofRequests]
    cases WriteBatch.ofRequests ns requests (options.getD {}) <;> rfl
  rw [hbind]
  unfold WriteBatch.ofRequests
  dsimp only
  -- The checks are made in the order of the reasons.
  split
  · next cause hfault =>
    exact .inl ⟨cause, .request (Requests.fault?_eq_some_iff.1 hfault), rfl⟩
  · next hfault =>
    have hallowed := Requests.fault?_eq_none_iff.1 hfault
    split
    · next hsize => exact .inl ⟨_, .noRequests hsize, rfl⟩
    · next hsize =>
      split
      · next hcontradictory => exact .inl ⟨_, .concern hallowed hsize hcontradictory, rfl⟩
      · next hconsistent =>
        exact .inr ⟨⟨hsize, hallowed, Bool.eq_false_iff.2 hconsistent⟩, _, rfl,
          ⟨rfl, rfl, rfl, rfl, rfl, rfl⟩⟩

theorem exists_ofRequests_eq_ok_iff :
    (∃ op, ofRequests ns requests options = .ok op) ↔
      Accepted requests ((options.getD {}).writeConcern.getD .empty) := by
  obtain ⟨cause, hrefused, herror⟩ | ⟨haccepted, op, hop, -⟩ := ofRequests_cases ns requests options
  · rw [herror]
    refine iff_of_false ?_ hrefused.not_accepted
    rintro ⟨op, hop⟩
    cases hop
  · exact iff_of_true ⟨op, hop⟩ haccepted

theorem ofRequests_eq_error_iff {cause : InvalidArgument} :
    ofRequests ns requests options = .error cause ↔
      Refused requests ((options.getD {}).writeConcern.getD .empty) cause := by
  obtain ⟨cause', hrefused, herror⟩ | ⟨haccepted, op, hop, -⟩ :=
    ofRequests_cases ns requests options
  · rw [herror, Except.error.injEq]
    constructor
    · rintro rfl
      exact hrefused
    · exact hrefused.unique
  · rw [hop]
    exact iff_of_false (fun h => by cases h) fun hrefused => hrefused.not_accepted haccepted

theorem madeOf_of_ofRequests (h : ofRequests ns requests options = .ok op) :
    op.MadeOf ns requests (options.getD {}) := by
  obtain ⟨cause, -, herror⟩ | ⟨-, op', hop, hmade⟩ := ofRequests_cases ns requests options
  · rw [h] at herror
    cases herror
  · rw [h] at hop
    cases hop
    exact hmade

/-- **Construction.** An operation is made of requests exactly if there are any, each of them holds
    what its kind allows, and the write concern, which is empty if none is given, does not ask for
    no acknowledgement and for the journal at once. Otherwise the argument is refused: for what is
    said of the first request that is not allowed, or else because there are no requests, or else
    for the write concern. An operation has the requests that it was made of, in their order; it
    stops at a failure unless told otherwise, and is sent again only if told so. It is acknowledged
    exactly if some server has to apply it. -/
theorem construction (ns : Namespace) (requests : Requests) (options : Option WriteOptions) :
    let given := options.getD {}
    let concern := given.writeConcern.getD .empty
    ((∃ op, ofRequests ns requests options = .ok op) ↔
      requests.size ≠ 0 ∧ requests.Allowed ∧
        ¬ (concern.w = some (.nodes 0) ∧ concern.journal = some true)) ∧
    (∀ cause, ofRequests ns requests options = .error cause ↔ Refused requests concern cause) ∧
    ∀ op, ofRequests ns requests options = .ok op →
      op.MadeOf ns requests given ∧
      (op.batch.writeConcern.isAcknowledged = true ↔ op.batch.writeConcern.w ≠ some (.nodes 0)) := by
  intro given concern
  refine ⟨?_, fun cause => ofRequests_eq_error_iff, fun op hop => ⟨madeOf_of_ofRequests hop, ?_⟩⟩
  · rw [exists_ofRequests_eq_ok_iff, ← WriteConcern.isContradictory_iff, Bool.not_eq_true]
    constructor
    · rintro ⟨hsize, hallowed, hconsistent⟩
      exact ⟨hsize, hallowed, hconsistent⟩
    · rintro ⟨hsize, hallowed, hconsistent⟩
      exact ⟨hsize, hallowed, hconsistent⟩
  · exact WriteConcern.isAcknowledged_iff op.batch.consistent

/-- Of three replacements the second is the first with an operator, which is reported although the
    write concern contradicts itself as well. Two removals are refused for the write concern alone,
    and may be made without the journal. -/
theorem construction_withoutAcknowledgement :
    let orders : Namespace := ⟨"store", "orders", by decide, by decide⟩
    let journaled : WriteOptions :=
      { writeConcern := some { w := some (.nodes 0), journal := some true }
        retryWrites := some true }
    let replacements : Requests :=
      .replace
        [⟨[], [("a", .null)], false⟩, ⟨[], [("b", .null), ("$set", .null), ("$inc", .null)], true⟩,
          ⟨[], [("$unset", .null)], false⟩]
    let removals : Requests := .delete [⟨[], 1⟩, ⟨[], 0⟩]
    ofRequests orders replacements (some journaled) = .error (.operatorInReplacement "$set") ∧
    ofRequests orders removals (some journaled) = .error .contradictoryConcern ∧
    ∃ op, ofRequests orders removals
        (some { journaled with writeConcern := some .unacknowledged }) = .ok op ∧
      op.batch.requests = removals ∧ op.batch.ordered = true ∧ op.retryWrites = true ∧
      op.batch.writeConcern.isAcknowledged ≠ true := by
  intro orders journaled replacements removals
  have hplain (key : String) (h : isOperatorName key = false) : ¬ NamesOperator key := by
    rw [← isOperatorName_iff, h]
    exact Bool.false_ne_true
  have hset : NamesOperator "$set" := ⟨"set", by decide⟩
  have hfirst : IsFirst ["b", "$set", "$inc"] NamesOperator "$set" :=
    ⟨["b"], ["$inc"], rfl, hset, fun b hb => by
      rw [List.mem_singleton.1 hb]
      exact hplain "b" (by decide)⟩
  have hblamed : replacements.Blames (.operatorInReplacement "$set") := by
    refine ⟨_, _, rfl, ⟨[_], [_], rfl, ⟨"$set", by decide, hset⟩, fun r hr => ?_⟩, hfirst⟩
    rw [List.mem_singleton.1 hr]
    rintro ⟨key, hkey, hoperator⟩
    rw [List.mem_singleton.1 hkey] at hoperator
    exact hplain "a" (by decide) hoperator
  have hallowed : removals.Allowed := by
    intro r hr
    obtain rfl | rfl : r = ⟨[], 1⟩ ∨ r = ⟨[], 0⟩ := by simpa using hr
    · exact .inr rfl
    · exact .inl rfl
  obtain ⟨-, hrefused, -⟩ := construction orders replacements (some journaled)
  obtain ⟨-, hrefused', -⟩ := construction orders removals (some journaled)
  obtain ⟨haccepted, -, hmade⟩ := construction orders removals
    (some { journaled with writeConcern := some .unacknowledged })
  obtain ⟨op, hop⟩ := haccepted.2 ⟨by decide, hallowed, fun h => nomatch h.2⟩
  obtain ⟨hholds, hacknowledged⟩ := hmade op hop
  refine ⟨(hrefused _).2 (.request hblamed), (hrefused' _).2 (.concern hallowed (by decide) rfl),
    op, hop, hholds.requests, hholds.ordered, hholds.retryWrites, fun h => ?_⟩
  exact hacknowledged.1 h (by rw [hholds.writeConcern]; rfl)

end Operation

end WritePath
