import Mathlib.Data.List.Nodup
import WritePath.Proofs.FailureDocuments

namespace WritePath

/-!
# Documents in the making

A document about the last error is built in any number of steps, each of which may set names that are
in use already.

* `ReplyStep.Assigns`, `ReplyStep.Leaves` — the value that a step gives to a name, and the names that
  it does not set.
* `ReplyStep.get?_apply_of_assigns`, `ReplyStep.get?_apply_of_leaves` — the values after a step;
  `ReplyStep.keys_apply` — the names after it.
* `LastErrorForm.IsReply` — what every document on the way is like; `LastErrorForm.IsReply.apply`
  and `LastErrorForm.isReply_build` — each step keeps it so, and hence any number of them.
* `LastErrorForm.get?_foldl_apply_of_leaves`, `LastErrorForm.get?_build_of_assigns` — over a whole
  run, the last step that sets a name prevails.
* `LastErrorForm.build_keeps` — names, places and values in every run.
-/

namespace ReplyStep

/-! ### What a step sets -/

/-- A step gives a value to a name. Of a name that comes up twice in some details it is the later
    value. -/
inductive Assigns : ReplyStep → String → Bson → Prop
  | updatedExisting (b : Bool) (id? : Option Bson) :
    Assigns (outcome b id?) "updatedExisting" (.boolean b)
  | upserted (b : Bool) (id : Bson) : Assigns (outcome b (some id)) "upserted" id
  | detail {d : Document} {key : String} {v : Bson} (h : Document.get? d.reverse key = some v) :
    Assigns (details d) key v
  | message (message : String) (code : Int32) :
    Assigns (error message code) "err" (.string message)
  | code (message : String) (code : Int32) : Assigns (error message code) "code" (.int32 code)

/-- A step does not set a name. -/
def Leaves (s : ReplyStep) (key : String) : Prop :=
  ∀ v, ¬ s.Assigns key v

variable {d : Document} {s : ReplyStep} {key : String} {v : Bson}

/-- What a step assigns is what is found last among its fields. -/
theorem get?_reverse_fields_eq_some_iff :
    Document.get? s.fields.reverse key = some v ↔ s.Assigns key v := by
  -- Details aside, a step sets no name twice, so that every field is found.
  have hmem (hnodup : s.fields.keys.Nodup) :
      Document.get? s.fields.reverse key = some v ↔ (key, v) ∈ s.fields := by
    have hreverse : (Document.keys s.fields.reverse).Nodup := by
      rw [Document.keys, List.map_reverse]
      exact List.nodup_reverse.2 hnodup
    rw [Document.get?_eq_some_iff_mem hreverse, List.mem_reverse]
  constructor
  · intro h
    cases s with
    | outcome b id? =>
      cases id? with
      | none =>
        obtain ⟨rfl, rfl⟩ : key = "updatedExisting" ∧ v = .boolean b := by
          simpa [fields] using (hmem (by simp [fields, Document.keys])).1 h
        exact .updatedExisting b none
      | some id =>
        obtain ⟨rfl, rfl⟩ | ⟨rfl, rfl⟩ :
            key = "updatedExisting" ∧ v = .boolean b ∨ key = "upserted" ∧ v = id := by
          simpa [fields] using (hmem (by simp [fields, Document.keys])).1 h
        · exact .updatedExisting b (some id)
        · exact .upserted b v
    | details d => exact .detail h
    | error message code =>
      obtain ⟨rfl, rfl⟩ | ⟨rfl, rfl⟩ :
          key = "err" ∧ v = .string message ∨ key = "code" ∧ v = .int32 code := by
        simpa [fields] using (hmem (by simp [fields, Document.keys])).1 h
      · exact .message message code
      · exact .code message code
  · intro h
    cases h with
    | updatedExisting b id? => cases id? <;> rfl
    | upserted b id => rfl
    | detail h => exact h
    | message message code => rfl
    | code message code => rfl

theorem leaves_iff : s.Leaves key ↔ Document.get? s.fields.reverse key = none := by
  rw [Option.eq_none_iff_forall_ne_some]
  exact forall_congr' fun v => not_congr get?_reverse_fields_eq_some_iff.symm

/-! ### What a step does -/

/-- A name that is set has the value that is assigned. -/
theorem get?_apply_of_assigns (h : s.Assigns key v) (d : Document) :
    (s.apply d).get? key = some v := by
  rw [LastErrorForm.get?_apply, get?_reverse_fields_eq_some_iff.2 h, Option.some_or]

/-- Any other keeps its value, or has none. -/
theorem get?_apply_of_leaves (h : s.Leaves key) (d : Document) :
    (s.apply d).get? key = d.get? key := by
  rw [LastErrorForm.get?_apply, leaves_iff.1 h, Option.none_or]

/-- Names in use stay in their places, and new ones follow in the order in which they are set. -/
theorem keys_apply (h : d.keys.Nodup) (s : ReplyStep) :
    (s.apply d).keys = d.keys ++ (s.fields.keys.removeAll d.keys).eraseDups :=
  Document.keys_merge h s.fields

end ReplyStep

namespace LastErrorForm

/-! ### Runs -/

/-- No name comes up twice, and the first two are `ok` and `n`. -/
structure IsReply (d : Document) : Prop where
  nodup : d.keys.Nodup
  opening : ∃ others, d.keys = "ok" :: "n" :: others

theorem isReply_start (count : UInt64) : IsReply (start count) where
  nodup := nodup_keys_start count
  opening := ⟨[], rfl⟩

variable {d : Document} {s : ReplyStep} {key : String} {v : Bson}

/-- Each step keeps it so. -/
theorem IsReply.apply (h : IsReply d) (s : ReplyStep) : IsReply (s.apply d) where
  nodup := Document.nodup_keys_merge h.nodup s.fields
  opening := by
    obtain ⟨others, hothers⟩ := h.opening
    rw [ReplyStep.keys_apply h.nodup, hothers]
    exact ⟨_, rfl⟩

theorem IsReply.run (h : IsReply d) (steps : List ReplyStep) :
    IsReply (steps.foldl ReplyStep.apply d) := by
  -- Any document will do to begin with, since the first step leaves another one to the rest.
  induction steps generalizing d with
  | nil => exact h
  | cons s rest ih => exact ih (h.apply s)

theorem isReply_build (count : UInt64) (steps : List ReplyStep) : IsReply (build count steps) :=
  (isReply_start count).run steps

theorem build_append (count : UInt64) (steps later : List ReplyStep) :
    build count (steps ++ later) = later.foldl ReplyStep.apply (build count steps) :=
  List.foldl_append

/-- A name that none of some steps sets keeps its value. -/
theorem get?_foldl_apply_of_leaves {later : List ReplyStep} (h : ∀ t ∈ later, t.Leaves key)
    (d : Document) : (later.foldl ReplyStep.apply d).get? key = d.get? key := by
  induction later generalizing d with
  | nil => rfl
  | cons t rest ih =>
    rw [List.foldl_cons, ih fun u hu => h u (List.mem_cons_of_mem t hu),
      ReplyStep.get?_apply_of_leaves (h t List.mem_cons_self)]

/-- The value of a name is the one that the last step to set it assigned. -/
theorem get?_build_of_assigns {later : List ReplyStep} (hs : s.Assigns key v)
    (hlater : ∀ t ∈ later, t.Leaves key) (count : UInt64) (steps : List ReplyStep) :
    (build count (steps ++ s :: later)).get? key = some v := by
  rw [build_append, List.foldl_cons, get?_foldl_apply_of_leaves hlater,
    ReplyStep.get?_apply_of_assigns hs]

/-- **Runs.** However a document is built, no name comes up twice in it, and the first two are `ok`
    and `n`. A step leaves all names in their places and puts new ones behind them, in the order in
    which it sets them. The value that a step assigns to a name stays until another step sets the
    name, and so does a value from before that. Taking over the same details twice in a row does no
    more than taking them over once. -/
theorem build_keeps (count : UInt64) (steps : List ReplyStep) :
    (build count steps).keys.Nodup ∧
    (∃ others, (build count steps).keys = "ok" :: "n" :: others) ∧
    (∀ s, (build count (steps ++ [s])).keys
      = (build count steps).keys
        ++ (s.fields.keys.removeAll (build count steps).keys).eraseDups) ∧
    (∀ s key v later, s.Assigns key v → (∀ t ∈ later, t.Leaves key) →
      (build count (steps ++ s :: later)).get? key = some v) ∧
    (∀ key later, (∀ t ∈ later, t.Leaves key) →
      (build count (steps ++ later)).get? key = (build count steps).get? key) ∧
    ∀ details, build count (steps ++ [.details details, .details details])
      = build count (steps ++ [.details details]) := by
  have hreply : IsReply (build count steps) := isReply_build count steps
  refine ⟨hreply.nodup, hreply.opening, fun s => ?_, fun s key v later hs hlater => ?_,
    fun key later hlater => ?_, fun details => ?_⟩
  · rw [build_append]
    exact ReplyStep.keys_apply hreply.nodup s
  · exact get?_build_of_assigns hs hlater count steps
  · rw [build_append, get?_foldl_apply_of_leaves hlater]
  · rw [build_append, build_append]
    exact Document.merge_merge hreply.nodup details

/-- Details that clash with the count and with a message are taken over between two messages. -/
theorem build_keeps_overwritten :
    let clash : ReplyStep := .details [("n", .null), ("x", .int32 1), ("err", .string "detail")]
    let steps : List ReplyStep := [.error "first" 1, clash]
    let last : ReplyStep := .error "last" 2
    (last.Assigns "err" (.string "last") ∧ clash.Assigns "n" .null ∧ last.Leaves "n") ∧
    (build 3 (steps ++ [last])).get? "err" = some (.string "last") ∧
    (build 3 (steps ++ [last])).get? "n" = some .null ∧
    (build 3 (steps ++ [last])).keys = ["ok", "n", "err", "code", "x"] ∧
    build 3 (steps ++ [clash, clash]) = build 3 (steps ++ [clash]) := by
  intro clash steps last
  have herr : last.Assigns "err" (.string "last") := .message "last" 2
  have hn : clash.Assigns "n" .null := .detail rfl
  have hlast : last.Leaves "n" := ReplyStep.leaves_iff.2 rfl
  obtain ⟨-, -, hkeys, hassigned, -, htwice⟩ := build_keeps 3 steps
  obtain ⟨-, -, -, hassigned', -, -⟩ := build_keeps 3 [.error "first" 1]
  refine ⟨⟨herr, hn, hlast⟩, ?_, ?_, ?_, htwice _⟩
  · exact hassigned last "err" _ [] herr (by simp)
  · exact hassigned' clash "n" _ [last] hn (by simpa using hlast)
  · rw [hkeys]
    decide

end LastErrorForm

end WritePath
