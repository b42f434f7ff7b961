import WritePath.Proofs.Errors

namespace WritePath

/-!
# What an explanation keeps

An explanation has no code and no labels of its own, but the error that it explains stands behind it,
and codes and labels are looked for there as well.

* `Error.code?_eq`, `Error.hasLabel_eq` — where an error has its code and its labels from: itself,
  or else the error behind it.
* `Error.code?_causedBy`, `Error.hasLabel_causedBy` — what an error adds to the one it came out of.
* `Error.explained_eq_iff` — which errors need no explanation.
* `Error.explained_keeps` — an explanation loses nothing and is given once.
-/

namespace Error

variable {e source : Error}

/-! ### Errors behind errors -/

theorem source?_eq_none_iff : e.source? = none ↔ e.sources = [] := by
  rw [source?]
  cases e.sources <;> simp

/-- The error behind an error has all others behind it. -/
theorem source?_eq_some_iff : e.source? = some source ↔ e.sources = source.causes := by
  obtain ⟨cause, sources⟩ := source
  rw [source?, causes]
  cases e.sources <;> simp

/-- The code of an error is that of its kind, or else that of the error behind it. -/
theorem code?_eq (e : Error) : e.code? = e.kind.code?.or (e.source?.bind code?) := by
  rw [code?, causes, List.findSome?_cons]
  cases e.kind.code? with
  | some code => rfl
  | none =>
    cases hsource : e.source? with
    | none => rw [source?_eq_none_iff.1 hsource]; rfl
    | some source => rw [source?_eq_some_iff.1 hsource]; rfl

/-- A label is on an error, or else on the error behind it. -/
theorem hasLabel_eq (e : Error) (label : String) :
    e.hasLabel label = (decide (label ∈ e.labels) || e.source?.any (·.hasLabel label)) := by
  rw [hasLabel, causes, List.any_cons]
  cases hsource : e.source? with
  | none => rw [source?_eq_none_iff.1 hsource]; rfl
  | some source => rw [source?_eq_some_iff.1 hsource]; rfl

/-! ### Errors in front of errors -/

@[simp] theorem source?_causedBy (e source : Error) : (e.causedBy source).source? = some source :=
  source?_eq_some_iff.2 rfl

theorem code?_causedBy (e source : Error) :
    (e.causedBy source).code? = e.kind.code?.or source.code? := by
  rw [code?_eq, source?_causedBy, Option.bind_some]
  rfl

theorem hasLabel_causedBy (e source : Error) (label : String) :
    (e.causedBy source).hasLabel label
      = (decide (label ∈ e.labels) || source.hasLabel label) := by
  rw [hasLabel_eq, source?_causedBy, Option.any_some]
  rfl

/-! ### Explanations -/

theorem explained_of_refuses (h : e.refusesTransactionNumbers = true) :
    e.explained = (ofKind .retryableWritesNotSupported).causedBy e := by
  rw [explained, if_pos h]

/-- The errors that need no explanation are those that do not refuse transaction numbers. -/
theorem explained_eq_iff : e.explained = e ↔ e.refusesTransactionNumbers = false := by
  constructor
  · intro h
    rw [← h, refuses_explained]
  · exact explained_of_not_refuses

theorem code?_explained (e : Error) : e.explained.code? = e.code? := by
  cases h : e.refusesTransactionNumbers with
  | false => rw [explained_of_not_refuses h]
  | true =>
    -- The explanation has no code, so that the one behind it is found.
    rw [explained_of_refuses h, code?_causedBy]
    rfl

theorem hasLabel_explained (e : Error) (label : String) :
    e.explained.hasLabel label = e.hasLabel label := by
  cases h : e.refusesTransactionNumbers with
  | false => rw [explained_of_not_refuses h]
  | true =>
    have hbare : label ∉ (ofKind .retryableWritesNotSupported).labels := by
      rw [ofKind, mem_labels_of]
      exact not_or_intro List.not_mem_nil List.not_mem_nil
    rw [explained_of_refuses h, hasLabel_causedBy, decide_eq_false hbare, Bool.false_or]

/-- **Explanations.** Whatever stands behind an error, the error that is reported for it has the same
    code and the same labels. It never refuses transaction numbers, so that it is not explained
    again. An error that does not refuse them is reported as it is; one that does has the
    explanation in front of it, and stands behind that with its kind, its labels and all errors
    behind it. -/
theorem explained_keeps (e : Error) :
    e.explained.code? = e.code? ∧
    (∀ label, e.explained.hasLabel label = e.hasLabel label) ∧
    e.explained.explained = e.explained ∧
    e.explained.refusesTransactionNumbers = false ∧
    (e.refusesTransactionNumbers = false → e.explained = e) ∧
    (e.refusesTransactionNumbers = true →
      e.explained.kind = .retryableWritesNotSupported ∧ e.explained.source? = some e) := by
  have hnever : e.explained.refusesTransactionNumbers = false := refuses_explained e
  refine ⟨code?_explained e, hasLabel_explained e, explained_eq_iff.2 hnever, hnever,
    explained_of_not_refuses, fun hrefuses => ?_⟩
  exact ⟨kind_explained_of_refuses hrefuses, source?_explained_of_refuses hrefuses⟩

/-- A refusal that carries a label and has a broken connection with another label behind it, and a
    refused command that has nothing to do with transaction numbers. -/
theorem explained_keeps_brokenConnection :
    let broken : Error := of (.io .connectionReset) ["RetryableWriteError"]
    let refusal : Error :=
      (of (.command ⟨20, "IllegalOperation", "Transaction numbers are only allowed"⟩)
        ["TransientTransactionError"]).causedBy broken
    let other : Error := ofKind (.command ⟨20, "IllegalOperation", "not allowed"⟩)
    (refusal.refusesTransactionNumbers = true ∧ other.refusesTransactionNumbers = false) ∧
    refusal.explained.source? = some refusal ∧ refusal.explained.code? = some 20 ∧
    refusal.explained.hasLabel "TransientTransactionError" = true ∧
    refusal.explained.hasLabel "RetryableWriteError" = true ∧
    refusal.explained.hasLabel "NoWritesPerformed" = false ∧
    other.explained = other := by
  intro broken refusal other
  have hrefusal : refusal.refusesTransactionNumbers = true := by decide
  have hother : other.refusesTransactionNumbers = false := by decide
  obtain ⟨hcode, hlabels, -, -, -, hexplained⟩ := explained_keeps refusal
  obtain ⟨-, -, -, -, hsame, -⟩ := explained_keeps other
  refine ⟨⟨hrefusal, hother⟩, (hexplained hrefusal).2, ?_, ?_, ?_, ?_, hsame hother⟩
  · rw [hcode]
    rfl
  · rw [hlabels]
    decide
  · rw [hlabels]
    decide
  · rw [hlabels]
    decide

end Error

end WritePath
