import WritePath.Text.Lowercase

namespace WritePath.Text

open LetterCase

/-!
# Lower case is kept

A text in lower case stays as it is when it is taken in lower case again. For the letters with a
lower case form of one character this is a fact about the table: no run of capital letters is met by
the lower case forms of another.

* `CaseRun.misses` — the lower case forms of a run lie outside another, or in the gaps of it.
* `lowerings_miss` — those of the table lie outside the whole table, and none is a colon.
* `IsLower` — a character that stays as it is, wherever it stands.
* `lowercase_lowercase`, `lowercase_eq_empty_iff`, `colon_mem_lowercase_iff` — taking a text in lower
  case a second time changes nothing; it empties no text, and brings no colon into it.
-/

variable {r r' : CaseRun} {c d : Char} {s : String}

/-! ### The table -/

namespace CaseRun

/-- The code of the lower case form of the first letter. -/
def lowerFirst (r : CaseRun) : Nat :=
  (r.first + r.shift).toNat

/-- The code of the lower case form of the last letter. -/
def lowerLast (r : CaseRun) : Nat :=
  r.lowerFirst + (r.last - r.first)

/-- Whether the lower case forms of a run lie before another, or behind it, or in the gaps between
its letters. -/
def misses (r r' : CaseRun) : Bool :=
  r.lowerLast.blt r'.first || r'.last.blt r.lowerFirst ||
    (r.first == r.last || r.step % r'.step == 0) && (r.lowerFirst - r'.first) % r'.step != 0

/-- Whether the lower case forms of a run are characters. -/
def isValid (r : CaseRun) : Bool :=
  0 ≤ r.first + r.shift && (r.lowerLast < 0xd800 || 0xdfff < r.lowerFirst && r.lowerLast < 0x110000)

/-- The run of a single character. -/
def single (c : Char) : CaseRun :=
  ⟨c.toNat, c.toNat, 1, 0⟩

theorem has_single (c : Char) : (single c).has c = true := by
  simp [single, has]

/-- What it means to belong to a run. -/
theorem has_iff :
    r.has c = true ↔
      r.first ≤ c.toNat ∧ c.toNat ≤ r.last ∧ (c.toNat - r.first) % r.step = 0 := by
  simp [has, and_assoc]

/-- The lower case forms lie at the distances of their letters. -/
theorem toNat_lower (hvalid : r.isValid = true) (hc : r.has c = true) :
    (r.lower c).toNat = r.lowerFirst + (c.toNat - r.first) := by
  obtain ⟨hfirst, hlast, -⟩ := has_iff.1 hc
  simp only [isValid, Bool.and_eq_true, Bool.or_eq_true, decide_eq_true_eq] at hvalid
  have hcode : (c.toNat + r.shift).toNat = r.lowerFirst + (c.toNat - r.first) := by
    unfold lowerFirst
    omega
  have hchar : (r.lowerFirst + (c.toNat - r.first)).isValidChar := by
    unfold lowerLast at hvalid
    unfold Nat.isValidChar
    omega
  rw [lower, hcode, Char.ofNat, dif_pos hchar]
  rfl

/-- No lower case form of a run belongs to another that they miss. -/
theorem not_has_of_misses (hmisses : r.misses r' = true) (hc : r.has c = true)
    (hd : d.toNat = r.lowerFirst + (c.toNat - r.first)) : ¬ r'.has d = true := by
  intro hmem
  obtain ⟨hfirst, hlast, hstep⟩ := has_iff.1 hc
  obtain ⟨hfirst', hlast', hstep'⟩ := has_iff.1 hmem
  simp only [misses, lowerLast, Nat.blt_eq, Bool.or_eq_true, Bool.and_eq_true, beq_iff_eq,
    bne_iff_ne] at hmisses
  rcases hmisses with (hbefore | hbehind) | ⟨hdense, hgap⟩
  · omega
  · omega
  · -- All of them have the distance of the first one from the letters of the other run.
    have hdvd : r'.step ∣ c.toNat - r.first := by
      rcases hdense with hsingle | hdense
      · have hzero : c.toNat - r.first = 0 := by omega
        rw [hzero]
        exact Nat.dvd_zero _
      · exact Nat.dvd_trans (Nat.dvd_of_mod_eq_zero hdense) (Nat.dvd_of_mod_eq_zero hstep)
    have hle : r'.first ≤ r.lowerFirst := by
      refine Nat.le_of_not_lt fun hlt => hgap ?_
      rw [Nat.sub_eq_zero_of_le (Nat.le_of_lt hlt), Nat.zero_mod]
    have hsplit : d.toNat - r'.first = (r.lowerFirst - r'.first) + (c.toNat - r.first) := by omega
    rw [hsplit, Nat.add_mod, Nat.mod_eq_zero_of_dvd hdvd, Nat.add_zero, Nat.mod_mod] at hstep'
    exact hgap hstep'

end CaseRun

theorem lowerings_valid : lowerings.all CaseRun.isValid = true := by
  decide +kernel

/-- The lower case forms of the table lie outside the table, and no other special character is one
of them. -/
theorem lowerings_miss :
    (lowerings.all fun r =>
      (CaseRun.single ':' :: CaseRun.single 'İ' :: lowerings).all r.misses) = true := by
  decide +kernel

/-- So what is a lower case form in the table belongs to no run. -/
theorem not_has_lower (hr : r ∈ lowerings) (hc : r.has c = true)
    (hr' : r' ∈ CaseRun.single ':' :: CaseRun.single 'İ' :: lowerings) :
    ¬ r'.has (r.lower c) = true := by
  have hmisses := List.all_eq_true.1 (List.all_eq_true.1 lowerings_miss r hr) r' hr'
  exact CaseRun.not_has_of_misses hmisses hc
    (CaseRun.toNat_lower (List.all_eq_true.1 lowerings_valid r hr) hc)

/-! ### Characters -/

/-- A character that stays as it is, wherever it stands. -/
def IsLower (c : Char) : Prop :=
  c ≠ 'Σ' ∧ lowercaseChar c = [c]

theorem isLower_of_find?_eq_none (hsigma : c ≠ 'Σ') (hdotted : c ≠ 'İ')
    (h : lowerings.find? (·.has c) = none) : IsLower c := by
  refine ⟨hsigma, ?_⟩
  rw [lowercaseChar, if_neg hdotted, h]
  rfl

/-- The lower case form of a letter in the table. -/
theorem isLower_lower (hr : r ∈ lowerings) (hc : r.has c = true) : IsLower (r.lower c) := by
  have hnone : lowerings.find? (·.has (r.lower c)) = none := by
    rw [List.find?_eq_none]
    intro r' hr'
    exact not_has_lower hr hc (List.mem_cons_of_mem _ (List.mem_cons_of_mem _ hr'))
  refine isLower_of_find?_eq_none ?sigma ?dotted hnone
  case sigma =>
    -- The capital sigma is a letter of the table.
    intro hsigma
    rw [hsigma] at hnone
    exact absurd hnone (by decide +kernel)
  case dotted =>
    intro hdotted
    have hother := not_has_lower hr hc (List.mem_cons_of_mem _ List.mem_cons_self)
    rw [hdotted] at hother
    exact hother (CaseRun.has_single _)

/-- What becomes of a character on its own. -/
theorem lowercaseChar_cases (c : Char) :
    c = 'İ' ∧ lowercaseChar c = ['i', '\u0307'] ∨
    (∃ r ∈ lowerings, r.has c = true ∧ lowercaseChar c = [r.lower c]) ∨
    c ≠ 'İ' ∧ lowerings.find? (·.has c) = none ∧ lowercaseChar c = [c] := by
  unfold lowercaseChar
  by_cases hdotted : c = 'İ'
  · exact .inl ⟨hdotted, if_pos hdotted⟩
  · rw [if_neg hdotted]
    cases h : lowerings.find? (·.has c) with
    | none => exact .inr (.inr ⟨hdotted, rfl, rfl⟩)
    | some r =>
      have hc : r.has c = true := by simpa using List.find?_some h
      exact .inr (.inl ⟨r, List.mem_of_find?_eq_some h, hc, rfl⟩)

theorem isLower_of_mem_lowercaseChar (hsigma : c ≠ 'Σ') (hd : d ∈ lowercaseChar c) :
    IsLower d := by
  rcases lowercaseChar_cases c with ⟨-, hform⟩ | ⟨r, hr, hc, hform⟩ | ⟨hdotted, hnone, hform⟩
  · rw [hform, List.mem_cons, List.mem_singleton] at hd
    rcases hd with rfl | rfl <;>
      exact isLower_of_find?_eq_none (by decide) (by decide) (by decide +kernel)
  · rw [hform, List.mem_singleton] at hd
    rw [hd]
    exact isLower_lower hr hc
  · rw [hform, List.mem_singleton] at hd
    rw [hd]
    exact isLower_of_find?_eq_none hsigma hdotted hnone

/-- A colon stands for itself, and for nothing else. -/
theorem colon_mem_lowercaseChar_iff : ':' ∈ lowercaseChar c ↔ c = ':' := by
  constructor
  · intro h
    rcases lowercaseChar_cases c with ⟨-, hform⟩ | ⟨r, hr, hc, hform⟩ | ⟨-, -, hform⟩
    · rw [hform] at h
      exact absurd h (by decide)
    · rw [hform, List.mem_singleton] at h
      have hother := not_has_lower hr hc List.mem_cons_self
      rw [← h] at hother
      exact absurd (CaseRun.has_single _) hother
    · rw [hform, List.mem_singleton] at h
      exact h.symm
  · rintro rfl
    have hcolon : lowercaseChar ':' = [':'] := by decide +kernel
    rw [hcolon]
    exact List.mem_singleton.2 rfl

/-! ### Texts -/

variable {before cs : List Char}

/-- Both forms of the sigma are final, and so is every other lower case form. -/
theorem isLower_of_mem_lowercaseAfter (hd : d ∈ lowercaseAfter before cs) : IsLower d := by
  induction cs generalizing before with
  | nil => exact absurd hd List.not_mem_nil
  | cons c after ih =>
    rw [lowercaseAfter, List.mem_append] at hd
    rcases hd with hhead | hrest
    · split at hhead
      · rw [List.mem_singleton] at hhead
        rw [hhead]
        split <;> exact isLower_of_find?_eq_none (by decide) (by decide) (by decide +kernel)
      · next hsigma => exact isLower_of_mem_lowercaseChar hsigma hhead
    · exact ih hrest

/-- Where every character stays as it is, the text does, whatever stands before it. -/
theorem lowercaseAfter_of_isLower (h : ∀ c ∈ cs, IsLower c) : lowercaseAfter before cs = cs := by
  induction cs generalizing before with
  | nil => rfl
  | cons c after ih =>
    obtain ⟨hsigma, hchar⟩ := h c List.mem_cons_self
    rw [lowercaseAfter, if_neg hsigma, hchar, ih fun d hd => h d (List.mem_cons_of_mem _ hd)]
    rfl

/-- **Lower case is kept.** -/
theorem lowercase_lowercase (s : String) : lowercase (lowercase s) = lowercase s := by
  rw [lowercase, lowercaseAfter_of_isLower, String.ofList_toList]
  intro c hc
  rw [lowercase, String.toList_ofList] at hc
  exact isLower_of_mem_lowercaseAfter hc

/-- Only the empty text is empty in lower case. -/
theorem lowercase_eq_empty_iff : lowercase s = "" ↔ s = "" := by
  rw [← String.toList_eq_nil_iff, ← String.toList_eq_nil_iff, lowercase, String.toList_ofList]
  cases s.toList with
  | nil => simp
  | cons c after =>
    rw [lowercaseAfter, List.append_eq_nil_iff]
    refine iff_of_false ?_ (List.cons_ne_nil _ _)
    rintro ⟨hhead, -⟩
    split at hhead
    · exact List.cons_ne_nil _ _ hhead
    · exact lowercaseChar_ne_nil c hhead

theorem colon_mem_lowercaseAfter_iff : ':' ∈ lowercaseAfter before cs ↔ ':' ∈ cs := by
  induction cs generalizing before with
  | nil => rfl
  | cons c after ih =>
    rw [lowercaseAfter, List.mem_append, List.mem_cons, ih]
    refine or_congr_left ?_
    split
    · next hsigma =>
      subst hsigma
      refine iff_of_false ?_ (by decide)
      split <;> decide
    · exact colon_mem_lowercaseChar_iff.trans eq_comm

/-- The colons of a text are those of its lower case form. -/
theorem colon_mem_lowercase_iff : ':' ∈ (lowercase s).toList ↔ ':' ∈ s.toList := by
  rw [lowercase, String.toList_ofList, colon_mem_lowercaseAfter_iff]

end WritePath.Text
