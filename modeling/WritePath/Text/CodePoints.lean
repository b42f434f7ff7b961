namespace WritePath.Text

/-!
# Sets of characters given by ranges of code points

* `CodePoints` — a list of inclusive ranges, in increasing order.
* `CodePoints.has` — whether a character lies in one of them.
-/

/-- A set of characters: inclusive ranges of code points, in increasing order and apart. -/
abbrev CodePoints := List (Nat × Nat)

/-- Whether a character lies in one of the ranges. -/
def CodePoints.has (s : CodePoints) (c : Char) : Bool :=
  s.any fun r => r.1 ≤ c.toNat && c.toNat ≤ r.2

theorem CodePoints.has_iff {s : CodePoints} {c : Char} :
    s.has c = true ↔ ∃ r ∈ s, r.1 ≤ c.toNat ∧ c.toNat ≤ r.2 := by
  simp [CodePoints.has]

end WritePath.Text
