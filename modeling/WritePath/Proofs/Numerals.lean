import Mathlib.Data.List.Induction
import Mathlib.Data.Nat.Digits.Defs
import WritePath.Text.Numeral

namespace WritePath.Text

/-!
# What numerals denote

* `Denotes` — the number that a text of decimal digits denotes, with a plus sign or without.
* `Numeral.value_eq_ofDigits` — the digits are those of the number, the least significant last.
* `Numeral.readNat?_eq_some_iff`, `Numeral.readUInt16?_eq_some_iff` — a numeral is read as the
  number that it denotes, if the number fits.
* `denotes_toString` — the text of a number denotes it.
-/

/-- A text denotes a number: after a plus sign or without one, it consists of the decimal digits of
the number, at least one, with any zeros before them. -/
def Denotes (text : List Char) (n : Nat) : Prop :=
  ∃ digits, (text = digits ∨ text = '+' :: digits) ∧ digits ≠ [] ∧
    (∀ c ∈ digits, c.isDigit = true) ∧
    n = Nat.ofDigits 10 (digits.reverse.map fun c => c.toNat - '0'.toNat)

namespace Numeral

variable {cs digits : List Char} {n : Nat}

/-- The value of digits is read off them in the usual way. -/
theorem value_eq_ofDigits (cs : List Char) :
    value cs = Nat.ofDigits 10 (cs.reverse.map fun c => c.toNat - '0'.toNat) := by
  induction cs using List.reverseRecOn with
  | nil => rfl
  | append_singleton cs c ih =>
    have hvalue : value (cs ++ [c]) = value cs * 10 + (c.toNat - '0'.toNat) := by
      rw [value, List.foldl_append]
      rfl
    rw [hvalue, ih, List.reverse_concat, List.map_cons, Nat.ofDigits_cons]
    show _ = (c.toNat - '0'.toNat) + 10 * _
    omega

theorem isNumeral_iff : isNumeral cs = true ↔ cs ≠ [] ∧ ∀ c ∈ cs, c.isDigit = true := by
  rw [isNumeral, Bool.and_eq_true, Bool.not_eq_true', List.isEmpty_eq_false_iff, List.all_eq_true]

/-- No digit is taken for a plus sign. -/
theorem unsigned_of_isNumeral (h : isNumeral cs = true) : unsigned cs = cs := by
  unfold unsigned
  split
  · next rest =>
    have hplus := (isNumeral_iff.1 h).2 '+' List.mem_cons_self
    exact absurd hplus (by decide)
  · rfl

theorem readNat?_eq_some_iff : readNat? cs = some n ↔ Denotes cs n := by
  have hread : readNat? cs = some n ↔ isNumeral (unsigned cs) = true ∧ n = value (unsigned cs) := by
    rw [readNat?]
    split
    · next h => simp [h, eq_comm]
    · next h => simp [h]
  rw [hread]
  constructor
  · rintro ⟨hnumeral, rfl⟩
    obtain ⟨hne, hdigits⟩ := isNumeral_iff.1 hnumeral
    refine ⟨unsigned cs, ?_, hne, hdigits, value_eq_ofDigits _⟩
    unfold unsigned
    split
    · exact .inr rfl
    · exact .inl rfl
  · rintro ⟨digits, hsign, hne, hdigits, rfl⟩
    have hnumeral : isNumeral digits = true := isNumeral_iff.2 ⟨hne, hdigits⟩
    have hunsigned : unsigned cs = digits := by
      rcases hsign with rfl | rfl
      · exact unsigned_of_isNumeral hnumeral
      · rfl
    rw [hunsigned, value_eq_ofDigits]
    exact ⟨hnumeral, rfl⟩

theorem readUInt16?_eq_some_iff {n : UInt16} : readUInt16? cs = some n ↔ Denotes cs n.toNat := by
  rw [← readNat?_eq_some_iff, readUInt16?]
  simp only [Option.map_eq_some_iff, Option.filter_eq_some_iff, decide_eq_true_eq]
  constructor
  · rintro ⟨m, ⟨hm, hlt⟩, rfl⟩
    rw [hm, UInt16.toNat_ofNat', Nat.mod_eq_of_lt hlt]
  · intro h
    exact ⟨n.toNat, ⟨h, n.toNat_lt⟩, UInt16.ofNat_toNat⟩

theorem readUInt16?_eq_none_iff : readUInt16? cs = none ↔ ∀ n ≤ 65535, ¬ Denotes cs n := by
  simp only [← readNat?_eq_some_iff, readUInt16?, Option.map_eq_none_iff, Option.filter_eq_none_iff,
    decide_eq_true_eq]
  constructor
  · intro h n hn hread
    exact h n hread (by omega)
  · intro h n hread hn
    exact h n (by omega) hread

end Numeral

/-- A text denotes one number only. -/
theorem Denotes.unique {text : List Char} {m n : Nat} (hm : Denotes text m) (hn : Denotes text n) :
    m = n :=
  Option.some.inj
    ((Numeral.readNat?_eq_some_iff.2 hm).symm.trans (Numeral.readNat?_eq_some_iff.2 hn))

/-- The value of digits is the number whose digits they are. -/
theorem Numeral.value_toDigits (n : Nat) : value (Nat.toDigits 10 n) = n := by
  have hvalue : value (Nat.toDigits 10 n) = Nat.ofDigitChars 10 (Nat.toDigits 10 n) 0 := by
    simp only [value, Nat.ofDigitChars, Nat.mul_comm]
  rw [hvalue, Nat.ofDigitChars_ten_toDigits]

/-- The text of a number denotes it. -/
theorem denotes_toString (n : Nat) : Denotes (toString n).toList n := by
  rw [Nat.toString_eq_ofList_toDigits, String.toList_ofList]
  refine ⟨Nat.toDigits 10 n, .inl rfl, Nat.toDigits_ne_nil, ?digits, ?value⟩
  case digits =>
    intro c hc
    exact Nat.isDigit_of_mem_toDigits (by decide) (by decide) hc
  case value => rw [← Numeral.value_eq_ofDigits, Numeral.value_toDigits]

end WritePath.Text
