import WritePath.Text.LetterCase

namespace WritePath.Text

open LetterCase

/-!
# Lower case

Every letter takes its lower case form. Two letters need more than `LetterCase.lowerings` says:
the dotted capital `İ` becomes an `i` with a combining dot, and the capital sigma has two forms,
one of which stands only at the end of a word.

* `lowercase` — the lower case form of a text.
* `isWordEnd` — whether a letter with the given neighbourhood ends a word.
-/

/-- Whether the nearest character that is not passed over is a letter with a case. -/
def meetsLetter (cs : List Char) : Bool :=
  match cs.dropWhile ignorable.has with
  | [] => false
  | c :: _ => cased.has c

/-- Whether a letter ends a word: one stands before it and none after it. The characters before it
are given nearest first. -/
def isWordEnd (before after : List Char) : Bool :=
  meetsLetter before && !meetsLetter after

/-- The lower case form of a character that does not depend on its neighbours. -/
def lowercaseChar (c : Char) : List Char :=
  if c = 'İ' then ['i', '\u0307']
  else [(lowerings.find? (·.has c)).elim c (·.lower c)]

/-- The lower case form of the rest of a text; `before` holds what precedes it, nearest first. -/
def lowercaseAfter (before : List Char) : List Char → List Char
  | [] => []
  | c :: after =>
    (if c = 'Σ' then [if isWordEnd before after then 'ς' else 'σ'] else lowercaseChar c)
      ++ lowercaseAfter (c :: before) after

/-- The lower case form of a text. -/
def lowercase (s : String) : String :=
  String.ofList (lowercaseAfter [] s.toList)

@[simp] theorem lowercaseAfter_nil (before : List Char) : lowercaseAfter before [] = [] := rfl

theorem lowercaseChar_ne_nil (c : Char) : lowercaseChar c ≠ [] := by
  unfold lowercaseChar
  split <;> simp

end WritePath.Text
