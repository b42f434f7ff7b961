import WritePath.Binary64.Shortest

namespace WritePath

/-!
# Doubles as text

* `Binary64.plainText` — every digit written out, no exponent, and no fraction on a whole number.
* `Binary64.pointedText` — the same with a fraction in any case.
* `Binary64.jsonText?` — a JSON number that always shows it is a fraction or a power of ten.
-/

namespace Decimal

/-- The digits, most significant first. -/
def figures (d : Decimal) : List Char :=
  Nat.toDigits 10 d.digits

/-- The power of ten just above the number: the decimal point stands after so many figures. -/
def magnitude (d : Decimal) : Int :=
  d.figures.length + d.exponent

/-- The digits with a decimal point where one is needed, filled up with zeros. -/
def positional (d : Decimal) : List Char :=
  if 0 ≤ d.exponent then d.figures ++ List.replicate d.exponent.toNat '0'
  else if 0 < d.magnitude then
    d.figures.take d.magnitude.toNat ++ '.' :: d.figures.drop d.magnitude.toNat
  else ['0', '.'] ++ List.replicate (-d.magnitude).toNat '0' ++ d.figures

/-- The digits with a decimal point in any case, before a zero where the number is whole. -/
def pointed (d : Decimal) : List Char :=
  if 0 ≤ d.exponent then d.positional ++ ['.', '0'] else d.positional

/-- One digit before the decimal point, the others behind it, and the power of ten with its sign
after an `e`. -/
def scientific (d : Decimal) : List Char :=
  let power := d.magnitude - 1
  let power := (if 0 ≤ power then '+' else '-') :: Nat.toDigits 10 power.natAbs
  match d.figures with
  | [] => []
  | [c] => c :: 'e' :: power
  | c :: rest => c :: '.' :: rest ++ 'e' :: power

end Decimal

namespace Binary64

/-- The minus sign of a negative double. -/
def signText (x : Binary64) : List Char :=
  if x.isNegative then ['-'] else []

/-- A double with all its digits and no exponent. Of two equally near decimals the greater is
taken. -/
def plainText (x : Binary64) : String :=
  if x.isNaN then "NaN"
  else if x.isFinite then String.ofList (x.signText ++ (x.shortest .up).positional)
  else String.ofList (x.signText ++ ['i', 'n', 'f'])

/-- A finite double with all its digits, a fraction, and no exponent. Of two equally near decimals
the greater is taken. -/
def pointedText (x : Binary64) : String :=
  String.ofList (x.signText ++ (x.shortest .up).pointed)

/-- The digits of a JSON number: written out when the decimal point stands within sixteen figures
or at most four zeros precede them, and as a power of ten otherwise. -/
def jsonFigures (d : Decimal) : List Char :=
  if d.magnitude ≤ 16 ∧ -5 < d.magnitude then d.pointed else d.scientific

/-- A finite double as a JSON number. Of two equally near decimals the even one is taken. -/
def jsonText? (x : Binary64) : Option String :=
  if x.isFinite then some (String.ofList (x.signText ++ jsonFigures (x.shortest .even))) else none

end Binary64

end WritePath
