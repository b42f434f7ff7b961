import WritePath.Text.Numeral

namespace WritePath

/-!
# Instants in the calendar

An instant is a number of milliseconds after the beginning of 1970 in universal time.

* `Instant.civil`, `Instant.dayNumber` — the date of a day, and the day of a date.
* `Instant.isoText`, `Instant.parseIso?` — the text of ISO 8601 and its reading.
* `Instant.text` — the text for people.
-/

namespace Instant

/-! ### Days -/

/-- Year, month and day of the day that lies `days` after 1 January 1970. Years are counted from
March, so that the leap day ends one. -/
def civil (days : Int) : Int × Int × Int :=
  let sinceMarch := days + 719468
  let era := Int.fdiv sinceMarch 146097
  let dayOfEra := sinceMarch - era * 146097
  let yearOfEra := (dayOfEra - dayOfEra / 1460 + dayOfEra / 36524 - dayOfEra / 146096) / 365
  let dayOfYear := dayOfEra - (365 * yearOfEra + yearOfEra / 4 - yearOfEra / 100)
  let monthFromMarch := (5 * dayOfYear + 2) / 153
  let day := dayOfYear - (153 * monthFromMarch + 2) / 5 + 1
  let month := if monthFromMarch < 10 then monthFromMarch + 3 else monthFromMarch - 9
  (yearOfEra + era * 400 + if month ≤ 2 then 1 else 0, month, day)

/-- The number of days from 1 January 1970 to a date. -/
def dayNumber (year month day : Int) : Int :=
  let marchYear := if month ≤ 2 then year - 1 else year
  let monthFromMarch := if month ≤ 2 then month + 9 else month - 3
  let era := Int.fdiv marchYear 400
  let yearOfEra := marchYear - era * 400
  let dayOfYear := (153 * monthFromMarch + 2) / 5 + day - 1
  era * 146097 + yearOfEra * 365 + yearOfEra / 4 - yearOfEra / 100 + dayOfYear - 719468

/-- The number of days in a month. -/
def monthLength (year month : Int) : Int :=
  if month = 12 then 31 else dayNumber year (month + 1) 1 - dayNumber year month 1

/-- The year of an instant. -/
def year (millis : Int) : Int :=
  (civil (Int.fdiv millis 86400000)).1

/-! ### Text -/

/-- A number in at least `width` digits. -/
def padded (width : Nat) (n : Nat) : List Char :=
  let ds := Nat.toDigits 10 n
  List.replicate (width - ds.length) '0' ++ ds

/-- The decimals of a second given in milliseconds, without trailing zeros. -/
def decimals (millis : Nat) : List Char :=
  ((padded 3 millis).reverse.dropWhile (· == '0')).reverse

/-- An instant of the years 0 to 9999 in universal time, as ISO 8601 has it. -/
def isoText (millis : Int) : String :=
  let (year, month, day) := civil (Int.fdiv millis 86400000)
  let inDay := (Int.fmod millis 86400000).toNat
  let fraction := decimals (inDay % 1000)
  String.ofList
    (padded 4 year.toNat ++ '-' :: padded 2 month.toNat ++ '-' :: padded 2 day.toNat
      ++ 'T' :: padded 2 (inDay / 3600000) ++ ':' :: padded 2 (inDay / 60000 % 60)
      ++ ':' :: padded 2 (inDay / 1000 % 60)
      ++ (if fraction = [] then [] else '.' :: fraction) ++ ['Z'])

/-- A year in at least four digits, with a sign unless it has four and is positive or zero. -/
def yearText (year : Int) : List Char :=
  if 0 ≤ year ∧ year ≤ 9999 then padded 4 year.toNat
  else (if 0 ≤ year then '+' else '-') :: padded 4 year.natAbs

/-- The text of an instant: date, time and the distance from universal time, which is none. The hour
is not filled up with zeros, and a second has at least one decimal. Beyond the years of six digits
it is the plain number of milliseconds. -/
def text (millis : Int) : String :=
  let (year, month, day) := civil (Int.fdiv millis 86400000)
  let inDay := (Int.fmod millis 86400000).toNat
  let fraction := decimals (inDay % 1000)
  if year.natAbs ≤ 999999 then
    String.ofList
      (yearText year ++ '-' :: padded 2 month.toNat ++ '-' :: padded 2 day.toNat
        ++ ' ' :: padded 1 (inDay / 3600000) ++ ':' :: padded 2 (inDay / 60000 % 60)
        ++ ':' :: padded 2 (inDay / 1000 % 60)
        ++ '.' :: (if fraction = [] then ['0'] else fraction) ++ " +00:00:00".toList)
  else toString millis

/-! ### Reading ISO 8601 -/

/-- Reads a number of exactly so many digits. -/
def readDigits? (count : Nat) (cs : List Char) : Option (Nat × List Char) :=
  let ds := cs.take count
  if ds.length = count ∧ ds.all Char.isDigit then some (Text.Numeral.value ds, cs.drop count)
  else none

/-- Reads a given character. -/
def readChar? (c : Char) : List Char → Option (List Char)
  | [] => none
  | d :: rest => if d = c then some rest else none

/-- Reads any character of ASCII. -/
def readAscii? : List Char → Option (List Char)
  | [] => none
  | d :: rest => if d.toNat < 128 then some rest else none

/-- Reads the decimals of a second, if there are any, as nanoseconds. Those after the ninth do not
count. -/
def readNanos? (cs : List Char) : Option (Nat × List Char) :=
  match readChar? '.' cs with
  | none => some (0, cs)
  | some rest =>
    let ds := rest.takeWhile Char.isDigit
    if ds = [] then none
    else
      some (Text.Numeral.value ((ds ++ List.replicate 9 '0').take 9), rest.dropWhile Char.isDigit)

/-- Reads the distance from universal time, in minutes, at the end of a text. -/
def readOffset? : List Char → Option Int
  | [c] => if c = 'Z' ∨ c = 'z' then some 0 else none
  | c :: rest => do
    let sign ← if c = '+' then some 1 else if c = '-' then some (-1) else none
    let (hours, rest) ← readDigits? 2 rest
    let rest ← readChar? ':' rest
    let (minutes, rest) ← readDigits? 2 rest
    if rest = [] ∧ hours ≤ 23 ∧ minutes ≤ 59 then some (sign * (hours * 60 + minutes : Nat))
    else none
  | [] => none

/-- Whether the last second of a month contains an instant, given in seconds. -/
def endsMonth (seconds : Int) : Bool :=
  let (year, month, day) := civil (Int.fdiv seconds 86400)
  Int.fmod seconds 86400 = 86399 && day = monthLength year month

/-- The milliseconds of a date and a time of day at some distance from universal time. What lies
beyond a millisecond is cut off. A leap second ends a month, and the last moment of the second
before stands for it. -/
def assemble? (year month day hour minute second nanos : Nat) (offset : Int) : Option Int :=
  let leap : Bool := second = 60
  let second := if leap then 59 else second
  let nanos := if leap then 999999999 else nanos
  let isDate := 1 ≤ month ∧ month ≤ 12 ∧ 1 ≤ day ∧ (day : Int) ≤ monthLength year month
  let isTime := hour ≤ 23 ∧ minute ≤ 59 ∧ second ≤ 59
  let seconds :=
    dayNumber year month day * 86400 + (hour * 3600 + minute * 60 + second : Nat) - offset * 60
  if isDate ∧ isTime ∧ (leap = true → endsMonth seconds = true) then
    some (Int.tdiv (seconds * 1000000000 + nanos) 1000000)
  else none

/-- Reads an instant. Any character may stand between date and time. -/
def parseIso? (cs : List Char) : Option Int := do
  let (year, cs) ← readDigits? 4 cs
  let cs ← readChar? '-' cs
  let (month, cs) ← readDigits? 2 cs
  let cs ← readChar? '-' cs
  let (day, cs) ← readDigits? 2 cs
  let cs ← readAscii? cs
  let (hour, cs) ← readDigits? 2 cs
  let cs ← readChar? ':' cs
  let (minute, cs) ← readDigits? 2 cs
  let cs ← readChar? ':' cs
  let (second, cs) ← readDigits? 2 cs
  let (nanos, cs) ← readNanos? cs
  let offset ← readOffset? cs
  assemble? year month day hour minute second nanos offset

end Instant

end WritePath
