import WritePath.Bson.Spelling
import WritePath.Text.JsonString

namespace WritePath

/-!
# Extended JSON

A value that JSON lacks becomes an object of one name that starts with `$`. There are no spaces.

* `JsonStyle` — whether numbers are plain where JSON has them, or spelled out with their type.
* `Bson.extendedJson` — the JSON text of a value.
* `Document.extendedJson` — the JSON text of a document, with plain numbers.
-/

/-- How far values are spelled out. -/
inductive JsonStyle where
  /-- Numbers and dates are written as people read them. -/
  | relaxed
  /-- Numbers tell their type. -/
  | canonical
  deriving DecidableEq, Repr

/-- A JSON object of given members, whose values are JSON already. -/
def jsonObject (members : List (String × String)) : String :=
  "\x7b" ++ ",".intercalate (members.map fun m => Text.JsonString.encode m.1 ++ ":" ++ m.2)
    ++ "\x7d"

/-- A JSON object with a single member, which is a string. -/
def jsonTagged (name text : String) : String :=
  jsonObject [(name, Text.JsonString.encode text)]

/-- An integer. -/
def JsonStyle.integer (style : JsonStyle) (tag : String) (n : Int) : String :=
  match style with
  | .relaxed => toString n
  | .canonical => jsonTagged tag (toString n)

/-- A double: a number if it is finite, and its name otherwise. -/
def Binary64.relaxedJson (x : Binary64) : String :=
  match x.jsonText? with
  | some text => text
  | none =>
    let name := if x.isNaN then "NaN" else "Infinity"
    jsonTagged "$numberDouble" (String.ofList (x.signText ++ name.toList))

/-- A double. One that lacks the full number of bits in its significand is never spelled out. -/
def JsonStyle.double (style : JsonStyle) (x : Binary64) : String :=
  match style with
  | .relaxed => x.relaxedJson
  | .canonical =>
    if x.isNormal || x.isZero then jsonTagged "$numberDouble" x.pointedText else x.relaxedJson

/-- An instant: the number of milliseconds, or in the relaxed style a date of the years 1970 to
9999. -/
def JsonStyle.instant (style : JsonStyle) (millis : Int) : String :=
  if style = .relaxed ∧ 0 ≤ millis ∧ Instant.year millis ≤ 9999 then
    jsonTagged "$date" (Instant.isoText millis)
  else jsonObject [("$date", jsonTagged "$numberLong" (toString millis))]

mutual

/-- The JSON text of a value. The names that code sees are spelled out in any style. -/
def Bson.extendedJson (style : JsonStyle) : Bson → String
  | .double x => style.double x
  | .string s => Text.JsonString.encode s
  | .array items => "[" ++ ",".intercalate (itemJsons style items) ++ "]"
  | .document fields => jsonObject (fieldJsons style fields)
  | .boolean b => if b then "true" else "false"
  | .null => "null"
  | .int32 n => style.integer "$numberInt" n.toInt
  | .int64 n => style.integer "$numberLong" n.toInt
  | .objectId id => jsonTagged "$oid" (Text.Hex.encode id.toList)
  | .dateTime millis => style.instant millis.toInt
  | .timestamp time increment =>
    jsonObject
      [("$timestamp", jsonObject [("t", toString time.toNat), ("i", toString increment.toNat)])]
  | .binary subtype bytes =>
    jsonObject
      [("$binary", jsonObject
        [("base64", Text.JsonString.encode (Text.Base64.encode bytes)),
          ("subType", Text.JsonString.encode (Text.Hex.encode [subtype]))])]
  | .regex pattern options =>
    jsonObject
      [("$regularExpression", jsonObject
        [("pattern", Text.JsonString.encode pattern),
          ("options", Text.JsonString.encode (sortedOptions options))])]
  | .decimal128 bytes => jsonTagged "$numberDecimal" (Decimal128.ofBytes bytes).text
  | .javascript code => jsonTagged "$code" code
  | .scopedJavascript code scope =>
    jsonObject
      [("$code", Text.JsonString.encode code), ("$scope", jsonObject (fieldJsons .canonical scope))]
  | .symbol s => jsonTagged "$symbol" s
  | .undefined => jsonObject [("$undefined", "true")]
  | .minKey => jsonObject [("$minKey", "1")]
  | .maxKey => jsonObject [("$maxKey", "1")]

/-- The JSON texts of the items of an array. -/
def itemJsons (style : JsonStyle) : List Bson → List String
  | [] => []
  | v :: rest => v.extendedJson style :: itemJsons style rest

/-- The names and JSON texts of the fields of a document. -/
def fieldJsons (style : JsonStyle) : List (String × Bson) → List (String × String)
  | [] => []
  | (key, v) :: rest => (key, v.extendedJson style) :: fieldJsons style rest

end

/-- The JSON text of a document, with plain numbers. -/
def Document.extendedJson (d : Document) : String :=
  jsonObject (fieldJsons .relaxed d)

end WritePath
