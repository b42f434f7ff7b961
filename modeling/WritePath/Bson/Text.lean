import WritePath.Binary64.Text
import WritePath.Bson.Basic
import WritePath.Bson.Decimal128
import WritePath.Bson.Instant
import WritePath.Text.Base64
import WritePath.Text.Hex

namespace WritePath

/-!
# BSON values as text for messages

The text is for people: names and strings stand between quotes as they are, with nothing escaped.

* `Bson.text` — the text of a value.
* `Document.text` — the text of a document.
-/

/-- Items between brackets. -/
def bracketed (items : List String) : String :=
  "[" ++ ", ".intercalate items ++ "]"

/-- Fields between braces, with a space inside each brace. -/
def braced : List String → String
  | [] => "\x7b\x7d"
  | fields => "\x7b " ++ ", ".intercalate fields ++ " \x7d"

mutual

/-- The text of a value. -/
def Bson.text : Bson → String
  | .double x => x.plainText
  | .string s => "\"" ++ s ++ "\""
  | .array items => bracketed (itemTexts items)
  | .document fields => braced (fieldTexts fields)
  | .boolean b => if b then "true" else "false"
  | .null => "null"
  | .int32 n => toString n.toInt
  | .int64 n => toString n.toInt
  | .objectId id => "ObjectId(\"" ++ Text.Hex.encode id.toList ++ "\")"
  | .dateTime millis => "DateTime(\"" ++ Instant.text millis.toInt ++ "\")"
  | .timestamp time increment =>
    "Timestamp(" ++ toString time.toNat ++ ", " ++ toString increment.toNat ++ ")"
  | .binary subtype bytes =>
    "Binary(0x" ++ String.ofList (Text.Hex.digits subtype.toNat) ++ ", " ++ Text.Base64.encode bytes
      ++ ")"
  | .regex pattern options => "/" ++ pattern ++ "/" ++ options
  | .decimal128 bytes => (Decimal128.ofBytes bytes).text
  | .javascript code => code
  | .scopedJavascript code _ => code
  | .symbol s => "Symbol(\"" ++ s ++ "\")"
  | .undefined => "undefined"
  | .minKey => "MinKey"
  | .maxKey => "MaxKey"

/-- The texts of the items of an array. -/
def itemTexts : List Bson → List String
  | [] => []
  | v :: rest => v.text :: itemTexts rest

/-- The texts of the fields of a document. -/
def fieldTexts : List (String × Bson) → List String
  | [] => []
  | (key, v) :: rest => ("\"" ++ key ++ "\": " ++ v.text) :: fieldTexts rest

end

/-- The text of a document. -/
def Document.text (d : Document) : String :=
  braced (fieldTexts d)

end WritePath
