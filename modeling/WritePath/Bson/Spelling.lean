import WritePath.Binary64.Reading
import WritePath.Bson.Basic
import WritePath.Bson.Decimal128
import WritePath.Bson.Instant
import WritePath.Text.Base64
import WritePath.Text.Hex
import WritePath.Word

namespace WritePath

/-!
# Values in records

A record of results or failures holds values of any kind. When it is written, each of them is
spelled out as extended JSON has it and then read again, so that a document with the spelling of
another value becomes that value. Reading a record keeps documents as they are.

* `Document.spelled?` — the value that a document spells out.
* `Bson.stored` — a value after the record that holds it is written.
* `Bson.loaded` — a value after the record that holds it is read.
-/

/-- The letters of the options of a regular expression in alphabetical order. -/
def sortedOptions (options : String) : String :=
  String.ofList (options.toList.mergeSort (· ≤ ·))

namespace Document

/-! ### Fields of a given type -/

/-- The string under a name. -/
def string? (d : Document) (key : String) : Option String :=
  match d.get? key with
  | some (.string s) => some s
  | _ => none

/-- The int32 under a name. -/
def int32? (d : Document) (key : String) : Option Int32 :=
  match d.get? key with
  | some (.int32 n) => some n
  | _ => none

/-- The int64 under a name. -/
def int64? (d : Document) (key : String) : Option Int64 :=
  match d.get? key with
  | some (.int64 n) => some n
  | _ => none

/-- The plain bytes under a name. -/
def bytes? (d : Document) (key : String) : Option (List UInt8) :=
  match d.get? key with
  | some (.binary 0 bytes) => some bytes
  | _ => none

/-! ### Spellings of values -/

/-- A sequence of bytes of a given length. -/
def sized? (count : Nat) (bytes : List UInt8) : Option (Vector UInt8 count) :=
  if h : bytes.toArray.size = count then some ⟨bytes.toArray, h⟩ else none

/-- The subtype and the bytes that a document spells out: as text, or as they are. -/
def spelledBinary? (d : Document) : Option Bson :=
  match d.string? "base64" with
  | some text => do
    let bytes ← Text.Base64.decode? text.toList
    let subtype ← d.string? "subType"
    match ← Text.Hex.decode? subtype.toList with
    | [b] => some (.binary b bytes)
    | _ => none
  | none => do
    let bytes ← d.bytes? "bytes"
    let subtype ← d.int32? "subType"
    if 0 ≤ subtype.toInt ∧ subtype.toInt < 256 then
      some (.binary (UInt8.ofNat subtype.toInt.toNat) bytes)
    else none

/-- The timestamp that a document spells out. Two int32 count as words without a sign. -/
def spelledTimestamp? (d : Document) : Option Bson :=
  match d.int32? "t", d.int32? "i" with
  | some t, some i => some (.timestamp t.toUInt32 i.toUInt32)
  | _, _ => do
    let t ← uint32? (← d.int64? "t").toInt
    let i ← uint32? (← d.int64? "i").toInt
    some (.timestamp t i)

/-- The regular expression that a document spells out. -/
def spelledRegex? (d : Document) : Option Bson := do
  let pattern ← d.string? "pattern"
  let options ← d.string? "options"
  some (.regex pattern (sortedOptions options))

/-- The value that a document with a single string spells out. -/
def spelledText? (key text : String) : Option Bson :=
  match key with
  | "$oid" => ((Text.Hex.decode? text.toList).bind (sized? 12)).map .objectId
  | "$symbol" => some (.symbol text)
  | "$numberInt" => ((Text.Numeral.readInt? text.toList).bind WritePath.int32?).map .int32
  | "$numberLong" => ((Text.Numeral.readInt? text.toList).bind WritePath.int64?).map .int64
  | "$numberDouble" => (Binary64.parse? text.toList).map .double
  | "$numberDecimal" => (Decimal128.parse? text.toList).map fun d => .decimal128 d.bytes
  | "$code" => some (.javascript text)
  | "$date" =>
    ((Instant.parseIso? text.toList).bind WritePath.int64?).map .dateTime
  | _ => none

/-- The value that a document with a single document spells out. -/
def spelledNested? (key : String) (inner : Document) : Option Bson :=
  match key with
  | "$binary" => spelledBinary? inner
  | "$timestamp" => spelledTimestamp? inner
  | "$regularExpression" => spelledRegex? inner
  | _ => none

/-- The end of the order of values that a document with the number one spells out. -/
def spelledEnd? (key : String) : Option Bson :=
  match key with
  | "$minKey" => some .minKey
  | "$maxKey" => some .maxKey
  | _ => none

/-- The value that a document of one field spells out. -/
def spelledField? (key : String) : Bson → Option Bson
  | .string text => spelledText? key text
  | .document inner => spelledNested? key inner
  | .int32 n => if n = 1 then spelledEnd? key else none
  | .int64 n =>
    if key = "$date" then some (.dateTime n) else if n = 1 then spelledEnd? key else none
  | .binary 0 bytes =>
    if key = "$numberDecimalBytes" then (sized? 16 bytes).map .decimal128 else none
  | .boolean b => if key = "$undefined" ∧ b = true then some .undefined else none
  | _ => none

/-- The value that a document of two fields spells out: code and the names it sees. -/
def spelledScope? (d : Document) : Option Bson :=
  match d.get? "$code", d.get? "$scope" with
  | some (.string code), some (.document scope) => some (.scopedJavascript code scope)
  | _, _ => none

/-- The value that a document spells out. -/
def spelled? : Document → Option Bson
  | [(key, v)] => spelledField? key v
  | [first, second] => spelledScope? [first, second]
  | _ => none

/-- The value that a document spells out, or else the document. -/
def value (d : Document) : Bson :=
  d.spelled?.getD (.document d)

end Document

/-! ### Writing and reading records -/

mutual

/-- A value after the record that holds it is written. -/
def Bson.stored : Bson → Bson
  | .array items => .array (storedItems items)
  | .document fields => Document.value (storedFields fields)
  | .regex pattern options => .regex pattern (sortedOptions options)
  | .decimal128 bytes => .decimal128 (Decimal128.respelled bytes)
  | .scopedJavascript code scope =>
    Document.value
      [("$code", .string code), ("$scope", Document.value (storedFields scope))]
  | v => v

/-- The items of an array after the record is written. -/
def storedItems : List Bson → List Bson
  | [] => []
  | v :: rest => v.stored :: storedItems rest

/-- The fields of a document after the record is written. -/
def storedFields : List (String × Bson) → List (String × Bson)
  | [] => []
  | (key, v) :: rest => (key, v.stored) :: storedFields rest

end

mutual

/-- A value after the record that holds it is read. -/
def Bson.loaded : Bson → Bson
  | .array items => .array (loadedItems items)
  | .document fields => .document (loadedFields fields)
  | .regex pattern options => .regex pattern (sortedOptions options)
  | .scopedJavascript code scope => .scopedJavascript code (loadedFields scope)
  | v => v

/-- The items of an array after the record is read. -/
def loadedItems : List Bson → List Bson
  | [] => []
  | v :: rest => v.loaded :: loadedItems rest

/-- The fields of a document after the record is read. -/
def loadedFields : List (String × Bson) → List (String × Bson)
  | [] => []
  | (key, v) :: rest => (key, v.loaded) :: loadedFields rest

end

end WritePath
