import WritePath.Text.Hex

namespace WritePath.Text.JsonString

/-!
# Strings of JSON

Only what JSON does not admit as it is gets escaped: the quote, the backslash and the control
characters below the space.

* `escape` — what stands for one character.
* `encode` — a text as a JSON string.
-/

/-- What stands for a character in a JSON string. -/
def escape (c : Char) : List Char :=
  if c = '"' then ['\\', '"']
  else if c = '\\' then ['\\', '\\']
  else if c = '\n' then ['\\', 'n']
  else if c = '\t' then ['\\', 't']
  else if c = '\r' then ['\\', 'r']
  else if c = '\x08' then ['\\', 'b']
  else if c = '\x0c' then ['\\', 'f']
  else if c < ' ' then ['\\', 'u', '0', '0'] ++ Hex.pair c.toNat.toUInt8
  else [c]

/-- A text as a JSON string. -/
def encode (s : String) : String :=
  String.ofList (['"'] ++ s.toList.flatMap escape ++ ['"'])

end WritePath.Text.JsonString
