import WritePath.Text.Hex
import WritePath.Text.Invisible

namespace WritePath.Text.Quoted

/-!
# Quoted text for people

A quote, a backslash and the usual control characters are written with a backslash, and any other
character that does not show by itself is written by its code point.

* `escape` — what stands for one character.
* `encode` — a text between quotes.
* `encodeSet` — a set of texts between braces.
-/

/-- What stands for a character between quotes. -/
def escape (c : Char) : List Char :=
  if c = '"' then ['\\', '"']
  else if c = '\\' then ['\\', '\\']
  else if c = '\n' then ['\\', 'n']
  else if c = '\r' then ['\\', 'r']
  else if c = '\t' then ['\\', 't']
  else if c = '\x00' then ['\\', '0']
  else if invisible.has c then ['\\', 'u', '\x7b'] ++ Hex.digits c.toNat ++ ['\x7d']
  else [c]

/-- A text between quotes. -/
def encode (s : String) : String :=
  String.ofList (['"'] ++ s.toList.flatMap escape ++ ['"'])

/-- Texts between braces, each in quotes. -/
def encodeSet (texts : List String) : String :=
  "\x7b" ++ ", ".intercalate (texts.map encode) ++ "\x7d"

end WritePath.Text.Quoted
