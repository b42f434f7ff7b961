import WritePath.Bson.Record
import WritePath.Request.InvalidArgument
import WritePath.Text.Lowercase
import WritePath.Text.Numeral

namespace WritePath

/-!
# Server addresses

An address is a host and, behind a colon, the number that the server listens on. Without a number
the usual one is meant, and two addresses are the same server if they agree once it is filled in.

* `ServerAddress` — the host in lower case and the number, if one was given.
* `ServerAddress.identity`, `ServerAddress.sameServer` — host and number, by which addresses are
  hashed and compared.
* `ServerAddress.parse`, `ServerAddress.text` — reading and writing.
* `ServerAddress.toBson`, `ServerAddress.ofBson?` — the text as a value.
-/

/-- Where a server listens. -/
structure ServerAddress where
  host : String
  portNumber : Option UInt16
  deriving DecidableEq, Repr

namespace ServerAddress

/-- The number that a server listens on unless told otherwise. -/
def defaultPort : UInt16 := 27017

/-- The number to connect to. -/
def effectivePort (a : ServerAddress) : UInt16 :=
  a.portNumber.getD defaultPort

/-- What tells servers apart. -/
def identity (a : ServerAddress) : String × UInt16 :=
  (a.host, a.effectivePort)

/-- Whether two addresses mean the same server, be the usual number spelled out or not. -/
def sameServer (a b : ServerAddress) : Bool :=
  a.host == b.host && a.effectivePort == b.effectivePort

/-- The address that is meant where none is given. -/
def localhost : ServerAddress :=
  ⟨"localhost", none⟩

/-- Reads an address, of which the pieces between the colons are the host and the number. Of several
faults an empty host is reported first, then an unreadable number, then number zero, then a second
colon. -/
def parse (address : String) : Except InvalidArgument ServerAddress :=
  match address.toList.splitOn ':' with
  | [] => .error (.missingHost address)
  | host :: pieces =>
    if host = [] then .error (.missingHost address)
    else
      match pieces with
      | [] => .ok ⟨Text.lowercase (String.ofList host), none⟩
      | digits :: more =>
        match Text.Numeral.readUInt16? digits with
        | none => .error (.unreadablePort (String.ofList digits))
        | some n =>
          if n = 0 then .error (.zeroPort address)
          else if more ≠ [] then .error (.extraColon address)
          else .ok ⟨Text.lowercase (String.ofList host), some n⟩

/-- The host and the number to connect to. -/
def text (a : ServerAddress) : String :=
  a.host ++ ":" ++ toString a.effectivePort.toNat

/-- The text as a value. -/
def toBson (a : ServerAddress) : Bson :=
  .string a.text

/-- The address of a value that holds its text. -/
def ofBson? (v : Bson) : Option ServerAddress :=
  v.readString?.bind fun s => (parse s).toOption

theorem sameServer_iff_identity_eq {a b : ServerAddress} :
    a.sameServer b = true ↔ a.identity = b.identity := by
  simp [sameServer, identity]

end ServerAddress

end WritePath
