import WritePath.Request.WriteKind

namespace WritePath

/-!
# Arguments that are refused

* `InvalidArgument` — why an argument is refused.
* `InvalidArgument.message` — the wording.
-/

/-- Why an argument is refused. -/
inductive InvalidArgument where
  /-- The name of a database is empty. -/
  | emptyDatabase
  /-- The name of a collection is empty. -/
  | emptyCollection
  /-- An address has no host. -/
  | missingHost (address : String)
  /-- What follows the first colon of an address is no 16-bit number. -/
  | unreadablePort (text : String)
  /-- An address asks for number zero. -/
  | zeroPort (address : String)
  /-- An address has a second colon. -/
  | extraColon (address : String)
  /-- A write has nothing to do. -/
  | noRequests (kind : WriteKind)
  /-- A write asks for no acknowledgement and for the journal. -/
  | contradictoryConcern
  /-- A replacement document holds an update operator. -/
  | operatorInReplacement (key : String)
  /-- An update document is empty or holds a plain field. -/
  | updateWithoutOperators
  /-- A removal has a limit other than zero and one. -/
  | deleteLimit (limit : UInt32)
  deriving DecidableEq, Repr

/-- The wording of a refusal. -/
def InvalidArgument.message : InvalidArgument → String
  | emptyDatabase => "database name cannot be empty"
  | emptyCollection => "collection name cannot be empty"
  | missingHost address => "invalid server address: \"" ++ address ++ "\""
  | unreadablePort text => "port must be valid 16-bit unsigned integer, instead got: " ++ text
  | zeroPort address => "invalid server address: \"" ++ address ++ "\"; port must be non-zero"
  | extraColon address => "address \"" ++ address ++ "\" contains more than one unescaped ':'"
  | noRequests kind => kind.name ++ " requires at least one request"
  | contradictoryConcern => "write concern cannot have w=0 and j=true"
  | operatorInReplacement key =>
    "replacement document must not contain update operators, found " ++ key
  | updateWithoutOperators => "update document must only contain update operators"
  | deleteLimit limit => "delete limit must be 0 or 1, got " ++ toString limit.toNat

end WritePath
