import WritePath.Error.Basic
import WritePath.Text.Quoted

namespace WritePath

/-!
# Errors in words

The words of an error name its kind, its labels and the error behind it. Nothing is said of an
error whose words are left to the data format, nor of one that comes out of such an error.

* `ErrorKind.text?` — what went wrong.
* `Error.text?` — the whole error.
-/

/-- What went wrong, in words. -/
def ErrorKind.text? : ErrorKind → Option String
  | undecodable | unencodable | batch _ => none
  | invalidArgument cause => some ("An invalid argument was provided: " ++ cause.message)
  | command e => some ("Command failed: " ++ e.text)
  | duplicateKey e => some ("Duplicate key error: " ++ e.text)
  | writeConcern e => some ("Write concern error: " ++ e.text)
  | retryableWritesNotSupported => some retryableWritesMessage
  | internal cause => some ("Internal error: " ++ cause.message)
  | io cause => some ("I/O error: " ++ cause.message)
  | invalidResponse cause =>
    some ("The server returned an invalid reply to a database operation: " ++ cause.message)
  | connectionUnavailable message => some message

/-- The structure of a refused command. -/
def CommandFailure.structureText (e : CommandFailure) : String :=
  "CommandError \x7b code: " ++ toString e.code.toInt ++ ", code_name: "
    ++ Text.Quoted.encode e.codeName ++ ", message: " ++ Text.Quoted.encode e.message ++ " \x7d"

/-- The structure of the errors behind an error. Only a refused command is ever behind another
error, and nothing is said of others. -/
def sourceText? : List Cause → Option String
  | [] => some "None"
  | c :: rest =>
    match c.kind with
    | .command e => do
      let source ← sourceText? rest
      some
        ("Some(Error \x7b kind: Command(" ++ e.structureText ++ "), labels: "
          ++ Text.Quoted.encodeSet c.labels.toList ++ ", source: " ++ source ++ " \x7d)")
    | _ => none

/-- An error in words. -/
def Error.text? (e : Error) : Option String := do
  let kind ← e.kind.text?
  let source ← sourceText? e.sources
  some
    ("Kind: " ++ kind ++ ", labels: " ++ Text.Quoted.encodeSet e.labels.toList ++ ", source: "
      ++ source)

end WritePath
