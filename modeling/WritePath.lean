import WritePath.Binary64.Basic
import WritePath.Binary64.Reading
import WritePath.Binary64.Shortest
import WritePath.Binary64.Text
import WritePath.Bson.Basic
import WritePath.Bson.Decimal128
import WritePath.Bson.ExtendedJson
import WritePath.Bson.Instant
import WritePath.Bson.Number
import WritePath.Bson.Record
import WritePath.Bson.Spelling
import WritePath.Bson.Text
import WritePath.Duration
import WritePath.Error.Basic
import WritePath.Error.LabelSet
import WritePath.Error.Text
import WritePath.Error.TransactionNumbers
import WritePath.Execution.Blocking
import WritePath.Execution.Callback
import WritePath.Execution.Deployment
import WritePath.Execution.Future
import WritePath.Execution.Stages
import WritePath.Execution.Trace
import WritePath.Protocol.Command
import WritePath.Protocol.LastError
import WritePath.Protocol.LastErrorForm
import WritePath.Protocol.Selection
import WritePath.Rehearsal.Log
import WritePath.Rehearsal.Report
import WritePath.Rehearsal.Server
import WritePath.Report.BatchFailure
import WritePath.Report.BatchResult
import WritePath.Report.CommandFailure
import WritePath.Report.LastErrorFailure
import WritePath.Report.WriteResult
import WritePath.Request.InvalidArgument
import WritePath.Request.Modification
import WritePath.Request.Namespace
import WritePath.Request.Operation
import WritePath.Request.Requests
import WritePath.Request.WriteBatch
import WritePath.Request.WriteConcern
import WritePath.Request.WriteKind
import WritePath.Request.WriteOptions
import WritePath.ServerAddress
import WritePath.Text.Base64
import WritePath.Text.CodePoints
import WritePath.Text.Hex
import WritePath.Text.Invisible
import WritePath.Text.JsonString
import WritePath.Text.LetterCase
import WritePath.Text.Lowercase
import WritePath.Text.Numeral
import WritePath.Text.Quoted
import WritePath.Word
import WritePath.Proofs.Documents
import WritePath.Proofs.Numbers
import WritePath.Proofs.Doubles
import WritePath.Proofs.LastErrorReading
import WritePath.Proofs.FailureDocuments
import WritePath.Proofs.Background
import WritePath.Proofs.Completion
import WritePath.Proofs.Styles
import WritePath.Proofs.Custody
import WritePath.Proofs.Conservation
import WritePath.Proofs.Courses
import WritePath.Proofs.Calls
import WritePath.Proofs.Errors
import WritePath.Proofs.Replies
import WritePath.Proofs.FailedBatches
import WritePath.Proofs.Codes
import WritePath.Proofs.Concerns
import WritePath.Proofs.Commands
import WritePath.Proofs.Events
import WritePath.Proofs.Agreement
import WritePath.Proofs.Construction
import WritePath.Proofs.ConcernReading
import WritePath.Proofs.TimeLimits
import WritePath.Proofs.Cuts
import WritePath.Proofs.Namespaces
import WritePath.Proofs.Numerals
import WritePath.Proofs.Addresses
import WritePath.Proofs.LowerCase
import WritePath.Proofs.Servers
import WritePath.Proofs.Spellings
import WritePath.Proofs.Records
import WritePath.Proofs.Answers
import WritePath.Proofs.Building
import WritePath.Proofs.Explanations
import WritePath.Proofs.Rounding
import WritePath.Proofs.Casts
import WritePath.Proofs.Coercions
