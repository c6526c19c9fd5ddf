import ProcCall.Call.Notation
import ProcCall.Caller
import ProcCall.Conversion
import ProcCall.Database.Notation
import ProcCall.Json.Reader
import ProcCall.Toml.Reader
import ProcCall.Proofs.BindingStyles
import ProcCall.Proofs.Call.Listing
import ProcCall.Proofs.History
import ProcCall.Proofs.HostTypes
import ProcCall.Proofs.Reports
import ProcCall.Proofs.Session
import ProcCall.Proofs.Transcript
import ProcCall.Proofs.Call.Origins
import ProcCall.Proofs.Documents
import ProcCall.Proofs.DatabaseErrors
import ProcCall.Proofs.Call.Phases
import ProcCall.Proofs.EarlyFailures
import ProcCall.Proofs.Scripted.Locality
import ProcCall.Proofs.Interleaving
import ProcCall.Proofs.Plan.Rejection
import ProcCall.Proofs.Call.NullElements
import ProcCall.Proofs.Call.RowCounts
import ProcCall.Proofs.Call.Release
import ProcCall.Proofs.Suppression
import ProcCall.Proofs.Shadowing
import ProcCall.Proofs.Wrapping
import ProcCall.Proofs.Value.ExactNumbers
import ProcCall.Proofs.Call.Handles
import ProcCall.Proofs.Scripted.ReadBack
import ProcCall.Proofs.Call.Delegation
import ProcCall.Proofs.Plan.CallText
import ProcCall.Proofs.OutputTyping
import ProcCall.Proofs.ArgumentShapes
import ProcCall.Proofs.Plan.SnakeCase
import ProcCall.Proofs.Value.ColumnNames
