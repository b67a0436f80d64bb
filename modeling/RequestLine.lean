import RequestLine.Main
import RequestLine.Proofs.Body
import RequestLine.Proofs.Execution.Calls
import RequestLine.Proofs.Execution.Clocks
import RequestLine.Proofs.Execution.Reason
import RequestLine.Proofs.Header
import RequestLine.Proofs.Json.Dialects
import RequestLine.Proofs.Line.FirstError
import RequestLine.Proofs.Line.Numbers
import RequestLine.Proofs.Line.Order
import RequestLine.Proofs.Line.RoundTrip
import RequestLine.Proofs.Query.Canonical
import RequestLine.Proofs.Query.Decoding
import RequestLine.Proofs.Query.Faults
import RequestLine.Proofs.Server
import RequestLine.Proofs.Service.ClientError
import RequestLine.Proofs.Service.Isolation
import RequestLine.Proofs.Service.Origin
import RequestLine.Proofs.Service.Report
import RequestLine.Schema.Records
