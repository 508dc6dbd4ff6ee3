import ArrayExchange.Session.Command
import ArrayExchange.NdArray.Comparison
import ArrayExchange.Reading.Options
import ArrayExchange.Record.Reading
import ArrayExchange.Proofs.Session.WholeElements
import ArrayExchange.Proofs.Session.Sharing
import ArrayExchange.Proofs.Session.Issues
import ArrayExchange.Proofs.Record.RoundTrip
import ArrayExchange.Proofs.Bytes.Reversal
import ArrayExchange.Proofs.Record.Verdict
import ArrayExchange.Proofs.Record.ForeignOrder
import ArrayExchange.Proofs.NdArray.Equality
import ArrayExchange.Proofs.Element.Exact
import ArrayExchange.Proofs.NdArray.Transitivity
import ArrayExchange.Proofs.NdArray.Validation
import ArrayExchange.Proofs.NdArray.Conversion
import ArrayExchange.Proofs.Record.Normal
import ArrayExchange.Proofs.NdArray.HeldNumbers
import ArrayExchange.Proofs.NdArray.Truncation
import ArrayExchange.Proofs.NdArray.Recast
import ArrayExchange.Proofs.Session.ElementUpdates
import ArrayExchange.Proofs.NdArray.Grids
import ArrayExchange.Proofs.Record.InlinePayloads
import ArrayExchange.Proofs.NdArray.Tolerance
import ArrayExchange.Proofs.NdArray.Chains
import ArrayExchange.Proofs.NdArray.Singles
import ArrayExchange.Proofs.NdArray.Recoding
import ArrayExchange.Proofs.Bytes.InPlace
