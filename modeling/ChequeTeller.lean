import ChequeTeller.Octets.Json
import ChequeTeller.Proofs.Attribution
import ChequeTeller.Proofs.Cheque.Encoding
import ChequeTeller.Proofs.Cheque.Extent
import ChequeTeller.Proofs.Cheque.Partition
import ChequeTeller.Proofs.Cheque.Tags
import ChequeTeller.Proofs.Invoice
import ChequeTeller.Proofs.Ledger.History
import ChequeTeller.Proofs.Lightning.Discretion
import ChequeTeller.Proofs.Lightning.Exchanges
import ChequeTeller.Proofs.Lightning.Rest.BaseUrls
import ChequeTeller.Proofs.Lightning.Rest.Instructions
import ChequeTeller.Proofs.Lightning.Rest.Outcomes
import ChequeTeller.Proofs.Lightning.Rest.Replies
import ChequeTeller.Proofs.Lightning.Rest.Traffic
import ChequeTeller.Proofs.Octets
import ChequeTeller.Proofs.Octets.Text
import ChequeTeller.Proofs.Quote.Courses
import ChequeTeller.Proofs.Quote.Timestamps
import ChequeTeller.Proofs.Records
import ChequeTeller.Proofs.Redemption.Interleaving.Payments
import ChequeTeller.Proofs.Redemption.Payout
import ChequeTeller.Proofs.Redemption.Respelling
import ChequeTeller.Proofs.Redemption.Session
import ChequeTeller.Proofs.Service.Discretion
import ChequeTeller.Proofs.Service.Form
import ChequeTeller.Proofs.Service.Settlement
import ChequeTeller.Proofs.Settings.Expansion
import ChequeTeller.Proofs.Text.HexFaults
import ChequeTeller.Proofs.Text.LetterCase
import ChequeTeller.Service.Handler
import ChequeTeller.Settings.Loading
