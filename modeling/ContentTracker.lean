import ContentTracker.Json.Reader
import ContentTracker.Logging.Highlight
import ContentTracker.Logging.Journal
import ContentTracker.Main
import ContentTracker.Service
import ContentTracker.Wire.Schema
import ContentTracker.Proofs.Wire.SelfDelimiting
import ContentTracker.Proofs.Wire.Varint
import ContentTracker.Proofs.Message.RoundTrip
import ContentTracker.Proofs.Network.Outcome
import ContentTracker.Proofs.Network.Traffic
import ContentTracker.Proofs.Connection.Stream
import ContentTracker.Proofs.Endpoint.Dialing
import ContentTracker.Proofs.Exchange.Steps
import ContentTracker.Proofs.Exchange.Conduct
import ContentTracker.Proofs.Network.Arrivals
import ContentTracker.Proofs.Network.Punctual
import ContentTracker.Proofs.Endpoint.Answered
import ContentTracker.Proofs.Connection.Reply
import ContentTracker.Proofs.Exchange.Answered
import ContentTracker.Proofs.Client.Reply
import ContentTracker.Proofs.Network.Problems
import ContentTracker.Proofs.Connection.Problems
import ContentTracker.Proofs.Endpoint.Problems
import ContentTracker.Proofs.Exchange.Problems
import ContentTracker.Proofs.Wire.Extent
import ContentTracker.Proofs.Message.Extent
import ContentTracker.Proofs.Octets
import ContentTracker.Proofs.Text.Utf8
import ContentTracker.Proofs.Text.Base32
import ContentTracker.Proofs.Address.IpText
import ContentTracker.Proofs.Address.Packed
import ContentTracker.Proofs.Address.Order
import ContentTracker.Proofs.Wire.Respelling
import ContentTracker.Proofs.Ticket.RoundTrip
import ContentTracker.Proofs.Message.NormalForm
import ContentTracker.Proofs.Address.Book
import ContentTracker.Proofs.Endpoint.Attempts
import ContentTracker.Proofs.Wire.Schemas
import ContentTracker.Proofs.Wire.Checked
import ContentTracker.Proofs.Message.Checked
import ContentTracker.Proofs.Ticket.Checked
import ContentTracker.Proofs.Specifier.Checked
import ContentTracker.Proofs.Network.Failing
import ContentTracker.Proofs.Connection.Failing
import ContentTracker.Proofs.Exchange.Failing
import ContentTracker.Proofs.Handshake.Dialogue
import ContentTracker.Proofs.Handshake.Agreement
import ContentTracker.Proofs.Text.Hex
import ContentTracker.Proofs.Specifier.Precedence
import ContentTracker.Proofs.Text.Blank
import ContentTracker.Proofs.Specifier.Announcing
import ContentTracker.Proofs.Specifier.RoundTrip
import ContentTracker.Proofs.Connection.Closing
import ContentTracker.Proofs.Endpoint.Accepting
import ContentTracker.Proofs.Endpoint.Fallback
import ContentTracker.Proofs.Grouped
import ContentTracker.Proofs.Settings.Validated
import ContentTracker.Proofs.Settings.Manager
import ContentTracker.Proofs.CommandLine.DialList
import ContentTracker.Proofs.Settings.Session
import ContentTracker.Proofs.Settings.Refusal
import ContentTracker.Proofs.Settings.Identity
import ContentTracker.Proofs.Settings.Loading
import ContentTracker.Proofs.Network.Flow
import ContentTracker.Proofs.Connection.Inquiry
import ContentTracker.Proofs.Connection.Reading
import ContentTracker.Proofs.Content.Spelling
import ContentTracker.Proofs.Message.Canonical
import ContentTracker.Proofs.Ticket.Canonical
import ContentTracker.Proofs.Address.History
import ContentTracker.Proofs.Connection.Lifetime
import ContentTracker.Proofs.Number.Numeral
import ContentTracker.Proofs.Address.DialText
import ContentTracker.Proofs.Table
import ContentTracker.Proofs.Settings.Fields
import ContentTracker.Proofs.Settings.Overlay
import ContentTracker.Proofs.Settings.Outcome
import ContentTracker.Proofs.Logging.Markup
import ContentTracker.Proofs.Logging.Template
import ContentTracker.Proofs.Logging.Journal
import ContentTracker.Proofs.Logging.PlainLine
import ContentTracker.Proofs.Logging.Repeated
import ContentTracker.Proofs.Address.Normal
import ContentTracker.Proofs.Toml.LineEnds
import ContentTracker.Proofs.Settings.Accepted
import ContentTracker.Proofs.Settings.Export
