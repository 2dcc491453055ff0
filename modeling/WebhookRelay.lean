import WebhookRelay.Binary64.Basic
import WebhookRelay.Binary64.Rounding
import WebhookRelay.Binary64.Shortest
import WebhookRelay.Binary64.Text
import WebhookRelay.Delivery.Clock
import WebhookRelay.Delivery.Network
import WebhookRelay.Delivery.Retry
import WebhookRelay.Delivery.Target
import WebhookRelay.Entries
import WebhookRelay.Expression.Evaluation
import WebhookRelay.Expression.Operand
import WebhookRelay.Expression.Operator
import WebhookRelay.Expression.Ternary
import WebhookRelay.Fault
import WebhookRelay.Form
import WebhookRelay.Json.Reader
import WebhookRelay.Json.Writer
import WebhookRelay.Main
import WebhookRelay.Numeral
import WebhookRelay.Path
import WebhookRelay.Proofs.Binary64.Exact
import WebhookRelay.Proofs.Binary64.Nearest
import WebhookRelay.Proofs.Binary64.Numerals
import WebhookRelay.Proofs.Binary64.Range
import WebhookRelay.Proofs.Binary64.Scaling
import WebhookRelay.Proofs.Binary64.Shortest
import WebhookRelay.Proofs.Delivery.Clock
import WebhookRelay.Proofs.Delivery.Exhaustion
import WebhookRelay.Proofs.Delivery.Requests
import WebhookRelay.Proofs.Delivery.Retry
import WebhookRelay.Proofs.Expression.Comparison
import WebhookRelay.Proofs.Expression.Containers
import WebhookRelay.Proofs.Expression.Equality
import WebhookRelay.Proofs.Expression.NumericText
import WebhookRelay.Proofs.Expression.Phrase
import WebhookRelay.Proofs.Expression.Term
import WebhookRelay.Proofs.Expression.Ternary
import WebhookRelay.Proofs.Form.RoundTrip
import WebhookRelay.Proofs.Json.Compact
import WebhookRelay.Proofs.Json.Locality
import WebhookRelay.Proofs.Json.Numbers
import WebhookRelay.Proofs.Json.RoundTrip
import WebhookRelay.Proofs.Json.Unicode
import WebhookRelay.Proofs.Path.Places
import WebhookRelay.Proofs.Rule.Acceptance
import WebhookRelay.Proofs.Rule.Notification
import WebhookRelay.Proofs.Rule.RoundTrip
import WebhookRelay.Proofs.Service.Addressees
import WebhookRelay.Proofs.Service.Addressing
import WebhookRelay.Proofs.Service.Push
import WebhookRelay.Proofs.Service.Retries
import WebhookRelay.Proofs.Service.Runs
import WebhookRelay.Proofs.Service.Saving
import WebhookRelay.Proofs.Store.Backends
import WebhookRelay.Proofs.Store.Catalog
import WebhookRelay.Proofs.Store.Deletions
import WebhookRelay.Proofs.Store.Interleaving
import WebhookRelay.Proofs.Store.Listing
import WebhookRelay.Proofs.Store.Refinement
import WebhookRelay.Proofs.Template.Absorbed
import WebhookRelay.Proofs.Template.Decomposition
import WebhookRelay.Proofs.Template.Faults
import WebhookRelay.Proofs.Template.Noninterference
import WebhookRelay.Proofs.Template.PaddedPath
import WebhookRelay.Proofs.Text.Percent
import WebhookRelay.Proofs.Text.Scanning
import WebhookRelay.Proofs.Url.Query
import WebhookRelay.Proofs.Value.Addressable
import WebhookRelay.Proofs.Value.NumberText
import WebhookRelay.Proofs.Value.Parts
import WebhookRelay.Proofs.Value.Shown
import WebhookRelay.Rule.Basic
import WebhookRelay.Rule.Codec
import WebhookRelay.Rule.Notification
import WebhookRelay.Rule.Validation
import WebhookRelay.Service.Answer
import WebhookRelay.Service.Handler
import WebhookRelay.Service.Request
import WebhookRelay.Service.Route
import WebhookRelay.Settings.Delivery
import WebhookRelay.Settings.Environment
import WebhookRelay.Settings.Launch
import WebhookRelay.Settings.Server
import WebhookRelay.Settings.Store
import WebhookRelay.Store.Memory
import WebhookRelay.Store.Memory.Lemmas
import WebhookRelay.Store.RuleStore
import WebhookRelay.Store.Script
import WebhookRelay.Store.Statement
import WebhookRelay.Store.Table
import WebhookRelay.Template
import WebhookRelay.Text.Blank
import WebhookRelay.Text.CaseMap
import WebhookRelay.Text.CharSet
import WebhookRelay.Text.Composition
import WebhookRelay.Text.DecimalDigit
import WebhookRelay.Text.Direction
import WebhookRelay.Text.Joining
import WebhookRelay.Text.LowerCase
import WebhookRelay.Text.Mark
import WebhookRelay.Text.NameLetter
import WebhookRelay.Text.NormalForm
import WebhookRelay.Text.Percent
import WebhookRelay.Text.Printable
import WebhookRelay.Text.Punycode
import WebhookRelay.Text.Quotes
import WebhookRelay.Text.Spelling
import WebhookRelay.Text.Split
import WebhookRelay.Text.UpperCase
import WebhookRelay.Text.Utf8
import WebhookRelay.Text.Wide
import WebhookRelay.Url.Basic
import WebhookRelay.Url.Escape
import WebhookRelay.Url.Host
import WebhookRelay.Url.Label
import WebhookRelay.Url.Name
import WebhookRelay.Url.Parts
import WebhookRelay.Url.Query
import WebhookRelay.Url.Reference
import WebhookRelay.Url.Refusal
import WebhookRelay.Value
import WebhookRelay.Value.Shown
import WebhookRelay.Value.Spelling
import WebhookRelay.Value.Truth
