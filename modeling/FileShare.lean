import FileShare.Clock
import FileShare.Codec.Base64
import FileShare.Config.Account
import FileShare.Config.Environment
import FileShare.Error
import FileShare.Hash.Hmac
import FileShare.Hash.Sha256
import FileShare.Http.Date
import FileShare.Http.Detour
import FileShare.Http.Field
import FileShare.Http.Message
import FileShare.Http.Status
import FileShare.Proofs.Clock
import FileShare.Proofs.Codec.Base64
import FileShare.Proofs.Codec.Regrouping
import FileShare.Proofs.Config.Account
import FileShare.Proofs.Config.Endpoint
import FileShare.Proofs.Config.Environment
import FileShare.Proofs.Config.Secondary
import FileShare.Proofs.Config.Settings
import FileShare.Proofs.Http.Field
import FileShare.Proofs.Scratch.Abandon
import FileShare.Proofs.Scratch.Naming
import FileShare.Proofs.Scratch.Provision
import FileShare.Proofs.Scratch.Scope
import FileShare.Proofs.Scratch.ShareName
import FileShare.Proofs.Session
import FileShare.Proofs.Signing.Authorize
import FileShare.Proofs.Signing.Canonical
import FileShare.Proofs.Signing.Coverage
import FileShare.Proofs.Signing.Credential
import FileShare.Proofs.Signing.Groups
import FileShare.Proofs.Signing.Renewal
import FileShare.Proofs.Signing.Unambiguous
import FileShare.Proofs.Storage.Acknowledgement
import FileShare.Proofs.Storage.Binding
import FileShare.Proofs.Storage.Building
import FileShare.Proofs.Storage.Containment
import FileShare.Proofs.Storage.Conversation
import FileShare.Proofs.Storage.Coverage
import FileShare.Proofs.Storage.Delivery
import FileShare.Proofs.Storage.Demand
import FileShare.Proofs.Storage.Derivation
import FileShare.Proofs.Storage.Journey
import FileShare.Proofs.Storage.KeySecrecy
import FileShare.Proofs.Storage.Metadata
import FileShare.Proofs.Storage.Operation
import FileShare.Proofs.Storage.Outcome
import FileShare.Proofs.Storage.Pipeline
import FileShare.Proofs.Storage.Properties
import FileShare.Proofs.Storage.Range
import FileShare.Proofs.Storage.Related
import FileShare.Proofs.Storage.Signature
import FileShare.Proofs.Storage.Slice
import FileShare.Proofs.Storage.Supplied
import FileShare.Proofs.Text.Ascii
import FileShare.Proofs.Text.Blank
import FileShare.Proofs.Text.Decimal
import FileShare.Proofs.Text.Order
import FileShare.Proofs.Text.Separated
import FileShare.Proofs.Text.Utf8
import FileShare.Proofs.Unicode.Composition
import FileShare.Proofs.Url.Child
import FileShare.Proofs.Url.DomainName
import FileShare.Proofs.Url.Form
import FileShare.Proofs.Url.Host
import FileShare.Proofs.Url.Parser
import FileShare.Proofs.Url.PathText
import FileShare.Proofs.Url.Percent
import FileShare.Proofs.Url.Root
import FileShare.Scratch.Expectation
import FileShare.Scratch.Naming
import FileShare.Scratch.Provision
import FileShare.Scratch.Scope
import FileShare.Session
import FileShare.Signing.Authorize
import FileShare.Signing.Canonical
import FileShare.Signing.Credential
import FileShare.Storage.Handle
import FileShare.Storage.Metadata
import FileShare.Storage.Operation
import FileShare.Storage.Pipeline
import FileShare.Storage.Result
import FileShare.Text.Basic
import FileShare.Text.Blank
import FileShare.Text.Decimal
import FileShare.Text.Quoted
import FileShare.Text.Utf8
import FileShare.Unicode.CaseMapping
import FileShare.Unicode.Composition
import FileShare.Unicode.Direction
import FileShare.Unicode.HostMapping
import FileShare.Unicode.Joining
import FileShare.Unicode.Printable
import FileShare.Unicode.Table
import FileShare.Url.Address
import FileShare.Url.Basic
import FileShare.Url.Child
import FileShare.Url.DomainName
import FileShare.Url.Form
import FileShare.Url.Parser
import FileShare.Url.Path
import FileShare.Url.Percent
import FileShare.Url.Punycode
