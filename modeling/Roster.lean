import Roster.Admission.Error
import Roster.Admission.Helper
import Roster.Admission.Joiner
import Roster.Admission.Line
import Roster.Admission.Reply
import Roster.Admission.Request
import Roster.Admission.Server
import Roster.Admission.Session
import Roster.Binary64
import Roster.Channel.Authenticator
import Roster.Channel.Duplex
import Roster.Channel.Error
import Roster.Channel.Factory
import Roster.Channel.Instance
import Roster.Channel.Trust
import Roster.Channel.Wire
import Roster.Command.Arguments
import Roster.Command.Basic
import Roster.Command.Output
import Roster.Fault
import Roster.File
import Roster.Format.Gate
import Roster.Format.Version
import Roster.Group.Basic
import Roster.Group.Codec
import Roster.Group.Edit
import Roster.Group.Records
import Roster.Group.Summary
import Roster.Json
import Roster.Json.Parser
import Roster.Main
import Roster.Net.Ip
import Roster.Net.ServerName
import Roster.Node
import Roster.Pattern
import Roster.Pattern.Automaton
import Roster.Pattern.Brackets
import Roster.Pattern.Escape
import Roster.Pattern.Flags
import Roster.Pattern.Meaning
import Roster.Pattern.Parser
import Roster.Pattern.Property
import Roster.Pattern.Regex
import Roster.Pattern.Search
import Roster.Pattern.Tree
import Roster.Proofs.Admission.Agreement
import Roster.Proofs.Admission.Answer
import Roster.Proofs.Admission.Barred
import Roster.Proofs.Admission.Delivery
import Roster.Proofs.Admission.Durability
import Roster.Proofs.Admission.Exchange
import Roster.Proofs.Admission.Holders
import Roster.Proofs.Admission.Identity
import Roster.Proofs.Admission.Join
import Roster.Proofs.Admission.Line
import Roster.Proofs.Admission.Lineage
import Roster.Proofs.Admission.Live
import Roster.Proofs.Admission.Refusal
import Roster.Proofs.Admission.Reply
import Roster.Proofs.Admission.Request
import Roster.Proofs.Admission.Run
import Roster.Proofs.Admission.Story
import Roster.Proofs.Channel.Trust
import Roster.Proofs.Channel.Wire
import Roster.Proofs.Group.Edit
import Roster.Proofs.Group.Reachable
import Roster.Proofs.Group.Record
import Roster.Proofs.Group.Records
import Roster.Proofs.Group.RoundTrip
import Roster.Proofs.Group.Stream
import Roster.Proofs.Registry.Message
import Roster.Proofs.Registry.Refusal
import Roster.Proofs.Registry.Register
import Roster.Proofs.Registry.Update
import Roster.Proofs.Result
import Roster.Proofs.Subject.Escape
import Roster.Proofs.Subject.Name
import Roster.Proofs.Text.Decimal
import Roster.Proofs.Text.Utf8
import Roster.Proofs.Text.Words
import Roster.Proofs.Token.Field
import Roster.Proofs.Token.Stream
import Roster.Registry.Basic
import Roster.Registry.Holds
import Roster.Registry.SnapshotFile
import Roster.Registry.Store
import Roster.Settings.Basic
import Roster.Settings.Error
import Roster.Settings.Load
import Roster.Startup
import Roster.Subject.Certificate
import Roster.Subject.Der
import Roster.Subject.Error
import Roster.Subject.Escape
import Roster.Subject.Name
import Roster.Subject.Oid
import Roster.Subject.Text
import Roster.Text.Age
import Roster.Text.Blank
import Roster.Text.Break
import Roster.Text.ByteRange
import Roster.Text.CaseFold
import Roster.Text.CaseRun
import Roster.Text.Category
import Roster.Text.CharSet
import Roster.Text.Decimal
import Roster.Text.Lowercase
import Roster.Text.Pieces
import Roster.Text.Property
import Roster.Text.Quoted
import Roster.Text.Script
import Roster.Text.Trait
import Roster.Text.Utf8
import Roster.Tls.Certificate
import Roster.Tls.Curve
import Roster.Tls.Edwards
import Roster.Tls.Element
import Roster.Tls.Material
import Roster.Tls.Modular
import Roster.Tls.Pem
import Roster.Tls.PrivateKey
import Roster.Tls.Rsa
import Roster.Tls.Sha512
import Roster.Token.BigEndian
import Roster.Token.Error
import Roster.Token.Hex
import Roster.Token.Reader
import Roster.Token.Stream
import Roster.Token.Writer
import Roster.Toml
import Roster.Toml.Document
import Roster.Toml.Parser
import Roster.Toml.Scalar
import Roster.Uuid
import Roster.Proofs.Admission.Complaint
import Roster.Proofs.Admission.LineBreak
import Roster.Proofs.Admission.Dialogue
import Roster.Proofs.Startup
import Roster.Proofs.Admission.LineUp
import Roster.Proofs.Admission.Succession
import Roster.Proofs.Registry.Holds
import Roster.Proofs.Admission.Ledger
import Roster.Proofs.Admission.Seat
import Roster.Proofs.Admission.Listing
import Roster.Proofs.Startup.Member
import Roster.Proofs.Admission.Reading
import Roster.Proofs.Admission.Heard
import Roster.Proofs.Startup.Search
import Roster.Proofs.Startup.Restart
import Roster.Proofs.Admission.Obtained
import Roster.Proofs.Admission.Attempt
import Roster.Proofs.Group.Replay
import Roster.Proofs.Admission.History
import Roster.Proofs.Group.Removal
import Roster.Proofs.Startup.Removal
import Roster.Proofs.Admission.Forgery
import Roster.Proofs.Admission.Repeat
import Roster.Proofs.Admission.Framing
import Roster.Proofs.Group.Conversion
import Roster.Proofs.Admission.Report
import Roster.Proofs.Admission.Fetching
import Roster.Proofs.Token.Extent
import Roster.Proofs.Group.Damage
import Roster.Proofs.Token.Grammar
import Roster.Proofs.Group.Declaration
import Roster.Proofs.Admission.Spelling
import Roster.Proofs.Group.Objection
import Roster.Proofs.Admission.Software
import Roster.Proofs.Admission.Relocation
import Roster.Proofs.Admission.Belief
import Roster.Proofs.Channel.Writing
import Roster.Proofs.Net.Dialled
import Roster.Proofs.Subject.Rendering
import Roster.Proofs.Token.Sequence
import Roster.Proofs.Subject.Sign
import Roster.Proofs.Subject.Subidentifier
import Roster.Proofs.Subject.Walk
