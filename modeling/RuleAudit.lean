import RuleAudit.Arguments
import RuleAudit.Audit
import RuleAudit.Backend
import RuleAudit.Checker
import RuleAudit.Client
import RuleAudit.Config
import RuleAudit.Decimal.Binary64
import RuleAudit.Decimal.Shortest
import RuleAudit.Envelope
import RuleAudit.Error
import RuleAudit.FileTree
import RuleAudit.Http
import RuleAudit.Instances
import RuleAudit.Instant
import RuleAudit.Json.Decode
import RuleAudit.Json.Number
import RuleAudit.Json.Printer
import RuleAudit.Json.Token
import RuleAudit.Json.Tree
import RuleAudit.Json.Value
import RuleAudit.Listing
import RuleAudit.Log
import RuleAudit.Lookup
import RuleAudit.Main
import RuleAudit.Numeral
import RuleAudit.Program
import RuleAudit.Proofs.Envelope
import RuleAudit.Proofs.Deeds
import RuleAudit.Proofs.Exit
import RuleAudit.Proofs.Query.Computing
import RuleAudit.Proofs.Query.Selection
import RuleAudit.Proofs.Run.Alike
import RuleAudit.Proofs.Run.Balance
import RuleAudit.Proofs.Run.Beside
import RuleAudit.Proofs.Run.Chronicle
import RuleAudit.Proofs.Run.Failure
import RuleAudit.Proofs.Run.Memo
import RuleAudit.Proofs.Run.Naive
import RuleAudit.Proofs.Run.Order
import RuleAudit.Proofs.Run.Session
import RuleAudit.Proofs.Run.Split
import RuleAudit.Proofs.Run.Watch
import RuleAudit.Proofs.Run.Wire
import RuleAudit.Proofs.Source
import RuleAudit.Proofs.Text.Cutting
import RuleAudit.Proofs.Text.Numeral
import RuleAudit.Proofs.Text.Percent
import RuleAudit.Proofs.Text.Utf8
import RuleAudit.Proofs.Token
import RuleAudit.Proofs.Url.Host
import RuleAudit.Query.Expr
import RuleAudit.Query.Function
import RuleAudit.Query.Lexer
import RuleAudit.Query.Literal
import RuleAudit.Query.Meaning
import RuleAudit.Query.Pattern
import RuleAudit.Query.Phrase
import RuleAudit.Query.Property
import RuleAudit.Query.Token
import RuleAudit.Report
import RuleAudit.RuleFile
import RuleAudit.RunId
import RuleAudit.Source
import RuleAudit.Text.Base64
import RuleAudit.Text.Basic
import RuleAudit.Text.Blank
import RuleAudit.Text.Extender
import RuleAudit.Text.Form
import RuleAudit.Text.Percent
import RuleAudit.Text.Printable
import RuleAudit.Text.Quoted
import RuleAudit.Text.Utf8
import RuleAudit.Url.Basic
import RuleAudit.Url.Host
import RuleAudit.Verdicts
import RuleAudit.Yaml.Decode
import RuleAudit.Yaml.Lexer
import RuleAudit.Yaml.Mark
import RuleAudit.Yaml.Node
import RuleAudit.Yaml.Scalar
import RuleAudit.Yaml.Token
import RuleAudit.Proofs.Url.Origin
import RuleAudit.Proofs.Run.Lookups
import RuleAudit.Proofs.Traffic
import RuleAudit.Proofs.Url.Path
import RuleAudit.Proofs.Joining
import RuleAudit.Proofs.Fields
import RuleAudit.Proofs.Reply
import RuleAudit.Proofs.Yaml.View
import RuleAudit.Proofs.Listed
import RuleAudit.Proofs.Run.Lines
import RuleAudit.Proofs.Json.Record
import RuleAudit.Proofs.Json.Names
import RuleAudit.Proofs.Listing.Shape
import RuleAudit.Proofs.Listing.Variant
import RuleAudit.Proofs.Settings
import RuleAudit.Proofs.Lookup
import RuleAudit.Proofs.Text.Form
import RuleAudit.Proofs.Parameters
import RuleAudit.Proofs.Listing.Places
import RuleAudit.Proofs.Query.Spelling
import RuleAudit.Proofs.Query.Naming
import RuleAudit.Proofs.Query.Metrics
import RuleAudit.Proofs.Timeout
import RuleAudit.Proofs.Fatal
import RuleAudit.Proofs.Files
import RuleAudit.Proofs.Json.Printed
import RuleAudit.Proofs.Json.Recovered
import RuleAudit.Proofs.Calendar
import RuleAudit.Proofs.Timestamp
import RuleAudit.Proofs.RunId
import RuleAudit.Proofs.Summary
import RuleAudit.Proofs.Text.Quoted
import RuleAudit.Proofs.Finding
import RuleAudit.Proofs.Arguments
import RuleAudit.Proofs.Text.Order
import RuleAudit.Proofs.Clock
