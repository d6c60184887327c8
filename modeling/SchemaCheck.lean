import SchemaCheck.Calendar.Date
import SchemaCheck.Calendar.Internet
import SchemaCheck.Calendar.Layout
import SchemaCheck.Calendar.Mail
import SchemaCheck.Calendar.Time
import SchemaCheck.Command.Arguments
import SchemaCheck.Command.Configuration
import SchemaCheck.Command.Effect
import SchemaCheck.Command.Error
import SchemaCheck.Command.Program
import SchemaCheck.Command.Sample
import SchemaCheck.Command.Validate
import SchemaCheck.Decimal.Binary64
import SchemaCheck.Decimal.Layout
import SchemaCheck.Decimal.Rounding
import SchemaCheck.Decimal.Scaling
import SchemaCheck.Decimal.Shortest
import SchemaCheck.Event
import SchemaCheck.Files.Name
import SchemaCheck.Files.Tree
import SchemaCheck.Format.Basic
import SchemaCheck.Format.DateTime
import SchemaCheck.Format.Email
import SchemaCheck.Input.Error
import SchemaCheck.Input.File
import SchemaCheck.Input.Text
import SchemaCheck.Json.Number
import SchemaCheck.Json.Parser
import SchemaCheck.Json.Printer
import SchemaCheck.Json.Value
import SchemaCheck.Main
import SchemaCheck.Path
import SchemaCheck.Pattern.Basic
import SchemaCheck.Pattern.Escape
import SchemaCheck.Pattern.Matcher
import SchemaCheck.Pattern.Parser
import SchemaCheck.Pattern.Tree
import SchemaCheck.Report.Decoder
import SchemaCheck.Report.Issue
import SchemaCheck.Report.Rendering
import SchemaCheck.Schema.Basic
import SchemaCheck.Schema.Equality
import SchemaCheck.Schema.Keyword
import SchemaCheck.Schema.Kind
import SchemaCheck.Schema.Printer
import SchemaCheck.Schema.Reader
import SchemaCheck.Schema.Shape
import SchemaCheck.Text.Blank
import SchemaCheck.Text.Canonical.Class
import SchemaCheck.Text.Canonical.Composition
import SchemaCheck.Text.Canonical.Form
import SchemaCheck.Text.CodeMap
import SchemaCheck.Text.CodePoints
import SchemaCheck.Text.Direction
import SchemaCheck.Text.Folding
import SchemaCheck.Text.Identifier
import SchemaCheck.Text.Joining
import SchemaCheck.Text.LetterCase
import SchemaCheck.Text.Quoted
import SchemaCheck.Text.Unprintable
import SchemaCheck.Text.Utf16
import SchemaCheck.Uri.Basic
import SchemaCheck.Uri.DomainName
import SchemaCheck.Uri.Host
import SchemaCheck.Uri.Ipv4
import SchemaCheck.Uri.Ipv6
import SchemaCheck.Uri.Punycode
import SchemaCheck.Validation.Literal
import SchemaCheck.Validation.Local
import SchemaCheck.Validation.Options
import SchemaCheck.Validation.Outcome
import SchemaCheck.Validation.Validator
import SchemaCheck.Validation.Violation
import SchemaCheck.Validation.Walk
import SchemaCheck.Yaml.Content
import SchemaCheck.Yaml.Conversion
import SchemaCheck.Yaml.Cursor
import SchemaCheck.Yaml.Direct
import SchemaCheck.Yaml.Grammar
import SchemaCheck.Yaml.Lexer
import SchemaCheck.Yaml.Node
import SchemaCheck.Yaml.Number
import SchemaCheck.Yaml.Record
import SchemaCheck.Yaml.Resolution
import SchemaCheck.Yaml.Scalar.Block
import SchemaCheck.Yaml.Scalar.Gap
import SchemaCheck.Yaml.Scalar.Plain
import SchemaCheck.Yaml.Scalar.Quoted
import SchemaCheck.Yaml.Tag
import SchemaCheck.Yaml.Token
import SchemaCheck.Yaml.Tree
import SchemaCheck.Proofs.Decimal.Integral
import SchemaCheck.Proofs.Schema.Tree
import SchemaCheck.Proofs.Positions
import SchemaCheck.Proofs.Validation.Node
import SchemaCheck.Proofs.Validation.Children
import SchemaCheck.Proofs.Validation.Quiet
import SchemaCheck.Proofs.Validation.Conformance
import SchemaCheck.Proofs.Validation.Reach
import SchemaCheck.Proofs.Validation.Fault
import SchemaCheck.Proofs.Validation.Keywords
import SchemaCheck.Proofs.Validation.Messages
import SchemaCheck.Proofs.Validation.Trace
import SchemaCheck.Proofs.Validation.Exhaustive
import SchemaCheck.Proofs.Validation.Truncation
import SchemaCheck.Proofs.Validation.DepthGuard
import SchemaCheck.Proofs.Validation.Relocation
import SchemaCheck.Proofs.Validation.Combinators
import SchemaCheck.Proofs.Validation.Replacement
import SchemaCheck.Proofs.Json.Address
import SchemaCheck.Proofs.Validation.Pointing
import SchemaCheck.Proofs.Json.Members
import SchemaCheck.Proofs.Json.Tree
import SchemaCheck.Proofs.Schema.Reading
import SchemaCheck.Proofs.Schema.Writing
import SchemaCheck.Proofs.Schema.RoundTrip
import SchemaCheck.Proofs.Schema.Bare
import SchemaCheck.Proofs.Schema.Cleaning
import SchemaCheck.Proofs.Validation.Comparison
import SchemaCheck.Proofs.Validation.MemberOrder
import SchemaCheck.Proofs.Validation.BranchOrder
import SchemaCheck.Proofs.Decimal.Value
import SchemaCheck.Proofs.Json.Equality
import SchemaCheck.Proofs.Schema.Equality
import SchemaCheck.Proofs.Validation.SchemaEquality
import SchemaCheck.Proofs.Schema.MemberOrder
import SchemaCheck.Proofs.Schema.Partition
import SchemaCheck.Proofs.Command.Configuration
import SchemaCheck.Proofs.Command.Validate
import SchemaCheck.Proofs.Decimal.Nearest
import SchemaCheck.Proofs.Validation.Literals
import SchemaCheck.Proofs.Validation.Numbers
import SchemaCheck.Proofs.Failure
import SchemaCheck.Proofs.Yaml.Tree
import SchemaCheck.Proofs.Yaml.Offenders
import SchemaCheck.Proofs.Yaml.Mirroring
import SchemaCheck.Proofs.Decimal.Interval
import SchemaCheck.Proofs.Decimal.Shortest
import SchemaCheck.Proofs.Decimal.Fewest
import SchemaCheck.Proofs.Decimal.Scaling
import SchemaCheck.Proofs.Json.Numeral
import SchemaCheck.Proofs.Json.Texts
import SchemaCheck.Proofs.Json.RoundTrip
import SchemaCheck.Proofs.Json.Scaled
import SchemaCheck.Proofs.Validation.Events
import SchemaCheck.Proofs.Validation.LiteralText
import SchemaCheck.Proofs.Validation.NumberText
import SchemaCheck.Proofs.Validation.Quoting
import SchemaCheck.Proofs.Report.Decoding
import SchemaCheck.Proofs.Report.Lines
import SchemaCheck.Proofs.Validation.Bounds
import SchemaCheck.Proofs.Format.Email
import SchemaCheck.Proofs.Path.Decoding
import SchemaCheck.Proofs.Schema.Malformed
import SchemaCheck.Proofs.Schema.DocumentOrder
import SchemaCheck.Proofs.Schema.SetAside
import SchemaCheck.Proofs.Command.Announcements
