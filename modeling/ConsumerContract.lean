import ConsumerContract.Compile
import ConsumerContract.Compile.Outcome
import ConsumerContract.Config
import ConsumerContract.ConfigFile
import ConsumerContract.Contract
import ConsumerContract.Decimal.Binary64
import ConsumerContract.Decimal.Layout
import ConsumerContract.Decimal.Shortest
import ConsumerContract.Fault
import ConsumerContract.Interaction.Basic
import ConsumerContract.Interaction.Declared
import ConsumerContract.Interaction.Message
import ConsumerContract.Json.Basic
import ConsumerContract.Json.Draft
import ConsumerContract.Json.Number
import ConsumerContract.Json.Parser
import ConsumerContract.Json.Printer
import ConsumerContract.KeyMap
import ConsumerContract.Options
import ConsumerContract.Pattern.Escape
import ConsumerContract.Pattern.Match
import ConsumerContract.Pattern.Meaning
import ConsumerContract.Pattern.Property
import ConsumerContract.Pattern.Reader
import ConsumerContract.Pattern.Script
import ConsumerContract.Pattern.Size
import ConsumerContract.Pattern.Syntax
import ConsumerContract.Preset
import ConsumerContract.Record.Misfit
import ConsumerContract.Record.Reader
import ConsumerContract.Rule.Basic
import ConsumerContract.Rule.Document
import ConsumerContract.Selector
import ConsumerContract.Selector.Steps
import ConsumerContract.Text.Blank
import ConsumerContract.Text.CaseFold
import ConsumerContract.Text.CaseTable
import ConsumerContract.Text.Category
import ConsumerContract.Text.CharSet
import ConsumerContract.Text.Ipv6
import ConsumerContract.Text.Letter
import ConsumerContract.Text.Quoted
import ConsumerContract.Text.Uppercase
import ConsumerContract.Tree.Basic
import ConsumerContract.Tree.Decode
import ConsumerContract.Tree.Encode
import ConsumerContract.Tree.Expansion
import ConsumerContract.Tree.Visit
import ConsumerContract.Yaml.Block
import ConsumerContract.Yaml.Cursor
import ConsumerContract.Yaml.Flow
import ConsumerContract.Yaml.Lexer
import ConsumerContract.Yaml.Node
import ConsumerContract.Yaml.Property
import ConsumerContract.Yaml.Record
import ConsumerContract.Yaml.Token
import ConsumerContract.Yaml.Value
import ConsumerContract.Proofs.Tree.Canonical
import ConsumerContract.Proofs.Tree.Stands
import ConsumerContract.Proofs.Tree.Order
import ConsumerContract.Proofs.Selector.Segments
import ConsumerContract.Proofs.Compile.Refusal
import ConsumerContract.Proofs.Compile.Collision
import ConsumerContract.Proofs.Json.Follow
import ConsumerContract.Proofs.Compile.Reached
import ConsumerContract.Proofs.Tree.Members
import ConsumerContract.Proofs.Tree.RoundTrip
import ConsumerContract.Tree.Check
import ConsumerContract.Tree.Context
import ConsumerContract.Proofs.Tree.Acceptance
import ConsumerContract.Proofs.Tree.CheckOrder
import ConsumerContract.Proofs.Compile.Replication
import ConsumerContract.Proofs.Compile.Editing
import ConsumerContract.Proofs.Compile.SharedPlace
import ConsumerContract.Proofs.Tree.Filling
import ConsumerContract.Proofs.Interaction.Assembly
import ConsumerContract.Proofs.Json.Drafting
import ConsumerContract.Proofs.Record.Members
import ConsumerContract.Proofs.Record.Restoring
import ConsumerContract.Proofs.Tree.Declaration
import ConsumerContract.Proofs.Tree.Descriptor
import ConsumerContract.Proofs.Contract.Document
import ConsumerContract.Proofs.Json.Numeral
import ConsumerContract.Proofs.Json.Reread
import ConsumerContract.Proofs.Contract.Reload
import ConsumerContract.Proofs.Contract.Run
import ConsumerContract.Proofs.Json.Exact
import ConsumerContract.Proofs.Tree.Expanded
import ConsumerContract.Proofs.Contract.Assembled
import ConsumerContract.Proofs.Compile.Placement
import ConsumerContract.Proofs.Compile.FixedPoint
import ConsumerContract.Proofs.Compile.Growth
import ConsumerContract.Proofs.Interaction.Building
import ConsumerContract.Proofs.Interaction.TextBody
import ConsumerContract.Proofs.Pattern.Language
import ConsumerContract.Proofs.Pattern.Reading
import ConsumerContract.Proofs.Preset.Ipv6Pattern
import ConsumerContract.Proofs.Preset.Ipv6Address
