import ObservableGen.Access
import ObservableGen.Callback
import ObservableGen.Command
import ObservableGen.Compilation.Attribute
import ObservableGen.Compilation.Candidate
import ObservableGen.Compilation.DeclaredType
import ObservableGen.Compilation.Hierarchy
import ObservableGen.Compilation.Host
import ObservableGen.Compilation.Table
import ObservableGen.Compilation.TypeName
import ObservableGen.Compilation.Walk
import ObservableGen.Digest.XXH3
import ObservableGen.Eligibility
import ObservableGen.Failure
import ObservableGen.FirstSeen
import ObservableGen.Identifier
import ObservableGen.Json.Number
import ObservableGen.Json.StringMap
import ObservableGen.Json.Text
import ObservableGen.Localization
import ObservableGen.Marker
import ObservableGen.MemberAttributes
import ObservableGen.Naming
import ObservableGen.Notice
import ObservableGen.NotifyArguments
import ObservableGen.Output
import ObservableGen.Pass
import ObservableGen.Polling
import ObservableGen.Proofs.Registration
import ObservableGen.Property
import ObservableGen.Settings
import ObservableGen.Source.CommandManager
import ObservableGen.Source.Instruction
import ObservableGen.Source.Literal
import ObservableGen.Source.MarkerUnits
import ObservableGen.Source.PropertySource
import ObservableGen.Source.PropertyWriter
import ObservableGen.Source.Sheet
import ObservableGen.Source.Template
import ObservableGen.Source.TokenCache
import ObservableGen.Source.TypeUnit
import ObservableGen.Source.Unit
import ObservableGen.Source.Validation
import ObservableGen.Source.Writer
import ObservableGen.Text.Alphabetic
import ObservableGen.Text.Blank
import ObservableGen.Text.LetterCase
import ObservableGen.Text.Lines
import ObservableGen.Text.Segment
import ObservableGen.Toml.Document
import ObservableGen.Toml.Scalar
import ObservableGen.Toml.Text
import ObservableGen.Toml.Value
import ObservableGen.Proofs.Call
import ObservableGen.Proofs.Layout
import ObservableGen.Proofs.Entries
import ObservableGen.Proofs.Settlement
import ObservableGen.Proofs.Plan
import ObservableGen.Proofs.Notification
import ObservableGen.Proofs.Structure
import ObservableGen.Proofs.Agreement
import ObservableGen.Proofs.Accepted
import ObservableGen.Proofs.Setter
import ObservableGen.Proofs.Declaration
import ObservableGen.Proofs.Files
import ObservableGen.Proofs.Scope
import ObservableGen.Proofs.Hint
import ObservableGen.Proofs.Quotation
import ObservableGen.Proofs.Exclusion
import ObservableGen.Proofs.Clash
import ObservableGen.Proofs.Independence
import ObservableGen.Proofs.Identity
import ObservableGen.Proofs.Reachability
import ObservableGen.Proofs.Extension
import ObservableGen.Proofs.Noise
import ObservableGen.Proofs.Overload
import ObservableGen.Proofs.Wrapping
import ObservableGen.Proofs.Writing
import ObservableGen.Proofs.Sheet
import ObservableGen.Proofs.Assignment
import ObservableGen.Proofs.TokenName
import ObservableGen.Proofs.Raised
import ObservableGen.Proofs.Localized
import ObservableGen.Proofs.Markup
import ObservableGen.Proofs.Arguments
import ObservableGen.Proofs.Requery
import ObservableGen.Proofs.Cancellation
import ObservableGen.Proofs.Framing
import ObservableGen.Proofs.Indentation
import ObservableGen.Proofs.Banner
import ObservableGen.Proofs.BaseSpelling
import ObservableGen.Proofs.Strokes
import ObservableGen.Proofs.Page
