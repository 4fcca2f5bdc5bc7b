import Rulebook.Command.Arguments
import Rulebook.Command.Folder
import Rulebook.Command.Run
import Rulebook.Error
import Rulebook.Json.Basic
import Rulebook.Json.Flatten
import Rulebook.Json.Members
import Rulebook.Json.Path
import Rulebook.Json.Reader
import Rulebook.Json.Writer
import Rulebook.Main
import Rulebook.Number.Binary64
import Rulebook.Number.Literal
import Rulebook.Number.Order
import Rulebook.Number.Power
import Rulebook.Number.Rounding
import Rulebook.Number.Shortest
import Rulebook.Pattern.Basic
import Rulebook.Pattern.CharSet
import Rulebook.Pattern.Expr
import Rulebook.Pattern.Named
import Rulebook.Pattern.Reader
import Rulebook.Pattern.Size
import Rulebook.Proofs.Outcome
import Rulebook.Proofs.Resolution.Request
import Rulebook.Proofs.Resolution.Uncached
import Rulebook.Reference.Chain
import Rulebook.Reference.Display
import Rulebook.Reference.External
import Rulebook.Reference.Inlining
import Rulebook.Reference.Pointer
import Rulebook.Resolution.Cache
import Rulebook.Resolution.Resolver
import Rulebook.Resolution.Session
import Rulebook.Rule.Basic
import Rulebook.Rule.Coercion
import Rulebook.Rule.Encoding
import Rulebook.Rule.Formats
import Rulebook.Rule.Mapping
import Rulebook.Rule.Table
import Rulebook.Schema.Scalar
import Rulebook.Schema.Shape
import Rulebook.Text.Blank
import Rulebook.Text.Composed
import Rulebook.Text.Percent
import Rulebook.Translation.Descent
import Rulebook.Translation.Walk
import Rulebook.Unicode.Category
import Rulebook.Unicode.Composition
import Rulebook.Unicode.Folding
import Rulebook.Unicode.Mapping
import Rulebook.Unicode.Packed
import Rulebook.Unicode.Property
import Rulebook.Unicode.Script
import Rulebook.Unicode.ScriptExtension
import Rulebook.Url.Address
import Rulebook.Url.Basic
import Rulebook.Url.Domain
import Rulebook.Url.Form
import Rulebook.Url.Punycode
import Rulebook.Url.Reader
import Rulebook.Validation.Draft
import Rulebook.Validation.Equality
import Rulebook.Validation.Evaluation
import Rulebook.Validation.Fault
import Rulebook.Validation.Identifier
import Rulebook.Validation.Keyword
import Rulebook.Validation.Metaschema.Four
import Rulebook.Validation.Metaschema.Seven
import Rulebook.Validation.Metaschema.Shorthand
import Rulebook.Validation.Metaschema.Six
import Rulebook.Validation.Metaschema.Y2019
import Rulebook.Validation.Metaschema.Y2020
import Rulebook.Validation.Payload
import Rulebook.Validation.Registry
import Rulebook.Validation.RuleKey
import Rulebook.Validation.TextFormat
import Rulebook.Proofs.Resolution.Transparency
import Rulebook.Proofs.Session.Steps
import Rulebook.Proofs.Session.Transparency
import Rulebook.Proofs.Json.Everywhere
import Rulebook.Proofs.Json.WellFormed
import Rulebook.Proofs.Json.Position
import Rulebook.Proofs.Json.Order
import Rulebook.Proofs.Json.Leaves
import Rulebook.Proofs.Reference.Expansion
import Rulebook.Proofs.Reference.External
import Rulebook.Proofs.Reference.Addressing
import Rulebook.Proofs.Reference.Following
import Rulebook.Proofs.Reference.Inlining
import Rulebook.Proofs.Reference.Live
import Rulebook.Proofs.Reference.Closed
import Rulebook.Proofs.Reference.Chain
import Rulebook.Proofs.Resolution.Invariant
import Rulebook.Proofs.Resolution.Closed
import Rulebook.Proofs.Schema.Shape
import Rulebook.Proofs.Translation.Closed
import Rulebook.Proofs.Session.Closed
import Rulebook.Proofs.Json.Substitution
import Rulebook.Proofs.Resolution.Splicing
import Rulebook.Proofs.Reference.Reordering
import Rulebook.Proofs.Reference.Copying
import Rulebook.Proofs.Schema.Agreement
import Rulebook.Proofs.Rule.Agreement
import Rulebook.Proofs.Translation.Copying
import Rulebook.Proofs.Rule.Table
import Rulebook.Proofs.Resolution.Accounting
import Rulebook.Proofs.Resolution.Cycles
import Rulebook.Proofs.Resolution.Hosting
import Rulebook.Proofs.Translation.Moving
import Rulebook.Proofs.Text.Percent
import Rulebook.Proofs.Reference.Pointer
import Rulebook.Proofs.Validation.RuleKey
import Rulebook.Proofs.Resolution.Repetition
import Rulebook.Proofs.Resolution.Persistence
import Rulebook.Proofs.Session.Persistence
import Rulebook.Proofs.Translation.Dereferencing
import Rulebook.Proofs.Resolution.Display
import Rulebook.Proofs.Translation.Labels
import Rulebook.Proofs.Reference.Independence
import Rulebook.Proofs.Reference.Pursuit
import Rulebook.Proofs.Translation.Course
import Rulebook.Proofs.Translation.Composition
import Rulebook.Proofs.Rule.Fields
import Rulebook.Proofs.Schema.Nesting
import Rulebook.Proofs.Translation.Weakening
import Rulebook.Proofs.Translation.Declarations
import Rulebook.Proofs.Translation.Keys
import Rulebook.Proofs.Translation.Containers
import Rulebook.Proofs.Reference.Unwinding
import Rulebook.Proofs.Translation.Unfolding
import Rulebook.Proofs.Translation.Endings
import Rulebook.Proofs.Translation.Recursion
import Rulebook.Proofs.Pattern.Matching
import Rulebook.Proofs.Pattern.Language
import Rulebook.Proofs.Rule.Addresses
import Rulebook.Proofs.Translation.Decimals
import Rulebook.Proofs.Number.Nearest
import Rulebook.Proofs.Number.Whole
import Rulebook.Proofs.Number.Numeral
import Rulebook.Proofs.Rule.Counts
import Rulebook.Proofs.Rule.Exactness
