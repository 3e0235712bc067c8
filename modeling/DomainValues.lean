import DomainValues.Adapter
import DomainValues.Code.Evaluation
import DomainValues.Code.Syntax
import DomainValues.Code.Tokens
import DomainValues.Code.Vocabulary
import DomainValues.Collision
import DomainValues.Configuration
import DomainValues.Constraint
import DomainValues.Declaration
import DomainValues.Diagnostic
import DomainValues.Directive
import DomainValues.Generation
import DomainValues.Implementation
import DomainValues.Installation
import DomainValues.Json.Reader
import DomainValues.Json.Value
import DomainValues.Kind
import DomainValues.Log
import DomainValues.Module.Item
import DomainValues.Module.Reader
import DomainValues.Module.Site
import DomainValues.Number.Binary64
import DomainValues.Number.Shortest
import DomainValues.Number.Text
import DomainValues.Options
import DomainValues.Pattern
import DomainValues.Pattern.Expr
import DomainValues.Pattern.Fault
import DomainValues.Pattern.Match
import DomainValues.Pattern.Reader
import DomainValues.Pattern.Syntax
import DomainValues.Registration
import DomainValues.Registry
import DomainValues.Scalar
import DomainValues.Serialization
import DomainValues.Source.Attribute
import DomainValues.Source.Literal
import DomainValues.Source.Grammar
import DomainValues.Source.Lexer
import DomainValues.Source.LiteralValue
import DomainValues.Source.Token
import DomainValues.Source.Rule
import DomainValues.Source.SyntaxError
import DomainValues.Source.Visibility
import DomainValues.Text.Quoted
import DomainValues.Unicode.Age
import DomainValues.Unicode.BinaryProperty
import DomainValues.Unicode.CaseFold
import DomainValues.Unicode.CharSet
import DomainValues.Unicode.GeneralCategory
import DomainValues.Unicode.Property
import DomainValues.Unicode.Script
import DomainValues.Unicode.ScriptExtension
import DomainValues.Unicode.Segmentation
import DomainValues.Uuid
import DomainValues.Value
import DomainValues.Proofs.Discovery
import DomainValues.Proofs.Collisions
import DomainValues.Proofs.Generation
import DomainValues.Proofs.Completeness
import DomainValues.Proofs.Names
import DomainValues.Proofs.Reachability
import DomainValues.Proofs.RealOrder
import DomainValues.Proofs.Validation
import DomainValues.Proofs.Construction
import DomainValues.Proofs.NumberText
import DomainValues.Proofs.RoundTrip
import DomainValues.Proofs.Cancellation
import DomainValues.Proofs.Rewriting
import DomainValues.Proofs.Accounting
import DomainValues.Proofs.Registering
import DomainValues.Proofs.Documents
import DomainValues.Proofs.ByteOrder
import DomainValues.Proofs.Installing
import DomainValues.Proofs.DirectivePositions
import DomainValues.Proofs.Outlines
import DomainValues.Proofs.ProductPositions
import DomainValues.Proofs.Reordering
import DomainValues.Proofs.Numerals
import DomainValues.Proofs.ArgumentGrammar
import DomainValues.Proofs.Binding
import DomainValues.Proofs.Rounding
import DomainValues.Proofs.Configuring
import DomainValues.Proofs.ReadBack
import DomainValues.Proofs.Sources
import DomainValues.Proofs.Rediscovery
import DomainValues.Proofs.Redirecting
import DomainValues.Proofs.Counterparts
import DomainValues.Proofs.Stopping
import DomainValues.Proofs.Noninterference
import DomainValues.Proofs.CollisionReports
import DomainValues.Proofs.Addresses
import DomainValues.Proofs.Acceptance
import DomainValues.Proofs.QuotedText
import DomainValues.Proofs.NumberLiterals
import DomainValues.Proofs.CodeParts
import DomainValues.Proofs.Embedding
import DomainValues.Proofs.RealWords
import DomainValues.Proofs.TextOrder
import DomainValues.Proofs.NumberGrammar
import DomainValues.Proofs.Parsing
import DomainValues.Proofs.IntegerText
import DomainValues.Proofs.ScalarDocuments
import DomainValues.Proofs.Decoding
import DomainValues.Proofs.CanonicalScalars
import DomainValues.Proofs.PartialInstallation
import DomainValues.Proofs.Expanding
import DomainValues.Proofs.Scoping
import DomainValues.Proofs.References
import DomainValues.Proofs.Conditions
import DomainValues.Proofs.SourceOrder
import DomainValues.Proofs.Taking
import DomainValues.Proofs.ItemPlaces
import DomainValues.Proofs.Spans
import DomainValues.Proofs.ErrorPlaces
import DomainValues.Proofs.ReportPlaces
import DomainValues.Proofs.BoundArithmetic
import DomainValues.Proofs.ModuleDirectives
import DomainValues.Proofs.CodeBodies
import DomainValues.Proofs.GeneratedCode
