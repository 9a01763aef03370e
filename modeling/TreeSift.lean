import TreeSift.Charset.Chinese
import TreeSift.Charset.Decode
import TreeSift.Charset.Decoder
import TreeSift.Charset.Encoding
import TreeSift.Charset.Japanese
import TreeSift.Charset.Korean
import TreeSift.Charset.Lossy
import TreeSift.Charset.SingleByte
import TreeSift.Charset.Step
import TreeSift.CommandLine.Arguments
import TreeSift.CommandLine.Execute
import TreeSift.CommandLine.Run
import TreeSift.Content.Document
import TreeSift.Content.Node
import TreeSift.Content.Tree
import TreeSift.Content.Walk
import TreeSift.Expr.Basic
import TreeSift.Expr.Parse
import TreeSift.Expr.Simplify
import TreeSift.Expr.Token
import TreeSift.Filter.Basic
import TreeSift.Filter.Context
import TreeSift.Filter.Error
import TreeSift.Filter.Predicate
import TreeSift.Filter.Registry
import TreeSift.Filter.Standard
import TreeSift.Filter.Stream
import TreeSift.Json.Basic
import TreeSift.Json.Number
import TreeSift.Json.Read
import TreeSift.Main
import TreeSift.Number.Binary64
import TreeSift.Number.Layout
import TreeSift.Number.Range
import TreeSift.Number.Read
import TreeSift.Number.Shortest
import TreeSift.Pattern.Basic
import TreeSift.Pattern.Bracket
import TreeSift.Pattern.Escape
import TreeSift.Pattern.Flags
import TreeSift.Pattern.Match
import TreeSift.Pattern.Size
import TreeSift.Pattern.Syntax
import TreeSift.Proofs.Charset.Decode
import TreeSift.Proofs.Charset.Decoder
import TreeSift.Proofs.Charset.Following
import TreeSift.Proofs.Charset.Legacy
import TreeSift.Proofs.Charset.Malformed
import TreeSift.Proofs.Charset.Surrogate
import TreeSift.Proofs.Charset.Unicode
import TreeSift.Proofs.CommandLine.Output
import TreeSift.Proofs.Content.Load
import TreeSift.Proofs.Content.Lookup
import TreeSift.Proofs.Content.Mount
import TreeSift.Proofs.Content.Path
import TreeSift.Proofs.Content.Relative
import TreeSift.Proofs.Content.Select
import TreeSift.Proofs.Content.Visit
import TreeSift.Proofs.Content.Walk
import TreeSift.Proofs.Expr.Blanks
import TreeSift.Proofs.Expr.Complete
import TreeSift.Proofs.Expr.Compose
import TreeSift.Proofs.Expr.DateToken
import TreeSift.Proofs.Expr.Derivation
import TreeSift.Proofs.Expr.ErrorPosition
import TreeSift.Proofs.Expr.Flat
import TreeSift.Proofs.Expr.Grammar
import TreeSift.Proofs.Expr.Grouping
import TreeSift.Proofs.Expr.Lexing
import TreeSift.Proofs.Expr.Local
import TreeSift.Proofs.Expr.LongestNumber
import TreeSift.Proofs.Expr.NormalForm
import TreeSift.Proofs.Expr.NumberToken
import TreeSift.Proofs.Expr.Origin
import TreeSift.Proofs.Expr.Padding
import TreeSift.Proofs.Expr.Parts
import TreeSift.Proofs.Expr.Position
import TreeSift.Proofs.Expr.Reading
import TreeSift.Proofs.Expr.Regular
import TreeSift.Proofs.Expr.Relocation
import TreeSift.Proofs.Expr.RoundTrip
import TreeSift.Proofs.Expr.Sound
import TreeSift.Proofs.Expr.Spelling
import TreeSift.Proofs.Expr.StringToken
import TreeSift.Proofs.Expr.Unambiguous
import TreeSift.Proofs.Expr.Writable
import TreeSift.Proofs.Filter.Adjustment
import TreeSift.Proofs.Filter.Binding
import TreeSift.Proofs.Filter.Compile
import TreeSift.Proofs.Filter.Constant
import TreeSift.Proofs.Filter.Duality
import TreeSift.Proofs.Filter.Evaluate
import TreeSift.Proofs.Filter.Fault
import TreeSift.Proofs.Filter.Footprint
import TreeSift.Proofs.Filter.Like
import TreeSift.Proofs.Filter.Logged
import TreeSift.Proofs.Filter.Membership
import TreeSift.Proofs.Filter.Nothing
import TreeSift.Proofs.Filter.Order
import TreeSift.Proofs.Filter.Question
import TreeSift.Proofs.Filter.Simplify
import TreeSift.Proofs.Filter.Stream
import TreeSift.Proofs.Json.Keys
import TreeSift.Proofs.Number.Digits
import TreeSift.Proofs.Number.Rounding
import TreeSift.Proofs.Pattern.Bracket
import TreeSift.Proofs.Pattern.Escape
import TreeSift.Proofs.Pattern.Match
import TreeSift.Proofs.Pattern.Part
import TreeSift.Proofs.Pattern.Run
import TreeSift.Proofs.Pattern.Suffix
import TreeSift.Proofs.Pattern.Whole
import TreeSift.Proofs.Query.Agreement
import TreeSift.Proofs.Query.Parameter
import TreeSift.Proofs.Text.Split
import TreeSift.Proofs.Time.Calendar
import TreeSift.Proofs.Time.Component
import TreeSift.Proofs.Time.Described
import TreeSift.Proofs.Time.Display
import TreeSift.Proofs.Time.Literal
import TreeSift.Proofs.Time.Reading
import TreeSift.Proofs.Time.Sound
import TreeSift.Proofs.Time.Spellings
import TreeSift.Proofs.Value.Number
import TreeSift.Proofs.Value.Order
import TreeSift.Query.Basic
import TreeSift.Query.Document
import TreeSift.Query.Parameter
import TreeSift.Settings.Basic
import TreeSift.Settings.Format
import TreeSift.Settings.Ini
import TreeSift.Settings.Json5
import TreeSift.Settings.KeyPath
import TreeSift.Settings.Ron
import TreeSift.Settings.Toml
import TreeSift.Settings.TomlDate
import TreeSift.Settings.Yaml
import TreeSift.Text.CharClass
import TreeSift.Text.CharSet
import TreeSift.Text.FileName
import TreeSift.Text.Quoted
import TreeSift.Time.Calendar
import TreeSift.Time.Component
import TreeSift.Time.Description
import TreeSift.Time.Moment
import TreeSift.Time.Reading
import TreeSift.Unicode.Age
import TreeSift.Unicode.BinaryProperty
import TreeSift.Unicode.BreakClass
import TreeSift.Unicode.CaseFolding
import TreeSift.Unicode.GeneralCategory
import TreeSift.Unicode.Property
import TreeSift.Unicode.Script
import TreeSift.Unicode.ScriptExtensions
import TreeSift.Value.Basic
import TreeSift.Value.Order
import TreeSift.Value.Text
import TreeSift.Yaml.Content
import TreeSift.Yaml.Node
import TreeSift.Yaml.Place
import TreeSift.Yaml.Scalar
import TreeSift.Yaml.Token
