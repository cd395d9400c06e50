import StylePrune.Allow.Entry
import StylePrune.Allow.Rule
import StylePrune.Allow.Term
import StylePrune.CommandLine.Arguments
import StylePrune.CommandLine.Directory
import StylePrune.CommandLine.Run
import StylePrune.Css.Component
import StylePrune.Css.Declaration
import StylePrune.Css.Lexer
import StylePrune.Css.Number
import StylePrune.Css.Piece
import StylePrune.Css.Property
import StylePrune.Css.Property.Background
import StylePrune.Css.Property.Border
import StylePrune.Css.Property.Effect
import StylePrune.Css.Property.Layout
import StylePrune.Css.Property.Motion
import StylePrune.Css.Property.Name
import StylePrune.Css.Property.Text
import StylePrune.Css.Query.Condition
import StylePrune.Css.Query.Container
import StylePrune.Css.Query.Feature
import StylePrune.Css.Query.Supports
import StylePrune.Css.Reader
import StylePrune.Css.Rule
import StylePrune.Css.Rule.Descriptor
import StylePrune.Css.Rule.Import
import StylePrune.Css.Rule.Keyframes
import StylePrune.Css.Rule.Page
import StylePrune.Css.Rule.Reader
import StylePrune.Css.Selector.Basic
import StylePrune.Css.Selector.Reader
import StylePrune.Css.Statement
import StylePrune.Css.Token
import StylePrune.Css.Value.AnimationName
import StylePrune.Css.Value.Basic
import StylePrune.Css.Value.Color
import StylePrune.Css.Value.ColorName
import StylePrune.Css.Value.Family
import StylePrune.Css.Value.Gradient
import StylePrune.Css.Value.Image
import StylePrune.Css.Value.Measure
import StylePrune.Css.Value.Position
import StylePrune.Css.Verbatim
import StylePrune.Html.Adoption
import StylePrune.Html.Builder
import StylePrune.Html.Entity
import StylePrune.Html.Lexer
import StylePrune.Html.Name
import StylePrune.Html.Page
import StylePrune.Html.Recorder
import StylePrune.Html.Reference
import StylePrune.Html.Rule.Body
import StylePrune.Html.Rule.Foreign
import StylePrune.Html.Rule.Head
import StylePrune.Html.Rule.Select
import StylePrune.Html.Rule.Table
import StylePrune.Html.Token
import StylePrune.Inclusion
import StylePrune.Json.Reader
import StylePrune.Json.Value
import StylePrune.Main
import StylePrune.Markup.Catalog
import StylePrune.Markup.NameSet
import StylePrune.Markup.Profile
import StylePrune.Pattern.CharSet
import StylePrune.Pattern.Parser
import StylePrune.Pattern.Property
import StylePrune.Pattern.Regex
import StylePrune.Proofs.Allow.Compile
import StylePrune.Proofs.Allow.Growth
import StylePrune.Proofs.Allow.TermMeaning
import StylePrune.Proofs.Allow.TermReading
import StylePrune.Proofs.AttributeValues
import StylePrune.Proofs.ClassTokens
import StylePrune.Proofs.CombinedPatterns
import StylePrune.Proofs.Css.Carrying
import StylePrune.Proofs.Css.ClosedRule
import StylePrune.Proofs.Css.Condition
import StylePrune.Proofs.Css.Declaration
import StylePrune.Proofs.Css.Declared
import StylePrune.Proofs.Css.Descriptor
import StylePrune.Proofs.Css.Identifier
import StylePrune.Proofs.Css.LayerName
import StylePrune.Proofs.Css.Lexing
import StylePrune.Proofs.Css.Measures
import StylePrune.Proofs.Css.Property.Box
import StylePrune.Proofs.Css.Property.Motion
import StylePrune.Proofs.Css.Property.Text
import StylePrune.Proofs.Css.Statement
import StylePrune.Proofs.Css.Targets
import StylePrune.Proofs.Css.Unescaped
import StylePrune.Proofs.Css.Values
import StylePrune.Proofs.Css.Verbatim
import StylePrune.Proofs.EscapeSpellings
import StylePrune.Proofs.GroupHeaders
import StylePrune.Proofs.Inclusion
import StylePrune.Proofs.Inclusion.Growth
import StylePrune.Proofs.InclusionReading
import StylePrune.Proofs.InertEntries
import StylePrune.Proofs.JoinedSelectors
import StylePrune.Proofs.KeptRules
import StylePrune.Proofs.LeadingClasses
import StylePrune.Proofs.Markup.Building
import StylePrune.Proofs.Markup.Document
import StylePrune.Proofs.Markup.Growth
import StylePrune.Proofs.MatchingBrackets
import StylePrune.Proofs.MentionedNames
import StylePrune.Proofs.MoreAllowed
import StylePrune.Proofs.MoreMarkup
import StylePrune.Proofs.PageOrder
import StylePrune.Proofs.Pattern.Element
import StylePrune.Proofs.Pattern.Local
import StylePrune.Proofs.Pattern.Progress
import StylePrune.Proofs.Pattern.Reading
import StylePrune.Proofs.Pattern.Search
import StylePrune.Proofs.Pattern.Span
import StylePrune.Proofs.Pattern.Wrapping
import StylePrune.Proofs.Pruning
import StylePrune.Proofs.Recording
import StylePrune.Proofs.Relocation
import StylePrune.Proofs.Resolution
import StylePrune.Proofs.SearchTerms
import StylePrune.Proofs.Selector.Balance
import StylePrune.Proofs.Selector.Canonical
import StylePrune.Proofs.Selector.Closing
import StylePrune.Proofs.Selector.Cursor
import StylePrune.Proofs.Selector.Joining
import StylePrune.Proofs.Selector.Letter
import StylePrune.Proofs.Selector.Matching
import StylePrune.Proofs.Selector.Part
import StylePrune.Proofs.Selector.Passes
import StylePrune.Proofs.Selector.Positions
import StylePrune.Proofs.Selector.Pseudo
import StylePrune.Proofs.Selector.Reading
import StylePrune.Proofs.Selector.RoundTrip
import StylePrune.Proofs.Selector.Spelling
import StylePrune.Proofs.Selector.Tokens
import StylePrune.Proofs.Selector.Value
import StylePrune.Proofs.Selector.Written
import StylePrune.Proofs.Selector.WrittenReading
import StylePrune.Proofs.Shelf.Handling
import StylePrune.Proofs.Shelf.Memory
import StylePrune.Proofs.Text.Blank
import StylePrune.Proofs.Text.Words
import StylePrune.Proofs.Tree.Context
import StylePrune.Proofs.Tree.Leaves
import StylePrune.Proofs.Tree.Rendering
import StylePrune.Proofs.Tree.Shape
import StylePrune.Proofs.TypeSelectors
import StylePrune.Proofs.Url.Location
import StylePrune.Proofs.Url.Reference
import StylePrune.Proofs.UsedRules
import StylePrune.Proofs.WellFormedDescriptors
import StylePrune.Pruning
import StylePrune.Selector.Bracket
import StylePrune.Selector.Descriptor
import StylePrune.Selector.Name
import StylePrune.Sheet
import StylePrune.Shelf
import StylePrune.Text.Blank
import StylePrune.Text.CaseFold
import StylePrune.Text.Category
import StylePrune.Text.Occurrence
import StylePrune.Text.Ranges
import StylePrune.Text.Scalar
import StylePrune.Text.Script
import StylePrune.Tree.Node
import StylePrune.Tree.Rendering
import StylePrune.Tree.Stylesheet
import StylePrune.Url.Reference
