import InitializerJson.Character.Alphabetic
import InitializerJson.Character.Basic
import InitializerJson.Character.DefaultIgnorable
import InitializerJson.Character.GraphemeExtend
import InitializerJson.Character.Numeric
import InitializerJson.Character.Unprintable
import InitializerJson.CommandLine.Command
import InitializerJson.CommandLine.Run
import InitializerJson.Expression.Basic
import InitializerJson.Expression.Cursor
import InitializerJson.Expression.DeclaredType
import InitializerJson.Expression.Reader
import InitializerJson.Expression.Words
import InitializerJson.Extraction.Batch
import InitializerJson.Extraction.FileSystem
import InitializerJson.Extraction.Host
import InitializerJson.Extraction.Lookup
import InitializerJson.Extraction.Options
import InitializerJson.Json.Basic
import InitializerJson.Json.Layout
import InitializerJson.Lexical.Escape
import InitializerJson.Lexical.Gap
import InitializerJson.Lexical.InterpolatedText
import InitializerJson.Lexical.Listing
import InitializerJson.Lexical.Numeral
import InitializerJson.Lexical.Punctuator
import InitializerJson.Lexical.QuotedText
import InitializerJson.Lexical.RawText
import InitializerJson.Lexical.Token
import InitializerJson.Lexical.TokenRun
import InitializerJson.Main
import InitializerJson.Number.Basic
import InitializerJson.Number.Decimal
import InitializerJson.Number.Literal
import InitializerJson.Position
import InitializerJson.Proofs.Character.Classes
import InitializerJson.Proofs.Expression.AngleBrackets
import InitializerJson.Proofs.Expression.ChainReading
import InitializerJson.Proofs.Expression.ListReading
import InitializerJson.Proofs.Expression.LiteralReading
import InitializerJson.Proofs.Expression.PrintedReading
import InitializerJson.Proofs.Expression.PrintedStatement
import InitializerJson.Proofs.Expression.Printing
import InitializerJson.Proofs.Expression.Recovery
import InitializerJson.Proofs.Expression.StoredTexts
import InitializerJson.Proofs.Expression.TypeReading
import InitializerJson.Proofs.Expression.WrittenTokens
import InitializerJson.Proofs.Extraction.BlockLookup
import InitializerJson.Proofs.Extraction.PrintedSource
import InitializerJson.Proofs.Json.Decoding
import InitializerJson.Proofs.Json.Document
import InitializerJson.Proofs.Json.NumberText
import InitializerJson.Proofs.Json.QuotedText
import InitializerJson.Proofs.Lexical.EncodedText
import InitializerJson.Proofs.Lexical.GapText
import InitializerJson.Proofs.Lexical.LiteralExtent
import InitializerJson.Proofs.Lexical.NumeralLexeme
import InitializerJson.Proofs.Lexical.NumeralText
import InitializerJson.Proofs.Lexical.PunctuatorLexeme
import InitializerJson.Proofs.Lexical.Respacing
import InitializerJson.Proofs.Lexical.Spelling
import InitializerJson.Proofs.Lexical.TextLexeme
import InitializerJson.Proofs.Lexical.Tiling
import InitializerJson.Proofs.Lexical.TokenSlices
import InitializerJson.Proofs.Lexical.WordLexeme
import InitializerJson.Proofs.Number.DecimalDigits
import InitializerJson.Proofs.Number.LiteralForm
import InitializerJson.Proofs.Number.LiteralImage
import InitializerJson.Proofs.Number.LiteralValue
import InitializerJson.Proofs.Number.NormalNumeral
import InitializerJson.Proofs.Number.RationalText
import InitializerJson.Proofs.Site.FirstMatch
import InitializerJson.Proofs.Value.BlockShape
import InitializerJson.Proofs.Value.Rendering
import InitializerJson.Proofs.Value.Source
import InitializerJson.Remainder
import InitializerJson.Site
import InitializerJson.Value.Basic
import InitializerJson.Value.Members
import InitializerJson.Value.OfExpression
import InitializerJson.Proofs.Expression.InnerPlaces
import InitializerJson.Proofs.Expression.PartPlaces
import InitializerJson.Proofs.Expression.Nesting
import InitializerJson.Proofs.Site.CreationSites
import InitializerJson.Proofs.Extraction.NestedCreations
import InitializerJson.Proofs.Expression.Groups
import InitializerJson.Proofs.Expression.TypeTokens
import InitializerJson.Proofs.Expression.Segment
import InitializerJson.Proofs.Expression.SegmentReading
import InitializerJson.Proofs.Expression.EntryIsolation
import InitializerJson.Proofs.Number.Canonical
import InitializerJson.Proofs.Expression.LiteralNumbers
import InitializerJson.Proofs.Value.Canonical
import InitializerJson.Proofs.Extraction.CanonicalOutput
import InitializerJson.Proofs.Expression.Unformatted
import InitializerJson.Proofs.Expression.UnformattedReading
import InitializerJson.Proofs.Value.Unformatted
import InitializerJson.Proofs.Site.Unformatted
import InitializerJson.Proofs.Extraction.Formatting
import InitializerJson.Proofs.Expression.Continuation
import InitializerJson.Proofs.Expression.ContinuedReading
import InitializerJson.Proofs.Lexical.SharedTokens
import InitializerJson.Proofs.Extraction.LaterSource
import InitializerJson.Proofs.Expression.Height
import InitializerJson.Proofs.Expression.DepthCounter
import InitializerJson.Proofs.Value.Height
import InitializerJson.Proofs.Value.LevelLimit
import InitializerJson.Proofs.Extraction.BoundedNesting
import InitializerJson.Proofs.Json.Enclosed
import InitializerJson.Proofs.Json.PartTexts
import InitializerJson.Proofs.CommandLine.ReportText
import InitializerJson.Proofs.CommandLine.WrittenArguments
import InitializerJson.Proofs.CommandLine.BatchAgreement
import InitializerJson.Proofs.Value.InsertionOrder
import InitializerJson.Proofs.Value.GroupedPairs
import InitializerJson.Proofs.Json.Scanning
import InitializerJson.Proofs.Value.Layouts
import InitializerJson.Proofs.Lexical.FramedText
import InitializerJson.Proofs.Lexical.OpenPlace
import InitializerJson.Proofs.Lexical.PassedText
import InitializerJson.Proofs.Lexical.InterpolatedLexeme
import InitializerJson.Proofs.Lexical.OpenText
import InitializerJson.Proofs.Lexical.CodeUnits
import InitializerJson.Proofs.Number.Rereading
import InitializerJson.Proofs.Number.CleanedLiteral
import InitializerJson.Proofs.Number.SeparatedText
import InitializerJson.Proofs.Number.CleanedParts
import InitializerJson.Proofs.Number.TidyLiteral
import InitializerJson.Proofs.Number.DoubleScale
import InitializerJson.Proofs.Number.NearestDouble
import InitializerJson.Proofs.Number.BoundedNumber
import InitializerJson.Proofs.Value.HeldNumbers
import InitializerJson.Proofs.Value.BoundedJson
import InitializerJson.Proofs.Extraction.JsonReading
import InitializerJson.Proofs.Expression.NestedBrackets
import InitializerJson.Proofs.Expression.Extent
import InitializerJson.Proofs.Site.CreatedTypes
import InitializerJson.Proofs.Expression.ExtentByRoom
import InitializerJson.Proofs.Expression.WholeReading
import InitializerJson.Proofs.Expression.LiteralTokens
import InitializerJson.Proofs.Expression.SpelledTokens
import InitializerJson.Proofs.Expression.GenericCalls
import InitializerJson.Proofs.Site.Declarators
import InitializerJson.Proofs.Value.UniformBlocks
import InitializerJson.Proofs.Value.ReplacedEntries
import InitializerJson.Proofs.Position.Offset
import InitializerJson.Proofs.Position.Order
import InitializerJson.Proofs.Position.Walk
import InitializerJson.Proofs.Lexical.UnbrokenTexts
import InitializerJson.Proofs.Lexical.ListingLines
import InitializerJson.Proofs.CommandLine.TokenListing
import InitializerJson.Proofs.Site.AssignmentsAmong
import InitializerJson.Proofs.Site.AttributeSections
import InitializerJson.Proofs.Site.DeclaredNames
import InitializerJson.Proofs.Site.OpenBrackets
import InitializerJson.Proofs.Extraction.WrittenFile
import InitializerJson.Proofs.CommandLine.OutputOption
import InitializerJson.Proofs.CommandLine.SavedOutput
