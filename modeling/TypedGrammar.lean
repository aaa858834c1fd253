import TypedGrammar.Name.Basic
import TypedGrammar.Name.Spelling
import TypedGrammar.Name.Fresh
import TypedGrammar.Grammar.Basic
import TypedGrammar.Grammar.Printer
import TypedGrammar.Source.Lexer
import TypedGrammar.Source.Parser
import TypedGrammar.Analysis.Basic
import TypedGrammar.Model.Basic
import TypedGrammar.Builder.Machine
import TypedGrammar.Builder.Synthesis
import TypedGrammar.Compilation
import TypedGrammar.Code.Generation
import TypedGrammar.Code.Printer
import TypedGrammar.Request.Attribute
import TypedGrammar.Request.Expansion
import TypedGrammar.Proofs.BuilderDerivation
import TypedGrammar.Proofs.RoundTrip
import TypedGrammar.Proofs.ErrorReport
import TypedGrammar.Proofs.ClosedGrammar
import TypedGrammar.Proofs.ProductiveRule
import TypedGrammar.Proofs.YieldedTokens
import TypedGrammar.Proofs.ParseTree
import TypedGrammar.Proofs.ParseFailure
import TypedGrammar.Proofs.ReachableVertex
import TypedGrammar.Proofs.RefinementHierarchy
import TypedGrammar.Proofs.SubtypeText
import TypedGrammar.Proofs.UnboxedField
import TypedGrammar.Proofs.FreshName
import TypedGrammar.Proofs.NameCharacters
import TypedGrammar.Proofs.CapitalizedName
import TypedGrammar.Proofs.StepName
import TypedGrammar.Proofs.LexedPosition
import TypedGrammar.Proofs.TokenSpan
import TypedGrammar.Proofs.GeneratedType
import TypedGrammar.Proofs.GeneratedName
import TypedGrammar.Proofs.ReferencePath
import TypedGrammar.Proofs.ConstructionShape
import TypedGrammar.Proofs.ListedValue
import TypedGrammar.Proofs.EnumeratedRule
import TypedGrammar.Proofs.AcceptedWalk
import TypedGrammar.Proofs.PrintedLiteral
import TypedGrammar.Proofs.NameLookup
import TypedGrammar.Proofs.ScannedWord
import TypedGrammar.Proofs.RuleEnd
import TypedGrammar.Proofs.TokenPlace
import TypedGrammar.Proofs.SkippedTrivia
import TypedGrammar.Proofs.InsertedLayout
import TypedGrammar.Proofs.LineEnding
import TypedGrammar.Proofs.BlamedCharacter
import TypedGrammar.Proofs.ConfiguredDelimiter
import TypedGrammar.Proofs.ParserLoop
import TypedGrammar.Proofs.LexicalFailure
import TypedGrammar.Proofs.RuleByRule
import TypedGrammar.Proofs.ClaimedName
import TypedGrammar.Proofs.MirroredGrammar
import TypedGrammar.Proofs.LeftmostRule
import TypedGrammar.Proofs.RequestedOptions
import TypedGrammar.Proofs.RespelledName
