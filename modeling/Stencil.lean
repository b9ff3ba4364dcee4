import Stencil.Adjacency.Restore
import Stencil.Adjacency.Rewrite
import Stencil.Adjacency.Rule
import Stencil.Adjacency.Unit
import Stencil.Command.Basic
import Stencil.Command.Flag
import Stencil.Command.Settings
import Stencil.Command.Usage
import Stencil.Command.Word
import Stencil.Compile.Basic
import Stencil.Compile.Event
import Stencil.Compile.Position
import Stencil.Compile.Run
import Stencil.Dialect
import Stencil.Fault
import Stencil.Files.Path
import Stencil.Files.Tree
import Stencil.Host
import Stencil.Main
import Stencil.Number.Binary
import Stencil.Number.Decimal
import Stencil.Number.Shortest
import Stencil.Options.Basic
import Stencil.Options.Entries
import Stencil.Options.Fault
import Stencil.Options.File
import Stencil.Options.Read
import Stencil.Options.Value
import Stencil.Proofs.BlankChanges
import Stencil.Proofs.CanonicalAdjacency
import Stencil.Proofs.CheckedInvocations
import Stencil.Proofs.CommandOutcomes
import Stencil.Proofs.CompiledForms
import Stencil.Proofs.CompiledRuns
import Stencil.Proofs.CompilerFaults
import Stencil.Proofs.CutLaws
import Stencil.Proofs.CutSplit
import Stencil.Proofs.Decision
import Stencil.Proofs.EnclosedUnits
import Stencil.Proofs.ExchangedBlanks
import Stencil.Proofs.FirstOccurrences
import Stencil.Proofs.FormCut
import Stencil.Proofs.Formless
import Stencil.Proofs.GluedTokens
import Stencil.Proofs.IndentedLines
import Stencil.Proofs.InterpolatedTokens
import Stencil.Proofs.LeadingComments
import Stencil.Proofs.LoadedOptions
import Stencil.Proofs.LooseUses
import Stencil.Proofs.MergedSettings
import Stencil.Proofs.Numerals
import Stencil.Proofs.OptionFiles
import Stencil.Proofs.Patterns
import Stencil.Proofs.PipelineTokens
import Stencil.Proofs.RefusedOptions
import Stencil.Proofs.RenumberedTexts
import Stencil.Proofs.Renumbering
import Stencil.Proofs.ReservedNames
import Stencil.Proofs.RestoreTwice
import Stencil.Proofs.RestoredForms
import Stencil.Proofs.RestoredGaps
import Stencil.Proofs.RestoredPlaces
import Stencil.Proofs.RestoredTokens
import Stencil.Proofs.RunFaults
import Stencil.Proofs.SearchedUnits
import Stencil.Proofs.SeenPaths
import Stencil.Proofs.SelectorBlanks
import Stencil.Proofs.SeparateStatements
import Stencil.Proofs.SeparatedLines
import Stencil.Proofs.ShieldKinds
import Stencil.Proofs.ShieldRoundTrip
import Stencil.Proofs.ShieldedCut
import Stencil.Proofs.StagedLines
import Stencil.Proofs.StagedUses
import Stencil.Proofs.StandardTokens
import Stencil.Proofs.StatedOptions
import Stencil.Proofs.StatementEnds
import Stencil.Proofs.Success
import Stencil.Proofs.TokenCut
import Stencil.Proofs.TokenlessTexts
import Stencil.Proofs.UnwordedFaults
import Stencil.Proofs.UseContexts
import Stencil.Proofs.UseLines
import Stencil.Proofs.UseStretches
import Stencil.Proofs.VisitSplit
import Stencil.Proofs.WrittenPaths
import Stencil.Raised
import Stencil.Shield.Basic
import Stencil.Shield.Form
import Stencil.Source.Indent
import Stencil.Source.Stage
import Stencil.Source.Use
import Stencil.Text.Blank
import Stencil.Text.Cursor
import Stencil.Text.Digit
import Stencil.Text.Lines
import Stencil.Text.Printable
import Stencil.Text.Quoted
import Stencil.Text.Range
import Stencil.Text.Utf8
import Stencil.Text.Word
import Stencil.Token.Cut
import Stencil.Token.Enclosed
import Stencil.Token.Markers
import Stencil.Token.Place
import Stencil.Yaml.Document
import Stencil.Yaml.Node
import Stencil.Yaml.Number
import Stencil.Yaml.Reader
import Stencil.Yaml.Scalar
import Stencil.Yaml.Token
import Stencil.Yaml.Typed
