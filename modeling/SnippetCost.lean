import SnippetCost.Main
import SnippetCost.Settings.Stored
import SnippetCost.Proofs.Nesting.Line
import SnippetCost.Proofs.Nesting.Layout
import SnippetCost.Proofs.Text.Relaid
import SnippetCost.Proofs.Text.Place
import SnippetCost.Proofs.Snippet.Relaid
import SnippetCost.Proofs.Nesting.Lockstep
import SnippetCost.Proofs.Snippet.Layout
import SnippetCost.Proofs.Snippet.LoopFree
import SnippetCost.Analyzer.Crew
import SnippetCost.Analyzer.UseCase
import SnippetCost.Proofs.Analyzer.Honest
import SnippetCost.Proofs.Analyzer.Crew
import SnippetCost.Markup.Stripping
import SnippetCost.Proofs.Markup.Escaping
import SnippetCost.Proofs.Token.StringBody
import SnippetCost.Proofs.Token.Grammar
import SnippetCost.Proofs.Token.Cutting
import SnippetCost.Proofs.Markup.Stripping
import SnippetCost.Proofs.Growth.Label
import SnippetCost.Proofs.Report.Band
import SnippetCost.Proofs.Report.Alike
import SnippetCost.Proofs.Report.Fragment
import SnippetCost.Proofs.Report.Plain
import SnippetCost.Proofs.Report.Region
import SnippetCost.Proofs.Settings.Document
import SnippetCost.Proofs.Report.Stored
import SnippetCost.Proofs.Snippet.Definition
import SnippetCost.Proofs.Snippet.LoopHead
import SnippetCost.Proofs.Snippet.Membership
import SnippetCost.Proofs.Nesting.Open
import SnippetCost.Proofs.Cache.Recency
import SnippetCost.Proofs.Cache.Room
import SnippetCost.Proofs.Cache.Tally
import SnippetCost.Proofs.Analyzer.Service
import SnippetCost.Proofs.Nesting.Append
import SnippetCost.Proofs.Token.Lines
import SnippetCost.Proofs.Token.Merged
import SnippetCost.Proofs.Markup.Recovery
import SnippetCost.Proofs.Text.Padded
import SnippetCost.Proofs.Text.Path
import SnippetCost.Proofs.Report.LineEnd
import SnippetCost.Proofs.Report.Append
import SnippetCost.Proofs.Growth.Stored
import SnippetCost.Proofs.Settings.Outcome
import SnippetCost.Proofs.Report.FieldCut
import SnippetCost.Proofs.Text.Lower
import SnippetCost.Proofs.Report.Undecorated
import SnippetCost.Proofs.Report.Rating
import SnippetCost.Proofs.Report.WellFormed
import SnippetCost.Proofs.Growth.Spelling
import SnippetCost.Proofs.Snippet.Consistent
import SnippetCost.Report.Labelled
import SnippetCost.Proofs.Report.Label
import SnippetCost.Proofs.Report.Labelled
import SnippetCost.Proofs.Nesting.Reached
import SnippetCost.Proofs.Report.LabelField
import SnippetCost.Proofs.Token.StringEnd
import SnippetCost.Proofs.Snippet.CallPattern
import SnippetCost.Proofs.Report.Numeral
