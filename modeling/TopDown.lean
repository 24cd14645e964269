import TopDown.Main
import TopDown.Parsing.TraceCheck
import TopDown.Proofs.Termination
import TopDown.Proofs.Verdict
import TopDown.Sentence.Generator
import TopDown.Table.Printer
import TopDown.Proofs.RecordedTrace
import TopDown.Proofs.TraceCheck
import TopDown.Proofs.FrontDerivation
import TopDown.Proofs.LeftRecursiveRun
import TopDown.Proofs.GeneratedSentence
import TopDown.Proofs.JsonText
import TopDown.Proofs.PlainJson
import TopDown.Proofs.TableText
import TopDown.Proofs.BuilderHistory
import TopDown.Proofs.Rebuild
import TopDown.Proofs.MixedRun
import TopDown.Proofs.SymbolTable
import TopDown.Proofs.LeftRecursiveCycle
import TopDown.Proofs.LeftRecursiveGrammar
import TopDown.Proofs.Renaming
import TopDown.Proofs.RuleOrder
import TopDown.Proofs.Pruning
import TopDown.Proofs.MatchRelation
import TopDown.Proofs.MatchEnds
import TopDown.Proofs.MatchTable
import TopDown.Proofs.MatchLocality
import TopDown.Proofs.BlankSeparation
import TopDown.Proofs.TokenText
import TopDown.Proofs.SearchPath
import TopDown.Proofs.Backtracking
import TopDown.Proofs.StepBudget
import TopDown.Proofs.Counters
import TopDown.Proofs.PatternAnchors
import TopDown.Proofs.TokenCoverage
import TopDown.Proofs.FollowedText
import TopDown.Proofs.PatternAlternation
import TopDown.Proofs.PatternOrder
import TopDown.Proofs.DerivationTree
import TopDown.Proofs.TreeHeight
import TopDown.Proofs.SentenceHeight
import TopDown.Proofs.JsonSpelling
import TopDown.Proofs.JsonStructure
import TopDown.Proofs.JsonRecord
import TopDown.Proofs.PrintedJson
import TopDown.Proofs.TableSpelling
import TopDown.Proofs.PlainText
import TopDown.Proofs.PreferredEnd
import TopDown.Proofs.Lexeme
import TopDown.Proofs.DemoText
import TopDown.Proofs.EndMarker
import TopDown.Proofs.TraceTable
import TopDown.Proofs.Improvement
import TopDown.Proofs.NullableSearch
import TopDown.Proofs.HeightSearch
import TopDown.Proofs.StackOperation
import TopDown.Proofs.ExitStatus
import TopDown.Proofs.RandomWords
