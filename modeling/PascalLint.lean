import PascalLint.Main
import PascalLint.Proofs.BatchCheck
import PascalLint.Proofs.BlockGrammar
import PascalLint.Proofs.BlockNesting
import PascalLint.Proofs.BoundedCheck
import PascalLint.Proofs.CaretColumn
import PascalLint.Proofs.CaseLabels
import PascalLint.Proofs.Comment
import PascalLint.Proofs.CursorPlaces
import PascalLint.Proofs.Dialects
import PascalLint.Proofs.DotRuns
import PascalLint.Proofs.EqualsSigns
import PascalLint.Proofs.Evidence
import PascalLint.Proofs.Gap
import PascalLint.Proofs.HiddenText
import PascalLint.Proofs.Independence
import PascalLint.Proofs.JoinedSources
import PascalLint.Proofs.KeywordCase
import PascalLint.Proofs.LetterCaseReport
import PascalLint.Proofs.LexicalFlaws
import PascalLint.Proofs.LineBreaks
import PascalLint.Proofs.LineHistory
import PascalLint.Proofs.LinesBelow
import PascalLint.Proofs.MaskMachine
import PascalLint.Proofs.MaskedAgain
import PascalLint.Proofs.MaskedScan
import PascalLint.Proofs.MaskedStream
import PascalLint.Proofs.NoRepeats
import PascalLint.Proofs.OnlineAnalysis
import PascalLint.Proofs.OpenComment
import PascalLint.Proofs.OpenLiterals
import PascalLint.Proofs.PairedKeywords
import PascalLint.Proofs.Pieces
import PascalLint.Proofs.Place
import PascalLint.Proofs.ReadingOrder
import PascalLint.Proofs.Recording
import PascalLint.Proofs.ReportEvidence
import PascalLint.Proofs.ReportText
import PascalLint.Proofs.RuleEvidence
import PascalLint.Proofs.RuleRuns
import PascalLint.Proofs.Runs
import PascalLint.Proofs.TokenGrammar
import PascalLint.Proofs.TokenListing
import PascalLint.Proofs.TokenStream
import PascalLint.Proofs.UndeclaredNames
import PascalLint.Proofs.Veil
import PascalLint.Proofs.WordTokens
import PascalLint.Proofs.Words
