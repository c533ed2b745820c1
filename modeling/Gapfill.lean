import Gapfill.Main
import Gapfill.Proofs.Anchoring
import Gapfill.Proofs.Authored.KeyJudgement
import Gapfill.Proofs.BestAlternative
import Gapfill.Proofs.BetterAnswer
import Gapfill.Proofs.BuiltGaps
import Gapfill.Proofs.DelimitedForm
import Gapfill.Proofs.Delimiter
import Gapfill.Proofs.DiagnosticPlaces
import Gapfill.Proofs.FieldClass
import Gapfill.Proofs.GapMarkers
import Gapfill.Proofs.GapTexts
import Gapfill.Proofs.InertPatterns
import Gapfill.Proofs.JoinedBodies
import Gapfill.Proofs.LastAnchor
import Gapfill.Proofs.LineEndings
import Gapfill.Proofs.LineOrder
import Gapfill.Proofs.LiteralTokens
import Gapfill.Proofs.NothingEarned
import Gapfill.Proofs.QuestionDirectory
import Gapfill.Proofs.References
import Gapfill.Proofs.ReportHistory
import Gapfill.Proofs.ReportPlace
import Gapfill.Proofs.SameResponse
import Gapfill.Proofs.SavedReports
import Gapfill.Proofs.Spacing.OnePass
import Gapfill.Proofs.Spacing.Tolerance
