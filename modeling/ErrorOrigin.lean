import ErrorOrigin.Proofs.MappingsText
import ErrorOrigin.Proofs.VlqText
import ErrorOrigin.Incident.Json
import ErrorOrigin.Json.Reader
import ErrorOrigin.Json.Writer
import ErrorOrigin.Highlight.Html
import ErrorOrigin.Registry.Memory
import ErrorOrigin.Report.Build
import ErrorOrigin.Proofs.TraceLookup
import ErrorOrigin.Proofs.InquiryRun
import ErrorOrigin.Proofs.MappingsFaults
import ErrorOrigin.Proofs.ReportStages
import ErrorOrigin.Proofs.Indifference
import ErrorOrigin.Proofs.FramePosition
import ErrorOrigin.Proofs.InquiryAnswers
import ErrorOrigin.Proofs.ReportPosition
import ErrorOrigin.Proofs.HydrationReport
import ErrorOrigin.Proofs.RetracedPosition
import ErrorOrigin.Proofs.StackText
import ErrorOrigin.Proofs.RetracedStack
import ErrorOrigin.Proofs.TextCuts
import ErrorOrigin.Proofs.LegibleFrames
import ErrorOrigin.Proofs.PlainLines
import ErrorOrigin.Proofs.HtmlCache
import ErrorOrigin.Proofs.IncidentRecords
import ErrorOrigin.Proofs.CodeFrameLines
import ErrorOrigin.Proofs.LoneModule
import ErrorOrigin.Proofs.QuotedSource
import ErrorOrigin.Proofs.KeptTransform
import ErrorOrigin.Proofs.RenderingTrouble
import ErrorOrigin.Proofs.HighlighterRuns
import ErrorOrigin.Proofs.ResolutionOrder
import ErrorOrigin.Proofs.FailingLookUps
import ErrorOrigin.Proofs.PercentText
import ErrorOrigin.Proofs.MountedPaths
import ErrorOrigin.Proofs.WebAddress
import ErrorOrigin.Proofs.LocatedPosition
import ErrorOrigin.Proofs.WrittenStack
import ErrorOrigin.Proofs.DiagnosticStack
import ErrorOrigin.Proofs.RetracedFrames
import ErrorOrigin.Proofs.RetrievedTexts
import ErrorOrigin.Proofs.Spellings
import ErrorOrigin.Proofs.BorrowedQueries
import ErrorOrigin.Proofs.IndependentFrames
import ErrorOrigin.Proofs.MarkupTokens
import ErrorOrigin.Proofs.PrintedPosition
import ErrorOrigin.Proofs.DifferenceBlock
import ErrorOrigin.Proofs.PromptChoice
import ErrorOrigin.Proofs.SnippetWindow
import ErrorOrigin.Proofs.FileExtension
import ErrorOrigin.Proofs.StoreHistory
import ErrorOrigin.Proofs.VlqRegister
import ErrorOrigin.Proofs.JsonText
import ErrorOrigin.Proofs.MapDocuments
