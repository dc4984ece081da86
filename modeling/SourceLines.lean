import SourceLines.Classify.Format
import SourceLines.Main
import SourceLines.Proofs.Tabulation
import SourceLines.Proofs.PooledScan
import SourceLines.Proofs.PathNames
import SourceLines.Proofs.PathResolution
import SourceLines.Proofs.EntryTrees
import SourceLines.Proofs.Candidates
import SourceLines.Proofs.FileSorts
import SourceLines.Proofs.BlockComments
import SourceLines.Proofs.CommentScanner
import SourceLines.Proofs.LossyDecoding
import SourceLines.Proofs.LostLines
import SourceLines.Proofs.JsonGrammar
import SourceLines.Proofs.JsonScalars
import SourceLines.Proofs.JsonReading
import SourceLines.Proofs.JsonPrinting
import SourceLines.Proofs.ReportRoundTrip
import SourceLines.Proofs.LanguageCounts
import SourceLines.Proofs.CountBounds
import SourceLines.Proofs.DirectoryReports
import SourceLines.Proofs.Pruning
import SourceLines.Proofs.ScanParts
import SourceLines.Proofs.SummaryViews
import SourceLines.Proofs.Acceptance
import SourceLines.Proofs.MovedTrees
import SourceLines.Proofs.NamedDirectories
import SourceLines.Proofs.WrittenReports
import SourceLines.Proofs.Runs
import SourceLines.Proofs.JsonKinds
import SourceLines.Proofs.JsonTexts
import SourceLines.Proofs.JsonParsing
import SourceLines.Proofs.CutBytes
import SourceLines.Proofs.JsonRoots
import SourceLines.Proofs.JsonSkipping
import SourceLines.Proofs.OptionalFields
import SourceLines.Proofs.GivenSettings
import SourceLines.Proofs.JoinedLines
import SourceLines.Proofs.TextParts
import SourceLines.Proofs.Layout
import SourceLines.Proofs.DroppedBytes
import SourceLines.Proofs.GeneratedContent
import SourceLines.Proofs.LowerCase
import SourceLines.Proofs.NamesInSettings
import SourceLines.Proofs.ClassifiedFiles
import SourceLines.Proofs.LanguageTables
import SourceLines.Proofs.FormedSums
