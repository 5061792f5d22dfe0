import VclReview.Directive.Catalogue
import VclReview.Main
import VclReview.Proofs.Messages
import VclReview.Proofs.Trial
import VclReview.Proofs.Language
import VclReview.Proofs.Fields
import VclReview.Proofs.Recognition
import VclReview.Proofs.Readback
import VclReview.Proofs.Sorting
import VclReview.Proofs.Survivors
import VclReview.Proofs.Discovery
import VclReview.Proofs.GlobMatching
import VclReview.Proofs.Search
import VclReview.Proofs.FileScan
import VclReview.Proofs.Selection
import VclReview.Proofs.Ways
import VclReview.Proofs.ReportFiles
import VclReview.Proofs.Input
import VclReview.Proofs.Probing
import VclReview.Proofs.Runs
import VclReview.Proofs.ExitStatus
import VclReview.Proofs.Flags
import VclReview.Proofs.AuditApart
import VclReview.Proofs.FileByFile
import VclReview.Proofs.Agreement
import VclReview.Proofs.LineByLine
import VclReview.Proofs.Writing
import VclReview.Proofs.Landing
import VclReview.Proofs.InputKept
import VclReview.Proofs.SoundTrees
import VclReview.Proofs.Rerun
import VclReview.Proofs.Interruption
import VclReview.Proofs.Crashes
import VclReview.Proofs.Isolation
import VclReview.Proofs.Display
import VclReview.Proofs.Misreadings
import VclReview.Proofs.Context
import VclReview.Proofs.Wording
import VclReview.Proofs.Indentation
import VclReview.Proofs.FurtherShape
import VclReview.Proofs.Encoding
import VclReview.Proofs.Reading
import VclReview.Proofs.Listings
import VclReview.Proofs.AuditOutcome
import VclReview.Proofs.EmptyNotice
import VclReview.Proofs.Columns
import VclReview.Proofs.JsonGrammar
import VclReview.Proofs.JsonWriting
import VclReview.Proofs.ReportReadback
import VclReview.Proofs.Diagnostics
import VclReview.Proofs.Delimited
import VclReview.Proofs.CallArgument
import VclReview.Proofs.Names
