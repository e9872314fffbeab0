import SheetPost.Main
import SheetPost.Proofs.Command.Saving
import SheetPost.Proofs.Command.Sparing
import SheetPost.Proofs.Spreadsheet.Restoring
import SheetPost.Proofs.Store.FreshDirectory
import SheetPost.Proofs.Posting.Attribution
import SheetPost.Proofs.Posting.History
import SheetPost.Proofs.Posting.Isolation
import SheetPost.Proofs.Posting.Marker
import SheetPost.Proofs.Posting.WriteBack
import SheetPost.Proofs.Posting.AllOrNothing
import SheetPost.Proofs.Posting.Fallback
import SheetPost.Proofs.Posting.Agreement
import SheetPost.Proofs.Posting.Completeness
import SheetPost.Proofs.Posting.Stability
import SheetPost.Proofs.Spreadsheet.Places
import SheetPost.Proofs.Csv.Shown
import SheetPost.Proofs.Store.SameFiles
import SheetPost.Proofs.Store.SheetRows
import SheetPost.Proofs.Store.OneSheet
import SheetPost.Proofs.Command.Account
import SheetPost.Proofs.Command.Requests
import SheetPost.Proofs.Command.TokenHistory
import SheetPost.Proofs.Posting.Complaints
import SheetPost.Proofs.Store.Replacing
import SheetPost.Proofs.Command.NewWorkbook
import SheetPost.Proofs.Posting.Lockstep
import SheetPost.Proofs.Command.Separation
import SheetPost.Proofs.Settings.Layers
import SheetPost.Proofs.Command.Layers
import SheetPost.Proofs.Posting.Partition
import SheetPost.Proofs.Posting.Dating
import SheetPost.Proofs.Spreadsheet.Moments
import SheetPost.Proofs.Gateway.Summary
import SheetPost.Proofs.Calendar.Month
import SheetPost.Proofs.Command.SummaryRange
import SheetPost.Proofs.Workbook.Writing
import SheetPost.Proofs.Workbook.Versions
