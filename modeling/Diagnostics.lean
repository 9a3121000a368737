import Diagnostics.Main
import Diagnostics.Proofs.Builder.LastWrites
import Diagnostics.Proofs.Collection.Accounts
import Diagnostics.Proofs.Excerpt.Additions
import Diagnostics.Proofs.Identifier.EntryPoints
import Diagnostics.Proofs.Identifier.History
import Diagnostics.Proofs.Identifier.Memory
import Diagnostics.Proofs.Identifier.ResolvedOnce
import Diagnostics.Proofs.Layout.Alignment
import Diagnostics.Proofs.Layout.Locality
import Diagnostics.Proofs.Layout.ReadingBack
import Diagnostics.Proofs.Layout.Reordering
import Diagnostics.Proofs.Programs.PrintedLines
import Diagnostics.Proofs.Programs.WordHighlights
import Diagnostics.Proofs.Render.ColourErasure
import Diagnostics.Proofs.Render.Printing
import Diagnostics.Proofs.Report.IteratedConversion
import Diagnostics.Proofs.Report.RoundTrip
import Diagnostics.Proofs.Source.LineNumbers
import Diagnostics.Proofs.Validation.Outcome
import Diagnostics.Source.Supplier
import Diagnostics.Validation.DataForm
import Diagnostics.Proofs.Builder.Links
import Diagnostics.Proofs.Render.PlainText
import Diagnostics.Proofs.Validation.LineForms
import Diagnostics.Proofs.Render.ColourSegments
import Diagnostics.Proofs.Identifier.DocLinks
import Diagnostics.Proofs.Identifier.Codes
