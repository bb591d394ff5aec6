import Logbook.Main
import Logbook.Proofs.Context
import Logbook.Proofs.Shown
import Logbook.Proofs.Partition
import Logbook.Proofs.Agreement
import Logbook.Proofs.Decimal
import Logbook.Proofs.Cutting
import Logbook.Proofs.Pattern
import Logbook.Proofs.DateText
import Logbook.Proofs.RangeText
import Logbook.Proofs.Canonical
import Logbook.Proofs.Refilter
import Logbook.Proofs.Taking
import Logbook.Proofs.Overlap
import Logbook.Proofs.Finding
import Logbook.Proofs.Openings
import Logbook.Proofs.CalendarText
import Logbook.Proofs.ReadBack
import Logbook.Proofs.Tickets
import Logbook.Proofs.TimeBounds
import Logbook.Proofs.Chronology
import Logbook.Proofs.ShownOrder
import Logbook.Proofs.Boxes
import Logbook.Proofs.Rendering
import Logbook.Proofs.Seams
import Logbook.Proofs.SavedFilter
import Logbook.Proofs.Annotations
import Logbook.Proofs.Annotated
import Logbook.Proofs.TermPattern
import Logbook.Proofs.WordEnds
import Logbook.Proofs.ByteOrderMark
import Logbook.Proofs.Provenance
import Logbook.Proofs.FirstLine
import Logbook.Proofs.Printed
import Logbook.Proofs.Grouping
import Logbook.Proofs.DayCount
import Logbook.Proofs.ByteReading
import Logbook.Proofs.StampParts
import Logbook.Proofs.Instants
import Logbook.Proofs.Earliest
import Logbook.Proofs.Layers
import Logbook.Proofs.Segments
import Logbook.Proofs.Refining
import Logbook.Proofs.Walk
import Logbook.Proofs.Gaps
import Logbook.Proofs.Rounding
import Logbook.Proofs.Widening
import Logbook.Proofs.BrowserLine
import Logbook.Proofs.BareIds
import Logbook.Proofs.LevelWords
import Logbook.Proofs.LineEndings
import Logbook.Proofs.TimeLimits
import Logbook.Proofs.OptionValues
import Logbook.Proofs.CommandLine
import Logbook.Proofs.WellFormed
