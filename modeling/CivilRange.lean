import CivilRange.Main
import CivilRange.Proofs.Zone.Clock
import CivilRange.Proofs.Zone.Gap
import CivilRange.Proofs.Moment.Clock
import CivilRange.Proofs.Moment.Move
import CivilRange.Proofs.Moment.Growth
import CivilRange.Proofs.Moment.Calendar
import CivilRange.Proofs.Moment.Unbounded
import CivilRange.Proofs.Expression.Faults
import CivilRange.Proofs.Moment.Elapsed
import CivilRange.Proofs.Duration.Counted
import CivilRange.Proofs.Expression.Shape
import CivilRange.Proofs.Slicing.Boundary
import CivilRange.Proofs.Slicing.Run
import CivilRange.Proofs.Slicing.Clock
import CivilRange.Proofs.Slicing.Stop
import CivilRange.Proofs.Slicing.Ordered
import CivilRange.Proofs.Slicing.Tiling
import CivilRange.Proofs.Slicing.Length
import CivilRange.Proofs.Text.Colons
import CivilRange.Proofs.Duration.Unit
import CivilRange.Proofs.Moment.Still
import CivilRange.Proofs.Slicing.Unit
import CivilRange.Proofs.Slicing.Steady
import CivilRange.Proofs.Slicing.Later
import CivilRange.Proofs.Slicing.Totals
import CivilRange.Proofs.Text.LetterCase
import CivilRange.Proofs.Expression.Grammar
import CivilRange.Proofs.Expression.LongNumber
import CivilRange.Proofs.CommandLine.Printed
import CivilRange.Proofs.Text.Fields
import CivilRange.Proofs.Reading
import CivilRange.Proofs.Date.Written
import CivilRange.Proofs.Duration.Written
import CivilRange.Proofs.Duration.Text
import CivilRange.Proofs.Expression.Text
import CivilRange.Proofs.Expression.Canonical
import CivilRange.Proofs.Date.Period
import CivilRange.Proofs.CommandLine.Commands
import CivilRange.Proofs.Observer.SameInstant
import CivilRange.Proofs.Zone.Ends
import CivilRange.Proofs.Moment.Further
import CivilRange.Proofs.Moment.Timestamp
import CivilRange.Proofs.Slicing.Lasting
import CivilRange.Proofs.Slicing.Lengthened
import CivilRange.Proofs.Expression.Named
import CivilRange.Proofs.Expression.LetterCase
import CivilRange.Proofs.Expression.Description
import CivilRange.Proofs.CommandLine.Descriptions
import CivilRange.Proofs.CommandLine.OptionOrder
