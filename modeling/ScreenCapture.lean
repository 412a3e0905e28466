import ScreenCapture.Blank
import ScreenCapture.Cursor.Basic
import ScreenCapture.Frame.Text
import ScreenCapture.Main
import ScreenCapture.Pipeline.Run
import ScreenCapture.Proofs.Changes.Blocks
import ScreenCapture.Proofs.Changes.Comparison
import ScreenCapture.Proofs.Changes.Answers
import ScreenCapture.Proofs.Changes.Totality
import ScreenCapture.Proofs.Changes.Tracking
import ScreenCapture.Proofs.Changes.Replay
import ScreenCapture.Proofs.Ownership.Accounting
import ScreenCapture.Proofs.Ownership.Turnover
import ScreenCapture.Proofs.Ownership.Exchange
import ScreenCapture.Proofs.Ownership.Writers
import ScreenCapture.Proofs.Ownership.Holders
import ScreenCapture.Proofs.Ownership.Handling
import ScreenCapture.Proofs.Ownership.Holdings
import ScreenCapture.Proofs.Ownership.Runs
import ScreenCapture.Proofs.Ownership.Isolation
import ScreenCapture.Proofs.Ownership.Sharing
import ScreenCapture.Proofs.Ownership.Identity
import ScreenCapture.Proofs.Crop.Window
import ScreenCapture.Proofs.Crop.Nesting
import ScreenCapture.Proofs.Crop.SubRect
import ScreenCapture.Proofs.Json.Lexing
import ScreenCapture.Proofs.Json.Numerals
import ScreenCapture.Proofs.Json.Reading
import ScreenCapture.Proofs.Json.Shapes
import ScreenCapture.Proofs.Layout.Access
import ScreenCapture.Proofs.Layout.Allocation
import ScreenCapture.Proofs.Layout.Basic
import ScreenCapture.Proofs.Layout.Copies
import ScreenCapture.Proofs.Layout.Copyable
import ScreenCapture.Proofs.Layout.Holders
import ScreenCapture.Proofs.Layout.Runs
import ScreenCapture.Proofs.Layout.Segments
import ScreenCapture.Proofs.Layout.Upkeep
import ScreenCapture.Proofs.Pipeline.Capture
import ScreenCapture.Proofs.Pipeline.Invariant
import ScreenCapture.Proofs.Pipeline.Pictures
import ScreenCapture.Proofs.Pipeline.Supply
import ScreenCapture.Proofs.Pixels.Blackening
import ScreenCapture.Proofs.Pixels.Crop
import ScreenCapture.Proofs.Pixels.Duplicate
import ScreenCapture.Proofs.Pixels.Motion
import ScreenCapture.Proofs.Pixels.Overlap
import ScreenCapture.Proofs.Pixels.Painting
import ScreenCapture.Proofs.Pixels.Repaint
import ScreenCapture.Proofs.Pixels.View
import ScreenCapture.Proofs.Pixels.Transfer
import ScreenCapture.Proofs.Pixels.Zeroing
import ScreenCapture.Proofs.Region.Area
import ScreenCapture.Proofs.Region.Bands
import ScreenCapture.Proofs.Region.Canonical
import ScreenCapture.Proofs.Region.Normal
import ScreenCapture.Proofs.Region.Points
import ScreenCapture.Proofs.Region.Bounded
import ScreenCapture.Proofs.Region.Edits
import ScreenCapture.Proofs.Rotation.Geometry
import ScreenCapture.Proofs.Rounding
import ScreenCapture.Proofs.Rotation.Drawing
import ScreenCapture.Proofs.Rotation.Composition
import ScreenCapture.Proofs.Pipeline.Delivery
import ScreenCapture.Proofs.Pipeline.Runs
import ScreenCapture.Proofs.Pipeline.Steady
import ScreenCapture.Proofs.Pipeline.Totals
import ScreenCapture.Proofs.Pipeline.Service
import ScreenCapture.Proofs.Pipeline.Progress
import ScreenCapture.Proofs.Pipeline.Completion
import ScreenCapture.Proofs.Pipeline.Outputs
import ScreenCapture.Proofs.Queue.Lending
import ScreenCapture.Proofs.Pixels.Packed
import ScreenCapture.Proofs.Pixels.Alike
import ScreenCapture.Proofs.Pixels.Appearance
import ScreenCapture.Proofs.Pixels.Reach
import ScreenCapture.Proofs.Pixels.Turning
import ScreenCapture.Proofs.Cursor.Canvas
import ScreenCapture.Proofs.Cursor.Stages
import ScreenCapture.Proofs.Cursor.Drawing
import ScreenCapture.Proofs.Cursor.Image
import ScreenCapture.Proofs.Cursor.Outline
import ScreenCapture.Proofs.Cursor.Alpha
import ScreenCapture.Proofs.Cursor.Hotspot
import ScreenCapture.Proofs.Blank.Sampling
import ScreenCapture.Proofs.Blank.Filter
import ScreenCapture.Proofs.Desktop.Area
import ScreenCapture.Proofs.Desktop.Distance
import ScreenCapture.Proofs.Settings.RoundTrip
