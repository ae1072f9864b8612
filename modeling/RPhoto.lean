import RPhoto.Library.FileStore
import RPhoto.Library.Run
import RPhoto.Library.Fuel
import RPhoto.Library.Recorded
import RPhoto.Library.Span
import RPhoto.Library.Stretches
import RPhoto.Library.Truncation
import RPhoto.Library.Rescaling
import RPhoto.Library.Dyadic
import RPhoto.Library.Fields
import RPhoto.Library.Stdio
import RPhoto.Library.Shares
import RPhoto.Library.Holding
import RPhoto.Library.Checked
import RPhoto.Jpeg.Options
import RPhoto.Jpeg.Base64
import RPhoto.Jpeg.DecodeBuffer
import RPhoto.Jpeg.CommentWriter
import RPhoto.Jpeg.HeaderScan
import RPhoto.Jpeg.CommentInsertion
import RPhoto.Jpeg.CommentReplacement
import RPhoto.Jpeg.CommentFiles
import RPhoto.Jpeg.Markers
import RPhoto.Jpeg.MarkerText
import RPhoto.Tracker.Rect
import RPhoto.Tracker.RectTracker
import RPhoto.Tracker.Proportion
import RPhoto.Tracker.Adjust
import RPhoto.Tracker.Fits
import RPhoto.Tracker.Placement
import RPhoto.Tracker.RatioConstraint
import RPhoto.Tracker.CheckedAdjust
import RPhoto.Tracker.WrappedAdjust
import RPhoto.Tracker.DistanceRange
import RPhoto.Tracker.Selection
import RPhoto.Tracker.StableSelection
import RPhoto.Tracker.KeyProgress
import RPhoto.Tracker.ImageBox
import RPhoto.Tracker.FixedSize
import RPhoto.Tracker.CropZone
import RPhoto.Tracker.Zooming
import RPhoto.Tracker.PassEnds
import RPhoto.Tracker.ZoneQuery
import RPhoto.Tracker.BaseTracker
import RPhoto.Tracker.Dragging
import RPhoto.Tracker.Clicking
import RPhoto.Tracker.LineTracker
import RPhoto.Tracker.LineMouse
import RPhoto.Tracker.LineClamping
import RPhoto.Tracker.MouseCapture
import RPhoto.Tracker.LineGrab
import RPhoto.Tracker.LineDrawing
import RPhoto.Tracker.LineDragging
import RPhoto.Tracker.DisplayBox
import RPhoto.Editing.FileName
import RPhoto.Editing.Frame
import RPhoto.Editing.UndoHistory
import RPhoto.Editing.FileMove
import RPhoto.Editing.LosslessTools
import RPhoto.Editing.ImageOperations
import RPhoto.Editing.LoadSave
import RPhoto.Editing.Events
import RPhoto.Editing.SampleWorld
import RPhoto.Editing.Screen
import RPhoto.Editing.SnapshotRoundTrip
import RPhoto.Editing.ScreenHistory
import RPhoto.Editing.ScreenOperations
import RPhoto.Editing.ScreenDocuments
import RPhoto.Editing.ToolActions
import RPhoto.Editing.CleanupReturns
import RPhoto.Editing.CleanupEnds
import RPhoto.Editing.EndlessCleanup
import RPhoto.Editing.DirtyFlag
import RPhoto.Editing.FailedLossless
import RPhoto.Editing.LosslessFlag
import RPhoto.Editing.MoveSafety
import RPhoto.Editing.FailedRename
import RPhoto.Editing.SaveAs
import RPhoto.Editing.InclinationCrop
import RPhoto.Editing.SizeSearch
import RPhoto.Editing.ResizeRequest
import RPhoto.Editing.ResizeSides
import RPhoto.Editing.ResizePossible
import RPhoto.Editing.Ownership
import RPhoto.Editing.TemporaryFiles
import RPhoto.Editing.UndoRedoInverse
import RPhoto.Editing.UndoRestores
import RPhoto.Editing.CleanupTwice
import RPhoto.Editing.ResizeScreen
import RPhoto.Editing.ResizeCombo
import RPhoto.Editing.Metadata
import RPhoto.Editing.MetadataKept
import RPhoto.Editing.ColumnWidths
import RPhoto.Editing.FavouriteTags
import RPhoto.Library.Painting
import RPhoto.Library.Reflection
import RPhoto.Library.Turning
import RPhoto.Library.Separable
import RPhoto.Lossless.Block
import RPhoto.Lossless.VirtualArray
import RPhoto.Lossless.Routines
import RPhoto.Lossless.RoutineLoops
import RPhoto.Lossless.RoutinePlacement
import RPhoto.Lossless.InPlaceFlip
import RPhoto.Lossless.TransformInfo
import RPhoto.Lossless.Jpegtran
import RPhoto.Lossless.JpegtranPlaces
import RPhoto.Lossless.Pixels
import RPhoto.Lossless.PictureKept
import RPhoto.Lossless.Composition
import RPhoto.Lossless.CropText
import RPhoto.Lossless.Switches
import RPhoto.Lossless.Program
import RPhoto.Lossless.MarkerRuns
import RPhoto.Lossless.FrameRuns
import RPhoto.Editing.QualitySearch
