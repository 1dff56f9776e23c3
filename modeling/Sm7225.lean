import Sm7225.Lib.Prog
import Sm7225.Lib.Run
import Sm7225.Lib.Relational
import Sm7225.Lib.KeyedVector
import Sm7225.Lib.Splice
import Sm7225.Lib.Compact
import Sm7225.Lib.Substitute
import Sm7225.Lib.Binary32
import Sm7225.Lib.Computations
import Sm7225.Lib.Delimited
import Sm7225.Lib.Dialogue
import Sm7225.Lib.History
import Sm7225.Lib.Leads
import Sm7225.Lib.Loops
import Sm7225.Lib.Notices
import Sm7225.Lib.Progress
import Sm7225.Lib.Traces
import Sm7225.Lib.WaitingLine
import Sm7225.Bqhelper.Types
import Sm7225.Bqhelper.FrameDropper
import Sm7225.Bqhelper.CodecTimestamp
import Sm7225.Bqhelper.State
import Sm7225.Bqhelper.References
import Sm7225.Bqhelper.Source
import Sm7225.Bqhelper.Requests
import Sm7225.Bqhelper.Steps
import Sm7225.Bqhelper.Tracking
import Sm7225.Bqhelper.RequestSteps
import Sm7225.Bqhelper.Order
import Sm7225.Bqhelper.Memory
import Sm7225.Bqhelper.Slots
import Sm7225.Bqhelper.Lives
import Sm7225.Bqhelper.Accounting
import Sm7225.Bqhelper.Custody
import Sm7225.Bqhelper.Fences
import Sm7225.Bqhelper.Release
import Sm7225.Bqhelper.EndOfStream
import Sm7225.Bqhelper.Outcomes
import Sm7225.Bqhelper.Filling
import Sm7225.Bqhelper.Waiting
import Sm7225.Bqhelper.NewFrame
import Sm7225.Bqhelper.Serving
import Sm7225.Bqhelper.Finality
import Sm7225.Bqhelper.Stalls
import Sm7225.Bqhelper.View
import Sm7225.Bqhelper.TwinSteps
import Sm7225.Bqhelper.TwinRequests
import Sm7225.Bqhelper.Session
import Sm7225.Bqhelper.CodecOrder
import Sm7225.Bqhelper.FrameRepeat
import Sm7225.Bqhelper.Walks
import Sm7225.Bqhelper.Stays
import Sm7225.Bqhelper.ActionQueue
import Sm7225.Bqhelper.ActionReplay
import Sm7225.Bqhelper.LatestMoves
import Sm7225.Bqhelper.RepeatSteps
import Sm7225.Bqhelper.RepeatProtocol
import Sm7225.Bqhelper.RepeatRuns
import Sm7225.Bqhelper.CaptureGrid
import Sm7225.Bqhelper.DropperRate
import Sm7225.Bqhelper.StopPending
import Sm7225.Bqhelper.FrameArrival
import Sm7225.Bqhelper.FailedSubmission
import Sm7225.Bqhelper.RefusedCalls
import Sm7225.Bqhelper.FeedingLoops
import Sm7225.Bqhelper.TimeArithmetic
import Sm7225.Bqhelper.TimeBounds
import Sm7225.Bqhelper.TimesKept
import Sm7225.Bqhelper.ExactTimes
import Sm7225.Bqhelper.OfferedFrames
import Sm7225.Bqhelper.TimeOverflows
import Sm7225.Bqhelper.Reserve
import Sm7225.Bqhelper.DataSpaces
import Sm7225.Bqhelper.Silence
import Sm7225.Bqhelper.Delivery
import Sm7225.Bqhelper.Draining
import Sm7225.Bqhelper.Ending
import Sm7225.Bqhelper.Pacing
import Sm7225.Bqhelper.SteadyRuns
import Sm7225.Sdmext.Strategy
import Sm7225.Sdmext.Frames
import Sm7225.Sdmext.WideColor
import Sm7225.Audio.Types
import Sm7225.Audio.CallState
import Sm7225.Audio.Parameters
import Sm7225.Audio.Routes
import Sm7225.Audio.Streams
import Sm7225.Audio.Lifetimes
import Sm7225.Audio.WorkerThread
import Sm7225.Audio.UseAfterClose
import Sm7225.Audio.AudioPatches
import Sm7225.Audio.FinalMap
import Sm7225.Audio.ParameterText
import Sm7225.Audio.Prepare
import Sm7225.Audio.Transfers
import Sm7225.Audio.CommandReplies
import Sm7225.Audio.CommandProgress
import Sm7225.Audio.Teardown
import Sm7225.Audio.Tallies
import Sm7225.Audio.Playback
import Sm7225.Audio.Capture
import Sm7225.Patches.Blob
import Sm7225.Patches.Placed
import Sm7225.Patches.AudioPrimaryLito
import Sm7225.Patches.SecRil
import Sm7225.Patches.BqhVendor
import Sm7225.Patches.BlobFixup
