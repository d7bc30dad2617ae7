import WayDisplay.Foundation.Flags
import WayDisplay.Foundation.BinaryHeap
import WayDisplay.Foundation.Bitmap
import WayDisplay.Foundation.Runs
import WayDisplay.Foundation.FramedStream
import WayDisplay.Foundation.EpochLedger
import WayDisplay.Foundation.VersionLog
import WayDisplay.Foundation.Layers
import WayDisplay.Foundation.SharedRing
import WayDisplay.Foundation.SlotTable
import WayDisplay.Common.TileCover
import WayDisplay.Common.TileBlit
import WayDisplay.Common.TilePacket
import WayDisplay.Common.Zstd
import WayDisplay.Client.Geometry
import WayDisplay.Client.DirtyGrid
import WayDisplay.Client.PresentQueue
import WayDisplay.Client.ContentOrder
import WayDisplay.Client.OwnershipThreads
import WayDisplay.Client.RenderPlanning
import WayDisplay.Client.Presentation.State
import WayDisplay.Client.Presentation.RenderPass
import WayDisplay.Client.Presentation.System
import WayDisplay.Client.Presentation.Steps
import WayDisplay.Client.Presentation.Claims
import WayDisplay.Common.AsyncTcpPolicy
import WayDisplay.Server.AsyncTcp.Sender
import WayDisplay.Server.AsyncTcp.Invariant
import WayDisplay.Server.AsyncTcp.Framing
import WayDisplay.Server.AsyncTcp.Callbacks
import WayDisplay.Server.AsyncTcp.Teardown
import WayDisplay.Server.AsyncTcp.Delivery
import WayDisplay.Common.Wire
import WayDisplay.Common.Tile
import WayDisplay.Server.Summary
import WayDisplay.Server.SummaryAccounting
import WayDisplay.Server.SummaryFlags
import WayDisplay.Server.VideoTransition
import WayDisplay.Server.StreamPolicy
import WayDisplay.Server.ModeTransitions
import WayDisplay.Server.ReadbackRegions
import WayDisplay.Server.Stream.State
import WayDisplay.Server.Stream.Capture
import WayDisplay.Server.Stream.Tiles
import WayDisplay.Server.DirtyRegionScheduler
import WayDisplay.Server.DirtyRegionSet
import WayDisplay.Server.Stream.SendPass
import WayDisplay.Server.Stream.Session
import WayDisplay.Server.Stream.System
import WayDisplay.Server.Stream.WorkerSteps
import WayDisplay.Server.Stream.Owner
import WayDisplay.Server.Stream.Ownership
import WayDisplay.Server.Stream.Control
import WayDisplay.Server.Stream.Epochs
import WayDisplay.Server.Stream.VideoRecovery
import WayDisplay.Server.Stream.TileRecovery
import WayDisplay.Server.Stream.Generations
import WayDisplay.Server.Stream.Coherence
import WayDisplay.Server.Stream.Debts
import WayDisplay.Server.Stream.Obligations
import WayDisplay.Server.Queues.State
import WayDisplay.Server.Queues.Pass
import WayDisplay.Server.Queues.Acts
import WayDisplay.Server.Queues.Consistency
import WayDisplay.Server.Queues.Repairs
import WayDisplay.Server.Queues.Progress
import WayDisplay.Server.Queues.Drain
import WayDisplay.Client.Reassembly.State
import WayDisplay.Client.Reassembly.Packets
import WayDisplay.Client.Reassembly.System
import WayDisplay.Client.Reassembly.Flush
import WayDisplay.Client.Reassembly.Acts
import WayDisplay.Client.Reassembly.WellFormed
import WayDisplay.Client.Reassembly.PacketActs
import WayDisplay.Client.Reassembly.Consistency
import WayDisplay.Client.Reassembly.Order
import WayDisplay.Client.Reassembly.Repairs
import WayDisplay.Client.Repairs.State
import WayDisplay.Client.Repairs.Summaries
import WayDisplay.Client.Repairs.System
import WayDisplay.Client.Repairs.Passes
import WayDisplay.Client.Repairs.Pending
import WayDisplay.Client.Repairs.Queueing
import WayDisplay.Client.Repairs.Stamps
import WayDisplay.Client.Repairs.Requests
import WayDisplay.Server.Audio.Ring
import WayDisplay.Server.Audio.RingFifo
import WayDisplay.Server.Audio.FrameQueue
import WayDisplay.Common.AudioPacket
import WayDisplay.Client.TextureUpload
import WayDisplay.Client.SelectionSync
import WayDisplay.Server.Keyboard
import WayDisplay.Server.TileFragments
import WayDisplay.Client.RepairQueue
import WayDisplay.Server.DirtyRegionHeap
import WayDisplay.Server.RegionWaiting
import WayDisplay.Client.PresentQueueRuns
import WayDisplay.Client.AudioPlayback
import WayDisplay.Client.AudioClock
import WayDisplay.Server.Audio.Capture
import WayDisplay.Server.Audio.Stream
import WayDisplay.Server.Audio.Timeline
import WayDisplay.Server.Audio.Codec
import WayDisplay.Server.BandwidthPlan
import WayDisplay.Server.TileMediaRate
import WayDisplay.Server.VideoCadence
import WayDisplay.Server.VideoCadenceRuns
import WayDisplay.Server.FramePacing
import WayDisplay.TileCoverage
import WayDisplay.ContentDelivery
import WayDisplay.Client.Repairs.Promotion
import WayDisplay.Client.Reassembly.Mismatch
import WayDisplay.Client.Reassembly.Screening
