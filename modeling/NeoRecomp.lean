import NeoRecomp.Correct.Chains
import NeoRecomp.Correct.Labels
import NeoRecomp.Correct.ControlFlow
import NeoRecomp.Correct.MoveFlags
import NeoRecomp.Correct.CandidateLimit
import NeoRecomp.Lib.QueueSearch
import NeoRecomp.Correct.StateTables
import NeoRecomp.Lib.Runs
import NeoRecomp.Correct.RecordRuns
import NeoRecomp.Correct.RecordClusters
import NeoRecomp.Correct.Decimal
import NeoRecomp.Correct.Shifts
import NeoRecomp.Correct.DecodeDelimited
import NeoRecomp.Correct.StackedPc
import NeoRecomp.Correct.MovemPair
import NeoRecomp.Correct.Exceptions
import NeoRecomp.Correct.Shortcuts
import NeoRecomp.Correct.Bodies
import NeoRecomp.Emit.Tame
import NeoRecomp.Emit.Program
import NeoRecomp.Correct.Trampoline
import NeoRecomp.Correct.Dispatch
import NeoRecomp.Correct.RomMap
import NeoRecomp.Correct.IndexBound
import NeoRecomp.Correct.Resume
import NeoRecomp.Correct.Representation
import NeoRecomp.Correct.SoundQueue
import NeoRecomp.Correct.Interrupts
import NeoRecomp.Runtime.Devices
import NeoRecomp.Correct.CycleTiming
import NeoRecomp.Correct.SaveState
import NeoRecomp.Lib.Tally
import NeoRecomp.Lib.Credit
import NeoRecomp.Runtime.Video
import NeoRecomp.Correct.PixelTimer
import NeoRecomp.Correct.Watchdog
import NeoRecomp.Correct.PaletteStatistics
import NeoRecomp.Correct.BusFrame
import NeoRecomp.Correct.Z80Credit
import NeoRecomp.Correct.YmTimers
import NeoRecomp.Correct.SpriteChain
import NeoRecomp.Correct.BankPartition
import NeoRecomp.NeoImage
import NeoRecomp.DispatchAudit
import NeoRecomp.Correct.AuditSites
import NeoRecomp.Correct.AuditAgreement
import NeoRecomp.Lib.Submask
import NeoRecomp.Lib.Paint
import NeoRecomp.Runtime.FixLayer
import NeoRecomp.Correct.FixLayer
import NeoRecomp.Correct.SpriteFrame
import NeoRecomp.Cycles
import NeoRecomp.Correct.CycleTable
import NeoRecomp.Lib.FirstVisits
import NeoRecomp.Correct.NeoContainer
import NeoRecomp.Correct.AudioState
import NeoRecomp.Correct.AudioMailbox
import NeoRecomp.Config.Loader
import NeoRecomp.Correct.ConfigText
import NeoRecomp.Correct.ConfigMerge
import NeoRecomp.Correct.ConfigBehind
import NeoRecomp.Correct.ConfigSplit
import NeoRecomp.Correct.ConfigNumbers
import NeoRecomp.Correct.ConfigArrays
import NeoRecomp.Correct.HostRuns
import NeoRecomp.Correct.Breakpoint
import NeoRecomp.Correct.UserMode
import NeoRecomp.Correct.DispatchReports
import NeoRecomp.Correct.DispatchBudget
import NeoRecomp.Correct.CompareBranch
import NeoRecomp.Correct.CallTrees
import NeoRecomp.Correct.InterruptReturn
