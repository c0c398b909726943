import Cx4Kernel.Foundation.CyclicBuffer
import Cx4Kernel.Util.RingBufferSafety
import Cx4Kernel.Vidsch.VmIdSafety
import Cx4Kernel.Vidsch.TaskQueueActivation
import Cx4Kernel.Vidsch.TaskQueueFifo
import Cx4Kernel.Foundation.MaskWindow
import Cx4Kernel.Vidmm.DirtyWindow
import Cx4Kernel.Vidmm.UpdatePtesCorrect
import Cx4Kernel.Vidmm.UpdateMappingSubmitted
import Cx4Kernel.Vidmm.LockAllocation
import Cx4Kernel.Vidsch.PinBalance
import Cx4Kernel.Vidsch.RootPdAgeRecorded
import Cx4Kernel.Vidsch.TaskRefCount
import Cx4Kernel.Vidmm.PagingCount
import Cx4Kernel.Vidmm.PagingOwner
import Cx4Kernel.Perfevent.IsrEventDelivery
import Cx4Kernel.Perfevent.EventListSafety
import Cx4Kernel.Linux.DmaFenceSafety
import Cx4Kernel.Vidmm.PageTablesMapped
import Cx4Kernel.Cbios.DeviceEdidSignature
import Cx4Kernel.Cbios.HdmiVsdbLayout
import Cx4Kernel.Cbios.I2cTransfers
import Cx4Kernel.Vidmm.Eviction
import Cx4Kernel.Vidmm.EvictionSteps
import Cx4Kernel.Vidmm.EvictionTraced
import Cx4Kernel.Vidmm.EvictionBudget
import Cx4Kernel.Vidmm.EvictionRetry
import Cx4Kernel.Vidmm.TransferBlits
import Cx4Kernel.Vidmm.TransferCovers
import Cx4Kernel.Vidmm.FbPageMemory
import Cx4Kernel.Vidmm.SegmentMemory
import Cx4Kernel.Foundation.RangeTree
import Cx4Kernel.Vidmm.AddressSpace
import Cx4Kernel.Vidmm.AddressLookup
import Cx4Kernel.Foundation.StoreCursor
import Cx4Kernel.Vidsch.GfxCommands
import Cx4Kernel.Vidsch.GfxCommandsDefined
import Cx4Kernel.Perfevent.EngineUsage
import Cx4Kernel.Perfevent.EngineUsageBounds
import Cx4Kernel.Foundation.RefCounts
import Cx4Kernel.Linux.SyncObj
import Cx4Kernel.Linux.SyncObjBalance
import Cx4Kernel.Vidmm.PageDirectory
import Cx4Kernel.Vidmm.PageDirectorySafe
import Cx4Kernel.Vidmm.PageDirectoryWalk
import Cx4Kernel.Vidmm.AutoClearRects
import Cx4Kernel.Foundation.PowerBlocks
import Cx4Kernel.Vidmm.RangeLookup
import Cx4Kernel.Vidmm.ZoneRanges
import Cx4Kernel.Vidmm.InvalidateSlot
import Cx4Kernel.Vidmm.InvalidateCovers
import Cx4Kernel.Vidmm.ClearSlot
import Cx4Kernel.Foundation.NextFit
import Cx4Kernel.Vidsch.FenceSpace
import Cx4Kernel.Foundation.Extents
import Cx4Kernel.Vidsch.VmUpdateTask
import Cx4Kernel.Vidsch.VmUpdateSpace
import Cx4Kernel.Vidmm.FastClearCovers
import Cx4Kernel.Vidmm.GartWindow
import Cx4Kernel.Vidmm.UpdatePtesDirty
import Cx4Kernel.Vidsch.EngineMappings
import Cx4Kernel.Vidsch.EngineMappingsCoherent
import Cx4Kernel.Vidsch.EngineMappingsEntry
import Cx4Kernel.Vidsch.EngineMappingsFresh
import Cx4Kernel.Cbios.Timing
import Cx4Kernel.Foundation.BitFields
import Cx4Kernel.Cbios.Registers
import Cx4Kernel.Cbios.DpMainLink
import Cx4Kernel.Cbios.DpMainLinkFields
import Cx4Kernel.Cbios.DpLinkPara
import Cx4Kernel.Cbios.DpLinkParaFits
import Cx4Kernel.Foundation.BitGather
import Cx4Kernel.Cbios.MapMask
import Cx4Kernel.Cbios.EdidTiming
import Cx4Kernel.Cbios.EdidTimingFields
import Cx4Kernel.Cbios.EdidTimingExact
import Cx4Kernel.Cbios.FakePanelEdidParsed
import Cx4Kernel.Foundation.WordArith
import Cx4Kernel.Cbios.CustomizedTiming
import Cx4Kernel.Cbios.CustomizedTimingExact
import Cx4Kernel.Cbios.CustomizedTimingRate
import Cx4Kernel.Cbios.CustomizedTimingOrder
import Cx4Kernel.Foundation.ByteBuffer
import Cx4Kernel.Cbios.AuxI2c
import Cx4Kernel.Cbios.AuxI2cRuns
import Cx4Kernel.Cbios.AuxI2cOnce
import Cx4Kernel.Foundation.Sweep
import Cx4Kernel.Cbios.LinkTraining
import Cx4Kernel.Cbios.LinkTrainingPlan
import Cx4Kernel.Cbios.LinkTrainingReport
import Cx4Kernel.Foundation.BitScatter
import Cx4Kernel.Cbios.ByteRegs
import Cx4Kernel.Cbios.ProgClock
import Cx4Kernel.Foundation.FixedPoint
import Cx4Kernel.Cbios.ProgClockReads
import Cx4Kernel.Cbios.SrTiming
import Cx4Kernel.Cbios.SrTimingRegs
import Cx4Kernel.Cbios.SrTimingExact
import Cx4Kernel.Cbios.SrTimingRuns
import Cx4Kernel.Foundation.KeyedList
import Cx4Kernel.Cbios.TimingTables
import Cx4Kernel.Cbios.SvdTimings
import Cx4Kernel.Foundation.CursorWalk
import Cx4Kernel.Cbios.CeaBlocks
import Cx4Kernel.Cbios.MonitorAttrib
import Cx4Kernel.Cbios.CeaBlocksSafety
import Cx4Kernel.Foundation.WriteLog
import Cx4Kernel.Cbios.YCbCr420
import Cx4Kernel.Foundation.Folds
import Cx4Kernel.Cbios.YCbCr420Runs
import Cx4Kernel.Cbios.CeaAudio
import Cx4Kernel.Foundation.SelectionRounds
import Cx4Kernel.Cbios.DeviceModes
import Cx4Kernel.Cbios.DeviceModesOrder
import Cx4Kernel.Cbios.DeviceModesListed
import Cx4Kernel.Cbios.DeviceModesCovered
import Cx4Kernel.Cbios.ModeTiming
import Cx4Kernel.Cbios.DeviceModesLimits
