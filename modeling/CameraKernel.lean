import CameraKernel.SyncGroupCount
import CameraKernel.SyncGroupOutcome
import CameraKernel.SyncForeignHit
import CameraKernel.LinkPairing
import CameraKernel.CdmRoundTrip
import CameraKernel.CdmBounds
import CameraKernel.GenericBlob
import CameraKernel.CrmFlush
import CameraKernel.HandleTable
import CameraKernel.HfiCmdQueue
import CameraKernel.HfiMsgQueue
import CameraKernel.Workq
import CameraKernel.MemMgrTable
import CameraKernel.IspCounter
import CameraKernel.IspPending
import CameraKernel.IspConserve
import CameraKernel.IspBubble
import CameraKernel.IspHwOwner
import CameraKernel.IrqController
import CameraKernel.Tasklet
import CameraKernel.CciBus
import CameraKernel.SensorParse
import CameraKernel.CciPackets
import CameraKernel.CtxFences
import CameraKernel.CtxCallback
import CameraKernel.CpasVotes
import CameraKernel.AisBuffers
import CameraKernel.ResMgrHolders
import CameraKernel.IfeRecovery
import CameraKernel.IfeDualPairs
import CameraKernel.CdmHw
import CameraKernel.CdmCompletions
import CameraKernel.HolderCount
import CameraKernel.CdmStream
import CameraKernel.CdmStreamAccount
import CameraKernel.IfeStart
import CameraKernel.IfeStartCount
import CameraKernel.CrmTables
import CameraKernel.CrmTraverse
import CameraKernel.CrmReady
import CameraKernel.SyncIoctl
import CameraKernel.SyncSignal
import CameraKernel.SyncLinks
import CameraKernel.SyncClose
import CameraKernel.SyncPayload
import CameraKernel.SyncPayloadRun
import CameraKernel.VfeBus
import CameraKernel.VfeBusAccount
import CameraKernel.VfeBusReserve
import CameraKernel.BufDone
import CameraKernel.BufDoneOnce
import CameraKernel.ObjectPool
import CameraKernel.JpegHwMgr
import CameraKernel.JpegConserve
import CameraKernel.CrmSyncApply
import CameraKernel.CrmLinkSetup
import CameraKernel.PacketUtil
import CameraKernel.PlaneSize
import CameraKernel.PacketPatches
import CameraKernel.LockDiscipline
import CameraKernel.CrmLock
import CameraKernel.CdmDump
import CameraKernel.Smmu
import CameraKernel.MapHwVa
import CameraKernel.MemMgrMappings
import CameraKernel.MemMgrRequest
import CameraKernel.BitArea
import CameraKernel.ScratchVa
import CameraKernel.ScratchBounds
import CameraKernel.PageFault
import CameraKernel.HfiStart
import CameraKernel.IrqDispatch
import CameraKernel.ContextDump
import CameraKernel.CtxSubmit
import CameraKernel.SmmuRecord
import CameraKernel.MemMgrUndo
import CameraKernel.OrderedTrace
import CameraKernel.IspReports
import CameraKernel.CpasPower
import CameraKernel.SharedPinctrl
import CameraKernel.AisFrames
import CameraKernel.CciLoad
import CameraKernel.CciRead
import CameraKernel.IspPrepare
import CameraKernel.IspRegUpdate
import CameraKernel.IspEntries
import CameraKernel.IspWellFormed
import CameraKernel.IfeRegUpdate
import CameraKernel.IfeStop
import CameraKernel.IspDual
import CameraKernel.PacketWalk
import CameraKernel.IcpMessages
import CameraKernel.RefTrace
import CameraKernel.IcpPrepare
import CameraKernel.CdmFifo
import CameraKernel.IcpClk
import CameraKernel.IcpBandwidth
import CameraKernel.IcpAcquire
import CameraKernel.BlobReader
import CameraKernel.IspBlobs
import CameraKernel.IcpBlobs
import CameraKernel.RemoveDuplicates
import CameraKernel.MarkedMin
import CameraKernel.ClosestMapping
import CameraKernel.JpegPrepare
import CameraKernel.VfeBusUpdate
import CameraKernel.VfeBusLists
import CameraKernel.RunningMax
import CameraKernel.SensorRequests
import CameraKernel.SensorFrames
import CameraKernel.SensorFlush
import CameraKernel.PowerSettings
import CameraKernel.PowerSettingsParse
import CameraKernel.PowerSettingsWalk
import CameraKernel.PowerSettingsRun
