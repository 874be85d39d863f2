import CameraKernel.Errno
import CameraKernel.MachineInt

/-! The request manager's link: the input queue, the request tables of the pipeline
delays, the devices, and the operations that touch one link only. Indices into the
rings are numbers; the linked list of tables is a list; a device finds its table by
its delay. The requests sent to devices are logged, and the devices' answers are a
parameter. -/
namespace CameraKernel.Crm

def maxReqSlots : ℕ := 48

def pipelineDelayMax : ℕ := 3

def triggerSof : ℕ := 1

def triggerEof : ℕ := 2

def syncModeSync : ℤ := 1

def skipNextFrameFlag : ℕ := 0x100

inductive SlotStatus
  | noReq
  | reqAdded
  | reqPending
  | reqApplied
  deriving DecidableEq, Repr

inductive ReqState
  | empty
  | pending
  | ready
  deriving DecidableEq, Repr

inductive LinkState
  | available
  | idle
  | ready
  | err
  deriving DecidableEq, Repr

/-- `struct cam_req_mgr_slot`; its `idx` is its place in the queue. -/
structure Slot where
  skipIdx : Bool
  status : SlotStatus
  recover : ℤ
  reqId : ℤ
  syncMode : ℤ
  deriving DecidableEq, Repr

structure ReqQueue where
  slot : ℕ → Slot
  rdIdx : ℕ
  wrIdx : ℕ
  lastAppliedIdx : ℤ

structure TblSlot where
  reqReadyMap : BitVec 32
  state : ReqState
  injectDelay : ℕ
  devHdl : ℤ
  skipNextFrame : Bool
  isApplied : Bool
  deriving DecidableEq, Repr

structure ReqTbl where
  pd : ℕ
  devCount : ℕ
  devMask : BitVec 32
  skipTraverse : ℕ
  pdDelta : ℕ
  slot : ℕ → TblSlot

structure Apply where
  idx : ℕ
  pd : ℕ
  reqId : ℤ
  skipIdx : Bool
  deriving DecidableEq, Repr

structure ConnectedDevice where
  devHdl : ℤ
  devBit : ℕ
  pDelay : ℕ
  trigger : ℕ
  deriving DecidableEq, Repr

/-- The fields of a link that its sync partner reads or writes. -/
structure LinkSync where
  syncLink : Option ℕ
  syncLinkSofSkip : Bool
  isMaster : Bool
  initialSkip : Bool
  inMsyncMode : Bool
  initialSyncReq : ℤ
  sofTimestamp : ℕ
  prevSofTimestamp : ℕ
  deriving DecidableEq, Repr

structure CoreLink where
  maxDelay : ℕ
  pdMask : BitVec 32
  devs : List ConnectedDevice
  inQ : ReqQueue
  lTbl : List ReqTbl
  applyData : ℕ → Apply
  state : LinkState
  subscribeEvent : ℕ
  triggerMask : ℕ
  openReqCnt : ℤ
  lastFlushId : ℕ
  sync : LinkSync

def incIdx (val : ℕ) (step : ℤ) : ℕ := ((val + step).tmod maxReqSlots).toNat

def decIdx (val : ℕ) (step : ℤ) : ℕ :=
  if (val : ℤ) - step < 0 then (maxReqSlots + (val - step)).toNat else ((val : ℤ) - step).toNat

/-- What a device answers to `get_dev_info`, with its handle. -/
structure DeviceInfo where
  devHdl : ℤ
  pDelay : ℕ
  trigger : ℕ
  deriving DecidableEq, Repr

def setupInQ : ReqQueue where
  slot _ := ⟨false, .noReq, 0, -1, 0⟩
  rdIdx := 0
  wrIdx := 0
  lastAppliedIdx := 0

def createPdTbl (pd : ℕ) : ReqTbl where
  pd := pd
  devCount := 0
  devMask := 0
  skipTraverse := 0
  pdDelta := 0
  slot _ := ⟨0, .empty, 0, 0, false, false⟩

/-- The walk to the last table with a larger delay, and the insertion behind it. -/
def addTblBehind (newTbl : ReqTbl) : List ReqTbl → List ReqTbl
  | [] => [newTbl]
  | [tbl] => [{ tbl with pdDelta := tbl.pd - newTbl.pd }, { newTbl with pdDelta := 0 }]
  | tbl :: next :: rest =>
    if newTbl.pd < next.pd then tbl :: addTblBehind newTbl (next :: rest)
    else { tbl with pdDelta := tbl.pd - newTbl.pd } ::
      { newTbl with pdDelta := newTbl.pd - next.pd } :: next :: rest

def addTblToLink (lTbl : List ReqTbl) (newTbl : ReqTbl) : List ReqTbl :=
  match lTbl with
  | [] => [newTbl]
  | tbl :: rest =>
    if tbl.pd < newTbl.pd then { newTbl with pdDelta := newTbl.pd - tbl.pd } :: tbl :: rest
    else addTblBehind newTbl (tbl :: rest)

def findPdTbl (lTbl : List ReqTbl) (delay : ℕ) : Option ReqTbl := lTbl.find? fun t => t.pd == delay

/-- Update the table of a delay. -/
def mapPdTbl (lTbl : List ReqTbl) (delay : ℕ) (f : ReqTbl → ReqTbl) : List ReqTbl :=
  lTbl.map fun t => if t.pd = delay then f t else t

/-- `1 << dev_bit` in an `int`: the shift count is taken modulo the width. -/
def devBitMask (devBit : ℕ) : BitVec 32 := 1#32 <<< (devBit % 32)

def tblSetAllSkipCnt (lTbl : List ReqTbl) : List ReqTbl :=
  match lTbl with
  | [] => []
  | tbl :: _ => lTbl.map fun t => { t with skipTraverse := tbl.pd - t.pd }

/-- One device of the second loop of `__cam_req_mgr_setup_link_info`. -/
def connectDevice (link : CoreLink) (info : DeviceInfo) : CoreLink :=
  let lTbl :=
    if link.pdMask.getLsbD info.pDelay then link.lTbl
    else addTblToLink link.lTbl (createPdTbl info.pDelay)
  let devBit := ((findPdTbl lTbl info.pDelay).map (·.devCount)).getD 0
  { link with
    pdMask := link.pdMask ||| 1#32 <<< info.pDelay
    lTbl := mapPdTbl lTbl info.pDelay fun t =>
      { t with devCount := t.devCount + 1, devMask := t.devMask ||| devBitMask devBit }
    devs := link.devs ++ [⟨info.devHdl, devBit, info.pDelay, info.trigger⟩]
    maxDelay := max link.maxDelay info.pDelay }

def zeroApply : Apply := ⟨0, 0, 0, false⟩

/-- A reserved link before its devices are connected. -/
def reservedLink (subscribeEvent : ℕ) (sync : LinkSync) : CoreLink where
  maxDelay := 0
  pdMask := 0
  devs := []
  inQ := setupInQ
  lTbl := []
  applyData _ := zeroApply
  state := .ready
  subscribeEvent := subscribeEvent
  triggerMask := 0
  openReqCnt := 0
  lastFlushId := 0
  sync := sync

/-- The link `__cam_req_mgr_setup_link_info` leaves for devices it accepts, with any
sync fields. -/
def setupLinkInfo (infos : List DeviceInfo) (sync : LinkSync) : CoreLink :=
  let link := infos.foldl connectDevice
    (reservedLink (infos.foldl (fun mask info => mask ||| info.trigger) 0) sync)
  { link with lTbl := tblSetAllSkipCnt link.lTbl }

/-- The delays the setup accepts. -/
def AcceptedDelays (infos : List DeviceInfo) : Prop := ∀ info ∈ infos, info.pDelay < pipelineDelayMax

instance (infos : List DeviceInfo) : Decidable (AcceptedDelays infos) :=
  inferInstanceAs (Decidable (∀ _ ∈ _, _))

def setSlot (inQ : ReqQueue) (idx : ℕ) (f : Slot → Slot) : ReqQueue :=
  { inQ with slot := Function.update inQ.slot idx (f (inQ.slot idx)) }

def findSlotFrom (inQ : ReqQueue) (reqId : ℤ) : ℕ → ℕ → Option ℕ
  | 0, _ => none
  | n + 1, idx =>
    if (inQ.slot idx).reqId = reqId then some idx else findSlotFrom inQ reqId n (decIdx idx 1)

def findSlotForReq (inQ : ReqQueue) (reqId : ℤ) : Option ℕ :=
  findSlotFrom inQ reqId maxReqSlots inQ.rdIdx

def inQSkipIdx (inQ : ReqQueue) (idx : ℕ) : ReqQueue :=
  setSlot inQ idx fun s => { s with reqId := -1, skipIdx := true, status := .reqAdded }

def setTblSlot (tbl : ReqTbl) (idx : ℕ) (f : TblSlot → TblSlot) : ReqTbl :=
  { tbl with slot := Function.update tbl.slot idx (f (tbl.slot idx)) }

def injectDelay : ℕ → List ReqTbl → ℤ × List ReqTbl
  | _, [] => (0, [])
  | idx, tbl :: rest =>
    let r := injectDelay (decIdx idx tbl.pdDelta) rest
    if 0 < (tbl.slot idx).injectDelay then
      (-Errno.EAGAIN,
        setTblSlot tbl idx (fun s => { s with injectDelay := s.injectDelay - 1 }) :: r.2)
    else (r.1, tbl :: r.2)

structure Traverse where
  rc : ℤ
  result : BitVec 32
  applyData : ℕ → Apply
  lTbl : List ReqTbl

def tblReady (inQ : ReqQueue) (tbl : ReqTbl) (idx : ℕ) : Prop :=
  (tbl.slot idx).state = .ready ∨ (inQ.slot idx).skipIdx = true ∨ 0 < tbl.skipTraverse

instance (inQ : ReqQueue) (tbl : ReqTbl) (idx : ℕ) : Decidable (tblReady inQ tbl idx) :=
  inferInstanceAs (Decidable (_ ∨ _))

/-- What a traversal that succeeds stores for a table. -/
def tblApply (inQ : ReqQueue) (tbl : ReqTbl) (idx : ℕ) (a : Apply) : Apply :=
  { a with
    idx := idx
    pd := tbl.pd
    reqId := if 0 < tbl.skipTraverse then -1 else (inQ.slot idx).reqId }

def traverse (inQ : ReqQueue) (validateOnly : Bool) (applyData : ℕ → Apply) (result : BitVec 32) :
    ℕ → List ReqTbl → Traverse
  | _, [] => ⟨-Errno.EINVAL, 0, applyData, []⟩
  | idx, tbl :: rest =>
    if tblReady inQ tbl idx then
      let r : Traverse := match rest with
        | [] => ⟨0, result, applyData, []⟩
        | _ :: _ => traverse inQ validateOnly applyData result (decIdx idx tbl.pdDelta) rest
      if 0 ≤ r.rc then
        let result := r.result ||| 1#32 <<< tbl.pd
        if validateOnly then ⟨0, result, r.applyData, tbl :: r.lTbl⟩
        else ⟨0, result, Function.update r.applyData tbl.pd (tblApply inQ tbl idx (r.applyData tbl.pd)),
          { tbl with skipTraverse := tbl.skipTraverse - 1 } :: r.lTbl⟩
      else ⟨r.rc, r.result, r.applyData, tbl :: r.lTbl⟩
    else ⟨-Errno.EAGAIN, result &&& ~~~(1#32 <<< tbl.pd), applyData, tbl :: rest⟩

def checkLinkIsReady (link : CoreLink) (idx : ℕ) (validateOnly : Bool) : ℤ × CoreLink :=
  let applyData := if validateOnly then link.applyData else fun _ => zeroApply
  let t := traverse link.inQ validateOnly applyData 0 idx link.lTbl
  (if t.rc = 0 ∧ t.result = link.pdMask then 0 else -Errno.EAGAIN,
    { link with
      applyData := t.applyData
      lTbl := t.lTbl
      sync := { link.sync with initialSkip := false } })

def resetReqSlot (link : CoreLink) (idx : ℕ) : CoreLink :=
  if (link.inQ.slot idx).status = .reqAdded ∨ link.inQ.lastAppliedIdx = idx then link
  else { link with
    inQ := setSlot link.inQ idx fun _ => ⟨false, .noReq, 0, -1, 0⟩
    lTbl := link.lTbl.map fun t =>
      setTblSlot t idx fun s => { s with reqReadyMap := 0, state := .empty } }

def checkForLowerPdDevices (link : CoreLink) : Bool :=
  link.devs.any fun dev => dev.pDelay < link.maxDelay

/-- The link with the next slot filled, or `none` when there is nothing to move on to. -/
def checkNextReqSlot (link : CoreLink) : Option CoreLink :=
  let idx := incIdx link.inQ.rdIdx 1
  if (link.inQ.slot idx).status = .noReq then
    if checkForLowerPdDevices link then
      let inQ := inQSkipIdx link.inQ idx
      some { link with inQ := { inQ with wrIdx := incIdx inQ.wrIdx 1 } }
    else none
  else some link

/-- A call of a device's `apply_req`, with the device's place on the link. -/
structure ApplyReq where
  dev : ℕ
  devHdl : ℤ
  requestId : ℤ
  reportIfBubble : ℤ
  triggerPoint : ℕ
  deriving DecidableEq, Repr

structure SendResult where
  rc : ℤ
  lTbl : List ReqTbl
  openReqCnt : ℤ
  calls : List ApplyReq

def devTblSlot (lTbl : List ReqTbl) (dev : ConnectedDevice) (idx : ℕ) : Option TblSlot :=
  (findPdTbl lTbl dev.pDelay).map fun t => t.slot idx

/-- The first loop of `__cam_req_mgr_send_req`: the first device that asked to go ahead of
the others is sent the request, and the others wait. -/
def sendAhead (link : CoreLink) (trigger : ℕ) (answer : ℕ → ℤ) :
    ℕ → List ConnectedDevice → Option SendResult
  | _, [] => none
  | n, dev :: rest =>
    let apply := link.applyData dev.pDelay
    match devTblSlot link.lTbl dev apply.idx with
    | none => sendAhead link trigger answer (n + 1) rest
    | some slot =>
      if dev.pDelay < pipelineDelayMax ∧ slot.skipNextFrame = true ∧ slot.devHdl = dev.devHdl ∧
          dev.trigger &&& trigger ≠ 0 then
        let rc := answer 0
        let calls := [⟨n, dev.devHdl, apply.reqId, 0, trigger⟩]
        if rc ≠ 0 then some ⟨rc, link.lTbl, link.openReqCnt, calls⟩
        else some ⟨-Errno.EAGAIN,
          mapPdTbl link.lTbl dev.pDelay fun t =>
            setTblSlot t apply.idx fun s => { s with skipNextFrame := false, isApplied := true },
          link.openReqCnt, calls⟩
      else sendAhead link trigger answer (n + 1) rest

/-- The second loop: every device is sent the request of its delay. -/
def sendAll (link : CoreLink) (trigger : ℕ) (answer : ℕ → ℤ) :
    ℕ → List ConnectedDevice → SendResult → SendResult
  | _, [], r => r
  | n, dev :: rest, r =>
    let apply := link.applyData dev.pDelay
    if dev.pDelay ≥ pipelineDelayMax ∨ apply.skipIdx = true ∨ apply.reqId < 0 ∨
        dev.trigger &&& trigger = 0 then sendAll link trigger answer (n + 1) rest r
    else
      match devTblSlot r.lTbl dev apply.idx with
      | none => sendAll link trigger answer (n + 1) rest r
      | some slot =>
        if slot.devHdl = dev.devHdl ∧ slot.isApplied = true then
          sendAll link trigger answer (n + 1) rest { r with
            lTbl := mapPdTbl r.lTbl dev.pDelay fun t =>
              setTblSlot t apply.idx fun s => { s with isApplied := false } }
        else
          let rc := answer r.calls.length
          let r := { r with
            rc := rc
            calls := r.calls ++
              [⟨n, dev.devHdl, apply.reqId, (link.inQ.slot apply.idx).recover, trigger⟩] }
          if rc < 0 then r
          else sendAll link trigger answer (n + 1) rest
            (if dev.pDelay = link.maxDelay then { r with openReqCnt := r.openReqCnt - 1 } else r)

def sendReq (link : CoreLink) (trigger : ℕ) (answer : ℕ → ℤ) : SendResult :=
  match sendAhead link trigger answer 0 link.devs with
  | some r => r
  | none => sendAll link trigger answer 0 link.devs ⟨0, link.lTbl, link.openReqCnt, []⟩

/-- `cam_req_mgr_process_sched_req` on the link itself. -/
def enqueueReq (link : CoreLink) (reqId syncMode bubbleEnable : ℤ) : CoreLink :=
  let inQ := setSlot link.inQ link.inQ.wrIdx fun s =>
    { s with
      status := .reqAdded
      reqId := reqId
      syncMode := syncMode
      skipIdx := false
      recover := bubbleEnable }
  { link with
    inQ := { inQ with wrIdx := incIdx inQ.wrIdx 1 }
    openReqCnt := link.openReqCnt + 1
    sync := { link.sync with initialSyncReq :=
      if syncMode = syncModeSync then
        if link.sync.initialSyncReq = -1 then reqId else link.sync.initialSyncReq
      else -1 } }

/-- What `cam_req_mgr_process_add_req` does to the slot of the device's table. -/
def addToTblSlot (dev : ConnectedDevice) (skipBeforeApplying : ℕ) (devMask : BitVec 32) (s : TblSlot) :
    TblSlot :=
  let s := { s with isApplied := false }
  let s :=
    if skipBeforeApplying &&& 0xFF > s.injectDelay then
      { s with
        injectDelay := skipBeforeApplying &&& 0xFF
        devHdl := dev.devHdl
        skipNextFrame :=
          if skipBeforeApplying &&& skipNextFrameFlag ≠ 0 then true else s.skipNextFrame }
    else s
  let map := s.reqReadyMap ||| devBitMask dev.devBit
  { s with reqReadyMap := map, state := if map = devMask then .ready else .pending }

def processAddReq (link : CoreLink) (devHdl reqId : ℤ) (skipBeforeApplying : ℕ) : ℤ × CoreLink :=
  match link.devs.find? fun d => d.devHdl == devHdl with
  | none => (-Errno.EINVAL, link)
  | some dev =>
    match findSlotForReq link.inQ reqId with
    | none => (-Errno.EBADSLT, link)
    | some idx =>
      let lTbl := mapPdTbl link.lTbl dev.pDelay fun t =>
        setTblSlot t idx (addToTblSlot dev skipBeforeApplying t.devMask)
      (0, { link with lTbl := lTbl })

/-- `cam_req_mgr_process_error`; only a bubble is acted on. -/
def processError (link : CoreLink) (bubble : Bool) (reqId : ℤ) : ℤ × CoreLink :=
  if bubble = false then (0, link)
  else
    match findSlotForReq link.inQ reqId with
    | none => (0, link)
    | some idx =>
      let slot := link.inQ.slot idx
      if slot.recover = 0 then (0, link)
      else if slot.status ≠ .reqPending ∧ slot.status ≠ .reqApplied then (-Errno.EINVAL, link)
      else
        let inQ := setSlot ({ link.inQ with rdIdx := idx }) idx fun s => { s with status := .reqAdded }
        let inQ :=
          if link.sync.syncLink.isSome then
            let inQ := setSlot inQ idx fun s => { s with syncMode := 0 }
            setSlot inQ (incIdx idx 1) fun s => { s with syncMode := 0 }
          else inQ
        (0, { link with inQ := inQ, lTbl := tblSetAllSkipCnt link.lTbl, state := .err })

/-- `cam_req_mgr_process_flush_req` with type ALL. -/
def flushAll (link : CoreLink) (reqId : ℤ) : CoreLink :=
  { link with
    lastFlushId := (reqId % (MachineInt.u32Max + 1)).toNat
    inQ :=
      { link.inQ with
        slot := fun i =>
          { link.inQ.slot i with reqId := -1, syncMode := 0, skipIdx := true, status := .noReq }
        wrIdx := 0
        rdIdx := 0 } }

/-- `cam_req_mgr_process_flush_req` with type CANCEL_REQ. -/
def cancelReq (link : CoreLink) (reqId : ℤ) : ℤ × CoreLink :=
  match findSlotForReq link.inQ reqId with
  | none => (0, link)
  | some idx =>
    if (link.inQ.slot idx).status = .reqPending ∨ (link.inQ.slot idx).status = .reqApplied then
      (-Errno.EINVAL, link)
    else (0, { link with inQ := inQSkipIdx link.inQ idx })

end CameraKernel.Crm
