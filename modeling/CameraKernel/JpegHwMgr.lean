import CameraKernel.Errno
import CameraKernel.Transition

/-! The requests of the JPEG hardware manager. A section that a handler runs under the manager's
mutex is one step, and what the handler does after it is a step of its own. Giving a request object
back to the free list, which `cam_jpeg_mgr_process_irq` and the error exit of
`cam_jpeg_mgr_config_hw` do without the mutex, is taken as atomic. -/
namespace CameraKernel.JpegHwMgr

inductive DevType
  | enc | dma
  deriving DecidableEq, Repr

namespace Entry

def chbase : ℕ := 0
def param : ℕ := 2

end Entry

def camJpegHwCfgQMax : ℕ := 50

structure HwUpdateEntry where
  handle : ℕ
  offset : ℕ

/-- `outMapEntries` are the resource handles of the out map. -/
structure ConfigArgs where
  ctxtToHwMap : ℕ
  priv : ℕ
  numHwUpdateEntries : ℕ
  hwUpdateEntries : ℕ → HwUpdateEntry
  outMapEntries : List ℕ

/-- `serial` numbers the requests in the order in which they were configured. -/
structure CfgReq where
  hwCfgArgs : ConfigArgs
  devType : DevType
  reqId : ℕ
  serial : ℕ

structure CtxData where
  inUse : Bool
  devType : DevType

structure HwDoneEventData where
  requestId : ℕ
  resourceHandle : List ℕ
  deriving DecidableEq, Repr

def doneEvent (args : ConfigArgs) : HwDoneEventData := ⟨args.priv, args.outMapEntries⟩

/-- How a request went: reported to a context, or dropped by a flush of one. -/
inductive Outcome
  | done (ctx : ℕ) (data : HwDoneEventData) (serial : ℕ)
  | flushed (ctx serial : ℕ)
  deriving DecidableEq, Repr

def Outcome.serial : Outcome → ℕ
  | .done _ _ serial => serial
  | .flushed _ serial => serial

structure HwOps where
  init : Bool
  deinit : Bool
  start : Bool
  stop : Bool
  reset : Bool
  processCmd : Bool

def hwOps : DevType → HwOps
  | .enc => ⟨true, true, true, true, true, true⟩
  | .dma => ⟨true, true, false, false, false, true⟩

/-- `busy` holds from a start to the next interrupt, `irqCb` is the context that is registered. -/
structure Device where
  refCount : ℕ
  started : Bool
  busy : Bool
  irqCb : Option ℕ
  deriving DecidableEq, Repr

/-- `rc` is what enabling the clocks and the bus vote returns. -/
def Device.initHw (h : Device) (rc : ℤ) : ℤ × Device :=
  if 0 < h.refCount then (0, { h with refCount := h.refCount + 1 })
  else if rc ≠ 0 then (rc, h)
  else (0, { h with refCount := 1 })

def Device.deinitHw (h : Device) : ℤ × Device :=
  if 1 < h.refCount then (0, { h with refCount := h.refCount - 1 })
  else if h.refCount = 0 then (-Errno.EFAULT, h)
  else (0, { h with refCount := 0, started := false, busy := false })

def Device.setIrqCb (h : Device) (rc : ℤ) (cb : Option ℕ) : ℤ × Device :=
  if rc ≠ 0 then (rc, h) else (0, { h with irqCb := cb })

def Device.startHw (h : Device) (rc : ℤ) : ℤ × Device :=
  if rc ≠ 0 then (rc, h) else (0, { h with started := true, busy := true })

def Device.stopHw (h : Device) : ℤ × Device :=
  if h.refCount = 0 then (-Errno.EINVAL, h) else (0, { h with started := false, busy := false })

/-- What a configuration has left to do after it dropped the mutex. -/
inductive ConfigTail
  | enqueue (req : ℕ)
  | giveBack (req : ℕ)
  deriving DecidableEq, Repr

/-- A frame task that failed and dropped the mutex; `ctx` is the context it calls back. -/
structure CmdTail where
  req : ℕ
  ctx : Option ℕ
  deriving DecidableEq, Repr

/-- An interrupt task that took the request of its device and dropped the mutex. -/
structure IrqTail where
  req : ℕ
  ctx : ℕ
  deriving DecidableEq, Repr

/-- The frame workqueue is the number of its queued tasks, the interrupt workqueue the contexts
of its tasks. `configured` and `log` record the configured requests and how they went. -/
structure HwMgr where
  reqList : ℕ → CfgReq
  freeReqList : List ℕ
  hwConfigReqList : List ℕ
  deviceInUse : DevType → Bool
  devHwCfgArgs : DevType → Option ℕ
  devices : DevType → Device
  workProcessFrame : ℕ
  workProcessIrqCb : List ℕ
  configTails : List ConfigTail
  cmdTail : Option CmdTail
  irqTail : Option IrqTail
  configured : List ConfigArgs
  log : List Outcome

namespace HwMgr

def setDevice (s : HwMgr) (d : DevType) (h : Device) : HwMgr :=
  { s with devices := Function.update s.devices d h }

def setSlot (s : HwMgr) (d : DevType) (o : Option ℕ) : HwMgr :=
  { s with
    deviceInUse := Function.update s.deviceInUse d o.isSome
    devHwCfgArgs := Function.update s.devHwCfgArgs d o }

def listDel (s : HwMgr) (o : ℕ) : HwMgr :=
  { s with
    freeReqList := s.freeReqList.erase o
    hwConfigReqList := s.hwConfigReqList.erase o }

def addFree (s : HwMgr) (o : ℕ) : HwMgr := { s with freeReqList := s.freeReqList ++ [o] }

def ctxOf (s : HwMgr) (o : ℕ) : ℕ := (s.reqList o).hwCfgArgs.ctxtToHwMap

/-- The callback of context `ctx` with the request that the object `o` holds. -/
def ctxtEventCb (s : HwMgr) (ctx o : ℕ) : HwMgr :=
  { s with log := s.log ++ [Outcome.done ctx (doneEvent (s.reqList o).hwCfgArgs) (s.reqList o).serial] }

end HwMgr

def camJpegHwMgrInit : HwMgr where
  reqList _ := ⟨⟨0, 0, 0, fun _ => ⟨0, 0⟩, []⟩, .enc, 0, 0⟩
  freeReqList := List.range camJpegHwCfgQMax
  hwConfigReqList := []
  deviceInUse _ := false
  devHwCfgArgs _ := none
  devices _ := ⟨0, false, false, none⟩
  workProcessFrame := 0
  workProcessIrqCb := []
  configTails := []
  cmdTail := none
  irqTail := none
  configured := []
  log := []

section
variable (ctxData : ℕ → CtxData)

/-- `taskFree` is whether the frame workqueue has an empty task. The returned code is that of
the whole call, of which the tail is still to run. -/
def camJpegMgrConfigHw (s : HwMgr) (args : ConfigArgs) (taskFree : Bool) : ℤ × HwMgr :=
  if args.numHwUpdateEntries = 0 then (-Errno.EINVAL, s)
  else if !(ctxData args.ctxtToHwMap).inUse then (-Errno.EINVAL, s)
  else match s.freeReqList with
    | [] => (-Errno.ENOMEM, s)
    | o :: free =>
      let req : CfgReq :=
        ⟨args, (ctxData args.ctxtToHwMap).devType, args.priv, s.configured.length⟩
      let s := { s with freeReqList := free, reqList := Function.update s.reqList o req }
      if !taskFree then (-Errno.ENOMEM, { s with configTails := .giveBack o :: s.configTails })
      else
        (0, { s with
          hwConfigReqList := s.hwConfigReqList ++ [o]
          configTails := .enqueue o :: s.configTails
          configured := s.configured ++ [args] })

-- The workqueue lives as long as the manager, so it takes the task.
def configEnqueue (s : HwMgr) (o : ℕ) : HwMgr :=
  if .enqueue o ∈ s.configTails then
    { s with
      configTails := s.configTails.erase (.enqueue o)
      workProcessFrame := s.workProcessFrame + 1 }
  else s

def configGiveBack (s : HwMgr) (o : ℕ) : HwMgr :=
  if .giveBack o ∈ s.configTails then
    { s with
      configTails := s.configTails.erase (.giveBack o)
      freeReqList := s.freeReqList ++ [o] }
  else s

/-- The return codes of the steps on the hardware; `chBaseLen` is the length of the buffer with
the change-base command, or `none` where it cannot be mapped. -/
structure CmdAnswers where
  init : ℤ
  setIrqCb : ℤ
  reset : ℤ
  chBaseLen : Option ℕ
  submitBls : ℤ
  start : ℤ
  deriving DecidableEq, Repr

def camJpegInsertCdmChangeBase (args : ConfigArgs) (len : Option ℕ) : ℤ :=
  match len with
  | none => -Errno.EINVAL
  | some len => if len ≤ (args.hwUpdateEntries Entry.chbase).offset then -Errno.EINVAL else 0

/-- The steps from the callback on, which fail to one label. -/
def runHw (ops : HwOps) (ctx : ℕ) (args : ConfigArgs) (ans : CmdAnswers) (h : Device) :
    ℤ × Device :=
  if !ops.processCmd then (-Errno.EFAULT, h)
  else
    let (rc, h) := h.setIrqCb ans.setIrqCb (some ctx)
    if rc ≠ 0 then (rc, h)
    else if !ops.reset then (-Errno.EFAULT, h)
    else if ans.reset ≠ 0 then (ans.reset, h)
    else
      let rc := camJpegInsertCdmChangeBase args ans.chBaseLen
      if rc ≠ 0 then (rc, h)
      else if ans.submitBls ≠ 0 then (ans.submitBls, h)
      else if !ops.start then (-Errno.EINVAL, h)
      else h.startHw ans.start

/-- Runs once for a queued frame task, and not while an earlier one is still running. -/
def camJpegMgrProcessCmd (s : HwMgr) (ans : CmdAnswers) : ℤ × HwMgr :=
  if s.workProcessFrame = 0 ∨ s.cmdTail.isSome then (0, s)
  else
    let s := { s with workProcessFrame := s.workProcessFrame - 1 }
    match s.hwConfigReqList with
    | [] => (-Errno.EFAULT, s)
    | o :: _ =>
      let dev := (s.reqList o).devType
      if s.deviceInUse dev then (-Errno.EFAULT, s)
      else
        let s := (s.setSlot dev (some o)).listDel o
        let args := (s.reqList o).hwCfgArgs
        if args.numHwUpdateEntries = 0 then (-Errno.EINVAL, { s with cmdTail := some ⟨o, none⟩ })
        else
          let ctx := args.ctxtToHwMap
          if !(ctxData ctx).inUse then (-Errno.EINVAL, { s with cmdTail := some ⟨o, none⟩ })
          else
            let devType := (ctxData ctx).devType
            if !(hwOps devType).init then (-Errno.EFAULT, s)
            else
              let (rc, h) := (s.devices devType).initHw ans.init
              if rc ≠ 0 then (rc, s.setDevice devType h)
              else
                let (rc, h) := runHw (hwOps devType) ctx args ans h
                let s := s.setDevice devType h
                if rc ≠ 0 then (rc, { s with cmdTail := some ⟨o, some ctx⟩ })
                else (0, s)

/-- The rest of a failed frame task: the callback, then the device is given up. -/
def processCmdCallback (s : HwMgr) : HwMgr :=
  match s.cmdTail with
  | none => s
  | some t =>
    let s := { s with cmdTail := none }
    let s := match t.ctx with
      | none => s
      | some ctx => s.ctxtEventCb ctx t.req
    s.setSlot (s.reqList t.req).devType none

/-- `taskFree` is whether the interrupt workqueue has an empty task. -/
def camJpegHwMgrCb (s : HwMgr) (dev : DevType) (taskFree : Bool) : HwMgr :=
  if (s.devices dev).refCount = 0 then s
  else
    let t := s.setDevice dev { s.devices dev with busy := false }
    match (s.devices dev).irqCb with
    | none => t
    | some ctx =>
      if !taskFree then t else { t with workProcessIrqCb := t.workProcessIrqCb ++ [ctx] }

/-- Runs the next interrupt task, and not while an earlier one is still running. `rc` is what
unregistering the callback returns. -/
def camJpegMgrProcessIrq (s : HwMgr) (rc : ℤ) : ℤ × HwMgr :=
  if s.irqTail.isSome then (0, s)
  else match s.workProcessIrqCb with
    | [] => (0, s)
    | ctx :: tasks =>
      let s := { s with workProcessIrqCb := tasks }
      if !(ctxData ctx).inUse then (-Errno.EINVAL, s)
      else
        let dev := (ctxData ctx).devType
        match s.devHwCfgArgs dev, s.deviceInUse dev with
        | none, _ => (-Errno.EINVAL, s)
        | some _, false => (-Errno.EINVAL, s)
        | some o, true =>
          if !(hwOps dev).processCmd then (-Errno.EINVAL, s)
          else
            let (rc, h) := (s.devices dev).setIrqCb rc none
            if rc ≠ 0 then (rc, s.setDevice dev h)
            else
              let h := if (hwOps dev).deinit then h.deinitHw.2 else h
              (0, { (s.setDevice dev h).setSlot dev none with irqTail := some ⟨o, ctx⟩ })

/-- `paramLen` is the length of the buffer for the encoded size. -/
structure IrqAnswers where
  taskFree : Bool
  paramLen : Option ℕ
  deriving DecidableEq, Repr

def processIrqDone (s : HwMgr) (ans : IrqAnswers) : ℤ × HwMgr :=
  match s.irqTail with
  | none => (0, s)
  | some t =>
    let s := { s with irqTail := none }
    if !ans.taskFree then (-Errno.EINVAL, s)
    else
      let s := { s with workProcessFrame := s.workProcessFrame + 1 }
      match ans.paramLen with
      | none => (-Errno.EINVAL, s)
      | some len =>
        if len ≤ ((s.reqList t.req).hwCfgArgs.hwUpdateEntries Entry.param).offset / 4 then
          (-Errno.EINVAL, s)
        else (0, (s.ctxtEventCb t.ctx t.req).addFree t.req)

/-- `rc` is what unregistering the callback returns. Failures are only logged. -/
def stopDeinitDevice (ops : HwOps) (rc : ℤ) (h : Device) : Device :=
  let h := if ops.processCmd then (h.setIrqCb rc none).2 else h
  let h := if ops.stop then h.stopHw.2 else h
  if ops.deinit then h.deinitHw.2 else h

def camJpegMgrStopDeinitDev (s : HwMgr) (rc : ℤ) (dev : DevType) : HwMgr :=
  (s.setDevice dev (stopDeinitDevice (hwOps dev) rc (s.devices dev))).setSlot dev none

/-- An object goes to the free list, and its request is dropped on behalf of `ctx`. -/
def dropReq (ctx : ℕ) (s : HwMgr) (o : ℕ) : HwMgr :=
  { (s.listDel o).addFree o with log := s.log ++ [Outcome.flushed ctx (s.reqList o).serial] }

/-- The request of a busy device that a flush stops. -/
def slotReq (s : HwMgr) (dev : DevType) (sel : ℕ → Bool) : Option ℕ :=
  if s.deviceInUse dev then (s.devHwCfgArgs dev).filter sel else none

def flushSlot (s : HwMgr) (ctx : ℕ) (sel : ℕ → Bool) (rc : ℤ) : HwMgr :=
  let dev := (ctxData ctx).devType
  match slotReq s dev sel with
  | none => s
  | some o => dropReq ctx (camJpegMgrStopDeinitDev s rc dev) o

def camJpegMgrFlush (s : HwMgr) (ctx : ℕ) (rc : ℤ) : HwMgr :=
  let s := flushSlot ctxData s ctx (fun o => s.ctxOf o = ctx) rc
  s.hwConfigReqList.foldl (fun t o => if t.ctxOf o ≠ ctx then t else dropReq ctx t o) s

structure FlushArgs where
  ctxtToHwMap : ℕ
  flushType : ℕ
  numReqPending : ℕ
  numReqActive : ℕ
  flushReqActive : ℕ

/-- The request that a single flush names. The id is compared as the signed `long` it is kept in. -/
def FlushArgs.names (args : FlushArgs) (s : HwMgr) (ctx o : ℕ) : Bool :=
  s.ctxOf o = ctx && (s.reqList o).reqId = args.flushReqActive

def camJpegMgrFlushReq (s : HwMgr) (ctx : ℕ) (args : FlushArgs) (rc : ℤ) : ℤ × HwMgr :=
  if args.numReqPending ≠ 0 then (0, s)
  else if args.numReqActive = 0 then (0, s)
  else if args.flushReqActive = 0 ∨ 2 ^ 63 ≤ args.flushReqActive then (-Errno.EINVAL, s)
  else
    let found := (slotReq s (ctxData ctx).devType (args.names s ctx)).isSome
    let s := flushSlot ctxData s ctx (args.names s ctx) rc
    match s.hwConfigReqList.find? (args.names s ctx) with
    | none => (if found then 0 else -Errno.EINVAL, s)
    | some o => (0, dropReq ctx s o)

def flushTypeReq : ℕ := 0
def flushTypeAll : ℕ := 1

def camJpegMgrHwFlush (s : HwMgr) (args : FlushArgs) (rc : ℤ) : ℤ × HwMgr :=
  if !(ctxData args.ctxtToHwMap).inUse then (-Errno.EINVAL, s)
  else if args.flushType = flushTypeAll then (0, camJpegMgrFlush ctxData s args.ctxtToHwMap rc)
  else if args.flushType = flushTypeReq then
    camJpegMgrFlushReq ctxData s args.ctxtToHwMap args rc
  else (-Errno.EINVAL, s)

def camJpegMgrHwStop (s : HwMgr) (ctx : ℕ) (rc : ℤ) : ℤ × HwMgr :=
  if !(ctxData ctx).inUse then (-Errno.EINVAL, s) else (0, camJpegMgrFlush ctxData s ctx rc)

inductive Op
  | configHw (args : ConfigArgs) (taskFree : Bool)
  | configEnqueue (req : ℕ)
  | configGiveBack (req : ℕ)
  | processCmd (ans : CmdAnswers)
  | processCmdCallback
  | interrupt (dev : DevType) (taskFree : Bool)
  | processIrq (rc : ℤ)
  | processIrqDone (ans : IrqAnswers)
  | hwFlush (args : FlushArgs) (rc : ℤ)
  | hwStop (ctx : ℕ) (rc : ℤ)

def step (s : HwMgr) : Op → HwMgr
  | .configHw args taskFree => (camJpegMgrConfigHw ctxData s args taskFree).2
  | .configEnqueue o => configEnqueue s o
  | .configGiveBack o => configGiveBack s o
  | .processCmd ans => (camJpegMgrProcessCmd ctxData s ans).2
  | .processCmdCallback => processCmdCallback s
  | .interrupt dev taskFree => camJpegHwMgrCb s dev taskFree
  | .processIrq rc => (camJpegMgrProcessIrq ctxData s rc).2
  | .processIrqDone ans => (processIrqDone s ans).2
  | .hwFlush args rc => (camJpegMgrHwFlush ctxData s args rc).2
  | .hwStop ctx rc => (camJpegMgrHwStop ctxData s ctx rc).2

end

/-- No handler is between two of its sections. -/
def HwMgr.quiet (s : HwMgr) : Prop := s.configTails = [] ∧ s.cmdTail = none ∧ s.irqTail = none

def HwMgr.slotReqs (s : HwMgr) : List ℕ :=
  (s.devHwCfgArgs .enc).toList ++ (s.devHwCfgArgs .dma).toList

/-- The objects whose request is neither completed nor flushed. -/
def HwMgr.unfinished (s : HwMgr) : List ℕ :=
  s.hwConfigReqList ++ (s.slotReqs ++ (s.irqTail.map IrqTail.req).toList)

/-- A request goes to the context that configured it, a completed one as its done event. -/
def Outcome.About : Outcome → ConfigArgs → Prop
  | .done ctx data _, args => ctx = args.ctxtToHwMap ∧ data = doneEvent args
  | .flushed ctx _, args => ctx = args.ctxtToHwMap

/-- The first of the requests waits for a device that is not in use. -/
def HwMgr.idleHead (s : HwMgr) (inUse : DevType → Bool) : List ℕ → Bool
  | [] => false
  | o :: _ => !inUse (s.reqList o).devType

structure Conserved (ctxData : ℕ → CtxData) (s : HwMgr) : Prop where
  place : s.quiet →
    List.Perm (s.freeReqList ++ (s.hwConfigReqList ++ s.slotReqs)) (List.range camJpegHwCfgQMax)
  inUse : s.quiet → ∀ d, s.deviceInUse d = true ↔
    (s.devHwCfgArgs d).isSome ∧ 0 < (s.devices d).refCount ∧ (s.devices d).started = true
  kept : ∀ o ∈ s.unfinished, s.configured[(s.reqList o).serial]? = some (s.reqList o).hwCfgArgs
  once : ∀ n, (s.unfinished.map fun o => (s.reqList o).serial).count n +
    (s.log.map Outcome.serial).count n = if n < s.configured.length then 1 else 0
  owner : ∀ e ∈ s.log, ∃ args, s.configured[e.serial]? = some args ∧ e.About args
  wake : s.quiet → s.idleHead s.deviceInUse s.hwConfigReqList = true → 0 < s.workProcessFrame
  answered : ∀ d, (s.devHwCfgArgs d).isSome → (s.devices d).busy = true ∨
    ∃ ctx ∈ s.workProcessIrqCb, (ctxData ctx).devType = d

end CameraKernel.JpegHwMgr
