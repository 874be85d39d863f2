import CameraKernel.Errno

/-! Acquiring a context of the ICP: the firmware and the devices are started, the context gets a
handle and its io configuration, and a step that fails goes to a ladder of labels. -/
namespace CameraKernel.IcpAcquire

abbrev CAM_ICP_CTX_MAX : ℕ := 54
def CAM_SECURE_MODE_SECURE : UInt32 := 1
def CAM_ICP_RES_TYPE_BPS : UInt32 := 1
def CAM_ICP_RES_TYPE_MAX : UInt32 := 4
def ICP_MAX_OUTPUT_SUPPORTED : UInt32 := 6

structure AcquireInfo where
  devType : UInt32
  secureMode : UInt32
  numOutRes : UInt32
  deriving DecidableEq, Repr

inductive CtxState
  | free | inUse | acquired | release
  deriving DecidableEq, Repr

structure Ctx where
  state : CtxState
  icpDevAcquireInfo : Option AcquireInfo
  bitmap : Bool
  fwHandle : UInt32
  deriving DecidableEq, Repr

/-- What the steps take and give back: the counts of the contexts, the states of the clocks, how
often the devices are initialized, and the mappings of the firmware. -/
@[ext] structure Hw where
  bpsCtxtCnt : UInt32
  ipeCtxtCnt : UInt32
  bpsClkState : Bool
  ipeClkState : Bool
  a5 : ℤ
  bps : ℤ
  ipe0 : ℤ
  ipe1 : ℤ
  mappings : ℤ
  deriving DecidableEq, Repr

/-- The devices that are there, and the flags. `devIntf` is for IPE0 and the BPS. -/
structure Config where
  a5DevIntf : Bool
  devIntf : Bool
  ipe1DevIntf : Bool
  ipe1Enable : Bool
  icpPcFlag : Bool
  deriving DecidableEq, Repr

structure HwMgr where
  ctxData : Fin CAM_ICP_CTX_MAX → Ctx
  ctxtCnt : UInt32
  fwDownload : Bool
  recovery : Bool
  hw : Hw

/-- A map or unmap command: what preparing and writing it gives, and whether it is answered in
time. -/
structure StreamAnswer where
  write : ℤ
  completed : Bool
  deriving DecidableEq, Repr

/-- The outcomes of the steps. Where a code is not looked at, whether the device is initialized. -/
structure Answers where
  infoCopy : Option AcquireInfo
  infoAlloc : Bool
  infoCopyAll : Option AcquireInfo
  ioBuf : ℤ
  allocateHfiMem : ℤ
  a5Init : ℤ
  bpsInit : ℤ
  ipe0Init : ℤ
  ipe1Init : ℤ
  fwDownload : ℤ
  hfiInit : ℤ
  fwInit : ℤ
  hfiResume : ℤ
  ubwcCfg : ℤ
  bpsResumed : Bool
  ipe0Resumed : Bool
  ipe1Resumed : Bool
  enablePc : ℤ
  ping : ℤ
  createHandle : ℤ
  handleCompleted : Bool
  fwHandle : UInt32
  map : StreamAnswer
  configIo : ℤ
  unmap : StreamAnswer
  unmapAgain : StreamAnswer
  bitmap : Bool
  copyBack : Bool
  deriving DecidableEq, Repr

namespace Hw
variable (cfg : Config) (a : Answers) (hw : Hw)

/-- `cam_icp_mgr_device_init`. -/
def deviceInit : ℤ × Hw :=
  if !cfg.a5DevIntf || !cfg.devIntf then (-Errno.EINVAL, hw)
  else if a.a5Init ≠ 0 then (a.a5Init, hw)
  else if a.bpsInit ≠ 0 then (a.bpsInit, hw)
  else if a.ipe0Init ≠ 0 then (a.ipe0Init, { hw with bpsClkState := false })
  else if cfg.ipe1DevIntf ∧ a.ipe1Init ≠ 0 then
    (a.ipe1Init, { hw with bpsClkState := false, ipeClkState := false })
  else
    (0, { hw with
      a5 := hw.a5 + 1, bps := hw.bps + 1, ipe0 := hw.ipe0 + 1,
      ipe1 := if cfg.ipe1DevIntf then hw.ipe1 + 1 else hw.ipe1,
      bpsClkState := true, ipeClkState := true })

/-- `cam_icp_mgr_device_deinit`. -/
def deviceDeinit : Hw :=
  if !cfg.a5DevIntf || !cfg.devIntf then hw
  else
    { hw with
      a5 := hw.a5 - 1, bps := hw.bps - 1, ipe0 := hw.ipe0 - 1,
      ipe1 := if cfg.ipe1DevIntf then hw.ipe1 - 1 else hw.ipe1,
      bpsClkState := false, ipeClkState := false }

/-- `cam_ipe_bps_deint`. -/
def ipeBpsDeint : Hw :=
  if !cfg.devIntf then hw
  else
    { hw with
      ipe1 := if cfg.ipe1DevIntf ∧ hw.ipeClkState then hw.ipe1 - 1 else hw.ipe1,
      ipe0 := if hw.ipeClkState then hw.ipe0 - 1 else hw.ipe0,
      bps := if hw.bpsClkState then hw.bps - 1 else hw.bps,
      bpsClkState := false, ipeClkState := false }

/-- `cam_icp_mgr_ipe_bps_resume`. -/
def ipeBpsResume (isBps : Bool) : ℤ × Hw :=
  if !cfg.devIntf then (-Errno.EINVAL, hw)
  else if isBps then
    if hw.bpsCtxtCnt ≠ 0 then (0, { hw with bpsCtxtCnt := hw.bpsCtxtCnt + 1 })
    else
      (a.enablePc, { hw with
        bpsCtxtCnt := hw.bpsCtxtCnt + 1, bpsClkState := true,
        bps := if ¬hw.bpsClkState ∧ a.bpsResumed then hw.bps + 1 else hw.bps })
  else
    if hw.ipeCtxtCnt ≠ 0 then (0, { hw with ipeCtxtCnt := hw.ipeCtxtCnt + 1 })
    else
      (a.enablePc, { hw with
        ipeCtxtCnt := hw.ipeCtxtCnt + 1, ipeClkState := true,
        ipe0 := if ¬hw.ipeClkState ∧ a.ipe0Resumed then hw.ipe0 + 1 else hw.ipe0,
        ipe1 := if cfg.ipe1Enable ∧ cfg.ipe1DevIntf ∧ ¬hw.ipeClkState ∧ a.ipe1Resumed then
          hw.ipe1 + 1 else hw.ipe1 })

/-- `cam_icp_mgr_ipe_bps_power_collapse`, for a context. -/
def ipeBpsPowerCollapse (isBps : Bool) : Hw :=
  if !cfg.devIntf then hw
  else if isBps then
    if hw.bpsCtxtCnt - 1 ≠ 0 then { hw with bpsCtxtCnt := hw.bpsCtxtCnt - 1 }
    else
      { hw with
        bpsCtxtCnt := hw.bpsCtxtCnt - 1, bpsClkState := false,
        bps := if hw.bpsClkState then hw.bps - 1 else hw.bps }
  else
    if hw.ipeCtxtCnt - 1 ≠ 0 then { hw with ipeCtxtCnt := hw.ipeCtxtCnt - 1 }
    else
      { hw with
        ipeCtxtCnt := hw.ipeCtxtCnt - 1, ipeClkState := false,
        ipe0 := if hw.ipeClkState then hw.ipe0 - 1 else hw.ipe0,
        ipe1 := if cfg.ipe1DevIntf ∧ hw.ipeClkState then hw.ipe1 - 1 else hw.ipe1 }

end Hw

namespace StreamAnswer

def rc (answer : StreamAnswer) : ℤ :=
  if answer.write ≠ 0 then answer.write else if answer.completed then 0 else -Errno.ETIMEDOUT

/-- The command is with the firmware, answered or not. -/
def Sent (answer : StreamAnswer) : Prop := answer.write = 0

instance (answer : StreamAnswer) : Decidable answer.Sent := inferInstanceAs (Decidable (_ = _))

end StreamAnswer

namespace HwMgr
variable (cfg : Config) (a : Answers) (i : Fin CAM_ICP_CTX_MAX) (isBps : Bool) (mgr : HwMgr)

def setCtx (ctx : Ctx) : HwMgr := { mgr with ctxData := Function.update mgr.ctxData i ctx }

def getFreeCtx : Option (Fin CAM_ICP_CTX_MAX) :=
  (List.finRange CAM_ICP_CTX_MAX).find? fun i => (mgr.ctxData i).state = .free

/-- `cam_icp_mgr_icp_power_collapse`; without power collapse the firmware is closed. -/
def icpPowerCollapse : HwMgr :=
  if !cfg.a5DevIntf then mgr
  else
    { mgr with
      fwDownload := if !cfg.icpPcFlag || mgr.recovery then false else mgr.fwDownload
      hw := { mgr.hw with a5 := mgr.hw.a5 - 1 } }

/-- `cam_icp_mgr_hw_open`, from the resume. -/
def hwOpen : ℤ × HwMgr :=
  if mgr.fwDownload then (0, mgr)
  else if !cfg.a5DevIntf then (-Errno.EINVAL, mgr)
  else if a.allocateHfiMem ≠ 0 then (a.allocateHfiMem, mgr)
  else if (mgr.hw.deviceInit cfg a).1 ≠ 0 then
    ((mgr.hw.deviceInit cfg a).1, { mgr with hw := (mgr.hw.deviceInit cfg a).2 })
  else
    let opened := (mgr.hw.deviceInit cfg a).2
    if a.fwDownload ≠ 0 then (a.fwDownload, { mgr with hw := opened.deviceDeinit cfg })
    else if a.hfiInit ≠ 0 then (a.hfiInit, { mgr with hw := opened.deviceDeinit cfg })
    else if a.fwInit ≠ 0 then (a.fwInit, { mgr with hw := opened.deviceDeinit cfg })
    else
      (0, { mgr with
        ctxtCnt := 0, fwDownload := true, recovery := false,
        hw := if cfg.icpPcFlag then (opened.ipeBpsDeint cfg).ipeBpsDeint cfg
          else opened.ipeBpsDeint cfg })

/-- `cam_icp_mgr_icp_resume`. -/
def icpResume : ℤ × HwMgr :=
  if !cfg.a5DevIntf then (-Errno.EINVAL, mgr)
  else if !mgr.fwDownload then mgr.hwOpen cfg a
  else if a.a5Init ≠ 0 then (-Errno.EINVAL, mgr)
  else
    let mgr := { mgr with hw := { mgr.hw with a5 := mgr.hw.a5 + 1 } }
    if a.hfiResume ≠ 0 then (a.hfiResume, mgr.icpPowerCollapse cfg) else (0, mgr)

/-- `cam_icp_process_stream_settings`, for one region: the mappings go up or down by a command that
is sent. -/
def processStreamSettings (answer : StreamAnswer) (mapUnmap : Bool) : HwMgr :=
  if answer.Sent then
    { mgr with hw := { mgr.hw with
      mappings := if mapUnmap then mgr.hw.mappings + 1 else mgr.hw.mappings - 1 } }
  else mgr

def infoValid (info : AcquireInfo) : Bool :=
  info.secureMode ≤ CAM_SECURE_MODE_SECURE && info.numOutRes ≤ ICP_MAX_OUTPUT_SUPPORTED &&
    info.numOutRes > 0 && info.devType < CAM_ICP_RES_TYPE_MAX

/-- `cam_icp_get_acquire_info`. The info is copied twice, its fixed part first; the code for a first
copy that is not valid is `-EINVAL`, or `-EFAULT` for the device type alone. -/
def getAcquireInfo : ℤ × HwMgr :=
  match a.infoCopy with
  | none => (-Errno.EFAULT, mgr)
  | some info =>
    if info.secureMode > CAM_SECURE_MODE_SECURE then (-Errno.EINVAL, mgr)
    else if info.numOutRes > ICP_MAX_OUTPUT_SUPPORTED ∨ info.numOutRes = 0 then
      (-Errno.EINVAL, mgr)
    else if info.devType ≥ CAM_ICP_RES_TYPE_MAX then (-Errno.EFAULT, mgr)
    else if !a.infoAlloc then
      (-Errno.ENOMEM, mgr.setCtx i { mgr.ctxData i with icpDevAcquireInfo := none })
    else
      match a.infoCopyAll with
      | none => (-Errno.EFAULT, mgr.setCtx i { mgr.ctxData i with icpDevAcquireInfo := none })
      | some all =>
        let mgr := mgr.setCtx i { mgr.ctxData i with icpDevAcquireInfo := some all }
        if all.numOutRes ≠ info.numOutRes then (-Errno.EFAULT, mgr) else (0, mgr)

/-- `cam_icp_mgr_create_handle`; the handle is what the context has when the wait is over. -/
def createHandle : ℤ × HwMgr :=
  if a.createHandle ≠ 0 then (a.createHandle, mgr)
  else
    (if a.fwHandle = 0 then -Errno.EINVAL else if a.handleCompleted then 0 else -Errno.ETIMEDOUT,
      mgr.setCtx i { mgr.ctxData i with fwHandle := a.fwHandle })

def setState (state : CtxState) : HwMgr := mgr.setCtx i { mgr.ctxData i with state }

def acquireInfoFailed : HwMgr := mgr.setState i .free

def getIoBufFailed : HwMgr :=
  (mgr.setCtx i { mgr.ctxData i with icpDevAcquireInfo := none }).acquireInfoFailed i

/-- `ubwc_cfg_failed` and `ipe_bps_resume_failed`. -/
def ubwcCfgFailed : HwMgr :=
  (if mgr.ctxtCnt = 0 then mgr.icpPowerCollapse cfg else mgr).getIoBufFailed i

/-- `send_ping_failed` and `create_handle_failed`. -/
def sendPingFailed : HwMgr :=
  { mgr with hw := mgr.hw.ipeBpsPowerCollapse cfg isBps }.ubwcCfgFailed cfg i

/-- `send_map_info_failed`; the handle is destroyed by the firmware alone. -/
def sendMapInfoFailed : HwMgr := mgr.sendPingFailed cfg i isBps

def ioconfigFailed : HwMgr :=
  (mgr.processStreamSettings a.unmapAgain false).sendMapInfoFailed cfg i isBps

def copyToUserFailed : HwMgr :=
  (mgr.setCtx i { mgr.ctxData i with bitmap := false }).ioconfigFailed cfg a i isBps

/-- The context is acquired. -/
def acquired : HwMgr :=
  { mgr.setState i .acquired with ctxtCnt := mgr.ctxtCnt + 1 }

/-- From the map command on. -/
def configureIo : ℤ × HwMgr :=
  if a.map.rc ≠ 0 then
    (a.map.rc, (mgr.processStreamSettings a.map true).sendMapInfoFailed cfg i isBps)
  else
    let mgr := mgr.processStreamSettings a.map true
    if a.configIo ≠ 0 then (a.configIo, mgr.ioconfigFailed cfg a i isBps)
    else if a.unmap.rc ≠ 0 then
      (a.unmap.rc, (mgr.processStreamSettings a.unmap false).sendMapInfoFailed cfg i isBps)
    else
      -- the code is that of the unmap command from here on
      let mgr := mgr.processStreamSettings a.unmap false
      let mgr := mgr.setCtx i { mgr.ctxData i with bitmap := a.bitmap }
      if !a.bitmap then (a.unmap.rc, mgr.ioconfigFailed cfg a i isBps)
      else if !a.copyBack then (a.unmap.rc, mgr.copyToUserFailed cfg a i isBps)
      else (0, mgr.acquired i)

/-- From the resume of the devices on. -/
def resumeDevices : ℤ × HwMgr :=
  let resumed := { mgr with hw := (mgr.hw.ipeBpsResume cfg a isBps).2 }
  if (mgr.hw.ipeBpsResume cfg a isBps).1 ≠ 0 then
    ((mgr.hw.ipeBpsResume cfg a isBps).1, resumed.ubwcCfgFailed cfg i)
  else if a.ping ≠ 0 then (a.ping, resumed.sendPingFailed cfg i isBps)
  else if (resumed.createHandle a i).1 ≠ 0 then
    ((resumed.createHandle a i).1, (resumed.createHandle a i).2.sendPingFailed cfg i isBps)
  else (resumed.createHandle a i).2.configureIo cfg a i isBps

/-- From the buffer of the io configuration on. -/
def startIcp : ℤ × HwMgr :=
  if a.ioBuf ≠ 0 then (a.ioBuf, mgr.getIoBufFailed i)
  else if mgr.ctxtCnt = 0 then
    if (mgr.icpResume cfg a).1 ≠ 0 then
      ((mgr.icpResume cfg a).1, (mgr.icpResume cfg a).2.getIoBufFailed i)
    else if a.ubwcCfg ≠ 0 then (a.ubwcCfg, (mgr.icpResume cfg a).2.ubwcCfgFailed cfg i)
    else (mgr.icpResume cfg a).2.resumeDevices cfg a i isBps
  else mgr.resumeDevices cfg a i isBps

def isBpsCtx : Bool :=
  (mgr.ctxData i).icpDevAcquireInfo.any fun info => info.devType = CAM_ICP_RES_TYPE_BPS

/-- `cam_icp_mgr_acquire_hw`: the code, and the context that it took. -/
def acquireHw (numAcq : UInt32) : ℤ × Option (Fin CAM_ICP_CTX_MAX) × HwMgr :=
  if numAcq > 1 then (-Errno.EINVAL, none, mgr)
  else
    match mgr.getFreeCtx with
    | none => (-Errno.ENOSPC, none, mgr)
    | some i =>
      let r := (mgr.setState i .inUse).getAcquireInfo a i
      if r.1 ≠ 0 then (r.1, some i, r.2.acquireInfoFailed i)
      else
        let r := r.2.startIcp cfg a i (r.2.isBpsCtx i)
        (r.1, some i, r.2)

end HwMgr

structure Call where
  cfg : Config
  answers : Answers
  mgr : HwMgr
  numAcq : UInt32

namespace Call
variable (c : Call)

def rc : ℤ := (c.mgr.acquireHw c.cfg c.answers c.numAcq).1

def ctx : Option (Fin CAM_ICP_CTX_MAX) := (c.mgr.acquireHw c.cfg c.answers c.numAcq).2.1

def after : HwMgr := (c.mgr.acquireHw c.cfg c.answers c.numAcq).2.2

/-- A context is acquired, with its bitmap and its handle, and counted. -/
def Acquired : Prop :=
  ∃ i, c.ctx = some i ∧ (c.after.ctxData i).state = .acquired ∧ (c.after.ctxData i).bitmap ∧
    (c.after.ctxData i).fwHandle ≠ 0 ∧ c.after.ctxtCnt = c.mgr.ctxtCnt + 1

/-- The context that was taken is free, without its info; what the call took is given back. -/
def Undone : Prop :=
  (∀ i, c.ctx = some i →
    (c.after.ctxData i).state = .free ∧ (c.after.ctxData i).icpDevAcquireInfo = none) ∧
  c.after.hw = c.mgr.hw

def Truthful : Prop := (c.rc = 0 ↔ c.Acquired) ∧ (¬c.Acquired → c.rc ≠ 0 ∧ c.Undone)

end Call

namespace Hw
variable (cfg : Config) (a : Answers) (hw : Hw)

/-- The clocks are off, unless they may be on because the firmware is there. -/
def ClocksOff : Prop := hw.bpsClkState = false ∧ hw.ipeClkState = false

instance : Decidable hw.ClocksOff := inferInstanceAs (Decidable (_ ∧ _))

/-- The collapse is the inverse of the resume: another context has the devices, or the clock is off
and each device that the collapse stops is started. -/
def Paired : Bool → Prop
  | true => hw.bpsCtxtCnt ≠ 0 ∨ hw.bpsClkState = false ∧ a.bpsResumed
  | false => hw.ipeCtxtCnt ≠ 0 ∨ hw.ipeClkState = false ∧ a.ipe0Resumed ∧
      (cfg.ipe1DevIntf → cfg.ipe1Enable ∧ a.ipe1Resumed)

/-- No other context has the devices. -/
def First (isBps : Bool) : Prop := if isBps then hw.bpsCtxtCnt = 0 else hw.ipeCtxtCnt = 0

instance (isBps : Bool) : Decidable (hw.First isBps) := inferInstanceAs (Decidable (ite ..))

end Hw

namespace Call
variable (c : Call)

/-- The clocks are not lost by the download of the firmware. -/
def KeepsClocks : Prop := c.mgr.ctxtCnt = 0 → c.mgr.fwDownload ∨ c.mgr.hw.ClocksOff

/-- A failure behind the resume of the devices can be undone. -/
def Undoable (isBps : Bool) : Prop := c.KeepsClocks ∧ c.mgr.hw.Paired c.cfg c.answers isBps

/-- From the map command on: its mapping is to be unmapped just once, and no code is 0 without a
context that is acquired. -/
def IoGood (isBps : Bool) : Prop :=
  if c.answers.map.rc ≠ 0 then ¬c.answers.map.Sent ∧ c.Undoable isBps
  else if c.answers.configIo ≠ 0 then c.answers.unmapAgain.Sent ∧ c.Undoable isBps
  else if c.answers.unmap.rc ≠ 0 then c.answers.unmap.Sent ∧ c.Undoable isBps
  else c.answers.bitmap ∧ c.answers.copyBack

/-- From the resume of the devices on: the power collapse of a first context has to be enabled. -/
def DevicesGood (isBps : Bool) : Prop :=
  if c.cfg.devIntf = false then c.KeepsClocks
  else if c.mgr.hw.First isBps ∧ c.answers.enablePc ≠ 0 then False
  else if c.answers.ping ≠ 0 ∨ c.answers.createHandle ≠ 0 ∨ c.answers.fwHandle = 0 ∨
      c.answers.handleCompleted = false then c.Undoable isBps
  else c.IoGood isBps

/-- Where the resume of the firmware fails behind a device, the clocks are to be off. -/
def ResumeGood : Prop :=
  c.mgr.fwDownload ∨ c.answers.allocateHfiMem ≠ 0 ∨ c.cfg.devIntf = false ∨ c.answers.a5Init ≠ 0 ∨
    c.answers.bpsInit ≠ 0 ∨ c.mgr.hw.bpsClkState = false ∧
      (c.answers.ipe0Init ≠ 0 ∨ c.mgr.hw.ipeClkState = false)

/-- The resume of the firmware, or its download, does not fail. -/
def IcpResumes : Prop :=
  c.cfg.a5DevIntf ∧ c.answers.a5Init = 0 ∧
    if c.mgr.fwDownload then c.answers.hfiResume = 0
    else c.answers.allocateHfiMem = 0 ∧ c.cfg.devIntf ∧ c.answers.bpsInit = 0 ∧
      c.answers.ipe0Init = 0 ∧ (c.cfg.ipe1DevIntf → c.answers.ipe1Init = 0) ∧
      c.answers.fwDownload = 0 ∧ c.answers.hfiInit = 0 ∧ c.answers.fwInit = 0

instance : Decidable c.IcpResumes := inferInstanceAs (Decidable (_ ∧ _ ∧ ite ..))

def StartGood (isBps : Bool) : Prop :=
  if c.answers.ioBuf ≠ 0 then True
  else if c.mgr.ctxtCnt = 0 then
    if ¬c.IcpResumes then c.cfg.a5DevIntf → c.ResumeGood
    else if c.answers.ubwcCfg ≠ 0 then c.KeepsClocks
    else c.DevicesGood isBps
  else c.DevicesGood isBps

/-- The info is copied as a whole with the count of the first copy; a context that has none yet is
left without. -/
def InfoGood (ctx : Ctx) : Prop :=
  match c.answers.infoCopy with
  | none => ctx.icpDevAcquireInfo = none
  | some info =>
    if ¬HwMgr.infoValid info then ctx.icpDevAcquireInfo = none
    else if ¬c.answers.infoAlloc then True
    else ∀ all, c.answers.infoCopyAll = some all → all.numOutRes = info.numOutRes ∧
      c.StartGood (all.devType = CAM_ICP_RES_TYPE_BPS)

def Good : Prop :=
  c.numAcq ≤ 1 → ∀ i, c.mgr.getFreeCtx = some i → c.InfoGood (c.mgr.ctxData i)

end Call

namespace HwMgr
variable {cfg : Config} {a : Answers} {i : Fin CAM_ICP_CTX_MAX} {isBps : Bool} {mgr : HwMgr}
  {answer : StreamAnswer}

/-- The context is free, without its info. -/
def Freed (i : Fin CAM_ICP_CTX_MAX) (mgr : HwMgr) : Prop :=
  (mgr.ctxData i).state = .free ∧ (mgr.ctxData i).icpDevAcquireInfo = none

@[simp] lemma setCtx_ctxData (ctx : Ctx) : (mgr.setCtx i ctx).ctxData i = ctx :=
  Function.update_self ..

@[simp] lemma setCtx_hw (ctx : Ctx) : (mgr.setCtx i ctx).hw = mgr.hw := rfl

@[simp] lemma setCtx_ctxtCnt (ctx : Ctx) : (mgr.setCtx i ctx).ctxtCnt = mgr.ctxtCnt := rfl

lemma freed_acquireInfoFailed :
    (mgr.acquireInfoFailed i).Freed i ↔ (mgr.ctxData i).icpDevAcquireInfo = none := by
  simp [Freed, acquireInfoFailed, setState]

lemma freed_getIoBufFailed (mgr : HwMgr) (i : Fin CAM_ICP_CTX_MAX) :
    (mgr.getIoBufFailed i).Freed i := by
  simp [Freed, getIoBufFailed, acquireInfoFailed, setState]

lemma freed_ubwcCfgFailed (mgr : HwMgr) (i : Fin CAM_ICP_CTX_MAX) :
    (mgr.ubwcCfgFailed cfg i).Freed i := freed_getIoBufFailed ..

lemma freed_sendPingFailed (mgr : HwMgr) (i : Fin CAM_ICP_CTX_MAX) (isBps : Bool) :
    (mgr.sendPingFailed cfg i isBps).Freed i := freed_getIoBufFailed ..

@[simp] lemma getIoBufFailed_hw : (mgr.getIoBufFailed i).hw = mgr.hw := rfl

/-- The firmware of a first context is stopped. -/
def closed (cfg : Config) (first : Bool) (hw : Hw) : Hw :=
  if first ∧ cfg.a5DevIntf then { hw with a5 := hw.a5 - 1 } else hw

lemma ubwcCfgFailed_hw : (mgr.ubwcCfgFailed cfg i).hw = closed cfg (mgr.ctxtCnt = 0) mgr.hw := by
  simp only [ubwcCfgFailed, getIoBufFailed_hw, closed, icpPowerCollapse, decide_eq_true_eq]
  split_ifs <;> simp_all

lemma sendPingFailed_hw : (mgr.sendPingFailed cfg i isBps).hw =
    closed cfg (mgr.ctxtCnt = 0) (mgr.hw.ipeBpsPowerCollapse cfg isBps) := ubwcCfgFailed_hw

/-- The mappings after a command. -/
def mapped (answer : StreamAnswer) (mapUnmap : Bool) (n : ℤ) : ℤ :=
  if answer.Sent then if mapUnmap then n + 1 else n - 1 else n

lemma processStreamSettings_hw (mapUnmap : Bool) : (mgr.processStreamSettings answer mapUnmap).hw =
    { mgr.hw with mappings := mapped answer mapUnmap mgr.hw.mappings } := by
  rw [processStreamSettings, mapped]
  split_ifs <;> rfl

@[simp] lemma processStreamSettings_ctxtCnt (mapUnmap : Bool) :
    (mgr.processStreamSettings answer mapUnmap).ctxtCnt = mgr.ctxtCnt := by
  rw [processStreamSettings]
  split_ifs <;> rfl

@[simp] lemma processStreamSettings_ctxData (mapUnmap : Bool) :
    (mgr.processStreamSettings answer mapUnmap).ctxData = mgr.ctxData := by
  rw [processStreamSettings]
  split_ifs <;> rfl

end HwMgr

namespace Hw
variable {cfg : Config} {a : Answers} {hw : Hw} {isBps : Bool}

lemma resume_mappings : (hw.ipeBpsResume cfg a isBps).2.mappings = hw.mappings := by
  rw [ipeBpsResume]
  split_ifs <;> rfl

lemma collapse_mappings (n : ℤ) : { hw with mappings := n }.ipeBpsPowerCollapse cfg isBps =
    { hw.ipeBpsPowerCollapse cfg isBps with mappings := n } := by
  simp only [ipeBpsPowerCollapse]
  split_ifs <;> rfl

lemma collapse_resume_of_not_first (hdev : cfg.devIntf) (h : ¬hw.First isBps) :
    (hw.ipeBpsResume cfg a isBps).2.ipeBpsPowerCollapse cfg isBps = hw := by
  cases isBps <;> simp_all [First, ipeBpsResume, ipeBpsPowerCollapse]

lemma collapse_resume_of_first (hdev : cfg.devIntf) (h : hw.First isBps) :
    (hw.ipeBpsResume cfg a isBps).2.ipeBpsPowerCollapse cfg isBps =
      if isBps then
        { hw with
          bpsClkState := false,
          bps := (if ¬hw.bpsClkState ∧ a.bpsResumed then hw.bps + 1 else hw.bps) - 1 }
      else
        { hw with
          ipeClkState := false,
          ipe0 := (if ¬hw.ipeClkState ∧ a.ipe0Resumed then hw.ipe0 + 1 else hw.ipe0) - 1,
          ipe1 := if cfg.ipe1DevIntf then
            (if cfg.ipe1Enable ∧ cfg.ipe1DevIntf ∧ ¬hw.ipeClkState ∧ a.ipe1Resumed then hw.ipe1 + 1
              else hw.ipe1) - 1 else hw.ipe1 } := by
  cases isBps <;> simp_all [First, ipeBpsResume, ipeBpsPowerCollapse]

end Hw

namespace Call
variable {c : Call} {isBps : Bool}

variable (c) in
/-- When the devices are resumed the firmware is running, and a download has left the clocks off. -/
def started : Hw :=
  if c.mgr.ctxtCnt = 0 then
    { c.mgr.hw with
      a5 := c.mgr.hw.a5 + 1
      bpsClkState := c.mgr.fwDownload && c.mgr.hw.bpsClkState
      ipeClkState := c.mgr.fwDownload && c.mgr.hw.ipeClkState }
  else c.mgr.hw

lemma closed_started_iff (ha5 : c.mgr.ctxtCnt = 0 → c.cfg.a5DevIntf) :
    HwMgr.closed c.cfg (c.mgr.ctxtCnt = 0) c.started = c.mgr.hw ↔ c.KeepsClocks := by
  rw [KeepsClocks, started, HwMgr.closed]
  by_cases hcount : c.mgr.ctxtCnt = 0
  · cases hdown : c.mgr.fwDownload <;> simp [hcount, ha5 hcount, Hw.ext_iff, Hw.ClocksOff, eq_comm (a := false)]
  · simp [hcount]

lemma first_started : c.started.First isBps ↔ c.mgr.hw.First isBps := by
  rw [started]
  split_ifs <;> rfl

lemma started_mappings : c.started.mappings = c.mgr.hw.mappings := by
  rw [started]
  split_ifs <;> rfl

lemma counted_iff {p : Prop} [Decidable p] (x : ℤ) : (if p then x + 1 else x) - 1 = x ↔ p := by
  split_ifs with h <;> simp [h]

lemma closed_collapse_iff (ha5 : c.mgr.ctxtCnt = 0 → c.cfg.a5DevIntf) (hdev : c.cfg.devIntf) (n : ℤ) :
    HwMgr.closed c.cfg (c.mgr.ctxtCnt = 0)
        ({ (c.started.ipeBpsResume c.cfg c.answers isBps).2 with mappings := n }.ipeBpsPowerCollapse
          c.cfg isBps) = c.mgr.hw ↔
      n = c.mgr.hw.mappings ∧ c.Undoable isBps := by
  rw [Hw.collapse_mappings, Undoable]
  by_cases hfirst : c.mgr.hw.First isBps
  · rw [Hw.collapse_resume_of_first hdev (first_started.2 hfirst)]
    by_cases hcount : c.mgr.ctxtCnt = 0
    · cases isBps <;> cases hdown : c.mgr.fwDownload <;>
        simp_all [started, HwMgr.closed, KeepsClocks, Hw.ext_iff, Hw.ClocksOff, Hw.Paired, Hw.First,
          counted_iff] <;> tauto
    · cases isBps <;>
        simp_all [started, HwMgr.closed, KeepsClocks, Hw.ext_iff, Hw.Paired, Hw.First,
          counted_iff] <;> tauto
  · rw [Hw.collapse_resume_of_not_first hdev (mt first_started.1 hfirst)]
    have hpaired : c.mgr.hw.Paired c.cfg c.answers isBps := by
      cases isBps <;> exact .inl (by simpa [Hw.First] using hfirst)
    rw [← closed_started_iff ha5, and_iff_left hpaired, HwMgr.closed, HwMgr.closed]
    split_ifs <;> simp only [Hw.ext_iff, started_mappings] <;> tauto

/-! ### The outcome of the stages -/

/-- What a stage returns is truthful: success with the context acquired, or a code with everything
given back. -/
def Outcome (c : Call) (i : Fin CAM_ICP_CTX_MAX) (r : ℤ × HwMgr) : Prop :=
  r.1 = 0 ∧ (r.2.ctxData i).state = .acquired ∧ (r.2.ctxData i).bitmap ∧
      (r.2.ctxData i).fwHandle ≠ 0 ∧ r.2.ctxtCnt = c.mgr.ctxtCnt + 1 ∨
    r.1 ≠ 0 ∧ r.2.Freed i ∧ r.2.hw = c.mgr.hw

variable {i : Fin CAM_ICP_CTX_MAX} {rc : ℤ} {mgr : HwMgr}

lemma outcome_failed_iff (hrc : rc ≠ 0) (hfreed : mgr.Freed i) :
    c.Outcome i (rc, mgr) ↔ mgr.hw = c.mgr.hw := by
  rw [Outcome]
  constructor
  · rintro (h | h)
    · exact absurd h.1 hrc
    · exact h.2.2
  · intro h
    exact .inr ⟨hrc, hfreed, h⟩

lemma not_outcome_zero (hfreed : mgr.Freed i) : ¬c.Outcome i (0, mgr) := by
  rintro (h | h)
  · exact absurd (hfreed.1.symm.trans h.2.1) (by decide)
  · exact h.1 rfl

lemma truthful_iff_outcome (h : c.mgr.acquireHw c.cfg c.answers c.numAcq = (rc, some i, mgr)) :
    c.Truthful ↔ c.Outcome i (rc, mgr) := by
  have hacquired : c.Acquired ↔ (mgr.ctxData i).state = .acquired ∧ (mgr.ctxData i).bitmap ∧
      (mgr.ctxData i).fwHandle ≠ 0 ∧ mgr.ctxtCnt = c.mgr.ctxtCnt + 1 := by
    rw [Acquired, ctx, after, h]
    constructor
    · rintro ⟨j, hj, hacquired⟩
      cases hj
      exact hacquired
    · intro hacquired
      exact ⟨i, rfl, hacquired⟩
  have hundone : c.Undone ↔ mgr.Freed i ∧ mgr.hw = c.mgr.hw := by
    rw [Undone, ctx, after, h]
    refine and_congr_left fun _ => ?_
    constructor
    · intro hfreed
      exact hfreed i rfl
    · rintro hfreed j hj
      cases hj
      exact hfreed
  have hrc : c.rc = rc := by rw [Call.rc, h]
  have hfree : mgr.Freed i → ¬c.Acquired := by
    intro hfreed hacq
    exact absurd (hfreed.1.symm.trans (hacquired.1 hacq).1) (by decide)
  rw [Truthful, Outcome, ← hacquired, ← hundone, hrc]
  constructor
  · rintro ⟨hiff, hundo⟩
    by_cases hacq : c.Acquired
    · exact .inl ⟨hiff.2 hacq, hacq⟩
    · exact .inr (hundo hacq)
  · rintro (⟨hzero, hacq⟩ | ⟨hne, hundo⟩)
    · exact ⟨iff_of_true hzero hacq, fun hnot => absurd hacq hnot⟩
    · have hnot : ¬c.Acquired := hfree (hundone.1 hundo).1
      exact ⟨iff_of_false hne hnot, fun _ => ⟨hne, hundo⟩⟩

/-- The stages behind the resume see the contexts' count and the devices as the resume left them. -/
structure Resumed (c : Call) (isBps : Bool) (mgr : HwMgr) : Prop where
  ctxtCnt : mgr.ctxtCnt = c.mgr.ctxtCnt
  hw : mgr.hw = (c.started.ipeBpsResume c.cfg c.answers isBps).2

lemma outcome_sendPingFailed_iff (ha5 : c.mgr.ctxtCnt = 0 → c.cfg.a5DevIntf) (hdev : c.cfg.devIntf)
    (hrc : rc ≠ 0) (n : ℤ) (hcount : mgr.ctxtCnt = c.mgr.ctxtCnt)
    (hhw : mgr.hw = { (c.started.ipeBpsResume c.cfg c.answers isBps).2 with mappings := n }) :
    c.Outcome i (rc, mgr.sendPingFailed c.cfg i isBps) ↔
      n = c.mgr.hw.mappings ∧ c.Undoable isBps := by
  rw [outcome_failed_iff hrc (HwMgr.freed_sendPingFailed ..), HwMgr.sendPingFailed_hw, hcount, hhw]
  exact closed_collapse_iff ha5 hdev n

lemma resumed_mappings :
    (c.started.ipeBpsResume c.cfg c.answers isBps).2.mappings = c.mgr.hw.mappings := by
  rw [Hw.resume_mappings, started_mappings]

lemma sent_of_rc {answer : StreamAnswer} (h : answer.rc = 0) : answer.Sent := by
  rw [StreamAnswer.rc] at h
  split_ifs at h with hwrite
  · exact absurd h hwrite
  · exact not_not.1 hwrite
  · exact absurd h (by decide)

lemma mapped_eq_iff {answer : StreamAnswer} (n : ℤ) :
    HwMgr.mapped answer true n = n ↔ ¬answer.Sent := by
  rw [HwMgr.mapped]
  split_ifs with h <;> simp [h]

lemma unmapped_eq_iff {answer : StreamAnswer} (n : ℤ) :
    HwMgr.mapped answer false (n + 1) = n ↔ answer.Sent := by
  rw [HwMgr.mapped]
  split_ifs with h <;> simp_all

lemma outcome_configureIo_iff (ha5 : c.mgr.ctxtCnt = 0 → c.cfg.a5DevIntf) (hdev : c.cfg.devIntf)
    (h : c.Resumed isBps mgr) (hhandle : (mgr.ctxData i).fwHandle ≠ 0) :
    c.Outcome i (mgr.configureIo c.cfg c.answers i isBps) ↔ c.IoGood isBps := by
  have hmappings : mgr.hw.mappings = c.mgr.hw.mappings := by rw [h.hw, resumed_mappings]
  rw [HwMgr.configureIo, IoGood]
  by_cases hmap : c.answers.map.rc ≠ 0
  · rw [if_pos hmap, if_pos hmap]
    refine (outcome_sendPingFailed_iff ha5 hdev hmap _ ?_
      (HwMgr.processStreamSettings_hw true |>.trans (by rw [h.hw]))).trans ?_
    · rw [HwMgr.processStreamSettings_ctxtCnt, h.ctxtCnt]
    · rw [resumed_mappings, mapped_eq_iff]
  rw [if_neg hmap, if_neg hmap]
  have hup : HwMgr.mapped c.answers.map true c.mgr.hw.mappings = c.mgr.hw.mappings + 1 := by
    rw [HwMgr.mapped, if_pos (sent_of_rc (not_not.1 hmap)), if_pos rfl]
  -- the mapping is unmapped by a later command
  have hdown (answer : StreamAnswer) {code : ℤ} (hrc : code ≠ 0) : c.Outcome i (code,
      ((mgr.processStreamSettings c.answers.map true).processStreamSettings answer
        false).sendMapInfoFailed c.cfg i isBps) ↔ answer.Sent ∧ c.Undoable isBps := by
    refine (outcome_sendPingFailed_iff ha5 hdev hrc _ ?_
      (HwMgr.processStreamSettings_hw false |>.trans
        (by rw [HwMgr.processStreamSettings_hw, h.hw]))).trans ?_
    · rw [HwMgr.processStreamSettings_ctxtCnt, HwMgr.processStreamSettings_ctxtCnt, h.ctxtCnt]
    · dsimp only
      rw [resumed_mappings, hup, unmapped_eq_iff]
  by_cases hconfig : c.answers.configIo ≠ 0
  · simp only [if_pos hconfig]
    exact hdown _ hconfig
  simp only [if_neg hconfig]
  by_cases hunmap : c.answers.unmap.rc ≠ 0
  · rw [if_pos hunmap, if_pos hunmap]
    exact hdown _ hunmap
  rw [if_neg hunmap, if_neg hunmap, not_not.1 hunmap]
  -- the code of the unmap command is 0, with the context acquired or not
  split_ifs with hbitmap hcopy
  · refine iff_of_false (not_outcome_zero (HwMgr.freed_sendPingFailed ..)) fun hgood => ?_
    simp [hgood.1] at hbitmap
  · refine iff_of_false (not_outcome_zero (HwMgr.freed_sendPingFailed ..)) fun hgood => ?_
    simp [hgood.2] at hcopy
  · have hbit : c.answers.bitmap = true := by simpa using hbitmap
    refine iff_of_true (.inl ⟨rfl, ?_⟩) ⟨hbit, by simpa using hcopy⟩
    simp [HwMgr.acquired, HwMgr.setState, h.ctxtCnt, hbit, hhandle]

lemma resumed_ne (hdev : c.cfg.devIntf) (hfirst : c.started.First isBps) :
    HwMgr.closed c.cfg (c.mgr.ctxtCnt = 0) (c.started.ipeBpsResume c.cfg c.answers isBps).2 ≠
      c.mgr.hw := by
  have hstarted : c.started.bpsCtxtCnt = c.mgr.hw.bpsCtxtCnt ∧
      c.started.ipeCtxtCnt = c.mgr.hw.ipeCtxtCnt := by
    rw [started]
    split_ifs <;> exact ⟨rfl, rfl⟩
  have hclosed (hw : Hw) : (HwMgr.closed c.cfg (c.mgr.ctxtCnt = 0) hw).bpsCtxtCnt = hw.bpsCtxtCnt ∧
      (HwMgr.closed c.cfg (c.mgr.ctxtCnt = 0) hw).ipeCtxtCnt = hw.ipeCtxtCnt := by
    rw [HwMgr.closed]
    split_ifs <;> exact ⟨rfl, rfl⟩
  intro h
  cases isBps with
  | true =>
    have hcount : (c.started.ipeBpsResume c.cfg c.answers true).2.bpsCtxtCnt = 1 := by
      simp_all [Hw.ipeBpsResume, Hw.First]
    rw [← (hclosed _).1, h, ← hstarted.1] at hcount
    exact absurd (hcount.symm.trans hfirst) (by decide)
  | false =>
    have hcount : (c.started.ipeBpsResume c.cfg c.answers false).2.ipeCtxtCnt = 1 := by
      simp_all [Hw.ipeBpsResume, Hw.First]
    rw [← (hclosed _).2, h, ← hstarted.2] at hcount
    exact absurd (hcount.symm.trans hfirst) (by decide)

section CreateHandle
variable {a : Answers}

lemma createHandle_ne_zero (h : a.createHandle ≠ 0 ∨ a.fwHandle = 0 ∨ a.handleCompleted = false) :
    (mgr.createHandle a i).1 ≠ 0 := by
  rw [HwMgr.createHandle]
  split_ifs with hcreate hzero hcompleted
  · exact hcreate
  · exact show -Errno.EINVAL ≠ 0 by decide
  · simp_all
  · exact show -Errno.ETIMEDOUT ≠ 0 by decide

lemma createHandle_eq (h : ¬(a.createHandle ≠ 0 ∨ a.fwHandle = 0 ∨ a.handleCompleted = false)) :
    mgr.createHandle a i = (0, mgr.setCtx i { mgr.ctxData i with fwHandle := a.fwHandle }) := by
  simp only [not_or, not_not, Bool.not_eq_false] at h
  rw [HwMgr.createHandle, if_neg (not_not.2 h.1), if_neg h.2.1, if_pos h.2.2]

lemma createHandle_ctxtCnt (mgr : HwMgr) (a : Answers) (i : Fin CAM_ICP_CTX_MAX) :
    (mgr.createHandle a i).2.ctxtCnt = mgr.ctxtCnt := by
  rw [HwMgr.createHandle]
  split_ifs <;> rfl

lemma createHandle_hw (mgr : HwMgr) (a : Answers) (i : Fin CAM_ICP_CTX_MAX) :
    (mgr.createHandle a i).2.hw = mgr.hw := by
  rw [HwMgr.createHandle]
  split_ifs <;> rfl

end CreateHandle

lemma outcome_resumeDevices_iff (ha5 : c.mgr.ctxtCnt = 0 → c.cfg.a5DevIntf)
    (hcount : mgr.ctxtCnt = c.mgr.ctxtCnt) (hhw : mgr.hw = c.started) :
    c.Outcome i (mgr.resumeDevices c.cfg c.answers i isBps) ↔ c.DevicesGood isBps := by
  rw [HwMgr.resumeDevices, DevicesGood, hhw]
  by_cases hdev : c.cfg.devIntf = false
  · have hresume : c.started.ipeBpsResume c.cfg c.answers isBps = (-Errno.EINVAL, c.started) := by
      rw [Hw.ipeBpsResume, if_pos (by simp [hdev])]
    have hrc : -Errno.EINVAL ≠ 0 := by decide
    rw [if_pos hdev, hresume, if_pos hrc, outcome_failed_iff hrc (HwMgr.freed_ubwcCfgFailed ..),
      HwMgr.ubwcCfgFailed_hw, hcount]
    exact closed_started_iff ha5
  have hdev' : c.cfg.devIntf = true := by simpa using hdev
  rw [if_neg hdev]
  have hrc : (c.started.ipeBpsResume c.cfg c.answers isBps).1 =
      if c.mgr.hw.First isBps then c.answers.enablePc else 0 := by
    simp only [← first_started]
    rw [Hw.ipeBpsResume, hdev']
    cases isBps
    all_goals
      simp only [Hw.First]
      split_ifs <;> simp_all
  by_cases hfail : c.mgr.hw.First isBps ∧ c.answers.enablePc ≠ 0
  · -- the context stays counted
    have hne : (c.started.ipeBpsResume c.cfg c.answers isBps).1 ≠ 0 := by
      rw [hrc, if_pos hfail.1]
      exact hfail.2
    rw [if_pos hne, if_pos hfail, outcome_failed_iff hne (HwMgr.freed_ubwcCfgFailed ..),
      HwMgr.ubwcCfgFailed_hw, hcount, iff_false]
    exact resumed_ne hdev' (first_started.2 hfail.1)
  have hzero : ¬(c.started.ipeBpsResume c.cfg c.answers isBps).1 ≠ 0 := by
    rw [hrc, not_not]
    split_ifs with hfirst
    · exact not_not.1 fun hne => hfail ⟨hfirst, hne⟩
    · rfl
  rw [if_neg hzero, if_neg hfail]
  -- up to here nothing is mapped
  have hping {code : ℤ} (hcode : code ≠ 0) {m : HwMgr} (hm : m.ctxtCnt = mgr.ctxtCnt)
      (hmhw : m.hw = (c.started.ipeBpsResume c.cfg c.answers isBps).2) :
      c.Outcome i (code, m.sendPingFailed c.cfg i isBps) ↔ c.Undoable isBps := by
    refine (outcome_sendPingFailed_iff ha5 hdev' hcode c.mgr.hw.mappings (hm.trans hcount) ?_).trans
      (and_iff_right rfl)
    have hmappings : (c.started.ipeBpsResume c.cfg c.answers isBps).2.mappings = c.mgr.hw.mappings :=
      resumed_mappings
    rw [hmhw, ← hmappings]
  by_cases hsend : c.answers.ping ≠ 0
  · rw [if_pos hsend, if_pos (.inl hsend)]
    exact hping hsend rfl rfl
  rw [if_neg hsend]
  by_cases hhandle : c.answers.createHandle ≠ 0 ∨ c.answers.fwHandle = 0 ∨
      c.answers.handleCompleted = false
  · rw [if_pos (createHandle_ne_zero hhandle), if_pos (show _ ∨ _ from .inr hhandle)]
    exact hping (createHandle_ne_zero hhandle) (createHandle_ctxtCnt ..) (createHandle_hw ..)
  · rw [if_neg (not_or_intro hsend hhandle), createHandle_eq hhandle, if_neg (not_not.2 rfl)]
    refine outcome_configureIo_iff ha5 hdev' ⟨hcount, rfl⟩ ?_
    rw [HwMgr.setCtx_ctxData]
    exact fun hzero => hhandle (.inr (.inl hzero))

/-- All devices are initialized. -/
def inited (cfg : Config) (hw : Hw) : Hw :=
  { hw with
    a5 := hw.a5 + 1, bps := hw.bps + 1, ipe0 := hw.ipe0 + 1,
    ipe1 := if cfg.ipe1DevIntf then hw.ipe1 + 1 else hw.ipe1,
    bpsClkState := true, ipeClkState := true }

lemma deviceInit_eq_zero (hw : Hw) (ha5 : c.cfg.a5DevIntf) (hdev : c.cfg.devIntf)
    (h5 : c.answers.a5Init = 0) (hbps : c.answers.bpsInit = 0) (h0 : c.answers.ipe0Init = 0)
    (h1 : c.cfg.ipe1DevIntf → c.answers.ipe1Init = 0) :
    hw.deviceInit c.cfg c.answers = (0, inited c.cfg hw) := by
  have hnot : ¬(c.cfg.ipe1DevIntf ∧ c.answers.ipe1Init ≠ 0) := fun h => h.2 (h1 h.1)
  simp only [Hw.deviceInit, ha5, hdev, h5, hbps, h0, hnot, ne_eq, not_true_eq_false, if_false,
    Bool.not_true, Bool.or_self, Bool.false_eq_true, inited]

lemma deint_inited (hw : Hw) (hdev : c.cfg.devIntf) : (inited c.cfg hw).ipeBpsDeint c.cfg =
    { hw with a5 := hw.a5 + 1, bpsClkState := false, ipeClkState := false } := by
  cases h1 : c.cfg.ipe1DevIntf <;> simp [Hw.ipeBpsDeint, inited, hdev, h1]

lemma deinit_inited_iff (hw : Hw) (ha5 : c.cfg.a5DevIntf) (hdev : c.cfg.devIntf) :
    (inited c.cfg hw).deviceDeinit c.cfg = hw ↔ hw.ClocksOff := by
  cases h1 : c.cfg.ipe1DevIntf <;>
    simp [Hw.deviceDeinit, inited, ha5, hdev, h1, Hw.ext_iff, Hw.ClocksOff, eq_comm (a := false)]

lemma deint_of_clocksOff {hw : Hw} (h : hw.ClocksOff) : hw.ipeBpsDeint c.cfg = hw := by
  rw [Hw.ipeBpsDeint]
  split_ifs <;> simp_all [Hw.ClocksOff, Hw.ext_iff]

lemma icpResume_of_resumes (hcount : c.mgr.ctxtCnt = 0) (h : c.IcpResumes)
    (hmgr : mgr.fwDownload = c.mgr.fwDownload) (hmgrCount : mgr.ctxtCnt = c.mgr.ctxtCnt)
    (hhw : mgr.hw = c.mgr.hw) : (mgr.icpResume c.cfg c.answers).1 = 0 ∧
      (mgr.icpResume c.cfg c.answers).2.ctxtCnt = c.mgr.ctxtCnt ∧
        (mgr.icpResume c.cfg c.answers).2.hw = c.started := by
  obtain ⟨ha5, h5, hrest⟩ := h
  cases hdown : c.mgr.fwDownload with
  | true =>
    rw [if_pos hdown] at hrest
    rw [hdown] at hmgr
    simp only [HwMgr.icpResume, ha5, hmgr, h5, hrest, Bool.not_true, Bool.false_eq_true, if_false,
      ne_eq, not_true_eq_false]
    refine ⟨trivial, hmgrCount, ?_⟩
    rw [started, if_pos hcount, hhw, hdown]
    rfl
  | false =>
    rw [if_neg (by simp [hdown])] at hrest
    obtain ⟨hmem, hdev, hbps, h0, h1, hfw, hinit, hfwInit⟩ := hrest
    rw [hdown] at hmgr
    have hdeint : (if c.cfg.icpPcFlag then
        ({ c.mgr.hw with a5 := c.mgr.hw.a5 + 1, bpsClkState := false, ipeClkState := false } :
          Hw).ipeBpsDeint c.cfg
        else { c.mgr.hw with a5 := c.mgr.hw.a5 + 1, bpsClkState := false, ipeClkState := false }) =
        c.started := by
      rw [deint_of_clocksOff ⟨rfl, rfl⟩, started, if_pos hcount, hdown]
      split_ifs <;> rfl
    simp only [HwMgr.icpResume, HwMgr.hwOpen, ha5, hmgr, hmem, hfw, hinit, hfwInit, hhw,
      deviceInit_eq_zero c.mgr.hw ha5 hdev h5 hbps h0 h1, deint_inited c.mgr.hw hdev,
      Bool.not_true, Bool.not_false, Bool.false_eq_true, if_false, if_true, ne_eq,
      not_true_eq_false]
    exact ⟨trivial, hcount.symm, hdeint⟩

/-- A device that fails may have stopped the clocks of those before it. -/
lemma deviceInit_of_fails (hw : Hw) (ha5 : c.cfg.a5DevIntf)
    (h : ¬(c.cfg.devIntf ∧ c.answers.a5Init = 0 ∧ c.answers.bpsInit = 0 ∧ c.answers.ipe0Init = 0 ∧
      (c.cfg.ipe1DevIntf → c.answers.ipe1Init = 0))) :
    (hw.deviceInit c.cfg c.answers).1 ≠ 0 ∧ ((hw.deviceInit c.cfg c.answers).2 = hw ↔
      c.cfg.devIntf = false ∨ c.answers.a5Init ≠ 0 ∨ c.answers.bpsInit ≠ 0 ∨ hw.bpsClkState = false ∧
        (c.answers.ipe0Init ≠ 0 ∨ hw.ipeClkState = false)) := by
  obtain ⟨r, hr⟩ : ∃ r, hw.deviceInit c.cfg c.answers = r := ⟨_, rfl⟩
  rw [hr]
  rw [Hw.deviceInit] at hr
  split_ifs at hr with hdev h5 hbps h0 h1 <;> subst hr
  · have hdev' : c.cfg.devIntf = false := by simpa [ha5] using hdev
    exact ⟨show -Errno.EINVAL ≠ 0 by decide, iff_of_true rfl (.inl hdev')⟩
  · exact ⟨h5, iff_of_true rfl (.inr (.inl h5))⟩
  · exact ⟨hbps, iff_of_true rfl (.inr (.inr (.inl hbps)))⟩
  · refine ⟨h0, ?_⟩
    simp_all [Hw.ext_iff, eq_comm (a := false)]
  · refine ⟨h1.2, ?_⟩
    simp_all [Hw.ext_iff, eq_comm (a := false)]
  all_goals
    have hdev' : c.cfg.devIntf = true := by simpa [ha5] using hdev
    exact absurd ⟨hdev', not_not.1 h5, not_not.1 hbps, not_not.1 h0,
      fun h1' => not_not.1 fun hne => h1 ⟨h1', hne⟩⟩ h

lemma icpResume_of_not_resumes (h : ¬c.IcpResumes) (hmgr : mgr.fwDownload = c.mgr.fwDownload)
    (hhw : mgr.hw = c.mgr.hw) : (mgr.icpResume c.cfg c.answers).1 ≠ 0 ∧
      ((mgr.icpResume c.cfg c.answers).2.hw = c.mgr.hw ↔ (c.cfg.a5DevIntf → c.ResumeGood)) := by
  cases ha5 : c.cfg.a5DevIntf with
  | false =>
    rw [HwMgr.icpResume, if_pos (by simp [ha5])]
    exact ⟨show -Errno.EINVAL ≠ 0 by decide, iff_of_true hhw nofun⟩
  | true =>
    cases hdown : c.mgr.fwDownload with
    | true =>
      have hgood : c.ResumeGood := .inl hdown
      rw [hdown] at hmgr
      simp only [HwMgr.icpResume, ha5, hmgr, Bool.not_true, Bool.false_eq_true, if_false]
      split_ifs with h5 hresume
      · exact ⟨show -Errno.EINVAL ≠ 0 by decide, iff_of_true hhw fun _ => hgood⟩
      · refine ⟨hresume, iff_of_true ?_ fun _ => hgood⟩
        simp [HwMgr.icpPowerCollapse, ha5, hhw]
      · refine absurd ⟨ha5, not_not.1 h5, ?_⟩ h
        rw [if_pos hdown]
        exact not_not.1 hresume
    | false =>
      rw [hdown] at hmgr
      simp only [HwMgr.icpResume, HwMgr.hwOpen, ha5, hmgr, hhw, Bool.not_true, Bool.not_false,
        Bool.false_eq_true, if_false, if_true]
      by_cases hmem : c.answers.allocateHfiMem ≠ 0
      · rw [if_pos hmem]
        exact ⟨hmem, iff_of_true hhw fun _ => .inr (.inl hmem)⟩
      rw [if_neg hmem]
      by_cases hinit : c.cfg.devIntf ∧ c.answers.a5Init = 0 ∧ c.answers.bpsInit = 0 ∧
          c.answers.ipe0Init = 0 ∧ (c.cfg.ipe1DevIntf → c.answers.ipe1Init = 0)
      · obtain ⟨hdev, h5, hbps, h0, h1⟩ := hinit
        have hgood : c.ResumeGood ↔ c.mgr.hw.ClocksOff := by
          simp [ResumeGood, Hw.ClocksOff, hdown, not_not.1 hmem, hdev, h5, hbps, h0]
        have hdeinit := deinit_inited_iff c.mgr.hw ha5 hdev
        rw [deviceInit_eq_zero c.mgr.hw ha5 hdev h5 hbps h0 h1, if_neg (not_not.2 rfl), forall_true_left,
          hgood]
        split_ifs with hfw hhfi hfwInit
        · exact ⟨hfw, hdeinit⟩
        · exact ⟨hhfi, hdeinit⟩
        · exact ⟨hfwInit, hdeinit⟩
        all_goals
          refine absurd ⟨ha5, h5, ?_⟩ h
          rw [if_neg (by simp [hdown])]
          exact ⟨not_not.1 hmem, hdev, hbps, h0, h1, not_not.1 hfw, not_not.1 hhfi, not_not.1 hfwInit⟩
      · obtain ⟨hne, hiff⟩ := deviceInit_of_fails c.mgr.hw ha5 hinit
        rw [if_pos hne, forall_true_left]
        refine ⟨hne, hiff.trans ?_⟩
        rw [ResumeGood, hdown, not_not.1 hmem]
        simp

lemma outcome_startIcp_iff (hmgr : mgr.fwDownload = c.mgr.fwDownload)
    (hcount : mgr.ctxtCnt = c.mgr.ctxtCnt) (hhw : mgr.hw = c.mgr.hw) :
    c.Outcome i (mgr.startIcp c.cfg c.answers i isBps) ↔ c.StartGood isBps := by
  rw [HwMgr.startIcp, StartGood, hcount]
  by_cases hbuf : c.answers.ioBuf ≠ 0
  · rw [if_pos hbuf, if_pos hbuf, outcome_failed_iff hbuf (HwMgr.freed_getIoBufFailed ..),
      HwMgr.getIoBufFailed_hw, iff_true, hhw]
  rw [if_neg hbuf, if_neg hbuf]
  by_cases hfirst : c.mgr.ctxtCnt = 0
  · rw [if_pos hfirst, if_pos hfirst]
    by_cases hresumes : c.IcpResumes
    · obtain ⟨hrc, hcount', hhw'⟩ := icpResume_of_resumes hfirst hresumes hmgr hcount hhw
      rw [if_neg (not_not.2 hrc), if_neg (not_not.2 hresumes)]
      by_cases hubwc : c.answers.ubwcCfg ≠ 0
      · rw [if_pos hubwc, if_pos hubwc, outcome_failed_iff hubwc (HwMgr.freed_ubwcCfgFailed ..),
          HwMgr.ubwcCfgFailed_hw, hcount', hhw']
        exact closed_started_iff fun _ => hresumes.1
      · rw [if_neg hubwc, if_neg hubwc]
        exact outcome_resumeDevices_iff (fun _ => hresumes.1) hcount' hhw'
    · obtain ⟨hrc, hiff⟩ := icpResume_of_not_resumes hresumes hmgr hhw
      rw [if_pos hrc, if_pos hresumes, outcome_failed_iff hrc (HwMgr.freed_getIoBufFailed ..),
        HwMgr.getIoBufFailed_hw]
      exact hiff
  · rw [if_neg hfirst, if_neg hfirst]
    refine outcome_resumeDevices_iff (fun h => absurd h hfirst) hcount ?_
    rw [started, if_neg hfirst, hhw]

lemma truthful_of_none (hrc : rc ≠ 0)
    (h : c.mgr.acquireHw c.cfg c.answers c.numAcq = (rc, none, c.mgr)) : c.Truthful := by
  have hnot : ¬c.Acquired := by
    rintro ⟨i, hi, -⟩
    rw [ctx, h] at hi
    cases hi
  have hrc' : c.rc ≠ 0 := by rwa [Call.rc, h]
  refine ⟨iff_of_false hrc' hnot, fun _ => ⟨hrc', fun i hi => ?_, ?_⟩⟩
  · rw [ctx, h] at hi
    cases hi
  · rw [after, h]

variable (i mgr) in
lemma outcome_info_iff (ctx : Ctx) (hctx : mgr.ctxData i = ctx)
    (hmgr : mgr.fwDownload = c.mgr.fwDownload) (hcount : mgr.ctxtCnt = c.mgr.ctxtCnt)
    (hhw : mgr.hw = c.mgr.hw) :
    c.Outcome i (if (mgr.getAcquireInfo c.answers i).1 ≠ 0 then
        ((mgr.getAcquireInfo c.answers i).1, (mgr.getAcquireInfo c.answers i).2.acquireInfoFailed i)
      else (mgr.getAcquireInfo c.answers i).2.startIcp c.cfg c.answers i
        ((mgr.getAcquireInfo c.answers i).2.isBpsCtx i)) ↔ c.InfoGood ctx := by
  have hinval : -Errno.EINVAL ≠ 0 := by decide
  have hfault : -Errno.EFAULT ≠ 0 := by decide
  have hnomem : -Errno.ENOMEM ≠ 0 := by decide
  -- a failure leaves the info that the context has
  have hfailed {code : ℤ} (hcode : code ≠ 0) {m : HwMgr} (hm : m.hw = c.mgr.hw) :
      c.Outcome i (code, m.acquireInfoFailed i) ↔ (m.ctxData i).icpDevAcquireInfo = none := by
    rw [← HwMgr.freed_acquireInfoFailed, Outcome]
    constructor
    · rintro (h | h)
      · exact absurd h.1 hcode
      · exact h.2.1
    · intro hfreed
      exact .inr ⟨hcode, hfreed, hm⟩
  rw [InfoGood, HwMgr.getAcquireInfo]
  cases hcopy : c.answers.infoCopy with
  | none =>
    dsimp only
    rw [if_pos hfault, hfailed hfault hhw, hctx]
  | some info =>
    have hleft (hinvalid : ¬HwMgr.infoValid info) {code : ℤ} (hcode : code ≠ 0) :
        c.Outcome i (code, mgr.acquireInfoFailed i) ↔
          if ¬HwMgr.infoValid info then ctx.icpDevAcquireInfo = none
          else if ¬c.answers.infoAlloc then True
          else ∀ all, c.answers.infoCopyAll = some all → all.numOutRes = info.numOutRes ∧
            c.StartGood (all.devType = CAM_ICP_RES_TYPE_BPS) := by
      rw [hfailed hcode hhw, hctx, if_pos hinvalid]
    by_cases hsecure : info.secureMode > CAM_SECURE_MODE_SECURE
    · simp only [if_pos hsecure, if_pos hinval]
      exact hleft (by simp [HwMgr.infoValid, UInt32.not_le.2 hsecure]) hinval
    by_cases hout : info.numOutRes > ICP_MAX_OUTPUT_SUPPORTED ∨ info.numOutRes = 0
    · simp only [if_neg hsecure, if_pos hout, if_pos hinval]
      refine hleft ?_ hinval
      rcases hout with hout | hout
      · simp [HwMgr.infoValid, UInt32.not_le.2 hout]
      · simp [HwMgr.infoValid, hout]
    by_cases hdev : info.devType ≥ CAM_ICP_RES_TYPE_MAX
    · simp only [if_neg hsecure, if_neg hout, if_pos hdev, if_pos hfault]
      exact hleft (by simp [HwMgr.infoValid, UInt32.not_lt.2 hdev]) hfault
    have hvalid : HwMgr.infoValid info := by
      rw [not_or] at hout
      simp only [HwMgr.infoValid, Bool.and_eq_true, decide_eq_true_eq]
      exact ⟨⟨⟨UInt32.not_lt.1 hsecure, UInt32.not_lt.1 hout.1⟩, UInt32.pos_iff_ne_zero.2 hout.2⟩,
        UInt32.not_le.1 hdev⟩
    simp only [if_neg hsecure, if_neg hout, if_neg hdev, if_neg (not_not.2 hvalid)]
    cases halloc : c.answers.infoAlloc with
    | false =>
      simp only [Bool.not_false, if_true, if_pos hnomem, Bool.false_eq_true, not_false_eq_true,
        iff_true]
      rw [hfailed hnomem (by exact hhw), HwMgr.setCtx_ctxData]
    | true =>
      simp only [Bool.not_true, Bool.false_eq_true, if_false, not_true_eq_false]
      cases hall : c.answers.infoCopyAll with
      | none =>
        simp only [if_pos hfault, reduceCtorEq, false_implies, implies_true, iff_true]
        rw [hfailed hfault (by exact hhw), HwMgr.setCtx_ctxData]
      | some all =>
        simp only [Option.some.injEq, forall_eq']
        by_cases hsame : all.numOutRes = info.numOutRes
        · simp only [hsame, ne_eq, not_true_eq_false, if_false, true_and]
          rw [outcome_startIcp_iff (by exact hmgr) (by exact hcount) (by exact hhw),
            HwMgr.isBpsCtx, HwMgr.setCtx_ctxData]
          rfl
        · -- the info that was read stays with the context
          simp only [ne_eq, hsame, not_false_eq_true, if_true, false_and, iff_false]
          rw [if_pos hfault, hfailed hfault (by exact hhw), HwMgr.setCtx_ctxData]
          exact nofun

/-- The acquire is truthful and undoes itself for just the calls that are good. -/
theorem acquire_truthful_iff (c : Call) : c.Truthful ↔ c.Good := by
  rw [Good]
  by_cases hnum : c.numAcq > 1
  · have hcall : c.mgr.acquireHw c.cfg c.answers c.numAcq = (-Errno.EINVAL, none, c.mgr) := if_pos hnum
    exact iff_of_true (truthful_of_none (by decide) hcall) fun hle => absurd hle (UInt32.not_le.2 hnum)
  rw [forall_prop_of_true (UInt32.not_lt.1 hnum)]
  cases hfree : c.mgr.getFreeCtx with
  | none =>
    have hcall : c.mgr.acquireHw c.cfg c.answers c.numAcq = (-Errno.ENOSPC, none, c.mgr) := by
      rw [HwMgr.acquireHw, if_neg hnum, hfree]
    exact iff_of_true (truthful_of_none (by decide) hcall) nofun
  | some i =>
    simp only [Option.some.injEq, forall_eq']
    refine Iff.trans ?_ (outcome_info_iff i (c.mgr.setState i .inUse)
      { c.mgr.ctxData i with state := .inUse } (HwMgr.setCtx_ctxData _) rfl rfl rfl)
    by_cases hrc : ((c.mgr.setState i .inUse).getAcquireInfo c.answers i).1 ≠ 0
    · rw [if_pos hrc]
      refine truthful_iff_outcome ?_
      rw [HwMgr.acquireHw, if_neg hnum, hfree]
      exact if_pos hrc
    · rw [if_neg hrc]
      refine truthful_iff_outcome ?_
      rw [HwMgr.acquireHw, if_neg hnum, hfree]
      exact if_neg hrc

/-- There is no memory for the bitmap of an only context; all else is well. -/
def noBitmap : Call where
  cfg := ⟨true, true, true, true, true⟩
  answers :=
    { infoCopy := some ⟨2, 0, 1⟩, infoAlloc := true, infoCopyAll := some ⟨2, 0, 1⟩, ioBuf := 0,
      allocateHfiMem := 0, a5Init := 0, bpsInit := 0, ipe0Init := 0, ipe1Init := 0, fwDownload := 0,
      hfiInit := 0, fwInit := 0, hfiResume := 0, ubwcCfg := 0, bpsResumed := true,
      ipe0Resumed := true, ipe1Resumed := true, enablePc := 0, ping := 0, createHandle := 0,
      handleCompleted := true, fwHandle := 7, map := ⟨0, true⟩, configIo := 0, unmap := ⟨0, true⟩,
      unmapAgain := ⟨0, true⟩, bitmap := false, copyBack := true }
  mgr :=
    { ctxData := fun _ => ⟨.free, none, false, 0⟩, ctxtCnt := 0, fwDownload := true, recovery := false
      hw := ⟨0, 0, false, false, 0, 0, 0, 0, 0⟩ }
  numAcq := 1

theorem noBitmap_not_truthful : ¬noBitmap.Truthful := by
  intro h
  obtain ⟨i, hi, hstate, -⟩ := h.1.1 (by decide)
  have hzero : i = 0 := (Option.some.inj (show some 0 = some i from hi)).symm
  subst hzero
  exact absurd hstate (by decide)

end Call

end CameraKernel.IcpAcquire
