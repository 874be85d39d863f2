import CameraKernel.BlobReader
import CameraKernel.CdmUtil
import CameraKernel.IspPrepare
import CameraKernel.VfeBusAccount

/-! The handler of the generic blobs of an ISP packet, with what it reads through `blob_data`. The
hardware's answers are the environment's. -/
namespace CameraKernel.IspBlobs
open BlobReader (ReadM Trace Keeps read useIndex outcome)
open GenericBlob (Memory)
open PacketUtil (wordAt)
open VfeBus (VfeOutType camVfeBusGetNumWm getNumWm_le)

def CAM_ISP_GENERIC_BLOB_TYPE_HFR_CONFIG : UInt32 := 0
def CAM_ISP_GENERIC_BLOB_TYPE_CLOCK_CONFIG : UInt32 := 1
def CAM_ISP_GENERIC_BLOB_TYPE_BW_CONFIG : UInt32 := 2
def CAM_ISP_GENERIC_BLOB_TYPE_UBWC_CONFIG : UInt32 := 3
def CAM_ISP_GENERIC_BLOB_TYPE_CSID_CLOCK_CONFIG : UInt32 := 4
def CAM_ISP_GENERIC_BLOB_TYPE_FE_CONFIG : UInt32 := 5
def CAM_ISP_GENERIC_BLOB_TYPE_BW_CONFIG_V2 : UInt32 := 6
def CAM_ISP_GENERIC_BLOB_TYPE_INIT_FRAME_DROP : UInt32 := 10
def CAM_ISP_GENERIC_BLOB_TYPE_SENSOR_DIMENSION_CONFIG : UInt32 := 11
def CAM_ISP_GENERIC_BLOB_TYPE_FPS_CONFIG : UInt32 := 12
def CAM_ISP_GENERIC_BLOB_TYPE_MAX : UInt32 := CAM_ISP_GENERIC_BLOB_TYPE_BW_CONFIG_V2 + 1

def CAM_ISP_IFE_OUT_RES_MAX : UInt32 := 0x3018
def CAM_IFE_HW_OUT_RES_MAX : UInt32 := CAM_ISP_IFE_OUT_RES_MAX &&& 0xFF
def CAM_IFE_RDI_NUM_MAX : UInt32 := 4
def CAM_IFE_HW_NUM_MAX : UInt32 := 8
def CAM_UBWC_CFG_VERSION_1 : UInt32 := 1

def CAM_ISP_HW_VFE_IN_CAMIF : UInt32 := 0
def CAM_ISP_HW_VFE_IN_RD : UInt32 := 2
def CAM_ISP_HW_VFE_IN_RDI3 : UInt32 := 6
def CAM_ISP_HW_VFE_IN_CAMIF_LITE : UInt32 := 7

/-- The sizes of the structures; one with an array has a single element in it. -/
def sizeofPortHfrConfig : ℕ := 24
def sizeofResourceHfrConfig : ℕ := 32
def sizeofClockConfig : ℕ := 32
def sizeofBwVote : ℕ := 24
def sizeofBwConfig : ℕ := 80
def sizeofBwConfigInternal : ℕ := 152
def sizeofBwConfigAb : ℕ := 32
def sizeofBwConfigInternalAb : ℕ := 56
def sizeofUbwcPlaneCfg : ℕ := 40
def sizeofUbwcConfig : ℕ := 88
def sizeofCsidClockConfig : ℕ := 8
def sizeofFeConfig : ℕ := 64
def sizeofInitFrameDropConfig : ℕ := 4
def sizeofSensorDimension : ℕ := 12
def sizeofSensorConfig : ℕ := 80
def sizeofFpsConfig : ℕ := 4

/-- A non-null `hw_res[i]`: its side, the index of its hardware, and what its `process_cmd` answers,
if there is one. -/
structure HwRes where
  left : Bool
  hwIdx : UInt32
  processCmd : Option ℤ
  deriving DecidableEq, Repr

/-- `struct cam_ife_hw_mgr_res`. -/
structure HwMgrRes where
  resId : UInt32
  hwRes : List HwRes
  deriving DecidableEq, Repr

/-- A write master of an output, with the state that a UBWC update asks for. -/
structure Wm where
  index : UInt32
  hasUbwcRegs : Bool
  enUbwc : Bool
  deriving DecidableEq, Repr

/-- The data of an output of the VFE bus. It has the write masters that its format asks for, or
none. -/
structure VfeOutData where
  hasCdmUtilOps : Bool
  wms : List Wm
  numWm : wms = [] ∨ ∃ (outType : VfeOutType) (format : ℕ),
    (wms.length : ℤ) = camVfeBusGetNumWm outType format

/-- A `hw_res[i]` of an output: the index of its hardware and its private data. -/
structure OutHw where
  hwIdx : UInt32
  resPriv : Option VfeOutData

structure OutRes where
  uninit : Bool
  hwRes : List OutHw

/-- `struct cam_ife_hw_mgr_ctx`. -/
structure Ctx where
  resListIfeSrc : List HwMgrRes
  resListIfeInRd : List HwMgrRes
  resListIfeCsid : List HwMgrRes
  resListIfeOut : ℕ → OutRes

structure KmdBuf where
  usedBytes : UInt32
  size : UInt32
  deriving DecidableEq, Repr

/-- `struct cam_hw_prepare_update_args`. Its context has been looked into before the blobs are read, so
that it is there. -/
structure Prepare where
  privNull : Bool
  ctx : Ctx
  numHwUpdateEntries : UInt32
  maxHwUpdateEntries : UInt32

/-- `struct cam_isp_generic_blob_info`. -/
structure BlobInfo where
  prepare : Option Prepare
  kmdBuf : KmdBuf
  baseIdx : UInt32

/-- A call of the handler: `blob_data` points to the start of `mem`. -/
structure Call where
  blobInfo : Option BlobInfo
  blobType : UInt32
  blobSize : UInt32
  dataNull : Bool
  mem : Memory

/-- A word of the blob. -/
def word (mem : Memory) (offset : ℕ) : ReadM UInt32 := do
  read offset 4
  return wordAt mem offset

/-- The 32-bit fields at some offsets of a structure at `p`. -/
def readFields (p : ℕ) (fields : List ℕ) : ReadM Unit := do
  for field in fields do
    read (p + field) 4

def MAX_BUF_UPDATE_REG_NUM : ℕ := 28
def MAX_REG_VAL_PAIR_SIZE : ℕ := MAX_BUF_UPDATE_REG_NUM * 2 * 3

/-- The pass of `cam_vfe_bus_update_hfr` for the write master `k`; `p` is the port's offset. -/
def updateHfrWm (mem : Memory) (p : ℕ) (wm : Wm) (k : ℕ) : ReadM Unit := do
  if 8 * k ≥ MAX_REG_VAL_PAIR_SIZE - MAX_BUF_UPDATE_REG_NUM * 2 then throw (-Errno.ENOMEM)
  if wm.index ≤ 2 then
    let subsamplePeriod ← word mem (p + 8)
    if subsamplePeriod > 3 then throw (-Errno.EINVAL)
  -- framedrop pattern and period, then subsample period and pattern
  readFields p [12, 16, 8, 4]

/-- `cam_vfe_bus_update_hfr`: the bytes of the command. -/
def updateHfr (mem : Memory) (p : ℕ) (cmdSize : UInt32) (hw : OutHw) : ReadM UInt32 := do
  match hw.resPriv with
  | none => throw (-Errno.EINVAL)
  | some out =>
    if !out.hasCdmUtilOps then throw (-Errno.EINVAL)
    for (wm, k) in out.wms.zipIdx do
      updateHfrWm mem p wm k
    let size := UInt32.ofNat (CdmUtil.cdmRequiredSizeRegRandom (4 * out.wms.length))
    if size * 4 > cmdSize then throw (-Errno.ENOMEM)
    return size * 4

/-- The pass of `cam_vfe_bus_update_ubwc_config` for a write master; `p` is its plane's offset. -/
def updateUbwcWm (p : ℕ) (wm : Wm) : ReadM Unit := do
  if !wm.hasUbwcRegs then throw (-Errno.EINVAL)
  if !wm.enUbwc then throw (-Errno.EINVAL)
  -- packer and tile configuration, `h_init`, `v_init`, then the meta stride, the two mode
  -- configurations and the meta offset
  readFields p [16, 28, 32, 36, 4, 20, 24, 12]

/-- `cam_vfe_bus_update_ubwc_config`, which writes no command. -/
def updateUbwcConfig (p : ℕ) (hw : OutHw) : ReadM UInt32 := do
  match hw.resPriv with
  | none => throw (-Errno.EINVAL)
  | some out =>
    if !out.hasCdmUtilOps then throw (-Errno.EINVAL)
    for (wm, k) in out.wms.zipIdx do
      updateUbwcWm (p + sizeofUbwcPlaneCfg * k) wm
    return 0

/-- `cam_isp_add_cmd_buf_update`: the bytes used. -/
def addCmdBufUpdate (res : OutRes) (baseIdx : UInt32) (update : OutHw → ReadM UInt32) :
    ReadM UInt32 := do
  if res.uninit then throw (-Errno.EINVAL)
  let mut totalUsedBytes := 0
  for hw in res.hwRes do
    if hw.hwIdx = baseIdx then
      let bytes ← tryCatch (update hw) fun _ => throw (-Errno.ENOMEM)
      totalUsedBytes := totalUsedBytes + bytes
  return totalUsedBytes

/-! ### The handler -/

/-- One pass over the hardware of the resources in a list, with the return code it leaves. -/
def forHw (resList : List HwMgrRes) (rc : ℤ) (f : HwMgrRes → HwRes → ℤ → ReadM ℤ) : ReadM ℤ := do
  let mut rc := rc
  for res in resList do
    for hw in res.hwRes do
      rc ← f res hw rc
  return rc

/-- `process_cmd`, if there is one, after the arguments are read. -/
def processCmd (hw : HwRes) (rc : ℤ) (args : ReadM Unit) : ReadM ℤ := do
  match hw.processCmd with
  | none => return rc
  | some rc =>
    args
    return rc

namespace Call
variable (c : Call)

/-- The prologue of the loop over the ports: the index of the output that the word `portType` names,
and the KMD memory left. -/
def portOutput (info : BlobInfo) (total : UInt32) (portType : UInt32) : ReadM (ℕ × UInt32) := do
  let resIdOut := portType &&& 0xFF
  if resIdOut ≥ CAM_IFE_HW_OUT_RES_MAX then throw (-Errno.EINVAL)
  else if info.kmdBuf.usedBytes + total ≥ info.kmdBuf.size then throw (-Errno.ENOMEM)
  else
    useIndex resIdOut.toNat CAM_IFE_HW_OUT_RES_MAX.toNat
    return (resIdOut.toNat, info.kmdBuf.size - (info.kmdBuf.usedBytes + total))

/-- One port of `cam_isp_blob_hfr_update`; `total` is the number of bytes used before. -/
def hfrPort (info : BlobInfo) (ctx : Ctx) (i : ℕ) (total : UInt32) : ReadM UInt32 := do
  let p := 8 + sizeofPortHfrConfig * i
  let resourceType ← word c.mem p
  let (resIdOut, remain) ← portOutput info total resourceType
  useIndex c.blobType.toNat CAM_ISP_GENERIC_BLOB_TYPE_MAX.toNat
  let bytes ← addCmdBufUpdate (ctx.resListIfeOut resIdOut) info.baseIdx (updateHfr c.mem p remain)
  return total + bytes

def blobHfrUpdate (info : BlobInfo) (prepare : Prepare) (numPorts : UInt32) : ReadM ℤ := do
  if prepare.numHwUpdateEntries + 1 ≥ prepare.maxHwUpdateEntries then throw (-Errno.EINVAL)
  else
    let mut total := 0
    for i in List.range numPorts.toNat do
      total ← c.hfrPort info prepare.ctx i total
    return 0

/-- One port of `cam_isp_blob_ubwc_update`. -/
def ubwcPort (info : BlobInfo) (ctx : Ctx) (i : ℕ) (total : UInt32) : ReadM UInt32 := do
  let p := 8 + 2 * sizeofUbwcPlaneCfg * i
  let portType ← word c.mem p
  let (resIdOut, _) ← portOutput info total portType
  useIndex c.blobType.toNat CAM_ISP_GENERIC_BLOB_TYPE_MAX.toNat
  let bytes ← addCmdBufUpdate (ctx.resListIfeOut resIdOut) info.baseIdx (updateUbwcConfig p)
  return total + bytes

def blobUbwcUpdate (info : BlobInfo) (prepare : Prepare) (numPorts : UInt32) : ReadM ℤ := do
  if prepare.numHwUpdateEntries + 1 ≥ prepare.maxHwUpdateEntries then throw (-Errno.EINVAL)
  else
    let apiVersion ← word c.mem 0
    if apiVersion ≠ CAM_UBWC_CFG_VERSION_1 then throw (-Errno.EINVAL)
    else
      let mut total := 0
      for i in List.range numPorts.toNat do
        total ← c.ubwcPort info prepare.ctx i total
      return 0

/-- Which sides of the camera interface have their clock. -/
structure ClkUpdated where
  left : Bool
  right : Bool

/-- The rate for a hardware: whether there is one to set, after what is read for it. -/
def clkRate (numRdi : UInt32) (res : HwMgrRes) (hw : HwRes) (done : ClkUpdated) :
    ReadM (Bool × ClkUpdated) := do
  if res.resId = CAM_ISP_HW_VFE_IN_CAMIF ∨ res.resId = CAM_ISP_HW_VFE_IN_CAMIF_LITE then
    if hw.left then
      if done.left then return (false, done)
      else
        read 8 8
        return (true, { done with left := true })
    else
      if done.right then return (false, done)
      else
        read 16 8
        return (true, { done with right := true })
  else if CAM_ISP_HW_VFE_IN_RD ≤ res.resId ∧ res.resId ≤ CAM_ISP_HW_VFE_IN_RDI3 then
    for j in List.range numRdi.toNat do
      read (24 + 8 * j) 8
    return (true, done)
  else throw (-Errno.EINVAL)

/-- The hardware of one resource of `cam_isp_blob_clock_update`. -/
def clkHw (numRdi : UInt32) (res : HwMgrRes) (acc : ℤ × ClkUpdated) : ReadM (ℤ × ClkUpdated) := do
  let mut acc := acc
  for hw in res.hwRes do
    let (set, done) ← clkRate numRdi res hw acc.2
    acc := (if set then hw.processCmd.getD acc.1 else acc.1, done)
  return acc

def blobClockUpdate (prepare : Prepare) (numRdi : UInt32) : ReadM ℤ := do
  let mut acc := (-Errno.EINVAL, ⟨false, false⟩)
  for res in prepare.ctx.resListIfeSrc do
    acc ← clkHw numRdi res acc
  return acc.1

def blobCsidClockUpdate (ctx : Ctx) : ReadM ℤ :=
  forHw ctx.resListIfeCsid (-Errno.EINVAL) fun _ hw rc => do
    read 0 8
    processCmd hw rc (useIndex c.blobType.toNat CAM_ISP_GENERIC_BLOB_TYPE_MAX.toNat)

def blobFeUpdate (ctx : Ctx) : ReadM ℤ := do
  let rc ← forHw ctx.resListIfeInRd (-Errno.EINVAL) fun _ hw rc =>
    processCmd hw rc (read 0 sizeofFeConfig)
  forHw ctx.resListIfeSrc rc fun res hw rc => do
    if res.resId ≠ CAM_ISP_HW_VFE_IN_RD then return rc
    else processCmd hw rc (read 0 sizeofFeConfig)

/-- The path dimensions: `ipp_path`, `ppp_path`, then `rdi_path`. -/
def readDimensions : ReadM Unit := do
  read sizeofSensorDimension sizeofSensorDimension
  read 0 sizeofSensorDimension
  for j in List.range CAM_IFE_RDI_NUM_MAX.toNat do
    read (sizeofSensorDimension * (2 + j)) sizeofSensorDimension

/-- `cam_isp_blob_sensor_config`: only the first resource that has hardware is told. -/
def blobSensorConfig (ctx : Ctx) : ReadM ℤ :=
  forHw ((ctx.resListIfeCsid.find? (·.hwRes ≠ [])).toList) (-Errno.EINVAL) fun _ hw rc =>
    processCmd hw rc readDimensions

/-- `cam_isp_blob_init_frame_drop`: hardware with the index of the one before is left out. -/
def blobInitFrameDrop (ctx : Ctx) : ReadM ℤ := do
  let mut acc : ℤ × UInt32 := (0, 0xFFFFFFFF)
  for hw in ctx.resListIfeCsid.flatMap (·.hwRes) do
    if hw.hwIdx ≠ acc.2 then
      let rc ← processCmd hw acc.1 (read 0 sizeofInitFrameDropConfig)
      acc := (rc, hw.hwIdx)
  return acc.1

def blobFpsConfig (ctx : Ctx) : ReadM ℤ :=
  forHw ctx.resListIfeSrc (-Errno.EINVAL) fun res hw rc => do
    if res.resId ≠ CAM_ISP_HW_VFE_IN_CAMIF then return rc
    else processCmd hw rc (read 0 sizeofFpsConfig)

/-- The checks of a structure that ends with an array: `count` is the offset of its length field, and
`need` the size with that many elements. The rest is only done when they pass. -/
def checked (sizeof count : ℕ) (max : UInt32) (need : ℕ → ℕ) (rest : UInt32 → ReadM ℤ) :
    ReadM ℤ := do
  if c.blobSize.toNat < sizeof then throw (-Errno.EINVAL)
  else
    let num ← word c.mem count
    if num > max then throw (-Errno.EINVAL)
    else if c.blobSize.toNat < need num.toNat then throw (-Errno.EINVAL)
    else rest num

/-- The check of a structure without one. -/
def checkedFixed (sizeof : ℕ) (rest : ReadM ℤ) : ReadM ℤ := do
  if c.blobSize.toNat < sizeof then throw (-Errno.EINVAL) else rest

/-- The rest of the two bandwidth blobs: `usage_type` picks the entry that the copy is made to. -/
def copyBw (prepare : Prepare) (sizeofInternal : ℕ) : ReadM ℤ := do
  if prepare.privNull then return -Errno.EINVAL
  else
    let usageType ← word c.mem 0
    if usageType ≥ CAM_IFE_HW_NUM_MAX then return -Errno.EINVAL
    else
      useIndex usageType.toNat CAM_IFE_HW_NUM_MAX.toNat
      read 0 sizeofInternal
      return 0

def hfrConfig (info : BlobInfo) (prepare : Prepare) : ReadM ℤ :=
  c.checked sizeofResourceHfrConfig 0 CAM_ISP_IFE_OUT_RES_MAX (fun n => 8 + n * sizeofPortHfrConfig)
    (c.blobHfrUpdate info prepare)

def clockConfig (prepare : Prepare) : ReadM ℤ :=
  c.checked sizeofClockConfig 4 CAM_IFE_RDI_NUM_MAX (fun n => 8 + 8 * (n + 2))
    (blobClockUpdate prepare)

def bwConfig (prepare : Prepare) : ReadM ℤ :=
  c.checked sizeofBwConfig 4 CAM_IFE_RDI_NUM_MAX (fun n => 8 + (n + 2) * sizeofBwVote)
    fun _ => c.copyBw prepare sizeofBwConfigInternal

/-- The size is checked with `cam_isp_bw_vote` here too. -/
def bwConfigV2 (prepare : Prepare) : ReadM ℤ :=
  c.checked sizeofBwConfigAb 4 CAM_IFE_RDI_NUM_MAX (fun n => 8 + (n + 2) * sizeofBwVote)
    fun _ => c.copyBw prepare sizeofBwConfigInternalAb

def ubwcConfig (info : BlobInfo) (prepare : Prepare) : ReadM ℤ :=
  c.checked sizeofUbwcConfig 4 CAM_ISP_IFE_OUT_RES_MAX (fun n => 8 + n * sizeofUbwcPlaneCfg * 2)
    (c.blobUbwcUpdate info prepare)

/-- `cam_isp_packet_generic_blob_handler`. -/
def packetGenericBlobHandler : ReadM ℤ := do
  if c.dataNull ∨ c.blobSize = 0 then throw (-Errno.EINVAL)
  else match c.blobInfo with
  | none => throw (-Errno.EINVAL)
  | some info =>
    if c.blobType ≥ CAM_ISP_GENERIC_BLOB_TYPE_MAX then return 0
    else match info.prepare with
    | none => throw (-Errno.EINVAL)
    | some prepare =>
      if c.blobType = CAM_ISP_GENERIC_BLOB_TYPE_HFR_CONFIG then c.hfrConfig info prepare
      else if c.blobType = CAM_ISP_GENERIC_BLOB_TYPE_CLOCK_CONFIG then c.clockConfig prepare
      else if c.blobType = CAM_ISP_GENERIC_BLOB_TYPE_BW_CONFIG then c.bwConfig prepare
      else if c.blobType = CAM_ISP_GENERIC_BLOB_TYPE_BW_CONFIG_V2 then c.bwConfigV2 prepare
      else if c.blobType = CAM_ISP_GENERIC_BLOB_TYPE_UBWC_CONFIG then c.ubwcConfig info prepare
      else if c.blobType = CAM_ISP_GENERIC_BLOB_TYPE_CSID_CLOCK_CONFIG then
        c.checkedFixed sizeofCsidClockConfig (c.blobCsidClockUpdate prepare.ctx)
      else if c.blobType = CAM_ISP_GENERIC_BLOB_TYPE_FE_CONFIG then
        c.checkedFixed sizeofFeConfig (blobFeUpdate prepare.ctx)
      -- the type is below `CAM_ISP_GENERIC_BLOB_TYPE_MAX` here, so the last three do not happen
      else if c.blobType = CAM_ISP_GENERIC_BLOB_TYPE_INIT_FRAME_DROP then
        c.checkedFixed sizeofInitFrameDropConfig (blobInitFrameDrop prepare.ctx)
      else if c.blobType = CAM_ISP_GENERIC_BLOB_TYPE_SENSOR_DIMENSION_CONFIG then
        c.checkedFixed sizeofSensorConfig (blobSensorConfig prepare.ctx)
      else if c.blobType = CAM_ISP_GENERIC_BLOB_TYPE_FPS_CONFIG then
        c.checkedFixed sizeofFpsConfig (blobFpsConfig prepare.ctx)
      else return 0

/-- The size of the structure that the type asks for, with its array. -/
def needed : ℕ :=
  if c.blobType = CAM_ISP_GENERIC_BLOB_TYPE_HFR_CONFIG then
    8 + (wordAt c.mem 0).toNat * sizeofPortHfrConfig
  else if c.blobType = CAM_ISP_GENERIC_BLOB_TYPE_CLOCK_CONFIG then
    8 + 8 * ((wordAt c.mem 4).toNat + 2)
  else if c.blobType = CAM_ISP_GENERIC_BLOB_TYPE_BW_CONFIG then
    8 + ((wordAt c.mem 4).toNat + 2) * sizeofBwVote
  else if c.blobType = CAM_ISP_GENERIC_BLOB_TYPE_BW_CONFIG_V2 then
    8 + 8 * ((wordAt c.mem 4).toNat + 2)
  else if c.blobType = CAM_ISP_GENERIC_BLOB_TYPE_UBWC_CONFIG then
    8 + (wordAt c.mem 4).toNat * sizeofUbwcPlaneCfg * 2
  else if c.blobType = CAM_ISP_GENERIC_BLOB_TYPE_CSID_CLOCK_CONFIG then sizeofCsidClockConfig
  else if c.blobType = CAM_ISP_GENERIC_BLOB_TYPE_FE_CONFIG then sizeofFeConfig
  else 0

def Safe : Prop :=
  BlobReader.Safe c.blobSize.toNat c.needed (outcome c.packetGenericBlobHandler)

/-- A bandwidth blob of the first version passes the checks and is copied. -/
structure CopiesBw : Prop where
  data : c.dataNull = false
  prepare : ∃ info prepare, c.blobInfo = some info ∧ info.prepare = some prepare ∧
    prepare.privNull = false
  blobType : c.blobType = CAM_ISP_GENERIC_BLOB_TYPE_BW_CONFIG
  size : sizeofBwConfig ≤ c.blobSize.toNat
  numRdi : wordAt c.mem 4 ≤ CAM_IFE_RDI_NUM_MAX
  votes : 8 + ((wordAt c.mem 4).toNat + 2) * sizeofBwVote ≤ c.blobSize.toNat
  usageType : wordAt c.mem 0 < CAM_IFE_HW_NUM_MAX

def Good : Prop := c.CopiesBw → sizeofBwConfigInternal ≤ c.blobSize.toNat

end Call

/-! ### The calls keep to the blob -/

variable {size p offset : ℕ} {mem : Memory}

lemma word_keeps (h : offset + 4 ≤ size) :
    Keeps size (word mem offset) (· = wordAt mem offset) :=
  (Keeps.read h).bind fun _ _ => Keeps.pure rfl

lemma word_bind {α : Type} (f : UInt32 → ReadM α) (t : Trace) :
    (word mem offset >>= f) t = f (wordAt mem offset) (t.addRead offset 4) := rfl

lemma readFields_keeps {fields : List ℕ} (h : ∀ field ∈ fields, p + field + 4 ≤ size) :
    Keeps size (readFields p fields) fun _ => True := by
  refine Keeps.bind (.loop fun field hfield _ => ?_) fun _ _ => .pure trivial
  exact (Keeps.read (h field hfield)).bind fun _ _ => .pure ⟨_, rfl⟩

lemma updateHfrWm_keeps (h : p + 24 ≤ size) (wm : Wm) (k : ℕ) :
    Keeps size (updateHfrWm mem p wm k) fun _ => True := by
  have hfields : Keeps size (readFields p [12, 16, 8, 4]) fun _ => True :=
    readFields_keeps (by simp; omega)
  rw [updateHfrWm]
  refine .ite (fun _ => .throw (by decide)) fun _ => .ite (fun _ => ?_) fun _ => hfields
  exact (word_keeps (by omega)).bind fun _ _ => .ite (fun _ => .throw (by decide)) fun _ => hfields

lemma updateHfr_keeps (h : p + 24 ≤ size) (cmdSize : UInt32) (hw : OutHw) :
    Keeps size (updateHfr mem p cmdSize hw) fun _ => True := by
  rw [updateHfr]
  cases hw.resPriv with
  | none => exact .throw (by decide)
  | some out =>
    refine .ite (fun _ => .throw (by decide)) fun _ => ?_
    refine Keeps.bind (.loop fun x _ _ => ?_) fun _ _ => ?_
    · exact (updateHfrWm_keeps h x.1 x.2).bind fun _ _ => .pure ⟨_, rfl⟩
    · exact .ite (fun _ => .throw (by decide)) fun _ => .pure trivial

lemma updateUbwcWm_keeps (h : p + 40 ≤ size) (wm : Wm) :
    Keeps size (updateUbwcWm p wm) fun _ => True := by
  rw [updateUbwcWm]
  refine .ite (fun _ => .throw (by decide)) fun _ => .ite (fun _ => .throw (by decide)) fun _ => ?_
  exact readFields_keeps (by simp; omega)

lemma VfeOutData.length_wms_le (out : VfeOutData) : out.wms.length ≤ 2 := by
  rcases out.numWm with h | ⟨o, format, h⟩
  · rw [h]
    exact Nat.zero_le _
  · have := getNumWm_le o format
    omega

lemma updateUbwcConfig_keeps (h : p + 80 ≤ size) (hw : OutHw) :
    Keeps size (updateUbwcConfig p hw) fun _ => True := by
  rw [updateUbwcConfig]
  cases hw.resPriv with
  | none => exact .throw (by decide)
  | some out =>
    refine .ite (fun _ => .throw (by decide)) fun _ => ?_
    refine Keeps.bind (.loop fun x hx _ => ?_) fun _ _ => .pure trivial
    have hlen := out.length_wms_le
    have hlt := List.snd_lt_of_mem_zipIdx hx
    refine (updateUbwcWm_keeps ?_ x.1).bind fun _ _ => .pure ⟨_, rfl⟩
    simp only [sizeofUbwcPlaneCfg]
    omega

lemma addCmdBufUpdate_keeps {update : OutHw → ReadM UInt32} (res : OutRes) (baseIdx : UInt32)
    (h : ∀ hw, Keeps size (update hw) fun _ => True) :
    Keeps size (addCmdBufUpdate res baseIdx update) fun _ => True := by
  rw [addCmdBufUpdate]
  refine .ite (fun _ => .throw (by decide)) fun _ => ?_
  refine Keeps.bind (.loop fun hw _ _ => ?_) fun _ _ => .pure trivial
  refine .ite (fun _ => ?_) fun _ => .pure ⟨_, rfl⟩
  exact ((h hw).mapError (by decide)).bind fun _ _ => .pure ⟨_, rfl⟩

lemma forHw_keeps {f : HwMgrRes → HwRes → ℤ → ReadM ℤ} (resList : List HwMgrRes) (rc : ℤ)
    (h : ∀ res hw rc, Keeps size (f res hw rc) fun _ => True) :
    Keeps size (forHw resList rc f) fun _ => True := by
  refine Keeps.bind (.loop fun res _ rc => ?_) fun _ _ => .pure trivial
  refine Keeps.bind (.loop fun hw _ rc => ?_) fun _ _ => .pure ⟨_, rfl⟩
  exact (h res hw rc).bind fun _ _ => .pure ⟨_, rfl⟩

lemma processCmd_keeps {args : ReadM Unit} (hw : HwRes) (rc : ℤ)
    (h : Keeps size args fun _ => True) : Keeps size (processCmd hw rc args) fun _ => True := by
  rw [processCmd]
  cases hw.processCmd with
  | none => exact .pure trivial
  | some rc => exact h.bind fun _ _ => .pure trivial

namespace Call
variable {c : Call} {info : BlobInfo} {ctx : Ctx} {prepare : Prepare}

lemma portOutput_keeps (total portType : UInt32) :
    Keeps size (portOutput info total portType) fun _ => True := by
  refine .ite (fun _ => .throw (by decide)) fun hmax => .ite (fun _ => .throw (by decide)) fun _ => ?_
  refine (Keeps.useIndex ?_).bind fun _ _ => .pure trivial
  exact UInt32.lt_iff_toNat_lt.mp (UInt32.not_le.mp hmax)

lemma hfrPort_keeps (htype : c.blobType < CAM_ISP_GENERIC_BLOB_TYPE_MAX) {i : ℕ}
    (h : 8 + 24 * (i + 1) ≤ size) (total : UInt32) :
    Keeps size (c.hfrPort info ctx i total) fun _ => True := by
  have hp : 8 + sizeofPortHfrConfig * i + 24 ≤ size := by
    simp only [sizeofPortHfrConfig]
    omega
  refine (word_keeps (by omega)).bind fun w _ => (portOutput_keeps total w).bind fun out _ => ?_
  refine (Keeps.useIndex (UInt32.lt_iff_toNat_lt.mp htype)).bind fun _ _ => ?_
  exact (addCmdBufUpdate_keeps _ _ fun hw => updateHfr_keeps hp out.2 hw).bind fun _ _ => .pure trivial

lemma ubwcPort_keeps (htype : c.blobType < CAM_ISP_GENERIC_BLOB_TYPE_MAX) {i : ℕ}
    (h : 8 + 80 * (i + 1) ≤ size) (total : UInt32) :
    Keeps size (c.ubwcPort info ctx i total) fun _ => True := by
  have hp : 8 + 2 * sizeofUbwcPlaneCfg * i + 80 ≤ size := by
    simp only [sizeofUbwcPlaneCfg]
    omega
  refine (word_keeps (by omega)).bind fun w _ => (portOutput_keeps total w).bind fun out _ => ?_
  refine (Keeps.useIndex (UInt32.lt_iff_toNat_lt.mp htype)).bind fun _ _ => ?_
  exact (addCmdBufUpdate_keeps _ _ fun hw => updateUbwcConfig_keeps hp hw).bind fun _ _ =>
    .pure trivial

lemma blobHfrUpdate_keeps (htype : c.blobType < CAM_ISP_GENERIC_BLOB_TYPE_MAX) {numPorts : UInt32}
    (h : 8 + numPorts.toNat * sizeofPortHfrConfig ≤ size) :
    Keeps size (c.blobHfrUpdate info prepare numPorts) fun _ => True := by
  rw [blobHfrUpdate]
  refine .ite (fun _ => .throw (by decide)) fun _ => ?_
  refine Keeps.bind (.loop fun i hi total => ?_) fun _ _ => .pure trivial
  have hlt := List.mem_range.mp hi
  simp only [sizeofPortHfrConfig] at h
  exact (hfrPort_keeps htype (by omega) total).bind fun _ _ => .pure ⟨_, rfl⟩

lemma blobUbwcUpdate_keeps (htype : c.blobType < CAM_ISP_GENERIC_BLOB_TYPE_MAX) {numPorts : UInt32}
    (h : 8 + numPorts.toNat * sizeofUbwcPlaneCfg * 2 ≤ size) :
    Keeps size (c.blobUbwcUpdate info prepare numPorts) fun _ => True := by
  rw [blobUbwcUpdate]
  refine .ite (fun _ => .throw (by decide)) fun _ => (word_keeps (by omega)).bind fun _ _ => ?_
  refine .ite (fun _ => .throw (by decide)) fun _ => ?_
  refine Keeps.bind (.loop fun i hi total => ?_) fun _ _ => .pure trivial
  have hlt := List.mem_range.mp hi
  simp only [sizeofUbwcPlaneCfg] at h
  exact (ubwcPort_keeps htype (by omega) total).bind fun _ _ => .pure ⟨_, rfl⟩

lemma clkRate_keeps {numRdi : UInt32} (h : 8 + 8 * (numRdi.toNat + 2) ≤ size) (res : HwMgrRes)
    (hw : HwRes) (done : ClkUpdated) :
    Keeps size (clkRate numRdi res hw done) fun _ => True := by
  rw [clkRate]
  refine .ite (fun _ => .ite (fun _ => ?left) fun _ => ?right) fun _ => .ite (fun _ => ?rdi) fun _ =>
    .throw (by decide)
  case left =>
    exact .ite (fun _ => .pure trivial) fun _ => (Keeps.read (by omega)).bind fun _ _ => .pure trivial
  case right =>
    exact .ite (fun _ => .pure trivial) fun _ => (Keeps.read (by omega)).bind fun _ _ => .pure trivial
  case rdi =>
    refine Keeps.bind (.loop fun j hj _ => ?_) fun _ _ => .pure trivial
    have hlt := List.mem_range.mp hj
    exact (Keeps.read (by omega)).bind fun _ _ => .pure ⟨_, rfl⟩

lemma blobClockUpdate_keeps {numRdi : UInt32} (h : 8 + 8 * (numRdi.toNat + 2) ≤ size) :
    Keeps size (blobClockUpdate prepare numRdi) fun _ => True := by
  rw [blobClockUpdate]
  refine Keeps.bind (.loop fun res _ acc => ?_) fun _ _ => .pure trivial
  refine Keeps.bind (P := fun _ => True) ?_ fun _ _ => .pure ⟨_, rfl⟩
  refine Keeps.bind (.loop fun hw _ acc => ?_) fun _ _ => .pure trivial
  exact (clkRate_keeps h res hw acc.2).bind fun _ _ => .pure ⟨_, rfl⟩

lemma blobCsidClockUpdate_keeps (htype : c.blobType < CAM_ISP_GENERIC_BLOB_TYPE_MAX)
    (h : sizeofCsidClockConfig ≤ size) : Keeps size (c.blobCsidClockUpdate ctx) fun _ => True :=
  forHw_keeps _ _ fun _ hw rc => (Keeps.read (by rw [sizeofCsidClockConfig] at h; omega)).bind
    fun _ _ => processCmd_keeps hw rc (Keeps.useIndex (UInt32.lt_iff_toNat_lt.mp htype))

lemma blobFeUpdate_keeps (h : sizeofFeConfig ≤ size) :
    Keeps size (blobFeUpdate ctx) fun _ => True := by
  have hread : Keeps size (read 0 sizeofFeConfig) fun _ => True := Keeps.read (by omega)
  refine (forHw_keeps _ _ fun _ hw rc => processCmd_keeps hw rc hread).bind fun rc _ => ?_
  exact forHw_keeps _ _ fun _ hw rc => .ite (fun _ => .pure trivial) fun _ => processCmd_keeps hw rc hread

lemma copyBw_keeps (h : 4 ≤ size) {sizeofInternal : ℕ}
    (hcopy : prepare.privNull = false → wordAt c.mem 0 < CAM_IFE_HW_NUM_MAX → sizeofInternal ≤ size) :
    Keeps size (c.copyBw prepare sizeofInternal) fun _ => True := by
  rw [copyBw]
  refine .ite (fun _ => .pure trivial) fun hpriv => (word_keeps (by omega)).bind fun w hw => ?_
  refine .ite (fun _ => .pure trivial) fun husage => ?_
  have hlt := UInt32.not_le.mp husage
  refine (Keeps.useIndex (UInt32.lt_iff_toNat_lt.mp hlt)).bind fun _ _ => ?_
  have hsize := hcopy (by simpa using hpriv) (hw ▸ hlt)
  exact (Keeps.read (by omega)).bind fun _ _ => .pure trivial

lemma checked_keeps {sizeof count needed : ℕ} {max : UInt32} {need : ℕ → ℕ}
    {rest : UInt32 → ReadM ℤ} (hcount : count + 4 ≤ sizeof)
    (hneed : needed ≤ need (wordAt c.mem count).toNat)
    (h : sizeof ≤ c.blobSize.toNat → wordAt c.mem count ≤ max →
      need (wordAt c.mem count).toNat ≤ c.blobSize.toNat →
      Keeps c.blobSize.toNat (rest (wordAt c.mem count)) fun _ => True) :
    Keeps c.blobSize.toNat (c.checked sizeof count max need rest) fun _ =>
      needed ≤ c.blobSize.toNat := by
  rw [checked]
  refine .ite (fun _ => .throw (by decide)) fun hsize => ?_
  refine (word_keeps (by omega)).bind fun num hnum => ?_
  subst hnum
  refine .ite (fun _ => .throw (by decide)) fun hmax => .ite (fun _ => .throw (by decide)) fun hlen => ?_
  exact (h (Nat.not_lt.mp hsize) (UInt32.not_lt.mp hmax) (Nat.not_lt.mp hlen)).mono fun _ _ => by omega

lemma checkedFixed_keeps {sizeof : ℕ} {rest : ReadM ℤ}
    (h : sizeof ≤ c.blobSize.toNat → Keeps c.blobSize.toNat rest fun _ => True) :
    Keeps c.blobSize.toNat (c.checkedFixed sizeof rest) fun _ => sizeof ≤ c.blobSize.toNat := by
  rw [checkedFixed]
  refine .ite (fun _ => .throw (by decide)) fun hsize => ?_
  exact (h (Nat.not_lt.mp hsize)).mono fun _ _ => Nat.not_lt.mp hsize

lemma needed_of_unknown (h : CAM_ISP_GENERIC_BLOB_TYPE_MAX ≤ c.blobType) : c.needed = 0 := by
  have hne (t : UInt32) (ht : ¬ CAM_ISP_GENERIC_BLOB_TYPE_MAX ≤ t) : c.blobType ≠ t := by
    rintro rfl
    exact ht h
  rw [needed, if_neg (hne _ (by decide)), if_neg (hne _ (by decide)), if_neg (hne _ (by decide)),
    if_neg (hne _ (by decide)), if_neg (hne _ (by decide)), if_neg (hne _ (by decide)),
    if_neg (hne _ (by decide))]

lemma handler_keeps (hgood : c.Good) :
    Keeps c.blobSize.toNat c.packetGenericBlobHandler fun _ => c.needed ≤ c.blobSize.toNat := by
  rw [packetGenericBlobHandler]
  refine .ite (fun _ => .throw (by decide)) fun hdata => ?_
  cases hinfo : c.blobInfo with
  | none => exact .throw (by decide)
  | some info =>
    refine .ite (fun h => .pure (needed_of_unknown h ▸ Nat.zero_le _)) fun htype => ?_
    have htype := UInt32.not_le.mp htype
    cases hprepare : info.prepare with
    | none => exact .throw (by decide)
    | some prepare =>
      refine .ite (fun h => ?hfr) fun hhfr => .ite (fun h => ?clock) fun hclock =>
        .ite (fun h => ?bw) fun hbw => .ite (fun h => ?bwV2) fun hbwV2 =>
        .ite (fun h => ?ubwc) fun hubwc => .ite (fun h => ?csid) fun hcsid =>
        .ite (fun h => ?fe) fun hfe => .ite (fun h => ?frameDrop) fun _ =>
        .ite (fun h => ?dimension) fun _ => .ite (fun h => ?fps) fun _ => ?other
      case hfr =>
        refine checked_keeps (by decide) (by rw [needed, h]; exact le_rfl) fun _ _ hlen => ?_
        exact blobHfrUpdate_keeps htype hlen
      case clock =>
        refine checked_keeps (by decide) (by rw [needed, h]; exact le_rfl) fun _ _ hlen => ?_
        exact blobClockUpdate_keeps hlen
      case bw =>
        refine checked_keeps (by decide) (by rw [needed, h]; exact le_rfl) fun hsize hmax hlen => ?_
        refine copyBw_keeps (le_trans (by decide) hsize) fun hpriv husage => hgood ?_
        exact ⟨by simpa using fun hd => hdata (.inl hd), ⟨info, prepare, hinfo, hprepare, hpriv⟩, h,
          hsize, hmax, hlen, husage⟩
      case bwV2 =>
        have hneeded : c.needed = 8 + 8 * ((wordAt c.mem 4).toNat + 2) := by rw [needed, h]; rfl
        refine checked_keeps (by decide) ?_ fun hsize _ hlen => ?_
        · rw [hneeded, sizeofBwVote]
          omega
        · refine copyBw_keeps (le_trans (by decide) hsize) fun _ _ => le_trans ?_ hlen
          simp only [sizeofBwVote, sizeofBwConfigInternalAb]
          omega
      case ubwc =>
        refine checked_keeps (by decide) (by rw [needed, h]; exact le_rfl) fun _ _ hlen => ?_
        exact blobUbwcUpdate_keeps htype hlen
      case csid =>
        have hneeded : c.needed = sizeofCsidClockConfig := by rw [needed, h]; rfl
        rw [hneeded]
        exact checkedFixed_keeps fun hsize => blobCsidClockUpdate_keeps htype hsize
      case fe =>
        have hneeded : c.needed = sizeofFeConfig := by rw [needed, h]; rfl
        rw [hneeded]
        exact checkedFixed_keeps fun hsize => blobFeUpdate_keeps hsize
      case frameDrop => exact absurd (h ▸ htype) (by decide)
      case dimension => exact absurd (h ▸ htype) (by decide)
      case fps => exact absurd (h ▸ htype) (by decide)
      case other =>
        refine .pure ?_
        rw [needed, if_neg hhfr, if_neg hclock, if_neg hbw, if_neg hbwV2, if_neg hubwc, if_neg hcsid,
          if_neg hfe]
        exact Nat.zero_le _

lemma outcome_of_copiesBw (h : c.CopiesBw) :
    (outcome c.packetGenericBlobHandler).2.reads = [(4, 4), (0, 4), (0, sizeofBwConfigInternal)] := by
  obtain ⟨info, prepare, hinfo, hprepare, hpriv⟩ := h.prepare
  have hdata : ¬(c.dataNull = true ∨ c.blobSize = 0) := by
    have hsize := h.size
    rintro (hd | hz)
    · exact absurd (hd.symm.trans h.data) (by decide)
    · rw [hz] at hsize
      exact absurd hsize (by decide)
  have hhandler : c.packetGenericBlobHandler = c.bwConfig prepare := by
    rw [packetGenericBlobHandler, if_neg hdata, hinfo]
    simp only [hprepare, h.blobType]
    rfl
  have hrun : c.packetGenericBlobHandler Trace.empty = .ok 0
      ⟨[(4, 4), (0, 4), (0, sizeofBwConfigInternal)],
        [((wordAt c.mem 0).toNat, CAM_IFE_HW_NUM_MAX.toNat)]⟩ := by
    rw [hhandler, bwConfig, checked, if_neg (Nat.not_lt.mpr h.size), word_bind,
      if_neg (UInt32.not_lt.mpr h.numRdi), if_neg (Nat.not_lt.mpr h.votes), copyBw,
      if_neg (by simp [hpriv]), word_bind, if_neg (UInt32.not_le.mpr h.usageType)]
    rfl
  rw [outcome, hrun]

lemma packetBlob_safe_iff (c : Call) : c.Safe ↔ c.Good := by
  constructor
  · intro h hcopies
    have hreads := h.within.reads (0, sizeofBwConfigInternal)
    rw [outcome_of_copiesBw hcopies] at hreads
    simpa using hreads
  · exact fun hgood => (handler_keeps hgood).safe

end Call
end CameraKernel.IspBlobs
