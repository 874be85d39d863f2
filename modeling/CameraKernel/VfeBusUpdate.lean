import CameraKernel.CdmRoundTrip
import CameraKernel.VfeBusAccount

/-! The register lists that an update of a VFE output builds from its write masters, in the array of
the bus or of a master, and the command they become. -/
namespace CameraKernel.VfeBusUpdate
open CdmUtil (Memory HoldsAt Cmd cdmWriteRegrandom cdmRequiredSizeRegRandom)
open VfeBus (VfeOutType camVfeBusGetNumWm camVfeBusGetWmIdx wmFormatOk)
open VfeBus.CamFormat

def CAM_PACKET_MAX_PLANES : ℕ := 3

/-- The words of the two register structures of a client. -/
def MAX_BUF_UPDATE_REG_NUM : ℕ := (80 + 32) / 4

def MAX_REG_VAL_PAIR_SIZE : ℕ := MAX_BUF_UPDATE_REG_NUM * 2 * CAM_PACKET_MAX_PLANES

def CAM_VFE_RDI_BUS_DEFAULT_WIDTH : UInt32 := 0xFF01
def CAM_VFE_RDI_BUS_DEFAULT_STRIDE : UInt32 := 0xFF01

def CAM_CPAS_TITAN_NONE : ℕ := 0
def CAM_CPAS_TITAN_170_V100 : ℕ := 0x170100
def CAM_CPAS_TITAN_170_V110 : ℕ := 0x170110
def CAM_CPAS_TITAN_170_V120 : ℕ := 0x170120
def CAM_CPAS_TITAN_175_V100 : ℕ := 0x175100
def CAM_CPAS_TITAN_175_V101 : ℕ := 0x175101
def CAM_CPAS_TITAN_175_V111 : ℕ := 0x175111
def CAM_CPAS_TITAN_175_V120 : ℕ := 0x175120
def CAM_CPAS_TITAN_MAX : ℕ := 0x175121

def alignUp (value alignment : UInt32) : UInt32 := (value + alignment - 1) / alignment * alignment

/-- The register offsets of a UBWC client, of the older layout and of version 3. -/
structure RegOffsetUbwcClient where
  tileCfg : UInt32
  hInit : UInt32
  vInit : UInt32
  metaAddr : UInt32
  metaOffset : UInt32
  metaStride : UInt32
  modeCfg0 : UInt32
  modeCfg1 : UInt32
  bwLimit : UInt32
  threshlodLossy0 : UInt32
  threshlodLossy1 : UInt32
  deriving DecidableEq, Repr

structure RegOffsetBusClient where
  cfg : UInt32
  imageAddr : UInt32
  bufferWidthCfg : UInt32
  packerCfg : UInt32
  stride : UInt32
  irqSubsamplePeriod : UInt32
  irqSubsamplePattern : UInt32
  framedropPeriod : UInt32
  framedropPattern : UInt32
  frameInc : UInt32
  ubwcRegs : Option RegOffsetUbwcClient
  deriving DecidableEq, Repr

/-- `struct cam_vfe_bus_ver2_wm_resource_data`. -/
structure WmData where
  index : ℕ
  hwRegs : RegOffsetBusClient
  offset : UInt32
  width : UInt32
  stride : UInt32
  format : ℕ
  enUbwc : Bool
  packerCfg : UInt32
  tileCfg : UInt32
  hInit : UInt32
  vInit : UInt32
  ubwcMetaStride : UInt32
  ubwcModeCfg0 : UInt32
  ubwcModeCfg1 : UInt32
  ubwcMetaOffset : UInt32
  irqSubsamplePeriod : UInt32
  irqSubsamplePattern : UInt32
  framedropPeriod : UInt32
  framedropPattern : UInt32
  enCfg : UInt32
  isDual : Bool
  isLite : Bool
  deriving DecidableEq, Repr

/-- The write masters of the RDIs, that have an array of their own and take several frames. -/
def WmData.batched (w : WmData) : Bool := w.index < 3 || (w.isLite && w.index == 3)

/-- What a write master is after its release, and before it was ever acquired. -/
def camVfeBusReleaseWm (isLite : Bool) (index : ℕ) (hwRegs : RegOffsetBusClient) : WmData :=
  ⟨index, hwRegs, 0, 0, 0, 0, false, 0, 0, 0, 0, 0, 0, 0, 0, 0, 0, 0, 0, 0, false, isLite⟩

/-- The tables of a bus; those of an IFE lite list four clients. -/
structure BusHw where
  numClient : ℕ
  isLite : Bool
  hwRegs : ℕ → RegOffsetBusClient
  lite : isLite = true → numClient = 4

structure OutPortInfo where
  format : ℕ
  width : UInt32
  reserved : UInt32
  deriving DecidableEq, Repr

/-- The fields of `struct cam_vfe_bus_ver2_vfe_out_data` that an update reads. -/
structure OutData where
  wms : List WmData
  cdmUtilOps : Bool
  deriving DecidableEq, Repr

/-- Whether UBWC is enabled, and the width, for an output of two planes. -/
def planarWm (format : ℕ) (width : UInt32) : Option (Bool × UInt32) :=
  if format = ubwcNv12_4r then some (true, alignUp width 64)
  else if format = ubwcNv12 then some (true, width)
  else if format ∈ [nv21, nv12, yOnly] then some (false, width)
  else if format = ubwcTp10 then some (true, alignUp width 48 * 4 / 3)
  else if format = tp10 then some (false, alignUp width 3 * 4 / 3)
  else if format = plain16_10 then some (false, width * 2)
  else none

def rdiFormats : List ℕ :=
  [mipiRaw6, mipiRaw8, mipiRaw10, mipiRaw12, mipiRaw14, mipiRaw16, mipiRaw20, plain8, plain16_10,
    plain16_12, plain16_14, plain16_16, plain128, plain64]

def camVfeBusAcquireWm (isLite isDual : Bool) (info : OutPortInfo) (plane : ℕ) (w : WmData) :
    Option WmData :=
  let w := { w with format := info.format, width := info.width, isDual, isLite, offset := 0 }
  if w.batched then
    let w := if (info.reserved >>> 8) &&& 1 ≠ 0 then
        { w with
          width := CAM_VFE_RDI_BUS_DEFAULT_WIDTH
          stride := CAM_VFE_RDI_BUS_DEFAULT_STRIDE
          enCfg := 3 }
      else { w with enCfg := 1 }
    if rdiFormats.contains info.format then some w else none
  else if w.index < 5 ∨ w.index = 7 ∨ w.index = 8 ∨ w.index = 20 ∨ w.index = 21 then
    match planarWm info.format info.width with
    | none => none
    | some (ubwc, width) =>
      if plane < 2 then some { w with enUbwc := w.enUbwc || ubwc, width, enCfg := 1 } else none
  else if 10 ≤ w.index ∧ w.index < 20 then some { w with width := 0, stride := 1, enCfg := 3 }
  else if w.index = 9 then
    some { w with width := info.width * 2, stride := info.width * 2, enCfg := 1 }
  else some { w with width := alignUp (info.width * 4) 16, enCfg := 1 }

def acquirePlane (hw : BusHw) (o : VfeOutType) (isDual : Bool) (info : OutPortInfo) (plane : ℕ) :
    Option WmData :=
  (camVfeBusGetWmIdx o plane).bind fun index =>
    if hw.numClient ≤ index then none
    else camVfeBusAcquireWm hw.isLite isDual info plane
      (camVfeBusReleaseWm hw.isLite index (hw.hwRegs index))

def camVfeBusAcquireVfeOut (hw : BusHw) (o : VfeOutType) (isDual cdmUtilOps : Bool)
    (info : OutPortInfo) : Option OutData :=
  if camVfeBusGetNumWm o info.format < 1 then none
  else
    ((List.range (camVfeBusGetNumWm o info.format).toNat).mapM (acquirePlane hw o isDual info)).map
      fun wms => ⟨wms, cdmUtilOps⟩

inductive RegArray
  | bus
  | wm (index : ℕ)
  deriving DecidableEq, Repr

/-- A pair and the index that its offset was stored at. -/
structure Stored where
  idx : ℕ
  pair : UInt32 × UInt32
  deriving DecidableEq, Repr

/-- The arrays, the one that `reg_val_pair` points to, the index and the pairs stored so far. -/
structure RegList where
  ioBufUpdate : RegArray → Memory
  regValPair : RegArray
  j : ℕ
  stored : List Stored

/-- `CAM_VFE_ADD_REG_VAL_PAIR`. -/
def RegList.add (r : RegList) (p : UInt32 × UInt32) : RegList :=
  { r with
    ioBufUpdate := Function.update r.ioBufUpdate r.regValPair
      (Function.update (Function.update (r.ioBufUpdate r.regValPair) r.j p.1) (r.j + 1) p.2)
    j := r.j + 2
    stored := r.stored ++ [⟨r.j, p⟩] }

def RegList.addAll (r : RegList) (ps : List (UInt32 × UInt32)) : RegList := ps.foldl RegList.add r

/-- The pairs that the CDM writer reads. -/
def RegList.pairs (r : RegList) : List (UInt32 × UInt32) :=
  (List.range (r.j / 2)).map fun k =>
    (r.ioBufUpdate r.regValPair (2 * k), r.ioBufUpdate r.regValPair (2 * k + 1))

/-- What one master does to its data, the pairs that it stores, and its code. -/
abbrev WmStep := ℕ → WmData → WmData × List (UInt32 × UInt32) × ℤ

/-- The loop over the masters; it ends with the data, the list and the code. -/
def eachWm (step : WmStep) : ℕ → List WmData → RegList → List WmData × RegList × ℤ
  | _, [], r => ([], r, 0)
  | i, w :: ws, r =>
    if MAX_REG_VAL_PAIR_SIZE - MAX_BUF_UPDATE_REG_NUM * 2 ≤ r.j then (w :: ws, r, -Errno.ENOMEM)
    else
      -- The array of the bus is not pointed to again behind a master that has its own.
      let r := if w.batched then { r with regValPair := .wm w.index } else r
      let (w, ps, rc) := step i w
      let r := r.addAll ps
      if rc ≠ 0 then (w :: ws, r, rc)
      else
        let (ws, r, rc) := eachWm step (i + 1) ws r
        (w :: ws, r, rc)

/-- The command buffer of an update, in bytes, and what the arrays hold before it. -/
structure CmdBuf where
  mem : Memory
  addr : ℕ
  size : ℕ
  ioBufUpdate : RegArray → Memory

structure Result where
  rc : ℤ
  out : OutData
  stored : List Stored
  mem : Memory
  usedBytes : ℕ

def writeCmd (o : OutData) (c : CmdBuf) (l : List WmData × RegList × ℤ) : Result :=
  let (wms, r, rc) := l
  let o := { o with wms }
  if rc ≠ 0 then ⟨rc, o, r.stored, c.mem, 0⟩
  else
    let size := cdmRequiredSizeRegRandom (r.j / 2)
    if size * 4 > c.size then ⟨-Errno.ENOMEM, o, r.stored, c.mem, 0⟩
    else ⟨0, o, r.stored, (cdmWriteRegrandom c.mem c.addr r.pairs).1, size * 4⟩

def update (o : OutData) (c : CmdBuf) (step : WmStep) : Result :=
  writeCmd o c (eachWm step 0 o.wms ⟨c.ioBufUpdate, .bus, 0, []⟩)

structure Plane where
  planeStride : UInt32
  sliceHeight : UInt32
  metaSize : UInt32
  deriving DecidableEq, Repr

/-- What an update asks CPAS and the data shared by the masters for. -/
structure CommonData where
  cpasHwVersion : Except ℤ ℕ
  cameraHwVersion : ℕ
  ubwc8bitThresholdLossy : UInt32 × UInt32
  ubwc10bitThresholdLossy : UInt32 × UInt32

structure WmUpdate where
  common : CommonData
  numBuf : ℕ
  imageBuf : ℕ → UInt64
  planes : ℕ → Plane
  cmd : CmdBuf

section
variable (w : WmData) (regs : RegOffsetUbwcClient)

def ubwcBwLimit (tp10 nv12_4r : UInt32) : List (UInt32 × UInt32) :=
  if w.format = ubwcTp10 then [(regs.bwLimit, tp10)]
  else if w.format = ubwcNv12_4r then [(regs.bwLimit, nv12_4r)]
  else []

def ubwcGeometry : List (UInt32 × UInt32) :=
  [(w.hwRegs.packerCfg, w.packerCfg), (regs.tileCfg, w.tileCfg),
    (regs.hInit, if w.isDual then w.offset else w.hInit), (regs.vInit, w.vInit),
    (regs.metaStride, w.ubwcMetaStride), (regs.modeCfg0, w.ubwcModeCfg0)]

def camVfeBusUpdateUbwc3Regs (c : CommonData) : List (UInt32 × UInt32) :=
  ubwcGeometry w regs ++ [(regs.modeCfg1, w.ubwcModeCfg1), (regs.metaOffset, w.ubwcMetaOffset)] ++
    ubwcBwLimit w regs ((0x8 : UInt32) <<< 1 ||| 1) ((0xB : UInt32) <<< 1 ||| 1) ++
    (if c.cameraHwVersion = CAM_CPAS_TITAN_175_V120 then
      let lossy := if w.format = ubwcTp10 ∨ w.format = ubwcP010 then c.ubwc10bitThresholdLossy
        else c.ubwc8bitThresholdLossy
      [(regs.threshlodLossy0, lossy.1), (regs.threshlodLossy1, lossy.2)]
    else [])

def camVfeBusUpdateUbwcLegacyRegs (cameraHwVersion : ℕ) : List (UInt32 × UInt32) :=
  ubwcGeometry w regs ++ [(regs.metaOffset, w.ubwcMetaOffset)] ++
    (if cameraHwVersion = CAM_CPAS_TITAN_170_V110 then ubwcBwLimit w regs (0x8 ||| 1) (0xB ||| 1)
    else [])

def legacyVersion (v : ℕ) : Bool :=
  v == CAM_CPAS_TITAN_170_V100 || v == CAM_CPAS_TITAN_170_V110 || v == CAM_CPAS_TITAN_170_V120

def ubwc3Version (v : ℕ) : Bool :=
  v == CAM_CPAS_TITAN_175_V100 || v == CAM_CPAS_TITAN_175_V101 || v == CAM_CPAS_TITAN_175_V111 ||
    v == CAM_CPAS_TITAN_175_V120

/-- The caller does not look at the code. -/
def camVfeBusUpdateUbwcRegs (c : CommonData) : List (UInt32 × UInt32) × ℤ :=
  match c.cpasHwVersion with
  | .error rc => ([], rc)
  | .ok v =>
    if v ≤ CAM_CPAS_TITAN_NONE ∨ CAM_CPAS_TITAN_MAX ≤ v then ([], -Errno.EINVAL)
    else if legacyVersion v then (camVfeBusUpdateUbwcLegacyRegs w regs v, 0)
    else if ubwc3Version v then (camVfeBusUpdateUbwc3Regs w regs c, 0)
    else ([], 0)

def camVfeBusUpdateUbwcMetaAddr (imageBuf : UInt64) (cameraHwVersion : ℕ) : List (UInt32 × UInt32) :=
  if cameraHwVersion < CAM_CPAS_TITAN_170_V100 ∨ CAM_CPAS_TITAN_175_V120 < cameraHwVersion then []
  else if legacyVersion cameraHwVersion || ubwc3Version cameraHwVersion then
    [(regs.metaAddr, imageBuf.toUInt32)]
  else []

end

def frameInc (w : WmData) (p : Plane) : UInt32 :=
  if w.enUbwc then alignUp (p.planeStride * p.sliceHeight) 4096 + p.metaSize
  else p.planeStride * p.sliceHeight

def loopSize (w : WmData) : UInt32 := if w.batched then w.irqSubsamplePeriod + 1 else 1

/-- Where the frames of a plane begin. -/
def planeBase (w : WmData) (p : Plane) (imageBuf : UInt64) : UInt64 :=
  imageBuf + (if w.enUbwc then p.metaSize else w.offset).toUInt64

def imageAddrs (w : WmData) (p : Plane) (imageBuf : UInt64) : List (UInt32 × UInt32) :=
  (List.range (loopSize w).toNat).map fun k =>
    (w.hwRegs.imageAddr,
      (planeBase w p imageBuf + (UInt32.ofNat k * frameInc w p).toUInt64).toUInt32)

/-- Width, and the stride in line based mode. -/
def geometryPairs (w : WmData) (p : Plane) : List (UInt32 × UInt32) :=
  (w.hwRegs.bufferWidthCfg, w.width) :: if w.enCfg = 1 then [(w.hwRegs.stride, p.planeStride)] else []

/-- From the addresses to the enabling of the master. -/
def addressPairs (w : WmData) (p : Plane) (imageBuf : UInt64) : List (UInt32 × UInt32) :=
  imageAddrs w p imageBuf ++ [(w.hwRegs.frameInc, frameInc w p), (w.hwRegs.cfg, w.enCfg)]

def updateWmStep (u : WmUpdate) : WmStep := fun i w =>
  let p := u.planes i
  let geometry := geometryPairs w p
  let w := if w.enCfg = 1 then { w with stride := alignUp p.planeStride 16 } else w
  if w.enUbwc then
    match w.hwRegs.ubwcRegs with
    | none => (w, geometry, -Errno.EINVAL)
    | some regs =>
      (w, geometry ++ (camVfeBusUpdateUbwcRegs w regs u.common).1 ++
        camVfeBusUpdateUbwcMetaAddr regs (u.imageBuf i) u.common.cameraHwVersion ++
        addressPairs w p (u.imageBuf i), 0)
  else (w, geometry ++ addressPairs w p (u.imageBuf i), 0)

def camVfeBusUpdateWm (o : OutData) (u : WmUpdate) : Result :=
  if !o.cdmUtilOps then ⟨-Errno.EINVAL, o, [], u.cmd.mem, 0⟩
  else if u.numBuf ≠ o.wms.length then ⟨-Errno.EINVAL, o, [], u.cmd.mem, 0⟩
  else update o u.cmd (updateWmStep u)

/-- `struct cam_isp_port_hfr_config`. -/
structure HfrConfig where
  subsamplePattern : UInt32
  subsamplePeriod : UInt32
  framedropPattern : UInt32
  framedropPeriod : UInt32
  deriving DecidableEq, Repr

def updateHfrStep (h : HfrConfig) : WmStep := fun _ w =>
  if w.index ≤ 2 ∧ 3 < h.subsamplePeriod then (w, [], -Errno.EINVAL)
  else
    ({ w with
      framedropPattern := h.framedropPattern
      framedropPeriod := h.framedropPeriod
      irqSubsamplePeriod := h.subsamplePeriod
      irqSubsamplePattern := h.subsamplePattern },
    [(w.hwRegs.framedropPattern, h.framedropPattern), (w.hwRegs.framedropPeriod, h.framedropPeriod),
      (w.hwRegs.irqSubsamplePeriod, h.subsamplePeriod),
      (w.hwRegs.irqSubsamplePattern, h.subsamplePattern)], 0)

def camVfeBusUpdateHfr (o : OutData) (h : HfrConfig) (c : CmdBuf) : Result :=
  if !o.cdmUtilOps then ⟨-Errno.EINVAL, o, [], c.mem, 0⟩ else update o c (updateHfrStep h)

/-- `struct cam_ubwc_plane_cfg_v1`. -/
structure UbwcPlaneCfg where
  packerConfig : UInt32
  tileConfig : UInt32
  hInit : UInt32
  vInit : UInt32
  metaStride : UInt32
  modeConfig0 : UInt32
  modeConfig1 : UInt32
  metaOffset : UInt32
  deriving DecidableEq, Repr

def updateUbwcWms (cfg : ℕ → UbwcPlaneCfg) : ℕ → List WmData → List WmData × ℤ
  | _, [] => ([], 0)
  | i, w :: ws =>
    if w.hwRegs.ubwcRegs.isNone then (w :: ws, -Errno.EINVAL)
    else if !w.enUbwc then (w :: ws, -Errno.EINVAL)
    else
      let (ws, rc) := updateUbwcWms cfg (i + 1) ws
      ({ w with
        packerCfg := (cfg i).packerConfig
        tileCfg := (cfg i).tileConfig
        hInit := (cfg i).hInit
        vInit := (cfg i).vInit
        ubwcMetaStride := (cfg i).metaStride
        ubwcModeCfg0 := (cfg i).modeConfig0
        ubwcModeCfg1 := (cfg i).modeConfig1
        ubwcMetaOffset := (cfg i).metaOffset } :: ws, rc)

def camVfeBusUpdateUbwcConfig (o : OutData) (cfg : ℕ → UbwcPlaneCfg) : OutData × ℤ :=
  if !o.cdmUtilOps then (o, -Errno.EINVAL)
  else
    let (wms, rc) := updateUbwcWms cfg 0 o.wms
    ({ o with wms }, rc)

/-- `struct cam_isp_dual_stripe_config`. -/
structure StripeConfig where
  offset : UInt32
  width : UInt32
  tileconfig : UInt32
  deriving DecidableEq, Repr

/-- The stripes of the output's planes; an output that is not in the range of outputs is left. -/
def camVfeBusUpdateStripeCfg (o : OutData) (inRange : Bool) (stripes : ℕ → StripeConfig) :
    OutData × ℤ :=
  if !inRange then (o, 0)
  else
    ({ o with wms := o.wms.mapIdx fun i w => { w with
      width := (stripes i).width
      offset := (stripes i).offset
      tileCfg := (stripes i).tileconfig } }, 0)

/-- An update that builds a register list. -/
inductive RegUpdate
  | wm (u : WmUpdate)
  | hfr (h : HfrConfig) (c : CmdBuf)

inductive Call
  | regs (u : RegUpdate)
  | ubwc (cfg : ℕ → UbwcPlaneCfg)
  | stripe (inRange : Bool) (stripes : ℕ → StripeConfig)

def RegUpdate.cmd : RegUpdate → CmdBuf
  | .wm u => u.cmd
  | .hfr _ c => c

def RegUpdate.run (o : OutData) : RegUpdate → Result
  | .wm u => camVfeBusUpdateWm o u
  | .hfr h c => camVfeBusUpdateHfr o h c

def Call.run (o : OutData) : Call → OutData
  | .regs u => (u.run o).out
  | .ubwc cfg => (camVfeBusUpdateUbwcConfig o cfg).1
  | .stripe inRange stripes => (camVfeBusUpdateStripeCfg o inRange stripes).1

def run (o : OutData) (cs : List Call) : OutData := cs.foldl Call.run o

/-- The pairs were stored one behind the other, and the array still holds them. -/
structure RegList.Laid (r : RegList) : Prop where
  j : r.j = 2 * r.stored.length
  idx : r.stored.map (·.idx) = (List.range r.stored.length).map (2 * ·)
  held : HoldsAt (r.ioBufUpdate r.regValPair) 0 ((r.stored.map (·.pair)).flatMap fun p => [p.1, p.2])

lemma laid_nil (bufs : RegArray → Memory) (a : RegArray) : (RegList.mk bufs a 0 []).Laid :=
  ⟨rfl, rfl, trivial⟩

lemma holdsAt_update_of_le {mem : Memory} {q : ℕ} (v : UInt32) {p : ℕ} {ws : List UInt32}
    (h : HoldsAt mem p ws) (hq : p + ws.length ≤ q) : HoldsAt (Function.update mem q v) p ws := by
  induction ws generalizing p with
  | nil => trivial
  | cons w ws ih =>
    rw [List.length_cons] at hq
    exact ⟨by rw [Function.update_of_ne (by omega)]; exact h.1, ih h.2 (by omega)⟩

lemma RegList.Laid.add {r : RegList} (h : r.Laid) (p : UInt32 × UInt32) : (r.add p).Laid := by
  have hlen : ((r.stored.map (·.pair)).flatMap fun p => [p.1, p.2]).length = r.j := by
    rw [Cmd.length_flatMap_pair, List.length_map, h.j]
  refine ⟨?_, ?_, ?_⟩
  · simp only [RegList.add, List.length_append, List.length_singleton, h.j]
    omega
  · simp only [RegList.add, List.map_append, h.idx, List.length_append, List.length_singleton,
      List.range_succ, List.map_cons, List.map_nil, h.j]
  · simp only [RegList.add, Function.update_self, List.map_append, List.flatMap_append]
    refine CdmUtil.holdsAt_append.2 ⟨?_, ?_⟩
    · exact holdsAt_update_of_le _ (holdsAt_update_of_le _ h.held (by omega)) (by omega)
    · rw [hlen, Nat.zero_add]
      refine ⟨?_, ?_, trivial⟩
      · rw [Function.update_of_ne (by omega), Function.update_self]
      · exact Function.update_self ..

lemma RegList.Laid.addAll {r : RegList} (h : r.Laid) (ps : List (UInt32 × UInt32)) :
    (r.addAll ps).Laid := by
  induction ps generalizing r with
  | nil => exact h
  | cons p ps ih => exact ih (h.add p)

lemma addAll_j (r : RegList) (ps : List (UInt32 × UInt32)) :
    (r.addAll ps).j = r.j + 2 * ps.length := by
  induction ps generalizing r with
  | nil => rfl
  | cons p ps ih =>
    rw [RegList.addAll, List.foldl_cons, ← RegList.addAll, ih, List.length_cons]
    simp only [RegList.add]
    omega

lemma addAll_stored (r : RegList) (ps : List (UInt32 × UInt32)) :
    (r.addAll ps).stored.map (·.pair) = r.stored.map (·.pair) ++ ps := by
  induction ps generalizing r with
  | nil => simp [RegList.addAll]
  | cons p ps ih =>
    rw [RegList.addAll, List.foldl_cons, ← RegList.addAll, ih]
    simp [RegList.add]

lemma RegList.Laid.inArray_iff {r : RegList} (h : r.Laid) (b : ℕ) :
    (∀ s ∈ r.stored, s.idx + 1 < b) ↔ r.j ≤ b := by
  have hmem : ∀ n, (∃ s ∈ r.stored, s.idx = n) ↔ ∃ k < r.stored.length, 2 * k = n := by
    intro n
    have : n ∈ r.stored.map (·.idx) ↔ n ∈ (List.range r.stored.length).map (2 * ·) := by rw [h.idx]
    simpa using this
  constructor
  · intro hall
    rw [h.j]
    by_contra hlt
    obtain ⟨s, hs, hidx⟩ := (hmem _).2 ⟨r.stored.length - 1, by omega, rfl⟩
    have := hall s hs
    omega
  · intro hj s hs
    obtain ⟨k, hk, hidx⟩ := (hmem _).1 ⟨s, hs, rfl⟩
    have := h.j
    omega

lemma pairs_of_holdsAt {mem : Memory} {p : ℕ} {ps : List (UInt32 × UInt32)}
    (h : HoldsAt mem p (ps.flatMap fun q => [q.1, q.2])) :
    ((List.range ps.length).map fun k => (mem (p + 2 * k), mem (p + 2 * k + 1))) = ps := by
  induction ps generalizing p with
  | nil => rfl
  | cons q ps ih =>
    obtain ⟨h1, h2, hrest⟩ := h
    rw [List.length_cons, List.range_succ_eq_map, List.map_cons, List.map_map]
    congr 1
    · rw [Nat.mul_zero, Nat.add_zero, h1, h2]
    · refine (List.map_congr_left fun k _ => ?_).trans (ih hrest)
      simp only [Function.comp_apply]
      rw [show p + 2 * k.succ = p + 1 + 1 + 2 * k by omega]

lemma RegList.Laid.pairs {r : RegList} (h : r.Laid) : r.pairs = r.stored.map (·.pair) := by
  have := pairs_of_holdsAt h.held
  rw [List.length_map] at this
  rw [RegList.pairs, h.j, Nat.mul_div_cancel_left _ (by decide)]
  simpa using this

/-- What no call changes in a master that its acquire gave. -/
structure WmKept (w w' : WmData) : Prop where
  index : w'.index = w.index
  isLite : w'.isLite = w.isLite
  enUbwc : w'.enUbwc = w.enUbwc
  period : w.index ≤ 2 → w.irqSubsamplePeriod ≤ 3 → w'.irqSubsamplePeriod ≤ 3

lemma WmKept.refl (w : WmData) : WmKept w w := ⟨rfl, rfl, rfl, fun _ h => h⟩

lemma WmKept.batched {w w' : WmData} (h : WmKept w w') : w'.batched = w.batched := by
  rw [WmData.batched, WmData.batched, h.index, h.isLite]

lemma wmsKept_refl (ws : List WmData) : List.Forall₂ WmKept ws ws := by
  induction ws with
  | nil => exact .nil
  | cons w ws ih => exact .cons (.refl w) ih

/-- The list after one master. -/
def RegList.afterWm (r : RegList) (step : WmStep) (i : ℕ) (w : WmData) : RegList :=
  (if w.batched then { r with regValPair := .wm w.index } else r).addAll (step i w).2.1

lemma eachWm_cons (step : WmStep) (i : ℕ) (w : WmData) (ws : List WmData) (r : RegList) :
    eachWm step i (w :: ws) r =
      if MAX_REG_VAL_PAIR_SIZE - MAX_BUF_UPDATE_REG_NUM * 2 ≤ r.j then (w :: ws, r, -Errno.ENOMEM)
      else if (step i w).2.2 ≠ 0 then ((step i w).1 :: ws, r.afterWm step i w, (step i w).2.2)
      else
        ((step i w).1 :: (eachWm step (i + 1) ws (r.afterWm step i w)).1,
          (eachWm step (i + 1) ws (r.afterWm step i w)).2) := rfl

lemma eachWm_kept {step : WmStep} (hstep : ∀ i w, WmKept w (step i w).1) (i : ℕ) (ws : List WmData)
    (r : RegList) : List.Forall₂ WmKept ws (eachWm step i ws r).1 := by
  induction ws generalizing i r with
  | nil => exact .nil
  | cons w ws ih =>
    rw [eachWm_cons]
    split_ifs
    · exact wmsKept_refl _
    · exact .cons (hstep i w) (wmsKept_refl ws)
    · exact .cons (hstep i w) (ih ..)

lemma eachWm_laid {step : WmStep} {n : ℕ} {ws : List WmData}
    (hb : ∀ w ∈ ws, w.batched = false) (hstep : ∀ i, ∀ w ∈ ws, (step i w).2.1.length ≤ n) (i : ℕ)
    {r : RegList} (h : r.Laid) :
    (eachWm step i ws r).2.1.Laid ∧ (eachWm step i ws r).2.1.j ≤ r.j + 2 * n * ws.length := by
  induction ws generalizing i r with
  | nil => exact ⟨h, Nat.le_refl _⟩
  | cons w ws ih =>
    have hlen := hstep i w (List.mem_cons_self ..)
    have hafter : r.afterWm step i w = r.addAll (step i w).2.1 := by
      rw [RegList.afterWm, hb w (List.mem_cons_self ..), if_neg Bool.false_ne_true]
    have hj : (r.afterWm step i w).j ≤ r.j + 2 * n := by
      rw [hafter, addAll_j]
      omega
    have hlaid : (r.afterWm step i w).Laid := by
      rw [hafter]
      exact h.addAll _
    have hmul : 2 * n * (ws.length + 1) = 2 * n + 2 * n * ws.length := by ring
    rw [eachWm_cons, List.length_cons, hmul, ← add_assoc]
    split_ifs
    · exact ⟨h, by dsimp only; omega⟩
    · exact ⟨hlaid, by dsimp only; omega⟩
    · obtain ⟨hl, hle⟩ := ih (fun w hw => hb w (List.mem_cons_of_mem _ hw))
        (fun i w hw => hstep i w (List.mem_cons_of_mem _ hw)) (i + 1) hlaid
      exact ⟨hl, hle.trans (Nat.add_le_add_right hj _)⟩

/-- The list of an output with a single master. -/
def oneList (step : WmStep) (w : WmData) (bufs : RegArray → Memory) : RegList :=
  (RegList.mk bufs (if w.batched then .wm w.index else .bus) 0 []).addAll (step 0 w).2.1

lemma eachWm_one (step : WmStep) (w : WmData) (bufs : RegArray → Memory) :
    eachWm step 0 [w] ⟨bufs, .bus, 0, []⟩ =
      ([(step 0 w).1], oneList step w bufs, (step 0 w).2.2) := by
  have h0 : ¬ MAX_REG_VAL_PAIR_SIZE - MAX_BUF_UPDATE_REG_NUM * 2 ≤ 0 := by decide
  have hafter : (RegList.mk bufs .bus 0 []).afterWm step 0 w = oneList step w bufs := by
    rw [RegList.afterWm, oneList]
    cases w.batched <;> rfl
  rw [eachWm_cons, if_neg h0, hafter]
  split_ifs with hrc
  · rfl
  · rw [not_ne_iff.1 hrc]
    rfl

lemma oneList_laid (step : WmStep) (w : WmData) (bufs : RegArray → Memory) :
    (oneList step w bufs).Laid :=
  (laid_nil ..).addAll _

lemma oneList_j (step : WmStep) (w : WmData) (bufs : RegArray → Memory) :
    (oneList step w bufs).j = 2 * (step 0 w).2.1.length := by
  rw [oneList, addAll_j]
  exact Nat.zero_add _

lemma oneList_stored (step : WmStep) (w : WmData) (bufs : RegArray → Memory) :
    (oneList step w bufs).stored.map (·.pair) = (step 0 w).2.1 := by
  rw [oneList, addAll_stored]
  rfl

end CameraKernel.VfeBusUpdate
