import CameraKernel.PacketUtil

/-! How an IFE context prepares a packet: the entries it puts into the request's hardware update
list, what the hardware writes into the KMD buffer, and the bitmap of paths for the register update.
What the hardware and the buffer manager answer is the environment's. -/
namespace CameraKernel.IspPrepare
open PacketUtil (KmdBufInfo CmdDesc validateCmdDesc validatePacket getKmdBuffer)
open GenericBlob (CpuBuf)

/-- `enum cam_isp_hw_split_id`. -/
inductive SplitId
  | left | right | max
  deriving DecidableEq, Repr

/-- `struct cam_isp_resource_node` with the index of its hardware. -/
structure ResourceNode where
  resId : UInt32
  hwIdx : UInt32
  deriving DecidableEq, Repr

/-- `struct cam_ife_hw_mgr_res`: its type is `CAM_IFE_HW_MGR_RES_UNINIT` or not, and `hw_res` has a
node for the left and one for the right side. -/
structure HwMgrRes where
  uninit : Bool
  left : Option ResourceNode
  right : Option ResourceNode
  deriving DecidableEq, Repr

/-- The nodes of `hw_res` that are there and belong to the hardware `baseIdx`, with their place. -/
def HwMgrRes.nodesOn (res : HwMgrRes) (baseIdx : UInt32) : List (ResourceNode × ℕ) :=
  ((res.left.toList.map (·, 0)) ++ (res.right.toList.map (·, 1))).filter (·.1.hwIdx = baseIdx)

/-- `struct ctx_base_info`. -/
structure CtxBaseInfo where
  idx : UInt32
  splitId : SplitId
  deriving DecidableEq, Repr

/-- The lists of `struct cam_ife_hw_mgr_ctx` that a prepare reads. -/
structure Ctx where
  base : List CtxBaseInfo
  resListIfeSrc : List HwMgrRes
  resListIfeOut : ℕ → HwMgrRes
  resListIfeInRd : List HwMgrRes

/-- The blobs that `cam_isp_packet_generic_blob_handler` is called with. Only two kinds add to the
update list; a blob of another type, or too short for its type, is `other`. -/
inductive IspBlob
  | hfrConfig (resourceTypes : List UInt32)
  | ubwcConfig (apiVersion : UInt32) (portTypes : List UInt32)
  | other
  deriving DecidableEq, Repr

/-- `struct cam_cmd_buf_desc`. For a buffer of blobs: the blobs that are found in it, and what the
walk over the buffer returns when all of them are handled. -/
structure CmdBufDesc extends CmdDesc where
  metaData : ℕ
  blobs : List IspBlob
  walk : ℤ
  deriving DecidableEq, Repr

/-- Which base a command descriptor is for. -/
inductive Side
  | left | right | common
  deriving DecidableEq, Repr

def Side.meets : Side → SplitId → Bool
  | .left, splitId => splitId = .left
  | .right, splitId => splitId = .right
  | .common, _ => true

/-- The cases of the switch over a descriptor's meta data. -/
inductive MetaKind
  | command (side : Side)
  | dualConfig
  | genericBlob (side : Side)
  | invalid
  deriving DecidableEq, Repr

/-- By the values of `CAM_ISP_PACKET_META_*`. -/
def metaKind : ℕ → MetaKind
  | 0 => .command .left
  | 1 => .command .left
  | 4 => .command .left
  | 2 => .command .right
  | 5 => .command .right
  | 3 => .command .common
  | 6 => .command .common
  | 9 => .dualConfig
  | 10 => .genericBlob .left
  | 11 => .genericBlob .right
  | 12 => .genericBlob .common
  | _ => .invalid

/-- The fields of `struct cam_buf_io_cfg` that are read here. -/
structure BufIoCfg where
  memHandle : List ℤ
  resourceType : UInt32
  fence : ℤ
  direction : ℕ
  deriving DecidableEq, Repr

def CAM_BUF_INPUT : ℕ := 1
def CAM_BUF_OUTPUT : ℕ := 2

/-- `struct cam_hw_fence_map_entry`. -/
structure FenceMapEntry where
  resourceHandle : UInt32
  syncId : ℤ
  deriving DecidableEq, Repr

/-- `struct cam_hw_update_entry` without its flags. -/
structure EntryBody where
  handle : ℤ
  offset : UInt32
  len : UInt32
  deriving DecidableEq, Repr

def CAM_ISP_IQ_BL : UInt32 := 1
def CAM_ISP_IOCFG_BL : UInt32 := 2

/-- What a prepare has stored in an entry of `hw_update_entries`; a part that is not stored keeps
what an earlier prepare left there. -/
structure Slot where
  body : Option EntryBody
  flags : Option UInt32
  deriving DecidableEq, Repr

/-- `struct cam_hw_prepare_update_args` and the packet with its decoded descriptors. -/
structure Args where
  packet : PacketUtil.Packet
  remainLen : ℕ
  opCode : ℕ
  cmdDescs : List CmdBufDesc
  ioCfgs : List BufIoCfg
  maxHwUpdateEntries : ℕ
  maxOutMapEntries : ℕ
  maxInMapEntries : ℕ

/-- Where a hardware is asked to write commands: the positions in the loops that lead there. -/
inductive Site
  | changeBase (regUpdate : Bool) (base : ℕ)
  | port (base desc blob port split : ℕ)
  | io (base ioCfg split : ℕ)
  | regUpdate (base src split : ℕ)
  deriving DecidableEq, Repr

/-- The answers of a prepare. `processCmd` is the number of bytes that the hardware has to write at
a place, or its error: it writes them when they fit, and every place is come to once. -/
structure Env where
  cpuBuf : CpuBuf
  processPatches : ℤ
  processCmd : Site → Except ℤ UInt32
  aligned : ∀ site bytes, processCmd site = .ok bytes → 4 ∣ bytes.toNat
  dualConfig : ℕ → ℕ → ℤ
  otherBlob : ℕ → ℕ → ℕ → ℤ
  plane : ℕ → ℕ → ℕ → ℕ → ℤ

/-- What a prepare changes. `writes` are the places and lengths of what the hardware wrote, from the
start of the KMD buffer; `filled` the calls of `fill_res_bitmap`; `rupBitmaps` the bitmaps that
`cam_isp_add_reg_update` was called with. -/
structure Prep where
  stored : ℕ → Slot
  numHwUpdateEntries : ℕ
  kmdBuf : KmdBufInfo
  outMapEntries : List FenceMapEntry
  inMapEntries : List FenceMapEntry
  resBitmap : UInt64
  writes : List (ℕ × UInt32)
  filled : List UInt32
  rupBitmaps : List UInt64

abbrev PrepM := EStateM ℤ Prep

def Prep.setBody (s : Prep) (k : ℕ) (body : EntryBody) : Prep :=
  { s with stored := Function.update s.stored k { s.stored k with body := some body } }

def Prep.setFlags (s : Prep) (k : ℕ) (flags : UInt32) : Prep :=
  { s with stored := Function.update s.stored k { s.stored k with flags := some flags } }

/-- An entry for the next `bytes` of the KMD buffer. -/
def Prep.addKmdBody (s : Prep) (bytes : UInt32) : Prep :=
  { s.setBody s.numHwUpdateEntries ⟨s.kmdBuf.handle, s.kmdBuf.offset, bytes⟩ with
    kmdBuf := { s.kmdBuf with
      usedBytes := s.kmdBuf.usedBytes + bytes
      offset := s.kmdBuf.offset + bytes }
    numHwUpdateEntries := s.numHwUpdateEntries + 1 }

/-- The same with its flags, `CAM_ISP_IOCFG_BL`. -/
def Prep.addKmdEntry (s : Prep) (bytes : UInt32) : Prep :=
  (s.setFlags s.numHwUpdateEntries CAM_ISP_IOCFG_BL).addKmdBody bytes

def Prep.addCmdEntry (s : Prep) (desc : CmdBufDesc) : Prep :=
  { (s.setFlags s.numHwUpdateEntries CAM_ISP_IQ_BL).setBody s.numHwUpdateEntries
      ⟨desc.memHandle, desc.offset, desc.length⟩ with
    numHwUpdateEntries := s.numHwUpdateEntries + 1 }

def checkEntries (args : Args) : PrepM Unit := do
  let s ← get
  if s.numHwUpdateEntries + 1 ≥ args.maxHwUpdateEntries then throw (-Errno.EINVAL)

/-- The hardware's `process_cmd` with a buffer of `size` bytes that starts behind the used bytes and
`total` more, both counted in words. -/
def processCmd (env : Env) (site : Site) (total size : UInt32) (err : ℤ → ℤ) : PrepM UInt32 := do
  match env.processCmd site with
  | .error rc => throw (err rc)
  | .ok bytes =>
    if bytes ≤ size then
      modify fun s => { s with writes := s.writes ++
        [(4 * (s.kmdBuf.usedBytes.toNat / 4 + total.toNat / 4), bytes)] }
      return bytes
    else throw (err (-Errno.EINVAL))

/-- `kmd_buf_remain_size`. -/
def remainSize (total : UInt32) (err : ℤ) : PrepM UInt32 := do
  let s ← get
  if s.kmdBuf.usedBytes + total < s.kmdBuf.size then
    return s.kmdBuf.size - (s.kmdBuf.usedBytes + total)
  else throw err

/-- The nodes of the initialised sources on a base, with their places. -/
def srcNodes (src : List HwMgrRes) (baseIdx : UInt32) : List (ResourceNode × ℕ × ℕ) :=
  src.zipIdx.flatMap fun (res, r) =>
    if res.uninit then [] else (res.nodesOn baseIdx).map fun (node, j) => (node, r, j)

def camIspAddChangeBase (env : Env) (args : Args) (ctx : Ctx) (regUpdate : Bool) (i : ℕ)
    (baseIdx : UInt32) : PrepM Unit := do
  checkEntries args
  if srcNodes ctx.resListIfeSrc baseIdx = [] then throw (-Errno.EINVAL)
  let s ← get
  let bytes ← processCmd env (.changeBase regUpdate i) 0
    (s.kmdBuf.size - s.kmdBuf.usedBytes) id
  modify fun s => s.addKmdEntry bytes

/-- All nodes of the resource write to the same place. -/
def camIspAddCmdBufUpdate (env : Env) (res : HwMgrRes) (i d b p : ℕ) (baseIdx : UInt32)
    (total size : UInt32) : PrepM UInt32 := do
  if res.uninit then throw (-Errno.EINVAL)
  let mut totalUsedBytes := 0
  for node in res.nodesOn baseIdx do
    let bytes ← processCmd env (.port i d b p node.2) total size fun _ => -Errno.ENOMEM
    totalUsedBytes := totalUsedBytes + bytes
  return totalUsedBytes

def camIfeHwOutResMax : UInt32 := 24

/-- The loop over the ports that the two configurations share. The entry gets no flags here. -/
def addPorts (env : Env) (ctx : Ctx) (i d b : ℕ) (baseIdx : UInt32) (types : List UInt32) :
    PrepM Unit := do
  let mut totalUsedBytes := 0
  for port in types.zipIdx do
    let resIdOut := port.1 &&& 0xFF
    if resIdOut ≥ camIfeHwOutResMax then throw (-Errno.EINVAL)
    let size ← remainSize totalUsedBytes (-Errno.ENOMEM)
    let bytesUsed ← camIspAddCmdBufUpdate env (ctx.resListIfeOut resIdOut.toNat) i d b port.2 baseIdx
      totalUsedBytes size
    totalUsedBytes := totalUsedBytes + bytesUsed
  if totalUsedBytes ≠ 0 then modify fun s => s.addKmdBody totalUsedBytes

def camIspBlobHfrUpdate (env : Env) (args : Args) (ctx : Ctx) (i d b : ℕ) (baseIdx : UInt32)
    (types : List UInt32) : PrepM Unit := do
  checkEntries args
  addPorts env ctx i d b baseIdx types

def CAM_UBWC_CFG_VERSION_1 : UInt32 := 1

def camIspBlobUbwcUpdate (env : Env) (args : Args) (ctx : Ctx) (i d b : ℕ) (baseIdx : UInt32)
    (apiVersion : UInt32) (types : List UInt32) : PrepM Unit := do
  checkEntries args
  if apiVersion ≠ CAM_UBWC_CFG_VERSION_1 then throw (-Errno.EINVAL)
  addPorts env ctx i d b baseIdx types

def camIspPacketGenericBlobHandler (env : Env) (args : Args) (ctx : Ctx) (i d b : ℕ)
    (baseIdx : UInt32) : IspBlob → PrepM Unit
  | .hfrConfig types => camIspBlobHfrUpdate env args ctx i d b baseIdx types
  | .ubwcConfig apiVersion types => camIspBlobUbwcUpdate env args ctx i d b baseIdx apiVersion types
  | .other => do if env.otherBlob i d b ≠ 0 then throw (env.otherBlob i d b)

/-- `cam_packet_util_process_generic_cmd_buffer` with the handler above. -/
def processGenericCmdBuffer (env : Env) (args : Args) (ctx : Ctx) (i d : ℕ) (baseIdx : UInt32)
    (desc : CmdBufDesc) : PrepM Unit := do
  for blob in desc.blobs.zipIdx do
    camIspPacketGenericBlobHandler env args ctx i d blob.2 baseIdx blob.1
  if desc.walk ≠ 0 then throw desc.walk

/-- One descriptor. A buffer of blobs has the flags of one entry set, the first one it may add. -/
def addCommandBuffer (env : Env) (args : Args) (ctx : Ctx) (i d : ℕ) (base : CtxBaseInfo)
    (desc : CmdBufDesc) : PrepM Unit := do
  if desc.length ≠ 0 then
    checkEntries args
    if validateCmdDesc desc.toCmdDesc ≠ 0 then throw (validateCmdDesc desc.toCmdDesc)
    match metaKind desc.metaData with
    | .command side =>
      if side.meets base.splitId then modify fun s => s.addCmdEntry desc
    | .dualConfig => if env.dualConfig i d ≠ 0 then throw (env.dualConfig i d)
    | .genericBlob side =>
      if side.meets base.splitId then
        let s ← get
        processGenericCmdBuffer env args ctx i d base.idx desc
        modify fun s' => s'.setFlags s.numHwUpdateEntries CAM_ISP_IQ_BL
    | .invalid => throw (-Errno.EINVAL)

def camIspAddCommandBuffers (env : Env) (args : Args) (ctx : Ctx) (i : ℕ) (base : CtxBaseInfo) :
    PrepM Unit := do
  for desc in args.cmdDescs.zipIdx do
    addCommandBuffer env args ctx i desc.2 base desc.1

/-- What `fill_res_bitmap` sets: the bit of the pixel path, of an RDI path or of the dual PD path. -/
def resBit (resourceType : UInt32) : UInt64 :=
  if resourceType ∈ [0x3000, 0x3001, 0x3002, 0x3003, 0x3004, 0x3005, 0x300A, 0x300B, 0x300C, 0x300D,
      0x300E, 0x300F, 0x3010, 0x3011, 0x3012, 0x3013, 0x3014, 0x3015, 0x4005] then 1
  else if resourceType = 0x3006 then 2
  else if resourceType = 0x3007 then 4
  else if resourceType = 0x3008 then 8
  else if resourceType = 0x3009 then 16
  else if resourceType = 0x3016 then 32
  else 0

def fillResBitmap (resourceType : UInt32) : PrepM Unit :=
  modify fun s => { s with
    resBitmap := s.resBitmap ||| resBit resourceType
    filled := s.filled ++ [resourceType] }

/-- The planes of an io config, up to the first without a buffer. -/
def setupMemIo (env : Env) (i k j : ℕ) (ioCfg : BufIoCfg) : PrepM Unit := do
  let planes := (ioCfg.memHandle.take 3).takeWhile (· ≠ 0)
  for plane in planes.zipIdx do
    if env.plane i k j plane.2 ≠ 0 then throw (env.plane i k j plane.2)
  if planes = [] then throw (-Errno.ENOMEM)

/-- The resource of an io config. -/
def ioRes (ctx : Ctx) (ioCfg : BufIoCfg) : HwMgrRes :=
  if ioCfg.direction = CAM_BUF_OUTPUT then
    ctx.resListIfeOut (ioCfg.resourceType &&& 0xFF).toNat
  else ctx.resListIfeInRd.headD ⟨true, none, none⟩

/-- The checks of an io config, and its fence when fences are wanted. -/
def mapIoCfg (args : Args) (ctx : Ctx) (fillFence : Bool) (ioCfg : BufIoCfg)
    (outMap inMap : List FenceMapEntry) : PrepM (List FenceMapEntry × List FenceMapEntry) := do
  let entry : FenceMapEntry := ⟨ioCfg.resourceType, ioCfg.fence⟩
  if ioCfg.direction = CAM_BUF_OUTPUT then
    if ioCfg.resourceType &&& 0xFF ≥ camIfeHwOutResMax then throw (-Errno.EINVAL)
    if fillFence && outMap.length ≥ args.maxOutMapEntries then throw (-Errno.EINVAL)
    if (ioRes ctx ioCfg).uninit then throw (-Errno.EINVAL)
    return (if fillFence then outMap ++ [entry] else outMap, inMap)
  else if ioCfg.direction = CAM_BUF_INPUT then
    if ctx.resListIfeInRd = [] then throw (-Errno.EINVAL)
    if fillFence && inMap.length ≥ args.maxInMapEntries then throw (-Errno.EINVAL)
    return (outMap, if fillFence then inMap ++ [entry] else inMap)
  else throw (-Errno.EINVAL)

/-- The loop over the nodes of one io config's resource. -/
def updateIoCfg (env : Env) (ctx : Ctx) (i k : ℕ) (baseIdx : UInt32) (ioCfg : BufIoCfg)
    (total : UInt32) : PrepM UInt32 := do
  let mut ioCfgUsedBytes := total
  for node in (ioRes ctx ioCfg).nodesOn baseIdx do
    if ioCfg.direction = CAM_BUF_OUTPUT ∧ node.1.resId ≠ ioCfg.resourceType then
      throw (-Errno.EINVAL)
    setupMemIo env i k node.2 ioCfg
    let size ← remainSize ioCfgUsedBytes (-Errno.ENOMEM)
    let bytes ← processCmd env (.io i k node.2) ioCfgUsedBytes size fun _ => -Errno.ENOMEM
    ioCfgUsedBytes := ioCfgUsedBytes + bytes
  return ioCfgUsedBytes

def camIspAddIoBuffers (env : Env) (args : Args) (ctx : Ctx) (i : ℕ) (baseIdx : UInt32)
    (fillFence : Bool) : PrepM Unit := do
  checkEntries args
  let mut ioCfgUsedBytes := 0
  let mut outMap := []
  let mut inMap := []
  for ioCfg in args.ioCfgs.zipIdx do
    let maps ← mapIoCfg args ctx fillFence ioCfg.1 outMap inMap
    outMap := maps.1
    inMap := maps.2
    ioCfgUsedBytes ← updateIoCfg env ctx i ioCfg.2 baseIdx ioCfg.1 ioCfgUsedBytes
    fillResBitmap ioCfg.1.resourceType
  if ioCfgUsedBytes ≠ 0 then modify fun s => s.addKmdEntry ioCfgUsedBytes
  if fillFence then
    modify fun s => { s with outMapEntries := outMap, inMapEntries := inMap }

def camIspAddRegUpdate (env : Env) (args : Args) (ctx : Ctx) (i : ℕ) (baseIdx : UInt32) :
    PrepM Unit := do
  modify fun s => { s with rupBitmaps := s.rupBitmaps ++ [s.resBitmap] }
  checkEntries args
  let mut regUpdateSize := 0
  for node in srcNodes ctx.resListIfeSrc baseIdx do
    let size ← remainSize regUpdateSize (-Errno.EINVAL)
    let bytes ← processCmd env (.regUpdate i node.2.1 node.2.2) regUpdateSize size id
    regUpdateSize := regUpdateSize + bytes
  if srcNodes ctx.resListIfeSrc baseIdx = [] then throw (-Errno.EINVAL)
  if regUpdateSize ≠ 0 then modify fun s => s.addKmdEntry regUpdateSize

def CAM_ISP_PACKET_INIT_DEV : ℕ := 1

def Args.isInit (args : Args) : Bool := (args.opCode + 1) % 16 = CAM_ISP_PACKET_INIT_DEV

/-- The first loop over the bases, for one of them; fences are filled for the first only. -/
def prepareBase (env : Env) (args : Args) (ctx : Ctx) (i : ℕ) (base : CtxBaseInfo) :
    PrepM Unit := do
  camIspAddChangeBase env args ctx false i base.idx
  if base.splitId ≠ .max then camIspAddCommandBuffers env args ctx i base
  camIspAddIoBuffers env args ctx i base.idx (i = 0)

/-- The second loop. -/
def regUpdateBase (env : Env) (args : Args) (ctx : Ctx) (i : ℕ) (base : CtxBaseInfo) :
    PrepM Unit := do
  camIspAddChangeBase env args ctx true i base.idx
  camIspAddRegUpdate env args ctx i base.idx

def prepareBases (env : Env) (args : Args) (ctx : Ctx) : PrepM Unit := do
  for base in ctx.base.zipIdx do
    prepareBase env args ctx base.2 base.1
  if args.isInit then return
  for base in ctx.base.zipIdx do
    regUpdateBase env args ctx base.2 base.1
  modify fun s => { s with resBitmap := 0 }

/-- Nothing stored yet, and the packet's KMD buffer. -/
def Prep.start (kmdBuf : KmdBufInfo) (resBitmap : UInt64) : Prep :=
  ⟨fun _ => ⟨none, none⟩, 0, kmdBuf, [], [], resBitmap, [], [], []⟩

/-- What is known of the KMD buffer before the packet names it. -/
def unsetKmdBuf : KmdBufInfo := ⟨0, 0, 0, 0, 0⟩

def camIfeMgrPrepareHwUpdate (env : Env) (args : Args) (ctx : Ctx) (resBitmap : UInt64) :
    EStateM.Result ℤ Prep Unit :=
  let rejected (rc : ℤ) := .error rc (.start unsetKmdBuf resBitmap)
  if validatePacket args.packet args.remainLen ≠ 0 then
    rejected (validatePacket args.packet args.remainLen)
  else match getKmdBuffer args.packet env.cpuBuf with
    | .error rc => rejected rc
    | .ok kmdBuf =>
      if env.processPatches ≠ 0 then rejected env.processPatches
      else prepareBases env args ctx (.start kmdBuf resBitmap)

end CameraKernel.IspPrepare
