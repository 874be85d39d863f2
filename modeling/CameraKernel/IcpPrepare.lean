import CameraKernel.Bitmap
import CameraKernel.PacketPatches
import CameraKernel.RefTrace
import CameraKernel.SyncOps

/-! Preparing an ICP packet: its command buffers for the firmware, and the references to their CPU
mappings. What the memory manager answers is a parameter, with a number for the descriptor asked for. -/
namespace CameraKernel.IcpPrepare
open Bitmap (findFirstZeroBit)
open PacketUtil (Packet IoBuf MemAnswers PatchEvent validatePacket processPatches wordAt handleAt
  sizeofCmdBufDesc sizeofBufIoCfg)
open RefTrace (Ref Balanced Held)

/-- `struct cam_cmd_buf_desc`. -/
structure CmdDesc extends PacketUtil.CmdDesc where
  type : UInt32
  metaData : UInt32
  deriving DecidableEq, Repr

def CAM_CMD_BUF_FW : UInt32 := 8
def CAM_ICP_CMD_META_GENERIC_BLOB : UInt32 := 1
def CAM_ICP_CTX_MAX_CMD_BUFFERS : UInt32 := 2
def CAM_FRAME_CMD_MAX : ℕ := 20
def CAM_MAX_IN_RES : ℕ := 8
def CAM_MAX_OUT_RES : ℕ := 6
def CAM_BUF_INPUT : UInt32 := 1
def CAM_BUF_OUTPUT : UInt32 := 2
def IPE_IO_IMAGES_MAX : UInt32 := 14
def CAM_ICP_OPCODE_IPE_UPDATE : UInt32 := 0
def CAM_ICP_OPCODE_BPS_UPDATE : UInt32 := 1

def CmdDesc.isFw (d : CmdDesc) : Bool := d.type = CAM_CMD_BUF_FW

def cmdDescs (packet : Packet) : List CmdDesc :=
  (List.range packet.numCmdBuf.toNat).map fun i =>
    let p := 4 * (packet.cmdBufOffset / 4).toNat + sizeofCmdBufDesc * i
    ⟨PacketUtil.cmdDescAt packet.payload p, wordAt packet.payload (p + 16),
      wordAt packet.payload (p + 20)⟩

/-- The fields of `struct cam_buf_io_cfg` that are read. -/
structure IoConfig where
  fence : ℤ
  direction : UInt32
  deriving DecidableEq, Repr

def ioConfigs (packet : Packet) : List IoConfig :=
  (List.range packet.numIoConfigs.toNat).map fun i =>
    let p := 4 * (packet.ioConfigsOffset / 4).toNat + sizeofBufIoCfg * i
    ⟨handleAt packet.payload (p + 192), wordAt packet.payload (p + 224)⟩

def directions (packet : Packet) : List UInt32 := (ioConfigs packet).map (·.direction)

/-- `sync_in_obj`. -/
def syncInObj (packet : Packet) : List ℤ :=
  ((ioConfigs packet).filter (·.direction = CAM_BUF_INPUT)).map (·.fence)

def pktValidation (packet : Packet) (opCode : UInt32) : ℤ :=
  if opCode &&& 0xff ≠ CAM_ICP_OPCODE_IPE_UPDATE ∧ opCode &&& 0xff ≠ CAM_ICP_OPCODE_BPS_UPDATE then
    -Errno.EINVAL
  else if packet.numIoConfigs > IPE_IO_IMAGES_MAX then -Errno.EINVAL
  else if packet.numCmdBuf > CAM_ICP_CTX_MAX_CMD_BUFFERS then -Errno.EINVAL
  else if (directions packet).count CAM_BUF_INPUT > CAM_MAX_IN_RES ∨
      (directions packet).count CAM_BUF_OUTPUT > CAM_MAX_OUT_RES then -Errno.EINVAL
  else 0

/-- What `cam_mem_get_cpu_buf` answers: an address when it succeeds. -/
structure CpuAccess where
  rc : ℤ
  cpuAddr : ℕ
  len : ℕ
  mapped : rc = 0 → cpuAddr ≠ 0

/-- A call: packet, context, and the answers of the memory manager, of the handlers of the generic
blobs, and of `cam_sync_merge`. -/
structure Call where
  packet : Packet
  remainLen : ℕ
  opCode : UInt32
  acquired : Bool
  bitmap : ℕ → Bool
  iommuHdl : ℤ
  iommuSecHdl : ℤ
  getIoBuf : ℕ → IoBuf
  getCpuBuf : ℕ → CpuAccess
  patches : MemAnswers
  getBlobBuf : ℕ → CpuAccess
  handleBlobs : ℕ → ℤ
  syncMergeRc : ℤ

/-- The return code, the references taken and given back, and the bitmap of the frame slots. -/
structure Result where
  rc : ℤ
  refs : List (Ref ℤ)
  bitmap : ℕ → Bool

/-- The four ways in which a descriptor stops the loop. -/
inductive Refusal
  | noIoBuf | outsideIoBuf | noCpuBuf | outsideCpuBuf
  deriving DecidableEq, Repr

namespace Call
variable (c : Call)

def descs : List CmdDesc := cmdDescs c.packet

def OutsideIo (d : CmdDesc) (i : ℕ) : Prop :=
  d.offset.toNat ≥ (c.getIoBuf i).bufSize ∨ (c.getIoBuf i).bufSize - d.offset.toNat < d.size.toNat

def OutsideCpu (d : CmdDesc) (i : ℕ) : Prop :=
  (c.getCpuBuf i).len ≤ d.offset.toNat ∨ d.size < d.length ∨
    (c.getCpuBuf i).len - d.offset.toNat < d.length.toNat

instance (d : CmdDesc) (i : ℕ) : Decidable (c.OutsideIo d i) :=
  inferInstanceAs (Decidable (_ ∨ _))

instance (d : CmdDesc) (i : ℕ) : Decidable (c.OutsideCpu d i) :=
  inferInstanceAs (Decidable (_ ∨ _ ∨ _))

/-- The checks of a firmware descriptor, in order. -/
def refusal (d : CmdDesc) (i : ℕ) : Option Refusal :=
  if (c.getIoBuf i).rc ≠ 0 then some .noIoBuf
  else if c.OutsideIo d i then some .outsideIoBuf
  else if (c.getCpuBuf i).rc ≠ 0 then some .noCpuBuf
  else if c.OutsideCpu d i then some .outsideCpuBuf
  else none

/-- The return code of a refusal, and the index where the release starts. -/
def stop (i : ℕ) : Refusal → ℤ × ℕ
  | .noIoBuf => ((c.getIoBuf i).rc, i - 1)
  | .outsideIoBuf => (0, i)
  | .noCpuBuf => ((c.getCpuBuf i).rc, i - 1)
  | .outsideCpuBuf => (0, i)

/-- The loop over the descriptors: the references taken, and how it stops. -/
def takeCmdBufs : List (CmdDesc × ℕ) → List (Ref ℤ) × Option (ℤ × ℕ)
  | [] => ([], none)
  | (d, i) :: ds =>
    if d.isFw then
      match c.refusal d i with
      | none => (.get d.memHandle :: (takeCmdBufs ds).1, (takeCmdBufs ds).2)
      | some .outsideCpuBuf => ([.get d.memHandle], some (c.stop i .outsideCpuBuf))
      | some r => ([], some (c.stop i r))
    else takeCmdBufs ds

/-- The handles of the firmware descriptors. -/
def fwHandles (ds : List CmdDesc) : List ℤ := (ds.filter CmdDesc.isFw).map (·.memHandle)

/-- `rel_cmd_buf`, from the index downwards. -/
def relCmdBuf (last : ℕ) : List (Ref ℤ) := (fwHandles (c.descs.take (last + 1)).reverse).map Ref.put

/-- `cam_icp_mgr_process_cmd_desc`. -/
def processCmdDesc : ℤ × List (Ref ℤ) :=
  match c.takeCmdBufs c.descs.zipIdx with
  | (refs, some (rc, last)) => (rc, refs ++ c.relCmdBuf last)
  | (refs, none) => (if fwHandles c.descs = [] then -Errno.EINVAL else 0, refs)

/-- `cam_icp_mgr_put_cmd_buf`. -/
def putCmdBuf : List (Ref ℤ) := (fwHandles c.descs).map Ref.put

/-- `cam_packet_util_process_generic_cmd_buffer`, for the descriptor `i`. -/
def genericBuffer (d : CmdDesc) (i : ℕ) : ℤ × List (Ref ℤ) :=
  let buf := c.getBlobBuf i
  if d.length = 0 ∨ d.size = 0 then (-Errno.EINVAL, [])
  else if buf.rc ≠ 0 then (buf.rc, [])
  else if buf.cpuAddr = 0 ∨ buf.len = 0 then (0, [.get d.memHandle])
  else if buf.len < 4 ∨ d.offset.toNat > buf.len - 4 then
    (0, [.get d.memHandle, .put d.memHandle])
  else if buf.len - d.offset.toNat < d.length.toNat then (0, [.get d.memHandle, .put d.memHandle])
  else (c.handleBlobs i, [.get d.memHandle, .put d.memHandle])

/-- `cam_icp_process_generic_cmd_buffer`: the code is that of the last buffer that is processed. -/
def processGenericCmdBuffer (rc : ℤ) : List (CmdDesc × ℕ) → ℤ × List (Ref ℤ)
  | [] => (rc, [])
  | (d, i) :: ds =>
    if d.length = 0 ∨ d.metaData ≠ CAM_ICP_CMD_META_GENERIC_BLOB then processGenericCmdBuffer rc ds
    else
      let (rc, refs) := c.genericBuffer d i
      let (rc', refs') := processGenericCmdBuffer rc ds
      (rc', refs ++ refs')

/-- The slot is set, and cleared again when the blobs fail. -/
def updateHfiFrameProcess : ℤ × List (Ref ℤ) × Option ℕ × (ℕ → Bool) :=
  match findFirstZeroBit 64 c.bitmap with
  | none => (-Errno.EINVAL, [], none, c.bitmap)
  | some index =>
    if index ≥ CAM_FRAME_CMD_MAX then (-Errno.EINVAL, [], none, c.bitmap)
    else
      let bitmap := Function.update c.bitmap index true
      let (rc, refs) := c.processGenericCmdBuffer 0 c.descs.zipIdx
      if rc ≠ 0 then (rc, refs, none, Function.update bitmap index false)
      else (0, refs, some index, bitmap)

/-- `cam_icp_mgr_process_io_cfg`: the distinct input fences are merged when there are several, and
there has to be one. -/
def processIoCfg : ℤ :=
  let fences := syncInObj c.packet
  let num := if fences.length > 1 then (SyncOps.camCommonUtilRemoveDuplicateArr fences).2 else fences.length
  if num > 1 then c.syncMergeRc
  else if num = 1 then 0
  else -Errno.EINVAL

/-- The references of the patches. -/
def patchRefs (events : List PatchEvent) : List (Ref ℤ) :=
  events.filterMap fun
    | .getCpuBuf hdl => some (.get hdl)
    | .putCpuBuf hdl => some (.put hdl)
    | .write _ _ => none

/-- The steps behind the command descriptors, which end the call or go on to the last put. -/
def laterSteps : Result :=
  let (rc, events) := processPatches c.packet c.iommuHdl c.iommuSecHdl c.patches
  if rc ≠ 0 then ⟨rc, patchRefs events, c.bitmap⟩
  else match c.updateHfiFrameProcess with
    | (rc, refs, none, bitmap) => ⟨rc, patchRefs events ++ refs, bitmap⟩
    | (_, refs, some idx, bitmap) =>
      if c.processIoCfg ≠ 0 then
        ⟨c.processIoCfg, patchRefs events ++ refs, Function.update bitmap idx false⟩
      else ⟨0, patchRefs events ++ refs, bitmap⟩

/-- `cam_icp_mgr_prepare_hw_update`. -/
def prepareHwUpdate : Result :=
  if !c.acquired then ⟨-Errno.EINVAL, [], c.bitmap⟩
  else if validatePacket c.packet c.remainLen ≠ 0 then ⟨-Errno.EINVAL, [], c.bitmap⟩
  else if pktValidation c.packet c.opCode ≠ 0 then
    ⟨pktValidation c.packet c.opCode, [], c.bitmap⟩
  else if c.processCmdDesc.1 ≠ 0 then ⟨c.processCmdDesc.1, c.processCmdDesc.2, c.bitmap⟩
  else
    let later := c.laterSteps
    ⟨later.rc, c.processCmdDesc.2 ++ later.refs ++ if later.rc = 0 then c.putCmdBuf else [],
      later.bitmap⟩

/-- A firmware descriptor has a buffer that it does not fit. -/
def Unfit (d : CmdDesc) (i : ℕ) : Prop :=
  d.isFw ∧ ((c.getIoBuf i).rc = 0 ∧ c.OutsideIo d i ∨ (c.getCpuBuf i).rc = 0 ∧ c.OutsideCpu d i)

structure Sound : Prop where
  rejects : (∃ x ∈ c.descs.zipIdx, c.Unfit x.1 x.2) →
    c.prepareHwUpdate.rc ≠ 0 ∧ c.prepareHwUpdate.bitmap = c.bitmap
  balanced : Balanced c.prepareHwUpdate.refs
  held : Held c.prepareHwUpdate.refs

/-- The packet comes to the command descriptors. -/
def Admitted : Prop :=
  c.acquired ∧ validatePacket c.packet c.remainLen = 0 ∧ pktValidation c.packet c.opCode = 0

/-- The first firmware descriptor that is refused. -/
def firstRefusal (ds : List (CmdDesc × ℕ)) : Option (ℕ × Refusal) :=
  ds.findSome? fun (d, i) => if d.isFw then (c.refusal d i).map (i, ·) else none

/-- The patches, the slot with its blobs, and the io configuration all succeed. -/
def LaterSucceed : Prop :=
  (processPatches c.packet c.iommuHdl c.iommuSecHdl c.patches).1 = 0 ∧
    c.updateHfiFrameProcess.2.2.1 ≠ none ∧ c.processIoCfg = 0

/-- The patches give back what they take; and so do the blobs, when it comes to them. -/
def LaterBalanced : Prop := Balanced c.laterSteps.refs

/-- When the references balance and nothing unfit is accepted. -/
def Good : Prop :=
  c.Admitted → match c.firstRefusal c.descs.zipIdx with
    | none => fwHandles c.descs = [] ∨ c.LaterSucceed ∧ c.LaterBalanced
    | some (i, .noIoBuf) => i ≠ 0
    | some (_, .outsideIoBuf) => False
    | some (i, .noCpuBuf) => i ≠ 0
    | some (_, .outsideCpuBuf) => ¬c.LaterSucceed ∧ c.LaterBalanced

lemma held_patchRefs (rc : ℤ) (rounds : List PacketUtil.PatchRound) :
    Held (patchRefs (PacketUtil.processRounds rc rounds).2) := by
  induction rounds generalizing rc with
  | nil => exact Held.nil
  | cons r rest ih =>
    rcases PacketUtil.processPatch_cases r with ⟨-, heq⟩ | ⟨-, -, rc', heq⟩ | ⟨-, -, rc', heq⟩
    · simp only [PacketUtil.processRounds, heq, patchRefs, List.filterMap_append]
      exact (RefTrace.held_around (l := [r.patch.dstBufHdl]) Held.nil (List.Perm.refl _)).append
        (ih r.dst.rc)
    · simp only [PacketUtil.processRounds, heq]
      exact RefTrace.held_gets [r.patch.dstBufHdl]
    · simp only [PacketUtil.processRounds, heq]
      exact Held.nil

lemma held_genericBuffer (d : CmdDesc) (i : ℕ) : Held (c.genericBuffer d i).2 := by
  have hpair : Held [Ref.get d.memHandle, .put d.memHandle] :=
    RefTrace.held_around (l := [d.memHandle]) Held.nil (List.Perm.refl _)
  have hget : Held [Ref.get d.memHandle] := RefTrace.held_gets [d.memHandle]
  simp only [genericBuffer]
  split_ifs
  all_goals first | exact Held.nil | exact hget | exact hpair

lemma held_processGenericCmdBuffer (rc : ℤ) (ds : List (CmdDesc × ℕ)) :
    Held (c.processGenericCmdBuffer rc ds).2 := by
  induction ds generalizing rc with
  | nil => exact Held.nil
  | cons x ds ih =>
    simp only [processGenericCmdBuffer]
    split
    · exact ih rc
    · exact (c.held_genericBuffer x.1 x.2).append (ih _)

lemma updateHfiFrameProcess_spec :
    Held c.updateHfiFrameProcess.2.1 ∧
      match c.updateHfiFrameProcess with
      | (rc, _, none, bitmap) => rc ≠ 0 ∧ bitmap = c.bitmap
      | (rc, _, some idx, bitmap) =>
        rc = 0 ∧ c.bitmap idx = false ∧ bitmap = Function.update c.bitmap idx true := by
  rw [updateHfiFrameProcess]
  cases hfree : findFirstZeroBit 64 c.bitmap with
  | none => exact ⟨Held.nil, by decide, rfl⟩
  | some index =>
    have hclear := (Bitmap.findFirstZeroBit_some hfree).2
    dsimp only
    by_cases hindex : index ≥ CAM_FRAME_CMD_MAX
    · rw [if_pos hindex]
      exact ⟨Held.nil, by decide, rfl⟩
    · rw [if_neg hindex]
      have hheld := c.held_processGenericCmdBuffer 0 c.descs.zipIdx
      split_ifs with hrc
      · refine ⟨hheld, hrc, ?_⟩
        rw [Function.update_idem, ← hclear, Function.update_eq_self]
      · exact ⟨hheld, rfl, hclear, rfl⟩

lemma laterSteps_spec :
    Held c.laterSteps.refs ∧ (c.laterSteps.rc = 0 ↔ c.LaterSucceed) ∧
      (c.laterSteps.rc ≠ 0 → c.laterSteps.bitmap = c.bitmap) := by
  have hpatches : Held (patchRefs (processPatches c.packet c.iommuHdl c.iommuSecHdl c.patches).2) :=
    held_patchRefs 0 _
  obtain ⟨hheld, hslot⟩ := c.updateHfiFrameProcess_spec
  simp only [laterSteps, LaterSucceed]
  by_cases hrc : (processPatches c.packet c.iommuHdl c.iommuSecHdl c.patches).1 = 0
  · simp only [hrc, ne_eq, not_true_eq_false, if_false, true_and]
    rcases hupd : c.updateHfiFrameProcess with ⟨rc, refs, _ | idx, bitmap⟩
    · rw [hupd] at hheld hslot
      exact ⟨hpatches.append hheld, by simp [hslot.1], fun _ => hslot.2⟩
    · rw [hupd] at hheld hslot
      obtain ⟨-, hclear, rfl⟩ := hslot
      by_cases hio : c.processIoCfg = 0
      · simp only [hio, if_false, not_true_eq_false]
        exact ⟨hpatches.append hheld, by simp, by simp⟩
      · simp only [hio, if_true, not_false_eq_true]
        refine ⟨hpatches.append hheld, by simp, fun _ => ?_⟩
        rw [Function.update_idem, ← hclear, Function.update_eq_self]
  · simp only [hrc, ne_eq, not_false_eq_true, if_true]
    exact ⟨hpatches, by simp, by simp⟩

@[simp] lemma fwHandles_nil : fwHandles [] = [] := rfl

lemma fwHandles_append (ds es : List CmdDesc) :
    fwHandles (ds ++ es) = fwHandles ds ++ fwHandles es := by simp [fwHandles]

lemma fwHandles_reverse (ds : List CmdDesc) : fwHandles ds.reverse = (fwHandles ds).reverse := by
  simp [fwHandles]

lemma fwHandles_cons (d : CmdDesc) (ds : List CmdDesc) :
    fwHandles (d :: ds) = if d.isFw then d.memHandle :: fwHandles ds else fwHandles ds := by
  cases h : d.isFw <;> simp [fwHandles, h]

lemma takeCmdBufs_cases (ds : List (CmdDesc × ℕ)) :
    (c.firstRefusal ds = none ∧
        c.takeCmdBufs ds = ((fwHandles (ds.map Prod.fst)).map Ref.get, none)) ∨
      ∃ pre d i post r, ds = pre ++ (d, i) :: post ∧ d.isFw ∧ c.refusal d i = some r ∧
        c.firstRefusal ds = some (i, r) ∧
        c.takeCmdBufs ds = ((fwHandles (pre.map Prod.fst)).map Ref.get ++
          (if r = .outsideCpuBuf then [Ref.get d.memHandle] else []), some (c.stop i r)) := by
  induction ds with
  | nil => exact .inl ⟨rfl, rfl⟩
  | cons x ds ih =>
    obtain ⟨d, i⟩ := x
    by_cases hfw : d.isFw
    · cases hr : c.refusal d i with
      | some r =>
        refine .inr ⟨[], d, i, ds, r, rfl, hfw, hr, by simp [firstRefusal, hfw, hr], ?_⟩
        cases r <;> simp [takeCmdBufs, hfw, hr]
      | none =>
        have hfirst : c.firstRefusal ((d, i) :: ds) = c.firstRefusal ds := by
          simp [firstRefusal, hfw, hr]
        have htake : c.takeCmdBufs ((d, i) :: ds) =
            (.get d.memHandle :: (c.takeCmdBufs ds).1, (c.takeCmdBufs ds).2) := by
          simp [takeCmdBufs, hfw, hr]
        rw [hfirst, htake]
        rcases ih with ⟨hnone, heq⟩ | ⟨pre, d', i', post, r, rfl, hfw', hr', hsome, heq⟩
        · exact .inl ⟨hnone, by rw [heq, List.map_cons, fwHandles_cons, if_pos hfw]; rfl⟩
        · refine .inr ⟨(d, i) :: pre, d', i', post, r, rfl, hfw', hr', hsome, ?_⟩
          rw [heq, List.map_cons, fwHandles_cons, if_pos hfw]
          rfl
    · have hfirst : c.firstRefusal ((d, i) :: ds) = c.firstRefusal ds := by
        simp [firstRefusal, hfw]
      have htake : c.takeCmdBufs ((d, i) :: ds) = c.takeCmdBufs ds := by
        simp [takeCmdBufs, hfw]
      rw [hfirst, htake]
      rcases ih with ⟨hnone, heq⟩ | ⟨pre, d', i', post, r, rfl, hfw', hr', hsome, heq⟩
      · exact .inl ⟨hnone, by rw [heq, List.map_cons, fwHandles_cons, if_neg hfw]⟩
      · refine .inr ⟨(d, i) :: pre, d', i', post, r, rfl, hfw', hr', hsome, ?_⟩
        rw [heq, List.map_cons, fwHandles_cons, if_neg hfw]

lemma take_descs {pre post : List (CmdDesc × ℕ)} {d : CmdDesc} {i : ℕ}
    (h : c.descs.zipIdx = pre ++ (d, i) :: post) :
    i = pre.length ∧ c.descs.take i = pre.map Prod.fst ∧
      c.descs.take (i + 1) = pre.map Prod.fst ++ [d] := by
  have hmap : c.descs = pre.map Prod.fst ++ d :: post.map Prod.fst := by
    rw [← List.zipIdx_map_fst 0 c.descs, h, List.map_append, List.map_cons]
  have hi : c.descs.zipIdx[pre.length]? = some (d, i) := by rw [h]; simp
  rw [List.getElem?_zipIdx] at hi
  have hlen : i = pre.length := by
    cases hd : c.descs[pre.length]? with
    | none => simp [hd] at hi
    | some d' => simp [hd] at hi; exact hi.2.symm
  refine ⟨hlen, ?_, ?_⟩
  · rw [hmap, hlen, List.take_left' (List.length_map _)]
  · rw [hmap, hlen, List.append_cons, List.take_left' (by simp)]

/-- The references of some handles, taken and given back. -/
def around (handles : List ℤ) : List (Ref ℤ) := handles.map Ref.get ++ handles.reverse.map Ref.put

lemma balanced_around (handles : List ℤ) : Balanced (around handles) := by
  have h := (RefTrace.balanced_around_iff (List.reverse_perm handles).symm).mpr Balanced.nil
  rwa [List.append_nil] at h

lemma held_around (handles : List ℤ) : Held (around handles) := by
  have h := RefTrace.held_around Held.nil (List.reverse_perm handles).symm
  rwa [List.append_nil] at h

variable {c} {pre post : List (CmdDesc × ℕ)} {d : CmdDesc} {i : ℕ} {r : Refusal}

lemma refusal_eq_some (h : c.refusal d i = some r) :
    match r with
    | .noIoBuf => (c.getIoBuf i).rc ≠ 0
    | .outsideIoBuf => True
    | .noCpuBuf => (c.getCpuBuf i).rc ≠ 0
    | .outsideCpuBuf => (c.getCpuBuf i).rc = 0 ∧ c.OutsideCpu d i := by
  rw [refusal] at h
  split_ifs at h with hio hout hcpu hoff <;> cases h
  · exact hio
  · trivial
  · exact hcpu
  · exact ⟨not_not.mp hcpu, hoff⟩

lemma not_unfit_of_refusal (h : c.refusal d i = none) : ¬c.Unfit d i := by
  rw [refusal] at h
  split_ifs at h with hio hout hcpu hoff
  rintro ⟨-, ⟨-, hunfit⟩ | ⟨-, hunfit⟩⟩
  · exact hout hunfit
  · exact hoff hunfit

lemma firstRefusal_eq_none (h : c.firstRefusal c.descs.zipIdx = none) :
    ¬∃ x ∈ c.descs.zipIdx, c.Unfit x.1 x.2 := by
  rintro ⟨⟨d, i⟩, hmem, hunfit⟩
  have hx : (if d.isFw then (c.refusal d i).map (i, ·) else none) = none :=
    List.findSome?_eq_none_iff.mp h (d, i) hmem
  rw [if_pos hunfit.1, Option.map_eq_none_iff] at hx
  exact not_unfit_of_refusal hx hunfit

lemma relCmdBuf_before (h : c.descs.zipIdx = pre ++ (d, i) :: post) (hi : i ≠ 0) :
    c.relCmdBuf (i - 1) = (fwHandles (pre.map Prod.fst)).reverse.map Ref.put := by
  rw [relCmdBuf, Nat.sub_add_cancel (Nat.pos_of_ne_zero hi), (c.take_descs h).2.1, fwHandles_reverse]

lemma relCmdBuf_at (h : c.descs.zipIdx = pre ++ (d, i) :: post) (hd : d.isFw) :
    c.relCmdBuf i = (fwHandles (pre.map Prod.fst) ++ [d.memHandle]).reverse.map Ref.put := by
  rw [relCmdBuf, (c.take_descs h).2.2, fwHandles_reverse, fwHandles_append, fwHandles_cons, if_pos hd,
    fwHandles_nil]

lemma not_held_more (handles : List ℤ) (hdl : ℤ) :
    ¬Held (handles.map Ref.get ++ (handles ++ [hdl]).reverse.map Ref.put) := by
  intro h
  have hle := h.puts_le hdl
  simp only [List.count_append, RefTrace.count_put_gets, RefTrace.count_put_puts,
    RefTrace.count_get_gets, RefTrace.count_get_puts, List.count_reverse, List.count_singleton_self]
    at hle
  omega

lemma prepareHwUpdate_rejected (h : ¬c.Admitted) :
    c.prepareHwUpdate.rc ≠ 0 ∧ c.prepareHwUpdate.refs = [] ∧ c.prepareHwUpdate.bitmap = c.bitmap := by
  rw [prepareHwUpdate]
  split_ifs with hacquired hvalid hpkt hdesc
  · exact ⟨(by decide : -Errno.EINVAL ≠ 0), rfl, rfl⟩
  · exact ⟨(by decide : -Errno.EINVAL ≠ 0), rfl, rfl⟩
  · exact ⟨hpkt, rfl, rfl⟩
  all_goals exact absurd ⟨by simpa using hacquired, not_not.mp hvalid, not_not.mp hpkt⟩ h

lemma prepareHwUpdate_failed {rc : ℤ} {refs : List (Ref ℤ)} (h : c.Admitted)
    (hdesc : c.processCmdDesc = (rc, refs)) (hrc : rc ≠ 0) :
    c.prepareHwUpdate = ⟨rc, refs, c.bitmap⟩ := by
  obtain ⟨hacquired, hvalid, hpkt⟩ := h
  simp [prepareHwUpdate, hacquired, hvalid, hpkt, hdesc, hrc]

lemma prepareHwUpdate_passed {refs : List (Ref ℤ)} (h : c.Admitted)
    (hdesc : c.processCmdDesc = (0, refs)) :
    c.prepareHwUpdate = ⟨c.laterSteps.rc,
      refs ++ c.laterSteps.refs ++ if c.laterSteps.rc = 0 then c.putCmdBuf else [],
      c.laterSteps.bitmap⟩ := by
  obtain ⟨hacquired, hvalid, hpkt⟩ := h
  simp [prepareHwUpdate, hacquired, hvalid, hpkt, hdesc]

lemma sound_of_failed {rc : ℤ} {refs : List (Ref ℤ)} (h : c.Admitted)
    (hdesc : c.processCmdDesc = (rc, refs)) (hrc : rc ≠ 0) :
    c.Sound ↔ Balanced refs ∧ Held refs := by
  have hrun := prepareHwUpdate_failed h hdesc hrc
  constructor
  · rintro ⟨-, hbalanced, hheld⟩
    rw [hrun] at hbalanced hheld
    exact ⟨hbalanced, hheld⟩
  · rintro ⟨hbalanced, hheld⟩
    exact ⟨fun _ => by rw [hrun]; exact ⟨hrc, rfl⟩, by rwa [hrun], by rwa [hrun]⟩

lemma sound_refused (h : c.Admitted) (hzip : c.descs.zipIdx = pre ++ (d, i) :: post) (hd : d.isFw)
    {rc : ℤ} (hrc : rc ≠ 0)
    (htake : c.takeCmdBufs c.descs.zipIdx =
      ((fwHandles (pre.map Prod.fst)).map Ref.get ++ [], some (rc, i - 1))) :
    c.Sound ↔ i ≠ 0 := by
  have hdesc : c.processCmdDesc =
      (rc, (fwHandles (pre.map Prod.fst)).map Ref.get ++ c.relCmdBuf (i - 1)) := by
    rw [processCmdDesc, htake, List.append_nil]
  rw [sound_of_failed h hdesc hrc]
  by_cases hi : i = 0
  · have hpre : pre = [] := List.length_eq_zero_iff.mp ((c.take_descs hzip).1 ▸ hi)
    refine iff_of_false (fun hsound => ?_) (not_not_intro hi)
    subst hi
    rw [Nat.zero_sub, relCmdBuf_at hzip hd, hpre] at hsound
    exact not_held_more [] d.memHandle hsound.2
  · rw [relCmdBuf_before hzip hi]
    exact iff_of_true ⟨balanced_around _, held_around _⟩ hi

lemma not_sound_outsideIo (h : c.Admitted) (hzip : c.descs.zipIdx = pre ++ (d, i) :: post)
    (hd : d.isFw)
    (htake : c.takeCmdBufs c.descs.zipIdx =
      ((fwHandles (pre.map Prod.fst)).map Ref.get ++ [], some (0, i))) : ¬c.Sound := by
  have hdesc : c.processCmdDesc = (0, (fwHandles (pre.map Prod.fst)).map Ref.get ++
      (fwHandles (pre.map Prod.fst) ++ [d.memHandle]).reverse.map Ref.put) := by
    rw [processCmdDesc, htake, List.append_nil, ← relCmdBuf_at hzip hd]
  rintro ⟨-, -, hheld⟩
  rw [prepareHwUpdate_passed h hdesc] at hheld
  exact not_held_more _ _ hheld.of_append.of_append

lemma sound_outsideCpu (h : c.Admitted) (hzip : c.descs.zipIdx = pre ++ (d, i) :: post)
    (hd : d.isFw) (hr : c.refusal d i = some .outsideCpuBuf)
    (htake : c.takeCmdBufs c.descs.zipIdx =
      ((fwHandles (pre.map Prod.fst)).map Ref.get ++ [Ref.get d.memHandle], some (0, i))) :
    c.Sound ↔ ¬c.LaterSucceed ∧ c.LaterBalanced := by
  have hunfit : ∃ x ∈ c.descs.zipIdx, c.Unfit x.1 x.2 :=
    ⟨(d, i), by rw [hzip]; simp, hd, .inr (refusal_eq_some hr)⟩
  obtain ⟨hheld, hsucceed, hbitmap⟩ := c.laterSteps_spec
  have hdesc : c.processCmdDesc =
      (0, around (fwHandles (pre.map Prod.fst) ++ [d.memHandle])) := by
    rw [processCmdDesc, htake, around, ← relCmdBuf_at hzip hd, List.map_append, List.map_singleton]
  have hrun := prepareHwUpdate_passed h hdesc
  constructor
  · rintro ⟨hrejects, hbalanced, -⟩
    have hrc := (hrejects hunfit).1
    rw [hrun] at hrc hbalanced
    rw [if_neg hrc, List.append_nil, (balanced_around _).append_iff] at hbalanced
    exact ⟨fun hs => hrc (hsucceed.mpr hs), hbalanced⟩
  · rintro ⟨hfail, hbalanced⟩
    have hrc : c.laterSteps.rc ≠ 0 := fun hrc => hfail (hsucceed.mp hrc)
    rw [if_neg hrc, List.append_nil] at hrun
    refine ⟨fun _ => by rw [hrun]; exact ⟨hrc, hbitmap hrc⟩, ?_, ?_⟩
    · rw [hrun]
      exact (balanced_around _).append_iff.mpr hbalanced
    · rw [hrun]
      exact (held_around _).append hheld

lemma sound_passed (h : c.Admitted) (hnone : c.firstRefusal c.descs.zipIdx = none)
    (htake : c.takeCmdBufs c.descs.zipIdx =
      ((fwHandles (c.descs.zipIdx.map Prod.fst)).map Ref.get, none)) :
    c.Sound ↔ fwHandles c.descs = [] ∨ c.LaterSucceed ∧ c.LaterBalanced := by
  have hunfit := firstRefusal_eq_none hnone
  obtain ⟨hheld, hsucceed, -⟩ := c.laterSteps_spec
  rw [List.zipIdx_map_fst] at htake
  by_cases hfw : fwHandles c.descs = []
  · have hdesc : c.processCmdDesc = (-Errno.EINVAL, []) := by
      rw [processCmdDesc, htake, if_pos hfw, hfw]
      rfl
    rw [sound_of_failed h hdesc (by decide)]
    exact iff_of_true ⟨Balanced.nil, Held.nil⟩ (.inl hfw)
  · have hdesc : c.processCmdDesc = (0, (fwHandles c.descs).map Ref.get) := by
      rw [processCmdDesc, htake, if_neg hfw]
    have hrun := prepareHwUpdate_passed h hdesc
    have hsound : c.Sound ↔ Balanced c.prepareHwUpdate.refs ∧ Held c.prepareHwUpdate.refs :=
      ⟨fun hs => ⟨hs.balanced, hs.held⟩, fun hs => ⟨fun hu => absurd hu hunfit, hs.1, hs.2⟩⟩
    rw [hsound, hrun, or_iff_right hfw, ← hsucceed]
    by_cases hrc : c.laterSteps.rc = 0
    · rw [if_pos hrc, putCmdBuf, RefTrace.balanced_around_iff (List.Perm.refl _)]
      exact ⟨fun hs => ⟨hrc, hs.1⟩, fun hs => ⟨hs.2, RefTrace.held_around hheld (List.Perm.refl _)⟩⟩
    · obtain ⟨hdl, hmem⟩ := List.exists_mem_of_ne_nil _ hfw
      rw [if_neg hrc, List.append_nil]
      refine iff_of_false (fun hs => ?_) fun hs => hrc hs.1
      exact RefTrace.not_balanced_gets hheld hmem hs.1

variable (c)

theorem sound_iff : c.Sound ↔ c.Good := by
  by_cases h : c.Admitted
  · simp only [Good, h, forall_const]
    rcases c.takeCmdBufs_cases c.descs.zipIdx with
      ⟨hnone, htake⟩ | ⟨pre, d, i, post, r, hzip, hd, hr, hsome, htake⟩
    · rw [hnone]
      exact sound_passed h hnone htake
    · rw [hsome]
      cases r with
      | noIoBuf => exact sound_refused h hzip hd (refusal_eq_some hr) htake
      | outsideIoBuf => exact iff_of_false (not_sound_outsideIo h hzip hd htake) id
      | noCpuBuf => exact sound_refused h hzip hd (refusal_eq_some hr) htake
      | outsideCpuBuf => exact sound_outsideCpu h hzip hd hr htake
  · obtain ⟨hrc, hrefs, hbitmap⟩ := prepareHwUpdate_rejected h
    refine iff_of_true ⟨fun _ => ⟨hrc, hbitmap⟩, ?_, ?_⟩ fun hadmitted => absurd hadmitted h
    · rw [hrefs]
      exact Balanced.nil
    · rw [hrefs]
      exact Held.nil

end Call

/-- An input with fence 3, and a firmware descriptor for handle 5 whose offset, 100, is behind the 64
bytes of its buffer. -/
def offsetBehind : Call where
  packet :=
    { size := 336, cmdBufOffset := 0, numCmdBuf := 1, ioConfigsOffset := 24, numIoConfigs := 1,
      patchOffset := 0, numPatches := 0, kmdCmdBufIndex := 0, kmdCmdBufOffset := 0,
      payload := fun p =>
        if p = 0 then 5 else if p = 4 then 100 else if p = 8 then 8 else if p = 12 then 8
        else if p = 16 then 8 else if p = 216 then 3 else if p = 248 then 1 else 0 }
  remainLen := 336
  opCode := 0
  acquired := true
  bitmap := fun _ => false
  iommuHdl := 1
  iommuSecHdl := 2
  getIoBuf := fun _ => ⟨0, 4096, 64⟩
  getCpuBuf := fun _ => ⟨0, 8192, 64, by decide⟩
  patches := ⟨fun _ _ => false, fun _ _ _ => ⟨0, 4096, 64⟩, fun _ _ => ⟨0, 8192, 64⟩⟩
  getBlobBuf := fun _ => ⟨0, 8192, 64, by decide⟩
  handleBlobs := fun _ => 0
  syncMergeRc := 0

theorem offsetBehind_unsound :
    offsetBehind.prepareHwUpdate.rc = 0 ∧ offsetBehind.prepareHwUpdate.refs = [.put 5, .put 5] ∧
      ¬offsetBehind.Sound := by
  have hrc : offsetBehind.prepareHwUpdate.rc = 0 := by decide +kernel
  have hrefs : offsetBehind.prepareHwUpdate.refs = [.put 5, .put 5] := by decide +kernel
  refine ⟨hrc, hrefs, fun h => ?_⟩
  have hbalanced := h.balanced 5
  rw [hrefs] at hbalanced
  revert hbalanced
  decide

end CameraKernel.IcpPrepare
