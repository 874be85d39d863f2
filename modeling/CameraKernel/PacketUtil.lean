import CameraKernel.GenericBlob

/-! Packets from user space: what their validation admits, the KMD buffer that a packet names, and
the check that a plane fits its buffer. The payload is a memory of bytes, and addresses are
numbers. -/
namespace CameraKernel.PacketUtil
open GenericBlob MachineInt

/-- The fields of `struct cam_packet` that are read here; `payload` is what follows the fixed part. -/
structure Packet where
  size : UInt32
  cmdBufOffset : UInt32
  numCmdBuf : UInt32
  ioConfigsOffset : UInt32
  numIoConfigs : UInt32
  patchOffset : UInt32
  numPatches : UInt32
  kmdCmdBufIndex : UInt32
  kmdCmdBufOffset : UInt32
  payload : Memory

def sizeofCmdBufDesc : ℕ := 24
def sizeofBufIoCfg : ℕ := 256
def sizeofPatchDesc : ℕ := 16
def offsetofPayload : ℕ := 56

/-- A `uint32_t` field at `p`. -/
def wordAt (mem : Memory) (p : ℕ) : UInt32 := UInt32.ofNat (readWord mem p)

/-- An `int32_t` field at `p`. -/
def handleAt (mem : Memory) (p : ℕ) : ℤ := (wordAt mem p).toInt32.toInt

/-- `struct cam_cmd_buf_desc` without its type and meta data. -/
structure CmdDesc where
  memHandle : ℤ
  offset : UInt32
  size : UInt32
  length : UInt32
  deriving DecidableEq, Repr

def cmdDescAt (mem : Memory) (p : ℕ) : CmdDesc :=
  ⟨handleAt mem p, wordAt mem (p + 4), wordAt mem (p + 8), wordAt mem (p + 12)⟩

def validateCmdDesc (cmdDesc : CmdDesc) : ℤ :=
  if cmdDesc.length > cmdDesc.size ∨ cmdDesc.memHandle ≤ 0 then -Errno.EINVAL else 0

def validatePacket (packet : Packet) (remainLen : ℕ) : ℤ :=
  if packet.size.toNat > remainLen then -Errno.EINVAL
  else if packet.size = 0 ∨
      offsetofPayload + packet.cmdBufOffset.toNat + packet.numCmdBuf.toNat * sizeofCmdBufDesc >
        packet.size.toNat ∨
      offsetofPayload + packet.ioConfigsOffset.toNat + packet.numIoConfigs.toNat * sizeofBufIoCfg >
        packet.size.toNat ∨
      offsetofPayload + packet.patchOffset.toNat + packet.numPatches.toNat * sizeofPatchDesc >
        packet.size.toNat then -Errno.EINVAL
  else 0

def getCmdMemAddr (cpu : CpuBuf) : ℤ :=
  if cpu.rc ≠ 0 then cpu.rc
  else if cpu.cpuAddr ≠ 0 ∧ cpu.bufSize ≠ 0 then 0
  else -Errno.ENOMEM

/-- `struct cam_kmd_buf_info`. -/
structure KmdBufInfo where
  handle : ℤ
  cpuAddr : ℕ
  offset : UInt32
  size : UInt32
  usedBytes : UInt32
  deriving DecidableEq, Repr

/-- The descriptor the packet names for the KMD's use. -/
def kmdCmdDesc (packet : Packet) : CmdDesc :=
  cmdDescAt packet.payload
    (packet.cmdBufOffset.toNat + sizeofCmdBufDesc * packet.kmdCmdBufIndex.toNat)

/-- `cam_packet_util_get_kmd_buffer`, with what `cam_mem_get_cpu_buf` answers for the descriptor's
handle. -/
def getKmdBuffer (packet : Packet) (cpu : CpuBuf) : Except ℤ KmdBufInfo :=
  if packet.kmdCmdBufIndex ≥ packet.numCmdBuf then .error (-Errno.EINVAL)
  else
    let cmdDesc := kmdCmdDesc packet
    if validateCmdDesc cmdDesc ≠ 0 then .error (validateCmdDesc cmdDesc)
    else if getCmdMemAddr cpu ≠ 0 then .error (getCmdMemAddr cpu)
    else if cmdDesc.offset.toNat ≥ cpu.bufSize ∨
        cmdDesc.size.toNat > cpu.bufSize - cmdDesc.offset.toNat then .error (-Errno.EINVAL)
    else if packet.kmdCmdBufOffset.toNat ≥ cpu.bufSize - cmdDesc.offset.toNat then
      .error (-Errno.EINVAL)
    else .ok {
      handle := cmdDesc.memHandle
      cpuAddr := cpu.cpuAddr + 4 * (cmdDesc.offset / 4 + packet.kmdCmdBufOffset / 4).toNat
      offset := cmdDesc.offset + packet.kmdCmdBufOffset
      size := cmdDesc.size - cmdDesc.length
      usedBytes := 0 }

/-- The buffer lies in its mapping, and the pointer is at the buffer's start but for the rounding of
the two offsets to words. -/
structure KmdInMapping (packet : Packet) (cpu : CpuBuf) (kmdBuf : KmdBufInfo) : Prop where
  fits : kmdBuf.offset.toNat + kmdBuf.size.toNat ≤ cpu.bufSize
  offset : kmdBuf.offset.toNat = (kmdCmdDesc packet).offset.toNat + packet.kmdCmdBufOffset.toNat
  cpuAddr : kmdBuf.cpuAddr = cpu.cpuAddr + (kmdCmdDesc packet).offset.toNat / 4 * 4 +
    packet.kmdCmdBufOffset.toNat / 4 * 4
  writable : kmdBuf.cpuAddr + kmdBuf.size.toNat ≤ cpu.cpuAddr + cpu.bufSize

/-- What the call asks of its packet and of the command buffer. -/
def kmdChecks (packet : Packet) (cpu : CpuBuf) : Bool :=
  let cmdDesc := kmdCmdDesc packet
  packet.kmdCmdBufIndex < packet.numCmdBuf && cmdDesc.length ≤ cmdDesc.size &&
    0 < cmdDesc.memHandle && cpu.rc = 0 && cpu.cpuAddr ≠ 0 &&
    cmdDesc.offset.toNat < cpu.bufSize &&
    cmdDesc.size.toNat ≤ cpu.bufSize - cmdDesc.offset.toNat &&
    packet.kmdCmdBufOffset.toNat < cpu.bufSize - cmdDesc.offset.toNat

/-- What it does not ask: the unused bytes of the descriptor fit behind both offsets, and these
have a sum of 32 bits. -/
def kmdFits (packet : Packet) (cpu : CpuBuf) : Bool :=
  let cmdDesc := kmdCmdDesc packet
  cmdDesc.offset.toNat + packet.kmdCmdBufOffset.toNat < 2 ^ 32 &&
    cmdDesc.offset.toNat + packet.kmdCmdBufOffset.toNat +
      (cmdDesc.size.toNat - cmdDesc.length.toNat) ≤ cpu.bufSize

variable {packet : Packet} {cpu : CpuBuf} {kmdBuf : KmdBufInfo}

lemma validateCmdDesc_eq_zero {cmdDesc : CmdDesc} : validateCmdDesc cmdDesc = 0 ↔
    cmdDesc.length ≤ cmdDesc.size ∧ 0 < cmdDesc.memHandle := by
  have hinval : -Errno.EINVAL ≠ 0 := by decide
  rw [validateCmdDesc]
  split_ifs with hbad
  · refine iff_of_false hinval fun hgood => ?_
    rcases hbad with hlong | hhandle
    · exact absurd hgood.1 (UInt32.not_le.mpr hlong)
    · exact absurd hgood.2 (not_lt.mpr hhandle)
  · exact iff_of_true rfl ⟨UInt32.not_lt.mp fun h => hbad (.inl h), not_le.mp fun h => hbad (.inr h)⟩

lemma getCmdMemAddr_eq_zero : getCmdMemAddr cpu = 0 ↔
    cpu.rc = 0 ∧ cpu.cpuAddr ≠ 0 ∧ cpu.bufSize ≠ 0 := by
  have hnomem : -Errno.ENOMEM ≠ 0 := by decide
  rw [getCmdMemAddr]
  split_ifs with hrc haddr
  · exact iff_of_false hrc fun h => hrc h.1
  · exact iff_of_true rfl ⟨not_not.mp hrc, haddr⟩
  · exact iff_of_false hnomem fun h => haddr h.2

lemma getKmdBuffer_cases (packet : Packet) (cpu : CpuBuf) :
    ((∃ rc, getKmdBuffer packet cpu = .error rc) ∧ kmdChecks packet cpu = false) ∨
      (kmdChecks packet cpu = true ∧ getKmdBuffer packet cpu = .ok {
        handle := (kmdCmdDesc packet).memHandle
        cpuAddr := cpu.cpuAddr +
          4 * ((kmdCmdDesc packet).offset / 4 + packet.kmdCmdBufOffset / 4).toNat
        offset := (kmdCmdDesc packet).offset + packet.kmdCmdBufOffset
        size := (kmdCmdDesc packet).size - (kmdCmdDesc packet).length
        usedBytes := 0 }) := by
  have hfail (h : ¬kmdChecks packet cpu = true) : kmdChecks packet cpu = false := by simpa using h
  obtain ⟨r, hr⟩ : ∃ r, getKmdBuffer packet cpu = r := ⟨_, rfl⟩
  rw [hr]
  rw [getKmdBuffer] at hr
  dsimp only at hr
  simp only [kmdChecks, Bool.and_eq_true, decide_eq_true_eq] at hfail ⊢
  split_ifs at hr with hidx hdesc hmem hsize hoff <;> subst hr
  · exact .inl ⟨⟨_, rfl⟩, hfail fun h => absurd h.1.1.1.1.1.1.1 (UInt32.not_lt.mpr hidx)⟩
  · refine .inl ⟨⟨_, rfl⟩, hfail fun h => hdesc (validateCmdDesc_eq_zero.mpr ?_)⟩
    exact ⟨h.1.1.1.1.1.1.2, h.1.1.1.1.1.2⟩
  · refine .inl ⟨⟨_, rfl⟩, hfail fun h => hmem (getCmdMemAddr_eq_zero.mpr ?_)⟩
    exact ⟨h.1.1.1.1.2, h.1.1.1.2, by omega⟩
  · refine .inl ⟨⟨_, rfl⟩, hfail fun h => ?_⟩
    rcases hsize with hstart | hsize <;> omega
  · exact .inl ⟨⟨_, rfl⟩, hfail fun h => by omega⟩
  · have hdesc := validateCmdDesc_eq_zero.mp (not_not.mp hdesc)
    have hmem := getCmdMemAddr_eq_zero.mp (not_not.mp hmem)
    rw [not_or] at hsize
    exact .inr ⟨⟨⟨⟨⟨⟨⟨⟨UInt32.not_le.mp hidx, hdesc.1⟩, hdesc.2⟩, hmem.1⟩, hmem.2.1⟩, by omega⟩, by omega⟩,
      by omega⟩, rfl⟩

lemma words_toNat (a b : UInt32) : 4 * (a / 4 + b / 4).toNat = a.toNat / 4 * 4 + b.toNat / 4 * 4 := by
  have ha := a.toNat_lt
  have hb := b.toNat_lt
  have hadd : (a / 4 + b / 4).toNat = (a.toNat / 4 + b.toNat / 4) % 2 ^ 32 := by
    simp only [UInt32.toNat_add, UInt32.toNat_div, UInt32.reduceToNat]
  omega

theorem kmdCmdDesc_inPacket {remainLen : ℕ} (hpacket : validatePacket packet remainLen = 0)
    (hchecks : kmdChecks packet cpu = true) :
    offsetofPayload + (packet.cmdBufOffset.toNat +
      sizeofCmdBufDesc * packet.kmdCmdBufIndex.toNat) + sizeofCmdBufDesc ≤ packet.size.toNat ∧
        packet.size.toNat ≤ remainLen := by
  have hinval : -Errno.EINVAL ≠ 0 := by decide
  simp only [kmdChecks, Bool.and_eq_true, decide_eq_true_eq] at hchecks
  have hidx : packet.kmdCmdBufIndex.toNat < packet.numCmdBuf.toNat :=
    UInt32.lt_iff_toNat_lt.mp hchecks.1.1.1.1.1.1.1
  unfold validatePacket at hpacket
  split_ifs at hpacket with hlong hbad
  · exact absurd hpacket hinval
  · exact absurd hpacket hinval
  · simp only [not_or] at hbad
    simp only [sizeofCmdBufDesc] at hbad ⊢
    omega

/-- The KMD buffer is in its mapping just where the checks that are made imply those that are not. -/
theorem getKmdBuffer_inMapping_iff (packet : Packet) (cpu : CpuBuf) :
    (∀ kmdBuf, getKmdBuffer packet cpu = .ok kmdBuf → KmdInMapping packet cpu kmdBuf) ↔
      (kmdChecks packet cpu = true → kmdFits packet cpu = true) := by
  rcases getKmdBuffer_cases packet cpu with ⟨⟨rc, hrc⟩, hchecks⟩ | ⟨hchecks, hok⟩
  · rw [hrc, hchecks]
    exact iff_of_true (fun _ h => by simp at h) (fun h => by simp at h)
  · have hlength : (kmdCmdDesc packet).length ≤ (kmdCmdDesc packet).size := by
      simp only [kmdChecks, Bool.and_eq_true, decide_eq_true_eq] at hchecks
      exact hchecks.1.1.1.1.1.1.2
    have hsize := UInt32.toNat_sub_of_le _ _ hlength
    have hwords := words_toNat (kmdCmdDesc packet).offset packet.kmdCmdBufOffset
    have hsum := UInt32.toNat_add (kmdCmdDesc packet).offset packet.kmdCmdBufOffset
    rw [hok]
    simp only [Except.ok.injEq, forall_eq', hchecks, true_imp_iff, kmdFits, Bool.and_eq_true,
      decide_eq_true_eq]
    constructor
    · rintro ⟨hfits, hoffset, -, -⟩
      simp only [hsize] at hfits hoffset
      omega
    · rintro ⟨hsmall, hfits⟩
      rw [Nat.mod_eq_of_lt hsmall] at hsum
      exact ⟨by simp only [hsize, hsum]; omega, hsum, by simp only [hwords]; omega,
        by simp only [hwords, hsize]; omega⟩

/-- A packet with one command buffer of 100 bytes, none of them used, and the KMD's part at byte 50:
the memory is handle 5. -/
def halfwayPacket : Packet where
  size := 80
  cmdBufOffset := 0
  numCmdBuf := 1
  ioConfigsOffset := 0
  numIoConfigs := 0
  patchOffset := 0
  numPatches := 0
  kmdCmdBufIndex := 0
  kmdCmdBufOffset := 50
  payload p := if p = 0 then 5 else if p = 8 then 100 else 0

theorem getKmdBuffer_outside :
    ¬∀ (packet : Packet) (remainLen : ℕ) (cpu : CpuBuf), validatePacket packet remainLen = 0 →
      ∀ kmdBuf, getKmdBuffer packet cpu = .ok kmdBuf → KmdInMapping packet cpu kmdBuf := by
  intro hall
  have hin := hall halfwayPacket 80 ⟨0, 4096, 100⟩ (by decide) ⟨5, 4144, 50, 100, 0⟩ (by decide)
  have hfits := hin.fits
  simp at hfits

end CameraKernel.PacketUtil
