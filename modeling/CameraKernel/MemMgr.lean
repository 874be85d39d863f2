import CameraKernel.Bitmap
import CameraKernel.Errno

/-! The buffer table of the memory manager. What ION, dma-buf and the SMMU answer is
part of the input of a call. A pointer is a number, 0 for NULL. -/
namespace CameraKernel.MemMgr

def bufqMax : ℕ := 1024
def mmuMaxHandle : ℕ := 16

def hdlIdxMask : BitVec 32 := 0x7FFF#32
def secureBitPos : ℕ := 15

def getMemHandle (idx : ℕ) (fd : BitVec 32) : BitVec 32 :=
  (BitVec.ofNat 32 idx &&& hdlIdxMask) ||| (fd <<< 16)

def getHdlIdx (hdl : BitVec 32) : ℕ := (hdl &&& hdlIdxMask).toNat

def setSecureHdl (hdl : BitVec 32) : BitVec 32 := hdl ||| BitVec.twoPow 32 secureBitPos

def isSecureHdl (hdl : BitVec 32) : BitVec 32 :=
  (hdl &&& BitVec.twoPow 32 secureBitPos).sshiftRight secureBitPos

lemma getHdlIdx_eq (hdl : BitVec 32) : getHdlIdx hdl = hdl.toNat % 2 ^ 15 := by
  rw [getHdlIdx, BitVec.toNat_and]
  change _ &&& (2 ^ 15 - 1) = _
  rw [Nat.and_two_pow_sub_one_eq_mod]

lemma getHdlIdx_getMemHandle {idx : ℕ} (fd : BitVec 32) (h : idx < bufqMax) :
    getHdlIdx (getMemHandle idx fd) = idx := by
  have hidx : idx < 1024 := h
  have hlow : (BitVec.ofNat 32 idx &&& hdlIdxMask).toNat = idx := by
    rw [BitVec.toNat_and, BitVec.toNat_ofNat, Nat.mod_eq_of_lt (by omega)]
    change _ &&& (2 ^ 15 - 1) = _
    rw [Nat.and_two_pow_sub_one_eq_mod, Nat.mod_eq_of_lt (by omega)]
  have hhigh : (fd <<< 16).toNat % 2 ^ 15 = 0 := by
    rw [BitVec.toNat_shiftLeft, Nat.shiftLeft_eq]
    omega
  rw [getHdlIdx_eq, getMemHandle, BitVec.toNat_or, Nat.or_mod_two_pow, hlow, hhigh, Nat.or_zero,
    Nat.mod_eq_of_lt (by omega)]

lemma getHdlIdx_setSecureHdl (hdl : BitVec 32) : getHdlIdx (setSecureHdl hdl) = getHdlIdx hdl := by
  rw [getHdlIdx_eq, getHdlIdx_eq, setSecureHdl, BitVec.toNat_or, Nat.or_mod_two_pow,
    show (BitVec.twoPow 32 secureBitPos).toNat % 2 ^ 15 = 0 by decide, Nat.or_zero]

lemma isSecureHdl_iff (hdl : BitVec 32) : isSecureHdl hdl = 1#32 ↔ hdl.getLsbD secureBitPos = true := by
  rw [isSecureHdl, BitVec.and_twoPow]
  cases hdl.getLsbD secureBitPos with
  | false => decide
  | true => decide

lemma getMemHandle_secureBit (idx : ℕ) (fd : BitVec 32) :
    (getMemHandle idx fd).getLsbD secureBitPos = false := by
  have hmask : hdlIdxMask.getLsbD secureBitPos = false := by decide
  have hshift : (fd <<< 16).getLsbD secureBitPos = false := by simp [secureBitPos]
  rw [getMemHandle, BitVec.getLsbD_or, BitVec.getLsbD_and, hmask, hshift, Bool.and_false, Bool.or_false]

lemma setSecureHdl_secureBit (hdl : BitVec 32) : (setSecureHdl hdl).getLsbD secureBitPos = true := by
  simp [setSecureHdl, secureBitPos]

inductive MemFlag
  | hwReadWrite
  | hwReadOnly
  | hwWriteOnly
  | kmdAccess
  | protectedMode
  | cache
  | hwSharedAccess
  | cpPixel
  deriving DecidableEq, Repr

def MemFlag.bit : MemFlag → ℕ
  | .hwReadWrite => 0
  | .hwReadOnly => 1
  | .hwWriteOnly => 2
  | .kmdAccess => 3
  | .protectedMode => 5
  | .cache => 10
  | .hwSharedAccess => 11
  | .cpPixel => 13

/-- `flags & flag`. -/
def has (flags : BitVec 32) (flag : MemFlag) : Bool := flags.getLsbD flag.bit

structure BufQueue where
  dmaBuf : ℕ
  hdls : List (BitVec 32)
  fd : BitVec 32
  bufHandle : BitVec 32
  len : ℕ
  flags : BitVec 32
  vaddr : ℕ
  kmdvaddr : ℕ
  active : Bool
  isImported : Bool
  deriving DecidableEq, Repr

structure MemTable where
  bitmap : ℕ → Bool
  bufq : ℕ → BufQueue

/-- What the fields of a released slot are set to. -/
def releasedEntry : BufQueue := ⟨0, [], -1, -1, 0, 0, 0, 0, false, false⟩

def memMgrInit : MemTable where
  bitmap i := i == 0
  bufq i := if 1 ≤ i ∧ i < bufqMax then releasedEntry else ⟨0, [], 0, 0, 0, 0, 0, 0, false, false⟩

def MemTable.setBufq (tbl : MemTable) (idx : ℕ) (entry : BufQueue) : MemTable :=
  { tbl with bufq := Function.update tbl.bufq idx entry }

def memGetSlot (tbl : MemTable) : Except ℤ ℕ × MemTable :=
  match Bitmap.findFirstZeroBit bufqMax tbl.bitmap with
  | none => (.error (-Errno.ENOMEM), tbl)
  | some idx =>
    if idx = 0 then (.error (-Errno.ENOMEM), tbl)
    else
      (.ok idx,
        { bitmap := Function.update tbl.bitmap idx true
          bufq := Function.update tbl.bufq idx { tbl.bufq idx with active := true } })

def memPutSlot (tbl : MemTable) (idx : ℕ) : MemTable where
  bitmap := Function.update tbl.bitmap idx false
  bufq := Function.update tbl.bufq idx { tbl.bufq idx with active := false }

structure MemMgrAllocCmd where
  len : ℕ
  mmuHdls : List (BitVec 32)
  flags : BitVec 32
  deriving DecidableEq, Repr

structure MemMgrMapCmd where
  mmuHdls : List (BitVec 32)
  flags : BitVec 32
  fd : BitVec 32
  deriving DecidableEq, Repr

structure MemMgrRequestDesc where
  size : ℕ
  smmuHdl : BitVec 32
  flags : BitVec 32
  deriving DecidableEq, Repr

/-- The answers of the primitives to one call. -/
structure Answers where
  ionAlloc : Option ℕ
  dmaBufFd : BitVec 32
  dmaBufGet : Option ℕ
  beginCpuAccess : ℤ
  kmap : Option ℕ
  mapIova : BitVec 32 → ℤ
  hwVaddr : ℕ
  mapLen : ℕ

def getDmaDir (flags : BitVec 32) : ℤ :=
  if has flags .hwReadOnly then 1
  else if has flags .hwWriteOnly then 2
  else if has flags .hwReadWrite then 0
  else if has flags .protectedMode then 0
  else -Errno.EINVAL

/-- The loop over the handles, from the code of the last call on. -/
def mapEach (mapIova : BitVec 32 → ℤ) : ℤ → List (BitVec 32) → ℤ
  | rc, [] => rc
  | _, hdl :: hdls => if mapIova hdl < 0 then mapIova hdl else mapEach mapIova (mapIova hdl) hdls

def mapHwVa (flags : BitVec 32) (mmuHdls : List (BitVec 32)) (env : Answers) : ℤ :=
  if getDmaDir flags < 0 then getDmaDir flags else mapEach env.mapIova (-1) mmuHdls

def mapCpuVa (env : Answers) : ℤ × ℕ :=
  if env.beginCpuAccess ≠ 0 then (env.beginCpuAccess, 0)
  else match env.kmap with
    | none => (-Errno.ENOSPC, 0)
    | some addr => (0, addr)

/-- The mapping of a buffer that the hardware uses. -/
def hwMapCode (used : Bool) (flags : BitVec 32) (mmuHdls : List (BitVec 32)) (env : Answers) : ℤ :=
  if used then mapHwVa flags mmuHdls env else 0

/-- The mapping of a buffer that the kernel uses. -/
def kmdMap (flags : BitVec 32) (env : Answers) : ℤ × ℕ :=
  if has flags .kmdAccess then mapCpuVa env else (0, 0)

def checkAllocFlags (mmuHdls : List (BitVec 32)) (flags : BitVec 32) : ℤ :=
  if mmuHdls.length > mmuMaxHandle then -Errno.EINVAL
  else if (has flags .protectedMode || has flags .cpPixel) && has flags .kmdAccess then -Errno.EINVAL
  else 0

def checkMapFlags (mmuHdls : List (BitVec 32)) (flags : BitVec 32) : ℤ :=
  if flags = 0 then -Errno.EINVAL
  else if mmuHdls.length > mmuMaxHandle then -Errno.EINVAL
  else if (has flags .protectedMode || has flags .cpPixel) && has flags .kmdAccess then -Errno.EINVAL
  else if has flags .hwSharedAccess then -Errno.EINVAL
  else 0

/-- `cam_mem_util_get_dma_buf_fd`: the buffer and its descriptor. -/
def getDmaBufFd (env : Answers) : Except ℤ (ℕ × BitVec 32) :=
  match env.ionAlloc with
  | none => .error (-Errno.ENOMEM)
  | some buf =>
    if env.dmaBufFd.toInt < 0 then .error (-Errno.EINVAL)
    else match env.dmaBufGet with
      | none => .error (-Errno.EINVAL)
      | some _ => .ok (buf, env.dmaBufFd)

/-- The handle of a buffer that user space gave or gets a descriptor of. -/
def userHandle (idx : ℕ) (fd flags : BitVec 32) : BitVec 32 :=
  if has flags .protectedMode then setSecureHdl (getMemHandle idx fd) else getMemHandle idx fd

/-- An allocating call: its code, the slot it filled, and the table. -/
abbrev Allocated := ℤ × Option ℕ × MemTable

def memMgrAllocAndMap (tbl : MemTable) (cmd : MemMgrAllocCmd) (env : Answers) : Allocated :=
  if checkAllocFlags cmd.mmuHdls cmd.flags ≠ 0 then (checkAllocFlags cmd.mmuHdls cmd.flags, none, tbl)
  else match getDmaBufFd env with
  | .error rc => (rc, none, tbl)
  | .ok (dmabuf, fd) =>
    match memGetSlot tbl with
    | (.error _, tbl) => (-Errno.ENOMEM, none, tbl)
    | (.ok idx, tbl) =>
      let rc := hwMapCode
        (has cmd.flags .hwReadWrite || has cmd.flags .hwSharedAccess || has cmd.flags .protectedMode)
        cmd.flags cmd.mmuHdls env
      if rc ≠ 0 then (rc, none, memPutSlot tbl idx)
      else
        let named := { tbl.bufq idx with
          fd := fd, dmaBuf := 0, flags := cmd.flags, bufHandle := userHandle idx fd cmd.flags }
        let kva := kmdMap cmd.flags env
        if kva.1 ≠ 0 then (kva.1, none, memPutSlot (tbl.setBufq idx named) idx)
        else
          (0, some idx, tbl.setBufq idx { named with
            kmdvaddr := kva.2, vaddr := env.hwVaddr, dmaBuf := dmabuf, len := cmd.len, hdls := cmd.mmuHdls,
            isImported := false })

def memMgrMap (tbl : MemTable) (cmd : MemMgrMapCmd) (env : Answers) : Allocated :=
  if cmd.fd.toInt < 0 then (-Errno.EINVAL, none, tbl)
  else if cmd.mmuHdls.length > mmuMaxHandle then (-Errno.EINVAL, none, tbl)
  else if checkMapFlags cmd.mmuHdls cmd.flags ≠ 0 then (checkMapFlags cmd.mmuHdls cmd.flags, none, tbl)
  else match env.dmaBufGet with
  | none => (-Errno.EINVAL, none, tbl)
  | some dmabuf =>
    let rc := hwMapCode (has cmd.flags .hwReadWrite || has cmd.flags .protectedMode)
      cmd.flags cmd.mmuHdls env
    if rc ≠ 0 then (rc, none, tbl)
    else match memGetSlot tbl with
    | (.error _, tbl) => (-Errno.ENOMEM, none, tbl)
    | (.ok idx, tbl) =>
      (0, some idx, tbl.setBufq idx { tbl.bufq idx with
        fd := cmd.fd, flags := cmd.flags, bufHandle := userHandle idx cmd.fd cmd.flags, kmdvaddr := 0,
        vaddr := if cmd.mmuHdls.length > 0 then env.hwVaddr else 0, dmaBuf := dmabuf, len := env.mapLen,
        hdls := cmd.mmuHdls, isImported := true })

/-- The kernel's own buffers: never secure, always mapped for the CPU, and without a descriptor. -/
def memMgrRequestMem (tbl : MemTable) (inp : MemMgrRequestDesc) (env : Answers) : Allocated :=
  if !(has inp.flags .hwReadWrite || has inp.flags .hwSharedAccess || has inp.flags .cache) then
    (-Errno.EINVAL, none, tbl)
  else match env.ionAlloc with
  | none => (-Errno.ENOMEM, none, tbl)
  | some buf =>
    let kva := mapCpuVa env
    if kva.1 ≠ 0 then (kva.1, none, tbl)
    else if inp.smmuHdl = 0 then (-Errno.EINVAL, none, tbl)
    else if env.mapIova inp.smmuHdl < 0 then (env.mapIova inp.smmuHdl, none, tbl)
    else match memGetSlot tbl with
    | (.error _, tbl) => (-Errno.ENOMEM, none, tbl)
    | (.ok idx, tbl) =>
      (env.mapIova inp.smmuHdl, some idx, tbl.setBufq idx { tbl.bufq idx with
        dmaBuf := buf, fd := -1, flags := inp.flags ||| BitVec.twoPow 32 MemFlag.kmdAccess.bit,
        bufHandle := getMemHandle idx (-1), kmdvaddr := kva.2, vaddr := env.hwVaddr, len := inp.size,
        hdls := [inp.smmuHdl], isImported := false })

inductive SmmuMappingClient
  | user
  | kernel
  deriving DecidableEq, Repr

inductive SmmuRegion
  | shared
  | io
  deriving DecidableEq, Repr

/-- What is done to the buffer of a slot. -/
inductive BufCall
  | getStage2Iova (fd mmuHandle : BitVec 32)
  | getIova (fd mmuHandle : BitVec 32)
  | beginCpuAccess (dmaBuf : ℕ)
  | endCpuAccess (dmaBuf : ℕ)
  | getFlags (dmaBuf : ℕ)
  | unmapCpuVa (dmaBuf vaddr : ℕ)
  | unmapStage2Iova (hdl fd : BitVec 32)
  | unmapUserIova (hdl fd : BitVec 32) (region : SmmuRegion)
  | unmapKernelIova (hdl : BitVec 32) (dmaBuf : ℕ) (region : SmmuRegion)
  | dmaBufPut (dmaBuf : ℕ)
  deriving DecidableEq, Repr

/-- The answers to the calls on a buffer. -/
structure BufAnswers where
  code : BufCall → ℤ
  ionCached : Bool

/-- The calls up to the first that fails. -/
def callEach (ans : BufAnswers) : List BufCall → List BufCall
  | [] => []
  | call :: calls => call :: (if ans.code call < 0 then [] else callEach ans calls)

def unmapHwVa (entry : BufQueue) (region : SmmuRegion) (client : SmmuMappingClient) (ans : BufAnswers) :
    List BufCall :=
  if has entry.flags .protectedMode then callEach ans (entry.hdls.map fun hdl => .unmapStage2Iova hdl entry.fd)
  else match client with
    | .user => callEach ans (entry.hdls.map fun hdl => .unmapUserIova hdl entry.fd region)
    | .kernel => callEach ans (entry.hdls.map fun hdl => .unmapKernelIova hdl entry.dmaBuf region)

/-- The code of the CPU unmapping alone is returned. -/
def unmapCpu (entry : BufQueue) (ans : BufAnswers) : ℤ × List BufCall :=
  if has entry.flags .kmdAccess && entry.dmaBuf != 0 && entry.kmdvaddr != 0 then
    (ans.code (.unmapCpuVa entry.dmaBuf entry.kmdvaddr), [.unmapCpuVa entry.dmaBuf entry.kmdvaddr])
  else (0, [])

def memUtilUnmap (tbl : MemTable) (idx : ℕ) (client : SmmuMappingClient) (ans : BufAnswers) :
    ℤ × List BufCall × MemTable :=
  let entry := tbl.bufq idx
  if idx ≥ bufqMax ∨ idx = 0 then (-Errno.EINVAL, [], tbl)
  else if entry.active = false ∧ entry.vaddr = 0 then (0, [], tbl)
  else
    let cpu := unmapCpu entry ans
    let region := if has entry.flags .hwSharedAccess then SmmuRegion.shared
      else if has entry.flags .hwReadWrite then .io else .shared
    let mapped := has entry.flags .hwReadWrite || has entry.flags .hwSharedAccess ||
      has entry.flags .protectedMode
    let hw := if mapped then unmapHwVa entry region client ans else []
    let dmaBuf := if mapped && client == .kernel then 0 else entry.dmaBuf
    let put := if dmaBuf ≠ 0 then [BufCall.dmaBufPut dmaBuf] else []
    (cpu.1, cpu.2 ++ hw ++ put,
      { bitmap := Function.update tbl.bitmap idx false
        bufq := Function.update tbl.bufq idx releasedEntry })

def memMgrRelease (tbl : MemTable) (bufHandle : BitVec 32) (ans : BufAnswers) : ℤ × List BufCall × MemTable :=
  let idx := getHdlIdx bufHandle
  if idx ≥ bufqMax ∨ idx = 0 then (-Errno.EINVAL, [], tbl)
  else if (tbl.bufq idx).active = false then (-Errno.EINVAL, [], tbl)
  else if (tbl.bufq idx).bufHandle ≠ bufHandle then (-Errno.EINVAL, [], tbl)
  else memUtilUnmap tbl idx .user ans

def memMgrReleaseMem (tbl : MemTable) (memHandle : BitVec 32) (ans : BufAnswers) :
    ℤ × List BufCall × MemTable :=
  let idx := getHdlIdx memHandle
  if idx ≥ bufqMax ∨ idx = 0 then (-Errno.EINVAL, [], tbl)
  else if (tbl.bufq idx).active = false then
    (if (tbl.bufq idx).vaddr = 0 then 0 else -Errno.EINVAL, [], tbl)
  else if (tbl.bufq idx).bufHandle ≠ memHandle then (-Errno.EINVAL, [], tbl)
  else memUtilUnmap tbl idx .kernel ans

def memGetIoBuf (tbl : MemTable) (bufHandle mmuHandle : BitVec 32) (ans : BufAnswers) : ℤ × List BufCall :=
  let idx := getHdlIdx bufHandle
  if idx ≥ bufqMax ∨ idx = 0 then (-Errno.EINVAL, [])
  else if (tbl.bufq idx).active = false then (-Errno.EINVAL, [])
  else if bufHandle ≠ (tbl.bufq idx).bufHandle then (-Errno.EINVAL, [])
  else
    let call := if isSecureHdl bufHandle ≠ 0 then BufCall.getStage2Iova (tbl.bufq idx).fd mmuHandle
      else .getIova (tbl.bufq idx).fd mmuHandle
    (ans.code call, [call])

/-- With the kernel address and the length. -/
def memGetCpuBuf (tbl : MemTable) (bufHandle : BitVec 32) (ans : BufAnswers) :
    Except ℤ (ℕ × ℕ) × List BufCall :=
  let idx := getHdlIdx bufHandle
  let entry := tbl.bufq idx
  if bufHandle = 0 then (.error (-Errno.EINVAL), [])
  else if idx ≥ bufqMax ∨ idx = 0 then (.error (-Errno.EINVAL), [])
  else if entry.active = false then (.error (-Errno.EPERM), [])
  else if bufHandle ≠ entry.bufHandle then (.error (-Errno.EINVAL), [])
  else if has entry.flags .kmdAccess = false then (.error (-Errno.EINVAL), [])
  else if entry.kmdvaddr = 0 then (.error (-Errno.EINVAL), [])
  else if entry.dmaBuf = 0 then (.error (-Errno.EINVAL), [])
  else
    let rc := ans.code (.beginCpuAccess entry.dmaBuf)
    (if rc ≠ 0 then .error rc else .ok (entry.kmdvaddr, entry.len), [.beginCpuAccess entry.dmaBuf])

def memPutCpuBuf (tbl : MemTable) (bufHandle : BitVec 32) (ans : BufAnswers) : ℤ × List BufCall :=
  let idx := getHdlIdx bufHandle
  let entry := tbl.bufq idx
  if bufHandle = 0 then (-Errno.EINVAL, [])
  else if idx ≥ bufqMax ∨ idx = 0 then (-Errno.EINVAL, [])
  else if entry.active = false then (-Errno.EPERM, [])
  else if bufHandle ≠ entry.bufHandle then (-Errno.EINVAL, [])
  else if entry.dmaBuf = 0 then (-Errno.EINVAL, [])
  else if has entry.flags .kmdAccess && entry.kmdvaddr != 0 then
    (ans.code (.endCpuAccess entry.dmaBuf), [.endCpuAccess entry.dmaBuf])
  else (-Errno.EINVAL, [])

def memMgrCacheOps (tbl : MemTable) (bufHandle : BitVec 32) (memCacheOps : ℕ) (ans : BufAnswers) :
    ℤ × List BufCall :=
  let idx := getHdlIdx bufHandle
  let entry := tbl.bufq idx
  let flagsCall := BufCall.getFlags entry.dmaBuf
  let beginCall := BufCall.beginCpuAccess entry.dmaBuf
  let endCall := BufCall.endCpuAccess entry.dmaBuf
  if idx ≥ bufqMax ∨ idx = 0 then (-Errno.EINVAL, [])
  else if entry.active = false then (-Errno.EINVAL, [])
  else if bufHandle ≠ entry.bufHandle then (-Errno.EINVAL, [])
  else if ans.code flagsCall ≠ 0 then (ans.code flagsCall, [flagsCall])
  else if ans.ionCached = false then (0, [flagsCall])
  else if ¬(1 ≤ memCacheOps ∧ memCacheOps ≤ 3) then (-Errno.EINVAL, [flagsCall])
  else if ans.code beginCall ≠ 0 then (ans.code beginCall, [flagsCall, beginCall])
  else (ans.code endCall, [flagsCall, beginCall, endCall])

end CameraKernel.MemMgr
