import CameraKernel.MapHwVa

/-! The calls of the memory manager that create a buffer, with the SMMU below them: what they leave
mapped when they fail, and how often they put the buffer. -/
namespace CameraKernel.MemMgr
open Smmu

structure MgrState where
  tbl : MemTable
  smmu : SmmuState

/-- The answers to one call, with those to the mapping of each handle. -/
structure MgrAnswers extends Answers where
  smmu : ℕ → MapAnswers

/-- The references to a buffer that were taken and not given back. -/
def refsOf (buf : ℕ) (ops : List BufOp) : ℤ := ops.count (.get buf) - ops.count (.put buf)

/-- What `cam_mem_util_get_dma_buf_fd` does to the buffer it allocates. -/
def dmaBufFdOps (env : MgrAnswers) : List BufOp :=
  match env.ionAlloc with
  | none => []
  | some buf =>
    if env.dmaBufFd.toInt < 0 then [.get buf, .put buf]
    else .get buf :: (env.dmaBufGet.map BufOp.get).toList

/-- Mapping for the CPU uses the buffer, and so does unmapping. -/
def cpuOps (used : Bool) (buf : ℕ) : List BufOp := if used then [.access buf] else []

def allocUsesHw (flags : BitVec 32) : Bool :=
  has flags .hwReadWrite || has flags .hwSharedAccess || has flags .protectedMode

def allocRegion (flags : BitVec 32) : RegionId :=
  if has flags .protectedMode then .secheap
  else if has flags .hwSharedAccess then .shared
  else .io

/-- The mapping for the hardware, if it uses the buffer. -/
def hwMap (used : Bool) (flags : BitVec 32) (mmuHdls : List (BitVec 32)) (fd : BitVec 32)
    (region : RegionId) (env : MgrAnswers) (s : SmmuState) : ℤ × SmmuState :=
  if used then Smmu.mapHwVa flags mmuHdls fd region env.smmu s else (0, s)

/-- `cam_mem_mgr_alloc_and_map`. -/
def allocAndMap (s : MgrState) (cmd : MemMgrAllocCmd) (env : MgrAnswers) : ℤ × MgrState :=
  if checkAllocFlags cmd.mmuHdls cmd.flags ≠ 0 then (checkAllocFlags cmd.mmuHdls cmd.flags, s)
  else
    let smmu := s.smmu.log (dmaBufFdOps env)
    match getDmaBufFd env.toAnswers with
    | .error rc => (rc, ⟨s.tbl, smmu⟩)
    | .ok (dmabuf, fd) =>
      match memGetSlot s.tbl with
      | (.error _, tbl) => (-Errno.ENOMEM, ⟨tbl, smmu.log [.put dmabuf]⟩)
      | (.ok idx, tbl) =>
        let hw := hwMap (allocUsesHw cmd.flags) cmd.flags cmd.mmuHdls fd (allocRegion cmd.flags) env smmu
        if hw.1 ≠ 0 then (hw.1, ⟨memPutSlot tbl idx, hw.2.log [.put dmabuf]⟩)
        else
          let named := { tbl.bufq idx with
            fd := fd, dmaBuf := 0, flags := cmd.flags, bufHandle := userHandle idx fd cmd.flags }
          let kva := kmdMap cmd.flags env.toAnswers
          let smmu := hw.2.log (cpuOps (has cmd.flags .kmdAccess) dmabuf)
          if kva.1 ≠ 0 then
            (kva.1, ⟨memPutSlot (tbl.setBufq idx named) idx, smmu.log [.put dmabuf]⟩)
          else
            (0, ⟨tbl.setBufq idx { named with
              kmdvaddr := kva.2, vaddr := env.hwVaddr, dmaBuf := dmabuf, len := cmd.len,
              hdls := cmd.mmuHdls, isImported := false }, smmu⟩)

def mapUsesHw (flags : BitVec 32) : Bool := has flags .hwReadWrite || has flags .protectedMode

/-- `cam_mem_mgr_map`. -/
def mapBuf (s : MgrState) (cmd : MemMgrMapCmd) (env : MgrAnswers) : ℤ × MgrState :=
  if cmd.fd.toInt < 0 then (-Errno.EINVAL, s)
  else if cmd.mmuHdls.length > mmuMaxHandle then (-Errno.EINVAL, s)
  else if checkMapFlags cmd.mmuHdls cmd.flags ≠ 0 then (checkMapFlags cmd.mmuHdls cmd.flags, s)
  else match env.dmaBufGet with
    | none => (-Errno.EINVAL, s)
    | some dmabuf =>
      let hw := hwMap (mapUsesHw cmd.flags) cmd.flags cmd.mmuHdls cmd.fd .io env
        (s.smmu.log [.get dmabuf])
      if hw.1 ≠ 0 then (hw.1, ⟨s.tbl, hw.2.log [.put dmabuf]⟩)
      else match memGetSlot s.tbl with
        | (.error _, tbl) => (-Errno.ENOMEM, ⟨tbl, hw.2.log [.put dmabuf]⟩)
        | (.ok idx, tbl) =>
          (0, ⟨tbl.setBufq idx { tbl.bufq idx with
            fd := cmd.fd, flags := cmd.flags, bufHandle := userHandle idx cmd.fd cmd.flags, kmdvaddr := 0,
            vaddr := if cmd.mmuHdls.length > 0 then env.hwVaddr else 0, dmaBuf := dmabuf,
            len := env.mapLen, hdls := cmd.mmuHdls, isImported := true }, hw.2⟩)

lemma getDmaBufFd_fd {env : Answers} {buf : ℕ} {fd : BitVec 32} (h : getDmaBufFd env = .ok (buf, fd)) :
    fd = env.dmaBufFd := by
  unfold getDmaBufFd at h
  split at h
  · cases h
  · split at h
    · cases h
    · split at h
      · cases h
      · cases h
        rfl

/-- The mappings, the slots and the references are as before. -/
structure Unwound (s t : MgrState) : Prop where
  banks : t.smmu.cbInfo = s.smmu.cbInfo
  bitmap : t.tbl.bitmap = s.tbl.bitmap
  refs : ∀ buf, refsOf buf t.smmu.ops = refsOf buf s.smmu.ops

/-- The buffer is mapped for the hardware, and then the CPU mapping fails. -/
structure AllocFailsLate (s : MgrState) (cmd : MemMgrAllocCmd) (env : MgrAnswers) : Prop where
  flags : checkAllocFlags cmd.mmuHdls cmd.flags = 0
  uses : allocUsesHw cmd.flags = true
  buf : ∃ dmabuf fd, getDmaBufFd env.toAnswers = .ok (dmabuf, fd)
  slot : ∃ idx tbl, memGetSlot s.tbl = (.ok idx, tbl)
  mapped : (hwMap (allocUsesHw cmd.flags) cmd.flags cmd.mmuHdls env.dmaBufFd (allocRegion cmd.flags) env
    (s.smmu.log (dmaBufFdOps env))).1 = 0
  cpu : (kmdMap cmd.flags env.toAnswers).1 ≠ 0

/-- The buffer is mapped for the hardware, and then there is no slot. -/
structure MapFailsLate (s : MgrState) (cmd : MemMgrMapCmd) (env : MgrAnswers) : Prop where
  fd : 0 ≤ cmd.fd.toInt
  hdls : cmd.mmuHdls.length ≤ mmuMaxHandle
  flags : checkMapFlags cmd.mmuHdls cmd.flags = 0
  uses : mapUsesHw cmd.flags = true
  mapped : ∃ dmabuf, env.dmaBufGet = some dmabuf ∧
    (hwMap (mapUsesHw cmd.flags) cmd.flags cmd.mmuHdls cmd.fd .io env (s.smmu.log [.get dmabuf])).1 = 0
  slot : ∃ rc tbl, memGetSlot s.tbl = (.error rc, tbl)

lemma hwMap_cbInfo_ne {used : Bool} {flags fd : BitVec 32} {mmuHdls : List (BitVec 32)}
    {region : RegionId} {env : MgrAnswers} {s : SmmuState} (hused : used = true)
    (h : (hwMap used flags mmuHdls fd region env s).1 = 0) :
    (hwMap used flags mmuHdls fd region env s).2.cbInfo ≠ s.cbInfo := by
  rw [hwMap, if_pos hused] at h ⊢
  obtain ⟨hne, hholds⟩ := mapHwVa_holds h
  intro hsame
  cases mmuHdls with
  | nil => exact hne rfl
  | cons hdl hdls =>
    have hmore := hholds (getSmmuTableIdx hdl)
    rw [hsame, hdlsOf_cons, if_pos rfl] at hmore
    omega

lemma AllocFailsLate.not_unwound {s : MgrState} {cmd : MemMgrAllocCmd} {env : MgrAnswers}
    (h : AllocFailsLate s cmd env) :
    (allocAndMap s cmd env).1 ≠ 0 ∧ ¬Unwound s (allocAndMap s cmd env).2 := by
  obtain ⟨hflags, huses, ⟨dmabuf, fd, hfd⟩, ⟨idx, tbl, hslot⟩, hmapped, hcpu⟩ := h
  obtain rfl := getDmaBufFd_fd hfd
  have hchanged := hwMap_cbInfo_ne huses hmapped
  have hcall : (allocAndMap s cmd env).1 = (kmdMap cmd.flags env.toAnswers).1 ∧
      (allocAndMap s cmd env).2.smmu.cbInfo =
        (hwMap (allocUsesHw cmd.flags) cmd.flags cmd.mmuHdls env.dmaBufFd (allocRegion cmd.flags) env
          (s.smmu.log (dmaBufFdOps env))).2.cbInfo := by
    rw [allocAndMap, if_neg (not_not.mpr hflags)]
    simp only [hfd, hslot, hmapped, ne_eq, not_true_eq_false, if_false]
    rw [if_pos hcpu]
    exact ⟨rfl, rfl⟩
  rw [hcall.1]
  refine ⟨hcpu, fun hunwound => hchanged ?_⟩
  rw [← hcall.2, hunwound.banks]
  rfl

lemma MapFailsLate.not_unwound {s : MgrState} {cmd : MemMgrMapCmd} {env : MgrAnswers}
    (h : MapFailsLate s cmd env) : (mapBuf s cmd env).1 ≠ 0 ∧ ¬Unwound s (mapBuf s cmd env).2 := by
  obtain ⟨hfd, hhdls, hflags, huses, ⟨dmabuf, hget, hmapped⟩, ⟨rc, tbl, hslot⟩⟩ := h
  have hnomem : -Errno.ENOMEM ≠ 0 := by decide
  have hchanged := hwMap_cbInfo_ne huses hmapped
  have hcall : (mapBuf s cmd env).1 = -Errno.ENOMEM ∧ (mapBuf s cmd env).2.smmu.cbInfo =
      (hwMap (mapUsesHw cmd.flags) cmd.flags cmd.mmuHdls cmd.fd .io env
        (s.smmu.log [.get dmabuf])).2.cbInfo := by
    rw [mapBuf, if_neg (not_lt.mpr hfd), if_neg (not_lt.mpr hhdls), if_neg (not_not.mpr hflags)]
    simp only [hget, hslot, hmapped, ne_eq, not_true_eq_false, if_false]
    exact ⟨trivial, rfl⟩
  rw [hcall.1]
  refine ⟨hnomem, fun hunwound => hchanged ?_⟩
  rw [← hcall.2, hunwound.banks]
  rfl

/-- A call that fails behind the hardware mapping never undoes it. -/
theorem creation_neverUnwound (s : MgrState) (alloc : MemMgrAllocCmd) (cmd : MemMgrMapCmd)
    (env : MgrAnswers) :
    (AllocFailsLate s alloc env →
        (allocAndMap s alloc env).1 ≠ 0 ∧ ¬Unwound s (allocAndMap s alloc env).2) ∧
      (MapFailsLate s cmd env → (mapBuf s cmd env).1 ≠ 0 ∧ ¬Unwound s (mapBuf s cmd env).2) :=
  ⟨fun h => h.not_unwound, fun h => h.not_unwound⟩

/-! The first buffer of a fresh manager, with one handle: its CPU access is refused. -/

def firstState : MgrState := ⟨memMgrInit, emptyBank⟩

def firstAlloc : MemMgrAllocCmd := ⟨4096, [0x1234], 9⟩

def noCpuAccess : MgrAnswers where
  ionAlloc := some 9
  dmaBufFd := 3
  dmaBufGet := some 9
  beginCpuAccess := -Errno.EIO
  kmap := none
  mapIova _ := 0
  hwVaddr := 4096
  mapLen := 4096
  smmu _ := goodAnswers

lemma memGetSlot_of_find {tbl : MemTable} {idx : ℕ} (hidx : idx < bufqMax) (hpos : idx ≠ 0)
    (hclear : tbl.bitmap idx = false) (hset : ∀ i < idx, tbl.bitmap i = true) :
    ∃ tbl', memGetSlot tbl = (.ok idx, tbl') := by
  have hfind : Bitmap.findFirstZeroBit bufqMax tbl.bitmap = some idx := by
    rw [Bitmap.findFirstZeroBit, List.find?_range_eq_some]
    exact ⟨by simp [hclear], List.mem_range.mpr hidx, fun i hi => by simp [hset i hi]⟩
  unfold memGetSlot
  split
  · rename_i hnone
    cases hnone.symm.trans hfind
  · rename_i found hfound
    obtain rfl := Option.some.inj (hfound.symm.trans hfind)
    exact ⟨_, if_neg hpos⟩

lemma memGetSlot_of_full {tbl : MemTable} (hset : ∀ i < bufqMax, tbl.bitmap i = true) :
    ∃ rc tbl', memGetSlot tbl = (.error rc, tbl') := by
  have hfind : Bitmap.findFirstZeroBit bufqMax tbl.bitmap = none := by
    rw [Bitmap.findFirstZeroBit, List.find?_eq_none]
    exact fun i hi => by simp [hset i (List.mem_range.mp hi)]
  unfold memGetSlot
  split
  · exact ⟨_, _, rfl⟩
  · rename_i idx hsome
    cases hsome.symm.trans hfind

lemma firstAlloc_failsLate : AllocFailsLate firstState firstAlloc noCpuAccess where
  flags := by decide
  uses := by decide
  buf := ⟨9, 3, rfl⟩
  slot := by
    have hfirst : ∀ i < 1, firstState.tbl.bitmap i = true := by simp [firstState, memMgrInit]
    exact ⟨1, memGetSlot_of_find (by simp [bufqMax]) one_ne_zero rfl hfirst⟩
  mapped := by decide
  cpu := by decide

/-- The same manager without a free slot. -/
def fullState : MgrState := ⟨{ memMgrInit with bitmap := fun _ => true }, emptyBank⟩

lemma fullState_failsLate : MapFailsLate fullState ⟨[0x1234], 1, 3⟩ noCpuAccess where
  fd := by decide
  hdls := by decide
  flags := by decide
  uses := by decide
  mapped := ⟨9, rfl, by decide⟩
  slot := memGetSlot_of_full fun _ _ => rfl

theorem creation_neverUnwound_first :
    (allocAndMap firstState firstAlloc noCpuAccess).1 ≠ 0 ∧
      ¬Unwound firstState (allocAndMap firstState firstAlloc noCpuAccess).2 ∧
      (mapBuf fullState ⟨[0x1234], 1, 3⟩ noCpuAccess).1 ≠ 0 ∧
      ¬Unwound fullState (mapBuf fullState ⟨[0x1234], 1, 3⟩ noCpuAccess).2 := by
  obtain ⟨hrc, hleft⟩ :=
    (creation_neverUnwound firstState firstAlloc ⟨[0x1234], 1, 3⟩ noCpuAccess).1 firstAlloc_failsLate
  obtain ⟨hrc', hleft'⟩ :=
    (creation_neverUnwound fullState firstAlloc ⟨[0x1234], 1, 3⟩ noCpuAccess).2 fullState_failsLate
  exact ⟨hrc, hleft, hrc', hleft'⟩

theorem allocAndMap_leavesMapping :
    ¬∀ s cmd env, AllocFailsLate s cmd env → Unwound s (allocAndMap s cmd env).2 :=
  fun hall => firstAlloc_failsLate.not_unwound.2 (hall _ _ _ firstAlloc_failsLate)

end CameraKernel.MemMgr
