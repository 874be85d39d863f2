import CameraKernel.MemMgrMappings
import CameraKernel.MemMgrTable
import CameraKernel.SmmuRecord

/-! The memory manager requests a buffer of its own and releases it again, over an SMMU layer with
its mapping lists and its shared pool. -/
namespace CameraKernel.MemMgrUndo
open MemMgr BitArea
open Smmu (handleInit getSmmuTableIdx translates)
open SmmuRecord (CbSet DmaBuffInfo RegionId MapAnswers GenPool Serves allocIova freeIova mapBufferValidate
  fillMappingInfo granules poolArea)

/-- `cam_smmu_map_kernel_iova`, with the address it gives out. Without a result, the call goes through
the NULL mapping that `cam_smmu_map_buffer_validate` has left with the code 0. -/
def mapKernelIova (handle : BitVec 32) (buf : ℕ) (dir : ℤ) (len : ℕ) (regionId : RegionId)
    (env : MapAnswers) (s : CbSet) : Option (ℤ × ℕ × CbSet) :=
  let idx := getSmmuTableIdx handle
  let bank := s.cbInfo idx
  if handle = handleInit ∨ !translates dir ∨ idx ≥ s.cbNum then some (-Errno.EINVAL, 0, s)
  else if bank.isSecure then some (-Errno.EINVAL, 0, s)
  else if bank.handle ≠ handle then some (-Errno.EINVAL, 0, s)
  else if !bank.attached then some (-Errno.EINVAL, 0, s)
  else if (bank.smmuBufKernelList.find? (·.buf == some buf)).isSome then some (-Errno.EALREADY, 0, s)
  else
    let r := mapBufferValidate (.ok buf) idx regionId len env s
    if r.1 ≠ 0 then some (r.1, 0, r.2.2)
    else r.2.1.map fun m =>
      let bank := r.2.2.cbInfo idx
      (0, m.paddr, r.2.2.setBank idx
        { bank with smmuBufKernelList := { m with ionFd := -1 } :: bank.smmuBufKernelList })

/-- `cam_smmu_unmap_buf_and_remove_from_list`, for the first mapping of the buffer on the kernel list. -/
def unmapBufAndRemoveFromList (m : DmaBuffInfo) (idx buf : ℕ) (s : CbSet) : CbSet :=
  let s := if m.regionId = .shared then (freeIova m.paddr m.len (s.cbInfo idx).handle s).2 else s
  let bank := s.cbInfo idx
  (s.setBank idx { bank with
    smmuBufKernelList := bank.smmuBufKernelList.eraseP (·.buf == some buf) }).dmaBufPut buf

/-- `cam_smmu_unmap_kernel_iova`. -/
def unmapKernelIova (handle : BitVec 32) (buf : ℕ) (s : CbSet) : ℤ × CbSet :=
  let idx := getSmmuTableIdx handle
  let bank := s.cbInfo idx
  if handle = handleInit ∨ idx ≥ s.cbNum then (-Errno.EINVAL, s)
  else if bank.isSecure then (-Errno.EINVAL, s)
  else if bank.handle ≠ handle then (-Errno.EINVAL, s)
  else if buf = 0 then (-Errno.EINVAL, s)
  else
    match bank.smmuBufKernelList.find? (·.buf == some buf) with
    | none => (-Errno.EINVAL, s)
    | some m => (0, unmapBufAndRemoveFromList m idx buf s)

/-- `cam_smmu_unmap_stage2_iova`. -/
def unmapStage2Iova (handle ionFd : BitVec 32) (s : CbSet) : ℤ × CbSet :=
  let idx := getSmmuTableIdx handle
  let bank := s.cbInfo idx
  if handle = handleInit ∨ idx ≥ s.cbNum then (-Errno.EINVAL, s)
  else if !bank.isSecure then (-Errno.EINVAL, s)
  else if bank.handle ≠ handle then (-Errno.EINVAL, s)
  else
    match bank.smmuBufList.find? (·.ionFd == ionFd) with
    | none => (-Errno.EINVAL, s)
    | some m =>
      if m.refCount - 1 > 0 then
        (0, s.setBank idx { bank with
          smmuBufList := bank.smmuBufList.replaceF fun e =>
            if e.ionFd = ionFd then some { e with refCount := m.refCount - 1 } else none })
      else
        let s := s.setBank idx { bank with smmuBufList := bank.smmuBufList.eraseP (·.ionFd == ionFd) }
        (0, m.buf.elim s s.dmaBufPut)

structure MgrState where
  tbl : MemTable
  smmu : CbSet

/-- The answers to a request, with those to the mapping. -/
structure RequestAnswers extends Answers where
  map : MapAnswers

/-- The shared region has precedence, and is taken without any flag for the hardware too. -/
def requestRegion (flags : BitVec 32) : RegionId :=
  if has flags .hwSharedAccess then .shared
  else if has flags .hwReadWrite then .io
  else .shared

/-- `ion_alloc` returns a buffer with one reference. -/
def ionAlloc (s : CbSet) (buf : ℕ) : CbSet := { s with refs := Function.update s.refs buf (s.refs buf + 1) }

/-- `cam_mem_mgr_request_mem`, with the handle of the descriptor it fills in, 0 on failure. -/
def requestMem (inp : MemMgrRequestDesc) (env : RequestAnswers) (s : MgrState) :
    Option (ℤ × BitVec 32 × MgrState) :=
  if !(has inp.flags .hwReadWrite || has inp.flags .hwSharedAccess || has inp.flags .cache) then
    some (-Errno.EINVAL, 0, s)
  else
    match env.ionAlloc.filter (· != 0) with
    | none => some (-Errno.ENOMEM, 0, s)
    | some buf =>
      let smmu := ionAlloc s.smmu buf
      let kva := mapCpuVa env.toAnswers
      if kva.1 ≠ 0 then some (kva.1, 0, ⟨s.tbl, smmu.dmaBufPut buf⟩)
      else if inp.smmuHdl = 0 then some (-Errno.EINVAL, 0, ⟨s.tbl, smmu.dmaBufPut buf⟩)
      else
        match mapKernelIova inp.smmuHdl buf 2 env.map.bufSize (requestRegion inp.flags) env.map smmu with
        | none => none
        | some (rc, iova, smmu) =>
          if rc < 0 then some (rc, 0, ⟨s.tbl, smmu.dmaBufPut buf⟩)
          else
            match memGetSlot s.tbl with
            | (.error _, tbl) =>
              some (-Errno.ENOMEM, 0, ⟨tbl, (unmapKernelIova inp.smmuHdl buf smmu).2.dmaBufPut buf⟩)
            | (.ok idx, tbl) =>
              let handle := getMemHandle idx (-1)
              some (rc, handle, ⟨tbl.setBufq idx { tbl.bufq idx with
                dmaBuf := buf, fd := -1, flags := inp.flags ||| BitVec.twoPow 32 MemFlag.kmdAccess.bit,
                bufHandle := handle, kmdvaddr := kva.2, vaddr := iova, len := inp.size,
                hdls := [inp.smmuHdl], isImported := false }, smmu⟩)

/-- The loop over the handles of a buffer, up to the first that fails. -/
def unmapEach (unmap : BitVec 32 → CbSet → ℤ × CbSet) : List (BitVec 32) → CbSet → CbSet
  | [], s => s
  | hdl :: hdls, s => if (unmap hdl s).1 < 0 then (unmap hdl s).2 else unmapEach unmap hdls (unmap hdl s).2

/-- `cam_mem_util_unmap_hw_va` for a kernel client. -/
def unmapHwVa (entry : BufQueue) (s : CbSet) : CbSet :=
  if has entry.flags .protectedMode then unmapEach (unmapStage2Iova · entry.fd) entry.hdls s
  else unmapEach (unmapKernelIova · entry.dmaBuf) entry.hdls s

/-- The flags for which the release unmaps a buffer. -/
def unmapsHw (flags : BitVec 32) : Bool :=
  has flags .hwReadWrite || has flags .hwSharedAccess || has flags .protectedMode

/-- `cam_mem_util_unmap` for a kernel client. `endCpuAccess` is the code of the CPU unmapping. -/
def memUtilUnmap (idx : ℕ) (endCpuAccess : ℤ) (s : MgrState) : ℤ × MgrState :=
  let entry := s.tbl.bufq idx
  if idx ≥ bufqMax ∨ idx = 0 then (-Errno.EINVAL, s)
  else if entry.active = false ∧ entry.vaddr = 0 then (0, s)
  else
    let rc := if has entry.flags .kmdAccess && entry.dmaBuf != 0 && entry.kmdvaddr != 0 then endCpuAccess
      else 0
    let smmu := if unmapsHw entry.flags then unmapHwVa entry s.smmu else s.smmu
    -- the mapping of a kernel client puts the buffer
    let dmaBuf := if unmapsHw entry.flags then 0 else entry.dmaBuf
    let smmu := if dmaBuf ≠ 0 then smmu.dmaBufPut dmaBuf else smmu
    (rc, ⟨⟨Function.update s.tbl.bitmap idx false, Function.update s.tbl.bufq idx releasedEntry⟩, smmu⟩)

/-- `cam_mem_mgr_release_mem`. -/
def releaseMem (memHandle : BitVec 32) (endCpuAccess : ℤ) (s : MgrState) : ℤ × MgrState :=
  let idx := getHdlIdx memHandle
  let entry := s.tbl.bufq idx
  if idx ≥ bufqMax ∨ idx = 0 then (-Errno.EINVAL, s)
  else if entry.active = false then (if entry.vaddr = 0 then 0 else -Errno.EINVAL, s)
  else if entry.bufHandle ≠ memHandle then (-Errno.EINVAL, s)
  else memUtilUnmap idx endCpuAccess s

lemma memUtilUnmap_table (idx : ℕ) (s : MgrState) {endCpuAccess : ℤ} {ans : BufAnswers}
    (h : ∀ buf vaddr, ans.code (.unmapCpuVa buf vaddr) = endCpuAccess) :
    (memUtilUnmap idx endCpuAccess s).1 = (MemMgr.memUtilUnmap s.tbl idx .kernel ans).1 ∧
      (memUtilUnmap idx endCpuAccess s).2.tbl = (MemMgr.memUtilUnmap s.tbl idx .kernel ans).2.2 := by
  unfold memUtilUnmap MemMgr.memUtilUnmap
  dsimp only
  by_cases hidx : idx ≥ bufqMax ∨ idx = 0
  · rw [if_pos hidx, if_pos hidx]
    exact ⟨rfl, rfl⟩
  rw [if_neg hidx, if_neg hidx]
  by_cases hfree : (s.tbl.bufq idx).active = false ∧ (s.tbl.bufq idx).vaddr = 0
  · rw [if_pos hfree, if_pos hfree]
    exact ⟨rfl, rfl⟩
  rw [if_neg hfree, if_neg hfree]
  refine ⟨?_, rfl⟩
  unfold unmapCpu
  split
  · exact (h _ _).symm
  · rfl

lemma releaseMem_table (memHandle : BitVec 32) (s : MgrState) {endCpuAccess : ℤ} {ans : BufAnswers}
    (h : ∀ buf vaddr, ans.code (.unmapCpuVa buf vaddr) = endCpuAccess) :
    (releaseMem memHandle endCpuAccess s).1 = (memMgrReleaseMem s.tbl memHandle ans).1 ∧
      (releaseMem memHandle endCpuAccess s).2.tbl = (memMgrReleaseMem s.tbl memHandle ans).2.2 := by
  unfold releaseMem memMgrReleaseMem
  dsimp only
  split
  · exact ⟨rfl, rfl⟩
  · split
    · exact ⟨rfl, rfl⟩
    · split
      · exact ⟨rfl, rfl⟩
      · exact memUtilUnmap_table _ s h

/-- The code and the address of the mapping of the buffer that is allocated. -/
def requestHw (inp : MemMgrRequestDesc) (env : RequestAnswers) (s : MgrState) : Option (ℤ × ℕ) :=
  let buf := (env.ionAlloc.filter (· != 0)).getD 0
  (mapKernelIova inp.smmuHdl buf 2 env.map.bufSize (requestRegion inp.flags) env.map
    (ionAlloc s.smmu buf)).map fun r => (r.1, r.2.1)

/-- The table alone, over a layer that just answers what the mapping does. -/
def requestMemAlone (inp : MemMgrRequestDesc) (env : RequestAnswers) (s : MgrState) : Allocated :=
  memMgrRequestMem s.tbl inp { env.toAnswers with
    ionAlloc := env.ionAlloc.filter (· != 0)
    mapIova := fun _ => ((requestHw inp env s).getD (0, 0)).1
    hwVaddr := ((requestHw inp env s).getD (0, 0)).2 }

lemma requestMem_table {inp : MemMgrRequestDesc} {env : RequestAnswers} {s t : MgrState} {rc : ℤ}
    {hdl : BitVec 32} (h : requestMem inp env s = some (rc, hdl, t)) :
    (requestMemAlone inp env s).1 = rc ∧ (requestMemAlone inp env s).2.2 = t.tbl := by
  unfold requestMem at h
  unfold requestMemAlone requestHw
  unfold memMgrRequestMem
  by_cases hflags : (!(has inp.flags .hwReadWrite || has inp.flags .hwSharedAccess ||
      has inp.flags .cache)) = true
  · rw [if_pos hflags, Option.some.injEq, Prod.mk.injEq, Prod.mk.injEq] at h
    simp only [if_pos hflags]
    exact ⟨h.1, by rw [h.2.2]⟩
  rw [if_neg hflags] at h
  simp only [if_neg hflags]
  cases hion : env.ionAlloc.filter (· != 0) with
  | none =>
    simp only [hion, Option.some.injEq, Prod.mk.injEq] at h
    exact ⟨h.1, by rw [h.2.2]⟩
  | some buf =>
    simp only [hion] at h
    simp only [Option.getD_some]
    have hkva (code : ℤ) (iova : ℕ) : mapCpuVa { env.toAnswers with
        ionAlloc := some buf, mapIova := fun _ => code, hwVaddr := iova } = mapCpuVa env.toAnswers := rfl
    simp only [hkva]
    by_cases hcpu : (mapCpuVa env.toAnswers).1 ≠ 0
    · simp only [if_pos hcpu, Option.some.injEq, Prod.mk.injEq] at h
      simp only [if_pos hcpu]
      exact ⟨h.1, by rw [← h.2.2]⟩
    simp only [if_neg hcpu] at h ⊢
    by_cases hhdl : inp.smmuHdl = 0
    · simp only [if_pos hhdl, Option.some.injEq, Prod.mk.injEq] at h
      simp only [if_pos hhdl]
      exact ⟨h.1, by rw [← h.2.2]⟩
    simp only [if_neg hhdl] at h ⊢
    cases hmap : mapKernelIova inp.smmuHdl buf 2 env.map.bufSize (requestRegion inp.flags) env.map
        (ionAlloc s.smmu buf) with
    | none => simp [hmap] at h
    | some r =>
      obtain ⟨code, iova, smmu⟩ := r
      simp only [hmap, Option.map_some, Option.getD_some] at h ⊢
      by_cases hrc : code < 0
      · simp only [if_pos hrc, Option.some.injEq, Prod.mk.injEq] at h
        simp only [if_pos hrc]
        exact ⟨h.1, by rw [← h.2.2]⟩
      simp only [if_neg hrc] at h ⊢
      cases hslot : memGetSlot s.tbl with
      | mk slot tbl =>
        cases slot with
        | error e =>
          simp only [hslot, Option.some.injEq, Prod.mk.injEq] at h
          exact ⟨h.1, by rw [← h.2.2]⟩
        | ok idx =>
          simp only [hslot, Option.some.injEq, Prod.mk.injEq] at h
          exact ⟨h.1, by rw [← h.2.2]⟩

/-- A kernel mapping of a buffer was made: its entry heads the list of the bank, and in the shared region
the pool has lost the granules of `len`. -/
structure Mapped (handle : BitVec 32) (buf len : ℕ) (env : MapAnswers) (s : CbSet) (m : DmaBuffInfo)
    (t : CbSet) : Prop where
  owns : s.owns handle = true
  plain : (s.cbInfo (getSmmuTableIdx handle)).isSecure = false
  buf : m.buf = some buf
  state : ∃ pool, t = s.setBank (getSmmuTableIdx handle) { s.cbInfo (getSmmuTableIdx handle) with
      sharedMemPool := pool
      smmuBufKernelList := m :: (s.cbInfo (getSmmuTableIdx handle)).smmuBufKernelList } ∧
    (m.regionId ≠ .shared → pool = (s.cbInfo (getSmmuTableIdx handle)).sharedMemPool) ∧
    (m.regionId = .shared →
      Clear (s.cbInfo (getSmmuTableIdx handle)).sharedMemPool (poolArea m.paddr len) ∧
      pool = setArea (s.cbInfo (getSmmuTableIdx handle)).sharedMemPool (poolArea m.paddr len) ∧
      m.len = env.iommuMapSg ∧ m.len ≠ 0)

/-- `iommu_map_sg` maps the whole table of a buffer, or nothing of it. -/
def MapsWhole (env : MapAnswers) : Prop := env.iommuMapSg = env.bufSize ∨ env.iommuMapSg = 0

section Mappings
variable {handle : BitVec 32} {buf len idx : ℕ} {dir : ℤ} {regionId : RegionId} {env : MapAnswers}
  {s t u : CbSet} {m : DmaBuffInfo}

lemma fillMappingInfo_some {paddr size : ℕ} {sgl : Bool}
    (h : (fillMappingInfo buf idx regionId sgl paddr size env s).2.1 = some m) :
    (fillMappingInfo buf idx regionId sgl paddr size env s).2.2 = s ∧
      m = ⟨some buf, 0, paddr, size, regionId, 1⟩ ∧ size ≠ 0 := by
  unfold fillMappingInfo at h ⊢
  split_ifs at h ⊢ with hsgl hbad
  push Not at hbad
  exact ⟨rfl, (Option.some.inj h).symm, hbad.2.2⟩

lemma mapBufferValidate_some (hpool : GenPool env.genPoolAlloc) (hregion : regionId = .shared ∨ regionId = .io)
    (hidx : getSmmuTableIdx (s.cbInfo idx).handle = idx)
    (h : (mapBufferValidate (.ok buf) idx regionId len env s).2.1 = some m) :
    ∃ pool, (mapBufferValidate (.ok buf) idx regionId len env s).2.2 =
        s.setBank idx { s.cbInfo idx with sharedMemPool := pool } ∧
      m.buf = some buf ∧ m.regionId = regionId ∧
      (regionId ≠ .shared → pool = (s.cbInfo idx).sharedMemPool) ∧
      (regionId = .shared → Clear (s.cbInfo idx).sharedMemPool (poolArea m.paddr len) ∧
        pool = setArea (s.cbInfo idx).sharedMemPool (poolArea m.paddr len) ∧
        m.len = env.iommuMapSg ∧ m.len ≠ 0) := by
  have hself : s = s.setBank idx { s.cbInfo idx with sharedMemPool := (s.cbInfo idx).sharedMemPool } := by
    simp [CbSet.setBank]
  unfold mapBufferValidate at h ⊢
  simp only [SmmuRecord.Ptr.checked_ok] at h ⊢
  cases hattach : env.attach with
  | null | err => simp [hattach, SmmuRecord.Ptr.checked] at h
  | ok _ =>
    simp only [hattach, SmmuRecord.Ptr.checked_ok] at h ⊢
    rcases hregion with rfl | rfl
    · cases htable : env.table with
      | null | err => simp [htable, SmmuRecord.Ptr.checked] at h
      | ok sgl =>
        simp only [htable, SmmuRecord.Ptr.checked_ok] at h ⊢
        by_cases hdomain : (!(s.cbInfo idx).domain) = true
        · rw [if_pos hdomain] at h
          cases h
        simp only [if_neg hdomain] at h ⊢
        by_cases hserves : Serves env.genPoolAlloc len (s.cbInfo idx).handle s
        · rw [SmmuRecord.allocIova_served hpool hserves] at h ⊢
          simp only [hidx] at h ⊢
          obtain ⟨hstate, hm, hne⟩ := fillMappingInfo_some h
          have hclear := (hpool _ _ hserves.found).2
          rw [hidx] at hclear
          rw [hstate, hm]
          refine ⟨_, ?_, rfl, rfl, fun hn => absurd rfl hn, fun _ => ⟨hclear, rfl, rfl, hne⟩⟩
          simp only [CbSet.taken, CbSet.setPool, hidx]
        · obtain ⟨rc, -, halloc⟩ := SmmuRecord.allocIova_refused hserves
          simp [halloc] at h
    · cases htable : env.table with
      | null | err => simp [htable, SmmuRecord.Ptr.checked] at h
      | ok sgl =>
        simp only [htable, SmmuRecord.Ptr.checked_ok] at h ⊢
        obtain ⟨hstate, hm, -⟩ := fillMappingInfo_some h
        rw [hstate, hm]
        exact ⟨_, hself, rfl, rfl, fun _ => rfl, fun hn => absurd hn (by decide)⟩

lemma mapKernelIova_mapped {iova : ℕ} (hpool : GenPool env.genPoolAlloc)
    (hregion : regionId = .shared ∨ regionId = .io)
    (h : mapKernelIova handle buf dir len regionId env s = some (0, iova, t)) :
    ∃ m, m.regionId = regionId ∧ Mapped handle buf len env s m t := by
  unfold mapKernelIova at h
  dsimp only at h
  by_cases hparams : handle = handleInit ∨ !translates dir ∨ getSmmuTableIdx handle ≥ s.cbNum
  · rw [if_pos hparams] at h
    cases h
  rw [if_neg hparams] at h
  by_cases hsecure : (s.cbInfo (getSmmuTableIdx handle)).isSecure
  · rw [if_pos hsecure] at h
    cases h
  rw [if_neg hsecure] at h
  by_cases hown : (s.cbInfo (getSmmuTableIdx handle)).handle ≠ handle
  · rw [if_pos hown] at h
    cases h
  rw [if_neg hown] at h
  split_ifs at h with hattached hlisted herr
  · cases h
  · cases h
  · exact absurd (congrArg (fun r => r.1) (Option.some.inj h)) herr
  · obtain ⟨m, hm, hr⟩ := Option.map_eq_some_iff.mp h
    push Not at hparams hown
    obtain ⟨pool, hstate, hbuf, hreg, hio, hshared⟩ :=
      mapBufferValidate_some hpool hregion (by rw [hown]) hm
    simp only [Prod.mk.injEq] at hr
    refine ⟨{ m with ionFd := -1 }, hreg, ?_, by simpa using hsecure, hbuf, pool, ?_, ?_, ?_⟩
    · simpa [CbSet.owns, hown] using ⟨hparams.1, hparams.2.2⟩
    · rw [← hr.2.2, hstate]
      simp [CbSet.setBank]
    · rwa [hreg]
    · rwa [hreg]

lemma ionAlloc_dmaBufPut (s : CbSet) (buf : ℕ) : (ionAlloc s buf).dmaBufPut buf = s := by
  simp [ionAlloc, CbSet.dmaBufPut]

lemma Mapped.bank (h : Mapped handle buf len env s m t) :
    (t.cbInfo (getSmmuTableIdx handle)).isSecure = false ∧
      (t.cbInfo (getSmmuTableIdx handle)).handle = handle ∧ t.cbNum = s.cbNum ∧
      (t.cbInfo (getSmmuTableIdx handle)).smmuBufKernelList =
        m :: (s.cbInfo (getSmmuTableIdx handle)).smmuBufKernelList := by
  obtain ⟨pool, hstate, -, -⟩ := h.state
  have howns := h.owns
  simp only [CbSet.owns, decide_eq_true_eq] at howns
  subst hstate
  simp [CbSet.setBank, h.plain, howns.2.2]

lemma Mapped.unmapStage2Iova (h : Mapped handle buf len env s m t) (ionFd : BitVec 32) :
    unmapStage2Iova handle ionFd t = (-Errno.EINVAL, t) := by
  obtain ⟨hplain, -, -, -⟩ := h.bank
  have hrefused : (!(t.cbInfo (getSmmuTableIdx handle)).isSecure) = true := by rw [hplain]; rfl
  unfold MemMgrUndo.unmapStage2Iova
  dsimp only
  by_cases hparams : handle = handleInit ∨ getSmmuTableIdx handle ≥ t.cbNum
  · rw [if_pos hparams]
  · rw [if_neg hparams, if_pos hrefused]

theorem Mapped.unmapKernelIova (h : Mapped handle buf len env s m t) (hbuf : buf ≠ 0)
    (hlen : m.regionId = .shared → granules m.len = granules len) :
    unmapKernelIova handle buf t = (0, s.dmaBufPut buf) := by
  obtain ⟨hplain, hown, hnum, hlist⟩ := h.bank
  have howns := h.owns
  simp only [CbSet.owns, decide_eq_true_eq] at howns
  have hfind : (t.cbInfo (getSmmuTableIdx handle)).smmuBufKernelList.find? (·.buf == some buf) = some m := by
    rw [hlist]
    simp [h.buf]
  have hparams : ¬(handle = handleInit ∨ getSmmuTableIdx handle ≥ t.cbNum) := by
    rw [hnum]
    exact not_or.mpr ⟨howns.1, howns.2.1.not_ge⟩
  unfold MemMgrUndo.unmapKernelIova
  simp only [hparams, hplain, hown, hbuf, hfind, ne_eq, not_true_eq_false, Bool.false_eq_true, if_false,
    Prod.mk.injEq, true_and]
  obtain ⟨pool, hstate, hio, hshared⟩ := h.state
  unfold unmapBufAndRemoveFromList
  -- the pool first, then the entry
  have hpool : (if m.regionId = .shared then
        (freeIova m.paddr m.len (t.cbInfo (getSmmuTableIdx handle)).handle t).2 else t) =
      s.setBank (getSmmuTableIdx handle) { s.cbInfo (getSmmuTableIdx handle) with
        smmuBufKernelList := m :: (s.cbInfo (getSmmuTableIdx handle)).smmuBufKernelList } := by
    by_cases hregion : m.regionId = .shared
    · obtain ⟨hclear, hset, -, hne⟩ := hshared hregion
      have howns' : t.owns handle = true := by
        simp only [CbSet.owns, decide_eq_true_eq, hnum]
        exact ⟨howns.1, howns.2.1, hown⟩
      have hback : clearArea pool (poolArea m.paddr m.len) =
          (s.cbInfo (getSmmuTableIdx handle)).sharedMemPool := by
        rw [hset]
        simp only [poolArea, hlen hregion] at hclear ⊢
        exact clearArea_setArea hclear
      rw [if_pos hregion, hown]
      simp only [freeIova, hne, howns', Bool.not_true, Bool.false_eq_true, or_self, if_false]
      subst hstate
      simp [CbSet.setPool, CbSet.setBank, hback]
    · rw [if_neg hregion, hstate, hio hregion]
  simp only [hpool]
  simp [CbSet.setBank, h.buf]

end Mappings

/-! ### A request and its release -/

/-- Lists, pools and references are as before; in the table the slots in use are, and a free slot may
have been cleared. -/
structure Restored (s t : MgrState) : Prop where
  bitmap : t.tbl.bitmap = s.tbl.bitmap
  bufq : ∀ i, t.tbl.bufq i = s.tbl.bufq i ∨ s.tbl.bitmap i = false ∧ t.tbl.bufq i = releasedEntry
  kernelList : ∀ i, (t.smmu.cbInfo i).smmuBufKernelList = (s.smmu.cbInfo i).smmuBufKernelList
  pool : ∀ i, (t.smmu.cbInfo i).sharedMemPool = (s.smmu.cbInfo i).sharedMemPool
  refs : t.smmu.refs = s.smmu.refs

/-- What a request that succeeded leaves: a mapping and a slot filled with it. -/
structure Requested (inp : MemMgrRequestDesc) (env : RequestAnswers) (s : MgrState) (hdl : BitVec 32)
    (buf idx : ℕ) (m : DmaBuffInfo) (entry : BufQueue) (t : MgrState) : Prop where
  notNull : buf ≠ 0
  mapped : Mapped inp.smmuHdl buf env.map.bufSize env.map (ionAlloc s.smmu buf) m t.smmu
  region : m.regionId = requestRegion inp.flags
  slot : idx ≠ 0 ∧ idx < bufqMax ∧ s.tbl.bitmap idx = false
  handle : hdl = getMemHandle idx (-1)
  tbl : t.tbl = ⟨Function.update s.tbl.bitmap idx true, Function.update s.tbl.bufq idx entry⟩
  active : entry.active = true
  bufHandle : entry.bufHandle = hdl
  flags : ∀ flag, flag ≠ .kmdAccess → has entry.flags flag = has inp.flags flag
  dmaBuf : entry.dmaBuf = buf
  hdls : entry.hdls = [inp.smmuHdl]

section Requests
variable {inp : MemMgrRequestDesc} {env : RequestAnswers} {s t : MgrState} {rc endCpuAccess : ℤ}
  {hdl : BitVec 32} {buf idx : ℕ} {m : DmaBuffInfo} {entry : BufQueue}

lemma has_or_kmdAccess (flags : BitVec 32) {flag : MemFlag} (h : flag ≠ .kmdAccess) :
    has (flags ||| BitVec.twoPow 32 MemFlag.kmdAccess.bit) flag = has flags flag := by
  unfold has
  cases flag with
  | kmdAccess => exact absurd rfl h
  | hwReadWrite | hwReadOnly | hwWriteOnly | protectedMode | cache | hwSharedAccess | cpPixel =>
    simp [MemFlag.bit]

lemma requestRegion_cases (flags : BitVec 32) :
    requestRegion flags = .shared ∨ requestRegion flags = .io := by
  unfold requestRegion
  split_ifs
  · exact Or.inl rfl
  · exact Or.inr rfl
  · exact Or.inl rfl

lemma memGetSlot_free {tbl tbl' : MemTable} (h : memGetSlot tbl = (.ok idx, tbl')) :
    idx ≠ 0 ∧ idx < bufqMax ∧ tbl.bitmap idx = false := by
  unfold memGetSlot at h
  split at h
  · cases h
  · rename_i first hfirst
    by_cases hzero : first = 0
    · rw [if_pos hzero] at h
      cases h
    · rw [if_neg hzero, Prod.mk.injEq, Except.ok.injEq] at h
      rw [← h.1]
      exact ⟨hzero, Bitmap.findFirstZeroBit_some hfirst⟩

lemma requestMem_requested (hpool : GenPool env.map.genPoolAlloc)
    (h : requestMem inp env s = some (0, hdl, t)) :
    ∃ buf idx m entry, Requested inp env s hdl buf idx m entry t := by
  unfold requestMem at h
  by_cases hflags : (!(has inp.flags .hwReadWrite || has inp.flags .hwSharedAccess ||
      has inp.flags .cache)) = true
  · rw [if_pos hflags] at h
    cases h
  rw [if_neg hflags] at h
  cases hion : env.ionAlloc.filter (· != 0) with
  | none =>
    rw [hion] at h
    cases h
  | some buf =>
    have hbuf : buf ≠ 0 := by simpa using (Option.filter_eq_some_iff.mp hion).2
    simp only [hion] at h
    by_cases hcpu : (mapCpuVa env.toAnswers).1 ≠ 0
    · rw [if_pos hcpu, Option.some.injEq, Prod.mk.injEq] at h
      exact absurd h.1 hcpu
    rw [if_neg hcpu] at h
    by_cases hhdl : inp.smmuHdl = 0
    · rw [if_pos hhdl] at h
      cases h
    rw [if_neg hhdl] at h
    cases hmap : mapKernelIova inp.smmuHdl buf 2 env.map.bufSize (requestRegion inp.flags) env.map
        (ionAlloc s.smmu buf) with
    | none =>
      rw [hmap] at h
      cases h
    | some r =>
      obtain ⟨code, iova, smmu⟩ := r
      simp only [hmap] at h
      by_cases hcode : code < 0
      · rw [if_pos hcode, Option.some.injEq, Prod.mk.injEq] at h
        exact absurd h.1 hcode.ne
      rw [if_neg hcode] at h
      rcases memGetSlot_cases s.tbl with ⟨e, hslot⟩ | ⟨idx, hslot⟩
      · rw [hslot] at h
        cases h
      · have hfree := memGetSlot_free hslot
        simp only [hslot, write_self, Option.some.injEq, Prod.mk.injEq] at h
        rw [write_setBufq (by rfl)] at h
        obtain ⟨hcode0, hhandle, ht⟩ := h
        rw [hcode0] at hmap
        obtain ⟨m, hregion, hmapped⟩ := mapKernelIova_mapped hpool (requestRegion_cases inp.flags) hmap
        subst ht
        exact ⟨buf, idx, m, _, hbuf, hmapped, hregion, hfree, hhandle.symm, rfl, rfl,
          hhandle, fun flag hflag => has_or_kmdAccess inp.flags hflag, rfl, rfl⟩

/-- What the release does to the SMMU layer. -/
def releasedSmmu (entry : BufQueue) (s : CbSet) : CbSet :=
  if unmapsHw entry.flags then unmapHwVa entry s
  else if entry.dmaBuf ≠ 0 then s.dmaBufPut entry.dmaBuf else s

lemma Requested.releaseMem (h : Requested inp env s hdl buf idx m entry t) :
    (MemMgrUndo.releaseMem hdl endCpuAccess t).2 =
      ⟨⟨s.tbl.bitmap, Function.update s.tbl.bufq idx releasedEntry⟩, releasedSmmu entry t.smmu⟩ := by
  obtain ⟨hpos, hlt, hclear⟩ := h.slot
  have hidx : getHdlIdx hdl = idx := by
    rw [h.handle]
    exact getHdlIdx_getMemHandle (-1) hlt
  have hentry : t.tbl.bufq idx = entry := by simp [h.tbl]
  have hrange : ¬(idx ≥ bufqMax ∨ idx = 0) := not_or.mpr ⟨hlt.not_ge, hpos⟩
  unfold MemMgrUndo.releaseMem memUtilUnmap
  simp only [hidx, hentry, hrange, h.active, h.bufHandle, if_false, ne_eq, not_true_eq_false,
    Bool.true_eq_false, false_and]
  have hbits : Function.update t.tbl.bitmap idx false = s.tbl.bitmap := by
    rw [h.tbl]
    simp [← hclear]
  have hentries : Function.update t.tbl.bufq idx releasedEntry =
      Function.update s.tbl.bufq idx releasedEntry := by simp [h.tbl]
  rw [hbits, hentries]
  unfold releasedSmmu
  cases unmapsHw entry.flags with
  | false => rfl
  | true => rfl

lemma Requested.not_restored (h : Requested inp env s hdl buf idx m entry t)
    (hlist : ∀ i, ((releasedSmmu entry t.smmu).cbInfo i).smmuBufKernelList =
      (t.smmu.cbInfo i).smmuBufKernelList) :
    ¬Restored s (MemMgrUndo.releaseMem hdl endCpuAccess t).2 := by
  intro hr
  have hkept := hr.kernelList (getSmmuTableIdx inp.smmuHdl)
  rw [h.releaseMem] at hkept
  simp only [hlist, h.mapped.bank.2.2.2] at hkept
  have hlen := congrArg List.length hkept
  simp [ionAlloc] at hlen

theorem Requested.restored_iff (h : Requested inp env s hdl buf idx m entry t) (hwhole : MapsWhole env.map) :
    Restored s (MemMgrUndo.releaseMem hdl endCpuAccess t).2 ↔
      (has inp.flags .hwReadWrite = true ∨ has inp.flags .hwSharedAccess = true) ∧
        has inp.flags .protectedMode = false := by
  have hrw := h.flags .hwReadWrite (by decide)
  have hsh := h.flags .hwSharedAccess (by decide)
  have hpr := h.flags .protectedMode (by decide)
  cases hprotected : has inp.flags .protectedMode with
  | true =>
    -- the buffer goes to the stage 2 call, which the bank refuses
    refine iff_of_false (h.not_restored fun i => ?_) (by simp)
    have hunmaps : unmapsHw entry.flags = true := by simp [unmapsHw, hpr, hprotected]
    have hrefused := h.mapped.unmapStage2Iova entry.fd
    simp [releasedSmmu, hunmaps, unmapHwVa, hpr, hprotected, h.hdls, unmapEach, hrefused]
  | false =>
    by_cases hhw : has inp.flags .hwReadWrite = true ∨ has inp.flags .hwSharedAccess = true
    swap
    · -- only the reference is put
      refine iff_of_false (h.not_restored fun i => ?_) fun hc => hhw hc.1
      obtain ⟨hno, hno'⟩ := not_or.mp hhw
      have hunmaps : unmapsHw entry.flags = false := by
        simp [unmapsHw, hrw, hsh, hpr, hprotected, hno, hno']
      simp [releasedSmmu, hunmaps, h.dmaBuf, h.notNull, CbSet.dmaBufPut]
    · refine iff_of_true ?_ ⟨hhw, rfl⟩
      have hunmaps : unmapsHw entry.flags = true := by
        unfold unmapsHw
        rw [hrw, hsh]
        rcases hhw with hhw | hhw
        · simp [hhw]
        · simp [hhw]
      have hgranules : m.regionId = .shared → granules m.len = granules env.map.bufSize := by
        intro hregion
        obtain ⟨pool, -, -, hshared⟩ := h.mapped.state
        obtain ⟨-, -, hlen, hne⟩ := hshared hregion
        rcases hwhole with hw | hw
        · rw [hlen, hw]
        · exact absurd (hlen.trans hw) hne
      have hback := h.mapped.unmapKernelIova h.notNull hgranules
      have hsmmu : releasedSmmu entry t.smmu = s.smmu := by
        simp [releasedSmmu, hunmaps, unmapHwVa, hpr, hprotected, h.hdls, unmapEach, h.dmaBuf, hback,
          ionAlloc_dmaBufPut]
      rw [h.releaseMem, hsmmu]
      refine ⟨rfl, fun i => ?_, fun _ => rfl, fun _ => rfl, rfl⟩
      by_cases hi : i = idx
      · subst hi
        exact Or.inr ⟨h.slot.2.2, by simp⟩
      · exact Or.inl (by simp [Function.update_of_ne hi])

/-- A request that succeeds is undone by its release if and only if it was made for the hardware, and not
in protected mode. -/
theorem request_release_restored_iff (hpool : GenPool env.map.genPoolAlloc) (hwhole : MapsWhole env.map)
    (hreq : requestMem inp env s = some (0, hdl, t)) (endCpuAccess : ℤ) :
    Restored s (releaseMem hdl endCpuAccess t).2 ↔
      (has inp.flags .hwReadWrite = true ∨ has inp.flags .hwSharedAccess = true) ∧
        has inp.flags .protectedMode = false := by
  obtain ⟨buf, idx, m, entry, h⟩ := requestMem_requested hpool hreq
  exact h.restored_iff hwhole

lemma requestMem_succeeds {kva iova slot : ℕ} {smmu : CbSet} {tbl : MemTable}
    (hflags : (has inp.flags .hwReadWrite || has inp.flags .hwSharedAccess || has inp.flags .cache) = true)
    (hion : env.ionAlloc = some buf) (hbuf : buf ≠ 0) (hkva : mapCpuVa env.toAnswers = (0, kva))
    (hhdl : inp.smmuHdl ≠ 0)
    (hmap : mapKernelIova inp.smmuHdl buf 2 env.map.bufSize (requestRegion inp.flags) env.map
      (ionAlloc s.smmu buf) = some (0, iova, smmu))
    (hslot : memGetSlot s.tbl = (.ok slot, tbl)) :
    ∃ hdl t, requestMem inp env s = some (0, hdl, t) := by
  have hion' : env.ionAlloc.filter (· != 0) = some buf := by simp [hion, hbuf]
  unfold requestMem
  simp only [hflags, hion', hkva, hhdl, hmap, hslot, Bool.not_true, Bool.false_eq_true, if_false, ne_eq,
    not_true_eq_false, lt_irrefl]
  exact ⟨_, _, rfl⟩

end Requests

def firstManager : MgrState := ⟨memMgrInit, SmmuRecord.oneBank⟩

/-- Every step succeeds. -/
def allGood : RequestAnswers where
  ionAlloc := some 9
  dmaBufFd := 0
  dmaBufGet := none
  beginCpuAccess := 0
  kmap := some 0x8000
  mapIova _ := 0
  hwVaddr := 0
  mapLen := 0
  map := SmmuRecord.mapAnswers 65536 true

def firstRequest (flags : BitVec 32) : MemMgrRequestDesc := ⟨65536, 0x1234, flags⟩

lemma firstRequest_succeeds {flags : BitVec 32}
    (hflags : (has flags .hwReadWrite || has flags .hwSharedAccess || has flags .cache) = true) :
    ∃ hdl t, requestMem (firstRequest flags) allGood firstManager = some (0, hdl, t) := by
  have hslots : ∃ tbl, memGetSlot memMgrInit = (.ok 1, tbl) :=
    memGetSlot_of_find (by decide) (by decide) rfl fun i hi => by simp [memMgrInit, Nat.lt_one_iff.mp hi]
  obtain ⟨tbl, hslot⟩ := hslots
  have hmap (regionId : RegionId) (hregion : regionId = .shared ∨ regionId = .io) :
      ∃ iova smmu, mapKernelIova 0x1234 9 2 65536 regionId (SmmuRecord.mapAnswers 65536 true)
        (ionAlloc SmmuRecord.oneBank 9) = some (0, iova, smmu) := by
    have hcode : (mapKernelIova 0x1234 9 2 65536 regionId (SmmuRecord.mapAnswers 65536 true)
        (ionAlloc SmmuRecord.oneBank 9)).map (·.1) = some 0 := by
      rcases hregion with rfl | rfl
      · decide +kernel
      · decide +kernel
    obtain ⟨r, hr, hzero⟩ := Option.map_eq_some_iff.mp hcode
    exact ⟨r.2.1, r.2.2, by rw [hr, ← hzero]⟩
  obtain ⟨iova, smmu, hmapped⟩ := hmap _ (requestRegion_cases flags)
  have hhandle : (0x1234 : BitVec 32) ≠ 0 := by decide
  exact requestMem_succeeds hflags rfl (by decide) rfl hhandle hmapped hslot

theorem sharedRequest_restored : ∃ hdl t, requestMem (firstRequest 2048) allGood firstManager = some (0, hdl, t) ∧
    Restored firstManager (releaseMem hdl 0 t).2 := by
  have hok : ∃ hdl t, requestMem (firstRequest 2048) allGood firstManager = some (0, hdl, t) :=
    firstRequest_succeeds (by decide)
  obtain ⟨hdl, t, hreq⟩ := hok
  exact ⟨hdl, t, hreq, (request_release_restored_iff SmmuRecord.oneRange_genPool (Or.inl rfl) hreq 0).mpr (by decide)⟩

lemma firstRequest_stays {flags : BitVec 32}
    (hflags : (has flags .hwReadWrite || has flags .hwSharedAccess || has flags .cache) = true)
    (hno : ¬((has flags .hwReadWrite = true ∨ has flags .hwSharedAccess = true) ∧
      has flags .protectedMode = false)) :
    ∃ hdl t, requestMem (firstRequest flags) allGood firstManager = some (0, hdl, t) ∧
      ¬Restored firstManager (releaseMem hdl 0 t).2 := by
  obtain ⟨hdl, t, hreq⟩ := firstRequest_succeeds hflags
  obtain ⟨buf, idx, m, entry, h⟩ := requestMem_requested SmmuRecord.oneRange_genPool hreq
  exact ⟨hdl, t, hreq, fun hr => hno ((h.restored_iff (Or.inl rfl)).mp hr)⟩

/-- A cached buffer, and a protected one for reading and writing: the mapping stays. -/
theorem not_request_release_restored :
    (∃ hdl t, requestMem (firstRequest 1024) allGood firstManager = some (0, hdl, t) ∧
      ¬Restored firstManager (releaseMem hdl 0 t).2) ∧
    ∃ hdl t, requestMem (firstRequest 33) allGood firstManager = some (0, hdl, t) ∧
      ¬Restored firstManager (releaseMem hdl 0 t).2 :=
  ⟨firstRequest_stays (by decide) (by decide), firstRequest_stays (by decide) (by decide)⟩

end CameraKernel.MemMgrUndo
