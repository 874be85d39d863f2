import CameraKernel.MemMgrMappings

/-! The memory manager allocates a buffer of its own and maps it for the CPU and for the hardware:
who puts the buffer when a step fails. -/
namespace CameraKernel.MemMgr
open Smmu

/-- `CAM_SMMU_MAP_RW`. -/
def mapRw : ℤ := 2

/-- The shared region has precedence. -/
def requestRegion (flags : BitVec 32) : RegionId :=
  if has flags .hwSharedAccess then .shared
  else if has flags .hwReadWrite then .io
  else .shared

/-- The labels `map_fail` and `smmu_fail`. -/
def mapFail (buf : ℕ) : List BufOp := [.put buf]
def smmuFail (buf : ℕ) : List BufOp := .access buf :: mapFail buf

/-- `cam_mem_mgr_request_mem`. -/
def requestMem (s : MgrState) (inp : MemMgrRequestDesc) (env : MgrAnswers) : ℤ × MgrState :=
  if !(has inp.flags .hwReadWrite || has inp.flags .hwSharedAccess || has inp.flags .cache) then
    (-Errno.EINVAL, s)
  else match env.ionAlloc.filter (· != 0) with
  | none => (-Errno.ENOMEM, s)
  | some buf =>
    let smmu := s.smmu.log [.get buf, .access buf]
    let kva := mapCpuVa env.toAnswers
    if kva.1 ≠ 0 then (kva.1, ⟨s.tbl, smmu.log (mapFail buf)⟩)
    else if inp.smmuHdl = 0 then (-Errno.EINVAL, ⟨s.tbl, smmu.log (smmuFail buf)⟩)
    else
      let iova := mapKernelIova inp.smmuHdl buf mapRw (requestRegion inp.flags) (env.smmu 0) smmu
      if iova.1 < 0 then (iova.1, ⟨s.tbl, iova.2.log (smmuFail buf)⟩)
      else match memGetSlot s.tbl with
      | (.error _, tbl) =>
        (-Errno.ENOMEM, ⟨tbl, (unmapKernelIova inp.smmuHdl buf iova.2).2.log (smmuFail buf)⟩)
      | (.ok idx, tbl) =>
        (iova.1, ⟨tbl.setBufq idx { tbl.bufq idx with
          dmaBuf := buf, fd := -1, flags := inp.flags ||| BitVec.twoPow 32 MemFlag.kmdAccess.bit,
          bufHandle := getMemHandle idx (-1), kmdvaddr := kva.2, vaddr := env.hwVaddr,
          len := inp.size, hdls := [inp.smmuHdl], isImported := false }, iova.2⟩)

/-- The mapping of the buffer that is allocated. -/
def requestHw (s : MgrState) (inp : MemMgrRequestDesc) (env : MgrAnswers) : ℤ × SmmuState :=
  let buf := (env.ionAlloc.filter (· != 0)).getD 0
  mapKernelIova inp.smmuHdl buf mapRw (requestRegion inp.flags) (env.smmu 0)
    (s.smmu.log [.get buf, .access buf])

lemma requestMem_table (s : MgrState) (inp : MemMgrRequestDesc) (env : MgrAnswers) :
    (requestMem s inp env).1 = (memMgrRequestMem s.tbl inp { env.toAnswers with
        ionAlloc := env.ionAlloc.filter (· != 0), mapIova := fun _ => (requestHw s inp env).1 }).1 ∧
      (requestMem s inp env).2.tbl = (memMgrRequestMem s.tbl inp { env.toAnswers with
        ionAlloc := env.ionAlloc.filter (· != 0), mapIova := fun _ => (requestHw s inp env).1 }).2.2 := by
  unfold requestHw
  cases hion : env.ionAlloc.filter (· != 0) with
  | none =>
    rw [requestMem, memMgrRequestMem]
    by_cases hflags : (!(has inp.flags .hwReadWrite || has inp.flags .hwSharedAccess ||
        has inp.flags .cache)) = true
    · rw [if_pos hflags, if_pos hflags]
      exact ⟨rfl, rfl⟩
    · rw [if_neg hflags, if_neg hflags, hion]
      exact ⟨rfl, rfl⟩
  | some buf =>
    simp only [Option.getD_some]
    generalize hiova : mapKernelIova inp.smmuHdl buf mapRw (requestRegion inp.flags) (env.smmu 0)
      (s.smmu.log [.get buf, .access buf]) = iova
    rw [requestMem, memMgrRequestMem]
    by_cases hflags : (!(has inp.flags .hwReadWrite || has inp.flags .hwSharedAccess ||
        has inp.flags .cache)) = true
    · rw [if_pos hflags, if_pos hflags]
      exact ⟨rfl, rfl⟩
    rw [if_neg hflags, if_neg hflags]
    simp only [hion, hiova]
    have hkva : mapCpuVa { env.toAnswers with ionAlloc := some buf, mapIova := fun _ => iova.1 } =
      mapCpuVa env.toAnswers := rfl
    rw [hkva]
    by_cases hcpu : (mapCpuVa env.toAnswers).1 ≠ 0
    · rw [if_pos hcpu, if_pos hcpu]
      exact ⟨rfl, rfl⟩
    rw [if_neg hcpu, if_neg hcpu]
    by_cases hhdl : inp.smmuHdl = 0
    · rw [if_pos hhdl, if_pos hhdl]
      exact ⟨rfl, rfl⟩
    rw [if_neg hhdl, if_neg hhdl]
    by_cases hrc : iova.1 < 0
    · rw [if_pos hrc, if_pos hrc]
      exact ⟨rfl, rfl⟩
    rw [if_neg hrc, if_neg hrc]
    cases memGetSlot s.tbl with
    | mk slot tbl =>
      cases slot with
      | error rc => exact ⟨rfl, rfl⟩
      | ok idx => exact ⟨rfl, rfl⟩

/-- Put once when the call fails, else not at all, and not used behind the last put. -/
structure Balanced (rc : ℤ) (buf : ℕ) (ops : List BufOp) : Prop where
  puts : ops.count (.put buf) = if rc = 0 then 0 else 1
  uses : ∀ before behind, ops = before ++ BufOp.put buf :: behind → .put buf ∉ behind → .access buf ∉ behind

/-- What the call does to the buffer it allocates is balanced. -/
def RefBalanced (s : MgrState) (inp : MemMgrRequestDesc) (env : MgrAnswers) : Prop :=
  ∃ ops, (requestMem s inp env).2.smmu.ops = s.smmu.ops ++ ops ∧
    ∀ buf, .get buf ∈ ops → Balanced (requestMem s inp env).1 buf ops

/-- Every bit is set, or the first clear bit is that of slot 0, which is no slot. -/
def NoFreeSlot (tbl : MemTable) : Prop :=
  tbl.bitmap 0 = false ∨ ∀ i < bufqMax, tbl.bitmap i = true

/-- `cam_smmu_map_kernel_iova` gets to `cam_smmu_map_buffer_validate`. -/
structure KernelReady (handle : BitVec 32) (buf : ℕ) (dir : ℤ) (s : SmmuState) : Prop where
  params : mapIovaValidateParams handle dir s = 0
  plain : (s.cbInfo (getSmmuTableIdx handle)).isSecure = false
  own : (s.cbInfo (getSmmuTableIdx handle)).handle = handle
  attached : (s.cbInfo (getSmmuTableIdx handle)).attached = true
  fresh : (s.cbInfo (getSmmuTableIdx handle)).smmuBufKernelList.find? (·.buf == buf) = none

/-- The request is valid up to `cam_smmu_map_buffer_validate`. -/
structure HandsOver (s : MgrState) (inp : MemMgrRequestDesc) (env : MgrAnswers) (buf : ℕ) : Prop where
  flags : (has inp.flags .hwReadWrite || has inp.flags .hwSharedAccess || has inp.flags .cache) = true
  alloc : env.ionAlloc = some buf
  notNull : buf ≠ 0
  cpu : env.beginCpuAccess = 0
  kmap : env.kmap.isSome = true
  hdl : inp.smmuHdl ≠ 0
  ready : KernelReady inp.smmuHdl buf mapRw s.smmu

lemma memGetSlot_error {tbl : MemTable} (h : NoFreeSlot tbl) :
    ∃ rc, memGetSlot tbl = (.error rc, tbl) := by
  unfold memGetSlot
  split
  · exact ⟨_, rfl⟩
  · rename_i idx hidx
    obtain ⟨hlt, hclear⟩ := Bitmap.findFirstZeroBit_some hidx
    rcases h with hzero | hfull
    · have hfirst : idx = 0 := by
        rw [Bitmap.findFirstZeroBit, List.find?_range_eq_some] at hidx
        by_contra hne
        simpa [hzero] using hidx.2.2 0 (Nat.pos_of_ne_zero hne)
      exact ⟨_, if_pos hfirst⟩
    · rw [hfull idx hlt] at hclear
      cases hclear

lemma memGetSlot_ok {tbl : MemTable} (h : ¬NoFreeSlot tbl) :
    ∃ idx tbl', memGetSlot tbl = (.ok idx, tbl') := by
  rw [NoFreeSlot, not_or, not_forall] at h
  obtain ⟨hzero, i, hi⟩ := h
  unfold memGetSlot
  split
  · rename_i hnone
    rw [Bitmap.findFirstZeroBit, List.find?_eq_none] at hnone
    exact absurd (fun hlt => by simpa using hnone i (List.mem_range.mpr hlt)) hi
  · rename_i idx hidx
    have hne : idx ≠ 0 := by
      rintro rfl
      exact hzero (Bitmap.findFirstZeroBit_some hidx).2
    exact ⟨idx, _, if_neg hne⟩

lemma mapKernelIova_unready {handle : BitVec 32} {buf : ℕ} {dir : ℤ} {s : SmmuState}
    (h : ¬KernelReady handle buf dir s) (region : RegionId) (env : MapAnswers) :
    ∃ rc < 0, mapKernelIova handle buf dir region env s = (rc, s) := by
  have hinval : -Errno.EINVAL < 0 := by decide
  have halready : -Errno.EALREADY < 0 := by decide
  rw [mapKernelIova]
  split_ifs with hbad hsecure hhandle hattached hthere
  · exact ⟨_, mapIovaValidateParams_neg hbad, rfl⟩
  · exact ⟨_, hinval, rfl⟩
  · exact ⟨_, hinval, rfl⟩
  · exact ⟨_, hinval, rfl⟩
  · exact ⟨_, halready, rfl⟩
  · exact absurd ⟨not_not.mp hbad, by simpa using hsecure, not_not.mp hhandle, by simpa using hattached,
      by simpa using hthere⟩ h

lemma mapKernelIova_ready {handle : BitVec 32} {buf : ℕ} {dir : ℤ} {s : SmmuState}
    (h : KernelReady handle buf dir s) (region : RegionId) (env : MapAnswers) :
    mapKernelIova handle buf dir region env s =
      mapKernelBufferAndAddToList (getSmmuTableIdx handle) buf region env s := by
  simp only [mapKernelIova, h.params, h.plain, h.own, h.attached, h.fresh, ne_eq, not_true_eq_false,
    Bool.not_true, Bool.false_eq_true, Option.isSome_none, if_false]

lemma mapKernelIova_refused {handle : BitVec 32} {buf : ℕ} {dir : ℤ} {s : SmmuState}
    {region : RegionId} {env : MapAnswers} (h : KernelReady handle buf dir s)
    (hrefuse : refusesBuffer region env = true) : ∃ rc n, rc < 0 ∧
      mapKernelIova handle buf dir region env s =
        (rc, s.log (List.replicate n (BufOp.access buf) ++ [BufOp.put buf])) := by
  rw [mapKernelIova_ready h, mapKernelBufferAndAddToList]
  rcases mapBufferValidate_cases buf region env s with ⟨-, rc, n, hrc, heq⟩ | ⟨haccept, -⟩
  · rw [heq]
    exact ⟨rc, n, hrc, rfl⟩
  · rw [haccept] at hrefuse
    cases hrefuse

lemma mapKernelIova_taken {handle : BitVec 32} {buf : ℕ} {dir : ℤ} {s : SmmuState}
    {region : RegionId} {env : MapAnswers} (h : KernelReady handle buf dir s)
    (haccept : refusesBuffer region env = false) (hbuf : buf ≠ 0) :
    ∃ t, mapKernelIova handle buf dir region env s = (0, t) ∧
      t.ops = s.ops ++ [BufOp.access buf, .access buf] ∧
      (unmapKernelIova handle buf t).2.ops = t.ops ++ unmapBuf buf := by
  rw [mapKernelIova_ready h, mapKernelBufferAndAddToList]
  rcases mapBufferValidate_cases buf region env s with ⟨hrefuse, -⟩ | ⟨-, heq⟩
  · rw [hrefuse] at haccept
    cases haccept
  · rw [heq]
    refine ⟨_, rfl, by simp, ?_⟩
    have hparams : unmapValidateParams handle s = 0 := by
      have hmapped := h.params
      revert hmapped
      unfold unmapValidateParams mapIovaValidateParams
      split_ifs <;> simp_all
    have hlogged : ∀ bank, unmapValidateParams handle
        ((s.log [.access buf, .access buf]).setBank (getSmmuTableIdx handle) bank) = 0 := fun _ => hparams
    simp [unmapKernelIova, hlogged, h.plain, h.own, hbuf]

/-- How a request ends, with what it does to its buffer. -/
inductive RequestEnd (s : MgrState) (inp : MemMgrRequestDesc) (env : MgrAnswers) : ℤ → List BufOp → Prop
  | noBuffer {rc : ℤ} (hnone : ∀ buf, ¬HandsOver s inp env buf) : RequestEnd s inp env rc []
  | early {rc : ℤ} {buf n : ℕ} (hbuf : env.ionAlloc = some buf) (hrc : rc ≠ 0)
      (hearly : ¬HandsOver s inp env buf) :
      RequestEnd s inp env rc (.get buf :: (List.replicate n (BufOp.access buf) ++ [BufOp.put buf]))
  | late {rc : ℤ} {buf n : ℕ} (hrc : rc ≠ 0) (hover : HandsOver s inp env buf)
      (hlate : refusesBuffer (requestRegion inp.flags) (env.smmu 0) = true ∨ NoFreeSlot s.tbl) :
      RequestEnd s inp env rc
        (.get buf :: (List.replicate n (BufOp.access buf) ++ [BufOp.put buf] ++ [BufOp.access buf, .put buf]))
  | done {buf n : ℕ} (hover : HandsOver s inp env buf)
      (haccept : refusesBuffer (requestRegion inp.flags) (env.smmu 0) = false)
      (hslot : ¬NoFreeSlot s.tbl) :
      RequestEnd s inp env 0 (.get buf :: List.replicate n (BufOp.access buf))

lemma mapCpuVa_eq_zero {env : Answers} :
    (mapCpuVa env).1 = 0 ↔ env.beginCpuAccess = 0 ∧ env.kmap.isSome = true := by
  have hnospc : -Errno.ENOSPC ≠ 0 := by decide
  rw [mapCpuVa]
  by_cases hbegin : env.beginCpuAccess = 0
  · rw [if_neg (not_not.mpr hbegin)]
    cases env.kmap with
    | none => simp [hnospc]
    | some addr => simp [hbegin]
  · simp [hbegin]

lemma kernelReady_log {handle : BitVec 32} {buf : ℕ} {dir : ℤ} {s : SmmuState} {ops : List BufOp} :
    KernelReady handle buf dir (s.log ops) ↔ KernelReady handle buf dir s :=
  ⟨fun h => ⟨h.params, h.plain, h.own, h.attached, h.fresh⟩,
    fun h => ⟨h.params, h.plain, h.own, h.attached, h.fresh⟩⟩

lemma requestMem_end (s : MgrState) (inp : MemMgrRequestDesc) (env : MgrAnswers) :
    ∃ ops, (requestMem s inp env).2.smmu.ops = s.smmu.ops ++ ops ∧
      RequestEnd s inp env (requestMem s inp env).1 ops := by
  have hinval : -Errno.EINVAL ≠ 0 := by decide
  have hnomem : -Errno.ENOMEM ≠ 0 := by decide
  rw [requestMem]
  by_cases hflags : (!(has inp.flags .hwReadWrite || has inp.flags .hwSharedAccess ||
      has inp.flags .cache)) = true
  · rw [if_pos hflags]
    refine ⟨[], (List.append_nil _).symm, .noBuffer fun buf h => ?_⟩
    rw [h.flags] at hflags
    cases hflags
  rw [if_neg hflags]
  cases hion : env.ionAlloc.filter (· != 0) with
  | none =>
    refine ⟨[], (List.append_nil _).symm, .noBuffer fun buf h => ?_⟩
    rw [Option.filter_eq_none_iff] at hion
    exact hion buf h.alloc (by simpa using h.notNull)
  | some buf =>
    obtain ⟨halloc, hnull⟩ : env.ionAlloc = some buf ∧ buf ≠ 0 := by
      simpa [Option.filter_eq_some_iff] using hion
    dsimp only
    by_cases hcpu : (mapCpuVa env.toAnswers).1 ≠ 0
    · rw [if_pos hcpu]
      refine ⟨_, by simp [mapFail], .early (n := 1) halloc hcpu fun h => hcpu ?_⟩
      exact mapCpuVa_eq_zero.mpr ⟨h.cpu, h.kmap⟩
    rw [if_neg hcpu]
    by_cases hhdl : inp.smmuHdl = 0
    · rw [if_pos hhdl]
      exact ⟨_, by simp [smmuFail, mapFail], .early (n := 2) halloc hinval fun h => h.hdl hhdl⟩
    rw [if_neg hhdl]
    by_cases hready : KernelReady inp.smmuHdl buf mapRw s.smmu
    · obtain ⟨hbegin, hkmap⟩ := mapCpuVa_eq_zero.mp (not_not.mp hcpu)
      have hover : HandsOver s inp env buf :=
        ⟨Bool.not_eq_false _ |>.mp fun h => hflags (by rw [h]; rfl), halloc, hnull, hbegin, hkmap, hhdl, hready⟩
      cases hvalid : refusesBuffer (requestRegion inp.flags) (env.smmu 0) with
      | true =>
        obtain ⟨rc, n, hrc, heq⟩ := mapKernelIova_refused (kernelReady_log.mpr hready) hvalid
        rw [heq]
        dsimp only
        rw [if_pos hrc]
        refine ⟨_, ?_, .late (n := n + 1) hrc.ne hover (.inl hvalid)⟩
        simp [smmuFail, mapFail, List.replicate_succ]
      | false =>
        obtain ⟨t, heq, hops, hundo⟩ := mapKernelIova_taken (kernelReady_log.mpr hready) hvalid hnull
        rw [heq]
        dsimp only
        rw [if_neg (lt_irrefl 0)]
        by_cases hslot : NoFreeSlot s.tbl
        · obtain ⟨rc, hget⟩ := memGetSlot_error hslot
          simp only [hget, log_ops, hundo, hops]
          refine ⟨_, ?_, .late (n := 5) hnomem hover (.inr hslot)⟩
          simp [unmapBuf, smmuFail, mapFail, List.replicate_succ]
        · obtain ⟨idx, tbl, hget⟩ := memGetSlot_ok hslot
          simp only [hget, hops]
          refine ⟨_, ?_, .done (n := 3) hover hvalid hslot⟩
          simp [List.replicate_succ]
    · obtain ⟨rc, hrc, heq⟩ := mapKernelIova_unready (mt kernelReady_log.mp hready)
        (requestRegion inp.flags) (env.smmu 0)
      rw [heq]
      dsimp only
      rw [if_pos hrc]
      exact ⟨_, by simp [smmuFail, mapFail], .early (n := 2) halloc hrc.ne fun h => hready h.ready⟩

lemma balanced_once {rc : ℤ} {buf n : ℕ} (hrc : rc ≠ 0) :
    Balanced rc buf (.get buf :: (List.replicate n (BufOp.access buf) ++ [BufOp.put buf])) := by
  refine ⟨by simp [hrc, List.count_replicate], fun before behind heq hput => ?_⟩
  -- the put is the last operation
  rcases List.eq_nil_or_concat behind with rfl | ⟨ops, op, rfl⟩
  · exact List.not_mem_nil
  · have hlast := congrArg List.getLast? heq
    rw [← List.cons_append, List.getLast?_concat, List.concat_eq_append, ← List.cons_append,
      ← List.append_assoc, List.getLast?_concat, Option.some.injEq] at hlast
    exact absurd (by simp [hlast]) hput

lemma balanced_kept {buf n : ℕ} : Balanced 0 buf (.get buf :: List.replicate n (BufOp.access buf)) := by
  have hnone : BufOp.put buf ∉ BufOp.get buf :: List.replicate n (BufOp.access buf) := by
    simp [List.mem_replicate]
  refine ⟨List.count_eq_zero.mpr hnone, fun before behind heq => absurd ?_ hnone⟩
  rw [heq]
  simp

/-- The call leaves its buffer balanced unless `cam_smmu_map_buffer_validate` fails, or there is no
slot behind it. -/
theorem requestMem_balanced_iff (s : MgrState) (inp : MemMgrRequestDesc) (env : MgrAnswers) :
    RefBalanced s inp env ↔ ∀ buf, HandsOver s inp env buf →
      refusesBuffer (requestRegion inp.flags) (env.smmu 0) = false ∧ ¬NoFreeSlot s.tbl := by
  obtain ⟨ops, hops, hend⟩ := requestMem_end s inp env
  have hthese : RefBalanced s inp env ↔
      ∀ buf, .get buf ∈ ops → Balanced (requestMem s inp env).1 buf ops := by
    refine ⟨?_, fun hall => ⟨ops, hops, hall⟩⟩
    rintro ⟨ops', hops', hall⟩
    rw [hops] at hops'
    rwa [List.append_cancel_left hops']
  rw [hthese]
  generalize (requestMem s inp env).1 = rc at hend
  cases hend with
  | noBuffer hnone => exact iff_of_true (by simp) fun buf hover => absurd hover (hnone buf)
  | @early rc buf n halloc hrc hearly =>
    refine iff_of_true (fun got hgot => ?_) fun other hover => ?_
    · obtain rfl : got = buf := by simpa using hgot
      exact balanced_once hrc
    · obtain rfl : other = buf := Option.some.inj (hover.alloc.symm.trans halloc)
      exact absurd hover hearly
  | @late rc buf n hrc hover hlate =>
    refine iff_of_false (fun hall => ?_) fun hall => ?_
    · have hputs := (hall buf (by simp)).puts
      rw [if_neg hrc] at hputs
      simp [List.count_replicate] at hputs
    · obtain ⟨haccept, hslot⟩ := hall buf hover
      rcases hlate with hrefuse | hfull
      · rw [haccept] at hrefuse
        cases hrefuse
      · exact hslot hfull
  | @done buf n hover haccept hslot =>
    refine iff_of_true (fun got hgot => ?_) fun _ _ => ⟨haccept, hslot⟩
    obtain rfl : got = buf := by simpa using hgot
    exact balanced_kept

/-- The first request of a fresh manager; the device cannot be attached to the buffer. -/
theorem requestMem_putsTwice :
    ¬∀ (s : MgrState) (inp : MemMgrRequestDesc) (env : MgrAnswers), RefBalanced s inp env := by
  intro hall
  obtain ⟨ops, hops, hbalanced⟩ := hall firstState ⟨4096, 0x1234, 1⟩
    { noCpuAccess with
      beginCpuAccess := 0, kmap := some 65536
      smmu := fun _ => { goodAnswers with attach := some ⟨-Errno.ENOMEM, by decide⟩ } }
  obtain rfl : ops = [.get 9, .access 9, .access 9, .put 9, .access 9, .put 9] := hops.symm
  have hputs := (hbalanced 9 (by decide)).puts
  revert hputs
  decide

end CameraKernel.MemMgr
