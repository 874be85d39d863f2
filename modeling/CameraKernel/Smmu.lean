import CameraKernel.MemMgr

/-! The SMMU layer below the memory manager: context banks, the buffers mapped into each, and what
mapping and unmapping do to the dma-bufs. What dma-buf, the IOMMU and the allocator answer is an
argument of the calls. -/
namespace CameraKernel.Smmu

/-- The code in an error pointer. -/
abbrev ErrCode := {rc : ℤ // rc < 0}

inductive RegionId
  | shared
  | io
  | secheap
  deriving DecidableEq, Repr

/-- `struct cam_dma_buff_info` and `struct cam_sec_buff_info`; a kernel buffer has no descriptor. -/
structure Mapping where
  ionFd : BitVec 32
  buf : ℕ
  refCount : ℤ
  paddr : ℕ
  len : ℕ
  deriving DecidableEq, Repr

structure ContextBank where
  handle : BitVec 32
  isSecure : Bool
  attached : Bool
  smmuBufList : List Mapping
  smmuBufKernelList : List Mapping
  deriving DecidableEq, Repr

/-- What is done to a dma-buf: a reference taken or given back, or any use of it. -/
inductive BufOp
  | get (buf : ℕ)
  | put (buf : ℕ)
  | access (buf : ℕ)
  deriving DecidableEq, Repr

/-- The context banks, with the log of what was done to dma-bufs. -/
structure SmmuState where
  cbNum : ℕ
  cbInfo : ℕ → ContextBank
  ops : List BufOp

def SmmuState.log (s : SmmuState) (ops : List BufOp) : SmmuState := { s with ops := s.ops ++ ops }

def SmmuState.setBank (s : SmmuState) (idx : ℕ) (bank : ContextBank) : SmmuState :=
  { s with cbInfo := Function.update s.cbInfo idx bank }

def handleInit : BitVec 32 := -1

def getSmmuTableIdx (handle : BitVec 32) : ℕ := (handle >>> 16).toNat

/-- `cam_smmu_translate_dir` knows three directions. -/
def translates (dir : ℤ) : Bool := 0 ≤ dir && dir ≤ 2

/-- The answers to one mapping: errors of `dma_buf_get`, `dma_buf_attach` and `dma_buf_map_attachment`,
the code of the IOVA allocator, whether the table has entries and there is memory for the mapping,
and the address and length. -/
structure MapAnswers where
  dmaBufGet : Except ErrCode ℕ
  attach : Option ErrCode
  table : Option ErrCode
  allocIova : ℤ
  sgl : Bool
  mappingInfo : Bool
  paddr : ℕ
  len : ℕ

/-- The labels `err_put`, `err_detach` and `err_unmap_sg`. -/
def errPut (buf : ℕ) : List BufOp := [.put buf]
def errDetach (buf : ℕ) : List BufOp := .access buf :: errPut buf
def errUnmapSg (buf : ℕ) : List BufOp := .access buf :: errDetach buf

/-- `cam_smmu_map_buffer_validate`, which puts the buffer when it fails. -/
def mapBufferValidate (buf : ℕ) (region : RegionId) (env : MapAnswers) (s : SmmuState) :
    Except ℤ (ℕ × ℕ) × SmmuState :=
  let s := s.log [.access buf]
  match env.attach with
  | some rc => (.error rc, s.log (errPut buf))
  | none =>
    if region = .secheap then (.error (-Errno.EINVAL), s.log (errUnmapSg buf))
    else
      let s := s.log [.access buf]
      match env.table with
      | some rc => (.error rc, s.log (errDetach buf))
      | none =>
        if region = .shared ∧ env.allocIova < 0 then (.error env.allocIova, s.log (errUnmapSg buf))
        else if !env.sgl then (.error (-Errno.EINVAL), s.log (errUnmapSg buf))
        else if !env.mappingInfo then (.error (-Errno.ENOSPC), s.log (errUnmapSg buf))
        else if env.paddr = 0 ∨ env.len = 0 then (.error (-Errno.ENOSPC), s.log (errUnmapSg buf))
        else (.ok (env.paddr, env.len), s)

def mapBufferAndAddToList (idx : ℕ) (ionFd : BitVec 32) (region : RegionId) (env : MapAnswers)
    (s : SmmuState) : ℤ × SmmuState :=
  match env.dmaBufGet with
  | .error rc => (rc, s)
  | .ok buf =>
    match mapBufferValidate buf region env (s.log [.get buf]) with
    | (.error rc, s) => (rc, s)
    | (.ok (paddr, len), s) =>
      let bank := s.cbInfo idx
      (0, s.setBank idx { bank with smmuBufList := ⟨ionFd, buf, 1, paddr, len⟩ :: bank.smmuBufList })

def mapKernelBufferAndAddToList (idx buf : ℕ) (region : RegionId) (env : MapAnswers)
    (s : SmmuState) : ℤ × SmmuState :=
  match mapBufferValidate buf region env s with
  | (.error rc, s) => (rc, s)
  | (.ok (paddr, len), s) =>
    let bank := s.cbInfo idx
    (0, s.setBank idx
      { bank with smmuBufKernelList := ⟨-1, buf, 1, paddr, len⟩ :: bank.smmuBufKernelList })

/-- `cam_smmu_map_stage2_buffer_and_add_to_list`. -/
def mapStage2BufferAndAddToList (idx : ℕ) (ionFd : BitVec 32) (env : MapAnswers) (s : SmmuState) :
    ℤ × SmmuState :=
  match env.dmaBufGet with
  | .error rc => (rc, s)
  | .ok buf =>
    let s := s.log [.get buf, .access buf]
    match env.attach with
    | some rc => (rc, s.log (errPut buf))
    | none =>
      let s := s.log [.access buf]
      match env.table with
      | some rc => (rc, s.log (errDetach buf))
      | none =>
        if !env.mappingInfo then (-Errno.ENOMEM, s.log (errUnmapSg buf))
        else
          let bank := s.cbInfo idx
          (0, s.setBank idx
            { bank with smmuBufList := ⟨ionFd, buf, 1, env.paddr, env.len⟩ :: bank.smmuBufList })

def mapIovaValidateParams (handle : BitVec 32) (dir : ℤ) (s : SmmuState) : ℤ :=
  if handle = handleInit then -Errno.EINVAL
  else if !translates dir then -Errno.EINVAL
  else if getSmmuTableIdx handle ≥ s.cbNum then -Errno.EINVAL
  else 0

def mapUserIova (handle ionFd : BitVec 32) (dir : ℤ) (region : RegionId) (env : MapAnswers)
    (s : SmmuState) : ℤ × SmmuState :=
  let idx := getSmmuTableIdx handle
  if mapIovaValidateParams handle dir s ≠ 0 then (mapIovaValidateParams handle dir s, s)
  else if (s.cbInfo idx).isSecure then (-Errno.EINVAL, s)
  else if (s.cbInfo idx).handle ≠ handle then (-Errno.EINVAL, s)
  else if !(s.cbInfo idx).attached then (-Errno.EINVAL, s)
  else if ((s.cbInfo idx).smmuBufList.find? (·.ionFd == ionFd)).isSome then (-Errno.EALREADY, s)
  else mapBufferAndAddToList idx ionFd region env s

def mapKernelIova (handle : BitVec 32) (buf : ℕ) (dir : ℤ) (region : RegionId) (env : MapAnswers)
    (s : SmmuState) : ℤ × SmmuState :=
  let idx := getSmmuTableIdx handle
  if mapIovaValidateParams handle dir s ≠ 0 then (mapIovaValidateParams handle dir s, s)
  else if (s.cbInfo idx).isSecure then (-Errno.EINVAL, s)
  else if (s.cbInfo idx).handle ≠ handle then (-Errno.EINVAL, s)
  else if !(s.cbInfo idx).attached then (-Errno.EINVAL, s)
  else if ((s.cbInfo idx).smmuBufKernelList.find? (·.buf == buf)).isSome then (-Errno.EALREADY, s)
  else mapKernelBufferAndAddToList idx buf region env s

/-- Replace the first mapping of a descriptor. -/
def ContextBank.setRefCount (bank : ContextBank) (ionFd : BitVec 32) (refCount : ℤ) : ContextBank :=
  { bank with smmuBufList := bank.smmuBufList.replaceF fun m =>
      if m.ionFd = ionFd then some { m with refCount := refCount } else none }

def mapStage2Iova (handle ionFd : BitVec 32) (dir : ℤ) (env : MapAnswers) (s : SmmuState) :
    ℤ × SmmuState :=
  let idx := getSmmuTableIdx handle
  if !translates dir then (-Errno.EINVAL, s)
  else if handle = handleInit ∨ idx ≥ s.cbNum then (-Errno.EINVAL, s)
  else if !(s.cbInfo idx).isSecure then (-Errno.EINVAL, s)
  else if (s.cbInfo idx).handle ≠ handle then (-Errno.EINVAL, s)
  else match (s.cbInfo idx).smmuBufList.find? (·.ionFd == ionFd) with
    | some m => (0, s.setBank idx ((s.cbInfo idx).setRefCount ionFd (m.refCount + 1)))
    | none => mapStage2BufferAndAddToList idx ionFd env s

def unmapValidateParams (handle : BitVec 32) (s : SmmuState) : ℤ :=
  if handle = handleInit then -Errno.EINVAL
  else if getSmmuTableIdx handle ≥ s.cbNum then -Errno.EINVAL
  else 0

/-- What `cam_smmu_unmap_buf_and_remove_from_list` does to the buffer. -/
def unmapBuf (buf : ℕ) : List BufOp := [.access buf, .access buf, .put buf]

def unmapUserIova (handle ionFd : BitVec 32) (s : SmmuState) : ℤ × SmmuState :=
  let idx := getSmmuTableIdx handle
  if unmapValidateParams handle s ≠ 0 then (unmapValidateParams handle s, s)
  else if (s.cbInfo idx).isSecure then (-Errno.EINVAL, s)
  else if (s.cbInfo idx).handle ≠ handle then (-Errno.EINVAL, s)
  else if ionFd.toInt < 0 then (-Errno.EINVAL, s)
  else match (s.cbInfo idx).smmuBufList.find? (·.ionFd == ionFd) with
    | none => (-Errno.EINVAL, s)
    | some m => (0, (s.setBank idx { s.cbInfo idx with
        smmuBufList := (s.cbInfo idx).smmuBufList.eraseP (·.ionFd == ionFd) }).log (unmapBuf m.buf))

def unmapKernelIova (handle : BitVec 32) (buf : ℕ) (s : SmmuState) : ℤ × SmmuState :=
  let idx := getSmmuTableIdx handle
  if unmapValidateParams handle s ≠ 0 then (unmapValidateParams handle s, s)
  else if (s.cbInfo idx).isSecure then (-Errno.EINVAL, s)
  else if (s.cbInfo idx).handle ≠ handle then (-Errno.EINVAL, s)
  else if buf = 0 then (-Errno.EINVAL, s)
  else match (s.cbInfo idx).smmuBufKernelList.find? (·.buf == buf) with
    | none => (-Errno.EINVAL, s)
    | some m => (0, (s.setBank idx { s.cbInfo idx with
        smmuBufKernelList := (s.cbInfo idx).smmuBufKernelList.eraseP (·.buf == buf) }).log
          (unmapBuf m.buf))

def unmapStage2Iova (handle ionFd : BitVec 32) (s : SmmuState) : ℤ × SmmuState :=
  let idx := getSmmuTableIdx handle
  if handle = handleInit ∨ idx ≥ s.cbNum then (-Errno.EINVAL, s)
  else if !(s.cbInfo idx).isSecure then (-Errno.EINVAL, s)
  else if (s.cbInfo idx).handle ≠ handle then (-Errno.EINVAL, s)
  else match (s.cbInfo idx).smmuBufList.find? (·.ionFd == ionFd) with
    | none => (-Errno.EINVAL, s)
    | some m =>
      if m.refCount - 1 > 0 then
        (0, s.setBank idx ((s.cbInfo idx).setRefCount ionFd (m.refCount - 1)))
      else (0, (s.setBank idx { s.cbInfo idx with
        smmuBufList := (s.cbInfo idx).smmuBufList.eraseP (·.ionFd == ionFd) }).log [.put m.buf])

section Sums
variable {α : Type*} {p : α → Bool} {g : α → ℤ} {l : List α} {a : α}

/-- The sum over the elements with a property. -/
def sumOver (p : α → Bool) (g : α → ℤ) (l : List α) : ℤ := ((l.filter p).map g).sum

lemma sumOver_cons_of_pos (h : p a = true) : sumOver p g (a :: l) = g a + sumOver p g l := by
  simp [sumOver, h]

lemma sumOver_cons_of_neg (h : p a = false) : sumOver p g (a :: l) = sumOver p g l := by
  simp [sumOver, h]

lemma sumOver_eraseP (h : l.find? p = some a) : sumOver p g (l.eraseP p) = sumOver p g l - g a := by
  induction l with
  | nil => simp at h
  | cons b l ih =>
    cases hb : p b with
    | true =>
      rw [List.find?_cons_of_pos hb, Option.some.injEq] at h
      rw [List.eraseP_cons_of_pos hb, sumOver_cons_of_pos hb, h]
      ring
    | false =>
      rw [List.find?_cons_of_neg (by simp [hb])] at h
      rw [List.eraseP_cons_of_neg (by simp [hb]), sumOver_cons_of_neg hb, sumOver_cons_of_neg hb, ih h]

lemma sumOver_replaceF {f : α → Option α} (hf : ∀ b, p b = (f b).isSome)
    (hkeep : ∀ b c, f b = some c → p c = true) {c : α} (h : l.find? p = some a) (hc : f a = some c) :
    sumOver p g (l.replaceF f) = sumOver p g l - g a + g c := by
  induction l with
  | nil => simp at h
  | cons b l ih =>
    cases hb : p b with
    | true =>
      rw [List.find?_cons_of_pos hb, Option.some.injEq] at h
      rw [h, List.replaceF_cons_of_some _ hc, sumOver_cons_of_pos (hkeep _ _ hc),
        sumOver_cons_of_pos (h ▸ hb)]
      ring
    | false =>
      have hnone : f b = none := by simpa [hb] using (hf b).symm
      rw [List.find?_cons_of_neg (by simp [hb])] at h
      rw [List.replaceF_cons_of_none _ hnone, sumOver_cons_of_neg hb, sumOver_cons_of_neg hb, ih h]

end Sums

/-- How often a descriptor is mapped into a bank: the count of its mapping in a secure bank, the
number of its mappings in another. -/
def ContextBank.holds (bank : ContextBank) (ionFd : BitVec 32) : ℤ :=
  sumOver (·.ionFd == ionFd) (fun m => if bank.isSecure then m.refCount else 1) bank.smmuBufList

variable {s : SmmuState} {env : MapAnswers} {handle ionFd : BitVec 32} {buf idx : ℕ} {dir : ℤ}
  {region : RegionId}

@[simp] lemma log_cbInfo (ops : List BufOp) : (s.log ops).cbInfo = s.cbInfo := rfl

@[simp] lemma log_ops (ops : List BufOp) : (s.log ops).ops = s.ops ++ ops := rfl

@[simp] lemma setBank_cbInfo (bank : ContextBank) :
    (s.setBank idx bank).cbInfo = Function.update s.cbInfo idx bank := rfl

@[simp] lemma setBank_ops (bank : ContextBank) : (s.setBank idx bank).ops = s.ops := rfl

@[simp] lemma log_log (xs ys : List BufOp) : (s.log xs).log ys = s.log (xs ++ ys) := by
  simp [SmmuState.log, List.append_assoc]

/-- One of the steps of `cam_smmu_map_buffer_validate` fails. -/
def refusesBuffer (region : RegionId) (env : MapAnswers) : Bool :=
  env.attach.isSome || region == .secheap || env.table.isSome ||
    (region == .shared && decide (env.allocIova < 0)) || !env.sgl || !env.mappingInfo ||
    env.paddr == 0 || env.len == 0

lemma mapBufferValidate_cases (buf : ℕ) (region : RegionId) (env : MapAnswers) (s : SmmuState) :
    (refusesBuffer region env = true ∧ ∃ rc n, rc < 0 ∧ mapBufferValidate buf region env s =
        (.error rc, s.log (List.replicate n (BufOp.access buf) ++ [BufOp.put buf]))) ∨
      (refusesBuffer region env = false ∧ mapBufferValidate buf region env s =
        (.ok (env.paddr, env.len), s.log [.access buf, .access buf])) := by
  have hinval : -Errno.EINVAL < 0 := by decide
  have hnospc : -Errno.ENOSPC < 0 := by decide
  rw [mapBufferValidate]
  cases hattach : env.attach with
  | some rc => exact .inl ⟨by simp [refusesBuffer, hattach], rc, 1, rc.2, by simp [errPut]⟩
  | none =>
    by_cases hheap : region = .secheap
    · exact .inl ⟨by simp [refusesBuffer, hheap], -Errno.EINVAL, 3, hinval,
        by simp [hheap, errUnmapSg, errDetach, errPut]⟩
    simp only [if_neg hheap]
    cases htable : env.table with
    | some rc =>
      exact .inl ⟨by simp [refusesBuffer, htable], rc, 3, rc.2, by simp [errDetach, errPut]⟩
    | none =>
      simp only
      split_ifs with hiova hsgl hinfo hzero
      · exact .inl ⟨by simp [refusesBuffer, hiova], _, 4, hiova.2,
          by simp [errUnmapSg, errDetach, errPut]⟩
      · exact .inl ⟨by simp [refusesBuffer, hsgl], _, 4, hinval,
          by simp [errUnmapSg, errDetach, errPut]⟩
      · exact .inl ⟨by simp [refusesBuffer, hinfo], _, 4, hnospc,
          by simp [errUnmapSg, errDetach, errPut]⟩
      · refine .inl ⟨?_, _, 4, hnospc, by simp [errUnmapSg, errDetach, errPut]⟩
        rcases hzero with hzero | hzero <;> simp [refusesBuffer, hzero]
      · refine .inr ⟨?_, by simp⟩
        simp_all [refusesBuffer]

lemma mapIovaValidateParams_neg {handle : BitVec 32} {dir : ℤ} {s : SmmuState}
    (h : mapIovaValidateParams handle dir s ≠ 0) : mapIovaValidateParams handle dir s < 0 := by
  have hinval : -Errno.EINVAL < 0 := by decide
  revert h
  unfold mapIovaValidateParams
  split_ifs
  · exact fun _ => hinval
  · exact fun _ => hinval
  · exact fun _ => hinval
  · exact fun h => absurd rfl h

lemma mapUserIova_cases (handle ionFd : BitVec 32) (dir : ℤ) (region : RegionId) (env : MapAnswers)
    (s : SmmuState) :
    ((mapUserIova handle ionFd dir region env s).1 < 0 ∧
        (mapUserIova handle ionFd dir region env s).2.cbInfo = s.cbInfo) ∨
      ((mapUserIova handle ionFd dir region env s).1 = 0 ∧
        (s.cbInfo (getSmmuTableIdx handle)).isSecure = false ∧ ∃ m : Mapping, m.ionFd = ionFd ∧
          (mapUserIova handle ionFd dir region env s).2.cbInfo =
            Function.update s.cbInfo (getSmmuTableIdx handle) { s.cbInfo (getSmmuTableIdx handle) with
              smmuBufList := m :: (s.cbInfo (getSmmuTableIdx handle)).smmuBufList }) := by
  have hinval : -Errno.EINVAL < 0 := by decide
  have halready : -Errno.EALREADY < 0 := by decide
  obtain ⟨r, hr⟩ : ∃ r, mapUserIova handle ionFd dir region env s = r := ⟨_, rfl⟩
  rw [hr]
  rw [mapUserIova] at hr
  split_ifs at hr with hbad hsecure hhandle hattached hthere <;> subst hr
  · exact .inl ⟨mapIovaValidateParams_neg hbad, rfl⟩
  · exact .inl ⟨hinval, rfl⟩
  · exact .inl ⟨hinval, rfl⟩
  · exact .inl ⟨hinval, rfl⟩
  · exact .inl ⟨halready, rfl⟩
  · rw [mapBufferAndAddToList]
    cases env.dmaBufGet with
    | error rc => exact .inl ⟨rc.2, rfl⟩
    | ok buf =>
      simp only
      rcases mapBufferValidate_cases buf region env (s.log [.get buf]) with
        ⟨-, rc, n, hrc, heq⟩ | ⟨-, heq⟩
      · rw [heq]
        exact .inl ⟨hrc, rfl⟩
      · rw [heq]
        exact .inr ⟨rfl, by simpa using hsecure, _, rfl, rfl⟩

lemma mapStage2BufferAndAddToList_cases (idx : ℕ) (ionFd : BitVec 32) (env : MapAnswers)
    (s : SmmuState) :
    ((mapStage2BufferAndAddToList idx ionFd env s).1 < 0 ∧
        (mapStage2BufferAndAddToList idx ionFd env s).2.cbInfo = s.cbInfo) ∨
      ((mapStage2BufferAndAddToList idx ionFd env s).1 = 0 ∧
        ∃ m : Mapping, m.ionFd = ionFd ∧ m.refCount = 1 ∧
          (mapStage2BufferAndAddToList idx ionFd env s).2.cbInfo =
            Function.update s.cbInfo idx { s.cbInfo idx with
              smmuBufList := m :: (s.cbInfo idx).smmuBufList }) := by
  have hnomem : -Errno.ENOMEM < 0 := by decide
  rw [mapStage2BufferAndAddToList]
  cases env.dmaBufGet with
  | error rc => exact .inl ⟨rc.2, rfl⟩
  | ok buf =>
    simp only
    cases env.attach with
    | some rc => exact .inl ⟨rc.2, rfl⟩
    | none =>
      simp only
      cases env.table with
      | some rc => exact .inl ⟨rc.2, rfl⟩
      | none =>
        simp only
        split_ifs
        · exact .inl ⟨hnomem, rfl⟩
        · exact .inr ⟨rfl, _, rfl, rfl, rfl⟩

lemma holds_update {bank : ContextBank} {n : ℤ}
    (h : bank.holds ionFd = (s.cbInfo idx).holds ionFd + n) (j : ℕ) :
    (Function.update s.cbInfo idx bank j).holds ionFd =
      (s.cbInfo j).holds ionFd + if j = idx then n else 0 := by
  by_cases hj : j = idx
  · simp [hj, h]
  · simp [hj]

lemma holds_cons {bank : ContextBank} {m : Mapping} (hfd : m.ionFd = ionFd)
    (hcount : bank.isSecure = true → m.refCount = 1) :
    ({ bank with smmuBufList := m :: bank.smmuBufList } : ContextBank).holds ionFd =
      bank.holds ionFd + 1 := by
  have hcons := sumOver_cons_of_pos (p := fun m : Mapping => m.ionFd == ionFd)
    (g := fun m => if bank.isSecure then m.refCount else 1) (l := bank.smmuBufList) (a := m)
    (by simp [hfd])
  simp only [ContextBank.holds, hcons]
  cases hsecure : bank.isSecure with
  | false => simp [add_comm]
  | true => simp [hcount hsecure, add_comm]

lemma holds_setRefCount {bank : ContextBank} {m : Mapping} (refCount : ℤ) (hsecure : bank.isSecure = true)
    (hm : bank.smmuBufList.find? (·.ionFd == ionFd) = some m) :
    (bank.setRefCount ionFd refCount).holds ionFd = bank.holds ionFd - m.refCount + refCount := by
  have hfd : m.ionFd = ionFd := by simpa using List.find?_some hm
  have hp : ∀ b : Mapping, (b.ionFd == ionFd) =
      (if b.ionFd = ionFd then some { b with refCount := refCount } else none).isSome := by
    intro b
    by_cases hb : b.ionFd = ionFd <;> simp [hb]
  have hkeep : ∀ b c : Mapping, (if b.ionFd = ionFd then some { b with refCount := refCount } else none) =
      some c → (c.ionFd == ionFd) = true := by
    intro b c hc
    split_ifs at hc with hb
    rw [← Option.some.inj hc]
    simp [hb]
  have hsum := sumOver_replaceF (g := fun m : Mapping => m.refCount) hp hkeep hm (if_pos hfd)
  simpa [ContextBank.holds, ContextBank.setRefCount, hsecure] using hsum

lemma holds_eraseP {bank : ContextBank} {m : Mapping}
    (hm : bank.smmuBufList.find? (·.ionFd == ionFd) = some m) :
    ({ bank with smmuBufList := bank.smmuBufList.eraseP (·.ionFd == ionFd) } : ContextBank).holds ionFd =
      bank.holds ionFd - if bank.isSecure then m.refCount else 1 := by
  simpa [ContextBank.holds] using sumOver_eraseP (g := fun m : Mapping =>
    if bank.isSecure then m.refCount else 1) hm

lemma mapUserIova_holds (handle ionFd : BitVec 32) (dir : ℤ) (region : RegionId) (env : MapAnswers)
    (s : SmmuState) :
    ((mapUserIova handle ionFd dir region env s).1 < 0 ∧
        (mapUserIova handle ionFd dir region env s).2.cbInfo = s.cbInfo) ∨
      ((mapUserIova handle ionFd dir region env s).1 = 0 ∧
        ∀ j, ((mapUserIova handle ionFd dir region env s).2.cbInfo j).holds ionFd =
          (s.cbInfo j).holds ionFd + if j = getSmmuTableIdx handle then 1 else 0) := by
  rcases mapUserIova_cases handle ionFd dir region env s with hfail | ⟨hrc, hplain, m, hfd, heq⟩
  · exact .inl hfail
  · refine .inr ⟨hrc, fun j => ?_⟩
    rw [heq]
    exact holds_update (holds_cons hfd (by simp [hplain])) j

lemma mapStage2Iova_holds (handle ionFd : BitVec 32) (dir : ℤ) (env : MapAnswers) (s : SmmuState) :
    ((mapStage2Iova handle ionFd dir env s).1 < 0 ∧
        (mapStage2Iova handle ionFd dir env s).2.cbInfo = s.cbInfo) ∨
      ((mapStage2Iova handle ionFd dir env s).1 = 0 ∧
        ∀ j, ((mapStage2Iova handle ionFd dir env s).2.cbInfo j).holds ionFd =
          (s.cbInfo j).holds ionFd + if j = getSmmuTableIdx handle then 1 else 0) := by
  have hinval : -Errno.EINVAL < 0 := by decide
  obtain ⟨r, hr⟩ : ∃ r, mapStage2Iova handle ionFd dir env s = r := ⟨_, rfl⟩
  rw [hr]
  rw [mapStage2Iova] at hr
  split_ifs at hr with hdir hidx hplain hhandle <;> subst hr
  · exact .inl ⟨hinval, rfl⟩
  · exact .inl ⟨hinval, rfl⟩
  · exact .inl ⟨hinval, rfl⟩
  · exact .inl ⟨hinval, rfl⟩
  · have hsecure : (s.cbInfo (getSmmuTableIdx handle)).isSecure = true := by simpa using hplain
    cases hm : (s.cbInfo (getSmmuTableIdx handle)).smmuBufList.find? (·.ionFd == ionFd) with
    | some m =>
      refine .inr ⟨rfl, fun j => ?_⟩
      refine holds_update ?_ j
      rw [holds_setRefCount _ hsecure hm]
      ring
    | none =>
      rcases mapStage2BufferAndAddToList_cases (getSmmuTableIdx handle) ionFd env s with
        hfail | ⟨hrc, m, hfd, hcount, heq⟩
      · exact .inl hfail
      · refine .inr ⟨hrc, fun j => ?_⟩
        simp only [heq]
        exact holds_update (holds_cons hfd fun _ => hcount) j

lemma indicator (cond : Prop) [Decidable cond] :
    ∃ n : ℤ, (if cond then (1 : ℤ) else 0) = n ∧ 0 ≤ n ∧ (if cond then (-1 : ℤ) else 0) = -n := by
  by_cases hcond : cond
  · exact ⟨1, by simp [hcond], by omega, by simp [hcond]⟩
  · exact ⟨0, by simp [hcond], by omega, by simp [hcond]⟩

lemma unmapUserIova_holds (handle ionFd : BitVec 32) (s : SmmuState) (j : ℕ) :
    (s.cbInfo j).holds ionFd - (if j = getSmmuTableIdx handle then 1 else 0) ≤
      ((unmapUserIova handle ionFd s).2.cbInfo j).holds ionFd := by
  obtain ⟨n, hn, hpos, hneg⟩ := indicator (j = getSmmuTableIdx handle)
  have hkeep : (s.cbInfo j).holds ionFd - n ≤ (s.cbInfo j).holds ionFd := by omega
  rw [hn]
  rw [unmapUserIova]
  split_ifs with hbad hsecure hhandle hfd
  · exact hkeep
  · exact hkeep
  · exact hkeep
  · exact hkeep
  · cases hm : (s.cbInfo (getSmmuTableIdx handle)).smmuBufList.find? (·.ionFd == ionFd) with
    | none => exact hkeep
    | some m =>
      have herase := holds_eraseP hm
      rw [if_neg hsecure, sub_eq_add_neg] at herase
      simp only [log_cbInfo, setBank_cbInfo, holds_update herase j, hneg]
      omega

lemma unmapStage2Iova_holds (handle ionFd : BitVec 32) (s : SmmuState) (j : ℕ) :
    (s.cbInfo j).holds ionFd - (if j = getSmmuTableIdx handle then 1 else 0) ≤
      ((unmapStage2Iova handle ionFd s).2.cbInfo j).holds ionFd := by
  obtain ⟨n, hn, hpos, hneg⟩ := indicator (j = getSmmuTableIdx handle)
  have hkeep : (s.cbInfo j).holds ionFd - n ≤ (s.cbInfo j).holds ionFd := by omega
  rw [hn]
  rw [unmapStage2Iova]
  split_ifs with hidx hplain hhandle
  · exact hkeep
  · exact hkeep
  · exact hkeep
  · have hsecure : (s.cbInfo (getSmmuTableIdx handle)).isSecure = true := by simpa using hplain
    cases hm : (s.cbInfo (getSmmuTableIdx handle)).smmuBufList.find? (·.ionFd == ionFd) with
    | none => exact hkeep
    | some m =>
      simp only
      split_ifs with hmore
      · have hset := holds_setRefCount (m.refCount - 1) hsecure hm
        rw [show ∀ a b : ℤ, a - b + (b - 1) = a + -1 by intros; ring] at hset
        simp only [setBank_cbInfo, holds_update hset j, hneg]
        omega
      · have herase := holds_eraseP hm
        rw [if_pos hsecure, sub_eq_add_neg] at herase
        simp only [log_cbInfo, setBank_cbInfo, holds_update herase j]
        omega

end CameraKernel.Smmu
