import CameraKernel.ScratchVa
import CameraKernel.Smmu

/-! The mapping calls of the SMMU layer with the address pools they take from: the shared pool of a
context bank, whose granules a `gen_pool` hands out, and the scratch map. What dma-buf, the IOMMU,
the pool and the allocators answer is an argument of the calls. -/
namespace CameraKernel.SmmuRecord
open BitArea ScratchVa
open Smmu (ErrCode handleInit getSmmuTableIdx)

/-- What a call returns that answers with a pointer. -/
inductive Ptr (α : Type)
  | null
  | err (rc : ErrCode)
  | ok (a : α)
  deriving DecidableEq

/-- The test `IS_ERR_OR_NULL`, with what `PTR_ERR` makes of a pointer that fails it. -/
def Ptr.checked {α : Type} : Ptr α → Except ℤ α
  | .null => .error 0
  | .err rc => .error rc
  | .ok a => .ok a

inductive RegionId
  | firmware
  | shared
  | scratch
  | io
  | secheap
  | qdss
  deriving DecidableEq, Repr

/-- `struct cam_dma_buff_info`. A scratch mapping has no dma-buf. -/
structure DmaBuffInfo where
  buf : Option ℕ
  ionFd : BitVec 32
  paddr : ℕ
  len : ℕ
  regionId : RegionId
  refCount : ℤ
  deriving DecidableEq, Repr

/-- `struct cam_context_bank_info`; `domain` says whether one is set. -/
structure ContextBank where
  handle : BitVec 32
  isSecure : Bool
  attached : Bool
  domain : Bool
  sharedSupport : Bool
  sharedMemPool : ℕ → Bool
  scratchMap : ScratchMapping
  secheapSupport : Bool
  isSecheapAllocated : Bool
  secheapLen : ℕ
  smmuBufList : List DmaBuffInfo
  smmuBufKernelList : List DmaBuffInfo

/-- `iommu_cb_set`, with the reference counts of the dma-bufs. -/
structure CbSet where
  cbNum : ℕ
  cbInfo : ℕ → ContextBank
  refs : ℕ → ℤ

def CbSet.setBank (s : CbSet) (idx : ℕ) (bank : ContextBank) : CbSet :=
  { s with cbInfo := Function.update s.cbInfo idx bank }

def CbSet.dmaBufPut (s : CbSet) (buf : ℕ) : CbSet :=
  { s with refs := Function.update s.refs buf (s.refs buf - 1) }

/-- `SHARED_MEM_POOL_GRANULARITY`. -/
def poolGranularity : ℕ := 16

/-- The granules `gen_pool` takes for a size, and the granules of an allocation at an address. -/
def granules (size : ℕ) : ℕ := (size + 65535) % 2 ^ 64 / 65536

def poolArea (addr size : ℕ) : Area := ⟨addr >>> poolGranularity, granules size⟩

def CbSet.setPool (s : CbSet) (idx : ℕ) (pool : ℕ → Bool) : CbSet :=
  s.setBank idx { s.cbInfo idx with sharedMemPool := pool }

/-- The handle names a context bank. -/
def CbSet.owns (s : CbSet) (handle : BitVec 32) : Bool :=
  decide (handle ≠ handleInit ∧ getSmmuTableIdx handle < s.cbNum ∧
    (s.cbInfo (getSmmuTableIdx handle)).handle = handle)

/-- `cam_smmu_alloc_iova`. `genPoolAlloc` finds the address, 0 for none. -/
def allocIova (genPoolAlloc : (ℕ → Bool) → ℕ → ℕ) (size : ℕ) (handle : BitVec 32) (s : CbSet) :
    Except ℤ ℕ × CbSet :=
  let idx := getSmmuTableIdx handle
  let pool := (s.cbInfo idx).sharedMemPool
  if size = 0 ∨ !s.owns handle then (.error (-Errno.EINVAL), s)
  else if !(s.cbInfo idx).sharedSupport then (.error (-Errno.EINVAL), s)
  else
    let addr := genPoolAlloc pool size
    let s := if addr = 0 then s else s.setPool idx (setArea pool (poolArea addr size))
    let vaddr := addr % 2 ^ 32
    if vaddr = 0 then (.error (-Errno.ENOMEM), s) else (.ok vaddr, s)

/-- `cam_smmu_free_iova`. -/
def freeIova (addr size : ℕ) (handle : BitVec 32) (s : CbSet) : ℤ × CbSet :=
  let idx := getSmmuTableIdx handle
  if size = 0 ∨ !s.owns handle then (-Errno.EINVAL, s)
  else (0, s.setPool idx (clearArea (s.cbInfo idx).sharedMemPool (poolArea addr size)))

/-- What one mapping of a dma-buf is told. `table` says whether the table has entries, and
`iommuMapSg` is the number of bytes mapped. -/
structure MapAnswers where
  genPoolAlloc : (ℕ → Bool) → ℕ → ℕ
  attach : Ptr Unit
  table : Ptr Bool
  iommuMapSg : ℕ
  sgDmaAddress : ℕ
  bufSize : ℕ
  kzalloc : Bool

/-- The end of `cam_smmu_map_buffer_validate`, from the test of the table on. -/
def fillMappingInfo (buf idx : ℕ) (regionId : RegionId) (sgl : Bool) (paddr len : ℕ) (env : MapAnswers)
    (s : CbSet) : ℤ × Option DmaBuffInfo × CbSet :=
  if !sgl then (-Errno.EINVAL, none, s.dmaBufPut buf)
  else if !env.kzalloc ∨ paddr = 0 ∨ len = 0 then
    let s := if regionId = .shared then (freeIova paddr len (s.cbInfo idx).handle s).2 else s
    (-Errno.ENOSPC, none, s.dmaBufPut buf)
  else (0, some ⟨some buf, 0, paddr, len, regionId, 1⟩, s)

/-- `cam_smmu_map_buffer_validate`, with the mapping it leaves in `*mapping_info`. The size that
`iommu_map_sg` returns is unsigned, so that the test for a negative one never holds. -/
def mapBufferValidate (buf : Ptr ℕ) (idx : ℕ) (regionId : RegionId) (len : ℕ) (env : MapAnswers)
    (s : CbSet) : ℤ × Option DmaBuffInfo × CbSet :=
  match buf.checked with
  | .error rc => (rc, none, s)
  | .ok buf =>
    match env.attach.checked with
    | .error rc => (rc, none, s.dmaBufPut buf)
    | .ok _ =>
      match regionId with
      | .shared =>
        match env.table.checked with
        | .error rc => (rc, none, s.dmaBufPut buf)
        | .ok sgl =>
          -- the error label is reached with the code still 0
          if !(s.cbInfo idx).domain then (0, none, s.dmaBufPut buf)
          else
            match allocIova env.genPoolAlloc len (s.cbInfo idx).handle s with
            | (.error rc, s) => (rc, none, s.dmaBufPut buf)
            | (.ok iova, s) => fillMappingInfo buf idx .shared sgl iova env.iommuMapSg env s
      | .io =>
        match env.table.checked with
        | .error rc => (rc, none, s.dmaBufPut buf)
        | .ok sgl => fillMappingInfo buf idx .io sgl env.sgDmaAddress env.bufSize env s
      | _ => (-Errno.EINVAL, none, s.dmaBufPut buf)

/-- `kzalloc` of the table, `sg_alloc_table`, `alloc_pages`, `iommu_map_sg` and `kzalloc` of the
mapping. -/
structure ScratchAnswers where
  find : (ℕ → Bool) → ℕ → ℕ → ℕ → ℕ
  tableAlloc : Bool
  sgAllocTable : ℤ
  allocPages : Bool
  iommuMapSg : ℕ
  mappingAlloc : Bool

/-- `cam_smmu_alloc_scratch_buffer_add_to_list`. The scratch address is not given back. -/
def allocScratchBufferAddToList (idx virtLen : ℕ) (env : ScratchAnswers) (s : CbSet) : ℤ × CbSet :=
  let bank := s.cbInfo idx
  if !env.tableAlloc then (-Errno.ENOMEM, s)
  else if env.sgAllocTable < 0 then (-Errno.EINVAL, s)
  else if !env.allocPages then (-Errno.ENOMEM, s)
  else
    match allocScratchVa env.find bank.scratchMap virtLen with
    | .error rc => (rc, s)
    | .ok (iova, scratchMap) =>
      let bank := { bank with scratchMap := scratchMap }
      -- the code is still the 0 of the allocation of the address
      if env.iommuMapSg ≠ virtLen then (0, s.setBank idx bank)
      else if !env.mappingAlloc then (-Errno.ENOMEM, s.setBank idx bank)
      else
        (0, s.setBank idx { bank with
          smmuBufList := ⟨none, 0xDEADBEEF, iova, virtLen, .scratch, 1⟩ :: bank.smmuBufList })

structure SecHeapAnswers where
  attach : Ptr Unit
  table : Ptr Unit
  iommuMapSg : ℕ

/-- `cam_smmu_reserve_sec_heap`. -/
def reserveSecHeap (handle : BitVec 32) (buf : Ptr ℕ) (env : SecHeapAnswers) (s : CbSet) : ℤ × CbSet :=
  let idx := getSmmuTableIdx handle
  let bank := s.cbInfo idx
  if idx ≥ s.cbNum then (-Errno.EINVAL, s)
  else if !bank.secheapSupport then (-Errno.EINVAL, s)
  else if bank.isSecheapAllocated then (-Errno.ENOMEM, s)
  else
    match buf.checked with
    | .error rc => (rc, s)
    | .ok buf =>
      match env.attach.checked with
      | .error rc => (rc, s.dmaBufPut buf)
      | .ok _ =>
        match env.table.checked with
        | .error rc => (rc, s.dmaBufPut buf)
        | .ok _ =>
          if env.iommuMapSg ≠ bank.secheapLen then (0, s.dmaBufPut buf)
          else (0, s.setBank idx { bank with isSecheapAllocated := true })

/-- The pools from which addresses are taken are as before. -/
def SamePools (s t : CbSet) : Prop :=
  ∀ i, (t.cbInfo i).sharedMemPool = (s.cbInfo i).sharedMemPool ∧
    (t.cbInfo i).scratchMap = (s.cbInfo i).scratchMap

/-- A call returns 0 if and only if it has recorded its mapping, and takes nothing otherwise. -/
structure Truthful (rc : ℤ) (recorded : Prop) (s t : CbSet) : Prop where
  code : rc = 0 ↔ recorded
  kept : ¬recorded → SamePools s t

/-- The pointer is no NULL, and what follows it holds where it is no error either. -/
def Ptr.Answered {α : Type} (p : Ptr α) (next : α → Prop) : Prop :=
  match p with
  | .null => False
  | .err _ => True
  | .ok a => next a

/-- `gen_pool_alloc`: the granules at the address are free, and lie below 4 GiB. -/
def GenPool (alloc : (ℕ → Bool) → ℕ → ℕ) : Prop :=
  ∀ pool size, alloc pool size ≠ 0 →
    alloc pool size < 2 ^ 32 ∧ Clear pool (poolArea (alloc pool size) size)

section Pointers
variable {α : Type} {p : Ptr α} {next : α → Prop}

lemma Ptr.checked_ok (a : α) : (Ptr.ok a).checked = .ok a := rfl

end Pointers

section Outcomes
variable {rc : ℤ} {recorded : Prop} {s t : CbSet}

@[simp] lemma samePools_refl (s : CbSet) : SamePools s s := fun _ => ⟨rfl, rfl⟩

@[simp] lemma samePools_dmaBufPut (s t : CbSet) (buf : ℕ) :
    SamePools s (t.dmaBufPut buf) ↔ SamePools s t := Iff.rfl

lemma truthful_error (hrc : rc ≠ 0) (hrec : ¬recorded) (hsame : SamePools s t) :
    Truthful rc recorded s t := ⟨by simp [hrc, hrec], fun _ => hsame⟩

lemma truthful_ok (hrec : recorded) : Truthful 0 recorded s t :=
  ⟨by simp [hrec], fun h => absurd hrec h⟩

lemma not_truthful_zero (hrec : ¬recorded) : ¬Truthful 0 recorded s t := fun h => hrec (h.code.mp rfl)

lemma truthful_error_iff (hrc : rc ≠ 0) (hrec : ¬recorded) :
    Truthful rc recorded s t ↔ SamePools s t :=
  ⟨fun h => h.kept hrec, truthful_error hrc hrec⟩

end Outcomes

/-- The outcome of `cam_smmu_map_buffer_validate`, for a caller whose `mapping_info` was NULL. -/
def MapTruthful (s : CbSet) (r : ℤ × Option DmaBuffInfo × CbSet) : Prop :=
  Truthful r.1 (r.2.1.isSome = true) s r.2.2

/-- `cam_smmu_alloc_iova` finds an address. -/
structure Serves (genPoolAlloc : (ℕ → Bool) → ℕ → ℕ) (size : ℕ) (handle : BitVec 32) (s : CbSet) :
    Prop where
  nonzero : size ≠ 0
  owns : s.owns handle = true
  support : (s.cbInfo (getSmmuTableIdx handle)).sharedSupport = true
  found : genPoolAlloc (s.cbInfo (getSmmuTableIdx handle)).sharedMemPool size ≠ 0

/-- The granules that the release of a failed mapping gives back, and that they are those taken:
nothing is released for a table without entries, or for a mapping of no bytes. -/
def Returned (pool : ℕ → Bool) (addr size mapped : ℕ) (sgl : Bool) : Prop :=
  let back := if sgl = true ∧ mapped ≠ 0 then granules mapped else 0
  granules size ≤ back ∧ Clear pool ⟨addr >>> poolGranularity, back⟩

section Shared
variable {genPoolAlloc : (ℕ → Bool) → ℕ → ℕ} {size mapped addr idx buf : ℕ} {handle : BitVec 32} {s : CbSet}
  {sgl : Bool} {env : MapAnswers}

/-- The set behind an allocation. -/
def CbSet.taken (s : CbSet) (handle : BitVec 32) (addr size : ℕ) : CbSet :=
  s.setPool (getSmmuTableIdx handle)
    (setArea (s.cbInfo (getSmmuTableIdx handle)).sharedMemPool (poolArea addr size))

lemma allocIova_served (hpool : GenPool genPoolAlloc) (h : Serves genPoolAlloc size handle s) :
    allocIova genPoolAlloc size handle s =
      (.ok (genPoolAlloc (s.cbInfo (getSmmuTableIdx handle)).sharedMemPool size),
        s.taken handle (genPoolAlloc (s.cbInfo (getSmmuTableIdx handle)).sharedMemPool size) size) := by
  have hlt := (hpool _ _ h.found).1
  have hmod : genPoolAlloc (s.cbInfo (getSmmuTableIdx handle)).sharedMemPool size % 4294967296 =
      genPoolAlloc (s.cbInfo (getSmmuTableIdx handle)).sharedMemPool size := Nat.mod_eq_of_lt hlt
  simp [allocIova, h.nonzero, h.owns, h.support, h.found, hmod, CbSet.taken]

lemma allocIova_refused (h : ¬Serves genPoolAlloc size handle s) :
    ∃ rc, rc ≠ 0 ∧ allocIova genPoolAlloc size handle s = (.error rc, s) := by
  have hE : -Errno.EINVAL ≠ 0 := by decide
  have hM : -Errno.ENOMEM ≠ 0 := by decide
  by_cases harg : size = 0 ∨ (!s.owns handle) = true
  · exact ⟨_, hE, by simp only [allocIova, if_pos harg]⟩
  by_cases hsup : (!(s.cbInfo (getSmmuTableIdx handle)).sharedSupport) = true
  · exact ⟨_, hE, by simp only [allocIova, if_neg harg, if_pos hsup]⟩
  have hfound : genPoolAlloc (s.cbInfo (getSmmuTableIdx handle)).sharedMemPool size = 0 := by
    by_contra hne
    refine h ⟨fun hz => harg (Or.inl hz), ?_, by simpa using hsup, hne⟩
    by_contra hn
    exact harg (Or.inr (by simpa using hn))
  refine ⟨_, hM, ?_⟩
  simp only [allocIova, if_neg harg, if_neg hsup, hfound, if_true, Nat.zero_mod]

lemma samePools_setPool (s : CbSet) (i : ℕ) (pool : ℕ → Bool) :
    SamePools s (s.setPool i pool) ↔ pool = (s.cbInfo i).sharedMemPool := by
  constructor
  · intro h
    have := (h i).1
    simpa [CbSet.setPool, CbSet.setBank] using this
  · intro h j
    by_cases hj : j = i
    · subst hj
      simp [CbSet.setPool, CbSet.setBank, h]
    · simp [CbSet.setPool, CbSet.setBank, Function.update_of_ne hj]

lemma setPool_setPool (s : CbSet) (i : ℕ) (p q : ℕ → Bool) :
    (s.setPool i p).setPool i q = s.setPool i q := by
  simp [CbSet.setPool, CbSet.setBank]

lemma taken_handle (s : CbSet) (handle : BitVec 32) (addr size i : ℕ) :
    ((s.taken handle addr size).cbInfo i).handle = (s.cbInfo i).handle := by
  by_cases hi : i = getSmmuTableIdx handle
  · subst hi
    simp [CbSet.taken, CbSet.setPool, CbSet.setBank]
  · simp [CbSet.taken, CbSet.setPool, CbSet.setBank, Function.update_of_ne hi]

lemma taken_owns (s : CbSet) (handle : BitVec 32) (addr size : ℕ) :
    (s.taken handle addr size).owns handle = s.owns handle := by
  simp only [CbSet.owns, taken_handle]
  rfl

lemma freeIova_taken (howns : s.owns handle = true) (hmapped : mapped ≠ 0) :
    (freeIova addr mapped handle (s.taken handle addr size)).2 =
      s.setPool (getSmmuTableIdx handle)
        (clearArea (setArea (s.cbInfo (getSmmuTableIdx handle)).sharedMemPool (poolArea addr size))
          (poolArea addr mapped)) := by
  have howns' : (s.taken handle addr size).owns handle = true := (taken_owns s handle addr size).trans howns
  have hpool : ((s.taken handle addr size).cbInfo (getSmmuTableIdx handle)).sharedMemPool =
      setArea (s.cbInfo (getSmmuTableIdx handle)).sharedMemPool (poolArea addr size) := by
    simp [CbSet.taken, CbSet.setPool, CbSet.setBank]
  simp only [freeIova, hmapped, howns', Bool.not_true, Bool.false_eq_true, or_self, if_false, hpool]
  exact setPool_setPool _ _ _ _

lemma fillMappingInfo_truthful_iff (hserves : Serves genPoolAlloc size (s.cbInfo idx).handle s)
    (hclear : Clear (s.cbInfo (getSmmuTableIdx (s.cbInfo idx).handle)).sharedMemPool (poolArea addr size))
    (haddr : addr ≠ 0) :
    MapTruthful s (fillMappingInfo buf idx .shared sgl addr mapped env
        (s.taken (s.cbInfo idx).handle addr size)) ↔
      (sgl = true ∧ env.kzalloc = true ∧ mapped ≠ 0) ∨
        Returned (s.cbInfo (getSmmuTableIdx (s.cbInfo idx).handle)).sharedMemPool addr size mapped sgl := by
  have hE : -Errno.EINVAL ≠ 0 := by decide
  have hS : -Errno.ENOSPC ≠ 0 := by decide
  have hnone : ¬((none : Option DmaBuffInfo).isSome = true) := by simp
  set handle := (s.cbInfo idx).handle with hhandle
  have hkept : SamePools s (s.taken handle addr size) ↔ granules size = 0 := by
    rw [CbSet.taken, samePools_setPool, setArea_eq_self hclear]
    rfl
  cases sgl with
  | false =>
    simp only [MapTruthful, fillMappingInfo, Bool.not_false, if_true]
    rw [truthful_error_iff hE hnone, samePools_dmaBufPut, hkept]
    simp [Returned, Clear, Area.Covers]
  | true =>
    by_cases hok : env.kzalloc = true ∧ mapped ≠ 0
    · have hrec : fillMappingInfo buf idx .shared true addr mapped env (s.taken handle addr size) =
          (0, some ⟨some buf, 0, addr, mapped, .shared, 1⟩, s.taken handle addr size) := by
        simp [fillMappingInfo, hok.1, hok.2, haddr]
      simp only [MapTruthful, hrec]
      exact ⟨fun _ => Or.inl ⟨trivial, hok⟩, fun _ => truthful_ok rfl⟩
    · have hbad : (!env.kzalloc) = true ∨ addr = 0 ∨ mapped = 0 := by
        by_contra hn
        push Not at hn
        exact hok ⟨by simpa using hn.1, hn.2.2⟩
      have hh : ((s.taken handle addr size).cbInfo idx).handle = handle := taken_handle s handle addr size idx
      simp only [MapTruthful, fillMappingInfo, Bool.not_true, Bool.false_eq_true, if_false, if_pos hbad, if_true, hh]
      rw [truthful_error_iff hS hnone, samePools_dmaBufPut]
      have hleft : ¬(True ∧ env.kzalloc = true ∧ mapped ≠ 0) := fun h => hok h.2
      rw [or_iff_right hleft]
      by_cases hmapped : mapped = 0
      · have hfree : (freeIova addr mapped handle (s.taken handle addr size)).2 = s.taken handle addr size := by
          simp [freeIova, hmapped]
        rw [hfree, hkept]
        simp [Returned, hmapped, Clear, Area.Covers]
      · rw [freeIova_taken hserves.owns hmapped, samePools_setPool]
        simpa [Returned, hmapped, poolArea] using clearArea_setArea_eq_iff hclear

end Shared

/-! ### The three calls -/

/-- No answer is NULL; in the shared region there is a domain, and a mapping that fails behind the
allocation of its address gives back what was taken. -/
def MapsCleanly (buf : Ptr ℕ) (idx : ℕ) (regionId : RegionId) (len : ℕ) (env : MapAnswers) (s : CbSet) :
    Prop :=
  let handle := (s.cbInfo idx).handle
  let pool := (s.cbInfo (getSmmuTableIdx handle)).sharedMemPool
  buf.Answered fun _ => env.attach.Answered fun _ =>
    match regionId with
    | .shared => env.table.Answered fun sgl =>
        (s.cbInfo idx).domain = true ∧ (Serves env.genPoolAlloc len handle s →
          (sgl = true ∧ env.kzalloc = true ∧ env.iommuMapSg ≠ 0) ∨
            Returned pool (env.genPoolAlloc pool len) len env.iommuMapSg sgl)
    | .io => env.table.Answered fun _ => True
    | _ => True

/-- The scratch map is one whose bits and sizes the driver's arithmetic holds. -/
structure ScratchSound (idx virtLen : ℕ) (s : CbSet) : Prop where
  bits : (s.cbInfo idx).scratchMap.bits < 2 ^ 30
  size : Defined (s.cbInfo idx).scratchMap virtLen

/-- The map has room for the buffer and its guard. -/
def ScratchRoom (m : ScratchMapping) (virtLen : ℕ) : Prop :=
  ∃ start, Fits m.bitmap m.bits (2 ^ m.excess virtLen) ⟨start, m.units virtLen + 1⟩

/-- Once an address is found, the whole length is mapped and there is memory for the mapping. -/
def ScratchCleanly (idx virtLen : ℕ) (env : ScratchAnswers) (s : CbSet) : Prop :=
  env.tableAlloc = true → 0 ≤ env.sgAllocTable → env.allocPages = true →
    ScratchRoom (s.cbInfo idx).scratchMap virtLen → env.iommuMapSg = virtLen ∧ env.mappingAlloc = true

/-- No answer is NULL, and the whole heap is mapped. -/
def HeapCleanly (handle : BitVec 32) (buf : Ptr ℕ) (env : SecHeapAnswers) (s : CbSet) : Prop :=
  let bank := s.cbInfo (getSmmuTableIdx handle)
  getSmmuTableIdx handle < s.cbNum → bank.secheapSupport = true → bank.isSecheapAllocated = false →
    buf.Answered fun _ => env.attach.Answered fun _ => env.table.Answered fun _ =>
      env.iommuMapSg = bank.secheapLen

/-- The scratch entry is on the list. -/
def ScratchRecorded (idx : ℕ) (s t : CbSet) : Prop :=
  ∃ m, (t.cbInfo idx).smmuBufList = m :: (s.cbInfo idx).smmuBufList

/-- The heap is marked by this call. -/
def HeapRecorded (idx : ℕ) (s t : CbSet) : Prop :=
  (s.cbInfo idx).isSecheapAllocated = false ∧ (t.cbInfo idx).isSecheapAllocated = true

section Calls
variable {idx virtLen len : ℕ} {handle : BitVec 32} {buf : Ptr ℕ} {regionId : RegionId} {s : CbSet}

lemma ErrCode.ne_zero (rc : ErrCode) : (rc : ℤ) ≠ 0 := ne_of_lt rc.2

lemma not_mapTruthful_zero {t : CbSet} : ¬MapTruthful s (0, none, t) := not_truthful_zero (by simp)

lemma mapTruthful_error {rc : ℤ} (hrc : rc ≠ 0) (b : ℕ) : MapTruthful s (rc, none, s.dmaBufPut b) :=
  truthful_error hrc (by simp) (samePools_refl s)

lemma fillMappingInfo_io (b paddr size : ℕ) (sgl : Bool) (env : MapAnswers) :
    MapTruthful s (fillMappingInfo b idx .io sgl paddr size env s) := by
  unfold fillMappingInfo
  split_ifs with hsgl hbad hio
  · exact mapTruthful_error (by decide) b
  · exact absurd hio (by decide)
  · exact mapTruthful_error (by decide) b
  · exact truthful_ok rfl

theorem mapBufferValidate_truthful_iff {env : MapAnswers} (hpool : GenPool env.genPoolAlloc) :
    MapTruthful s (mapBufferValidate buf idx regionId len env s) ↔
      MapsCleanly buf idx regionId len env s := by
  have hE : -Errno.EINVAL ≠ 0 := by decide
  unfold mapBufferValidate MapsCleanly
  cases buf with
  | null => exact iff_of_false not_mapTruthful_zero not_false
  | err rc =>
    have herr : MapTruthful s (rc, none, s) :=
      truthful_error (ErrCode.ne_zero rc) (by simp) (samePools_refl s)
    exact iff_of_true herr trivial
  | ok b =>
    simp only [Ptr.checked_ok, Ptr.Answered]
    cases env.attach with
    | null => exact iff_of_false not_mapTruthful_zero not_false
    | err rc => exact iff_of_true (mapTruthful_error (ErrCode.ne_zero rc) b) trivial
    | ok _ =>
      simp only [Ptr.checked_ok]
      cases regionId with
      | firmware | scratch | secheap | qdss => exact iff_of_true (mapTruthful_error hE b) trivial
      | io =>
        cases env.table with
        | null => exact iff_of_false not_mapTruthful_zero not_false
        | err rc => exact iff_of_true (mapTruthful_error (ErrCode.ne_zero rc) b) trivial
        | ok sgl => exact iff_of_true (fillMappingInfo_io b _ _ sgl env) trivial
      | shared =>
        cases env.table with
        | null => exact iff_of_false not_mapTruthful_zero not_false
        | err rc => exact iff_of_true (mapTruthful_error (ErrCode.ne_zero rc) b) trivial
        | ok sgl =>
          simp only [Ptr.checked_ok]
          cases hdomain : (s.cbInfo idx).domain with
          | false => exact iff_of_false not_mapTruthful_zero (by simp)
          | true =>
            simp only [Bool.not_true, Bool.false_eq_true, if_false, true_and]
            by_cases hserves : Serves env.genPoolAlloc len (s.cbInfo idx).handle s
            · rw [allocIova_served hpool hserves]
              have hclear := (hpool _ _ hserves.found).2
              simpa only [hserves, true_imp_iff] using
                fillMappingInfo_truthful_iff hserves hclear hserves.found
            · obtain ⟨rc, hrc, halloc⟩ := allocIova_refused hserves
              rw [halloc]
              exact iff_of_true (mapTruthful_error hrc b) fun h => absurd h hserves

lemma not_samePools_scratch {m : ScratchMapping} {a : Area} (hpos : a.len ≠ 0)
    (hclear : Clear (s.cbInfo idx).scratchMap.bitmap a)
    (hm : m = { (s.cbInfo idx).scratchMap with bitmap := setArea (s.cbInfo idx).scratchMap.bitmap a }) :
    ¬SamePools s (s.setBank idx { s.cbInfo idx with scratchMap := m }) := by
  intro h
  have hmap := (h idx).2
  simp only [CbSet.setBank, Function.update_self] at hmap
  rw [hm] at hmap
  exact hpos ((setArea_eq_self hclear).mp (congrArg ScratchMapping.bitmap hmap))

theorem allocScratch_truthful_iff {env : ScratchAnswers} (hfind : FindsArea env.find)
    (hsound : ScratchSound idx virtLen s) :
    Truthful (allocScratchBufferAddToList idx virtLen env s).1
        (ScratchRecorded idx s (allocScratchBufferAddToList idx virtLen env s).2) s
        (allocScratchBufferAddToList idx virtLen env s).2 ↔
      ScratchCleanly idx virtLen env s := by
  have hM : -Errno.ENOMEM ≠ 0 := by decide
  have hE : -Errno.EINVAL ≠ 0 := by decide
  have hself : ¬ScratchRecorded idx s s := fun ⟨m, hm⟩ => by simpa using congrArg List.length hm
  unfold allocScratchBufferAddToList ScratchCleanly
  by_cases htable : env.tableAlloc = true
  swap
  · simp only [htable, Bool.not_false, if_true]
    exact iff_of_true (truthful_error hM hself (samePools_refl s)) fun h => absurd h (by simp)
  by_cases hsg : env.sgAllocTable < 0
  · simp only [htable, Bool.not_true, Bool.false_eq_true, if_false, hsg, if_true]
    exact iff_of_true (truthful_error hE hself (samePools_refl s)) fun _ h => absurd hsg h.not_gt
  by_cases hpages : env.allocPages = true
  swap
  · simp only [htable, Bool.not_true, Bool.false_eq_true, if_false, hsg, hpages, Bool.not_false, if_true]
    exact iff_of_true (truthful_error hM hself (samePools_refl s)) fun _ _ h => absurd h (by simp)
  simp only [htable, Bool.not_true, Bool.false_eq_true, if_false, hsg, hpages, true_imp_iff,
    Int.not_lt.mp hsg]
  cases halloc : allocScratchVa env.find (s.cbInfo idx).scratchMap virtLen with
  | error rc =>
    have hrc : rc ≠ 0 := by
      rw [hsound.size.allocScratchVa_eq] at halloc
      split_ifs at halloc
      simpa using (Except.error.inj halloc) ▸ hM
    have hroom : ¬ScratchRoom (s.cbInfo idx).scratchMap virtLen := by
      rintro ⟨start, hfits⟩
      obtain ⟨iova, m, hok⟩ := hsound.size.alloc_total hfind (hsound.bits.trans (by norm_num)) hfits
      rw [halloc] at hok
      cases hok
    exact iff_of_true (truthful_error hrc hself (samePools_refl s)) fun h => absurd h hroom
  | ok r =>
    obtain ⟨iova, m⟩ := r
    obtain ⟨start, hfits, -, hm⟩ := hsound.size.alloc_spec hfind hsound.bits halloc
    have hroom : ScratchRoom (s.cbInfo idx).scratchMap virtLen := ⟨start, hfits⟩
    have hlost : ¬SamePools s (s.setBank idx { s.cbInfo idx with scratchMap := m }) :=
      not_samePools_scratch (Nat.succ_ne_zero _) hfits.clear hm
    have hunlisted : ¬ScratchRecorded idx s (s.setBank idx { s.cbInfo idx with scratchMap := m }) := by
      rintro ⟨e, he⟩
      simpa [CbSet.setBank] using congrArg List.length he
    simp only [hroom, true_imp_iff]
    by_cases hmap : env.iommuMapSg = virtLen
    swap
    · simp only [hmap, ne_eq, not_false_eq_true, if_true, false_and, iff_false]
      exact not_truthful_zero hunlisted
    cases hmem : env.mappingAlloc with
    | false =>
      simp only [hmap, ne_eq, not_true_eq_false, if_false, Bool.not_false, if_true, Bool.false_eq_true,
        and_false, iff_false]
      exact fun h => hlost (h.kept hunlisted)
    | true =>
      simp only [hmap, ne_eq, not_true_eq_false, if_false, Bool.not_true, Bool.false_eq_true, and_self,
        iff_true]
      exact truthful_ok ⟨⟨none, 0xDEADBEEF, iova, virtLen, .scratch, 1⟩, by simp [CbSet.setBank]⟩

theorem reserveSecHeap_truthful_iff {env : SecHeapAnswers} :
    Truthful (reserveSecHeap handle buf env s).1
        (HeapRecorded (getSmmuTableIdx handle) s (reserveSecHeap handle buf env s).2) s
        (reserveSecHeap handle buf env s).2 ↔
      HeapCleanly handle buf env s := by
  have hM : -Errno.ENOMEM ≠ 0 := by decide
  have hE : -Errno.EINVAL ≠ 0 := by decide
  have hself : ¬HeapRecorded (getSmmuTableIdx handle) s s := fun h =>
    absurd (h.1.symm.trans h.2) (by decide)
  have hput (b : ℕ) : ¬HeapRecorded (getSmmuTableIdx handle) s (s.dmaBufPut b) := hself
  unfold reserveSecHeap HeapCleanly
  by_cases hidx : getSmmuTableIdx handle ≥ s.cbNum
  · simp only [hidx, if_true]
    exact iff_of_true (truthful_error hE hself (samePools_refl s)) fun h => absurd h hidx.not_gt
  simp only [hidx, if_false, Nat.lt_of_not_ge hidx, true_imp_iff]
  cases hsup : (s.cbInfo (getSmmuTableIdx handle)).secheapSupport with
  | false => exact iff_of_true (truthful_error hE hself (samePools_refl s)) fun h => absurd h (by simp)
  | true =>
    simp only [Bool.not_true, Bool.false_eq_true, if_false, true_imp_iff]
    cases halloc : (s.cbInfo (getSmmuTableIdx handle)).isSecheapAllocated with
    | true => exact iff_of_true (truthful_error hM hself (samePools_refl s)) fun h => absurd h (by simp)
    | false =>
      simp only [Bool.false_eq_true, if_false, true_imp_iff]
      cases buf with
      | null => exact iff_of_false (not_truthful_zero hself) not_false
      | err rc => exact iff_of_true (truthful_error (ErrCode.ne_zero rc) hself (samePools_refl s)) trivial
      | ok b =>
        simp only [Ptr.checked_ok, Ptr.Answered]
        cases env.attach with
        | null => exact iff_of_false (not_truthful_zero (hput b)) not_false
        | err rc => exact iff_of_true (truthful_error (ErrCode.ne_zero rc) (hput b) (samePools_refl s)) trivial
        | ok _ =>
          simp only [Ptr.checked_ok]
          cases env.table with
          | null => exact iff_of_false (not_truthful_zero (hput b)) not_false
          | err rc => exact iff_of_true (truthful_error (ErrCode.ne_zero rc) (hput b) (samePools_refl s)) trivial
          | ok _ =>
            simp only [Ptr.checked_ok]
            by_cases hlen : env.iommuMapSg = (s.cbInfo (getSmmuTableIdx handle)).secheapLen
            · simp only [hlen, ne_eq, not_true_eq_false, if_false, iff_true]
              exact truthful_ok ⟨halloc, by simp [CbSet.setBank]⟩
            · simp only [hlen, ne_eq, not_false_eq_true, if_true, iff_false]
              exact not_truthful_zero (hput b)

end Calls

/-! ### The SMMU layer that only answers -/

def RegionId.forget : RegionId → Smmu.RegionId
  | .shared => .shared
  | .io => .io
  | _ => .secheap

def Ptr.error? {α : Type} : Ptr α → Option ErrCode
  | .err rc => some rc
  | _ => none

def codeOf : Except ℤ ℕ → ℤ
  | .error rc => rc
  | .ok _ => 0

/-- What a layer without pools is told when this one runs. -/
def MapAnswers.forget (env : MapAnswers) (buf idx : ℕ) (regionId : RegionId) (len : ℕ) (s : CbSet) :
    Smmu.MapAnswers where
  dmaBufGet := .ok buf
  attach := env.attach.error?
  table := env.table.error?
  allocIova := codeOf (allocIova env.genPoolAlloc len (s.cbInfo idx).handle s).1
  sgl := match env.table with
    | .ok sgl => sgl
    | _ => false
  mappingInfo := env.kzalloc
  paddr := match regionId with
    | .shared => (allocIova env.genPoolAlloc len (s.cbInfo idx).handle s).1.toOption.getD 0
    | _ => env.sgDmaAddress
  len := match regionId with
    | .shared => env.iommuMapSg
    | _ => env.bufSize

def mappedAt (r : ℤ × Option DmaBuffInfo × CbSet) : Except ℤ (ℕ × ℕ) :=
  match r.2.1 with
  | some m => .ok (m.paddr, m.len)
  | none => .error r.1

lemma mappedAt_fillMappingInfo (b idx paddr len : ℕ) (regionId : RegionId) (sgl : Bool) (env : MapAnswers)
    (s : CbSet) :
    mappedAt (fillMappingInfo b idx regionId sgl paddr len env s) =
      if !sgl then .error (-Errno.EINVAL)
      else if !env.kzalloc then .error (-Errno.ENOSPC)
      else if paddr = 0 ∨ len = 0 then .error (-Errno.ENOSPC)
      else .ok (paddr, len) := by
  unfold fillMappingInfo
  cases sgl with
  | false => rfl
  | true =>
    cases env.kzalloc with
    | false => rfl
    | true =>
      by_cases hzero : paddr = 0 ∨ len = 0
      · simp [mappedAt, hzero]
      · simp [mappedAt, hzero]

lemma allocIova_code (alloc : (ℕ → Bool) → ℕ → ℕ) (size : ℕ) (handle : BitVec 32) (s : CbSet) :
    (∃ rc t, rc < 0 ∧ allocIova alloc size handle s = (.error rc, t)) ∨
      ∃ iova t, allocIova alloc size handle s = (.ok iova, t) := by
  have hE : -Errno.EINVAL < 0 := by decide
  have hM : -Errno.ENOMEM < 0 := by decide
  obtain ⟨r, hr⟩ : ∃ r, allocIova alloc size handle s = r := ⟨_, rfl⟩
  rw [hr]
  rw [allocIova] at hr
  dsimp only at hr
  split_ifs at hr <;> subst hr
  · exact Or.inl ⟨_, _, hE, rfl⟩
  · exact Or.inl ⟨_, _, hE, rfl⟩
  · exact Or.inl ⟨_, _, hM, rfl⟩
  · exact Or.inl ⟨_, _, hM, rfl⟩
  · exact Or.inr ⟨_, _, rfl⟩
  · exact Or.inr ⟨_, _, rfl⟩

theorem mapBufferValidate_forget {env : MapAnswers} (b idx len : ℕ) (regionId : RegionId) (s : CbSet)
    (t : Smmu.SmmuState) (hattach : env.attach ≠ .null) (htable : env.table ≠ .null)
    (hdomain : (s.cbInfo idx).domain = true) :
    (Smmu.mapBufferValidate b regionId.forget (env.forget b idx regionId len s) t).1 =
      mappedAt (mapBufferValidate (.ok b) idx regionId len env s) := by
  cases ha : env.attach with
  | null => exact absurd ha hattach
  | err rc => simp [mapBufferValidate, Smmu.mapBufferValidate, MapAnswers.forget, Ptr.error?, ha, Ptr.checked,
      mappedAt]
  | ok u =>
    cases regionId with
    | firmware | scratch | secheap | qdss =>
      simp [mapBufferValidate, Smmu.mapBufferValidate, MapAnswers.forget, Ptr.error?, ha, Ptr.checked,
        mappedAt, RegionId.forget]
    | io =>
      cases ht : env.table with
      | null => exact absurd ht htable
      | err rc => simp [mapBufferValidate, Smmu.mapBufferValidate, MapAnswers.forget, Ptr.error?, ha, ht,
          Ptr.checked, mappedAt, RegionId.forget]
      | ok sgl =>
        simp only [mapBufferValidate, ha, ht, Ptr.checked, mappedAt_fillMappingInfo]
        simp only [Smmu.mapBufferValidate, MapAnswers.forget, Ptr.error?, ha, ht, RegionId.forget]
        simp only [reduceCtorEq, if_false, false_and]
        split_ifs <;> rfl
    | shared =>
      cases ht : env.table with
      | null => exact absurd ht htable
      | err rc => simp [mapBufferValidate, Smmu.mapBufferValidate, MapAnswers.forget, Ptr.error?, ha, ht,
          Ptr.checked, mappedAt, RegionId.forget]
      | ok sgl =>
        simp only [mapBufferValidate, ha, ht, Ptr.checked, hdomain, Bool.not_true, Bool.false_eq_true, if_false]
        simp only [Smmu.mapBufferValidate, MapAnswers.forget, Ptr.error?, ha, ht, RegionId.forget]
        rcases allocIova_code env.genPoolAlloc len (s.cbInfo idx).handle s with
          ⟨rc, u, hrc, halloc⟩ | ⟨iova, u, halloc⟩
        · simp [halloc, codeOf, hrc, mappedAt]
        · simp only [halloc, codeOf, mappedAt_fillMappingInfo, Except.toOption, Option.getD_some]
          simp only [reduceCtorEq, if_false, lt_irrefl, and_false]
          split_ifs <;> rfl

/-- The three calls tell the truth exactly under their conditions. -/
theorem mappings_truthful_iff (s : CbSet) :
    (∀ (buf : Ptr ℕ) (idx : ℕ) (regionId : RegionId) (len : ℕ) (env : MapAnswers),
      GenPool env.genPoolAlloc →
        (MapTruthful s (mapBufferValidate buf idx regionId len env s) ↔
          MapsCleanly buf idx regionId len env s)) ∧
    (∀ (idx virtLen : ℕ) (env : ScratchAnswers), FindsArea env.find → ScratchSound idx virtLen s →
      (Truthful (allocScratchBufferAddToList idx virtLen env s).1
          (ScratchRecorded idx s (allocScratchBufferAddToList idx virtLen env s).2) s
          (allocScratchBufferAddToList idx virtLen env s).2 ↔
        ScratchCleanly idx virtLen env s)) ∧
    ∀ (handle : BitVec 32) (buf : Ptr ℕ) (env : SecHeapAnswers),
      Truthful (reserveSecHeap handle buf env s).1
          (HeapRecorded (getSmmuTableIdx handle) s (reserveSecHeap handle buf env s).2) s
          (reserveSecHeap handle buf env s).2 ↔
        HeapCleanly handle buf env s :=
  ⟨fun _ _ _ _ _ hpool => mapBufferValidate_truthful_iff hpool,
    fun _ _ _ hfind hsound => allocScratch_truthful_iff hfind hsound,
    fun _ _ _ => reserveSecHeap_truthful_iff⟩

/-- One context bank with every kind of region, and nothing mapped. -/
def oneBank : CbSet :=
  ⟨1, fun _ => ⟨0x1234, false, true, true, true, fun _ => false, ⟨fun _ => false, 64, 0, 4096⟩, true, false,
    65536, [], []⟩, fun _ => 1⟩

/-- A pool that hands out the range at `0x74000000` only. -/
def oneRange (pool : ℕ → Bool) (size : ℕ) : ℕ :=
  if clearFrom pool 0x7400 (granules size) then 0x74000000 else 0

lemma oneRange_genPool : GenPool oneRange := by
  intro pool size hne
  have hclear : clearFrom pool 0x7400 (granules size) = true := by
    by_contra hn
    exact hne (by simp [oneRange, hn])
  have haddr : oneRange pool size = 0x74000000 := by simp [oneRange, hclear]
  rw [haddr]
  exact ⟨by norm_num, (clearFrom_iff _ _ _).mp hclear⟩

/-- All answers are good, but for the size of the mapping and the memory for `mapping_info`. -/
def mapAnswers (mapped : ℕ) (kzalloc : Bool) : MapAnswers :=
  ⟨oneRange, .ok (), .ok true, mapped, 4096, 65536, kzalloc⟩

def scratchAnswers (mapped : ℕ) : ScratchAnswers := ⟨firstFit, true, 0, true, mapped, true⟩

def secHeapAnswers (mapped : ℕ) : SecHeapAnswers := ⟨.ok (), .ok (), mapped⟩

lemma oneBank_scratchSound : ScratchSound 0 4096 oneBank := ⟨by decide, by decide, by decide, by decide⟩

theorem oneBank_truthful :
    MapTruthful oneBank (mapBufferValidate (.ok 7) 0 .shared 65536 (mapAnswers 65536 false) oneBank) ∧
    Truthful (allocScratchBufferAddToList 0 4096 (scratchAnswers 4096) oneBank).1
      (ScratchRecorded 0 oneBank (allocScratchBufferAddToList 0 4096 (scratchAnswers 4096) oneBank).2) oneBank
      (allocScratchBufferAddToList 0 4096 (scratchAnswers 4096) oneBank).2 ∧
    Truthful (reserveSecHeap 0x1234 (.ok 7) (secHeapAnswers 65536) oneBank).1
      (HeapRecorded 0 oneBank (reserveSecHeap 0x1234 (.ok 7) (secHeapAnswers 65536) oneBank).2) oneBank
      (reserveSecHeap 0x1234 (.ok 7) (secHeapAnswers 65536) oneBank).2 := by
  obtain ⟨hmap, hscratch, hheap⟩ := mappings_truthful_iff oneBank
  refine ⟨(hmap _ _ _ _ _ oneRange_genPool).mpr ⟨rfl, fun _ => Or.inr ⟨by decide, fun _ _ => rfl⟩⟩,
    (hscratch 0 4096 _ firstFit_findsArea oneBank_scratchSound).mpr fun _ _ _ _ => ⟨rfl, rfl⟩,
    (hheap 0x1234 _ _).mpr fun _ _ _ => rfl⟩

/-- A shared mapping of no bytes keeps its granule, a scratch buffer and a heap that are not mapped
are reported as mapped, and so is a dma-buf whose attachment is NULL. -/
theorem not_mappings_truthful :
    ((mapBufferValidate (.ok 7) 0 .shared 65536 (mapAnswers 0 true) oneBank).1 = -Errno.ENOSPC ∧
      ((mapBufferValidate (.ok 7) 0 .shared 65536 (mapAnswers 0 true) oneBank).2.2.cbInfo 0).sharedMemPool
        0x7400 = true ∧
      ¬MapTruthful oneBank (mapBufferValidate (.ok 7) 0 .shared 65536 (mapAnswers 0 true) oneBank)) ∧
    ((mapBufferValidate (.ok 7) 0 .io 65536 { mapAnswers 65536 true with attach := .null } oneBank).1 = 0 ∧
      (mapBufferValidate (.ok 7) 0 .io 65536 { mapAnswers 65536 true with attach := .null } oneBank).2.1 =
        none) ∧
    ((allocScratchBufferAddToList 0 4096 (scratchAnswers 0) oneBank).1 = 0 ∧
      ((allocScratchBufferAddToList 0 4096 (scratchAnswers 0) oneBank).2.cbInfo 0).smmuBufList = []) ∧
    (reserveSecHeap 0x1234 (.ok 7) (secHeapAnswers 0) oneBank).1 = 0 ∧
      ((reserveSecHeap 0x1234 (.ok 7) (secHeapAnswers 0) oneBank).2.cbInfo 0).isSecheapAllocated = false := by
  have hpool : ((mapBufferValidate (.ok 7) 0 .shared 65536 (mapAnswers 0 true) oneBank).2.2.cbInfo 0).sharedMemPool
      0x7400 = true := by decide +kernel
  refine ⟨⟨by decide +kernel, hpool, fun h => ?_⟩, ⟨by decide +kernel, by decide +kernel⟩,
    ⟨by decide +kernel, by decide +kernel⟩, by decide +kernel, by decide +kernel⟩
  have hnone : ¬(mapBufferValidate (.ok 7) 0 .shared 65536 (mapAnswers 0 true) oneBank).2.1.isSome = true := by
    decide +kernel
  have hkept := (h.kept hnone 0).1
  rw [hkept] at hpool
  exact absurd hpool (by decide)

end CameraKernel.SmmuRecord
