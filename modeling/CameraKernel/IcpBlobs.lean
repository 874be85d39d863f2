import CameraKernel.IspBlobs

/-! The handler of the generic blobs of an ICP packet, with what it reads through `blob_data`, and both
handlers together. What the memory manager, user space and the firmware answer is the environment's. -/
namespace CameraKernel.IcpBlobs
open BlobReader (ReadM Trace Keeps read outcome)
open GenericBlob (Memory)
open IspBlobs (word word_keeps word_bind)
open PacketUtil (wordAt)

def CAM_ICP_CMD_GENERIC_BLOB_CLK : UInt32 := 1
def CAM_ICP_CMD_GENERIC_BLOB_CFG_IO : UInt32 := 2
def CAM_ICP_CMD_GENERIC_BLOB_FW_MEM_MAP : UInt32 := 3
def CAM_ICP_CMD_GENERIC_BLOB_FW_MEM_UNMAP : UInt32 := 4

def sizeofClkBwRequest : ℕ := 32
def sizeofMemRegionInfo : ℕ := 16

/-- A call of the handler: `blob_data` points to the start of `mem`. -/
structure Call where
  blobType : UInt32
  blobSize : UInt32
  dataNull : Bool
  mem : Memory
  /-- `copy_from_user` fails. -/
  copyFails : Bool
  /-- `cam_mem_get_io_buf` for the io configuration. -/
  ioConfigRc : ℤ
  /-- `cam_mem_get_io_buf` for the region `i`. -/
  regionRc : ℕ → ℤ
  /-- The two allocations of `cam_icp_process_stream_settings`. -/
  mapCmdAlloc : Bool
  asyncAlloc : Bool
  hfiWriteRc : ℤ
  /-- The firmware answers in time. -/
  responds : Bool

namespace Call
variable (c : Call)

/-- The region `i` of `map_info_array`: its handle, then its offset. -/
def mapRegion (i : ℕ) : ReadM Unit := do
  read (8 + sizeofMemRegionInfo * i) 4
  if c.regionRc i ≠ 0 then throw (-Errno.EINVAL)
  else read (8 + sizeofMemRegionInfo * i + 4) 4

def mapRegions (n : ℕ) : ReadM Unit := do
  for i in List.range n do
    c.mapRegion i

/-- `cam_icp_process_stream_settings`. Its command is allocated for all regions first. -/
def processStreamSettings (numRegions : UInt32) : ReadM ℤ := do
  if !c.mapCmdAlloc then throw (-Errno.ENOMEM)
  else
    c.mapRegions numRegions.toNat
    if !c.asyncAlloc then throw (-Errno.ENOMEM)
    else if c.hfiWriteRc ≠ 0 then throw c.hfiWriteRc
    else if !c.responds then throw (-Errno.ETIMEDOUT)
    else return 0

def cfgIo : ReadM ℤ := do
  let _ ← word c.mem 0
  if c.copyFails then throw (-Errno.EFAULT)
  else return c.ioConfigRc

def fwMemMap : ReadM ℤ := do
  let numRegions ← word c.mem 4
  if numRegions = 0 then throw (-Errno.EINVAL)
  else c.processStreamSettings numRegions

/-- `cam_icp_packet_generic_blob_handler`. Mapping and unmapping differ in the opcode sent. -/
def packetGenericBlobHandler : ReadM ℤ := do
  if c.dataNull ∨ c.blobSize = 0 then throw (-Errno.EINVAL)
  else if c.blobType = CAM_ICP_CMD_GENERIC_BLOB_CLK then
    if c.blobSize.toNat ≠ sizeofClkBwRequest then throw (-Errno.EINVAL)
    else
      read 0 sizeofClkBwRequest
      return 0
  else if c.blobType = CAM_ICP_CMD_GENERIC_BLOB_CFG_IO then c.cfgIo
  else if c.blobType = CAM_ICP_CMD_GENERIC_BLOB_FW_MEM_MAP then c.fwMemMap
  else if c.blobType = CAM_ICP_CMD_GENERIC_BLOB_FW_MEM_UNMAP then c.fwMemMap
  else return 0

/-- The blob is a list of memory regions. -/
def IsRegions : Prop :=
  c.blobType = CAM_ICP_CMD_GENERIC_BLOB_FW_MEM_MAP ∨ c.blobType = CAM_ICP_CMD_GENERIC_BLOB_FW_MEM_UNMAP

instance : Decidable c.IsRegions := inferInstanceAs (Decidable (_ ∨ _))

def numRegions : ℕ := (wordAt c.mem 4).toNat

/-- The size of the structure that the type asks for, with its array. -/
def needed : ℕ :=
  if c.blobType = CAM_ICP_CMD_GENERIC_BLOB_CLK then sizeofClkBwRequest
  else if c.blobType = CAM_ICP_CMD_GENERIC_BLOB_CFG_IO then 4
  else if c.IsRegions then 8 + sizeofMemRegionInfo * c.numRegions
  else 0

def Safe : Prop :=
  BlobReader.Safe c.blobSize.toNat c.needed (outcome c.packetGenericBlobHandler)

/-- The first region that the memory manager refuses. -/
def firstRefused : Option ℕ := (List.range c.numRegions).find? (c.regionRc · ≠ 0)

/-- The regions reach the firmware, and it answers. -/
def Answered : Prop := c.asyncAlloc ∧ c.hfiWriteRc = 0 ∧ c.responds

instance : Decidable c.Answered := inferInstanceAs (Decidable (_ ∧ _ ∧ _))

/-- The part of the regions that is looked at lies in the blob: none when there is no memory for the
command; the handle of a region that is refused and what is before it; or else all of them up to the
last offset, and up to the end if the call succeeds. -/
def RegionsFit : Prop :=
  8 ≤ c.blobSize.toNat ∧ (c.mapCmdAlloc → c.numRegions ≠ 0 →
    match c.firstRefused with
    | some k => 8 + sizeofMemRegionInfo * k + 4 ≤ c.blobSize.toNat
    | none => sizeofMemRegionInfo * c.numRegions ≤ c.blobSize.toNat ∧
        (c.Answered → 8 + sizeofMemRegionInfo * c.numRegions ≤ c.blobSize.toNat))

def Good : Prop :=
  c.dataNull = false → c.blobSize ≠ 0 →
    (c.blobType = CAM_ICP_CMD_GENERIC_BLOB_CFG_IO → 4 ≤ c.blobSize.toNat) ∧
      (c.IsRegions → c.RegionsFit)

variable {c} {size : ℕ}

lemma mapRegion_ok {i : ℕ} (h : c.regionRc i = 0) (t : Trace) :
    c.mapRegion i t = .ok () ((t.addRead (8 + sizeofMemRegionInfo * i) 4).addRead
      (8 + sizeofMemRegionInfo * i + 4) 4) := by
  have hrun : c.mapRegion i = (do
      read (8 + sizeofMemRegionInfo * i) 4
      read (8 + sizeofMemRegionInfo * i + 4) 4) := by
    rw [mapRegion, if_neg (not_not_intro h)]
  rw [hrun]
  rfl

lemma mapRegion_refused {i : ℕ} (h : c.regionRc i ≠ 0) (t : Trace) :
    c.mapRegion i t = .error (-Errno.EINVAL) (t.addRead (8 + sizeofMemRegionInfo * i) 4) := by
  have hrun : c.mapRegion i = (do
      read (8 + sizeofMemRegionInfo * i) 4
      throw (-Errno.EINVAL)) := by
    rw [mapRegion, if_pos h]
  rw [hrun]
  rfl

/-- The regions from `s` on. -/
def regionsFrom (s n : ℕ) : ReadM Unit := do
  for i in List.range' s n do
    c.mapRegion i

lemma regionsFrom_ok {s n : ℕ} {t t' : Trace} (h : c.mapRegion s t = .ok () t') :
    regionsFrom (c := c) s (n + 1) t = regionsFrom (c := c) (s + 1) n t' := by
  rw [regionsFrom, List.range'_succ]
  simp only [List.forIn_cons, bind, EStateM.bind, h]
  rfl

lemma regionsFrom_error {s n : ℕ} {t t' : Trace} {e : ℤ} (h : c.mapRegion s t = .error e t') :
    regionsFrom (c := c) s (n + 1) t = .error e t' := by
  rw [regionsFrom, List.range'_succ]
  simp only [List.forIn_cons, bind, EStateM.bind, h]

variable (size) in
lemma regionsFrom_run (s n : ℕ) (t : Trace) :
    match (List.range' s n).find? (c.regionRc · ≠ 0) with
    | some k => s ≤ k ∧ ∃ t', regionsFrom (c := c) s n t = .error (-Errno.EINVAL) t' ∧
        (t'.Within size ↔ t.Within size ∧ 8 + sizeofMemRegionInfo * k + 4 ≤ size)
    | none => ∃ t', regionsFrom (c := c) s n t = .ok () t' ∧
        (t'.Within size ↔ t.Within size ∧ (n = 0 ∨ sizeofMemRegionInfo * (s + n) ≤ size)) := by
  induction n generalizing s t with
  | zero => exact ⟨t, rfl, by simp⟩
  | succ n ih =>
    rw [List.range'_succ]
    by_cases hs : c.regionRc s = 0
    · rw [List.find?_cons_of_neg (by simpa using hs)]
      have hih := ih (s + 1) ((t.addRead (8 + sizeofMemRegionInfo * s) 4).addRead
        (8 + sizeofMemRegionInfo * s + 4) 4)
      rw [regionsFrom_ok (mapRegion_ok hs t)]
      rw [Trace.within_addRead_iff, Trace.within_addRead_iff] at hih
      cases hfind : (List.range' (s + 1) n).find? (c.regionRc · ≠ 0) with
      | some k =>
        rw [hfind] at hih
        obtain ⟨hle, t', hrun, hwithin⟩ := hih
        refine ⟨by omega, t', hrun, hwithin.trans ?_⟩
        simp only [sizeofMemRegionInfo]
        constructor
        · rintro ⟨⟨⟨ht, -⟩, -⟩, hk⟩
          exact ⟨ht, hk⟩
        · rintro ⟨ht, hk⟩
          exact ⟨⟨⟨ht, by omega⟩, by omega⟩, hk⟩
      | none =>
        rw [hfind] at hih
        obtain ⟨t', hrun, hwithin⟩ := hih
        refine ⟨t', hrun, hwithin.trans ?_⟩
        simp only [sizeofMemRegionInfo]
        constructor
        · rintro ⟨⟨⟨ht, -⟩, hread⟩, hn⟩
          exact ⟨ht, by omega⟩
        · rintro ⟨ht, hn⟩
          exact ⟨⟨⟨ht, by omega⟩, by omega⟩, by omega⟩
    · rw [List.find?_cons_of_pos (by simpa using hs)]
      exact ⟨le_rfl, _, regionsFrom_error (mapRegion_refused hs t), Trace.within_addRead_iff⟩

lemma processStreamSettings_noMem (n : UInt32) (t : Trace) (h : c.mapCmdAlloc = false) :
    c.processStreamSettings n t = .error (-Errno.ENOMEM) t := by
  rw [processStreamSettings, if_pos (by simp [h])]
  rfl

lemma processStreamSettings_refused {n : UInt32} {t t' : Trace} {e : ℤ} (h : c.mapCmdAlloc)
    (hrun : c.mapRegions n.toNat t = .error e t') :
    c.processStreamSettings n t = .error e t' := by
  rw [processStreamSettings, if_neg (by simp [h])]
  simp only [bind, EStateM.bind, hrun]

lemma processStreamSettings_sent {n : UInt32} {t t' : Trace} (h : c.mapCmdAlloc)
    (hrun : c.mapRegions n.toNat t = .ok () t') :
    (c.Answered ∧ c.processStreamSettings n t = .ok 0 t') ∨
      ¬c.Answered ∧ ∃ e, e ≠ 0 ∧ c.processStreamSettings n t = .error e t' := by
  rw [processStreamSettings, if_neg (by simp [h])]
  simp only [bind, EStateM.bind, hrun, Answered]
  split_ifs with halloc hwrite hresp
  · exact .inr ⟨by simp_all, _, by decide, rfl⟩
  · exact .inr ⟨by simp_all, _, hwrite, rfl⟩
  · exact .inr ⟨by simp_all, _, by decide, rfl⟩
  · exact .inl ⟨by simp_all, rfl⟩

lemma fwMemMap_safe_iff :
    BlobReader.Safe c.blobSize.toNat (8 + sizeofMemRegionInfo * c.numRegions) (outcome c.fwMemMap) ↔
      c.RegionsFit := by
  have hhead : (Trace.empty.addRead 4 4).Within c.blobSize.toNat ↔ 8 ≤ c.blobSize.toNat := by
    rw [Trace.within_addRead_iff]
    simp [Trace.within_empty]
  have hnum : wordAt c.mem 4 = 0 ↔ c.numRegions = 0 := by
    rw [numRegions, ← UInt32.toNat_inj]
    rfl
  rw [RegionsFit, ← hhead]
  by_cases hzero : c.numRegions = 0
  · have hrun : c.fwMemMap Trace.empty = .error (-Errno.EINVAL) (Trace.empty.addRead 4 4) := by
      rw [fwMemMap, word_bind, if_pos (hnum.mpr hzero)]
      rfl
    rw [BlobReader.safe_error_iff hrun (by decide)]
    exact ⟨fun h => ⟨h, fun _ hne => absurd hzero hne⟩, And.left⟩
  · have hrun : c.fwMemMap Trace.empty =
        c.processStreamSettings (wordAt c.mem 4) (Trace.empty.addRead 4 4) := by
      rw [fwMemMap, word_bind, if_neg (mt hnum.mp hzero)]
    cases halloc : c.mapCmdAlloc with
    | false =>
      rw [BlobReader.safe_error_iff (hrun.trans (processStreamSettings_noMem _ _ halloc)) (by decide)]
      exact ⟨fun h => ⟨h, by simp⟩, And.left⟩
    | true =>
      have hloop := regionsFrom_run (c := c) c.blobSize.toNat 0 c.numRegions
        (Trace.empty.addRead 4 4)
      rw [← List.range_eq_range'] at hloop
      simp only [forall_const, ne_eq, hzero, not_false_eq_true]
      rw [firstRefused]
      cases hfind : (List.range c.numRegions).find? (c.regionRc · ≠ 0) with
      | some k =>
        rw [hfind] at hloop
        obtain ⟨-, t, hregions, hwithin⟩ := hloop
        rw [regionsFrom, ← List.range_eq_range'] at hregions
        rw [BlobReader.safe_error_iff (hrun.trans (processStreamSettings_refused halloc hregions))
          (by decide)]
        exact hwithin
      | none =>
        rw [hfind] at hloop
        obtain ⟨t, hregions, hwithin⟩ := hloop
        rw [regionsFrom, ← List.range_eq_range'] at hregions
        rw [or_iff_right hzero, Nat.zero_add] at hwithin
        rcases processStreamSettings_sent halloc hregions with ⟨hans, hsent⟩ | ⟨hans, e, he, hsent⟩
        · rw [BlobReader.safe_zero_iff (hrun.trans hsent), hwithin, and_assoc]
          simp only [hans, forall_const]
        · rw [BlobReader.safe_error_iff (hrun.trans hsent) he, hwithin]
          simp only [hans, false_imp_iff, and_true]

lemma cfgIo_safe_iff : BlobReader.Safe c.blobSize.toNat 4 (outcome c.cfgIo) ↔ 4 ≤ c.blobSize.toNat := by
  constructor
  · intro h
    have hreads := h.within.reads (0, 4)
    have hout : (0, 4) ∈ (outcome c.cfgIo).2.reads := by
      rw [cfgIo, outcome, word_bind]
      by_cases hcopy : c.copyFails
      · rw [if_pos hcopy]
        exact List.mem_singleton.mpr rfl
      · rw [if_neg hcopy]
        exact List.mem_singleton.mpr rfl
    exact hreads hout
  · intro h
    refine Keeps.safe ((word_keeps h).bind fun _ _ => ?_)
    exact .ite (fun _ => .throw (by decide)) fun _ => .pure h

lemma IsRegions.needed_eq (h : c.IsRegions) :
    c.needed = 8 + sizeofMemRegionInfo * c.numRegions := by
  rcases h with h | h <;> simp only [needed, IsRegions, h] <;> rfl

lemma safe_of_noData (h : c.dataNull ∨ c.blobSize = 0) : c.Safe := by
  rw [Safe, packetGenericBlobHandler, if_pos h]
  exact Keeps.safe (.throw (by decide))

lemma clk_safe (hdata : ¬(c.dataNull ∨ c.blobSize = 0))
    (h : c.blobType = CAM_ICP_CMD_GENERIC_BLOB_CLK) : c.Safe := by
  rw [Safe, packetGenericBlobHandler, if_neg hdata, if_pos h, needed, if_pos h]
  refine Keeps.safe (.ite (fun _ => .throw (by decide)) fun hsize => ?_)
  have hsize := not_not.mp hsize
  exact (Keeps.read (by omega)).bind fun _ _ => .pure hsize.ge

lemma handler_of_regions (hdata : ¬(c.dataNull ∨ c.blobSize = 0)) (h : c.IsRegions) :
    c.packetGenericBlobHandler = c.fwMemMap := by
  rw [packetGenericBlobHandler, if_neg hdata]
  rcases h with h | h <;> rw [h] <;> rfl

lemma packetBlob_safe_iff (c : Call) : c.Safe ↔ c.Good := by
  by_cases hdata : c.dataNull ∨ c.blobSize = 0
  · refine ⟨fun _ hnull hsize => absurd hdata ?_, fun _ => safe_of_noData hdata⟩
    simp [hnull, hsize]
  have hgood : c.Good ↔ (c.blobType = CAM_ICP_CMD_GENERIC_BLOB_CFG_IO → 4 ≤ c.blobSize.toNat) ∧
      (c.IsRegions → c.RegionsFit) := by
    rw [not_or, Bool.not_eq_true] at hdata
    exact ⟨fun h => h hdata.1 hdata.2, fun h _ _ => h⟩
  rw [hgood]
  by_cases hclk : c.blobType = CAM_ICP_CMD_GENERIC_BLOB_CLK
  · refine iff_of_true (clk_safe hdata hclk) ⟨fun h => ?_, fun h => ?_⟩
    · exact absurd (hclk.symm.trans h) (by decide)
    · rcases h with h | h <;> exact absurd (hclk.symm.trans h) (by decide)
  by_cases hcfg : c.blobType = CAM_ICP_CMD_GENERIC_BLOB_CFG_IO
  · have hregions : ¬c.IsRegions := by
      rintro (h | h) <;> exact absurd (hcfg.symm.trans h) (by decide)
    rw [Safe, packetGenericBlobHandler, if_neg hdata, if_neg hclk, if_pos hcfg, needed, if_neg hclk,
      if_pos hcfg, cfgIo_safe_iff]
    exact ⟨fun h => ⟨fun _ => h, fun hr => absurd hr hregions⟩, fun h => h.1 hcfg⟩
  by_cases hregions : c.IsRegions
  · rw [Safe, handler_of_regions hdata hregions, hregions.needed_eq, fwMemMap_safe_iff]
    exact ⟨fun h => ⟨fun hc => absurd hc hcfg, fun _ => h⟩, fun h => h.2 hregions⟩
  · have hother : c.Safe := by
      obtain ⟨hmap, hunmap⟩ := not_or.mp hregions
      rw [Safe, packetGenericBlobHandler, if_neg hdata, if_neg hclk, if_neg hcfg, if_neg hmap,
        if_neg hunmap, needed, if_neg hclk, if_neg hcfg, if_neg hregions]
      exact Keeps.safe (.pure (Nat.zero_le _))
    exact iff_of_true hother ⟨fun h => absurd h hcfg, fun h => absurd h hregions⟩

end Call

/-- A call of one of the handlers of generic blobs. -/
inductive BlobCall
  | isp (c : IspBlobs.Call)
  | icp (c : Call)

namespace BlobCall

def Safe : BlobCall → Prop
  | isp c => c.Safe
  | icp c => c.Safe

def Good : BlobCall → Prop
  | isp c => c.Good
  | icp c => c.Good

theorem handler_safe_iff_good (call : BlobCall) : call.Safe ↔ call.Good := by
  cases call with
  | isp c => exact c.packetBlob_safe_iff
  | icp c => exact c.packetBlob_safe_iff

/-- A bandwidth blob without RDI votes, of 80 zeros, for a context without resources. -/
def shortBw : IspBlobs.Call :=
  ⟨some ⟨some ⟨false, ⟨[], [], [], fun _ => ⟨true, []⟩⟩, 0, 20⟩, ⟨0, 1024⟩, 0⟩,
    IspBlobs.CAM_ISP_GENERIC_BLOB_TYPE_BW_CONFIG, 80, false, fun _ => 0⟩

theorem not_handler_safe : ¬(isp shortBw).Safe := by
  intro h
  have hreads := h.within.reads (0, 152) (by decide)
  exact absurd hreads (by decide)

end BlobCall
end CameraKernel.IcpBlobs
