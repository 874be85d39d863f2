import CameraKernel.CdmUtil

/-! The dump of a command buffer: a record for each command that writes registers, put one behind the
other into a destination of limited size. -/
namespace CameraKernel.CdmUtil

/-- The parts of `struct cam_cdm_cmd_dump_header`: a tag of 32 bytes, the size and the word size. -/
def camCdmCmdTagMaxLen : ℕ := 32
def dumpHeaderWordSizeAt : ℕ := 40
def sizeofDumpHeader : ℕ := 48

/-- What is put at `dstOffset`: the header's tag, and the words behind the header. -/
structure DumpRecord where
  dstOffset : ℕ
  tag : String
  words : List UInt32
  deriving DecidableEq, Repr

/-- The bytes a record writes, as places with lengths: the tag with its zero, the word size, the words
and the size. -/
def DumpRecord.extents (r : DumpRecord) : List (ℕ × ℕ) :=
  [(r.dstOffset, min (r.tag.length + 1) camCdmCmdTagMaxLen),
    (r.dstOffset + dumpHeaderWordSizeAt, 4),
    (r.dstOffset + sizeofDumpHeader, 4 * r.words.length),
    (r.dstOffset + camCdmCmdTagMaxLen, 8)]

def DumpRecord.dumpSize (r : DumpRecord) : ℕ := sizeofDumpHeader + 4 * r.words.length

/-- `struct cam_cdm_cmd_buf_dump_info`; 0 is NULL. -/
structure DumpInfo where
  srcStart : ℕ
  srcEnd : ℕ
  dstStart : ℕ
  dstOffset : UInt32
  dstMaxSize : UInt32
  deriving DecidableEq, Repr

/-- The variables of the loop and the records so far. -/
structure DumpState where
  bufNow : ℕ
  dstOffset : UInt32
  records : List DumpRecord
  deriving DecidableEq, Repr

/-- The space that is left, as the code computes it. -/
def remainLen (dstMaxSize : UInt32) (s : DumpState) : UInt32 := dstMaxSize - s.dstOffset

/-- Put a record and move on by `advance` words; `minLen` is what is asked for first, and without it
only the command's header is passed over. -/
def dumpRecord (dstMaxSize : UInt32) (s : DumpState) (header advance minLen : ℕ) (tag : String)
    (words : List UInt32) : DumpState :=
  if (remainLen dstMaxSize s).toNat < minLen then { s with bufNow := s.bufNow + header }
  else
    let record : DumpRecord := ⟨s.dstOffset.toNat, tag, words⟩
    { bufNow := s.bufNow + advance
      dstOffset := s.dstOffset + UInt32.ofNat record.dumpSize
      records := s.records ++ [record] }

def regContWords (buf : Memory) (p : ℕ) : List UInt32 :=
  UInt32.ofNat (offsetField (buf (p + 1))) :: UInt32.ofNat (countField (buf p)) ::
    (List.range' (p + cdmGetCmdHeaderSize .regCont) (countField (buf p))).map buf

def dumpRegContCmdV2 (buf : Memory) (dstMaxSize : UInt32) (s : DumpState) : DumpState :=
  let count := countField (buf s.bufNow)
  dumpRecord dstMaxSize s (cdmGetCmdHeaderSize .regCont) (cdmRequiredSizeRegContinuous count)
    (4 * count + sizeofDumpHeader) "CDM_REG_CONT:" (regContWords buf s.bufNow)

def camCdmRegOffsetMask : UInt32 := 0x00FFFFFF

def regRandomWords (buf : Memory) (p : ℕ) : List UInt32 :=
  UInt32.ofNat (countField (buf p)) :: (List.range (countField (buf p))).flatMap fun i =>
    [buf (p + cdmGetCmdHeaderSize .regRandom + 2 * i) &&& camCdmRegOffsetMask,
      buf (p + cdmGetCmdHeaderSize .regRandom + 2 * i + 1)]

def dumpRegRandomCmdV2 (buf : Memory) (dstMaxSize : UInt32) (s : DumpState) : DumpState :=
  let count := countField (buf s.bufNow)
  dumpRecord dstMaxSize s (cdmGetCmdHeaderSize .regRandom) (cdmRequiredSizeRegRandom count)
    (2 * 4 * count + sizeofDumpHeader) "CDM_REG_RANDOM:" (regRandomWords buf s.bufNow)

def cdmCmdDmi32 : ℕ := 0xa
def cdmCmdDmi64 : ℕ := 0xb

/-- The commands whose size is their entry of `CDMCmdHeaderSizes`: indirect buffers, IRQs, wait events,
base changes and the performance control. -/
def hasHeaderSize (cmd : ℕ) : Bool := 0x5 ≤ cmd && cmd ≤ 0x9

/-- One round of `cam_cdm_util_dump_cmd_bufs_v2`. -/
def dumpCmd (buf : Memory) (dstMaxSize : UInt32) (s : DumpState) : DumpState :=
  let cmd := cmdField (buf s.bufNow)
  if cmd = CdmCommand.id .dmi ∨ cmd = cdmCmdDmi32 ∨ cmd = cdmCmdDmi64 then
    { s with bufNow := s.bufNow + cdmRequiredSizeDmi }
  else if cmd = CdmCommand.id .regCont then dumpRegContCmdV2 buf dstMaxSize s
  else if cmd = CdmCommand.id .regRandom then dumpRegRandomCmdV2 buf dstMaxSize s
  else if hasHeaderSize cmd then { s with bufNow := s.bufNow + cdmCmdHeaderSizes.getD cmd 0 }
  else { s with bufNow := s.bufNow + 1 }

def dumpBody (buf : Memory) (dumpInfo : DumpInfo) (s : DumpState) : DumpState ⊕ DumpState :=
  let s := dumpCmd buf dumpInfo.dstMaxSize s
  if s.bufNow ≤ dumpInfo.srcEnd then .inr s else .inl s

def dumpStart (dumpInfo : DumpInfo) : DumpState := ⟨dumpInfo.srcStart, dumpInfo.dstOffset, []⟩

/-- The call comes to the head of its loop in state `s`. -/
def DumpReaches (buf : Memory) (dumpInfo : DumpInfo) (s : DumpState) : Prop :=
  dumpInfo.srcStart ≠ 0 ∧ dumpInfo.srcEnd ≠ 0 ∧ dumpInfo.dstStart ≠ 0 ∧
    WhileLoop.Reaches (dumpBody buf dumpInfo) (dumpStart dumpInfo) s

/-- The words of the command at `p`, header and payload. -/
def encodedSize (buf : Memory) (p : ℕ) : ℕ :=
  let cmd := cmdField (buf p)
  if cmd = CdmCommand.id .dmi ∨ cmd = cdmCmdDmi32 ∨ cmd = cdmCmdDmi64 then cdmRequiredSizeDmi
  else if cmd = CdmCommand.id .regCont then cdmRequiredSizeRegContinuous (countField (buf p))
  else if cmd = CdmCommand.id .regRandom then cdmRequiredSizeRegRandom (countField (buf p))
  else if hasHeaderSize cmd then cdmCmdHeaderSizes.getD cmd 0
  else 1

/-- A round from `s` writes below the end of the destination, keeps the offset there and passes over
the whole command. -/
structure RoundSafe (buf : Memory) (dstMaxSize : UInt32) (s : DumpState) : Prop where
  writes : ∃ new, (dumpCmd buf dstMaxSize s).records = s.records ++ new ∧
    ∀ r ∈ new, ∀ extent ∈ r.extents, extent.1 + extent.2 ≤ dstMaxSize.toNat
  dstOffset : (dumpCmd buf dstMaxSize s).dstOffset.toNat ≤ dstMaxSize.toNat
  advance : (dumpCmd buf dstMaxSize s).bufNow = s.bufNow + encodedSize buf s.bufNow

/-- Every round of the call is safe. -/
def DumpSafe (buf : Memory) (dumpInfo : DumpInfo) : Prop :=
  ∀ s, DumpReaches buf dumpInfo s → RoundSafe buf dumpInfo.dstMaxSize s

/-- The whole record fits, or the command has no payload and not even the header fits. -/
def recordFits (dstMaxSize : UInt32) (s : DumpState) (count size : ℕ) : Bool :=
  s.dstOffset.toNat + size ≤ dstMaxSize.toNat ||
    (count = 0 && dstMaxSize.toNat < s.dstOffset.toNat + sizeofDumpHeader)

/-- What the two register commands need: two words of bookkeeping for a range, one for a list. -/
def roundFits (buf : Memory) (dstMaxSize : UInt32) (s : DumpState) : Bool :=
  let cmd := cmdField (buf s.bufNow)
  let count := countField (buf s.bufNow)
  if cmd = CdmCommand.id .regCont then
    recordFits dstMaxSize s count (sizeofDumpHeader + 4 * (2 + count))
  else if cmd = CdmCommand.id .regRandom then
    recordFits dstMaxSize s count (sizeofDumpHeader + 4 * (1 + 2 * count))
  else true

variable {buf : Memory} {dstMaxSize : UInt32} {s : DumpState} {dumpInfo : DumpInfo}

lemma DumpRecord.extents_le {r : DumpRecord} {size : ℕ} :
    (∀ extent ∈ r.extents, extent.1 + extent.2 ≤ size) ↔ r.dstOffset + r.dumpSize ≤ size := by
  simp only [extents, dumpSize, List.forall_mem_cons, camCdmCmdTagMaxLen, dumpHeaderWordSizeAt,
    sizeofDumpHeader, List.not_mem_nil, false_implies, implies_true, and_true]
  omega

lemma dumpRecord_safe_iff {header advance minLen size count : ℕ} {tag : String} {words : List UInt32}
    (hoff : s.dstOffset.toNat ≤ dstMaxSize.toNat)
    (hsize : (⟨s.dstOffset.toNat, tag, words⟩ : DumpRecord).dumpSize = size)
    (hmin : sizeofDumpHeader ≤ minLen) (hminSize : minLen < size) (hsmall : size < 2 ^ 32)
    (hcount : header = advance ↔ count = 0) (hzero : count = 0 → minLen = sizeofDumpHeader) :
    ((∃ new, (dumpRecord dstMaxSize s header advance minLen tag words).records = s.records ++ new ∧
        ∀ r ∈ new, ∀ extent ∈ r.extents, extent.1 + extent.2 ≤ dstMaxSize.toNat) ∧
      (dumpRecord dstMaxSize s header advance minLen tag words).dstOffset.toNat ≤ dstMaxSize.toNat ∧
      (dumpRecord dstMaxSize s header advance minLen tag words).bufNow = s.bufNow + advance) ↔
    recordFits dstMaxSize s count size = true := by
  have hremain : (remainLen dstMaxSize s).toNat = dstMaxSize.toNat - s.dstOffset.toNat :=
    UInt32.toNat_sub_of_le _ _ (UInt32.le_iff_toNat_le.mpr hoff)
  have hfits : recordFits dstMaxSize s count size = true ↔
      s.dstOffset.toNat + size ≤ dstMaxSize.toNat ∨
        (count = 0 ∧ dstMaxSize.toNat < s.dstOffset.toNat + sizeofDumpHeader) := by
    simp [recordFits]
  rw [hfits, dumpRecord]
  by_cases hshort : (remainLen dstMaxSize s).toNat < minLen
  · rw [if_pos hshort]
    constructor
    · rintro ⟨-, -, hadvance⟩
      have hno := hcount.mp (Nat.add_left_cancel hadvance)
      exact .inr ⟨hno, by have := hzero hno; omega⟩
    · rintro (hlong | ⟨hno, -⟩)
      · omega
      · exact ⟨⟨[], by simp, by simp⟩, hoff, by rw [hcount.mpr hno]⟩
  · rw [if_neg hshort]
    constructor
    · rintro ⟨⟨new, hnew, hextents⟩, -, -⟩
      have hlast := List.append_cancel_left hnew
      have hle := DumpRecord.extents_le.mp (hextents _ (hlast ▸ List.mem_singleton_self _))
      rw [hsize] at hle
      exact .inl hle
    · rintro (hlong | ⟨-, hfull⟩)
      · have hmax := dstMaxSize.toNat_lt
        refine ⟨⟨_, rfl, ?_⟩, ?_, rfl⟩
        · intro r hr
          rw [List.mem_singleton.mp hr]
          exact DumpRecord.extents_le.mpr (by rw [hsize]; exact hlong)
        · change (s.dstOffset + UInt32.ofNat _).toNat ≤ _
          rw [hsize, UInt32.toNat_add, UInt32.toNat_ofNat_of_lt' hsmall,
            Nat.mod_eq_of_lt (by omega)]
          exact hlong
      · omega

lemma regContWords_length (buf : Memory) (p : ℕ) :
    (regContWords buf p).length = 2 + countField (buf p) := by
  simp only [regContWords, List.length_cons, List.length_map, List.length_range']
  omega

lemma regRandomWords_length (buf : Memory) (p : ℕ) :
    (regRandomWords buf p).length = 1 + 2 * countField (buf p) := by
  simp only [regRandomWords, List.length_cons, List.length_flatMap, List.length_nil]
  simp
  omega

lemma roundSafe_iff_parts : RoundSafe buf dstMaxSize s ↔
    (∃ new, (dumpCmd buf dstMaxSize s).records = s.records ++ new ∧
        ∀ r ∈ new, ∀ extent ∈ r.extents, extent.1 + extent.2 ≤ dstMaxSize.toNat) ∧
      (dumpCmd buf dstMaxSize s).dstOffset.toNat ≤ dstMaxSize.toNat ∧
      (dumpCmd buf dstMaxSize s).bufNow = s.bufNow + encodedSize buf s.bufNow :=
  ⟨fun h => ⟨h.writes, h.dstOffset, h.advance⟩, fun h => ⟨h.1, h.2.1, h.2.2⟩⟩

lemma roundSafe_of_moves (hoff : s.dstOffset.toNat ≤ dstMaxSize.toNat)
    (hcmd : dumpCmd buf dstMaxSize s = { s with bufNow := s.bufNow + encodedSize buf s.bufNow }) :
    RoundSafe buf dstMaxSize s := by
  rw [roundSafe_iff_parts, hcmd]
  exact ⟨⟨[], by simp, by simp⟩, hoff, rfl⟩

lemma roundSafe_iff (hoff : s.dstOffset.toNat ≤ dstMaxSize.toNat) :
    RoundSafe buf dstMaxSize s ↔ roundFits buf dstMaxSize s = true := by
  have hlt := countField_lt (buf s.bufNow)
  by_cases hdmi : cmdField (buf s.bufNow) = CdmCommand.id .dmi ∨
      cmdField (buf s.bufNow) = cdmCmdDmi32 ∨ cmdField (buf s.bufNow) = cdmCmdDmi64
  · have hcont : cmdField (buf s.bufNow) ≠ CdmCommand.id .regCont := by
      rcases hdmi with h | h | h <;> rw [h] <;> decide
    have hrandom : cmdField (buf s.bufNow) ≠ CdmCommand.id .regRandom := by
      rcases hdmi with h | h | h <;> rw [h] <;> decide
    refine iff_of_true (roundSafe_of_moves hoff ?_) (by rw [roundFits, if_neg hcont, if_neg hrandom])
    rw [dumpCmd, if_pos hdmi, encodedSize, if_pos hdmi]
  by_cases hcont : cmdField (buf s.bufNow) = CdmCommand.id .regCont
  · rw [roundSafe_iff_parts, dumpCmd, if_neg hdmi, if_pos hcont, encodedSize, if_neg hdmi,
      if_pos hcont, roundFits, if_pos hcont, dumpRegContCmdV2]
    refine dumpRecord_safe_iff hoff ?_ ?_ ?_ ?_ ?_ ?_
    · simp only [DumpRecord.dumpSize, regContWords_length]
    · omega
    · omega
    · simp only [sizeofDumpHeader]
      omega
    · simp only [cdmRequiredSizeRegContinuous]
      omega
    · intro hzero
      rw [hzero, Nat.mul_zero, Nat.zero_add]
  by_cases hrandom : cmdField (buf s.bufNow) = CdmCommand.id .regRandom
  · rw [roundSafe_iff_parts, dumpCmd, if_neg hdmi, if_neg hcont, if_pos hrandom, encodedSize,
      if_neg hdmi, if_neg hcont, if_pos hrandom, roundFits, if_neg hcont, if_pos hrandom,
      dumpRegRandomCmdV2]
    refine dumpRecord_safe_iff hoff ?_ ?_ ?_ ?_ ?_ ?_
    · simp only [DumpRecord.dumpSize, regRandomWords_length]
    · omega
    · omega
    · simp only [sizeofDumpHeader]
      omega
    · simp only [cdmRequiredSizeRegRandom]
      omega
    · intro hzero
      rw [hzero, Nat.mul_zero, Nat.zero_add]
  refine iff_of_true (roundSafe_of_moves hoff ?_) (by rw [roundFits, if_neg hcont, if_neg hrandom])
  rw [dumpCmd, if_neg hdmi, if_neg hcont, if_neg hrandom, encodedSize, if_neg hdmi, if_neg hcont,
    if_neg hrandom]
  split_ifs <;> rfl

lemma dumpBody_continues {t : DumpState} (h : dumpBody buf dumpInfo s = .inr t) :
    t = dumpCmd buf dumpInfo.dstMaxSize s := by
  simp only [dumpBody] at h
  split_ifs at h
  exact (Sum.inr.inj h).symm

lemma dstOffset_le (hoff : dumpInfo.dstOffset.toNat ≤ dumpInfo.dstMaxSize.toNat)
    (hfits : ∀ s, DumpReaches buf dumpInfo s → roundFits buf dumpInfo.dstMaxSize s = true)
    (h : DumpReaches buf dumpInfo s) : s.dstOffset.toNat ≤ dumpInfo.dstMaxSize.toNat := by
  obtain ⟨hstart, hend, hdst, hreach⟩ := h
  induction hreach with
  | refl => exact hoff
  | @step t u ht hb ih =>
    have hsafe := (roundSafe_iff ih).mpr (hfits t ⟨hstart, hend, hdst, ht⟩)
    rw [dumpBody_continues hb]
    exact hsafe.dstOffset

lemma DumpSafe.dstOffset_le (hoff : dumpInfo.dstOffset.toNat ≤ dumpInfo.dstMaxSize.toNat)
    (hsafe : DumpSafe buf dumpInfo) (h : DumpReaches buf dumpInfo s) :
    s.dstOffset.toNat ≤ dumpInfo.dstMaxSize.toNat := by
  obtain ⟨hstart, hend, hdst, hreach⟩ := h
  cases hreach with
  | refl => exact hoff
  | @step t u ht hb =>
    rw [dumpBody_continues hb]
    exact (hsafe t ⟨hstart, hend, hdst, ht⟩).dstOffset

/-- A dump is safe just where every record it comes to fits whole, or is empty and does not fit at
all. -/
theorem dumpCmdBufsV2_safe_iff (buf : Memory) (dumpInfo : DumpInfo)
    (hoff : dumpInfo.dstOffset.toNat ≤ dumpInfo.dstMaxSize.toNat) :
    DumpSafe buf dumpInfo ↔
      ∀ s, DumpReaches buf dumpInfo s → roundFits buf dumpInfo.dstMaxSize s = true := by
  constructor
  · intro hsafe s hs
    exact (roundSafe_iff (hsafe.dstOffset_le hoff hs)).mp (hsafe s hs)
  · intro hfits s hs
    exact (roundSafe_iff (dstOffset_le hoff hfits hs)).mpr (hfits s hs)

/-- One range of no registers and no room beyond the header of its record. -/
theorem dumpCmdBufsV2_overruns :
    ¬∀ (buf : Memory) (dumpInfo : DumpInfo),
      dumpInfo.dstOffset.toNat ≤ dumpInfo.dstMaxSize.toNat → DumpSafe buf dumpInfo := by
  intro hall
  have hsafe := hall (fun _ => headerWord 0 (CdmCommand.id .regCont)) ⟨1, 1, 1, 0, 48⟩ (by decide)
  have hround := hsafe _ ⟨by decide, by decide, by decide, .refl⟩
  have hoff := hround.dstOffset
  revert hoff
  decide

/-- A range of two registers, and a list of one. -/
def twoCommands : Memory := fun p =>
  [0, headerWord 2 (CdmCommand.id .regCont), 0x100, 5, 6,
    headerWord 1 (CdmCommand.id .regRandom), 0x200, 7].getD p 0

theorem dumpCmdBufsV2_safe_roomy : DumpSafe twoCommands ⟨1, 7, 1, 0, 124⟩ := by
  refine (dumpCmdBufsV2_safe_iff _ _ (by decide)).mpr fun s hs => ?_
  obtain ⟨-, -, -, hreach⟩ := hs
  have hround : ∀ t u, (t = dumpStart ⟨1, 7, 1, 0, 124⟩ ∨
      t = dumpCmd twoCommands 124 (dumpStart ⟨1, 7, 1, 0, 124⟩)) →
      dumpBody twoCommands ⟨1, 7, 1, 0, 124⟩ t = .inr u → u = dumpStart ⟨1, 7, 1, 0, 124⟩ ∨
        u = dumpCmd twoCommands 124 (dumpStart ⟨1, 7, 1, 0, 124⟩) := by
    intro t u ht hb
    rw [dumpBody_continues hb]
    rcases ht with rfl | rfl
    · exact .inr rfl
    · have hright := congrArg Sum.isRight hb
      rw [Sum.isRight_inr] at hright
      exact absurd hright (by decide)
  have hrounds := WhileLoop.Reaches.invariant hround (.inl rfl) hreach
  rcases hrounds with rfl | rfl
  · decide
  · decide

lemma dumpRecord_moves {header advance minLen : ℕ} {tag : String} {words : List UInt32}
    (hheader : 0 < header) (hadvance : 0 < advance) :
    s.bufNow < (dumpRecord dstMaxSize s header advance minLen tag words).bufNow := by
  unfold dumpRecord
  split_ifs
  · exact Nat.lt_add_of_pos_right hheader
  · exact Nat.lt_add_of_pos_right hadvance

lemma headerSize_pos {cmd : ℕ} (h : hasHeaderSize cmd = true) : 0 < cdmCmdHeaderSizes.getD cmd 0 := by
  simp only [hasHeaderSize, Bool.and_eq_true, decide_eq_true_eq] at h
  obtain ⟨hlow, hhigh⟩ := h
  interval_cases cmd <;> decide

lemma dumpCmd_moves (buf : Memory) (dstMaxSize : UInt32) (s : DumpState) :
    s.bufNow < (dumpCmd buf dstMaxSize s).bufNow := by
  have hcont : 0 < cdmGetCmdHeaderSize .regCont := by decide
  have hrandom : 0 < cdmGetCmdHeaderSize .regRandom := by decide
  have hdmi : 0 < cdmRequiredSizeDmi := by decide
  rw [dumpCmd]
  split_ifs with _ _ _ hheader
  · exact Nat.lt_add_of_pos_right hdmi
  · exact dumpRecord_moves hcont (Nat.add_pos_left hcont _)
  · exact dumpRecord_moves hrandom (Nat.add_pos_left hrandom _)
  · exact Nat.lt_add_of_pos_right (headerSize_pos hheader)
  · exact Nat.lt_add_one _

/-- A dump ends: every round moves on. -/
theorem dumpCmdBufsV2_returns (buf : Memory) (dumpInfo : DumpInfo) :
    ∃ t, WhileLoop.Returns (dumpBody buf dumpInfo) (dumpStart dumpInfo) t := by
  have hstep : ∀ t u, True → dumpBody buf dumpInfo t = .inr u →
      True ∧ dumpInfo.srcEnd + 1 - u.bufNow < dumpInfo.srcEnd + 1 - t.bufNow := by
    intro t u _ hb
    have hmoves := dumpCmd_moves buf dumpInfo.dstMaxSize t
    simp only [dumpBody] at hb
    split_ifs at hb with hle
    rw [← Sum.inr.inj hb]
    exact ⟨trivial, by omega⟩
  exact WhileLoop.exists_returns (fun t => dumpInfo.srcEnd + 1 - t.bufNow) hstep trivial

end CameraKernel.CdmUtil
