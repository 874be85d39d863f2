import CameraKernel.CdmDump

/-! The dumps of a context into a buffer that user space gives, from an offset that user space gives:
`cam_context_dump_context` and `__cam_isp_ctx_dump_in_top_state`. The offset is an `int32_t`, which the
sections of the second function take as unsigned. -/
namespace CameraKernel.ContextDump
open CdmUtil

/-- What has been written, as places with lengths relative to the start of the buffer, and the offset. -/
structure Dump where
  writes : List (ℤ × ℕ)
  offset : UInt32

def asInt (offset : UInt32) : ℤ := offset.toBitVec.toInt

def tagMaxLen : ℕ := 32
def wordSizeAt : ℕ := 40
def sizeofHeader : ℕ := 48

/-- A header with its tag, size and word size, and the words behind it. -/
def section_ (start : ℤ) (tag : String) (bytes : ℕ) : List (ℤ × ℕ) :=
  [(start, min (tag.length + 1) tagMaxLen), (start + tagMaxLen, 8), (start + wordSizeAt, 4),
    (start + sizeofHeader, bytes)]

def Dump.put (d : Dump) (start : ℤ) (tag : String) (bytes : ℕ) : Dump :=
  ⟨d.writes ++ section_ start tag bytes, d.offset + UInt32.ofNat (bytes + sizeofHeader)⟩

/-- Every byte of the write is one of the buffer. -/
def Inside (bufLen : ℕ) (write : ℤ × ℕ) : Prop :=
  ∀ k < write.2, 0 ≤ write.1 + k ∧ write.1 + k < bufLen

/-- Nothing is written outside the buffer, and the offset reported lies in it. -/
structure StaysIn (bufLen : ℕ) (d : Dump) : Prop where
  writes : ∀ write ∈ d.writes, Inside bufLen write
  offset : 0 ≤ asInt d.offset ∧ asInt d.offset ≤ bufLen

/-- `CAM_CTX_CFG_MAX`. -/
def camCtxCfgMax : ℕ := 20

/-- The first active request; an entry without a fence has sync id -1. -/
structure CtxRequest where
  outMapEntries : List ℤ
  inMapEntries : List ℤ
  numOut : outMapEntries.length ≤ camCtxCfgMax
  numIn : inMapEntries.length ≤ camCtxCfgMax

def fences (entries : List ℤ) : List ℤ := entries.filter (· ≠ -1)

/-- Five words, the fences and one word more. -/
def CtxRequest.bytes (req : CtxRequest) : ℕ :=
  8 * (5 + (fences req.outMapEntries).length + (fences req.inMapEntries).length + 1)

def ctxMinLen : ℕ := 2 * (sizeofHeader + tagMaxLen)

/-- `cam_context_dump_context`, with an active request and the buffer mapped. The space left is an
`uint32_t`. -/
def camContextDumpContext (devName : String) (req : CtxRequest) (bufLen : ℕ) (offset : UInt32) : Dump :=
  if ((bufLen : ℤ) - asInt offset) % 2 ^ 32 < ctxMinLen then ⟨[], offset⟩
  else Dump.put ⟨[], offset⟩ (asInt offset) (devName ++ "_CTXT_DUMP:") req.bytes

def camIspCtxDumpMinLength : ℕ := 2048
def camIspCtxEventRecordMaxEntries : ℕ := 20
def camIspCtxResMax : ℕ := 24
def camIspCtxCfgMax : ℕ := 22

/-- The events of `enum cam_isp_ctx_event` by their names. -/
def ispEvents : List String := ["SUBMIT", "APPLY", "EPOCH", "RUP", "BUFDONE"]

/-- A hardware update entry, with the length of the buffer its handle maps to and the command words at
its offset; `bufLen` is `none` where the handle has no mapping. -/
structure Cfg where
  bufLen : Option ℕ
  offset : UInt32
  len : UInt32
  words : Memory

/-- The hardware layer appends its own dump. -/
structure HwDump where
  report : UInt32 → UInt32
  le_report : ∀ o, o.toNat ≤ (report o).toNat

structure IspRequest where
  fenceMapOut : List ℤ
  cfg : List Cfg
  numFenceMapOut : fenceMapOut.length ≤ camIspCtxResMax
  numCfg : cfg.length ≤ camIspCtxCfgMax

/-- The five event records, three words for each of their entries. -/
def dumpEventRecord (d : Dump) : Dump :=
  ispEvents.foldl (fun d event => d.put d.offset.toNat ("ISP_EVT_" ++ event ++ ":")
    (8 * (3 * camIspCtxEventRecordMaxEntries))) d

/-- The `do` loop of `cam_cdm_util_dump_cmd_bufs_v2`, run to its end. -/
def dumpLoop (buf : Memory) (dumpInfo : DumpInfo) (s : DumpState) : DumpState :=
  if (dumpCmd buf dumpInfo.dstMaxSize s).bufNow ≤ dumpInfo.srcEnd then
    dumpLoop buf dumpInfo (dumpCmd buf dumpInfo.dstMaxSize s)
  else dumpCmd buf dumpInfo.dstMaxSize s
  termination_by dumpInfo.srcEnd + 1 - s.bufNow
  decreasing_by
    have := dumpCmd_moves buf dumpInfo.dstMaxSize s
    omega

/-- The source words start at word 1, so that their address is not null. -/
def Cfg.dumpInfo (c : Cfg) (bufLen : ℕ) (offset : UInt32) : DumpInfo :=
  ⟨1, 1 + (c.len.toNat - 1) / 4, 1, offset, UInt32.ofNat bufLen⟩

/-- The entry passes the checks of the loop. -/
def Cfg.valid (c : Cfg) : Bool :=
  match c.bufLen with
  | none => false
  | some len => c.offset.toNat < len && c.len.toNat ≤ len - c.offset.toNat && c.len ≠ 0

/-- One turn of the loop of `cam_isp_ctx_dump_req`. -/
def dumpCfg (bufLen : ℕ) (d : Dump) (c : Cfg) : Dump :=
  if !c.valid then d
  else
    let s := dumpLoop c.words (c.dumpInfo bufLen d.offset) (dumpStart (c.dumpInfo bufLen d.offset))
    ⟨d.writes ++ s.records.flatMap fun r => r.extents.map fun e => ((e.1 : ℤ), e.2), s.dstOffset⟩

/-- `__cam_isp_ctx_dump_req_info`: the output fences with their resources, then the commands. -/
def dumpReqInfo (req : IspRequest) (bufLen : ℕ) (d : Dump) : Dump :=
  req.cfg.foldl (dumpCfg bufLen)
    (d.put d.offset.toNat "ISP_OUT_FENCE:" (4 * (2 * (fences req.fenceMapOut).length)))

/-- `__cam_isp_ctx_dump_in_top_state`, with the request found and the buffer mapped. A request that
responds in time has its event records dumped only. -/
def dumpInTopState (req : IspRequest) (onlyEventRecord : Bool) (hwDump : Option HwDump) (bufLen : ℕ)
    (offset : UInt32) : Dump :=
  if ((bufLen : ℤ) - asInt offset) % 2 ^ 64 < camIspCtxDumpMinLength then ⟨[], offset⟩
  else
    let d := dumpEventRecord (Dump.put ⟨[], offset⟩ (asInt offset) "ISP_CTX_DUMP:" (8 * 5))
    if onlyEventRecord then d
    else
      let d := dumpReqInfo req bufLen d
      match hwDump with
      | none => d
      | some hwDump => { d with offset := hwDump.report d.offset }

lemma asInt_of_lt {offset : UInt32} (h : offset.toNat < 2 ^ 31) : asInt offset = offset.toNat := by
  rw [asInt, BitVec.toInt_eq_toNat_of_lt]
  · rfl
  · change 2 * offset.toNat < 2 ^ 32
    omega

lemma asInt_of_ge {offset : UInt32} (h : 2 ^ 31 ≤ offset.toNat) : asInt offset < 0 := by
  have hlt := offset.toNat_lt
  rw [asInt, BitVec.toInt_eq_toNat_cond, if_neg]
  · change (offset.toNat : ℤ) - _ < 0
    omega
  · change ¬ 2 * offset.toNat < 2 ^ 32
    omega

lemma asInt_inside_iff {bufLen : ℕ} {offset : UInt32} :
    0 ≤ asInt offset ∧ asInt offset ≤ bufLen ↔ offset.toNat < 2 ^ 31 ∧ offset.toNat ≤ bufLen := by
  by_cases h : offset.toNat < 2 ^ 31
  · rw [asInt_of_lt h]
    omega
  · have := asInt_of_ge (Nat.not_lt.mp h)
    omega

lemma inside_of_le {bufLen : ℕ} {start : ℤ} {len : ℕ} (hstart : 0 ≤ start)
    (hend : start + len ≤ bufLen) : Inside bufLen (start, len) := by
  intro k hk
  simp only at hk ⊢
  omega

lemma Inside.le {bufLen : ℕ} {start : ℤ} {len : ℕ} (h : Inside bufLen (start, len))
    (hpos : 0 < len) : 0 ≤ start ∧ start + len ≤ bufLen := by
  have hfirst := h 0 hpos
  have hlast := h (len - 1) (Nat.sub_lt hpos Nat.one_pos)
  simp only at hfirst hlast
  omega

lemma section_inside {bufLen bytes : ℕ} {start : ℤ} (tag : String) (hstart : 0 ≤ start)
    (hend : start + (bytes + sizeofHeader : ℕ) ≤ bufLen) :
    ∀ write ∈ section_ start tag bytes, Inside bufLen write := by
  have htag : min (tag.length + 1) tagMaxLen ≤ 32 := min_le_right _ _
  simp only [section_, List.forall_mem_cons, List.not_mem_nil, false_implies, implies_true, and_true]
  unfold sizeofHeader at hend
  refine ⟨inside_of_le hstart ?_, inside_of_le ?_ ?_, inside_of_le ?_ ?_, inside_of_le ?_ ?_⟩ <;>
    simp only [tagMaxLen, wordSizeAt, sizeofHeader] at * <;> omega

lemma section_start {bufLen bytes : ℕ} {start : ℤ} {tag : String}
    (h : ∀ write ∈ section_ start tag bytes, Inside bufLen write) :
    0 ≤ start ∧ start + wordSizeAt + 4 ≤ bufLen := by
  have htag := (h (start, min (tag.length + 1) tagMaxLen) (by simp [section_])).le
    (by simp [tagMaxLen])
  have hsize := (h (start + wordSizeAt, 4) (by simp [section_])).le (by norm_num)
  exact ⟨htag.1, hsize.2⟩

lemma section_words {bufLen bytes : ℕ} {start : ℤ} {tag : String}
    (h : ∀ write ∈ section_ start tag bytes, Inside bufLen write) (hpos : 0 < bytes) :
    start + (bytes + sizeofHeader : ℕ) ≤ bufLen := by
  have hwords := (h (start + sizeofHeader, bytes) (by simp [section_])).le hpos
  push_cast
  omega

lemma Dump.put_offset (d : Dump) (start : ℤ) (tag : String) {bytes : ℕ}
    (h : d.offset.toNat + (bytes + sizeofHeader) < 2 ^ 32) :
    (d.put start tag bytes).offset.toNat = d.offset.toNat + (bytes + sizeofHeader) := by
  change (d.offset + UInt32.ofNat (bytes + sizeofHeader)).toNat = _
  rw [UInt32.toNat_add, UInt32.toNat_ofNat_of_lt' (by change _ < 2 ^ 32; omega),
    Nat.mod_eq_of_lt (by omega)]

lemma fences_length (entries : List ℤ) : (fences entries).length ≤ entries.length :=
  List.length_filter_le _ _

lemma CtxRequest.bytes_le (req : CtxRequest) : 0 < req.bytes ∧ req.bytes ≤ 368 := by
  have hout := (fences_length req.outMapEntries).trans req.numOut
  have hin := (fences_length req.inMapEntries).trans req.numIn
  unfold camCtxCfgMax at hout hin
  unfold bytes
  omega

/-- The space left is refused as too small. -/
def ctxExhausted (bufLen : ℕ) (offset : UInt32) : Bool :=
  ((bufLen : ℤ) - asInt offset) % 2 ^ 32 < ctxMinLen

/-- The offset lies in the buffer and, unless it is refused, the header with its words fits behind it,
below 2 GiB. -/
structure CtxFits (req : CtxRequest) (bufLen : ℕ) (offset : UInt32) : Prop where
  starts : 0 ≤ asInt offset ∧ asInt offset ≤ bufLen
  fits : ctxExhausted bufLen offset = false →
    asInt offset + (req.bytes + sizeofHeader : ℕ) ≤ bufLen ∧
      asInt offset + (req.bytes + sizeofHeader : ℕ) < 2 ^ 31

lemma camContextDumpContext_stays_iff (devName : String) (req : CtxRequest) (bufLen : ℕ)
    (offset : UInt32) :
    StaysIn bufLen (camContextDumpContext devName req bufLen offset) ↔ CtxFits req bufLen offset := by
  obtain ⟨hpos, hle⟩ := req.bytes_le
  have hheader : sizeofHeader = 48 := rfl
  cases hex : ctxExhausted bufLen offset with
  | true =>
    have hcond : ((bufLen : ℤ) - asInt offset) % 2 ^ 32 < ctxMinLen := by
      simpa [ctxExhausted] using hex
    rw [camContextDumpContext, if_pos hcond]
    constructor
    · intro h
      exact ⟨h.offset, fun hno => by rw [hex] at hno; cases hno⟩
    · intro h
      exact ⟨by simp, h.starts⟩
  | false =>
    have hcond : ¬ ((bufLen : ℤ) - asInt offset) % 2 ^ 32 < ctxMinLen := by
      simpa [ctxExhausted] using hex
    rw [camContextDumpContext, if_neg hcond]
    have hsigned : ∀ {n : ℕ}, offset.toNat < 2 ^ 31 → n = offset.toNat + (req.bytes + sizeofHeader) →
        (Dump.put ⟨[], offset⟩ (asInt offset) (devName ++ "_CTXT_DUMP:") req.bytes).offset.toNat = n :=
      fun hlt hn => by rw [Dump.put_offset _ _ _ (by simp only; omega), hn]
    constructor
    · rintro ⟨hwrites, hreport⟩
      have hwrites' : ∀ write ∈ section_ (asInt offset) (devName ++ "_CTXT_DUMP:") req.bytes,
          Inside bufLen write := hwrites
      obtain ⟨hstart, -⟩ := section_start hwrites'
      have hend := section_words hwrites' hpos
      have hlt : offset.toNat < 2 ^ 31 := by
        by_contra hge
        have := asInt_of_ge (Nat.not_lt.mp hge)
        omega
      have hnew := hsigned hlt rfl
      refine ⟨⟨hstart, by omega⟩, fun _ => ⟨hend, ?_⟩⟩
      rw [asInt_of_lt hlt]
      by_contra hge
      have := @asInt_of_ge (Dump.put ⟨[], offset⟩ (asInt offset) (devName ++ "_CTXT_DUMP:")
        req.bytes).offset (by omega)
      omega
    · intro h
      obtain ⟨hend, htop⟩ := h.fits hex
      have hlt : offset.toNat < 2 ^ 31 := by
        by_contra hge
        have := asInt_of_ge (Nat.not_lt.mp hge)
        have := h.starts.1
        omega
      have hnew := hsigned hlt rfl
      rw [asInt_of_lt hlt] at hend htop
      refine ⟨section_inside _ h.starts.1 (by rw [asInt_of_lt hlt]; exact hend), ?_⟩
      rw [asInt_of_lt (by omega), hnew]
      omega

/-! ### Command dumps -/

/-- What the command at hand asks for before it puts its record, and the size of the record. -/
def asked (buf : Memory) (s : DumpState) : Option (ℕ × ℕ) :=
  let cmd := cmdField (buf s.bufNow)
  let count := countField (buf s.bufNow)
  if cmd = CdmCommand.id .regCont then
    some (4 * count + sizeofDumpHeader, sizeofDumpHeader + 4 * (2 + count))
  else if cmd = CdmCommand.id .regRandom then
    some (2 * 4 * count + sizeofDumpHeader, sizeofDumpHeader + 4 * (1 + 2 * count))
  else none

/-- The record of this round is refused, or it fits. The refusal goes by the low 32 bits of the length. -/
def roundStays (buf : Memory) (bufLen : ℕ) (dstMaxSize : UInt32) (s : DumpState) : Bool :=
  match asked buf s with
  | none => true
  | some (minLen, size) =>
    (remainLen dstMaxSize s).toNat < minLen || s.dstOffset.toNat + size ≤ bufLen

/-- The round has put a record. -/
structure Puts (s t : DumpState) (size : ℕ) (r : DumpRecord) : Prop where
  starts : r.dstOffset = s.dstOffset.toNat
  dumpSize_eq : r.dumpSize = size
  records : t.records = s.records ++ [r]
  dstOffset : t.dstOffset = s.dstOffset + UInt32.ofNat size

/-- The round leaves the dump as it is. -/
structure Skips (s t : DumpState) : Prop where
  records : t.records = s.records
  dstOffset : t.dstOffset = s.dstOffset

lemma dumpRecord_cases (dstMaxSize : UInt32) (s : DumpState) (header advance minLen size : ℕ)
    (tag : String) (words : List UInt32) (hsize : sizeofDumpHeader + 4 * words.length = size) :
    if (remainLen dstMaxSize s).toNat < minLen then
      Skips s (dumpRecord dstMaxSize s header advance minLen tag words)
    else ∃ r, Puts s (dumpRecord dstMaxSize s header advance minLen tag words) size r := by
  split_ifs with hshort
  · rw [dumpRecord, if_pos hshort]
    exact ⟨rfl, rfl⟩
  · rw [dumpRecord, if_neg hshort]
    refine ⟨⟨s.dstOffset.toNat, tag, words⟩, rfl, hsize, rfl, ?_⟩
    rw [← hsize]
    rfl

lemma id_ne_dmi {cmd : ℕ} (h : cmd = CdmCommand.id .regCont ∨ cmd = CdmCommand.id .regRandom) :
    ¬ (cmd = CdmCommand.id .dmi ∨ cmd = cdmCmdDmi32 ∨ cmd = cdmCmdDmi64) := by
  rcases h with rfl | rfl <;> decide

lemma dumpCmd_cases (buf : Memory) (dstMaxSize : UInt32) (s : DumpState) :
    match asked buf s with
    | none => Skips s (dumpCmd buf dstMaxSize s)
    | some (minLen, size) =>
      if (remainLen dstMaxSize s).toNat < minLen then Skips s (dumpCmd buf dstMaxSize s)
      else ∃ r, Puts s (dumpCmd buf dstMaxSize s) size r := by
  by_cases hcont : cmdField (buf s.bufNow) = CdmCommand.id .regCont
  · simp only [asked, if_pos hcont, dumpCmd, if_neg (id_ne_dmi (.inl hcont))]
    exact dumpRecord_cases _ _ _ _ _ _ _ _ (by rw [regContWords_length])
  · by_cases hrandom : cmdField (buf s.bufNow) = CdmCommand.id .regRandom
    · simp only [asked, if_neg hcont, if_pos hrandom, dumpCmd, if_neg (id_ne_dmi (.inr hrandom))]
      exact dumpRecord_cases _ _ _ _ _ _ _ _ (by rw [regRandomWords_length])
    · simp only [asked, if_neg hcont, if_neg hrandom, dumpCmd]
      split_ifs
      · exact ⟨rfl, rfl⟩
      · exact ⟨rfl, rfl⟩
      · exact ⟨rfl, rfl⟩

lemma asked_size {buf : Memory} {s : DumpState} {minLen size : ℕ}
    (h : asked buf s = some (minLen, size)) : sizeofDumpHeader < size := by
  simp only [asked] at h
  split_ifs at h
  · cases h
    unfold sizeofDumpHeader
    omega
  · cases h
    unfold sizeofDumpHeader
    omega

def RecordInside (bufLen : ℕ) (r : DumpRecord) : Prop := r.dstOffset + r.dumpSize ≤ bufLen

lemma Puts.dstOffset_le {s t : DumpState} {size : ℕ} {r : DumpRecord} (h : Puts s t size r) :
    t.dstOffset.toNat ≤ s.dstOffset.toNat + size := by
  rw [h.dstOffset, UInt32.toNat_add, UInt32.toNat_ofNat']
  exact (Nat.mod_le _ _).trans (Nat.add_le_add_left (Nat.mod_le _ _) _)

/-- The offset stays where it is, or moves within the buffer. -/
def MovesWithin (bufLen : ℕ) (o o' : UInt32) : Prop := o' = o ∨ o.toNat ≤ bufLen ∧ o'.toNat ≤ bufLen

lemma MovesWithin.trans {bufLen : ℕ} {o o' o'' : UInt32} (h : MovesWithin bufLen o o')
    (h' : MovesWithin bufLen o' o'') : MovesWithin bufLen o o'' := by
  rcases h with rfl | ⟨ho, ho'⟩
  · exact h'
  · rcases h' with rfl | ⟨-, ho''⟩
    · exact .inr ⟨ho, ho'⟩
    · exact .inr ⟨ho, ho''⟩

lemma MovesWithin.le {bufLen : ℕ} {o o' : UInt32} (h : MovesWithin bufLen o o')
    (ho : o.toNat ≤ bufLen) : o'.toNat ≤ bufLen := by
  rcases h with rfl | ⟨-, ho'⟩
  · exact ho
  · exact ho'

/-- From `s` to `t` the dump adds the records `new`, which lie inside just when `stays` holds. -/
structure Adds (bufLen : ℕ) (s t : DumpState) (new : List DumpRecord) (stays : Prop) : Prop where
  records : t.records = s.records ++ new
  words : ∀ r ∈ new, sizeofDumpHeader < r.dumpSize
  moves : (∀ r ∈ new, RecordInside bufLen r) → MovesWithin bufLen s.dstOffset t.dstOffset
  inside_iff : (∀ r ∈ new, RecordInside bufLen r) ↔ stays

lemma Skips.adds {bufLen : ℕ} {s t : DumpState} (h : Skips s t) {stays : Prop} (hstays : stays) :
    Adds bufLen s t [] stays where
  records := by rw [h.records, List.append_nil]
  words := by simp
  moves _ := .inl h.dstOffset
  inside_iff := by simp [hstays]

lemma Adds.trans {bufLen : ℕ} {s t u : DumpState} {new new' : List DumpRecord} {stays stays' : Prop}
    (h : Adds bufLen s t new stays) (h' : Adds bufLen t u new' stays') :
    Adds bufLen s u (new ++ new') (stays ∧ stays') where
  records := by rw [h'.records, h.records, List.append_assoc]
  words := by
    rw [List.forall_mem_append]
    exact ⟨h.words, h'.words⟩
  moves hin := by
    rw [List.forall_mem_append] at hin
    exact (h.moves hin.1).trans (h'.moves hin.2)
  inside_iff := by rw [List.forall_mem_append, h.inside_iff, h'.inside_iff]

lemma Adds.congr {bufLen : ℕ} {s t : DumpState} {new : List DumpRecord} {stays stays' : Prop}
    (h : Adds bufLen s t new stays) (hiff : stays ↔ stays') : Adds bufLen s t new stays' :=
  ⟨h.records, h.words, h.moves, h.inside_iff.trans hiff⟩

lemma dumpCmd_adds (bufLen : ℕ) (buf : Memory) (dstMaxSize : UInt32) (s : DumpState) :
    ∃ new, Adds bufLen s (dumpCmd buf dstMaxSize s) new (roundStays buf bufLen dstMaxSize s = true) := by
  have hcases := dumpCmd_cases buf dstMaxSize s
  cases hasked : asked buf s with
  | none =>
    rw [hasked] at hcases
    exact ⟨[], Skips.adds hcases (by simp only [roundStays, hasked])⟩
  | some want =>
    obtain ⟨minLen, size⟩ := want
    rw [hasked] at hcases
    simp only at hcases
    by_cases hshort : (remainLen dstMaxSize s).toNat < minLen
    · rw [if_pos hshort] at hcases
      exact ⟨[], hcases.adds (by simp [roundStays, hasked, hshort])⟩
    · rw [if_neg hshort] at hcases
      obtain ⟨r, hputs⟩ := hcases
      have hfits : RecordInside bufLen r ↔ s.dstOffset.toNat + size ≤ bufLen := by
        rw [RecordInside, hputs.starts, hputs.dumpSize_eq]
      refine ⟨[r], hputs.records, ?_, fun hin => ?_, ?_⟩
      · simp only [List.mem_singleton, forall_eq, hputs.dumpSize_eq]
        exact asked_size hasked
      · have hr := hfits.mp (hin r (List.mem_singleton_self r))
        exact .inr ⟨by omega, hputs.dstOffset_le.trans hr⟩
      · simp [roundStays, hasked, hshort, hfits]

/-- The rounds from a state on all stay. -/
def RoundsStay (buf : Memory) (bufLen : ℕ) (dumpInfo : DumpInfo) (s : DumpState) : Prop :=
  ∀ t, WhileLoop.Reaches (dumpBody buf dumpInfo) s t →
    roundStays buf bufLen dumpInfo.dstMaxSize t = true

lemma roundsStay_iff (buf : Memory) (bufLen : ℕ) (dumpInfo : DumpInfo) (s : DumpState) :
    RoundsStay buf bufLen dumpInfo s ↔ roundStays buf bufLen dumpInfo.dstMaxSize s = true ∧
      ((dumpCmd buf dumpInfo.dstMaxSize s).bufNow ≤ dumpInfo.srcEnd →
        RoundsStay buf bufLen dumpInfo (dumpCmd buf dumpInfo.dstMaxSize s)) := by
  constructor
  · intro h
    refine ⟨h s .refl, fun hle t ht => h t (.head ?_ ht)⟩
    simp only [dumpBody, if_pos hle]
  · rintro ⟨hs, hrest⟩ t ht
    rcases WhileLoop.Reaches.cases_head ht with rfl | ⟨u, hu, hut⟩
    · exact hs
    · have hle : (dumpCmd buf dumpInfo.dstMaxSize s).bufNow ≤ dumpInfo.srcEnd := by
        by_contra hgt
        simp [dumpBody, if_neg hgt] at hu
      rw [dumpBody_continues hu] at hut
      exact hrest hle t hut

lemma dumpLoop_adds (bufLen : ℕ) (buf : Memory) (dumpInfo : DumpInfo) (s : DumpState) :
    ∃ new, Adds bufLen s (dumpLoop buf dumpInfo s) new (RoundsStay buf bufLen dumpInfo s) := by
  fun_induction dumpLoop buf dumpInfo s with
  | case1 s hle ih =>
    obtain ⟨new, hround⟩ := dumpCmd_adds bufLen buf dumpInfo.dstMaxSize s
    obtain ⟨new', hrest⟩ := ih
    refine ⟨new ++ new', (hround.trans hrest).congr ?_⟩
    rw [roundsStay_iff buf bufLen dumpInfo s]
    exact and_congr_right fun _ => ⟨fun h _ => h, fun h => h hle⟩
  | case2 s hgt =>
    obtain ⟨new, hround⟩ := dumpCmd_adds bufLen buf dumpInfo.dstMaxSize s
    refine ⟨new, hround.congr ?_⟩
    rw [roundsStay_iff buf bufLen dumpInfo s]
    exact ⟨fun h => ⟨h, fun hle => absurd hle hgt⟩, fun h => h.1⟩

/-- The bytes of the records. -/
def recordWrites (records : List DumpRecord) : List (ℤ × ℕ) :=
  records.flatMap fun r => r.extents.map fun e => ((e.1 : ℤ), e.2)

lemma extents_inside {bufLen : ℕ} {r : DumpRecord} (h : RecordInside bufLen r) :
    ∀ e ∈ r.extents, Inside bufLen ((e.1 : ℤ), e.2) := by
  intro e he
  have := DumpRecord.extents_le.mpr h e he
  exact inside_of_le (by omega) (by omega)

lemma recordInside_of_extents {bufLen : ℕ} {r : DumpRecord} (hwords : sizeofDumpHeader < r.dumpSize)
    (h : ∀ e ∈ r.extents, Inside bufLen ((e.1 : ℤ), e.2)) : RecordInside bufLen r := by
  have hlast := (h (r.dstOffset + sizeofDumpHeader, 4 * r.words.length) (by simp [DumpRecord.extents])).le
    (by unfold DumpRecord.dumpSize at hwords; omega)
  rw [RecordInside, DumpRecord.dumpSize]
  omega

lemma recordWrites_inside_iff {bufLen : ℕ} {records : List DumpRecord}
    (hwords : ∀ r ∈ records, sizeofDumpHeader < r.dumpSize) :
    (∀ write ∈ recordWrites records, Inside bufLen write) ↔
      ∀ r ∈ records, RecordInside bufLen r := by
  simp only [recordWrites, List.mem_flatMap, List.mem_map, forall_exists_index, and_imp]
  constructor
  · intro h r hr
    exact recordInside_of_extents (hwords r hr) fun e he => h _ r hr e he rfl
  · rintro h write r hr e he rfl
    exact extents_inside (h r hr) e he

/-- The offset behind an entry. -/
def cfgEnd (bufLen : ℕ) (offset : UInt32) (c : Cfg) : UInt32 := (dumpCfg bufLen ⟨[], offset⟩ c).offset

lemma dumpCfg_offset (bufLen : ℕ) (d : Dump) (c : Cfg) :
    (dumpCfg bufLen d c).offset = cfgEnd bufLen d.offset c := by
  unfold cfgEnd dumpCfg
  split_ifs <;> rfl

/-- The entries that are dumped, one behind the other, stay. -/
def CfgsStay (bufLen : ℕ) : List Cfg → UInt32 → Prop
  | [], _ => True
  | c :: cs, offset =>
    (c.valid = true → RoundsStay c.words bufLen (c.dumpInfo bufLen offset)
        (dumpStart (c.dumpInfo bufLen offset))) ∧
      CfgsStay bufLen cs (cfgEnd bufLen offset c)

lemma dumpCfgs_offset (bufLen : ℕ) (cs : List Cfg) (d : Dump) :
    (cs.foldl (dumpCfg bufLen) d).offset = cs.foldl (cfgEnd bufLen) d.offset := by
  induction cs generalizing d with
  | nil => rfl
  | cons c cs ih => rw [List.foldl_cons, List.foldl_cons, ih, dumpCfg_offset]

/-- The dump adds writes that lie inside just when `stays` holds. -/
structure Grows (bufLen : ℕ) (d e : Dump) (stays : Prop) : Prop where
  writes : ∃ new, e.writes = d.writes ++ new ∧ ((∀ write ∈ new, Inside bufLen write) ↔ stays)
  moves : stays → MovesWithin bufLen d.offset e.offset

lemma dumpCfg_grows (bufLen : ℕ) (d : Dump) (c : Cfg) :
    Grows bufLen d (dumpCfg bufLen d c) (c.valid = true → RoundsStay c.words bufLen
      (c.dumpInfo bufLen d.offset) (dumpStart (c.dumpInfo bufLen d.offset))) := by
  cases hvalid : c.valid with
  | false =>
    simp only [dumpCfg, hvalid]
    exact ⟨⟨[], by simp, by simp⟩, fun _ => .inl rfl⟩
  | true =>
    obtain ⟨new, hadds⟩ := dumpLoop_adds bufLen c.words (c.dumpInfo bufLen d.offset)
      (dumpStart (c.dumpInfo bufLen d.offset))
    have hrecords : (dumpLoop c.words (c.dumpInfo bufLen d.offset)
        (dumpStart (c.dumpInfo bufLen d.offset))).records = new := hadds.records
    simp only [dumpCfg, hvalid, forall_const]
    refine ⟨⟨recordWrites new, by rw [← hrecords]; rfl, ?_⟩, fun h => ?_⟩
    · rw [recordWrites_inside_iff hadds.words, hadds.inside_iff]
    · exact hadds.moves (hadds.inside_iff.mpr h)

lemma dumpCfgs_grows (bufLen : ℕ) (cs : List Cfg) (d : Dump) :
    Grows bufLen d (cs.foldl (dumpCfg bufLen) d) (CfgsStay bufLen cs d.offset) := by
  induction cs generalizing d with
  | nil => exact ⟨⟨[], by simp, by simp [CfgsStay]⟩, fun _ => .inl rfl⟩
  | cons c cs ih =>
    obtain ⟨⟨new, hnew, hiff⟩, hmoves⟩ := dumpCfg_grows bufLen d c
    obtain ⟨⟨new', hnew', hiff'⟩, hmoves'⟩ := ih (dumpCfg bufLen d c)
    rw [List.foldl_cons, CfgsStay, ← dumpCfg_offset]
    refine ⟨⟨new ++ new', by rw [hnew', hnew, List.append_assoc], ?_⟩, ?_⟩
    · rw [List.forall_mem_append, hiff, hiff']
    · exact fun h => (hmoves h.1).trans (hmoves' h.2)

/-! ### The ISP dump -/

lemma Dump.put_inside {bufLen bytes : ℕ} (d : Dump) (tag : String)
    (h : d.offset.toNat + (bytes + sizeofHeader) ≤ bufLen) :
    ∀ write ∈ section_ d.offset.toNat tag bytes, Inside bufLen write :=
  section_inside tag (by omega) (by omega)

lemma dumpEvents_grows {bufLen : ℕ} (events : List String) (d : Dump)
    (hlt : d.offset.toNat + events.length * 528 < 2 ^ 32) :
    ∃ new, (events.foldl (fun d event => d.put d.offset.toNat ("ISP_EVT_" ++ event ++ ":")
        (8 * (3 * camIspCtxEventRecordMaxEntries))) d).writes = d.writes ++ new ∧
      (events.foldl (fun d event => d.put d.offset.toNat ("ISP_EVT_" ++ event ++ ":")
        (8 * (3 * camIspCtxEventRecordMaxEntries))) d).offset.toNat =
          d.offset.toNat + events.length * 528 ∧
      (d.offset.toNat + events.length * 528 ≤ bufLen → ∀ write ∈ new, Inside bufLen write) := by
  induction events generalizing d with
  | nil => exact ⟨[], by simp, by simp, by simp⟩
  | cons event events ih =>
    have hbytes : 8 * (3 * camIspCtxEventRecordMaxEntries) + sizeofHeader = 528 := rfl
    rw [List.length_cons] at hlt
    have hput := @Dump.put_offset d d.offset.toNat ("ISP_EVT_" ++ event ++ ":")
      (8 * (3 * camIspCtxEventRecordMaxEntries)) (by omega)
    obtain ⟨new, hnew, hoffset, hin⟩ := ih (d.put d.offset.toNat ("ISP_EVT_" ++ event ++ ":")
      (8 * (3 * camIspCtxEventRecordMaxEntries))) (by omega)
    rw [List.foldl_cons, List.length_cons]
    refine ⟨section_ d.offset.toNat ("ISP_EVT_" ++ event ++ ":")
      (8 * (3 * camIspCtxEventRecordMaxEntries)) ++ new, ?_, by omega, fun hle => ?_⟩
    · rw [hnew, ← List.append_assoc]
      rfl
    · rw [List.forall_mem_append]
      exact ⟨d.put_inside _ (by omega), hin (by omega)⟩

/-- The bytes of the first header with its words, and of the event records. -/
def recordBytes : ℕ := 2728

/-- The bytes of the fence list. -/
def IspRequest.fenceBytes (req : IspRequest) : ℕ :=
  4 * (2 * (fences req.fenceMapOut).length) + sizeofHeader

def ispExhausted (bufLen : ℕ) (offset : UInt32) : Bool :=
  ((bufLen : ℤ) - asInt offset) % 2 ^ 64 < camIspCtxDumpMinLength

/-- The offset behind the commands of the request. -/
def IspRequest.cfgsEnd (req : IspRequest) (bufLen : ℕ) (offset : UInt32) : UInt32 :=
  req.cfg.foldl (cfgEnd bufLen) (offset + UInt32.ofNat (recordBytes + req.fenceBytes))

/-- The offset lies in the buffer. Unless it is refused, the event records fit behind it, and where the
request itself is dumped, its fences and commands do. What is reported is below 2 GiB, and the hardware
layer reports an offset of the buffer. -/
structure IspFits (req : IspRequest) (onlyEventRecord : Bool) (hwDump : Option HwDump) (bufLen : ℕ)
    (offset : UInt32) : Prop where
  starts : 0 ≤ asInt offset ∧ asInt offset ≤ bufLen
  records : ispExhausted bufLen offset = false → onlyEventRecord = true →
    offset.toNat + recordBytes ≤ bufLen ∧ offset.toNat + recordBytes < 2 ^ 31
  request : ispExhausted bufLen offset = false → onlyEventRecord = false →
    offset.toNat + recordBytes + req.fenceBytes ≤ bufLen ∧
      CfgsStay bufLen req.cfg (offset + UInt32.ofNat (recordBytes + req.fenceBytes)) ∧
      (hwDump = none → (req.cfgsEnd bufLen offset).toNat < 2 ^ 31) ∧
      ∀ hw, hwDump = some hw → (hw.report (req.cfgsEnd bufLen offset)).toNat < 2 ^ 31 ∧
        (hw.report (req.cfgsEnd bufLen offset)).toNat ≤ bufLen

/-- The first header and the event records. -/
def ispHead (offset : UInt32) : Dump :=
  dumpEventRecord (Dump.put ⟨[], offset⟩ (asInt offset) "ISP_CTX_DUMP:" (8 * 5))

lemma ispHead_spec {bufLen : ℕ} {offset : UInt32} (hlt : offset.toNat < 2 ^ 31) :
    ∃ new, (ispHead offset).writes = section_ (asInt offset) "ISP_CTX_DUMP:" (8 * 5) ++ new ∧
      (ispHead offset).offset.toNat = offset.toNat + recordBytes ∧
      (offset.toNat + recordBytes ≤ bufLen → ∀ write ∈ (ispHead offset).writes,
        Inside bufLen write) := by
  have hput := @Dump.put_offset ⟨[], offset⟩ (asInt offset) "ISP_CTX_DUMP:" (8 * 5)
    (by simp only [sizeofHeader]; omega)
  simp only [sizeofHeader] at hput
  obtain ⟨new, hnew, hoffset, hin⟩ := @dumpEvents_grows bufLen ispEvents
    (Dump.put ⟨[], offset⟩ (asInt offset) "ISP_CTX_DUMP:" (8 * 5))
    (by simp only [ispEvents, List.length_cons, List.length_nil]; omega)
  simp only [ispEvents, List.length_cons, List.length_nil] at hoffset hin
  refine ⟨new, hnew, ?_, fun hle => ?_⟩
  · rw [ispHead, dumpEventRecord, ispEvents, hoffset, hput, recordBytes]
  · unfold recordBytes at hle
    have hsection : ∀ write ∈ section_ (asInt offset) "ISP_CTX_DUMP:" (8 * 5), Inside bufLen write :=
      section_inside _ (by rw [asInt_of_lt hlt]; omega)
        (by rw [asInt_of_lt hlt]; simp only [sizeofHeader]; omega)
    have hwrites : (ispHead offset).writes =
      section_ (asInt offset) "ISP_CTX_DUMP:" (8 * 5) ++ new := hnew
    rw [hwrites, List.forall_mem_append]
    exact ⟨hsection, hin (by omega)⟩

lemma IspRequest.fenceBytes_le (req : IspRequest) : req.fenceBytes ≤ 240 := by
  have := (fences_length req.fenceMapOut).trans req.numFenceMapOut
  unfold camIspCtxResMax at this
  unfold fenceBytes sizeofHeader
  omega

/-- The fence list behind the event records. -/
def ispFences (req : IspRequest) (offset : UInt32) : Dump :=
  (ispHead offset).put (ispHead offset).offset.toNat "ISP_OUT_FENCE:"
    (4 * (2 * (fences req.fenceMapOut).length))

lemma ispFences_spec {bufLen : ℕ} {offset : UInt32} (req : IspRequest)
    (hlt : offset.toNat < 2 ^ 31) :
    (ispFences req offset).offset = offset + UInt32.ofNat (recordBytes + req.fenceBytes) ∧
      (ispFences req offset).offset.toNat = offset.toNat + recordBytes + req.fenceBytes ∧
      (∃ new, (ispFences req offset).writes =
        section_ (asInt offset) "ISP_CTX_DUMP:" (8 * 5) ++ new) ∧
      (offset.toNat + recordBytes + req.fenceBytes ≤ bufLen →
        ∀ write ∈ (ispFences req offset).writes, Inside bufLen write) := by
  obtain ⟨new, hnew, hoffset, hin⟩ := @ispHead_spec bufLen offset hlt
  have hfence := req.fenceBytes_le
  have hrecord : recordBytes = 2728 := rfl
  have hput := @Dump.put_offset (ispHead offset) (ispHead offset).offset.toNat "ISP_OUT_FENCE:"
    (4 * (2 * (fences req.fenceMapOut).length)) (by unfold IspRequest.fenceBytes at hfence; omega)
  have htoNat : (ispFences req offset).offset.toNat = offset.toNat + recordBytes + req.fenceBytes := by
    rw [ispFences, hput, hoffset, IspRequest.fenceBytes]
  refine ⟨?_, htoNat, ⟨new ++ section_ (ispHead offset).offset.toNat "ISP_OUT_FENCE:"
    (4 * (2 * (fences req.fenceMapOut).length)), ?_⟩, fun hle => ?_⟩
  · rw [← UInt32.toNat_inj, htoNat, UInt32.toNat_add,
      UInt32.toNat_ofNat_of_lt' (by change _ < 2 ^ 32; omega), Nat.mod_eq_of_lt (by omega)]
    omega
  · change (ispHead offset).writes ++ _ = _
    rw [hnew, List.append_assoc]
  · change ∀ write ∈ (ispHead offset).writes ++ _, Inside bufLen write
    rw [List.forall_mem_append]
    refine ⟨hin (by omega), Dump.put_inside _ _ ?_⟩
    unfold IspRequest.fenceBytes at hle
    omega

lemma dumpInTopState_eq (req : IspRequest) (onlyEventRecord : Bool) (hwDump : Option HwDump)
    (bufLen : ℕ) (offset : UInt32) :
    dumpInTopState req onlyEventRecord hwDump bufLen offset =
      if ispExhausted bufLen offset then ⟨[], offset⟩
      else if onlyEventRecord then ispHead offset
      else
        let d := req.cfg.foldl (dumpCfg bufLen) (ispFences req offset)
        match hwDump with
        | none => d
        | some hwDump => { d with offset := hwDump.report d.offset } := by
  simp only [dumpInTopState, ispExhausted, decide_eq_true_eq]
  rfl

lemma ispCommands_stays {bufLen : ℕ} {offset : UInt32} {req : IspRequest}
    (hlt : offset.toNat < 2 ^ 31) (hfits : offset.toNat + recordBytes + req.fenceBytes ≤ bufLen)
    (hstay : CfgsStay bufLen req.cfg (offset + UInt32.ofNat (recordBytes + req.fenceBytes))) :
    (∀ write ∈ (req.cfg.foldl (dumpCfg bufLen) (ispFences req offset)).writes, Inside bufLen write) ∧
      (req.cfg.foldl (dumpCfg bufLen) (ispFences req offset)).offset.toNat ≤ bufLen := by
  obtain ⟨hoffset, htoNat, -, hin⟩ := @ispFences_spec bufLen offset req hlt
  obtain ⟨⟨new, hnew, hiff⟩, hmoves⟩ := dumpCfgs_grows bufLen req.cfg (ispFences req offset)
  rw [← hoffset] at hstay
  refine ⟨?_, (hmoves hstay).le (by omega)⟩
  rw [hnew, List.forall_mem_append]
  exact ⟨hin hfits, hiff.mpr hstay⟩

lemma ispCommands_offset {offset : UInt32} (hlt : offset.toNat < 2 ^ 31) (req : IspRequest)
    (bufLen : ℕ) :
    (req.cfg.foldl (dumpCfg bufLen) (ispFences req offset)).offset = req.cfgsEnd bufLen offset := by
  rw [dumpCfgs_offset, (@ispFences_spec bufLen offset req hlt).1, IspRequest.cfgsEnd]

lemma dumpInTopState_stays {req : IspRequest} {onlyEventRecord : Bool} {hwDump : Option HwDump}
    {bufLen : ℕ} {offset : UInt32} (h : IspFits req onlyEventRecord hwDump bufLen offset) :
    StaysIn bufLen (dumpInTopState req onlyEventRecord hwDump bufLen offset) := by
  have hlt := (asInt_inside_iff.mp h.starts).1
  rw [dumpInTopState_eq]
  split_ifs with hex honly
  · exact ⟨by simp, h.starts⟩
  · obtain ⟨-, -, hoffset, hin⟩ := @ispHead_spec bufLen offset hlt
    obtain ⟨hle, htop⟩ := h.records (by simpa using hex) honly
    exact ⟨hin hle, asInt_inside_iff.mpr (by omega)⟩
  · obtain ⟨hfits, hstay, hend, hhw⟩ := h.request (by simpa using hex) (by simpa using honly)
    obtain ⟨hwrites, hle⟩ := ispCommands_stays hlt hfits hstay
    have hoffset := ispCommands_offset hlt req bufLen
    cases hwDump with
    | none => exact ⟨hwrites, asInt_inside_iff.mpr ⟨by rw [hoffset]; exact hend rfl, hle⟩⟩
    | some hw =>
      refine ⟨hwrites, asInt_inside_iff.mpr ?_⟩
      have hreport := hhw hw rfl
      rw [← hoffset] at hreport
      exact hreport

lemma dumpEvents_writes (events : List String) (d : Dump) :
    ∃ new, (events.foldl (fun d event => d.put d.offset.toNat ("ISP_EVT_" ++ event ++ ":")
        (8 * (3 * camIspCtxEventRecordMaxEntries))) d).writes = d.writes ++ new := by
  induction events generalizing d with
  | nil => exact ⟨[], by simp⟩
  | cons event events ih =>
    obtain ⟨new, hnew⟩ := ih (d.put d.offset.toNat ("ISP_EVT_" ++ event ++ ":")
      (8 * (3 * camIspCtxEventRecordMaxEntries)))
    rw [List.foldl_cons, hnew]
    exact ⟨section_ d.offset.toNat ("ISP_EVT_" ++ event ++ ":")
      (8 * (3 * camIspCtxEventRecordMaxEntries)) ++ new, by rw [← List.append_assoc]; rfl⟩

lemma dumpInTopState_header {req : IspRequest} {onlyEventRecord : Bool} {hwDump : Option HwDump}
    {bufLen : ℕ} {offset : UInt32} (hex : ispExhausted bufLen offset = false) :
    ∃ new, (dumpInTopState req onlyEventRecord hwDump bufLen offset).writes =
      section_ (asInt offset) "ISP_CTX_DUMP:" (8 * 5) ++ new := by
  obtain ⟨new, hnew⟩ := dumpEvents_writes ispEvents
    (Dump.put ⟨[], offset⟩ (asInt offset) "ISP_CTX_DUMP:" (8 * 5))
  have hhead : (ispHead offset).writes = section_ (asInt offset) "ISP_CTX_DUMP:" (8 * 5) ++ new := hnew
  obtain ⟨new', hnew', -⟩ := (dumpCfgs_grows bufLen req.cfg (ispFences req offset)).writes
  have hall : (req.cfg.foldl (dumpCfg bufLen) (ispFences req offset)).writes =
      section_ (asInt offset) "ISP_CTX_DUMP:" (8 * 5) ++ (new ++ section_ (ispHead offset).offset.toNat
        "ISP_OUT_FENCE:" (4 * (2 * (fences req.fenceMapOut).length)) ++ new') := by
    rw [hnew']
    change (ispHead offset).writes ++ _ ++ _ = _
    rw [hhead, List.append_assoc, List.append_assoc, List.append_assoc]
  rw [dumpInTopState_eq, hex]
  cases onlyEventRecord with
  | true => exact ⟨new, hhead⟩
  | false =>
    cases hwDump with
    | none => exact ⟨_, hall⟩
    | some hw => exact ⟨_, hall⟩

lemma starts_of_stays {req : IspRequest} {onlyEventRecord : Bool} {hwDump : Option HwDump}
    {bufLen : ℕ} {offset : UInt32}
    (h : StaysIn bufLen (dumpInTopState req onlyEventRecord hwDump bufLen offset)) :
    0 ≤ asInt offset ∧ asInt offset ≤ bufLen := by
  cases hex : ispExhausted bufLen offset with
  | true =>
    have hreport := h.offset
    rw [dumpInTopState_eq, hex] at hreport
    exact hreport
  | false =>
    obtain ⟨new, hnew⟩ := @dumpInTopState_header req onlyEventRecord hwDump bufLen offset hex
    have hin := h.writes
    rw [hnew, List.forall_mem_append] at hin
    obtain ⟨hstart, hend⟩ := section_start hin.1
    unfold wordSizeAt at hend
    exact ⟨hstart, by omega⟩

lemma request_of_stays {req : IspRequest} {hwDump : Option HwDump} {bufLen : ℕ} {offset : UInt32}
    (hlt : offset.toNat < 2 ^ 31) (hex : ispExhausted bufLen offset = false)
    (h : StaysIn bufLen (dumpInTopState req false hwDump bufLen offset)) :
    offset.toNat + recordBytes + req.fenceBytes ≤ bufLen ∧
      CfgsStay bufLen req.cfg (offset + UInt32.ofNat (recordBytes + req.fenceBytes)) ∧
      (hwDump = none → (req.cfgsEnd bufLen offset).toNat < 2 ^ 31) ∧
      ∀ hw, hwDump = some hw → (hw.report (req.cfgsEnd bufLen offset)).toNat < 2 ^ 31 ∧
        (hw.report (req.cfgsEnd bufLen offset)).toNat ≤ bufLen := by
  obtain ⟨hoffset, htoNat, -, -⟩ := @ispFences_spec bufLen offset req hlt
  obtain ⟨hwrites, hreport⟩ := h
  rw [dumpInTopState_eq, hex] at hwrites hreport
  obtain ⟨⟨new, hnew, hiff⟩, hmoves⟩ := dumpCfgs_grows bufLen req.cfg (ispFences req offset)
  have hend := ispCommands_offset hlt req bufLen
  have hstay : CfgsStay bufLen req.cfg (ispFences req offset).offset := by
    refine hiff.mp fun write hwrite => ?_
    have hmem : write ∈ (req.cfg.foldl (dumpCfg bufLen) (ispFences req offset)).writes := by
      rw [hnew]
      exact List.mem_append_right _ hwrite
    cases hwDump with
    | none => exact hwrites write hmem
    | some hw => exact hwrites write hmem
  -- Beyond the buffer no record is put, so that the offset would be reported as it is, or a larger one.
  have hmove := hmoves hstay
  rw [hend] at hmove
  have hfits : (req.cfgsEnd bufLen offset).toNat ≤ bufLen →
      offset.toNat + recordBytes + req.fenceBytes ≤ bufLen := by
    intro hle
    rcases hmove with heq | ⟨hle', -⟩
    · rw [heq] at hle
      omega
    · omega
  rw [hoffset] at hstay
  cases hwDump with
  | none =>
    obtain ⟨htop, hle⟩ := asInt_inside_iff.mp hreport
    simp only [Bool.false_eq_true, if_false] at htop hle
    rw [hend] at htop hle
    exact ⟨hfits hle, hstay, fun _ => htop, fun hw hhw => by cases hhw⟩
  | some hw =>
    obtain ⟨htop, hle⟩ := asInt_inside_iff.mp hreport
    simp only [Bool.false_eq_true, if_false] at htop hle
    rw [hend] at htop hle
    refine ⟨hfits ((hw.le_report _).trans hle), hstay, fun hno => (Option.some_ne_none hw hno).elim, ?_⟩
    rintro hw' heq
    cases heq
    exact ⟨htop, hle⟩

lemma fits_of_stays {req : IspRequest} {onlyEventRecord : Bool} {hwDump : Option HwDump}
    {bufLen : ℕ} {offset : UInt32}
    (h : StaysIn bufLen (dumpInTopState req onlyEventRecord hwDump bufLen offset)) :
    IspFits req onlyEventRecord hwDump bufLen offset := by
  have hstarts := starts_of_stays h
  have hlt := (asInt_inside_iff.mp hstarts).1
  refine ⟨hstarts, ?_, ?_⟩
  · rintro hex rfl
    obtain ⟨-, -, hhead, -⟩ := @ispHead_spec bufLen offset hlt
    have hreport := h.offset
    rw [dumpInTopState_eq, hex] at hreport
    obtain ⟨htop, hle⟩ := asInt_inside_iff.mp hreport
    simp only [Bool.false_eq_true, if_false, if_true] at htop hle
    omega
  · rintro hex rfl
    exact request_of_stays hlt hex h

/-- Both dumps stay in the buffer just where their sections fit. -/
theorem dumps_stay_iff (devName : String) (ctxReq : CtxRequest) (req : IspRequest)
    (onlyEventRecord : Bool) (hwDump : Option HwDump) (bufLen : ℕ) (offset : UInt32) :
    (StaysIn bufLen (camContextDumpContext devName ctxReq bufLen offset) ↔
      CtxFits ctxReq bufLen offset) ∧
    (StaysIn bufLen (dumpInTopState req onlyEventRecord hwDump bufLen offset) ↔
      IspFits req onlyEventRecord hwDump bufLen offset) :=
  ⟨camContextDumpContext_stays_iff devName ctxReq bufLen offset, fits_of_stays, dumpInTopState_stays⟩

/-- A request with a fence and a command that writes two registers. -/
def fenceAndRegisters : IspRequest where
  fenceMapOut := [7, -1]
  cfg := [⟨some 64, 0, 16, fun p => [0, 0x03000002, 0x1000, 5, 6].getD p 0⟩]
  numFenceMapOut := by decide
  numCfg := by decide

lemma fenceAndRegisters_stays : CfgsStay 4096 fenceAndRegisters.cfg
    (0 + UInt32.ofNat (recordBytes + fenceAndRegisters.fenceBytes)) :=
  ⟨fun _ => (roundsStay_iff _ _ _ _).mpr ⟨by decide, fun h => absurd h (by decide)⟩, trivial⟩

lemma cfgsEnd_lt {req : IspRequest} {bufLen : ℕ} {offset : UInt32} (hlen : bufLen < 2 ^ 31)
    (hlt : offset.toNat < 2 ^ 31) (hfits : offset.toNat + recordBytes + req.fenceBytes ≤ bufLen)
    (hstay : CfgsStay bufLen req.cfg (offset + UInt32.ofNat (recordBytes + req.fenceBytes))) :
    (req.cfgsEnd bufLen offset).toNat < 2 ^ 31 := by
  rw [← ispCommands_offset hlt]
  exact (ispCommands_stays hlt hfits hstay).2.trans_lt hlen

theorem dumps_stay_page : StaysIn 4096 (dumpInTopState fenceAndRegisters false none 4096 0) :=
  (dumps_stay_iff "isp" ⟨[], [], by decide, by decide⟩ fenceAndRegisters false none 4096 0).2.mpr
    { starts := by decide
      records := fun _ honly => (Bool.false_ne_true honly).elim
      request := fun _ _ => ⟨by decide, fenceAndRegisters_stays,
        fun _ => cfgsEnd_lt (by decide) (by decide) (by decide) fenceAndRegisters_stays,
        fun hw hhw => (Option.some_ne_none hw hhw.symm).elim⟩ }

/-- The event records alone take more than the 2048 bytes asked for. -/
theorem dumps_overrun : ¬ ((∀ devName req bufLen offset,
      StaysIn bufLen (camContextDumpContext devName req bufLen offset)) ∧
    ∀ req onlyEventRecord hwDump bufLen offset,
      StaysIn bufLen (dumpInTopState req onlyEventRecord hwDump bufLen offset)) := by
  rintro ⟨-, hall⟩
  have hfits := fits_of_stays (hall ⟨[], [], by decide, by decide⟩ true none 2048 0)
  have hrecords := (hfits.records (by decide) rfl).1
  revert hrecords
  decide

end CameraKernel.ContextDump
