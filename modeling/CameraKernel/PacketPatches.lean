import CameraKernel.PacketUtil

/-! Patching a packet: the CPU access that each patch takes on its destination buffer, and the word it
writes there. What the memory manager answers is a parameter. -/
namespace CameraKernel.PacketUtil
open GenericBlob

structure PatchDesc where
  dstBufHdl : ℤ
  dstOffset : UInt32
  srcBufHdl : ℤ
  srcOffset : UInt32
  deriving DecidableEq, Repr

def patchDescAt (mem : Memory) (p : ℕ) : PatchDesc :=
  ⟨handleAt mem p, wordAt mem (p + 4), handleAt mem (p + 8), wordAt mem (p + 12)⟩

/-- The descriptors behind `patch_offset`, which is rounded down to words. -/
def patchDescs (packet : Packet) : List PatchDesc :=
  (List.range packet.numPatches.toNat).map fun i =>
    patchDescAt packet.payload (4 * (packet.patchOffset / 4).toNat + sizeofPatchDesc * i)

/-- What `cam_mem_get_io_buf` returns and stores. -/
structure IoBuf where
  rc : ℤ
  iovaAddr : UInt64
  bufSize : ℕ
  deriving DecidableEq, Repr

/-- The memory manager's answers; the first argument numbers the patch they are for. -/
structure MemAnswers where
  isSecureBuf : ℕ → ℤ → Bool
  getIoBuf : ℕ → ℤ → ℤ → IoBuf
  getCpuBuf : ℕ → ℤ → CpuBuf

/-- A patch with the answers to the calls made for it. -/
structure PatchRound where
  patch : PatchDesc
  src : IoBuf
  dst : CpuBuf
  deriving DecidableEq, Repr

def patchRounds (packet : Packet) (iommuHdl secMmuHdl : ℤ) (answers : MemAnswers) :
    List PatchRound :=
  (patchDescs packet).mapIdx fun i patch =>
    let hdl := if answers.isSecureBuf i patch.srcBufHdl then secMmuHdl else iommuHdl
    ⟨patch, answers.getIoBuf i patch.srcBufHdl hdl, answers.getCpuBuf i patch.dstBufHdl⟩

inductive PatchEvent
  | getCpuBuf (hdl : ℤ)
  | putCpuBuf (hdl : ℤ)
  | write (addr : ℕ) (value : UInt32)
  deriving DecidableEq, Repr

/-- `sizeof(void *)`. -/
def sizeofPointer : ℕ := 8

def patchAddr (r : PatchRound) : ℕ := r.dst.cpuAddr + r.patch.dstOffset.toNat

def patchValue (r : PatchRound) : UInt32 := r.src.iovaAddr.toUInt32 + r.patch.srcOffset

/-- One round of the loop: what it does, and the code it goes on or returns with. -/
def processPatch (r : PatchRound) : List PatchEvent × Except ℤ ℤ :=
  if r.src.rc < 0 then ([], .error r.src.rc)
  else
    let got := if r.dst.rc < 0 then [] else [PatchEvent.getCpuBuf r.patch.dstBufHdl]
    if r.dst.rc < 0 ∨ r.dst.cpuAddr = 0 ∨ r.dst.bufSize = 0 then (got, .error r.dst.rc)
    else if r.patch.srcOffset.toNat ≥ r.src.bufSize then (got, .error (-Errno.EINVAL))
    else if r.dst.bufSize < sizeofPointer ∨
        r.dst.bufSize - sizeofPointer < r.patch.dstOffset.toNat then (got, .error (-Errno.EINVAL))
    else (got ++ [PatchEvent.write (patchAddr r) (patchValue r), PatchEvent.putCpuBuf r.patch.dstBufHdl],
      .ok r.dst.rc)

def processRounds (rc : ℤ) : List PatchRound → ℤ × List PatchEvent
  | [] => (rc, [])
  | r :: rest =>
    match processPatch r with
    | (events, .error rc) => (rc, events)
    | (events, .ok rc) =>
      let (rc, later) := processRounds rc rest
      (rc, events ++ later)

def processPatches (packet : Packet) (iommuHdl secMmuHdl : ℤ) (answers : MemAnswers) :
    ℤ × List PatchEvent :=
  processRounds 0 (patchRounds packet iommuHdl secMmuHdl answers)

/-- Each CPU access that was taken is given back. -/
def Balanced (events : List PatchEvent) : Prop :=
  ∀ hdl, events.count (.getCpuBuf hdl) = events.count (.putCpuBuf hdl)

/-- A write of 4 bytes in the destination, with the address of a byte of the source. -/
structure WriteInRange (r : PatchRound) : Prop where
  dst : r.patch.dstOffset.toNat + 4 ≤ r.dst.bufSize
  src : r.patch.srcOffset.toNat < r.src.bufSize
  value : (patchValue r).toNat = (r.src.iovaAddr.toNat + r.patch.srcOffset.toNat) % 2 ^ 32

def writesOf (events : List PatchEvent) : List (ℕ × UInt32) :=
  events.filterMap fun
    | .write addr value => some (addr, value)
    | _ => none

/-- The writes are those of the first patches, one for each, and in range. -/
def WritesInRange (rounds : List PatchRound) (events : List PatchEvent) : Prop :=
  ∃ n, writesOf events = (rounds.take n).map (fun r => (patchAddr r, patchValue r)) ∧
    ∀ r ∈ rounds.take n, WriteInRange r

/-- The patch has got its CPU access. -/
def PatchRound.gotCpuBuf (r : PatchRound) : Bool := 0 ≤ r.src.rc && 0 ≤ r.dst.rc

/-- The patch is carried out. -/
def PatchRound.applies (r : PatchRound) : Bool :=
  r.gotCpuBuf && r.dst.cpuAddr ≠ 0 && r.patch.srcOffset.toNat < r.src.bufSize &&
    sizeofPointer + r.patch.dstOffset.toNat ≤ r.dst.bufSize

/-- The first patch that is not carried out, if there is one, has got its CPU access. -/
def stopsHolding (rounds : List PatchRound) : Bool :=
  (rounds.find? fun r => !r.applies).any PatchRound.gotCpuBuf

variable {r : PatchRound} {rounds : List PatchRound}

lemma Balanced.append {xs ys : List PatchEvent} (hx : Balanced xs) :
    Balanced (xs ++ ys) ↔ Balanced ys := by
  unfold Balanced
  refine forall_congr' fun hdl => ?_
  rw [List.count_append, List.count_append, hx hdl]
  omega

lemma PatchRound.gotCpuBuf_iff : r.gotCpuBuf = true ↔ ¬r.src.rc < 0 ∧ ¬r.dst.rc < 0 := by
  simp [gotCpuBuf]

lemma PatchRound.applies_iff : r.applies = true ↔ r.gotCpuBuf = true ∧ r.dst.cpuAddr ≠ 0 ∧
    r.patch.srcOffset.toNat < r.src.bufSize ∧
    sizeofPointer + r.patch.dstOffset.toNat ≤ r.dst.bufSize := by
  simp [applies, and_assoc]

lemma processPatch_cases (r : PatchRound) :
    (r.applies = true ∧ processPatch r = ([.getCpuBuf r.patch.dstBufHdl,
        .write (patchAddr r) (patchValue r), .putCpuBuf r.patch.dstBufHdl], .ok r.dst.rc)) ∨
      (r.applies = false ∧ r.gotCpuBuf = true ∧
        ∃ rc, processPatch r = ([.getCpuBuf r.patch.dstBufHdl], .error rc)) ∨
      (r.applies = false ∧ r.gotCpuBuf = false ∧ ∃ rc, processPatch r = ([], .error rc)) := by
  rw [← Bool.not_eq_true, ← Bool.not_eq_true, PatchRound.applies_iff, PatchRound.gotCpuBuf_iff,
    sizeofPointer]
  by_cases hsrc : r.src.rc < 0
  · exact .inr (.inr ⟨by tauto, by tauto, _, by rw [processPatch, if_pos hsrc]⟩)
  by_cases hdst : r.dst.rc < 0
  · exact .inr (.inr ⟨by tauto, by tauto, _,
      by rw [processPatch, if_neg hsrc, if_pos hdst, if_pos (.inl hdst)]⟩)
  have hgot : ¬r.src.rc < 0 ∧ ¬r.dst.rc < 0 := ⟨hsrc, hdst⟩
  rw [processPatch, if_neg hsrc, if_neg hdst, sizeofPointer]
  by_cases hnull : r.dst.rc < 0 ∨ r.dst.cpuAddr = 0 ∨ r.dst.bufSize = 0
  · exact .inr (.inl ⟨by omega, hgot, _, by rw [if_pos hnull]⟩)
  rw [if_neg hnull]
  by_cases hoff : r.patch.srcOffset.toNat ≥ r.src.bufSize
  · exact .inr (.inl ⟨by omega, hgot, _, by rw [if_pos hoff]⟩)
  rw [if_neg hoff]
  by_cases hlong : r.dst.bufSize < 8 ∨ r.dst.bufSize - 8 < r.patch.dstOffset.toNat
  · exact .inr (.inl ⟨by omega, hgot, _, by rw [if_pos hlong]⟩)
  · exact .inl ⟨⟨hgot, by omega, by omega, by omega⟩, by rw [if_neg hlong]; rfl⟩

lemma PatchRound.writeInRange (h : r.applies = true) : WriteInRange r := by
  obtain ⟨-, -, hsrc, hdst⟩ := applies_iff.mp h
  simp only [sizeofPointer] at hdst
  refine ⟨by omega, hsrc, ?_⟩
  rw [patchValue, UInt32.toNat_add, UInt64.toNat_toUInt32, Nat.mod_add_mod]

lemma processRounds_balanced_iff (rc : ℤ) (rounds : List PatchRound) :
    WritesInRange rounds (processRounds rc rounds).2 ∧
      (Balanced (processRounds rc rounds).2 ↔ stopsHolding rounds = false) := by
  induction rounds generalizing rc with
  | nil => exact ⟨⟨0, rfl, by simp⟩, iff_of_true (fun _ => rfl) rfl⟩
  | cons r rest ih =>
    rcases processPatch_cases r with ⟨happlies, heq⟩ | ⟨hstop, hgot, rc', heq⟩ | ⟨hstop, hgot, rc', heq⟩
    · obtain ⟨⟨n, hwrites, hrange⟩, hbalanced⟩ := ih r.dst.rc
      have hround : Balanced [.getCpuBuf r.patch.dstBufHdl, .write (patchAddr r) (patchValue r),
          .putCpuBuf r.patch.dstBufHdl] := by
        intro hdl
        by_cases heq : r.patch.dstBufHdl = hdl <;> simp [heq]
      simp only [processRounds, heq]
      refine ⟨⟨n + 1, ?_, ?_⟩, ?_⟩
      · rw [List.take_succ_cons, List.map_cons, ← hwrites]
        rfl
      · rw [List.take_succ_cons]
        exact List.forall_mem_cons.mpr ⟨PatchRound.writeInRange happlies, hrange⟩
      · rw [hround.append, hbalanced, stopsHolding, stopsHolding,
          List.find?_cons_of_neg (by simp [happlies])]
    · simp only [processRounds, heq]
      refine ⟨⟨0, rfl, by simp⟩, iff_of_false (fun hbalanced => ?_) ?_⟩
      · simpa using hbalanced r.patch.dstBufHdl
      · simp [stopsHolding, hstop, hgot]
    · simp only [processRounds, heq]
      refine ⟨⟨0, rfl, by simp⟩, iff_of_true (fun _ => rfl) ?_⟩
      simp [stopsHolding, hstop, hgot]

/-- Patching keeps its writes in range, and gives back every CPU access unless a patch stops it after
getting one. -/
theorem processPatches_balanced_iff (packet : Packet) (iommuHdl secMmuHdl : ℤ)
    (answers : MemAnswers) :
    (Balanced (processPatches packet iommuHdl secMmuHdl answers).2 ∧
        WritesInRange (patchRounds packet iommuHdl secMmuHdl answers)
          (processPatches packet iommuHdl secMmuHdl answers).2) ↔
      stopsHolding (patchRounds packet iommuHdl secMmuHdl answers) = false := by
  obtain ⟨hwrites, hbalanced⟩ :=
    processRounds_balanced_iff 0 (patchRounds packet iommuHdl secMmuHdl answers)
  exact ⟨fun h => hbalanced.mp h.1, fun h => ⟨hbalanced.mpr h, hwrites⟩⟩

/-- A packet with one patch, from byte 0 of handle 6 to byte 0 of handle 5. -/
def onePatchPacket : Packet where
  size := 72
  cmdBufOffset := 0
  numCmdBuf := 0
  ioConfigsOffset := 0
  numIoConfigs := 0
  patchOffset := 0
  numPatches := 1
  kmdCmdBufIndex := 0
  kmdCmdBufOffset := 0
  payload p := if p = 0 then 5 else if p = 8 then 6 else 0

theorem processPatches_unbalanced :
    ¬∀ (packet : Packet) (iommuHdl secMmuHdl : ℤ) (answers : MemAnswers),
      Balanced (processPatches packet iommuHdl secMmuHdl answers).2 := by
  intro hall
  have hbalanced := hall onePatchPacket 1 2
    ⟨fun _ _ => false, fun _ _ _ => ⟨0, 4096, 100⟩, fun _ _ => ⟨0, 8192, 4⟩⟩ 5
  revert hbalanced
  decide

end CameraKernel.PacketUtil
