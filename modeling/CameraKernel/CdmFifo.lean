import CameraKernel.CdmHw

/-! The space in the FIFO of the hardware CDM. A submission asks how many BLs it may write, writes
them one by one while the hardware drains the FIFO, and asks again when its count is used up. -/
namespace CameraKernel.CdmFifo
open CdmHw (BlCmd BlCmdType CAM_CDM_HWFIFO_SIZE)

/-- A command with what `cam_mem_get_io_buf` answers for its handle. -/
structure CmdInput where
  cmd : BlCmd
  rc : ℤ
  hwVaddr : UInt64
  len : UInt64
  deriving DecidableEq, Repr

/-- A request, with what the hardware and the driver are in when it comes. The commands are counted
in an `int`. -/
structure Request where
  type : BlCmdType
  flag : ℤ
  cmds : List CmdInput
  pending : ℕ
  blTag : UInt8
  genIrqVaddr : UInt32
  count_lt : cmds.length < 2 ^ 31
  pending_le : pending ≤ CAM_CDM_HWFIFO_SIZE

/-- A round of the wait for space: the BLs that the hardware takes out before the reading, and what
fails. -/
structure WaitRound where
  drained : ℕ
  readFails : Bool
  enableFails : Bool
  timesOut : Bool
  deriving DecidableEq, Repr

/-- What happens to one write: the BLs taken out before its commit, and what fails. -/
structure WriteAnswers where
  drained : ℕ
  writeFails : Bool
  commitFails : Bool
  deriving DecidableEq, Repr

/-- What a command meets. A wait that comes to the end of its rounds has timed out. -/
structure CmdAnswers where
  error : Bool
  wait : List WaitRound
  bl : WriteAnswers
  noMem : Bool
  genIrq : WriteAnswers
  deriving DecidableEq, Repr

structure Schedule where
  error : Bool
  pendingFails : Bool
  cmd : ℕ → CmdAnswers

/-- A BL that is committed: its command, or the gen-irq, the BLs pending before it, and its
registers. -/
structure Commit where
  source : Option ℕ
  pending : ℕ
  base : UInt32
  lenField : UInt32
  tag : UInt8
  deriving DecidableEq, Repr

structure Fifo where
  pending : ℕ
  writeCount : ℕ
  blTag : UInt8
  commits : List Commit
  deriving DecidableEq, Repr

/-- `cam_hw_cdm_wait_for_bl_fifo`: the count it returns, and the BLs pending then. The comparison is
of unsigned words. -/
def waitForBlFifo (blCount : ℕ) : List WaitRound → ℕ → Option (ℕ × ℕ)
  | [], _ => none
  | round :: rounds, pending =>
    let pendingBl := pending - round.drained
    let availableBlSlots : ℤ := CAM_CDM_HWFIFO_SIZE - pendingBl
    if round.readFails then none
    else if availableBlSlots < 0 then none
    else if (blCount : ℤ) < (availableBlSlots - 1) % 2 ^ 32 then some (blCount, pendingBl)
    else if availableBlSlots - 1 = 0 then
      if round.enableFails ∨ round.timesOut then none else waitForBlFifo blCount rounds pendingBl
    else some ((blCount - (availableBlSlots - 1)).toNat, pendingBl)

/-- The address and the size of the command's buffer. -/
def lookup (type : BlCmdType) (c : CmdInput) : Option (UInt64 × UInt64) :=
  match type with
  | .memHandle => if c.rc = 0 then some (c.hwVaddr, c.len) else none
  | .hwIova =>
    if c.cmd.blAddr = 0 then none else some (c.cmd.blAddr, (c.cmd.len + c.cmd.offset).toUInt64)
  | .kernelIova => none

/-- The address of the buffer of a command that passes the checks. -/
def hwAddr (type : BlCmdType) (c : CmdInput) : Option UInt64 :=
  (lookup type c).bind fun (hwVaddr, len) =>
    if hwVaddr ≠ 0 ∧ len ≠ 0 ∧ len ≥ c.cmd.offset.toUInt64 then
      if len - c.cmd.offset.toUInt64 < c.cmd.len.toUInt64 then none else some hwVaddr
    else none

/-- The registers of a BL and its commit. -/
def write (a : WriteAnswers) (source : Option ℕ) (src len : UInt32) (s : Fifo) : Option Fifo :=
  if a.writeFails ∨ a.commitFails then none
  else
    let pending := s.pending - a.drained
    some { s with
      pending := pending + 1
      commits := s.commits ++ [⟨source, pending, src, len &&& 0xFFFFF, s.blTag⟩] }

def resetTag (s : Fifo) : Fifo :=
  if s.blTag.toNat ≥ CAM_CDM_HWFIFO_SIZE - 1 then { s with blTag := 0 } else s

def nextTag (s : Fifo) : Fifo := { s with blTag := s.blTag + 1 }

namespace Request
variable (req : Request)

/-- `cam_hw_cdm_submit_gen_irq`; when it fails the tag stays. -/
def submitGenIrq (a : CmdAnswers) (s : Fifo) : Fifo :=
  if s.blTag > 63 ∨ a.noMem then s
  else match write a.genIrq none (req.genIrqVaddr + 8 * s.blTag.toUInt32) 7 s with
    | none => s
    | some t => nextTag t

/-- The count for a command: a new one when the old is used up. -/
def takeCount (a : CmdAnswers) (i : ℕ) (s : Fifo) : Option Fifo :=
  if s.writeCount = 0 then
    (waitForBlFifo (req.cmds.length - i) a.wait s.pending).map fun (count, pending) =>
      { s with writeCount := count, pending }
  else some { s with writeCount := s.writeCount - 1 }

/-- A round of the loop; the loop ends at a command that fails. -/
def submitOne (a : CmdAnswers) (i : ℕ) (c : CmdInput) (s : Fifo) : Option Fifo :=
  if c.cmd.len = 0 ∧ c.cmd.len > 0x100000 then none
  else if a.error then none
  else
    (req.takeCount a i s).bind fun s =>
    (hwAddr req.type c).bind fun hwVaddr =>
    (write a.bl (some i) (hwVaddr.toUInt32 + c.cmd.offset) (c.cmd.len - 1) (resetTag s)).map fun s =>
      if req.flag = 1 ∧ i = req.cmds.length - 1 then req.submitGenIrq a (nextTag s) else nextTag s

def submitAll (sched : Schedule) : List CmdInput → ℕ → Fifo → Fifo
  | [], _, s => s
  | c :: cs, i, s =>
    match req.submitOne (sched.cmd i) i c s with
    | none => s
    | some t => submitAll sched cs (i + 1) t

def start : Fifo := ⟨req.pending, 0, req.blTag, []⟩

/-- `cam_hw_cdm_submit_bl`: the BLs that it commits. -/
def submitBl (sched : Schedule) : List Commit :=
  if sched.error ∨ sched.pendingFails then []
  else (req.submitAll sched req.cmds 0 req.start).commits

/-- A commit of a command: the address and the length of the command, which is inside its buffer. -/
def Programs (c : CmdInput) (b : Commit) : Prop :=
  ∃ hwVaddr len, lookup req.type c = some (hwVaddr, len) ∧
    b.base.toNat = hwVaddr.toNat + c.cmd.offset.toNat ∧ b.lenField.toNat + 1 = c.cmd.len.toNat ∧
    c.cmd.offset.toNat + c.cmd.len.toNat ≤ len.toNat

/-- There is space for it, its tag is in range, and its registers are those of its command; those of
the gen-irq are the words of its tag. -/
structure Faithful (b : Commit) : Prop where
  space : b.pending < CAM_CDM_HWFIFO_SIZE
  tag : b.tag.toNat < CAM_CDM_HWFIFO_SIZE
  cmd : ∀ i, b.source = some i → ∃ c, req.cmds[i]? = some c ∧ req.Programs c b
  genIrq : b.source = none →
    b.base = req.genIrqVaddr + 8 * b.tag.toUInt32 ∧ b.lenField.toNat + 1 = 8

def Safe : Prop := ∀ sched, ∀ b ∈ req.submitBl sched, req.Faithful b

/-- The length fits the field, and the address a word. -/
def Programmable (c : CmdInput) : Prop :=
  1 ≤ c.cmd.len.toNat ∧ c.cmd.len.toNat ≤ 2 ^ 20 ∧
    ∀ hwVaddr, hwAddr req.type c = some hwVaddr → hwVaddr.toNat + c.cmd.offset.toNat < 2 ^ 32

/-- The commands before the first that the checks reject. -/
def accepted : List CmdInput := req.cmds.takeWhile fun c => (hwAddr req.type c).isSome

/-- The BLs committed when nothing fails. -/
def commitCount : ℕ :=
  req.accepted.length +
    if req.flag = 1 ∧ req.cmds ≠ [] ∧ req.accepted.length = req.cmds.length then 1 else 0

/-- All BLs fit into the FIFO without a drain; or all but one, and the wait that comes before the
last two finds the FIFO with one slot left, and waits. -/
def FitsFifo : Prop :=
  req.pending + req.commitCount ≤ 64 ∨
    (req.pending + req.commitCount = 65 ∧
      ((req.cmds.length : ℤ) + req.pending - 62) ∣ (63 - req.pending))

def Good : Prop := (∀ c ∈ req.accepted, req.Programmable c) ∧ req.FitsFifo

variable {req} {c : CmdInput} {a : CmdAnswers} {i : ℕ} {s s' t : Fifo} {hwVaddr : UInt64}

lemma hwAddr_inside (h : hwAddr req.type c = some hwVaddr) :
    ∃ len, lookup req.type c = some (hwVaddr, len) ∧
      c.cmd.offset.toNat + c.cmd.len.toNat ≤ len.toNat := by
  rw [hwAddr] at h
  cases hl : lookup req.type c with
  | none => simp [hl] at h
  | some x =>
    obtain ⟨v, len⟩ := x
    rw [hl, Option.bind_some] at h
    dsimp only at h
    split_ifs at h with hsane hroom
    cases h
    refine ⟨len, rfl, ?_⟩
    obtain ⟨-, -, hoff⟩ := hsane
    rw [UInt64.lt_iff_toNat_lt, UInt64.toNat_sub_of_le _ _ hoff, UInt32.toNat_toUInt64,
      UInt32.toNat_toUInt64] at hroom
    rw [ge_iff_le, UInt64.le_iff_toNat_le, UInt32.toNat_toUInt64] at hoff
    omega

/-- The registers that a command gets. -/
def blOf (i : ℕ) (c : CmdInput) (hwVaddr : UInt64) (pending : ℕ) (tag : UInt8) : Commit :=
  ⟨some i, pending, hwVaddr.toUInt32 + c.cmd.offset, (c.cmd.len - 1) &&& 0xFFFFF, tag⟩

lemma lenField_iff (len : UInt32) :
    ((len - 1) &&& 0xFFFFF).toNat + 1 = len.toNat ↔ 1 ≤ len.toNat ∧ len.toNat ≤ 2 ^ 20 := by
  have hlt := len.toNat_lt
  have hmask : ((len - 1) &&& 0xFFFFF).toNat = (len - 1).toNat % 2 ^ 20 := by
    rw [UInt32.toNat_and]
    exact Nat.and_two_pow_sub_one_eq_mod _ 20
  have hsub : (len - 1).toNat = (2 ^ 32 - 1 + len.toNat) % 2 ^ 32 := UInt32.toNat_sub len 1
  omega

lemma programs_iff (h : hwAddr req.type c = some hwVaddr) (i pending : ℕ) (tag : UInt8) :
    req.Programs c (blOf i c hwVaddr pending tag) ↔ req.Programmable c := by
  obtain ⟨len, hl, hroom⟩ := hwAddr_inside h
  have hbase : (hwVaddr.toUInt32 + c.cmd.offset).toNat =
      (hwVaddr.toNat + c.cmd.offset.toNat) % 2 ^ 32 := by
    rw [UInt32.toNat_add, UInt64.toNat_toUInt32, Nat.mod_add_mod]
  constructor
  · rintro ⟨v, len', hl', hb, hlen, -⟩
    rw [hl] at hl'
    cases hl'
    obtain ⟨hpos, hle⟩ := (lenField_iff c.cmd.len).mp hlen
    refine ⟨hpos, hle, fun v hv => ?_⟩
    rw [h] at hv
    cases hv
    have hb' : (hwVaddr.toUInt32 + c.cmd.offset).toNat = _ := hb
    rw [hbase] at hb'
    exact hb' ▸ Nat.mod_lt _ (by norm_num)
  · rintro ⟨hpos, hle, haddr⟩
    refine ⟨hwVaddr, len, hl, ?_, (lenField_iff c.cmd.len).mpr ⟨hpos, hle⟩, hroom⟩
    exact hbase.trans (Nat.mod_eq_of_lt (haddr hwVaddr h))

lemma resetTag_lt (s : Fifo) : (resetTag s).blTag.toNat < 63 := by
  rw [resetTag]
  split_ifs with h
  · exact Nat.zero_lt_succ 62
  · simpa using h

@[simp] lemma resetTag_pending (s : Fifo) : (resetTag s).pending = s.pending := by
  rw [resetTag]
  split_ifs <;> rfl

@[simp] lemma resetTag_writeCount (s : Fifo) : (resetTag s).writeCount = s.writeCount := by
  rw [resetTag]
  split_ifs <;> rfl

@[simp] lemma resetTag_commits (s : Fifo) : (resetTag s).commits = s.commits := by
  rw [resetTag]
  split_ifs <;> rfl

/-- What a BL leaves: one more is pending, and the tag is in range for the gen-irq. -/
structure Written (i : ℕ) (c : CmdInput) (hwVaddr : UInt64) (n : ℕ) (s t : Fifo) : Prop where
  pending : t.pending = n + 1
  writeCount : t.writeCount = s.writeCount
  tag : t.blTag.toNat ≤ 63
  commits : ∃ tag : UInt8, tag.toNat < 63 ∧ t.commits = s.commits ++ [blOf i c hwVaddr n tag]

lemma submitOne_eq_some (h : req.submitOne a i c s = some t) :
    ∃ s₁ hwVaddr s₂, req.takeCount a i s = some s₁ ∧ hwAddr req.type c = some hwVaddr ∧
      Written i c hwVaddr (s₁.pending - a.bl.drained) s₁ s₂ ∧
      t = if req.flag = 1 ∧ i = req.cmds.length - 1 then req.submitGenIrq a s₂ else s₂ := by
  rw [submitOne] at h
  split at h
  · cases h
  split at h
  · cases h
  simp only [Option.bind_eq_some_iff, Option.map_eq_some_iff] at h
  obtain ⟨s₁, hcount, hwVaddr, haddr, s₂, hwrite, rfl⟩ := h
  rw [write] at hwrite
  split_ifs at hwrite
  cases hwrite
  refine ⟨s₁, hwVaddr, nextTag _, hcount, haddr, ?_, rfl⟩
  refine ⟨?_, ?_, ?_, (resetTag s₁).blTag, resetTag_lt s₁, ?_⟩
  · simp [nextTag]
  · simp [nextTag]
  · have hlt := resetTag_lt s₁
    simp only [nextTag, UInt8.toNat_add]
    exact (Nat.mod_le _ _).trans (by simpa using hlt)
  · simp [nextTag, blOf]

/-- A wait that returns has not seen more pending than before, and never exactly one slot. -/
lemma waitForBlFifo_eq_some {blCount pending count q : ℕ} {rounds : List WaitRound}
    (hcount : blCount < 2 ^ 31) (h : waitForBlFifo blCount rounds pending = some (count, q)) :
    q ≤ pending ∧ (q = 64 ∨ q ≤ 62) ∧
      (q ≤ 62 → 63 - q ≤ blCount → count = blCount - (63 - q)) := by
  have hsize : ((CAM_CDM_HWFIFO_SIZE : ℕ) : ℤ) = 64 := rfl
  induction rounds generalizing pending with
  | nil => cases h
  | cons round rounds ih =>
    simp only [waitForBlFifo, hsize] at h
    split_ifs at h with hread hneg hfew hone hfails
    · cases h
      refine ⟨Nat.sub_le _ _, ?_, fun hq hr => ?_⟩ <;> omega
    · obtain ⟨hle, hrest⟩ := ih h
      exact ⟨hle.trans (Nat.sub_le _ _), hrest⟩
    · cases h
      refine ⟨Nat.sub_le _ _, ?_, fun hq hr => ?_⟩ <;> omega

lemma takeCount_eq_some (h : req.takeCount a i s = some t) :
    t.pending ≤ s.pending ∧ t.commits = s.commits ∧ (s.writeCount ≠ 0 → t.writeCount = s.writeCount - 1) ∧
      (s.writeCount = 0 → (t.pending = 64 ∨ t.pending ≤ 62) ∧
        (t.pending ≤ 62 → 63 - t.pending ≤ req.cmds.length - i →
          t.writeCount = req.cmds.length - i - (63 - t.pending))) := by
  rw [takeCount] at h
  split_ifs at h with hzero
  · obtain ⟨⟨count, q⟩, hwait, rfl⟩ := Option.map_eq_some_iff.mp h
    have hlt := req.count_lt
    obtain ⟨hle, hq, hcount⟩ := waitForBlFifo_eq_some (by omega) hwait
    exact ⟨hle, rfl, fun hne => absurd hzero hne, fun _ => ⟨hq, hcount⟩⟩
  · cases h
    exact ⟨le_rfl, rfl, fun _ => rfl, fun h => absurd h hzero⟩

lemma accepted_of_take (hi : i ≤ req.cmds.length)
    (h : ∀ c ∈ req.cmds.take i, (hwAddr req.type c).isSome) : i ≤ req.accepted.length := by
  rw [accepted, ← List.take_append_drop i req.cmds, List.takeWhile_append_of_pos h,
    List.length_append, List.length_take, min_eq_left hi]
  exact Nat.le_add_right _ _

lemma accepted_le : req.accepted.length ≤ req.cmds.length :=
  (List.takeWhile_prefix _).length_le

lemma commitCount_le : req.commitCount ≤ req.cmds.length + 1 := by
  have hle := req.accepted_le
  rw [commitCount]
  split_ifs <;> omega

lemma get_accepted (hi : i < req.accepted.length) :
    ∃ c hwVaddr, req.cmds[i]? = some c ∧ hwAddr req.type c = some hwVaddr ∧ c ∈ req.accepted := by
  have hpre : req.accepted <+: req.cmds := List.takeWhile_prefix _
  have hmem : req.accepted[i] ∈ req.accepted := List.getElem_mem hi
  have hsome := List.mem_takeWhile_imp hmem
  obtain ⟨hwVaddr, haddr⟩ := Option.isSome_iff_exists.mp hsome
  refine ⟨req.accepted[i], hwVaddr, ?_, haddr, hmem⟩
  exact List.getElem?_eq_some_iff.mpr ⟨hi.trans_le req.accepted_le, (hpre.getElem hi).symm⟩

/-! ### Safety -/

/-- The commands that one count allows, when the hardware does not drain the FIFO. -/
def stride (req : Request) : ℕ := req.cmds.length + req.pending - 62

variable (req) in
/-- With `i` commands written. In the tight case something has been drained, or the commands written
and those still allowed make up whole strides. -/
structure Inv (i : ℕ) (s : Fifo) : Prop where
  accepted : ∀ c ∈ req.cmds.take i, (hwAddr req.type c).isSome
  commits : ∀ b ∈ s.commits, req.Faithful b
  pending : s.pending ≤ req.pending + i
  tight : req.pending + req.commitCount = 65 → s.pending + 1 ≤ req.pending + i ∨
    (req.pending + i ≤ 63 ∧ s.writeCount < req.stride ∧ req.stride ∣ i + s.writeCount)

lemma stride_of_tight (hfits : req.FitsFifo) (h : req.pending + req.commitCount = 65) :
    2 ≤ req.stride ∧ req.pending ≤ 63 ∧ req.stride ∣ 63 - req.pending := by
  have hcount := req.commitCount_le
  have hpending : req.pending ≤ 64 := req.pending_le
  rcases hfits with hfits | ⟨-, hdvd⟩
  · omega
  have hstride : ((req.cmds.length : ℤ) + req.pending - 62) = req.stride := by
    rw [stride]
    omega
  have htwo : 2 ≤ req.stride := by
    rw [stride]
    omega
  rw [hstride] at hdvd
  have hle : req.pending ≤ 63 := by
    by_contra hlt
    have hone : (63 : ℤ) - req.pending = -1 := by omega
    rw [hone] at hdvd
    have := Int.le_of_dvd (by norm_num) ((dvd_neg).mp hdvd)
    omega
  refine ⟨htwo, hle, ?_⟩
  have hcast : (63 : ℤ) - req.pending = ((63 - req.pending : ℕ) : ℤ) := by omega
  rw [hcast] at hdvd
  exact Int.natCast_dvd_natCast.mp hdvd

lemma Inv.takeCount (hfits : req.FitsFifo) (hs : req.Inv i s) (hi : i < req.accepted.length)
    (h : req.takeCount a i s = some t) :
    t.pending ≤ req.pending + i ∧ t.pending < 64 ∧
      (req.pending + req.commitCount = 65 → t.pending + 1 ≤ req.pending + i ∨
        (req.pending + i ≤ 62 ∧ t.writeCount < req.stride ∧
          req.stride ∣ i + 1 + t.writeCount)) := by
  obtain ⟨hle, -, hstep, hwait⟩ := takeCount_eq_some h
  have hpending := hs.pending
  have hacc := req.accepted_le
  have hcommit : req.accepted.length ≤ req.commitCount := Nat.le_add_right _ _
  have htight : req.pending + req.commitCount = 65 → t.pending + 1 ≤ req.pending + i ∨
      (req.pending + i ≤ 62 ∧ t.writeCount < req.stride ∧
        req.stride ∣ i + 1 + t.writeCount) := by
    intro heq
    obtain ⟨htwo, hp, hdvd⟩ := stride_of_tight hfits heq
    rcases hs.tight heq with hdrained | ⟨hspace, hlt, hwhole⟩
    · exact .inl (by omega)
    by_cases hzero : s.writeCount = 0
    · obtain ⟨hq, hcount⟩ := hwait hzero
      rw [hzero, Nat.add_zero] at hwhole
      by_cases hdrained : t.pending + 1 ≤ req.pending + i
      · exact .inl hdrained
      · have hc := hcount (by omega) (by rw [stride] at *; omega)
        have hc' : t.writeCount = req.stride - 1 := by rw [hc, stride] at *; omega
        refine .inr ⟨by omega, by omega, ?_⟩
        have hsum : i + 1 + t.writeCount = i + req.stride := by omega
        rw [hsum]
        exact (Nat.dvd_add_right hwhole).mpr dvd_rfl
    · have hc := hstep hzero
      refine .inr ⟨?_, by omega, ?_⟩
      · -- at the last slot the count would be used up
        by_contra hlast
        have hlast' : i = 63 - req.pending := by omega
        rw [← hlast'] at hdvd
        have := Nat.le_of_dvd (by omega) ((Nat.dvd_add_right hdvd).mp hwhole)
        omega
      · have hsum : i + 1 + t.writeCount = i + s.writeCount := by omega
        rwa [hsum]
  refine ⟨hle.trans hpending, ?_, htight⟩
  rcases hfits with hfits | ⟨heq, -⟩
  · omega
  · rcases htight heq with h | h <;> omega

variable (req) in
lemma submitGenIrq_commits (a : CmdAnswers) (s : Fifo) :
    (req.submitGenIrq a s).commits = s.commits ∨
      (s.blTag.toNat ≤ 63 ∧ (req.submitGenIrq a s).commits = s.commits ++
        [⟨none, s.pending - a.genIrq.drained, req.genIrqVaddr + 8 * s.blTag.toUInt32, 7, s.blTag⟩]) := by
  rw [submitGenIrq]
  split_ifs with h
  · exact .inl rfl
  · have htag : s.blTag.toNat ≤ 63 := by
      exact UInt8.le_iff_toNat_le.mp (UInt8.not_lt.mp (not_or.mp h).1)
    rw [write]
    split_ifs
    · exact .inl rfl
    · exact .inr ⟨htag, rfl⟩

lemma Inv.written (hgood : req.Good) (hs : req.Inv i s) (hc : req.cmds[i]? = some c)
    (haddr : hwAddr req.type c = some hwVaddr) (hcount : req.takeCount a i s = some s')
    (hw : Written i c hwVaddr (s'.pending - a.bl.drained) s' t) : req.Inv (i + 1) t := by
  obtain ⟨hi, -⟩ := List.getElem?_eq_some_iff.mp hc
  have htake : ∀ c ∈ req.cmds.take (i + 1), (hwAddr req.type c).isSome := by
    rw [List.take_succ_eq_append_getElem hi, List.forall_mem_append]
    refine ⟨hs.accepted, ?_⟩
    rw [List.forall_mem_singleton, List.getElem_eq_iff hi |>.mpr hc, haddr]
    rfl
  have hacc : i < req.accepted.length := accepted_of_take hi htake
  obtain ⟨hle, hspace, htight⟩ := hs.takeCount hgood.2 hacc hcount
  obtain ⟨-, hcommits, -, -⟩ := takeCount_eq_some hcount
  obtain ⟨tag, htag, hbl⟩ := hw.commits
  have hpending := hw.pending
  have hwrite := hw.writeCount
  refine ⟨htake, ?_, by omega, fun heq => ?_⟩
  · rw [hbl, hcommits, List.forall_mem_append, List.forall_mem_singleton]
    refine ⟨hs.commits, ?_⟩
    have hmem : c ∈ req.accepted := by
      obtain ⟨c', v, hc', -, hmem⟩ := get_accepted hacc
      rw [hc] at hc'
      cases hc'
      exact hmem
    constructor
    · exact (Nat.sub_le _ _).trans_lt hspace
    · exact htag.trans (by decide)
    · intro j hj
      cases hj
      exact ⟨c, hc, (programs_iff haddr _ _ _).mpr (hgood.1 c hmem)⟩
    · intro hnone
      cases hnone
  · rcases htight heq with h | ⟨h, hlt, hdvd⟩
    · exact .inl (by omega)
    · exact .inr ⟨by omega, hwrite ▸ hlt, hwrite ▸ hdvd⟩

lemma Inv.genIrq (hfits : req.FitsFifo) (hs : req.Inv req.cmds.length s) (hne : req.cmds ≠ [])
    (hflag : req.flag = 1) (htag : s.blTag.toNat ≤ 63) :
    ∀ b ∈ (req.submitGenIrq a s).commits, req.Faithful b := by
  have hacc : req.accepted.length = req.cmds.length :=
    le_antisymm req.accepted_le (accepted_of_take le_rfl hs.accepted)
  have hcount : req.commitCount = req.cmds.length + 1 := by
    rw [commitCount, if_pos ⟨hflag, hne, hacc⟩, hacc]
  have hpending := hs.pending
  have htight := hs.tight
  have hspace : s.pending < 64 := by
    rcases hfits with hfits | ⟨heq, -⟩
    · omega
    · rcases htight heq with h | h <;> omega
  rcases req.submitGenIrq_commits a s with h | ⟨-, h⟩
  · rw [h]
    exact hs.commits
  · rw [h, List.forall_mem_append, List.forall_mem_singleton]
    refine ⟨hs.commits, ?_⟩
    constructor
    · exact (Nat.sub_le _ _).trans_lt hspace
    · exact htag.trans_lt (by decide)
    · intro j hj
      cases hj
    · intro _
      exact ⟨rfl, rfl⟩

lemma Inv.step (hgood : req.Good) (hs : req.Inv i s) (hc : req.cmds[i]? = some c)
    (h : req.submitOne a i c s = some t) :
    (∀ b ∈ t.commits, req.Faithful b) ∧ (i + 1 < req.cmds.length → req.Inv (i + 1) t) := by
  obtain ⟨s₁, hwVaddr, s₂, hcount, haddr, hw, rfl⟩ := submitOne_eq_some h
  obtain ⟨hi, -⟩ := List.getElem?_eq_some_iff.mp hc
  have hs₂ := hs.written hgood hc haddr hcount hw
  split_ifs with hlast
  · obtain ⟨hflag, hlast⟩ := hlast
    have hlen : i + 1 = req.cmds.length := by omega
    have hne : req.cmds ≠ [] := List.ne_nil_of_length_pos (by omega)
    exact ⟨(hlen ▸ hs₂).genIrq hgood.2 hne hflag hw.tag, fun h => by omega⟩
  · exact ⟨hs₂.commits, fun _ => hs₂⟩

lemma Inv.run (hgood : req.Good) (sched : Schedule) (cs : List CmdInput) (hcs : req.cmds.drop i = cs)
    (hs : req.Inv i s) : ∀ b ∈ (req.submitAll sched cs i s).commits, req.Faithful b := by
  induction cs generalizing i s with
  | nil => exact hs.commits
  | cons c cs ih =>
    have hc : req.cmds[i]? = some c := by
      rw [← List.head?_drop, hcs]
      rfl
    rw [submitAll]
    cases h : req.submitOne (sched.cmd i) i c s with
    | none => exact hs.commits
    | some t =>
      obtain ⟨hcommits, hnext⟩ := hs.step hgood hc h
      have hdrop : req.cmds.drop (i + 1) = cs := by
        rw [← List.tail_drop, hcs]
        rfl
      cases cs with
      | nil => exact hcommits
      | cons c' cs =>
        refine ih hdrop (hnext ?_)
        have hlen := congrArg List.length hdrop
        rw [List.length_drop, List.length_cons] at hlen
        omega

lemma inv_start (hfits : req.FitsFifo) : req.Inv 0 req.start where
  accepted := by simp
  commits := by simp [start]
  pending := le_rfl
  tight heq := by
    obtain ⟨htwo, hle, -⟩ := stride_of_tight hfits heq
    exact .inr ⟨by omega, by simp only [start]; omega, by simp [start]⟩

lemma safe_of_good (h : req.Good) : req.Safe := by
  intro sched b hb
  rw [submitBl] at hb
  split_ifs at hb
  · cases hb
  · exact (inv_start h.2).run h sched req.cmds rfl b hb

/-- Nothing fails; each commit comes after some drain, and each wait has some rounds. -/
def calm (drained : ℕ) (rounds : List ℕ) : Schedule where
  error := false
  pendingFails := false
  cmd _ := ⟨false, rounds.map (⟨·, false, false, false⟩), ⟨drained, false, false⟩, false,
    ⟨0, false, false⟩⟩

variable {drained k : ℕ} {rounds : List ℕ}

lemma submitOne_calm (hcount : req.takeCount ((calm drained rounds).cmd i) i s = some s')
    (haddr : hwAddr req.type c = some hwVaddr) :
    ∃ s₂, Written i c hwVaddr (s'.pending - drained) s' s₂ ∧
      req.submitOne ((calm drained rounds).cmd i) i c s = some
        (if req.flag = 1 ∧ i = req.cmds.length - 1 then
          req.submitGenIrq ((calm drained rounds).cmd i) s₂ else s₂) := by
  have hlen : ¬(c.cmd.len = 0 ∧ c.cmd.len > 0x100000) := by
    rintro ⟨hzero, hlarge⟩
    rw [hzero] at hlarge
    exact absurd hlarge (by decide)
  cases h : req.submitOne ((calm drained rounds).cmd i) i c s with
  | none =>
    rw [submitOne, if_neg hlen, hcount] at h
    simp [haddr, write, calm] at h
  | some t =>
    obtain ⟨s₁, v, s₂, hcount', haddr', hw, rfl⟩ := submitOne_eq_some h
    cases hcount.symm.trans hcount'
    cases haddr.symm.trans haddr'
    exact ⟨s₂, hw, rfl⟩

variable (req) in
lemma commits_subset_genIrq (p : Prop) [Decidable p] (a : CmdAnswers) (s : Fifo) :
    s.commits ⊆ (if p then req.submitGenIrq a s else s).commits := by
  split_ifs
  · rcases req.submitGenIrq_commits a s with h | ⟨-, h⟩ <;> rw [h]
    · exact List.Subset.refl _
    · exact List.subset_append_left _ _
  · exact List.Subset.refl _

lemma submitOne_commits (h : req.submitOne a i c s = some t) : s.commits ⊆ t.commits := by
  obtain ⟨s₁, hwVaddr, s₂, hcount, -, hw, rfl⟩ := submitOne_eq_some h
  obtain ⟨-, hcommits, -, -⟩ := takeCount_eq_some hcount
  obtain ⟨tag, -, hbl⟩ := hw.commits
  have hsub : s.commits ⊆ s₂.commits := by
    rw [hbl, hcommits]
    exact List.subset_append_left _ _
  exact List.Subset.trans hsub (req.commits_subset_genIrq _ a s₂)

lemma submitAll_commits (sched : Schedule) (cs : List CmdInput) (i : ℕ) (s : Fifo) :
    s.commits ⊆ (req.submitAll sched cs i s).commits := by
  induction cs generalizing i s with
  | nil => exact List.Subset.refl _
  | cons c cs ih =>
    rw [submitAll]
    cases h : req.submitOne (sched.cmd i) i c s with
    | none => exact List.Subset.refl _
    | some t => exact List.Subset.trans (submitOne_commits h) (ih (i + 1) t)

lemma reaches {sched : Schedule} {P : ℕ → Fifo → Prop} (h0 : P 0 req.start)
    (hstep : ∀ i s, i < k → P i s → ∃ c t, req.cmds[i]? = some c ∧
      req.submitOne (sched.cmd i) i c s = some t ∧ P (i + 1) t) :
    ∃ s, P k s ∧
      req.submitAll sched req.cmds 0 req.start = req.submitAll sched (req.cmds.drop k) k s := by
  induction k with
  | zero => exact ⟨req.start, h0, rfl⟩
  | succ k ih =>
    obtain ⟨s, hs, hrun⟩ := ih fun i s hi => hstep i s (hi.trans (Nat.lt_succ_self k))
    obtain ⟨c, t, hc, hone, ht⟩ := hstep k s (Nat.lt_succ_self k) hs
    refine ⟨t, ht, ?_⟩
    obtain ⟨hk, hget⟩ := List.getElem?_eq_some_iff.mp hc
    rw [hrun, List.drop_eq_getElem_cons hk, hget, submitAll, hone]

lemma mem_submitBl {b : Commit} (hc : req.cmds[k]? = some c)
    (hrun : req.submitAll (calm drained rounds) req.cmds 0 req.start =
      req.submitAll (calm drained rounds) (req.cmds.drop k) k s)
    (hone : req.submitOne ((calm drained rounds).cmd k) k c s = some t) (hb : b ∈ t.commits) :
    b ∈ req.submitBl (calm drained rounds) := by
  obtain ⟨hk, hget⟩ := List.getElem?_eq_some_iff.mp hc
  have hcalm : ¬((calm drained rounds).error ∨ (calm drained rounds).pendingFails) := by
    simp [calm]
  rw [submitBl, if_neg hcalm, hrun, List.drop_eq_getElem_cons hk, hget, submitAll, hone]
  exact submitAll_commits _ _ _ _ hb

lemma step_calm (hk : k < req.accepted.length) (hi : i < k)
    (hcount : req.takeCount ((calm drained rounds).cmd i) i s = some s') :
    ∃ c t, req.cmds[i]? = some c ∧ req.submitOne ((calm drained rounds).cmd i) i c s = some t ∧
      t.pending = s'.pending - drained + 1 ∧ t.writeCount = s'.writeCount := by
  obtain ⟨c, hwVaddr, hc, haddr, -⟩ := get_accepted (hi.trans hk)
  obtain ⟨s₂, hw, hone⟩ := submitOne_calm hcount haddr
  have hle := req.accepted_le
  rw [if_neg (by omega)] at hone
  exact ⟨c, s₂, hc, hone, hw.pending, hw.writeCount⟩

variable (req i) in
lemma takeCount_drained (hs : s.pending ≤ 65) :
    ∃ s', req.takeCount ((calm 65 [65]).cmd i) i s = some s' ∧ s'.pending ≤ 65 := by
  rw [takeCount]
  split_ifs with hzero
  · have hp : s.pending - 65 = 0 := by omega
    simp only [calm, List.map_cons, List.map_nil, waitForBlFifo, hp]
    split_ifs
    all_goals simp_all
  · exact ⟨_, rfl, hs⟩

lemma programmable_of_safe (h : req.Safe) : ∀ c ∈ req.accepted, req.Programmable c := by
  intro c hmem
  obtain ⟨k, hk, hget⟩ := List.getElem_of_mem hmem
  obtain ⟨c', hwVaddr, hc, haddr, -⟩ := get_accepted hk
  have hpre : req.accepted <+: req.cmds := List.takeWhile_prefix _
  have hcc : c = c' := by
    obtain ⟨hk', hget'⟩ := List.getElem?_eq_some_iff.mp hc
    rw [← hget, ← hget', hpre.getElem hk]
  subst hcc
  have hstart : req.start.pending ≤ 65 := req.pending_le.trans (by decide)
  obtain ⟨s, hs, hrun⟩ : ∃ s : Fifo, s.pending ≤ 65 ∧
      req.submitAll (calm 65 [65]) req.cmds 0 req.start =
        req.submitAll (calm 65 [65]) (req.cmds.drop k) k s := reaches hstart
    fun i s hi (hs : s.pending ≤ 65) => by
      obtain ⟨s', hcount, hs'⟩ := req.takeCount_drained i hs
      obtain ⟨c, t, hc, hone, hp, -⟩ := step_calm hk hi hcount
      exact ⟨c, t, hc, hone, by omega⟩
  obtain ⟨s', hcount, -⟩ := req.takeCount_drained k hs
  obtain ⟨s₂, hw, hone⟩ := submitOne_calm hcount haddr
  obtain ⟨tag, -, hbl⟩ := hw.commits
  have hb : blOf k c hwVaddr (s'.pending - 65) tag ∈ req.submitBl (calm 65 [65]) := by
    refine mem_submitBl hc hrun hone ?_
    have hb₂ : blOf k c hwVaddr (s'.pending - 65) tag ∈ s₂.commits := by simp [hbl]
    exact req.commits_subset_genIrq _ _ _ hb₂
  obtain ⟨c', hc', hprog⟩ := (h _ _ hb).cmd k rfl
  rw [hc] at hc'
  cases hc'
  exact (programs_iff haddr _ _ _).mp hprog

/-! ### An overrun -/

lemma waitForBlFifo_free {q r : ℕ} (hq : q ≤ 62) (hr : 63 - q ≤ r) :
    waitForBlFifo r ((calm 0 [0, 1]).cmd i).wait q = some (r - (63 - q), q) := by
  have hsize : ((CAM_CDM_HWFIFO_SIZE : ℕ) : ℤ) = 64 := rfl
  simp only [calm, List.map_cons, List.map_nil, waitForBlFifo, hsize, Nat.sub_zero,
    Bool.false_eq_true, if_false]
  rw [if_neg (by omega), if_neg (by omega), if_neg (by omega)]
  congr 2
  omega

lemma waitForBlFifo_lastSlot {r : ℕ} (hr : 1 ≤ r) :
    waitForBlFifo r ((calm 0 [0, 1]).cmd i).wait 63 = some (r - 1, 62) := by
  have hsize : ((CAM_CDM_HWFIFO_SIZE : ℕ) : ℤ) = 64 := rfl
  simp only [calm, List.map_cons, List.map_nil, waitForBlFifo, hsize, Bool.false_eq_true, if_false,
    or_self]
  rw [if_neg (by omega), if_neg (by omega), if_pos (by omega), if_neg (by omega), if_neg (by omega),
    if_neg (by omega)]
  congr 2
  omega

lemma waitForBlFifo_full {r : ℕ} (hr : r < 2 ^ 31) :
    waitForBlFifo r ((calm 0 [0, 1]).cmd i).wait 64 = some (r, 64) := by
  have hsize : ((CAM_CDM_HWFIFO_SIZE : ℕ) : ℤ) = 64 := rfl
  simp only [calm, List.map_cons, List.map_nil, waitForBlFifo, hsize, Bool.false_eq_true, if_false]
  rw [if_neg (by omega), if_pos (by omega)]

lemma not_safe_of_overrun (hk : k < req.accepted.length)
    (hrun : req.submitAll (calm 0 rounds) req.cmds 0 req.start =
      req.submitAll (calm 0 rounds) (req.cmds.drop k) k s)
    (hcount : req.takeCount ((calm 0 rounds).cmd k) k s = some s')
    (hover : s'.pending = 64 ∨ s'.pending = 63 ∧ k = req.cmds.length - 1 ∧ req.flag = 1) :
    ¬req.Safe := by
  intro hsafe
  obtain ⟨c, hwVaddr, hc, haddr, -⟩ := get_accepted hk
  obtain ⟨s₂, hw, hone⟩ := submitOne_calm hcount haddr
  obtain ⟨tag, -, hbl⟩ := hw.commits
  have hpending := hw.pending
  have hfull : ∀ b ∈ (if req.flag = 1 ∧ k = req.cmds.length - 1 then
      req.submitGenIrq ((calm 0 rounds).cmd k) s₂ else s₂).commits, b.pending < 64 :=
    fun b hb => (hsafe _ b (mem_submitBl hc hrun hone hb)).space
  rcases hover with hover | ⟨hover, hlast, hflag⟩
  · have hb : blOf k c hwVaddr (s'.pending - 0) tag ∈ s₂.commits := by simp [hbl]
    have hlt : (blOf k c hwVaddr (s'.pending - 0) tag).pending < 64 := by
      exact hfull _ (req.commits_subset_genIrq _ _ _ hb)
    simp only [blOf] at hlt
    omega
  · rw [if_pos ⟨hflag, hlast⟩] at hfull
    have hgen : (req.submitGenIrq ((calm 0 rounds).cmd k) s₂).commits = s₂.commits ++
        [⟨none, s₂.pending, req.genIrqVaddr + 8 * s₂.blTag.toUInt32, 7, s₂.blTag⟩] := by
      have htag : ¬s₂.blTag > 63 := UInt8.not_lt.mpr (UInt8.le_iff_toNat_le.mpr hw.tag)
      simp [submitGenIrq, htag, calm, write, nextTag]
      rfl
    have hlt := hfull _ (by rw [hgen]; exact List.mem_append_right _ (List.mem_singleton_self _))
    dsimp only at hlt
    omega

variable (req) in
/-- A run in which the hardware drains nothing, with `i` commands written. -/
structure Undrained (i : ℕ) (s : Fifo) : Prop where
  pending : s.pending = req.pending + i
  count : req.pending + i ≤ 63 → s.writeCount < req.stride ∧ req.stride ∣ i + s.writeCount

lemma Undrained.next (hs : req.Undrained i s) (htwo : 2 ≤ req.stride)
    (hi : req.pending + i ≤ 63) (hilt : i < req.cmds.length)
    (hlast : ¬(req.pending + i = 63 ∧ req.stride ∣ i)) :
    ∃ s', req.takeCount ((calm 0 [0, 1]).cmd i) i s = some s' ∧ s'.pending = req.pending + i ∧
      s'.writeCount < req.stride ∧ req.stride ∣ i + 1 + s'.writeCount := by
  obtain ⟨hlt, hdvd⟩ := hs.count hi
  have hstride : req.stride = req.cmds.length + req.pending - 62 := rfl
  rw [takeCount]
  split_ifs with hzero
  · rw [hzero, Nat.add_zero] at hdvd
    rw [hs.pending, waitForBlFifo_free (by omega) (by omega)]
    refine ⟨_, rfl, rfl, ?_, ?_⟩
    · dsimp only
      omega
    · have hsum : i + 1 + (req.cmds.length - i - (63 - (req.pending + i))) = i + req.stride := by
        omega
      rw [hsum]
      exact (Nat.dvd_add_right hdvd).mpr dvd_rfl
  · refine ⟨_, rfl, hs.pending, ?_, ?_⟩
    · dsimp only
      omega
    · have hsum : i + 1 + (s.writeCount - 1) = i + s.writeCount := by omega
      rwa [hsum]

lemma undrained_start (h : req.pending ≤ 63 → 0 < req.stride) : req.Undrained 0 req.start :=
  ⟨rfl, fun hp => ⟨h hp, by simp [start]⟩⟩

lemma Undrained.step (hs : req.Undrained i s) (htwo : 2 ≤ req.stride) (hk : k < req.accepted.length)
    (hi : i < k) (hspace : req.pending + i ≤ 63)
    (hlast : ¬(req.pending + i = 63 ∧ req.stride ∣ i)) :
    ∃ c t, req.cmds[i]? = some c ∧ req.submitOne ((calm 0 [0, 1]).cmd i) i c s = some t ∧
      req.Undrained (i + 1) t := by
  have hle := req.accepted_le
  obtain ⟨s', hcount, hp, hlt, hdvd⟩ := hs.next htwo hspace (by omega) hlast
  obtain ⟨c, t, hc, hone, hpt, hwt⟩ := step_calm hk hi hcount
  exact ⟨c, t, hc, hone, by omega, fun _ => ⟨hwt ▸ hlt, hwt ▸ hdvd⟩⟩

lemma exists_last {n : ℕ} (h : n + 1 ≤ req.commitCount) :
    n < req.accepted.length ∨
      (n = req.accepted.length ∧ req.accepted.length = req.cmds.length ∧ req.flag = 1 ∧ 1 ≤ n) := by
  rw [commitCount] at h
  split_ifs at h with hgen
  · obtain ⟨hflag, hne, hall⟩ := hgen
    have hpos := List.length_pos_iff.mpr hne
    omega
  · omega

/-- The wait never finds exactly one slot: nothing drains, and the FIFO runs over. -/
lemma not_safe_of_not_dvd (htwo : 2 ≤ req.stride) (h : 65 ≤ req.pending + req.commitCount)
    (hdvd : ¬(req.pending ≤ 63 ∧ req.stride ∣ 63 - req.pending)) : ¬req.Safe := by
  have hle := req.accepted_le
  have hp : req.pending ≤ 64 := req.pending_le
  have hlast : ∀ i, ¬(req.pending + i = 63 ∧ req.stride ∣ i) := by
    rintro i ⟨hi, hwhole⟩
    exact hdvd ⟨by omega, by rwa [show 63 - req.pending = i by omega]⟩
  have hreach : ∀ k, k < req.accepted.length → req.pending + k ≤ 64 → ∃ s, req.Undrained k s ∧
      req.submitAll (calm 0 [0, 1]) req.cmds 0 req.start =
        req.submitAll (calm 0 [0, 1]) (req.cmds.drop k) k s := by
    intro k hk hspace
    exact reaches (undrained_start fun _ => by omega) fun i s hi hs =>
      hs.step htwo hk hi (by omega) (hlast i)
  rcases req.exists_last (n := 64 - req.pending) (by omega) with hk | ⟨hk, hall, hflag, hpos⟩
  · obtain ⟨s, hs, hrun⟩ := hreach _ hk (by omega)
    have hpending := hs.pending
    have hfull : s.pending = 64 := by omega
    have hlt := req.count_lt
    by_cases hzero : s.writeCount = 0
    · have hcount : req.takeCount ((calm 0 [0, 1]).cmd (64 - req.pending)) (64 - req.pending) s =
          some ⟨64, req.cmds.length - (64 - req.pending), s.blTag, s.commits⟩ := by
        rw [takeCount, if_pos hzero, hfull, waitForBlFifo_full (by omega)]
        rfl
      exact not_safe_of_overrun hk hrun hcount (.inl rfl)
    · have hcount : req.takeCount ((calm 0 [0, 1]).cmd (64 - req.pending)) (64 - req.pending) s =
          some { s with writeCount := s.writeCount - 1 } := by
        rw [takeCount, if_neg hzero]
      exact not_safe_of_overrun hk hrun hcount (.inl hfull)
  · have hk' : 63 - req.pending < req.accepted.length := by omega
    obtain ⟨s, hs, hrun⟩ := hreach _ hk' (by omega)
    obtain ⟨s', hcount, hp', -⟩ := hs.next htwo (by omega) (by omega) (hlast _)
    exact not_safe_of_overrun hk' hrun hcount (.inr ⟨by omega, by omega, hflag⟩)

variable (req) in
/-- A run that waits at the last slot until one BL has been taken out: the count it gets then is for
all commands that are left. -/
structure WaitedOnce (i : ℕ) (s : Fifo) : Prop where
  before : i ≤ 63 - req.pending → req.Undrained i s
  after : 63 - req.pending < i → s.pending + 1 = req.pending + i ∧ s.writeCount = req.cmds.length - i

lemma WaitedOnce.next (hs : req.WaitedOnce i s) (hp : req.pending ≤ 63)
    (hdvd : req.stride ∣ 63 - req.pending) (hi : i < req.cmds.length)
    (hlast : 63 - req.pending ≤ i) :
    ∃ s', req.takeCount ((calm 0 [0, 1]).cmd i) i s = some s' ∧
      s'.pending + 1 = req.pending + i ∧ s'.writeCount = req.cmds.length - (i + 1) := by
  rw [takeCount]
  rcases Nat.eq_or_lt_of_le hlast with heq | hlt
  · obtain ⟨hpending, hcount⟩ := hs.before heq.ge
    obtain ⟨hlt, hwhole⟩ := hcount (by omega)
    have hzero : s.writeCount = 0 := by
      rw [heq] at hdvd
      exact Nat.eq_zero_of_dvd_of_lt ((Nat.dvd_add_right hdvd).mp hwhole) hlt
    have hfull : s.pending = 63 := by omega
    rw [if_pos hzero, hfull, waitForBlFifo_lastSlot (by omega)]
    exact ⟨_, rfl, by dsimp only; omega, by dsimp only; omega⟩
  · obtain ⟨hpending, hcount⟩ := hs.after hlt
    rw [if_neg (by omega)]
    exact ⟨_, rfl, hpending, by dsimp only; omega⟩

lemma not_safe_of_dvd (htwo : 2 ≤ req.stride) (h : 66 ≤ req.pending + req.commitCount)
    (hp : req.pending ≤ 63) (hdvd : req.stride ∣ 63 - req.pending) : ¬req.Safe := by
  have hle := req.accepted_le
  have hstep : ∀ k i s, k < req.accepted.length → i < k → req.WaitedOnce i s →
      ∃ c t, req.cmds[i]? = some c ∧ req.submitOne ((calm 0 [0, 1]).cmd i) i c s = some t ∧
        req.WaitedOnce (i + 1) t := by
    intro k i s hk hi hs
    by_cases hlast : 63 - req.pending ≤ i
    · obtain ⟨s', hcount, hp', hw'⟩ := hs.next hp hdvd (by omega) hlast
      obtain ⟨c, t, hc, hone, hpt, hwt⟩ := step_calm hk hi hcount
      exact ⟨c, t, hc, hone, fun _ => by omega, fun _ => ⟨by omega, by omega⟩⟩
    · obtain ⟨c, t, hc, hone, ht⟩ :=
        (hs.before (by omega)).step htwo hk hi (by omega) (by omega)
      exact ⟨c, t, hc, hone, fun _ => ht, fun _ => by omega⟩
  have hstart : req.WaitedOnce 0 req.start :=
    ⟨fun _ => undrained_start fun _ => by omega, fun _ => by omega⟩
  have hreach : ∀ k, k < req.accepted.length → ∃ s, req.WaitedOnce k s ∧
      req.submitAll (calm 0 [0, 1]) req.cmds 0 req.start =
        req.submitAll (calm 0 [0, 1]) (req.cmds.drop k) k s :=
    fun k hk => reaches hstart fun i s hi hs => hstep k i s hk hi hs
  rcases req.exists_last (n := 65 - req.pending) (by omega) with hk | ⟨hk, hall, hflag, hpos⟩
  · obtain ⟨s, hs, hrun⟩ := hreach _ hk
    obtain ⟨s', hcount, hp', -⟩ := hs.next hp hdvd (by omega) (by omega)
    exact not_safe_of_overrun hk hrun hcount (.inl (by omega))
  · have hk' : 64 - req.pending < req.accepted.length := by omega
    obtain ⟨s, hs, hrun⟩ := hreach _ hk'
    obtain ⟨s', hcount, hp', -⟩ := hs.next hp hdvd (by omega) (by omega)
    exact not_safe_of_overrun hk' hrun hcount (.inr ⟨by omega, by omega, hflag⟩)

lemma fitsFifo_of_safe (h : req.Safe) : req.FitsFifo := by
  have hcount := req.commitCount_le
  by_cases hfree : req.pending + req.commitCount ≤ 64
  · exact .inl hfree
  have htwo : 2 ≤ req.stride := by
    rw [stride]
    omega
  have hdvd : req.pending ≤ 63 ∧ req.stride ∣ 63 - req.pending := by
    by_contra hdvd
    exact not_safe_of_not_dvd htwo (by omega) hdvd h
  refine .inr ⟨?_, ?_⟩
  · by_contra hne
    exact not_safe_of_dvd htwo (by omega) hdvd.1 hdvd.2 h
  · have hstride : ((req.cmds.length : ℤ) + req.pending - 62) = req.stride := by
      rw [stride]
      omega
    have hcast : (63 : ℤ) - req.pending = ((63 - req.pending : ℕ) : ℤ) := by omega
    rw [hstride, hcast]
    exact Int.natCast_dvd_natCast.mpr hdvd.2

variable (req)

theorem safe_iff_good : req.Safe ↔ req.Good :=
  ⟨fun h => ⟨programmable_of_safe h, fitsFifo_of_safe h⟩, safe_of_good⟩

end Request

/-- One command of 64 bytes, when the FIFO is full. -/
def fullFifo : Request where
  type := .hwIova
  flag := 0
  cmds := [⟨⟨0x1000, 0, 64⟩, 0, 0, 0⟩]
  pending := 64
  blTag := 0
  genIrqVaddr := 0x8000
  count_lt := by decide
  pending_le := le_rfl

theorem fullFifo_unsafe :
    fullFifo.submitBl (Request.calm 0 [0]) = [⟨some 0, 64, 0x1000, 63, 0⟩] ∧ ¬fullFifo.Safe := by
  have hrun : fullFifo.submitBl (Request.calm 0 [0]) = [⟨some 0, 64, 0x1000, 63, 0⟩] := by
    decide +kernel
  refine ⟨hrun, fun h => ?_⟩
  have hspace := (h (Request.calm 0 [0]) ⟨some 0, 64, 0x1000, 63, 0⟩ (by rw [hrun]; simp)).space
  exact absurd hspace (lt_irrefl _)

end CameraKernel.CdmFifo
