import CameraKernel.CdmUtil

/-! A command stream built by the writers is carried out by the interpreter: every
register write of every command, in order, against the base selected last. -/
namespace CameraKernel.CdmUtil
open MachineInt

/-- The words `ws` stand in memory from `p` on. -/
def HoldsAt (mem : Memory) : ℕ → List UInt32 → Prop
  | _, [] => True
  | p, w :: ws => mem p = w ∧ HoldsAt mem (p + 1) ws

lemma holdsAt_append {mem : Memory} {p : ℕ} {ws ws' : List UInt32} :
    HoldsAt mem p (ws ++ ws') ↔ HoldsAt mem p ws ∧ HoldsAt mem (p + ws.length) ws' := by
  induction ws generalizing p with
  | nil => simp [HoldsAt]
  | cons w ws ih =>
    simp only [List.cons_append, HoldsAt, ih, List.length_cons, and_assoc]
    rw [show p + 1 + ws.length = p + (ws.length + 1) by omega]

lemma writeWords_of_lt {p q : ℕ} (h : q < p) (mem : Memory) (ws : List UInt32) :
    writeWords mem p ws q = mem q := by
  induction ws generalizing mem p with
  | nil => rfl
  | cons w ws ih =>
    rw [writeWords, ih (by omega)]
    exact Function.update_of_ne (by omega) _ _

lemma writeWords_holdsAt (mem : Memory) (p : ℕ) (ws : List UInt32) :
    HoldsAt (writeWords mem p ws) p ws := by
  induction ws generalizing mem p with
  | nil => trivial
  | cons w ws ih =>
    refine ⟨?_, ih _ _⟩
    rw [writeWords, writeWords_of_lt (by omega), Function.update_self]

lemma writeWords_append (mem : Memory) (p : ℕ) (ws ws' : List UInt32) :
    writeWords mem p (ws ++ ws') = writeWords (writeWords mem p ws) (p + ws.length) ws' := by
  induction ws generalizing mem p with
  | nil => rfl
  | cons w ws ih =>
    rw [List.cons_append, writeWords, ih, writeWords, List.length_cons,
      show p + 1 + ws.length = p + (ws.length + 1) by omega]

lemma headerWord_toNat (lo hi : ℕ) :
    (headerWord lo hi).toNat = lo % 0x1000000 + 0x1000000 * (hi % 0x100) := by
  rw [headerWord, UInt32.toNat_ofNat']
  omega

lemma cmdField_headerWord {hi : ℕ} (lo : ℕ) (h : hi < 0x100) : cmdField (headerWord lo hi) = hi := by
  rw [cmdField, headerWord_toNat]
  omega

lemma countField_headerWord {lo : ℕ} (hi : ℕ) (h : lo < 0x10000) :
    countField (headerWord lo hi) = lo := by
  rw [countField, headerWord_toNat]
  omega

lemma offsetField_headerWord {lo : ℕ} (hi : ℕ) (h : lo < 0x1000000) :
    offsetField (headerWord lo hi) = lo := by
  rw [offsetField, headerWord_toNat]
  omega

/-- A command as the caller of the writers means it. -/
inductive Cmd
  | regCont (offset : ℕ) (vals : List UInt32)
  | regRandom (regVals : List (UInt32 × UInt32))
  | changeBase (base : ℕ)
  deriving DecidableEq, Repr

namespace Cmd

def WellFormed (baseTable : BaseTable) : Cmd → Prop
  | regCont offset vals => offset < 2 ^ 24 ∧ 1 ≤ vals.length ∧ vals.length ≤ 65535
  | regRandom regVals => 1 ≤ regVals.length ∧ regVals.length ≤ 65535
  | changeBase base => base < 2 ^ 24 ∧ ∃ m, some m ∈ baseTable ∧ m.memCamBase = base

def requiredSize : Cmd → ℕ
  | regCont _ vals => cdmRequiredSizeRegContinuous vals.length
  | regRandom regVals => cdmRequiredSizeRegRandom regVals.length
  | changeBase _ => cdmRequiredSizeChangebase

def write (mem : Memory) (p : ℕ) : Cmd → Memory × ℕ
  | regCont offset vals => cdmWriteRegcontinuous mem p offset vals
  | regRandom regVals => cdmWriteRegrandom mem p regVals
  | changeBase base => cdmWriteChangebase mem p base

/-- The words of a command. -/
def words : Cmd → List UInt32
  | regCont offset vals =>
    headerWord (vals.length % 0x10000) (CdmCommand.id .regCont) :: headerWord offset 0 :: vals
  | regRandom regVals =>
    headerWord (regVals.length % 0x10000) (CdmCommand.id .regRandom) ::
      regVals.flatMap fun rv => [rv.1, rv.2]
  | changeBase base => [headerWord base (CdmCommand.id .changeBase)]

lemma length_flatMap_pair (regVals : List (UInt32 × UInt32)) :
    (regVals.flatMap fun rv => [rv.1, rv.2]).length = 2 * regVals.length := by
  induction regVals with
  | nil => rfl
  | cons rv regVals ih =>
    simp only [List.flatMap_cons, List.length_append, ih, List.length_cons, List.length_nil]
    omega

lemma words_length (c : Cmd) : c.words.length = c.requiredSize := by
  cases c with
  | regCont offset vals =>
    simp [words, requiredSize, cdmRequiredSizeRegContinuous, cdmGetCmdHeaderSize,
      cdmCmdHeaderSizes, CdmCommand.id]
    omega
  | regRandom regVals =>
    simp only [words, List.length_cons, length_flatMap_pair, requiredSize,
      cdmRequiredSizeRegRandom, cdmGetCmdHeaderSize, cdmCmdHeaderSizes, CdmCommand.id]
    simp
    omega
  | changeBase base => rfl

lemma write_eq (mem : Memory) (p : ℕ) (c : Cmd) :
    c.write mem p = (writeWords mem p c.words, p + c.requiredSize) := by
  cases c with
  | regCont offset vals =>
    simp [write, cdmWriteRegcontinuous, words, writeWords, requiredSize,
      cdmRequiredSizeRegContinuous, cdmGetCmdHeaderSize, cdmCmdHeaderSizes, CdmCommand.id, add_assoc]
  | regRandom regVals =>
    simp [write, cdmWriteRegrandom, words, writeWords, requiredSize,
      cdmRequiredSizeRegRandom, cdmGetCmdHeaderSize, cdmCmdHeaderSizes, CdmCommand.id, add_assoc]
  | changeBase base => rfl

end Cmd

/-- Encode a list of commands back to back. -/
def writeCmds (mem : Memory) (p : ℕ) : List Cmd → Memory × ℕ
  | [] => (mem, p)
  | c :: cs => writeCmds (c.write mem p).1 (c.write mem p).2 cs

def totalSize (cs : List Cmd) : ℕ := (cs.map Cmd.requiredSize).sum

lemma writeCmds_eq (mem : Memory) (p : ℕ) (cs : List Cmd) :
    writeCmds mem p cs = (writeWords mem p (cs.flatMap Cmd.words), p + totalSize cs) := by
  induction cs generalizing mem p with
  | nil => rfl
  | cons c cs ih =>
    rw [writeCmds, ih, Cmd.write_eq, List.flatMap_cons, writeWords_append, Cmd.words_length]
    simp [totalSize, add_assoc]

/-- Consecutive registers take consecutive values. -/
def contWrites (addr : ℕ) : List UInt32 → List RegWrite
  | [] => []
  | v :: vs => ⟨addr, v⟩ :: contWrites (addr + 4) vs

/-- The mapping of the first table entry for a hardware base. -/
def mappedBase (baseTable : BaseTable) (hwBase : ℕ) : ℕ :=
  match baseTable with
  | [] => 0
  | none :: rest => mappedBase rest hwBase
  | some m :: rest => if m.memCamBase = hwBase then m.memBase else mappedBase rest hwBase

def Cmd.nextBase (baseTable : BaseTable) (base : ℕ) : Cmd → ℕ
  | .changeBase hwBase => mappedBase baseTable hwBase
  | _ => base

def Cmd.regWrites (base : ℕ) : Cmd → List RegWrite
  | .regCont offset vals => contWrites (base + offset) vals
  | .regRandom regVals => regVals.map fun rv => ⟨base + rv.1.toNat, rv.2⟩
  | .changeBase _ => []

/-- The register writes of a command stream, from a current base on. -/
def intendedWrites (baseTable : BaseTable) (base : ℕ) : List Cmd → List RegWrite
  | [] => []
  | c :: cs => c.regWrites base ++ intendedWrites baseTable (c.nextBase baseTable base) cs

lemma camCdmGetIoremapFromBase_of_present {baseTable : BaseTable} {hwBase : ℕ}
    (h : ∃ m, some m ∈ baseTable ∧ m.memCamBase = hwBase) :
    camCdmGetIoremapFromBase baseTable hwBase = some (mappedBase baseTable hwBase) := by
  obtain ⟨m, hm, rfl⟩ := h
  induction baseTable with
  | nil => cases hm
  | cons e rest ih =>
    cases e with
    | none =>
      have hrest := ih (by simpa using hm)
      simpa [camCdmGetIoremapFromBase, mappedBase] using hrest
    | some m' =>
      by_cases heq : m'.memCamBase = m.memCamBase
      · simp [camCdmGetIoremapFromBase, mappedBase, heq]
      · have hne : m ≠ m' := fun he => heq (he ▸ rfl)
        have hrest := ih (by simpa [hne] using hm)
        simpa [camCdmGetIoremapFromBase, mappedBase, heq] using hrest

lemma mappedBase_ne_zero {baseTable : BaseTable} {hwBase : ℕ}
    (hmap : ∀ m, some m ∈ baseTable → m.memBase ≠ 0)
    (h : ∃ m, some m ∈ baseTable ∧ m.memCamBase = hwBase) : mappedBase baseTable hwBase ≠ 0 := by
  obtain ⟨m, hm, rfl⟩ := h
  induction baseTable with
  | nil => cases hm
  | cons e rest ih =>
    have htail : ∀ m, some m ∈ rest → m.memBase ≠ 0 := fun m hm => hmap m (by simp [hm])
    cases e with
    | none => exact ih htail (by simpa using hm)
    | some m' =>
      by_cases heq : m'.memCamBase = m.memCamBase
      · simpa [mappedBase, heq] using hmap m' (by simp)
      · have hne : m ≠ m' := fun he => heq (he ▸ rfl)
        simpa [mappedBase, heq] using ih htail (by simpa [hne] using hm)

lemma camIoMemcpy_of_holdsAt {buf : Memory} {src : ℕ} {vals : List UInt32} (dest : ℕ)
    (h : HoldsAt buf src vals) : camIoMemcpy dest buf src (vals.length * 4) = contWrites dest vals := by
  induction vals generalizing src dest with
  | nil => rfl
  | cons v vals ih =>
    have htail := ih (dest + 4) h.2
    simp only [camIoMemcpy, Nat.mul_div_cancel _ (by norm_num : 0 < 4)] at htail ⊢
    rw [List.length_cons, List.range_succ_eq_map, List.map_cons, List.map_map, contWrites, ← htail]
    congr 1
    · simp [h.1]
    · refine List.map_congr_left fun i _ => ?_
      simp only [Function.comp_apply, RegWrite.mk.injEq]
      exact ⟨by omega, by congr 1; omega⟩

lemma randomWrites_of_holdsAt {buf : Memory} {data : ℕ} {regVals : List (UInt32 × UInt32)} (base : ℕ)
    (h : HoldsAt buf data (regVals.flatMap fun rv => [rv.1, rv.2])) :
    ((List.range regVals.length).map fun i =>
      (⟨base + (buf (data + 2 * i)).toNat, buf (data + 2 * i + 1)⟩ : RegWrite)) =
      regVals.map fun rv => ⟨base + rv.1.toNat, rv.2⟩ := by
  induction regVals generalizing data with
  | nil => rfl
  | cons rv regVals ih =>
    obtain ⟨hreg, hval, htail⟩ := h
    rw [List.length_cons, List.range_succ_eq_map, List.map_cons, List.map_map, List.map_cons,
      ← ih htail]
    congr 1
    · simp [hreg, hval]
    · refine List.map_congr_left fun i _ => ?_
      simp only [Function.comp_apply, Nat.succ_eq_add_one]
      rw [show data + 2 * (i + 1) = data + 1 + 1 + 2 * i by omega]

variable {baseTable : BaseTable} {buf : Memory}

lemma regContWrite_of_holdsAt {base offset p size : ℕ} {vals : List UInt32}
    (hwf : (Cmd.regCont offset vals).WellFormed baseTable) (hbase : base ≠ 0)
    (h : HoldsAt buf p (Cmd.regCont offset vals).words)
    (hsize : 4 * (Cmd.regCont offset vals).requiredSize ≤ size) :
    ∃ reads, camCdmUtilRegContWrite base buf p size =
      ⟨0, 4 * (Cmd.regCont offset vals).requiredSize, contWrites (base + offset) vals, reads⟩ := by
  obtain ⟨hoffset, hpos, hmax⟩ := hwf
  obtain ⟨hhead, hoff, hvals⟩ := h
  have hsz : (Cmd.regCont offset vals).requiredSize = 2 + vals.length := rfl
  rw [hsz] at hsize ⊢
  have hcount : countField (buf p) = vals.length := by
    rw [hhead, countField_headerWord _ (by omega)]
    omega
  have hdest : offsetField (buf (p + 1)) = offset := by
    rw [hoff, offsetField_headerWord _ (by omega)]
  have hheader : cdmGetCmdHeaderSize .regCont = 2 := rfl
  simp only [camCdmUtilRegContWrite, hcount, hdest, hheader]
  rw [if_neg (by omega), if_neg (by omega), camIoMemcpy_of_holdsAt _ hvals]
  exact ⟨_, by congr 1; omega⟩

lemma regRandomWrite_of_holdsAt {base p size : ℕ} {regVals : List (UInt32 × UInt32)}
    (hwf : (Cmd.regRandom regVals).WellFormed baseTable) (hbase : base ≠ 0)
    (h : HoldsAt buf p (Cmd.regRandom regVals).words)
    (hsize : 4 * (Cmd.regRandom regVals).requiredSize ≤ size) :
    ∃ reads, camCdmUtilRegRandomWrite base buf p size =
      ⟨0, 4 * (Cmd.regRandom regVals).requiredSize, (Cmd.regRandom regVals).regWrites base, reads⟩ := by
  obtain ⟨hpos, hmax⟩ := hwf
  obtain ⟨hhead, hvals⟩ := h
  have hsz : (Cmd.regRandom regVals).requiredSize = 1 + 2 * regVals.length := rfl
  rw [hsz] at hsize ⊢
  have hcount : countField (buf p) = regVals.length := by
    rw [hhead, countField_headerWord _ (by omega)]
    omega
  have hheader : cdmGetCmdHeaderSize .regRandom = 1 := rfl
  simp only [camCdmUtilRegRandomWrite, hcount, hheader]
  rw [if_neg hbase, if_neg (by omega), randomWrites_of_holdsAt _ hvals]
  exact ⟨_, by congr 1; omega⟩

lemma cmdField_of_holdsAt {c : Cmd} {p : ℕ} (h : HoldsAt buf p c.words) :
    cmdField (buf p) =
      match c with
      | .regCont _ _ => CdmCommand.id .regCont
      | .regRandom _ => CdmCommand.id .regRandom
      | .changeBase _ => CdmCommand.id .changeBase := by
  cases c with
  | regCont offset vals => exact h.1 ▸ cmdField_headerWord _ (by decide)
  | regRandom regVals => exact h.1 ▸ cmdField_headerWord _ (by decide)
  | changeBase base => exact h.1 ▸ cmdField_headerWord _ (by decide)

/-- The base a command needs: any for a change of base, a mapped one otherwise. -/
def Cmd.BaseReady (base : ℕ) : Cmd → Prop
  | .changeBase _ => True
  | _ => base ≠ 0

lemma cmdRound_of_holdsAt {c : Cmd} {s : CdmState} (hwf : c.WellFormed baseTable)
    (hbase : c.BaseReady s.base) (h : HoldsAt buf s.ptr c.words)
    (hsize : 4 * c.requiredSize ≤ s.size) :
    ∃ reads, cmdRound baseTable buf s =
      (0, ⟨c.nextBase baseTable s.base, s.ptr + c.requiredSize, s.size - 4 * c.requiredSize,
        s.writes ++ c.regWrites s.base, reads⟩) := by
  have hcmd := cmdField_of_holdsAt h
  cases c with
  | regCont offset vals =>
    obtain ⟨reads, hr⟩ := regContWrite_of_holdsAt hwf hbase h hsize
    simp [cmdRound, hcmd, CdmCommand.id, hr, CdmState.consume, u32Sub_of_le hsize, Cmd.nextBase,
      Cmd.regWrites]
  | regRandom regVals =>
    obtain ⟨reads, hr⟩ := regRandomWrite_of_holdsAt hwf hbase h hsize
    simp [cmdRound, hcmd, CdmCommand.id, hr, CdmState.consume, u32Sub_of_le hsize, Cmd.nextBase]
  | changeBase hwBase =>
    have hoff : offsetField (buf s.ptr) = hwBase := h.1 ▸ offsetField_headerWord _ hwf.1
    have hmap := camCdmGetIoremapFromBase_of_present hwf.2
    have hle : 4 * cdmRequiredSizeChangebase ≤ s.size := hsize
    simp [cmdRound, hcmd, CdmCommand.id, hoff, hmap, CdmState.consume, u32Sub_of_le hle, Cmd.nextBase,
      Cmd.regWrites, Cmd.requiredSize]

lemma Cmd.requiredSize_pos (c : Cmd) : 0 < c.requiredSize := by
  cases c with
  | regCont offset vals => exact Nat.add_pos_left (by decide) _
  | regRandom regVals => exact Nat.add_pos_left (by decide) _
  | changeBase base => exact Nat.one_pos

lemma returns_of_holdsAt (hmap : ∀ m, some m ∈ baseTable → m.memBase ≠ 0) {cs : List Cmd}
    {s : CdmState} (hwf : ∀ c ∈ cs, c.WellFormed baseTable) (hbase : ∀ c ∈ cs.head?, c.BaseReady s.base)
    (h : HoldsAt buf s.ptr (cs.flatMap Cmd.words)) (hsize : s.size = 4 * totalSize cs) :
    ∃ t, WhileLoop.Returns (cmdBody baseTable buf) s (0, t) ∧
      t.writes = s.writes ++ intendedWrites baseTable s.base cs := by
  induction cs generalizing s with
  | nil =>
    refine ⟨s, WhileLoop.returns_of_break ?_, by simp [intendedWrites]⟩
    rw [cmdBody, if_pos (by simpa [totalSize] using hsize)]
  | cons c cs ih =>
    rw [List.flatMap_cons, holdsAt_append, Cmd.words_length] at h
    have htotal : totalSize (c :: cs) = c.requiredSize + totalSize cs := by simp [totalSize]
    have hpos := c.requiredSize_pos
    have hc := hwf c (by simp)
    have hfirst : c.BaseReady s.base := hbase c (by simp)
    obtain ⟨reads, hround⟩ := cmdRound_of_holdsAt hc hfirst h.1 (by omega)
    have hstep : cmdBody baseTable buf s = .inr (cmdRound baseTable buf s).2 := by
      rw [cmdBody, if_neg (by omega), hround, if_neg (lt_irrefl _)]
    -- A mapped base stays the current one until the next change of base.
    have hready : c.nextBase baseTable s.base ≠ 0 := by
      cases c with
      | changeBase hwBase => exact mappedBase_ne_zero hmap hc.2
      | regCont offset vals => exact hfirst
      | regRandom regVals => exact hfirst
    have hnext : ∀ d ∈ cs.head?, d.BaseReady (c.nextBase baseTable s.base) := by
      intro d _
      cases d <;> simp [Cmd.BaseReady, hready]
    rw [hround] at hstep
    obtain ⟨t, hret, hwrites⟩ := ih (s := ⟨c.nextBase baseTable s.base, _, _, _, reads⟩)
      (fun d hd => hwf d (by simp [hd])) hnext h.2 (show s.size - 4 * c.requiredSize = _ by omega)
    refine ⟨t, .of_step hstep hret, ?_⟩
    rw [hwrites, intendedWrites, List.append_assoc]

/-- A stream of well-formed commands that begins with a change of base: each writer
advances by the required size of its command, and the interpreter, given the
encoded bytes, returns 0 and does exactly the intended register writes. -/
theorem cmdStream_roundTrip (baseTable : BaseTable)
    (hmap : ∀ m, some m ∈ baseTable → m.memBase ≠ 0) (mem : Memory) (p base hwBase : ℕ)
    (cs : List Cmd) (hwf : ∀ c ∈ .changeBase hwBase :: cs, c.WellFormed baseTable) :
    (∀ c : Cmd, ∀ mem p, (c.write mem p).2 = p + c.requiredSize) ∧
    ∀ mem' q, writeCmds mem p (.changeBase hwBase :: cs) = (mem', q) →
      ∃ s, CamCdmUtilCmdBufWrite baseTable mem' base p (4 * (q - p)) 0 s ∧
        s.writes = intendedWrites baseTable base (.changeBase hwBase :: cs) := by
  refine ⟨fun c mem p => by rw [Cmd.write_eq], ?_⟩
  intro mem' q hwrite
  rw [writeCmds_eq, Prod.mk.injEq] at hwrite
  obtain ⟨rfl, rfl⟩ := hwrite
  rw [Nat.add_sub_cancel_left]
  have hheld := writeWords_holdsAt mem p ((Cmd.changeBase hwBase :: cs).flatMap Cmd.words)
  obtain ⟨s, hret, hwrites⟩ := returns_of_holdsAt hmap hwf (s := ⟨base, p, _, [], []⟩)
    (by simp [Cmd.BaseReady]) hheld rfl
  exact ⟨s, hret, by simpa using hwrites⟩

theorem cmdStream_roundTrip_twoBlocks :
    ∃ s, CamCdmUtilCmdBufWrite [some ⟨0x48000, 0x1000⟩, none, some ⟨0x6f000, 0x9000⟩]
        (writeCmds (fun _ => 0) 0 [.changeBase 0x48000, .regCont 0x20 [7, 8], .changeBase 0x6f000,
          .regRandom [(4, 9)]]).1 0 0 36 0 s ∧
      s.writes = [⟨0x1020, 7⟩, ⟨0x1024, 8⟩, ⟨0x9004, 9⟩] := by
  have h := (cmdStream_roundTrip [some ⟨0x48000, 0x1000⟩, none, some ⟨0x6f000, 0x9000⟩]
    (by simp) (fun _ => 0) 0 0 0x48000
    [.regCont 0x20 [7, 8], .changeBase 0x6f000, .regRandom [(4, 9)]] (by simp [Cmd.WellFormed])).2
  exact h _ 9 rfl

end CameraKernel.CdmUtil
