import CameraKernel.CciPackets

/-! `cam_cci_data_queue` for every write command: the bytes of a packet against `data[12]`,
and the words of a batch against the hardware queue. The hardware is a script of what it
shows in each round. -/
namespace CameraKernel.CciLoad
open CameraKernel CciQueue

inductive Cmd
  | write
  | writeSeq
  | writeBurst
  | writeAsync
  | writeSync
  | writeSyncBlock
  deriving DecidableEq, Repr

/-- The commands whose packets are not bounded by the look-ahead. -/
def Cmd.streams : Cmd → Bool
  | writeSeq => true
  | writeBurst => true
  | _ => false

/-- `waitSync` is a sync that is enabled and valid. -/
structure Call where
  setting : Setting
  cmd : Cmd
  supportSeqWrite : Bool
  waitSync : Bool

def burstMinFreeSize : ℕ := 8
def payloadSize11 : ℕ := 11

variable (c : Call)

def Call.max : ℕ := c.setting.queue.maxQueueSize.toNat

def Call.queueSize : ℕ := if c.cmd = .writeSeq then c.max else c.max / 2

/-- The streaming commands take the number of entries for one of bytes. -/
def camCciCalcCmdLen (cmds : List Reg) : ℤ × ℕ :=
  if c.cmd.streams then
    let len := min (cmds.length + c.setting.addrType.numBytes) c.setting.payloadSize
    if len > c.setting.payloadSize then (-Errno.EINVAL, 0)
    else ((((len + 1) / 4 + 1 : ℕ) : ℤ), 0)
  else CciQueue.camCciCalcCmdLen c.setting cmds

/-- The `do` loop, from `i` bytes on: the bytes it adds and the entries it leaves. -/
def dataLoop : ℕ → ℕ → List Reg → List ℕ × List Reg
  | _, _, [] => ([], [])
  | pack, i, cmd :: rest =>
    if c.setting.dataType = .byte ∨ i + 1 ≤ c.setting.payloadSize then
      let bytes := dataBytes c.setting cmd.regData
      if (c.cmd.streams = true ∨ pack ≠ 0) ∧ rest ≠ [] ∧ i + bytes.length ≤ c.setting.payloadSize then
        let r := dataLoop (pack - 1) (i + bytes.length) rest
        (bytes ++ r.1, r.2)
      else (bytes, rest)
    else ([], cmd :: rest)

/-- A packet continues the one before it without an address. -/
def addrOf (enSeqWrite : Bool) (regAddr : UInt32) : List ℕ :=
  if enSeqWrite then [] else addrBytes c.setting regAddr

/-- The data of the next packet and the entries behind it. -/
def nextData (enSeqWrite : Bool) (cmds : List Reg) : List ℕ × List Reg :=
  dataLoop c (camCciCalcCmdLen c cmds).2 (1 + (addrOf c enSeqWrite 0).length) cmds

/-- What is in `data[]`. -/
def packet (continued enSeqWrite : Bool) (regAddr : UInt32) (cmds : List Reg) : List ℕ :=
  let bs := addrOf c continued regAddr ++ (nextData c continued cmds).1
  (if enSeqWrite then writeCmd ||| 0xF0 else writeCmd ||| bs.length <<< 4) :: bs

/-- The packet may be continued when the queue has room for a burst. -/
def mayContinue (continued : Bool) (cmds : List Reg) : Bool :=
  c.cmd.streams && (packet c continued false 0 cmds).length - 1 == payloadSize11 &&
    c.supportSeqWrite && !(nextData c continued cmds).2.isEmpty

/-- What the hardware shows in a round. While no report is queued there is room for one; it
takes `drained` words between the two reads of the level. -/
structure Observed (max : ℕ) where
  readVal : ℕ
  qFree : Bool
  drained : ℕ
  waitRc : ℤ
  room : readVal + (if qFree then 0 else 1) ≤ max

/-- `levels` are the levels of the queue behind each load, a report that ends the batch
counted with it; `packets` what `data[]` held. -/
structure LoadState where
  cmds : List Reg
  regAddr : UInt32
  enSeqWrite : Bool
  emptied : Bool
  round : ℕ
  levels : List ℕ
  packets : List (List ℕ)
  deriving DecidableEq, Repr

/-- `cam_cci_write_i2c_queue`: with no room for the word and a report, the report goes first
and leaves the queue empty. The levels, and the last one. -/
def writeI2cQueue (max level : ℕ) : List ℕ × ℕ :=
  if max < level + 1 + 1 then ([level + 1, 1], 1) else ([level + 1], level + 1)

def camCciLockQueue (level : ℕ) : List ℕ × ℕ :=
  if c.setting.queue = .queue0 then writeI2cQueue c.max level else ([], level)

/-- The words before the first packet; `cam_cci_i2c_write` has emptied the queue. -/
def openLevels (cmdSize : ℕ) : List ℕ :=
  let params := if c.waitSync ∧ cmdSize < c.max then [1, 2] else [1]
  params ++ (camCciLockQueue c params.length).1

/-- `cam_cci_transfer_end`. -/
def transferEnd (o : Observed c.max) : List ℕ :=
  if o.qFree ∧ o.waitRc < 0 then []
  else
    let locked := camCciLockQueue c (if o.qFree then 0 else o.readVal)
    locked.1 ++ [locked.2 + 1]

/-- `cam_cci_process_full_q`: the packet is tried again on an empty queue. -/
def fullRound (readVal : ℕ) (qFree : Bool) (s : LoadState) : LoadState :=
  { s with
    emptied := true
    round := s.round + 1
    levels := s.levels ++ if qFree then [] else [readVal + 1] }

/-- The report of `cam_cci_process_half_q`. -/
def halfReport (readVal len : ℕ) (qFree : Bool) : ℕ :=
  if c.queueSize < readVal + len + 1 ∧ qFree = false then 1 else 0

def loadRound (drained readVal len : ℕ) (qFree : Bool) (s : LoadState) : LoadState :=
  let report := halfReport c readVal len qFree
  let loadVal := readVal + report - drained
  let regAddr :=
    if c.cmd.streams then s.regAddr else (s.cmds.head?.map Reg.regAddr).getD s.regAddr
  let rest := (nextData c s.enSeqWrite s.cmds).2
  let enSeqWrite := mayContinue c s.enSeqWrite s.cmds && decide (burstMinFreeSize < c.max - loadVal)
  let data := packet c s.enSeqWrite enSeqWrite regAddr s.cmds
  let wait := if enSeqWrite then [] else waitWords c.setting ((s.cmds.head?.map Reg.delay).getD 0)
  let ending := if qFree = false ∧ report = 0 then 1 else 0
  { cmds := rest
    regAddr := if c.cmd = .writeSeq
      then regAddr + UInt32.ofNat (s.cmds.length - rest.length) else regAddr
    enSeqWrite := enSeqWrite
    emptied := false
    round := s.round + 1
    levels := s.levels ++ (if report = 1 then [readVal + 1] else []) ++
      [loadVal + (loadWords data ++ wait).length + ending]
    packets := s.packets ++ [data] }

def loadBody (hw : ℕ → Observed c.max) (s : LoadState) : (ℤ × LoadState) ⊕ LoadState :=
  let o := hw s.round
  if s.cmds = [] then .inl (o.waitRc, { s with levels := s.levels ++ transferEnd c o })
  else
    -- The length is kept in a `uint16_t`.
    let len := ((camCciCalcCmdLen c s.cmds).1 % 0x10000).toNat
    if len = 0 then .inl (-Errno.EINVAL, s)
    else
      -- A completed report has emptied the queue.
      let readVal := if s.emptied then 0 else o.readVal
      let qFree := !s.emptied && o.qFree
      if c.max < readVal + len + 1 then
        if o.waitRc < 0 then .inl (o.waitRc, fullRound readVal qFree s)
        else .inr (fullRound readVal qFree s)
      else .inr (loadRound c o.drained readVal len qFree s)

def loadStart (regs : List Reg) : LoadState :=
  ⟨regs, (regs.head?.map Reg.regAddr).getD 0, false, false, 0, openLevels c regs.length, []⟩

/-- The call for these entries comes to its end. -/
def CamCciDataQueue (hw : ℕ → Observed c.max) (regs : List Reg) (r : ℤ × LoadState) : Prop :=
  regs.length ≠ 0 ∧ regs.length ≤ maxWrite ∧ WhileLoop.Returns (loadBody c hw) (loadStart c regs) r

/-- Whatever the hardware shows, the call ends, no packet is longer than `data[]` and no level
above the queue's size. -/
structure Fits (regs : List Reg) : Prop where
  ends : ∀ hw, ∃ r, CamCciDataQueue c hw regs r
  packets : ∀ hw r, CamCciDataQueue c hw regs r → ∀ data ∈ r.2.packets, data.length ≤ 12
  levels : ∀ hw r, CamCciDataQueue c hw regs r → ∀ l ∈ r.2.levels, l ≤ c.max

/-- The entries a packet can start from, and whether it continues one. -/
inductive Comes (regs : List Reg) : List Reg → Bool → Prop
  | start : Comes regs regs false
  | next {cmds : List Reg} {continued enSeqWrite : Bool} (h : Comes regs cmds continued)
      (hne : cmds ≠ []) (hseq : enSeqWrite = true → mayContinue c continued cmds = true) :
      Comes regs (nextData c continued cmds).2 enSeqWrite

/-- The words estimated before the packet is built. -/
def estimate (cmds : List Reg) : ℕ := ((camCciCalcCmdLen c cmds).1 % 0x10000).toNat

/-- The packet, with the wait of a delayed first entry, needs no more. -/
def withinEstimate (continued : Bool) (cmds : List Reg) : Prop :=
  (loadWords (packet c continued false 0 cmds)).length +
    (waitWords c.setting ((cmds.head?.map Reg.delay).getD 0)).length ≤ estimate c cmds

/-- The last entry of a packet crosses the end of `data[]`: of the first packet, or of one
without an address. -/
def crosses (n : ℕ) : Prop :=
  c.cmd.streams = true ∧ c.setting.payloadSize = 11 ∧
    (c.setting.dataType = .dword ∧ c.setting.addrType = .byte ∧ 3 ≤ n ∨
      c.setting.dataType = .b3 ∧ c.setting.addrType ≠ .byte ∧ c.supportSeqWrite = true ∧ 7 ≤ n)

instance (n : ℕ) : Decidable (crosses c n) := inferInstanceAs (Decidable (_ ∧ _ ∧ _))

variable {c} {regs cmds rest : List Reg} {continued enSeqWrite : Bool} {s t : LoadState}
  {hw : ℕ → Observed c.max}

/-- `n` entries are taken: the check before each of them, and why the loop ends. -/
structure Took (c : Call) (pack i : ℕ) (cmds : List Reg) (n : ℕ) : Prop where
  pos : 1 ≤ n
  le : n ≤ cmds.length
  length : (dataLoop c pack i cmds).1.length = c.setting.dataType.numBytes * n
  rest : (dataLoop c pack i cmds).2 = cmds.drop n
  check : c.setting.dataType = .byte ∨
    i + c.setting.dataType.numBytes * (n - 1) + 1 ≤ c.setting.payloadSize
  more : n = 1 ∨ i + c.setting.dataType.numBytes * (n - 1) ≤ c.setting.payloadSize
  stop : c.cmd.streams = true → n = cmds.length ∨
    c.setting.payloadSize < i + c.setting.dataType.numBytes * n ∨
    c.setting.dataType ≠ .byte ∧ c.setting.payloadSize < i + c.setting.dataType.numBytes * n + 1
  pack : c.cmd.streams = false → n ≤ pack + 1

lemma dataLoop_took (pack i : ℕ) (hne : cmds ≠ [])
    (hfirst : c.setting.dataType = .byte ∨ i + 1 ≤ c.setting.payloadSize) :
    ∃ n, Took c pack i cmds n := by
  induction cmds generalizing pack i with
  | nil => exact absurd rfl hne
  | cons cmd rest ih =>
    have hlen := length_dataBytes (m := c.setting) cmd.regData
    have hloop := dataLoop.eq_2 c pack i cmd rest
    rw [if_pos hfirst] at hloop
    simp only [hlen] at hloop
    by_cases hgo : (c.cmd.streams = true ∨ pack ≠ 0) ∧ rest ≠ [] ∧
        i + c.setting.dataType.numBytes ≤ c.setting.payloadSize
    · rw [if_pos hgo] at hloop
      by_cases hnext : c.setting.dataType = .byte ∨
          i + c.setting.dataType.numBytes + 1 ≤ c.setting.payloadSize
      · obtain ⟨n, hn⟩ := ih (pack - 1) (i + c.setting.dataType.numBytes) hgo.2.1 hnext
        have hpos := hn.pos
        have hmul : c.setting.dataType.numBytes * n =
            c.setting.dataType.numBytes * (n - 1) + c.setting.dataType.numBytes := by
          rw [← Nat.mul_succ]
          congr 1
          omega
        have hsucc : c.setting.dataType.numBytes * (n + 1) =
            c.setting.dataType.numBytes * n + c.setting.dataType.numBytes := Nat.mul_succ _ _
        refine ⟨n + 1, ⟨by omega, by simpa using hn.le, ?_, ?_, ?_, ?_, ?_, ?_⟩⟩
        · rw [hloop, List.length_append, hlen, hn.length, hsucc]
          omega
        · rw [hloop, hn.rest, List.drop_succ_cons]
        · refine hn.check.imp id fun h => ?_
          rw [Nat.add_sub_cancel]
          omega
        · right
          rw [Nat.add_sub_cancel]
          rcases hn.more with h1 | h
          · subst h1
            rw [Nat.mul_one]
            exact hgo.2.2
          · omega
        · intro hs
          rcases hn.stop hs with h | h | ⟨hb, h⟩
          · exact .inl (by simp [h])
          · exact .inr (.inl (by omega))
          · exact .inr (.inr ⟨hb, by omega⟩)
        · intro hs
          have hpack := hn.pack hs
          have hne0 : pack ≠ 0 := hgo.1.resolve_left (by simp [hs])
          omega
      · -- The next entry does not fit: the loop is left inside.
        push Not at hnext
        have hinner : dataLoop c (pack - 1) (i + c.setting.dataType.numBytes) rest = ([], rest) := by
          cases rest with
          | nil => exact absurd rfl hgo.2.1
          | cons cmd' rest' =>
            rw [dataLoop, if_neg]
            push Not
            exact hnext
        rw [hinner, List.append_nil] at hloop
        refine ⟨1, ⟨le_refl 1, by simp, ?_, ?_, ?_, .inl rfl, ?_, fun _ => by omega⟩⟩
        · rw [hloop, hlen, Nat.mul_one]
        · rw [hloop, List.drop_one, List.tail_cons]
        · simpa using hfirst
        · intro _
          rw [Nat.mul_one]
          exact .inr (.inr hnext)
    · rw [if_neg hgo] at hloop
      refine ⟨1, ⟨le_refl 1, by simp, ?_, ?_, ?_, .inl rfl, ?_, fun _ => by omega⟩⟩
      · rw [hloop, hlen, Nat.mul_one]
      · rw [hloop, List.drop_one, List.tail_cons]
      · simpa using hfirst
      · intro hs
        rw [Nat.mul_one]
        simp only [hs, true_or, true_and, not_and_or, not_not, not_le] at hgo
        rcases hgo with h | h
        · exact .inl (by simp [h])
        · exact .inr (.inl h)

lemma length_addrOf (c : Call) (continued : Bool) (regAddr : UInt32) :
    (addrOf c continued regAddr).length = if continued then 0 else c.setting.addrType.sentBytes := by
  cases continued
  · exact length_addrBytes regAddr
  · rfl

lemma length_packet (c : Call) (continued enSeqWrite : Bool) (regAddr : UInt32) (cmds : List Reg) :
    (packet c continued enSeqWrite regAddr cmds).length =
      1 + (if continued then 0 else c.setting.addrType.sentBytes) +
        (nextData c continued cmds).1.length := by
  rw [packet, List.length_cons, List.length_append, length_addrOf]
  omega

lemma nextData_took (c : Call) (continued : Bool) (hne : cmds ≠ []) :
    ∃ n, Took c (camCciCalcCmdLen c cmds).2
      (1 + if continued then 0 else c.setting.addrType.sentBytes) cmds n := by
  have ha := c.setting.addrType.sentBytes_pos
  have hp := c.setting.payload_bounds
  refine dataLoop_took _ _ hne (.inr ?_)
  split_ifs <;> omega

lemma nextData_eq (c : Call) (continued : Bool) (cmds : List Reg) :
    nextData c continued cmds = dataLoop c (camCciCalcCmdLen c cmds).2
      (1 + if continued then 0 else c.setting.addrType.sentBytes) cmds := by
  rw [nextData, length_addrOf]

lemma length_nextData_lt (c : Call) (continued : Bool) (hne : cmds ≠ []) :
    (nextData c continued cmds).2.length < cmds.length := by
  obtain ⟨n, hn⟩ := nextData_took c continued hne
  have hpos := hn.pos
  have hle := hn.le
  rw [nextData_eq, hn.rest, List.length_drop]
  omega

lemma length_loadWords {bs : List ℕ} (hne : bs ≠ []) :
    (loadWords bs).length = (bs.length - 1) / 4 + 1 := by
  induction bs using loadWords.induct with
  | case1 => exact absurd rfl hne
  | case2 a => simp [loadWords]
  | case3 a b => simp [loadWords]
  | case4 a b c => simp [loadWords]
  | case5 a b c d rest ih =>
    rw [loadWords, List.length_cons]
    cases rest with
    | nil => simp [loadWords]
    | cons e rest =>
      rw [ih (by simp)]
      simp only [List.length_cons]
      omega

lemma calcCmdLen_other (hs : c.cmd.streams = false) (hne : cmds ≠ []) :
    c.setting.addrType.numBytes + c.setting.dataType.numBytes * ((camCciCalcCmdLen c cmds).2 + 1) ≤
      c.setting.payloadSize ∧
    estimate c cmds = (1 + c.setting.addrType.numBytes +
      c.setting.dataType.numBytes * ((camCciCalcCmdLen c cmds).2 + 1)) / 4 + 1 := by
  obtain ⟨r, rs, rfl⟩ := List.exists_cons_of_ne_nil hne
  have ha := c.setting.addrType.sentBytes_le
  have hd := c.setting.dataType.numBytes_pos
  have hp := c.setting.payload_bounds
  have hpack := packLoop_eq (m := c.setting) (rs.length + 1) 0 (r :: rs)
  have hroom := follows_room (m := c.setting) (rs.length + 1) 0 (r :: rs) (by omega)
  simp only [Nat.mul_zero, Nat.add_zero, Nat.zero_add] at hpack
  rw [Nat.zero_add] at hroom
  have hsucc := Nat.mul_succ c.setting.dataType.numBytes
    (follows c.setting (rs.length + 1) 0 (r :: rs))
  rw [Nat.succ_eq_add_one] at hsucc
  have hcalc : camCciCalcCmdLen c (r :: rs) = ((((c.setting.dataType.numBytes +
      c.setting.addrType.numBytes + c.setting.dataType.numBytes *
        follows c.setting (rs.length + 1) 0 (r :: rs) + 1) / 4 + 1 : ℕ) : ℤ),
      follows c.setting (rs.length + 1) 0 (r :: rs)) := by
    simp only [camCciCalcCmdLen, hs, Bool.false_eq_true, if_false, CciQueue.camCciCalcCmdLen,
      List.length_cons, hpack]
    rw [if_neg (by omega)]
  rw [estimate, hcalc]
  simp only
  exact ⟨by omega, by omega⟩

lemma estimate_streams (hs : c.cmd.streams = true) (cmds : List Reg) : estimate c cmds =
    (min (cmds.length + c.setting.addrType.numBytes) c.setting.payloadSize + 1) / 4 + 1 := by
  have hp := c.setting.payload_bounds
  rw [estimate, camCciCalcCmdLen, if_pos hs]
  simp only
  rw [if_neg (by omega)]
  simp only
  omega

lemma estimate_bounds (hne : cmds ≠ []) : 0 < estimate c cmds ∧ estimate c cmds ≤ 4 := by
  have hp := c.setting.payload_bounds
  cases hs : c.cmd.streams with
  | false =>
    obtain ⟨hroom, he⟩ := calcCmdLen_other hs hne
    omega
  | true =>
    rw [estimate_streams hs]
    omega

/-! ### The end of `data[]` -/

lemma length_packet_other (hs : c.cmd.streams = false) (hne : cmds ≠ []) (enSeqWrite : Bool)
    (regAddr : UInt32) : (packet c continued enSeqWrite regAddr cmds).length ≤ 12 := by
  obtain ⟨n, hn⟩ := nextData_took c continued hne
  have hroom := (calcCmdLen_other hs hne).1
  have ha := c.setting.addrType.sentBytes_le.1
  have hp := c.setting.payload_bounds
  have hpack := hn.pack hs
  have hmul : c.setting.dataType.numBytes * n ≤
      c.setting.dataType.numBytes * ((camCciCalcCmdLen c cmds).2 + 1) := Nat.mul_le_mul_left _ hpack
  rw [length_packet, nextData_eq, hn.length]
  split_ifs <;> omega

lemma not_mayContinue_other (hs : c.cmd.streams = false) (continued : Bool) (cmds : List Reg) :
    mayContinue c continued cmds = false := by
  simp [mayContinue, hs]

lemma Comes.continued_other (hs : c.cmd.streams = false) (h : Comes c regs cmds continued) :
    continued = false := by
  cases h with
  | start => rfl
  | next h hne hseq =>
    cases continued with
    | false => rfl
    | true =>
      have := hseq rfl
      rw [not_mayContinue_other hs] at this
      cases this

lemma mayContinue_iff (c : Call) (continued : Bool) (cmds : List Reg) :
    mayContinue c continued cmds = true ↔ c.cmd.streams = true ∧
      (packet c continued false 0 cmds).length = 12 ∧ c.supportSeqWrite = true ∧
        (nextData c continued cmds).2 ≠ [] := by
  simp only [mayContinue, payloadSize11, Bool.and_eq_true, beq_iff_eq, Bool.not_eq_true',
    List.isEmpty_eq_false_iff, and_assoc]
  constructor
  · rintro ⟨hs, hlen, hrest⟩
    exact ⟨hs, by omega, hrest⟩
  · rintro ⟨hs, hlen, hrest⟩
    exact ⟨hs, by omega, hrest⟩

/-- Which packets come without an address: their data types divide `data[]` evenly. -/
structure ComesInv (c : Call) (regs cmds : List Reg) (continued : Bool) : Prop where
  length : cmds.length ≤ regs.length
  support : continued = true → c.supportSeqWrite = true
  shape : continued = true → c.setting.dataType = .byte ∨
    c.setting.dataType = .word ∧ c.setting.addrType = .byte ∨
    c.setting.dataType = .b3 ∧ c.setting.addrType ≠ .byte ∧ cmds.length + 3 ≤ regs.length

lemma ComesInv.next (h : ComesInv c regs cmds continued) (hne : cmds ≠ [])
    (hseq : enSeqWrite = true → mayContinue c continued cmds = true) :
    ComesInv c regs (nextData c continued cmds).2 enSeqWrite := by
  refine ⟨(length_nextData_lt c continued hne).le.trans h.length, ?_, ?_⟩
  · intro he
    exact ((mayContinue_iff c continued cmds).1 (hseq he)).2.2.1
  · intro he
    have hlen := ((mayContinue_iff c continued cmds).1 (hseq he)).2.1
    obtain ⟨n, hn⟩ := nextData_took c continued hne
    have hle := hn.le
    have hcmds := h.length
    have hshape := h.shape
    rw [length_packet, nextData_eq, hn.length] at hlen
    rw [nextData_eq, hn.rest, List.length_drop]
    -- Twelve bytes are one of the command, the address and whole entries.
    cases continued with
    | true =>
      rcases hshape rfl with hd | ⟨hd, ha⟩ | ⟨hd, ha, hthree⟩
      · exact .inl hd
      · simp only [hd, if_true, DataType.numBytes] at hlen
        omega
      · simp only [hd, if_true, DataType.numBytes] at hlen
        omega
    | false =>
      simp only [Bool.false_eq_true, if_false] at hlen
      cases hd : c.setting.dataType with
      | byte => exact .inl rfl
      | word =>
        rw [hd, DataType.numBytes] at hlen
        rcases c.setting.addrType.sentBytes_cases with ⟨ha, -⟩ | ⟨-, ha⟩
        · exact .inr (.inl ⟨rfl, ha⟩)
        · omega
      | b3 =>
        rw [hd, DataType.numBytes] at hlen
        rcases c.setting.addrType.sentBytes_cases with ⟨-, ha⟩ | ⟨hne, ha⟩
        · omega
        · exact .inr (.inr ⟨rfl, hne, by omega⟩)
      | dword =>
        have ha := c.setting.addrType.sentBytes_pos
        rw [hd, DataType.numBytes] at hlen
        omega

lemma Comes.inv (h : Comes c regs cmds continued) : ComesInv c regs cmds continued := by
  induction h with
  | start => exact ⟨le_refl _, nofun, nofun⟩
  | next h hne hseq ih => exact ih.next hne hseq

lemma length_packet_le (hs : c.cmd.streams = true) (h : Comes c regs cmds continued) (hne : cmds ≠ [])
    (hc : ¬ crosses c regs.length) (enSeqWrite : Bool) (regAddr : UInt32) :
    (packet c continued enSeqWrite regAddr cmds).length ≤ 12 := by
  obtain ⟨n, hn⟩ := nextData_took c continued hne
  have hle := hn.le
  have hpos := hn.pos
  have hcheck := hn.check
  have hmore := hn.more
  have hp := c.setting.payload_bounds
  have hcmds := h.inv.length
  have hsupport := h.inv.support
  have hshape := h.inv.shape
  have haddr : (if continued then 0 else c.setting.addrType.sentBytes) ≤ 2 := by
    have := c.setting.addrType.sentBytes_pos
    split_ifs <;> omega
  rw [length_packet, nextData_eq, hn.length]
  by_contra hlong
  cases hd : c.setting.dataType with
  | byte =>
    rw [hd, DataType.numBytes] at hmore hlong
    omega
  | word =>
    simp only [hd, DataType.numBytes, reduceCtorEq, false_or] at hcheck hlong
    omega
  | b3 =>
    simp only [hd, DataType.numBytes, reduceCtorEq, false_or] at hcheck hlong hshape
    cases continued with
    | false =>
      have ha := c.setting.addrType.sentBytes_pos
      simp only [Bool.false_eq_true, if_false] at hcheck hlong
      omega
    | true =>
      obtain ⟨-, ha, hthree⟩ := (hshape rfl).resolve_left (by simp)
      simp only [if_true] at hcheck hlong
      exact hc ⟨hs, by omega, .inr ⟨hd, ha, hsupport rfl, by omega⟩⟩
  | dword =>
    simp only [hd, DataType.numBytes, reduceCtorEq, false_or, false_and] at hcheck hlong hshape
    cases continued with
    | true => exact hshape rfl
    | false =>
      simp only [Bool.false_eq_true, if_false] at hcheck hlong
      rcases c.setting.addrType.sentBytes_cases with ⟨hbyte, ha⟩ | ⟨-, ha⟩
      · exact hc ⟨hs, by omega, .inl ⟨hd, hbyte, by omega⟩⟩
      · omega

lemma crosses.exists_long (hc : crosses c regs.length) : ∃ cmds continued,
    Comes c regs cmds continued ∧ cmds ≠ [] ∧
      ∀ enSeqWrite regAddr, 12 < (packet c continued enSeqWrite regAddr cmds).length := by
  obtain ⟨hs, hp, ⟨hd, ha, h3⟩ | ⟨hd, ha, hsupport, h7⟩⟩ := hc
  · have hne : regs ≠ [] := List.ne_nil_of_length_pos (by omega)
    obtain ⟨n, hn⟩ := nextData_took c false hne
    refine ⟨regs, false, .start, hne, fun enSeqWrite regAddr => ?_⟩
    have hle := hn.le
    have hpos := hn.pos
    have hstop := hn.stop hs
    simp only [hd, ha, hp, DataType.numBytes, AddrType.sentBytes, Bool.false_eq_true, if_false] at hstop
    rw [length_packet, nextData_eq, hn.length]
    simp only [hd, ha, DataType.numBytes, AddrType.sentBytes, Bool.false_eq_true, if_false]
    omega
  · have hne : regs ≠ [] := List.ne_nil_of_length_pos (by omega)
    obtain ⟨n, hn⟩ := nextData_took c false hne
    have hle := hn.le
    have hcheck := hn.check
    have hstop := hn.stop hs
    have hsent : c.setting.addrType.sentBytes = 2 := (c.setting.addrType.sentBytes_cases.resolve_left
      fun h => ha h.1).2
    simp only [hd, hsent, hp, DataType.numBytes, Bool.false_eq_true, if_false,
      reduceCtorEq, false_or] at hstop hcheck
    have hn3 : n = 3 := by omega
    subst hn3
    have hrest : (nextData c false regs).2 = regs.drop 3 := by rw [nextData_eq, hn.rest]
    have hlen : (packet c false false 0 regs).length = 12 := by
      rw [length_packet, nextData_eq, hn.length]
      simp [hd, hsent, DataType.numBytes]
    have hne' : (nextData c false regs).2 ≠ [] := by
      rw [hrest]
      exact List.ne_nil_of_length_pos (by rw [List.length_drop]; omega)
    have hnext : Comes c regs (nextData c false regs).2 true :=
      .next .start hne fun _ => (mayContinue_iff c false regs).2 ⟨hs, hlen, hsupport, hne'⟩
    obtain ⟨k, hk⟩ := nextData_took c true hne'
    refine ⟨_, true, hnext, hne', fun enSeqWrite regAddr => ?_⟩
    have hstop' := hk.stop hs
    have hpos' := hk.pos
    rw [hrest, List.length_drop] at hstop'
    simp only [hd, hp, DataType.numBytes, if_true] at hstop'
    rw [length_packet, nextData_eq c true, hk.length]
    simp only [hd, DataType.numBytes, if_true]
    omega

lemma Call.max_bounds (c : Call) : 32 ≤ c.max ∧ c.max / 2 + 1 ≤ c.max := by
  rw [Call.max]
  cases c.setting.queue <;> decide

lemma halfReport_le (c : Call) (readVal len : ℕ) (qFree : Bool) :
    halfReport c readVal len qFree + (if qFree = false ∧ halfReport c readVal len qFree = 0 then 1 else 0) ≤
      1 := by
  rw [halfReport]
  split_ifs <;> simp_all

lemma length_loadWords_packet (c : Call) (continued enSeqWrite : Bool) (regAddr : UInt32)
    (cmds : List Reg) : (loadWords (packet c continued enSeqWrite regAddr cmds)).length =
      (loadWords (packet c continued false 0 cmds)).length := by
  rw [length_loadWords (by simp [packet]), length_loadWords (by simp [packet]), length_packet,
    length_packet]

/-- What a round may not exceed. -/
structure Held (c : Call) (s : LoadState) : Prop where
  packets : ∀ data ∈ s.packets, data.length ≤ 12
  levels : ∀ l ∈ s.levels, l ≤ c.max

lemma fullRound_held (h : Held c s) {readVal : ℕ} {qFree : Bool}
    (hroom : readVal + (if qFree then 0 else 1) ≤ c.max) : Held c (fullRound readVal qFree s) := by
  refine ⟨h.packets, ?_⟩
  cases qFree with
  | true => simpa [fullRound] using h.levels
  | false =>
    simp only [fullRound, Bool.false_eq_true, if_false, List.forall_mem_append,
      List.forall_mem_singleton] at hroom ⊢
    exact ⟨h.levels, hroom⟩

lemma loadRound_held (h : Held c s) {drained readVal : ℕ} {qFree : Bool}
    (hroom : readVal + estimate c s.cmds + 1 ≤ c.max)
    (hfit : withinEstimate c s.enSeqWrite s.cmds)
    (hlen : ∀ enSeqWrite regAddr, (packet c s.enSeqWrite enSeqWrite regAddr s.cmds).length ≤ 12) :
    Held c (loadRound c drained readVal (estimate c s.cmds) qFree s) := by
  have hreport := halfReport_le c readVal (estimate c s.cmds) qFree
  rw [withinEstimate] at hfit
  refine ⟨?_, ?_⟩
  · simp only [loadRound, List.forall_mem_append, List.forall_mem_singleton]
    exact ⟨h.packets, hlen _ _⟩
  · simp only [loadRound, List.forall_mem_append, List.forall_mem_singleton, List.length_append,
      length_loadWords_packet c s.enSeqWrite]
    refine ⟨⟨h.levels, ?_⟩, ?_⟩
    · split_ifs
      · simp only [List.forall_mem_singleton]
        omega
      · simp
    · have hwait : ∀ b : Bool, ((if b then [] else
          waitWords c.setting ((s.cmds.head?.map Reg.delay).getD 0)) : List ℕ).length ≤
          (waitWords c.setting ((s.cmds.head?.map Reg.delay).getD 0)).length := by
        intro b
        cases b <;> simp
      have := hwait (mayContinue c s.enSeqWrite s.cmds && decide (burstMinFreeSize < c.max -
        (readVal + halfReport c readVal (estimate c s.cmds) qFree - drained)))
      omega

lemma writeI2cQueue_le {max level : ℕ} (hmax : 2 ≤ max) (hroom : level + 1 ≤ max) :
    (∀ l ∈ (writeI2cQueue max level).1, l ≤ max) ∧ (writeI2cQueue max level).2 + 1 ≤ max := by
  rw [writeI2cQueue]
  split_ifs with h
  · refine ⟨fun l hl => ?_, hmax⟩
    rcases List.mem_pair.1 hl with rfl | rfl <;> omega
  · simp only [List.forall_mem_singleton]
    omega

lemma camCciLockQueue_le (c : Call) (level : ℕ) (hroom : level + 1 ≤ c.max) :
    (∀ l ∈ (camCciLockQueue c level).1, l ≤ c.max) ∧ (camCciLockQueue c level).2 + 1 ≤ c.max := by
  have hmax := c.max_bounds
  rw [camCciLockQueue]
  split_ifs
  · exact writeI2cQueue_le (by omega) hroom
  · exact ⟨by simp, hroom⟩

lemma transferEnd_le (c : Call) (o : Observed c.max) : ∀ l ∈ transferEnd c o, l ≤ c.max := by
  have hmax := c.max_bounds
  have hroom := o.room
  rw [transferEnd]
  split_ifs with hfail hfree
  · simp
  · obtain ⟨hlevels, hlast⟩ := camCciLockQueue_le c 0 (by omega)
    simp only [List.forall_mem_append, List.forall_mem_singleton]
    exact ⟨hlevels, hlast⟩
  · rw [if_neg hfree] at hroom
    obtain ⟨hlevels, hlast⟩ := camCciLockQueue_le c _ hroom
    simp only [List.forall_mem_append, List.forall_mem_singleton]
    exact ⟨hlevels, hlast⟩

lemma openLevels_le (c : Call) (n : ℕ) : ∀ l ∈ openLevels c n, l ≤ c.max := by
  have hmax := c.max_bounds
  have hparams : ∀ k, k ≤ 2 → ∀ l ∈ (camCciLockQueue c k).1, l ≤ c.max := fun k hk =>
    (camCciLockQueue_le c _ (by omega)).1
  rw [openLevels]
  split_ifs
  · refine List.forall_mem_append.2 ⟨fun l hl => ?_, hparams 2 (by omega)⟩
    rcases List.mem_pair.1 hl with rfl | rfl <;> omega
  · refine List.forall_mem_append.2 ⟨fun l hl => ?_, hparams 1 (by omega)⟩
    rw [List.mem_singleton.1 hl]
    omega

lemma loadBody_eq (hw : ℕ → Observed c.max) (hne : s.cmds ≠ []) : loadBody c hw s =
    let readVal := if s.emptied then 0 else (hw s.round).readVal
    let qFree := !s.emptied && (hw s.round).qFree
    if c.max < readVal + estimate c s.cmds + 1 then
      if (hw s.round).waitRc < 0 then .inl ((hw s.round).waitRc, fullRound readVal qFree s)
      else .inr (fullRound readVal qFree s)
    else .inr (loadRound c (hw s.round).drained readVal (estimate c s.cmds) qFree s) := by
  have hpos := (estimate_bounds (c := c) hne).1
  rw [estimate] at hpos
  rw [loadBody]
  simp only [if_neg hne]
  rw [if_neg (by omega)]
  rfl

lemma loadBody_cases (hw : ℕ → Observed c.max) (hne : s.cmds ≠ []) :
    ∃ readVal qFree, (s.emptied = true → readVal = 0) ∧
      readVal + (if qFree then 0 else 1) ≤ c.max ∧
      ((c.max < readVal + estimate c s.cmds + 1 ∧
          (loadBody c hw s = .inl ((hw s.round).waitRc, fullRound readVal qFree s) ∨
            loadBody c hw s = .inr (fullRound readVal qFree s))) ∨
        readVal + estimate c s.cmds + 1 ≤ c.max ∧
          loadBody c hw s =
            .inr (loadRound c (hw s.round).drained readVal (estimate c s.cmds) qFree s)) := by
  have hmax := c.max_bounds
  have hroom := (hw s.round).room
  have hbody := loadBody_eq hw hne
  refine ⟨if s.emptied then 0 else (hw s.round).readVal, !s.emptied && (hw s.round).qFree, ?_, ?_, ?_⟩
  · intro he
    rw [if_pos he]
  · cases s.emptied with
    | true =>
      simp only [if_true, Bool.not_true, Bool.false_and, Bool.false_eq_true, if_false]
      omega
    | false => simpa using hroom
  · simp only at hbody
    by_cases hfull : c.max < (if s.emptied then 0 else (hw s.round).readVal) + estimate c s.cmds + 1
    · left
      refine ⟨hfull, ?_⟩
      rw [hbody, if_pos hfull]
      by_cases hrc : (hw s.round).waitRc < 0
      · exact .inl (if_pos hrc)
      · exact .inr (if_neg hrc)
    · right
      rw [hbody, if_neg hfull]
      exact ⟨by omega, rfl⟩

lemma loadBody_nil (hnil : s.cmds = []) : loadBody c hw s =
    .inl ((hw s.round).waitRc, { s with levels := s.levels ++ transferEnd c (hw s.round) }) := by
  rw [loadBody]
  exact if_pos hnil

lemma exists_returns_loadBody (c : Call) (hw : ℕ → Observed c.max) (s : LoadState) :
    ∃ r, WhileLoop.Returns (loadBody c hw) s r := by
  have hstep : ∀ s t : LoadState, True → loadBody c hw s = .inr t →
      True ∧ (2 * t.cmds.length + if t.emptied then 0 else 1) <
        2 * s.cmds.length + if s.emptied then 0 else 1 := by
    intro s t _ ht
    refine ⟨trivial, ?_⟩
    have hmax := c.max_bounds
    by_cases hnil : s.cmds = []
    · rw [loadBody_nil hnil] at ht
      cases ht
    have hest := estimate_bounds (c := c) hnil
    obtain ⟨readVal, qFree, hzero, -, ⟨hfull, hb | hb⟩ | ⟨-, hb⟩⟩ := loadBody_cases hw hnil
    · rw [hb] at ht
      cases ht
    · rw [hb] at ht
      cases ht
      have hne : s.emptied = false := by
        by_contra he
        have := hzero (by simpa using he)
        omega
      simp [fullRound, hne]
    · rw [hb] at ht
      cases ht
      have hlt := length_nextData_lt c s.enSeqWrite hnil
      simp only [loadRound, Bool.false_eq_true, if_false]
      omega
  exact WhileLoop.exists_returns
    (fun s : LoadState => 2 * s.cmds.length + if s.emptied then 0 else 1) hstep trivial

structure LoopInv (c : Call) (regs : List Reg) (s : LoadState) : Prop where
  comes : Comes c regs s.cmds s.enSeqWrite
  held : Held c s

lemma loadRound_comes (h : Comes c regs s.cmds s.enSeqWrite) (hne : s.cmds ≠ [])
    (drained readVal len : ℕ) (qFree : Bool) :
    Comes c regs (loadRound c drained readVal len qFree s).cmds
      (loadRound c drained readVal len qFree s).enSeqWrite :=
  .next h hne fun he => (Bool.and_eq_true_iff.1 he).1

lemma LoopInv.body (h : LoopInv c regs s) (hc : ¬ crosses c regs.length)
    (hfit : ∀ cmds continued, Comes c regs cmds continued → cmds ≠ [] →
      withinEstimate c continued cmds) :
    (∀ r, loadBody c hw s = .inl r → Held c r.2) ∧
      ∀ t, loadBody c hw s = .inr t → LoopInv c regs t := by
  by_cases hnil : s.cmds = []
  · rw [loadBody_nil hnil]
    refine ⟨?_, nofun⟩
    intro r hr
    cases hr
    exact ⟨h.held.packets, List.forall_mem_append.2 ⟨h.held.levels, transferEnd_le c _⟩⟩
  have hlen : ∀ enSeqWrite regAddr,
      (packet c s.enSeqWrite enSeqWrite regAddr s.cmds).length ≤ 12 := by
    intro enSeqWrite regAddr
    cases hs : c.cmd.streams with
    | false => exact length_packet_other hs hnil enSeqWrite regAddr
    | true => exact length_packet_le hs h.comes hnil hc enSeqWrite regAddr
  obtain ⟨readVal, qFree, -, hroom, ⟨-, hb | hb⟩ | ⟨hload, hb⟩⟩ := loadBody_cases hw hnil
  · rw [hb]
    refine ⟨?_, nofun⟩
    intro r hr
    cases hr
    exact fullRound_held h.held hroom
  · rw [hb]
    refine ⟨nofun, ?_⟩
    intro t ht
    cases ht
    exact ⟨h.comes, fullRound_held h.held hroom⟩
  · rw [hb]
    refine ⟨nofun, ?_⟩
    intro t ht
    cases ht
    exact ⟨loadRound_comes h.comes hnil _ _ _ _,
      loadRound_held h.held hload (hfit _ _ h.comes hnil) hlen⟩

lemma fits_of (hne : regs.length ≠ 0) (hmax : regs.length ≤ maxWrite) (hc : ¬ crosses c regs.length)
    (hfit : ∀ cmds continued, Comes c regs cmds continued → cmds ≠ [] →
      withinEstimate c continued cmds) : Fits c regs := by
  have hheld : ∀ hw r, CamCciDataQueue c hw regs r → Held c r.2 := by
    rintro hw r ⟨-, -, hr⟩
    obtain ⟨t, ht, hb⟩ := hr.exists_break
    have hinv : LoopInv c regs t := ht.invariant
      (fun s u hs hu => (hs.body hc hfit).2 u hu) ⟨.start, ⟨by simp [loadStart], openLevels_le c _⟩⟩
    exact (hinv.body hc hfit).1 r hb
  exact ⟨fun hw => (exists_returns_loadBody c hw _).imp fun r hr => ⟨hne, hmax, hr⟩,
    fun hw r hr => (hheld hw r hr).packets, fun hw r hr => (hheld hw r hr).levels⟩

/-! ### Needed -/

/-- Nothing recorded is dropped. -/
structure Records (s t : LoadState) : Prop where
  packets : ∀ data ∈ s.packets, data ∈ t.packets
  levels : ∀ l ∈ s.levels, l ∈ t.levels

lemma Records.trans {u : LoadState} (h : Records s t) (h' : Records t u) : Records s u :=
  ⟨fun d hd => h'.packets d (h.packets d hd), fun l hl => h'.levels l (h.levels l hl)⟩

lemma loadBody_records (c : Call) (hw : ℕ → Observed c.max) (s : LoadState) :
    (∀ r, loadBody c hw s = .inl r → Records s r.2) ∧ ∀ t, loadBody c hw s = .inr t → Records s t := by
  by_cases hnil : s.cmds = []
  · rw [loadBody_nil hnil]
    refine ⟨?_, nofun⟩
    intro r hr
    cases hr
    exact ⟨fun d hd => hd, fun l hl => List.mem_append_left _ hl⟩
  have hfull : ∀ readVal qFree, Records s (fullRound readVal qFree s) := fun _ _ =>
    ⟨fun d hd => hd, fun l hl => List.mem_append_left _ hl⟩
  obtain ⟨readVal, qFree, -, -, ⟨-, hb | hb⟩ | ⟨-, hb⟩⟩ := loadBody_cases hw hnil
  · rw [hb]
    refine ⟨?_, nofun⟩
    intro r hr
    cases hr
    exact hfull _ _
  · rw [hb]
    refine ⟨nofun, ?_⟩
    intro t ht
    cases ht
    exact hfull _ _
  · rw [hb]
    refine ⟨nofun, ?_⟩
    intro t ht
    cases ht
    exact ⟨fun d hd => List.mem_append_left _ hd,
      fun l hl => List.mem_append_left _ (List.mem_append_left _ hl)⟩

lemma records_of_returns {r : ℤ × LoadState} (h : WhileLoop.Returns (loadBody c hw) s r) :
    Records s r.2 := by
  obtain ⟨t, ht, hb⟩ := h.exists_break
  have hstep (t u : LoadState) (hst : Records s t) (hu : loadBody c hw t = .inr u) : Records s u :=
    hst.trans ((loadBody_records c hw t).2 u hu)
  have hst : Records s t := ht.invariant hstep ⟨fun _ h => h, fun _ h => h⟩
  exact hst.trans ((loadBody_records c hw t).1 r hb)

/-- Just enough room for the estimate and a report. -/
def tight (c : Call) (cmds : List Reg) (hne : cmds ≠ []) : Observed c.max where
  readVal := c.max - estimate c cmds - 1
  qFree := false
  drained := 0
  waitRc := 0
  room := by
    have hmax := c.max_bounds
    have hest := (estimate_bounds (c := c) hne).2
    simp only [Bool.false_eq_true, if_false]
    omega

/-- An empty queue with a report on its way. -/
def roomy (c : Call) : Observed c.max := ⟨0, true, 0, 0, by simp⟩

lemma loadBody_load (hw : ℕ → Observed c.max) (hne : s.cmds ≠ []) (hemptied : s.emptied = false)
    (hroom : (hw s.round).readVal + estimate c s.cmds + 1 ≤ c.max) :
    loadBody c hw s = .inr (loadRound c (hw s.round).drained (hw s.round).readVal
      (estimate c s.cmds) (hw s.round).qFree s) := by
  rw [loadBody_eq hw hne]
  simp only [hemptied, Bool.false_eq_true, if_false, Bool.not_false, Bool.true_and]
  rw [if_neg (by omega)]

lemma loadBody_tight (hw : ℕ → Observed c.max) (hne : s.cmds ≠ []) (hemptied : s.emptied = false)
    (ho : hw s.round = tight c s.cmds hne) : ∃ t, loadBody c hw s = .inr t ∧
      t.cmds = (nextData c s.enSeqWrite s.cmds).2 ∧ t.enSeqWrite = false ∧ t.emptied = false ∧
      t.round = s.round + 1 ∧
      (∃ data ∈ t.packets, data.length = (packet c s.enSeqWrite false 0 s.cmds).length) ∧
      c.max - estimate c s.cmds + ((loadWords (packet c s.enSeqWrite false 0 s.cmds)).length +
        (waitWords c.setting ((s.cmds.head?.map Reg.delay).getD 0)).length) ∈ t.levels := by
  have hmax := c.max_bounds
  have hest := (estimate_bounds (c := c) hne).2
  have hread : (hw s.round).readVal = c.max - estimate c s.cmds - 1 := by rw [ho]; rfl
  have hload : loadBody c hw s = .inr (loadRound c 0 (c.max - estimate c s.cmds - 1)
      (estimate c s.cmds) false s) := by
    have h := loadBody_load hw hne hemptied (by omega)
    rw [ho] at h
    exact h
  have hone : halfReport c (c.max - estimate c s.cmds - 1) (estimate c s.cmds) false +
      (if halfReport c (c.max - estimate c s.cmds - 1) (estimate c s.cmds) false = 0
        then 1 else 0) = 1 := by
    rw [halfReport]
    split_ifs <;> simp_all
  have hfree : decide (burstMinFreeSize < c.max - (c.max - estimate c s.cmds - 1 +
      halfReport c (c.max - estimate c s.cmds - 1) (estimate c s.cmds) false)) = false := by
    rw [burstMinFreeSize, decide_eq_false_iff_not]
    omega
  refine ⟨_, hload, rfl, ?_, rfl, rfl, ?_, ?_⟩
  · simp only [loadRound, Nat.sub_zero, hfree, Bool.and_false]
  · refine ⟨_, List.mem_append_right _ (List.mem_singleton_self _), ?_⟩
    rw [length_packet, length_packet]
  · refine List.mem_append_right _ (List.mem_singleton.2 ?_)
    simp only [Nat.sub_zero, hfree, Bool.and_false, Bool.false_eq_true, if_false, List.length_append,
      length_loadWords_packet c s.enSeqWrite false _ s.cmds, true_and]
    omega

lemma loadBody_roomy (hne : s.cmds ≠ []) (hemptied : s.emptied = false)
    (ho : hw s.round = roomy c) : ∃ t, loadBody c hw s = .inr t ∧
      t.cmds = (nextData c s.enSeqWrite s.cmds).2 ∧
      t.enSeqWrite = mayContinue c s.enSeqWrite s.cmds ∧ t.emptied = false ∧
      t.round = s.round + 1 := by
  have hmax := c.max_bounds
  have hest := (estimate_bounds (c := c) hne).2
  have hread : (hw s.round).readVal = 0 := by rw [ho]; rfl
  have hload : loadBody c hw s = .inr (loadRound c 0 0 (estimate c s.cmds) true s) := by
    have h := loadBody_load hw hne hemptied (by omega)
    rw [ho] at h
    exact h
  refine ⟨_, hload, rfl, ?_, rfl, rfl⟩
  have hfree : decide (burstMinFreeSize < c.max - (0 + halfReport c 0 (estimate c s.cmds) true)) =
      true := by
    rw [burstMinFreeSize, halfReport, decide_eq_true_eq]
    simp only [Bool.true_eq_false, and_false, if_false]
    omega
  simp only [loadRound, Nat.sub_zero, hfree, Bool.and_true]

lemma Comes.reaches (h : Comes c regs cmds continued) :
    ∃ (k : ℕ) (script : ℕ → Observed c.max), ∀ hw, (∀ j < k, hw j = script j) →
      ∃ s, WhileLoop.Reaches (loadBody c hw) (loadStart c regs) s ∧ s.cmds = cmds ∧
        s.enSeqWrite = continued ∧ s.emptied = false ∧ s.round = k := by
  induction h with
  | start => exact ⟨0, fun _ => roomy c, fun hw _ => ⟨_, .refl, rfl, rfl, rfl, rfl⟩⟩
  | @next cmds continued enSeqWrite h hne hseq ih =>
    obtain ⟨k, script, hscript⟩ := ih
    refine ⟨k + 1, Function.update script k (if enSeqWrite then roomy c else tight c cmds hne),
      fun hw hhw => ?_⟩
    obtain ⟨s, hs, rfl, rfl, hemptied, rfl⟩ := hscript hw fun j hj => by
      rw [hhw j (by omega), Function.update_of_ne (by omega)]
    have ho := hhw s.round (by omega)
    rw [Function.update_self] at ho
    cases enSeqWrite with
    | true =>
      obtain ⟨t, hb, hcmds, hen, he, hround⟩ := loadBody_roomy hne hemptied ho
      exact ⟨t, .step hs hb, hcmds, hen.trans (hseq rfl), he, hround⟩
    | false =>
      obtain ⟨t, hb, hcmds, hen, he, hround, -, -⟩ := loadBody_tight _ hne hemptied ho
      exact ⟨t, .step hs hb, hcmds, hen, he, hround⟩

lemma Comes.exists_loaded (hsize : regs.length ≠ 0) (hmax : regs.length ≤ maxWrite)
    (h : Comes c regs cmds continued) (hne : cmds ≠ []) :
    ∃ hw r, CamCciDataQueue c hw regs r ∧
      (∃ data ∈ r.2.packets, data.length = (packet c continued false 0 cmds).length) ∧
      c.max - estimate c cmds + ((loadWords (packet c continued false 0 cmds)).length +
        (waitWords c.setting ((cmds.head?.map Reg.delay).getD 0)).length) ∈ r.2.levels := by
  obtain ⟨k, script, hscript⟩ := h.reaches
  obtain ⟨s, hs, rfl, rfl, hemptied, rfl⟩ := hscript (Function.update script k (tight c cmds hne))
    fun j hj => Function.update_of_ne (by omega) _ _
  obtain ⟨t, hb, -, -, -, -, ⟨data, hdata, hlen⟩, hlevel⟩ :=
    loadBody_tight (Function.update script s.round (tight c s.cmds hne)) hne hemptied
      (Function.update_self _ _ _)
  obtain ⟨r, hr⟩ := exists_returns_loadBody c (Function.update script s.round (tight c s.cmds hne)) t
  have hkept := records_of_returns hr
  exact ⟨_, r, ⟨hsize, hmax, (hs.step hb).returns hr⟩, ⟨data, hkept.packets data hdata, hlen⟩,
    hkept.levels _ hlevel⟩

lemma Fits.not_crosses (hsize : regs.length ≠ 0) (hmax : regs.length ≤ maxWrite) (h : Fits c regs) :
    ¬ crosses c regs.length := by
  intro hc
  obtain ⟨cmds, continued, hcomes, hne, hlong⟩ := hc.exists_long
  obtain ⟨hw, r, hr, ⟨data, hdata, hlen⟩, -⟩ := hcomes.exists_loaded hsize hmax hne
  have hle := h.packets hw r hr data hdata
  have hgt := hlong false 0
  omega

lemma Fits.withinEstimate (hsize : regs.length ≠ 0) (hmax : regs.length ≤ maxWrite)
    (h : Fits c regs) (hcomes : Comes c regs cmds continued) (hne : cmds ≠ []) :
    withinEstimate c continued cmds := by
  obtain ⟨hw, r, hr, -, hlevel⟩ := hcomes.exists_loaded hsize hmax hne
  have hle := h.levels hw r hr _ hlevel
  have hbounds := c.max_bounds
  have hest := (estimate_bounds (c := c) hne).2
  rw [CciLoad.withinEstimate]
  omega

lemma calcCmdLen_delayed (hs : c.cmd.streams = false) {cmd : Reg} (hd : cmd.delayed)
    (rest : List Reg) : (camCciCalcCmdLen c (cmd :: rest)).2 = 0 := by
  obtain ⟨len, -, -, hlen⟩ := camCciCalcCmdLen_eq (m := c.setting) cmd rest
  rw [camCciCalcCmdLen, if_neg (by simp [hs]), hlen]
  simp only
  by_contra hne
  have hmem : cmd ∈ (cmd :: rest).take (follows c.setting (rest.length + 1) 0 (cmd :: rest)) := by
    obtain ⟨k, hk⟩ := Nat.exists_eq_succ_of_ne_zero hne
    rw [hk, List.take_succ_cons]
    exact .head _
  exact not_delayed_of_zero (follows_delay _ _ _ hmem) hd

theorem withinEstimate_other_iff (hs : c.cmd.streams = false) (cmd : Reg) (rest : List Reg) :
    withinEstimate c false (cmd :: rest) ↔
      (cmd.delayed → (c.setting.addrType.sentBytes + c.setting.dataType.numBytes) / 4 + 1 ≤
        (1 + c.setting.addrType.numBytes + c.setting.dataType.numBytes) / 4) := by
  have ha := c.setting.addrType.sentBytes_le.1
  obtain ⟨n, hn⟩ := nextData_took c false (List.cons_ne_nil cmd rest)
  have hest := (calcCmdLen_other hs (List.cons_ne_nil cmd rest)).2
  have hpack := hn.pack hs
  have hpos := hn.pos
  have hmul : c.setting.dataType.numBytes * n ≤
      c.setting.dataType.numBytes * ((camCciCalcCmdLen c (cmd :: rest)).2 + 1) :=
    Nat.mul_le_mul_left _ hpack
  rw [withinEstimate, length_loadWords (by simp [packet]), length_packet, nextData_eq, hn.length, hest]
  simp only [Bool.false_eq_true, if_false, List.head?_cons, Option.map_some, Option.getD_some]
  by_cases hd : cmd.delayed
  · have hwait : (waitWords c.setting cmd.delay).length = 1 := by
      rw [waitWords, if_pos (show cmd.delay > 0 ∧ cmd.delay < maxDelay from hd)]
      rfl
    rw [calcCmdLen_delayed hs hd rest] at hpack ⊢
    have hn1 : n = 1 := by omega
    subst hn1
    rw [hwait]
    simp only [hd, forall_const, Nat.mul_one, Nat.zero_add]
    omega
  · have hwait : waitWords c.setting cmd.delay = [] := if_neg hd
    rw [hwait, List.length_nil]
    exact iff_of_true (by omega) fun h => absurd h hd

theorem fits_iff (c : Call) (regs : List Reg) (hsize : regs.length ≠ 0)
    (hmax : regs.length ≤ maxWrite) :
    Fits c regs ↔ ¬ crosses c regs.length ∧
      ∀ cmds continued, Comes c regs cmds continued → cmds ≠ [] → withinEstimate c continued cmds := by
  constructor
  · intro h
    exact ⟨h.not_crosses hsize hmax, fun _ _ hcomes hne => h.withinEstimate hsize hmax hcomes hne⟩
  · intro h
    exact fits_of hsize hmax h.1 h.2

/-- Word data behind byte addresses, written entry by entry: a packet fills its words, and the estimate
has one for the wait. -/
def plainWrite : Call := ⟨⟨.byte, .word, 11, 4915, .queue1, byteSetting.payload⟩, .write, true, false⟩

theorem plainWrite_fits : Fits plainWrite [⟨0x10, 1, 100⟩, ⟨0x11, 2, 0⟩, ⟨0x12, 3, 100⟩] := by
  refine (fits_iff plainWrite _ (by decide) (by decide)).mpr ⟨by decide, fun cmds continued hcomes hne => ?_⟩
  obtain rfl := hcomes.continued_other rfl
  obtain ⟨cmd, rest, rfl⟩ := List.exists_cons_of_ne_nil hne
  exact (withinEstimate_other_iff rfl cmd rest).mpr fun _ => by decide

/-- Double words behind byte addresses, streamed. -/
def dwordSeq : Call :=
  ⟨{ byteSetting with dataType := .dword, queue := .queue1 }, .writeSeq, true, false⟩

theorem dwordSeq_not_fits : ¬ Fits dwordSeq [⟨0x10, 1, 0⟩, ⟨0x11, 2, 0⟩, ⟨0x12, 3, 0⟩] := by
  intro h
  exact h.not_crosses (by decide) (by decide) (by decide)

end CameraKernel.CciLoad
