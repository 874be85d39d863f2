import CameraKernel.SensorUtil

/-! The commands of a sensor command buffer, the settings list they ask for, and what a round
of the parser does to one of them. -/
namespace CameraKernel.SensorUtil
open MachineInt
open GenericBlob (Memory readWord)

inductive Command
  | write (op : I2cOp) (addrType dataType : ℕ) (regs : List (ℕ × ℕ))
  | hwWait (delay : ℕ)
  | swWait (delay : ℕ)
  | poll (addrType dataType regAddr regData timeout dataMask : ℕ)
  | info (slaveAddr i2cFreqMode : ℕ)
  deriving DecidableEq, Repr

namespace Command

/-- The bytes of the encoded command. -/
def size : Command → ℕ
  | write .writeRandom _ _ regs => 8 + 8 * regs.length
  | write _ _ _ regs => 12 + 8 * regs.length
  | poll .. => 20
  | hwWait _ | swWait _ | info .. => 4

def isWrite : Command → Bool
  | write .. => true
  | _ => false

/-- A later delay goes to this command. -/
def isTarget : Command → Bool
  | write .. | poll .. => true
  | _ => false

def isWait : Command → Bool
  | hwWait _ | swWait _ => true
  | _ => false

end Command

def randomPairs (mem : Memory) (p count : ℕ) : List (ℕ × ℕ) :=
  (List.range count).map fun i => (readWord mem (p + 8 + 8 * i), readWord mem (p + 12 + 8 * i))

def continuousPairs (mem : Memory) (p count : ℕ) : List (ℕ × ℕ) :=
  (List.range count).map fun i => (readWord mem (p + 8), readWord mem (p + 12 + 8 * i))

/-- The command encoded from `p` on. -/
def commandAt (mem : Memory) (p : ℕ) : Option Command :=
  match CmdType.ofByte (byteAt mem (p + 3)) with
  | .i2cRndmWr => some (.write .writeRandom (byteAt mem (p + 5)) (byteAt mem (p + 4))
      (randomPairs mem p (readHalf mem p)))
  | .i2cContWr => (contWriteOp (byteAt mem (p + 2))).map fun op =>
      .write op (byteAt mem (p + 5)) (byteAt mem (p + 4)) (continuousPairs mem p (readHalf mem p))
  | .wait =>
    match WaitOp.ofByte (byteAt mem (p + 2)) with
    | .cond => some (.poll (byteAt mem (p + 1)) (byteAt mem p) (readWord mem (p + 8))
        (readWord mem (p + 12)) (readHalf mem (p + 4)) (readWord mem (p + 16)))
    | .hwUcnd => some (.hwWait (readHalf mem p))
    | .swUcnd => some (.swWait (readHalf mem p))
    | .other => none
  | .i2cInfo => some (.info (readHalf mem p) (byteAt mem (p + 2)))
  | .other => none

/-- The commands that start at `p` and follow each other up to `stop`. -/
inductive Stream (mem : Memory) (stop : ℕ) : ℕ → List Command → Prop
  | nil {p : ℕ} (h : stop ≤ p) : Stream mem stop p []
  | cons {p : ℕ} {c : Command} {cs : List Command} (h : p < stop) (hc : commandAt mem p = some c)
      (hcs : Stream mem stop (p + c.size) cs) : Stream mem stop p (c :: cs)

/-- A command of the settings list with the delays attached to it. -/
structure Listed where
  cmd : Command
  hw : Option ℕ
  sw : Option ℕ
  deriving DecidableEq, Repr

namespace Listed

/-- A delay goes to the last write; a poll in between, or a delay of its kind already
there, leaves it without a place. -/
def attach (slot : Listed → Option Listed) : List Listed → Option (List Listed)
  | [] => none
  | e :: es =>
    match e.cmd with
    | .write .. => (slot e).map (· :: es)
    | .info .. => (attach slot es).map (e :: ·)
    | _ => none

def setHw (n : ℕ) (e : Listed) : Option Listed :=
  if e.hw = none then some { e with hw := some n } else none

def setSw (n : ℕ) (e : Listed) : Option Listed :=
  if e.sw = none then some { e with sw := some n } else none

/-- One more command, the newest entry first. -/
def add (es : List Listed) : Command → Option (List Listed)
  | .hwWait n => attach (setHw n) es
  | .swWait n => attach (setSw n) es
  | c => some (⟨c, none, none⟩ :: es)

def ofCommands (cs : List Command) : Option (List Listed) :=
  cs.foldl (fun acc c => acc.bind (add · c)) (some [])

def regs (rs : List (ℕ × ℕ)) : List I2cRegArray := rs.map fun r => ⟨r.1, r.2, 0, 0⟩

def base : Command → I2cSettings
  | .write op addrType dataType rs => { blankSettings rs.length with
      opCode := op, regSetting := regs rs, addrType := addrType, dataType := dataType }
  | .poll addrType dataType regAddr regData timeout dataMask => { blankSettings 1 with
      opCode := .poll, regSetting := [⟨regAddr, regData, timeout, dataMask⟩]
      addrType := addrType, dataType := dataType }
  | .info slaveAddr i2cFreqMode => { blankSettings 1 with
      opCode := .setI2cInfo, slaveAddr := slaveAddr, i2cFreqMode := i2cFreqMode }
  | _ => blankSettings 0

/-- The entry of the settings list that says what the command and its delays say. -/
def settings (e : Listed) : I2cSettings :=
  let entry := base e.cmd
  let entry := match e.hw with
    | some n => entry.setHwDelay (entry.regSetting.length - 1) n
    | none => entry
  match e.sw with
    | some n => entry.setSwDelay n
    | none => entry

end Listed

/-- The settings list for the commands, each delay with the write it follows. -/
def settingsOf (cs : List Command) : Option (List I2cSettings) :=
  (Listed.ofCommands cs).map fun es => (es.map Listed.settings).reverse

/-- The bytes that the parser makes sure of before it takes the command. -/
def Command.checked : Command → ℕ
  | poll .. => 4
  | c => c.size

/-- A poll as the parser stores it. -/
def Command.unmasked : Command → Command
  | .poll addrType dataType regAddr regData timeout _ =>
    .poll addrType dataType regAddr regData timeout 0
  | c => c

/-- What a command taken does to the settings. -/
def Command.apply (c : Command) (s : ParseState) : ParseState :=
  match c with
  | .write _ _ _ regs => (s.append (Listed.base c)).target regs.length
  | .poll .. => (s.append (Listed.base c.unmasked)).target 1
  | .info .. => s.append (Listed.base c)
  | .hwWait n => { s with array := s.array.modify (s.list.getD 0) (·.setHwDelay (s.j - 1) n) }
  | .swWait n => { s with array := s.array.modify (s.list.getD 0) (·.setSwDelay n) }

/-- The parser could take the command in state `s`. -/
structure Takeable (remainLen : ℕ) (s : ParseState) (c : Command) : Prop where
  checked : c.checked ≤ remainLen - s.byteCnt
  nonempty : ∀ op addrType dataType, c ≠ .write op addrType dataType []
  target : c.isWait = true → s.list.isSome ∧ 0 < s.j

/-- What a round may do. -/
inductive Round (alloc : Allocator) (mem : Memory) (remainLen length : ℕ) (s : ParseState) :
    (LoopExit × ParseState) ⊕ ParseState → Prop
  | finished (h : length ≤ s.byteCnt) : Round alloc mem remainLen length s (.inl (.finished, s))
  | refused {e : ℤ} {t : ParseState} (rs : List (ℕ × ℕ)) (hlt : s.byteCnt < length) (he : e < 0)
      (hreads : t.reads = s.reads ++ rs)
      (hrs : ∀ r ∈ rs, r.1 + r.2 ≤ s.cmdBuf + (remainLen - s.byteCnt))
      (hwhy : ∀ c, commandAt mem s.cmdBuf = some c → Takeable remainLen s c →
        ∃ i n, 0 < n ∧ alloc.grants i n = false) :
      Round alloc mem remainLen length s (.inl (.relBuf e, t))
  | took {c : Command} {t : ParseState} (rs : List (ℕ × ℕ)) (hlt : s.byteCnt < length)
      (hc : commandAt mem s.cmdBuf = some c) (ht : Takeable remainLen s c)
      (hreads : t.reads = s.reads ++ rs) (hrs : ∀ r ∈ rs, r.1 + r.2 ≤ s.cmdBuf + c.size)
      (heff : t = { (c.apply s).advance (c.size % 0x10000) with
        reads := t.reads, allocs := t.allocs }) :
      Round alloc mem remainLen length s (.inr t)

variable {alloc : Allocator} {mem : Memory} {remainLen length : ℕ} {s t : ParseState}

lemma Command.four_le_checked (c : Command) : 4 ≤ c.checked := by
  cases c with
  | write op _ _ _ => cases op <;> simp only [checked, size] <;> omega
  | _ => simp [checked, size]

lemma length_randomPairs (mem : Memory) (p count : ℕ) : (randomPairs mem p count).length = count := by
  simp [randomPairs]

lemma length_continuousPairs (mem : Memory) (p count : ℕ) :
    (continuousPairs mem p count).length = count := by
  simp [continuousPairs]

lemma base_random (mem : Memory) (p : ℕ) :
    Listed.base (.write .writeRandom (byteAt mem (p + 5)) (byteAt mem (p + 4))
      (randomPairs mem p (readHalf mem p))) = randomEntry mem p (readHalf mem p) := by
  simp [Listed.base, randomEntry, blankSettings, Listed.regs, randomPairs, randomRegs]

lemma base_continuous (mem : Memory) (p : ℕ) (op : I2cOp) :
    Listed.base (.write op (byteAt mem (p + 5)) (byteAt mem (p + 4))
      (continuousPairs mem p (readHalf mem p))) = continuousEntry mem p (readHalf mem p) op := by
  simp [Listed.base, continuousEntry, blankSettings, Listed.regs, continuousPairs, continuousRegs]

lemma size_continuous {b addrType dataType : ℕ} {op : I2cOp} (h : contWriteOp b = some op)
    (regs : List (ℕ × ℕ)) :
    (Command.write op addrType dataType regs).size = continuousWrSize regs.length := by
  rw [contWriteOp] at h
  split_ifs at h <;> cases h <;> rfl

lemma randomReads_le (p count : ℕ) : ∀ r ∈ (List.range count).flatMap (fun cnt =>
    [(p + 8 + 8 * cnt, 4), (p + 12 + 8 * cnt, 4)]), r.1 + r.2 ≤ p + randomWrSize count := by
  intro r hr
  simp only [List.mem_flatMap, List.mem_range, List.mem_cons, List.not_mem_nil, or_false] at hr
  obtain ⟨cnt, hcnt, rfl | rfl⟩ := hr <;> simp only [randomWrSize] <;> omega

lemma continuousReads_le (p count : ℕ) : ∀ r ∈ (List.range count).flatMap (fun cnt =>
    [(p + 8, 4), (p + 12 + 8 * cnt, 4)]), r.1 + r.2 ≤ p + continuousWrSize count := by
  intro r hr
  simp only [List.mem_flatMap, List.mem_range, List.mem_cons, List.not_mem_nil, or_false] at hr
  obtain ⟨cnt, hcnt, rfl | rfl⟩ := hr <;> simp only [continuousWrSize] <;> omega

lemma neg_EINVAL : -Errno.EINVAL < 0 := by norm_num [Errno.EINVAL]

lemma neg_ENOMEM : -Errno.ENOMEM < 0 := by norm_num [Errno.ENOMEM]

lemma headerReads_le (h4 : 4 ≤ remainLen - s.byteCnt) : ∀ r ∈ [(s.cmdBuf + 2, 1), (s.cmdBuf + 3, 1)],
    r.1 + r.2 ≤ s.cmdBuf + (remainLen - s.byteCnt) := by
  simp only [List.forall_mem_cons, List.not_mem_nil, false_imp_iff, implies_true, and_true]
  omega

lemma Round.invalid {e : ℤ} (rs : List (ℕ × ℕ)) (hlt : s.byteCnt < length) (he : e < 0)
    (hreads : t.reads = s.reads ++ rs)
    (hrs : ∀ r ∈ rs, r.1 + r.2 ≤ s.cmdBuf + (remainLen - s.byteCnt))
    (h : ∀ c, commandAt mem s.cmdBuf = some c → ¬Takeable remainLen s c) :
    Round alloc mem remainLen length s (.inl (.relBuf e, t)) :=
  .refused rs hlt he hreads hrs fun c hc ht => absurd ht (h c hc)

lemma Takeable.write {op : I2cOp} {addrType dataType : ℕ} {regs : List (ℕ × ℕ)}
    (h : Takeable remainLen s (.write op addrType dataType regs)) :
    regs.length ≠ 0 ∧ (Command.write op addrType dataType regs).size ≤ remainLen - s.byteCnt :=
  ⟨fun he => h.nonempty _ _ _ (by rw [List.length_eq_zero_iff.mp he]), h.checked⟩

lemma takeable_write {op : I2cOp} {addrType dataType : ℕ} {regs : List (ℕ × ℕ)}
    (hne : regs.length ≠ 0)
    (hle : (Command.write op addrType dataType regs).size ≤ remainLen - s.byteCnt) :
    Takeable remainLen s (.write op addrType dataType regs) := by
  refine ⟨hle, ?_, fun h => by cases h⟩
  intro op addrType dataType heq
  cases heq
  exact hne rfl

lemma Round.random (hlt : s.byteCnt < length) (h4 : 4 ≤ remainLen - s.byteCnt)
    (hty : CmdType.ofByte (byteAt mem (s.cmdBuf + 3)) = .i2cRndmWr) :
    Round alloc mem remainLen length s (parseBody alloc mem remainLen length s) := by
  have hcmd : commandAt mem s.cmdBuf = some (.write .writeRandom (byteAt mem (s.cmdBuf + 5))
      (byteAt mem (s.cmdBuf + 4)) (randomPairs mem s.cmdBuf (readHalf mem s.cmdBuf))) := by
    rw [commandAt, hty]
  have hbase := base_random mem s.cmdBuf
  have hlen := length_randomPairs mem s.cmdBuf (readHalf mem s.cmdBuf)
  generalize randomPairs mem s.cmdBuf (readHalf mem s.cmdBuf) = regs at hcmd hbase hlen
  -- A command that could be taken has its registers in the buffer.
  have hfull : ∀ c, commandAt mem s.cmdBuf = some c → Takeable remainLen s c →
      readHalf mem s.cmdBuf ≠ 0 ∧ 8 + 8 * readHalf mem s.cmdBuf ≤ remainLen - s.byteCnt := by
    intro c hc ht
    rw [hcmd] at hc
    cases hc
    exact hlen ▸ ht.write
  rw [parseBody, if_pos hlt]
  dsimp only
  rw [if_neg (by omega), hty]
  have hsz : randomWrSize (readHalf mem s.cmdBuf) = 8 + 8 * readHalf mem s.cmdBuf := rfl
  dsimp only [ParseState.read]
  by_cases h16 : remainLen - s.byteCnt < 16
  · rw [if_pos h16]
    refine .invalid _ hlt neg_EINVAL rfl (headerReads_le h4) ?_
    intro c hc ht
    have := hfull c hc ht
    omega
  rw [if_neg h16]
  by_cases hsize : randomWrSize (readHalf mem s.cmdBuf) > remainLen - s.byteCnt
  · rw [if_pos hsize]
    refine .invalid [(s.cmdBuf + 2, 1), (s.cmdBuf + 3, 1), (s.cmdBuf, 2)] hlt neg_EINVAL (by simp)
      (by simp; omega) ?_
    intro c hc ht
    have := hfull c hc ht
    omega
  rw [if_neg hsize]
  cases hget : alloc.grants s.allocs (readHalf mem s.cmdBuf) with
  | false =>
    simp only [camSensorHandleRandomWrite, camSensorGetI2cPtr, hget, afterWrite, if_pos neg_ENOMEM]
    refine .refused [(s.cmdBuf + 2, 1), (s.cmdBuf + 3, 1), (s.cmdBuf, 2)] hlt neg_EINVAL (by simp)
      (by simp; omega) ?_
    intro c hc ht
    have := hfull c hc ht
    exact ⟨_, _, by omega, hget⟩
  | true =>
    have hpos : readHalf mem s.cmdBuf ≠ 0 := by
      intro h
      rw [h, alloc.zero] at hget
      cases hget
    simp only [camSensorHandleRandomWrite, camSensorGetI2cPtr, hget, afterWrite, lt_irrefl, if_false,
      ParseState.read, ← hbase]
    refine .took ([(s.cmdBuf + 2, 1), (s.cmdBuf + 3, 1)] ++ [(s.cmdBuf, 2)] ++
      ([(s.cmdBuf + 5, 1), (s.cmdBuf + 4, 1)] ++ (List.range (readHalf mem s.cmdBuf)).flatMap
        fun cnt => [(s.cmdBuf + 8 + 8 * cnt, 4), (s.cmdBuf + 12 + 8 * cnt, 4)]))
      hlt hcmd (takeable_write (hlen ▸ hpos) (by rw [Command.size]; omega)) ?_ ?_ ?_
    · simp [ParseState.advance, ParseState.target, ParseState.append]
    · rw [Command.size, hlen, ← hsz]
      simp only [List.forall_mem_append]
      exact ⟨by simp; omega, by simp; omega, randomReads_le _ _⟩
    · simp only [Command.apply, Command.size, hlen]
      rfl

lemma Round.continuous (hlt : s.byteCnt < length) (h4 : 4 ≤ remainLen - s.byteCnt)
    (hty : CmdType.ofByte (byteAt mem (s.cmdBuf + 3)) = .i2cContWr) :
    Round alloc mem remainLen length s (parseBody alloc mem remainLen length s) := by
  have hcmd : commandAt mem s.cmdBuf = (contWriteOp (byteAt mem (s.cmdBuf + 2))).map fun op =>
      .write op (byteAt mem (s.cmdBuf + 5)) (byteAt mem (s.cmdBuf + 4))
        (continuousPairs mem s.cmdBuf (readHalf mem s.cmdBuf)) := by
    rw [commandAt, hty]
  have hbase := base_continuous mem s.cmdBuf
  have hlen := length_continuousPairs mem s.cmdBuf (readHalf mem s.cmdBuf)
  generalize continuousPairs mem s.cmdBuf (readHalf mem s.cmdBuf) = regs at hcmd hbase hlen
  -- A command that could be taken has its registers in the buffer.
  have hfull : ∀ c, commandAt mem s.cmdBuf = some c → Takeable remainLen s c →
      readHalf mem s.cmdBuf ≠ 0 ∧ 12 + 8 * readHalf mem s.cmdBuf ≤ remainLen - s.byteCnt := by
    intro c hc ht
    rw [hcmd, Option.map_eq_some_iff] at hc
    obtain ⟨op, hop, rfl⟩ := hc
    have := ht.write
    rw [size_continuous hop, hlen] at this
    exact this
  have hsz : continuousWrSize (readHalf mem s.cmdBuf) = 12 + 8 * readHalf mem s.cmdBuf := rfl
  rw [parseBody, if_pos hlt]
  dsimp only
  rw [if_neg (by omega), hty]
  dsimp only [ParseState.read]
  by_cases h20 : remainLen - s.byteCnt < 20
  · rw [if_pos h20]
    refine .invalid _ hlt neg_EINVAL rfl (headerReads_le h4) ?_
    intro c hc ht
    have := hfull c hc ht
    omega
  rw [if_neg h20]
  by_cases hsize : continuousWrSize (readHalf mem s.cmdBuf) > remainLen - s.byteCnt
  · rw [if_pos hsize]
    refine .invalid [(s.cmdBuf + 2, 1), (s.cmdBuf + 3, 1), (s.cmdBuf, 2)] hlt neg_EINVAL (by simp)
      (by simp; omega) ?_
    intro c hc ht
    have := hfull c hc ht
    omega
  rw [if_neg hsize]
  cases hget : alloc.grants s.allocs (readHalf mem s.cmdBuf) with
  | false =>
    simp only [camSensorHandleContinuousWrite, camSensorGetI2cPtr, hget, afterWrite, if_pos neg_ENOMEM]
    refine .refused [(s.cmdBuf + 2, 1), (s.cmdBuf + 3, 1), (s.cmdBuf, 2)] hlt neg_ENOMEM (by simp)
      (by simp; omega) ?_
    intro c hc ht
    have := hfull c hc ht
    exact ⟨_, _, by omega, hget⟩
  | true =>
    have hpos : readHalf mem s.cmdBuf ≠ 0 := by
      intro h
      rw [h, alloc.zero] at hget
      cases hget
    cases hop : contWriteOp (byteAt mem (s.cmdBuf + 2)) with
    | none =>
      rw [hop, Option.map_none] at hcmd
      simp only [camSensorHandleContinuousWrite, camSensorGetI2cPtr, hget, hop, afterWrite,
        if_pos neg_EINVAL, ParseState.read]
      refine .invalid [(s.cmdBuf + 2, 1), (s.cmdBuf + 3, 1), (s.cmdBuf, 2), (s.cmdBuf + 2, 1)] hlt
        neg_EINVAL (by simp [ParseState.append]) (by simp; omega) ?_
      intro c hc
      rw [hcmd] at hc
      cases hc
    | some op =>
      rw [hop, Option.map_some] at hcmd
      simp only [camSensorHandleContinuousWrite, camSensorGetI2cPtr, hget, hop, afterWrite, lt_irrefl,
        if_false, ParseState.read, ← hbase]
      refine .took ([(s.cmdBuf + 2, 1), (s.cmdBuf + 3, 1)] ++ [(s.cmdBuf, 2)] ++ [(s.cmdBuf + 2, 1)] ++
        ([(s.cmdBuf + 5, 1), (s.cmdBuf + 4, 1)] ++ (List.range (readHalf mem s.cmdBuf)).flatMap
          fun cnt => [(s.cmdBuf + 8, 4), (s.cmdBuf + 12 + 8 * cnt, 4)]))
        hlt hcmd (takeable_write (hlen ▸ hpos) (by rw [size_continuous hop]; rw [hlen]; omega)) ?_ ?_ ?_
      · simp [ParseState.advance, ParseState.target, ParseState.append]
      · rw [size_continuous hop, hlen]
        simp only [List.forall_mem_append]
        exact ⟨by simp; omega, by simp; omega, continuousReads_le _ _⟩
      · simp only [Command.apply, size_continuous hop, hlen]
        rfl

/-- The delay of either kind. -/
def waitCommand (op : WaitOp) (n : ℕ) : Command := if op = .hwUcnd then .hwWait n else .swWait n

lemma Round.delay {op : WaitOp} (hop : op = .hwUcnd ∨ op = .swUcnd) (hlt : s.byteCnt < length)
    (h4 : 4 ≤ remainLen - s.byteCnt)
    (hcmd : commandAt mem s.cmdBuf = some (waitCommand op (readHalf mem s.cmdBuf))) :
    Round alloc mem remainLen length s (afterHandler (camSensorHandleDelay mem op
      { s with reads := s.reads ++ [(s.cmdBuf + 2, 1), (s.cmdBuf + 3, 1)] })) := by
  have hwait : (waitCommand op (readHalf mem s.cmdBuf)).isWait = true := by
    rcases hop with rfl | rfl <;> rfl
  have hsize : (waitCommand op (readHalf mem s.cmdBuf)).size = 4 := by
    rcases hop with rfl | rfl <;> rfl
  -- Before the first write there is nothing to attach a delay to.
  have hrefuse : ∀ r, ¬(s.list.isSome ∧ 0 < s.j) →
      r = (-Errno.EINVAL, { s with reads := s.reads ++ [(s.cmdBuf + 2, 1), (s.cmdBuf + 3, 1)] }) →
      Round alloc mem remainLen length s (afterHandler r) := by
    rintro _ hno rfl
    rw [afterHandler, if_pos neg_EINVAL]
    refine .invalid _ hlt neg_EINVAL rfl (headerReads_le h4) ?_
    intro c hc ht
    rw [hcmd] at hc
    cases hc
    exact hno (ht.target hwait)
  cases hlist : s.list with
  | none =>
    exact hlist ▸ hrefuse _ (by simp [hlist]) (by simp [camSensorHandleDelay, hlist])
  | some i =>
    by_cases hj : 0 < s.j
    · simp only [camSensorHandleDelay, afterHandler, gt_iff_lt, if_pos hj, lt_irrefl, if_false,
        ParseState.read]
      refine .took ([(s.cmdBuf + 2, 1), (s.cmdBuf + 3, 1)] ++ [(s.cmdBuf, 2)]) hlt hcmd ⟨?_, ?_, ?_⟩
        ?_ ?_ ?_
      · rcases hop with rfl | rfl <;> exact h4
      · intro op addrType dataType heq
        rw [heq] at hwait
        cases hwait
      · exact fun _ => ⟨by simp [hlist], hj⟩
      · simp [ParseState.advance]
      · simp [hsize]
      · rw [hsize]
        rcases hop with rfl | rfl <;> simp [waitCommand, Command.apply, hlist, ParseState.advance]
    · exact hlist ▸ hrefuse _ (by simp [hj]) (by simp [camSensorHandleDelay, hlist, hj])

lemma Round.wait (hlt : s.byteCnt < length) (h4 : 4 ≤ remainLen - s.byteCnt)
    (hty : CmdType.ofByte (byteAt mem (s.cmdBuf + 3)) = .wait) :
    Round alloc mem remainLen length s (parseBody alloc mem remainLen length s) := by
  rw [parseBody, if_pos hlt]
  dsimp only
  rw [if_neg (by omega), hty]
  dsimp only [ParseState.read]
  cases hop : WaitOp.ofByte (byteAt mem (s.cmdBuf + 2)) with
  | cond =>
    have hcmd : commandAt mem s.cmdBuf = some (.poll (byteAt mem (s.cmdBuf + 1)) (byteAt mem s.cmdBuf)
        (readWord mem (s.cmdBuf + 8)) (readWord mem (s.cmdBuf + 12)) (readHalf mem (s.cmdBuf + 4))
        (readWord mem (s.cmdBuf + 16))) := by
      simp [commandAt, hty, hop]
    cases hget : alloc.grants s.allocs 1 with
    | false =>
      simp only [camSensorHandlePoll, camSensorGetI2cPtr, hget, afterHandler, if_pos neg_ENOMEM]
      exact .refused _ hlt neg_ENOMEM rfl (headerReads_le h4)
        fun c hc ht => ⟨_, _, one_pos, hget⟩
    | true =>
      simp only [camSensorHandlePoll, camSensorGetI2cPtr, hget, afterHandler, lt_irrefl, if_false,
        ParseState.read]
      refine .took ([(s.cmdBuf + 2, 1), (s.cmdBuf + 3, 1)] ++ [(s.cmdBuf, 1), (s.cmdBuf + 1, 1),
        (s.cmdBuf + 8, 4), (s.cmdBuf + 12, 4), (s.cmdBuf + 4, 2)]) hlt hcmd ⟨h4, ?_, ?_⟩ ?_ ?_ ?_
      · intro op addrType dataType heq
        cases heq
      · intro h
        cases h
      · simp [ParseState.advance, ParseState.target, ParseState.append]
      · simp [Command.size]
      · rfl
  | hwUcnd =>
    have hcmd : commandAt mem s.cmdBuf = some (.hwWait (readHalf mem s.cmdBuf)) := by
      simp [commandAt, hty, hop]
    exact .delay (.inl rfl) hlt h4 hcmd
  | swUcnd =>
    have hcmd : commandAt mem s.cmdBuf = some (.swWait (readHalf mem s.cmdBuf)) := by
      simp [commandAt, hty, hop]
    exact .delay (.inr rfl) hlt h4 hcmd
  | other =>
    refine .invalid _ hlt neg_EINVAL rfl (headerReads_le h4) ?_
    intro c hc
    simp [commandAt, hty, hop] at hc

lemma Round.info (hlt : s.byteCnt < length) (h4 : 4 ≤ remainLen - s.byteCnt)
    (hty : CmdType.ofByte (byteAt mem (s.cmdBuf + 3)) = .i2cInfo) :
    Round alloc mem remainLen length s (parseBody alloc mem remainLen length s) := by
  have hcmd : commandAt mem s.cmdBuf =
      some (.info (readHalf mem s.cmdBuf) (byteAt mem (s.cmdBuf + 2))) := by
    rw [commandAt, hty]
  rw [parseBody, if_pos hlt]
  dsimp only
  rw [if_neg (by omega), hty]
  dsimp only [ParseState.read]
  cases hget : alloc.grants s.allocs 1 with
  | false =>
    simp only [camSensorHandleSlaveInfo, camSensorGetI2cPtr, hget, ne_eq, neg_ENOMEM.ne, not_false_eq_true,
      if_true]
    exact .refused _ hlt neg_ENOMEM rfl (headerReads_le h4)
      fun c hc ht => ⟨_, _, one_pos, hget⟩
  | true =>
    simp only [camSensorHandleSlaveInfo, camSensorGetI2cPtr, hget, ne_eq, not_true_eq_false, if_false,
      ParseState.read]
    refine .took ([(s.cmdBuf + 2, 1), (s.cmdBuf + 3, 1)] ++ [(s.cmdBuf, 2), (s.cmdBuf + 2, 1)]) hlt hcmd
      ⟨h4, ?_, ?_⟩ ?_ ?_ ?_
    · intro op addrType dataType heq
      cases heq
    · intro h
      cases h
    · simp [ParseState.advance, ParseState.append]
    · simp [Command.size]
    · rfl

theorem round_parseBody (alloc : Allocator) (mem : Memory) (remainLen length : ℕ) (s : ParseState) :
    Round alloc mem remainLen length s (parseBody alloc mem remainLen length s) := by
  by_cases hlt : s.byteCnt < length
  · by_cases h4 : 4 ≤ remainLen - s.byteCnt
    · cases hty : CmdType.ofByte (byteAt mem (s.cmdBuf + 3)) with
      | i2cRndmWr => exact .random hlt h4 hty
      | i2cContWr => exact .continuous hlt h4 hty
      | wait => exact .wait hlt h4 hty
      | i2cInfo => exact .info hlt h4 hty
      | other =>
        rw [parseBody, if_pos hlt]
        dsimp only
        rw [if_neg (by omega), hty]
        refine .invalid _ hlt neg_EINVAL rfl (headerReads_le h4) ?_
        intro c hc
        simp [commandAt, hty] at hc
    · rw [parseBody, if_pos hlt]
      dsimp only
      rw [if_pos (by omega)]
      exact .invalid [] hlt neg_EINVAL (by simp) (by simp) fun c _ ht =>
        h4 (c.four_le_checked.trans ht.checked)
  · rw [parseBody, if_neg hlt]
    exact .finished (Nat.not_lt.mp hlt)

end CameraKernel.SensorUtil
