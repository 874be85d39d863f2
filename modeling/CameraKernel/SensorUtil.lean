import CameraKernel.Errno
import CameraKernel.GenericBlob
import CameraKernel.MachineInt
import CameraKernel.WhileLoop

/-! The parser of sensor command buffers. A mapping is a memory of bytes whose first
`lenOfBuff` bytes belong to it, a pointer a byte index; the parser logs the places and
lengths of its reads. -/
namespace CameraKernel.SensorUtil
open MachineInt
open GenericBlob (Memory readWord)

def byteAt (mem : Memory) (p : ℕ) : ℕ := (mem p).toNat

/-- A little-endian half word. -/
def readHalf (mem : Memory) (p : ℕ) : ℕ := byteAt mem p + 0x100 * byteAt mem (p + 1)

inductive I2cOp
  | writeRandom | writeBurst | writeSeq | poll | setI2cInfo
  deriving DecidableEq, Repr

structure I2cRegArray where
  regAddr : ℕ
  regData : ℕ
  delay : ℕ
  dataMask : ℕ
  deriving DecidableEq, Repr

/-- `struct i2c_settings_list`, its register settings and slave info inlined. -/
structure I2cSettings where
  opCode : I2cOp
  regSetting : List I2cRegArray
  size : ℕ
  addrType : ℕ
  dataType : ℕ
  delay : ℕ
  slaveAddr : ℕ
  i2cFreqMode : ℕ
  deriving DecidableEq, Repr

/-- What zeroed allocations for `size` registers hold. -/
def blankSettings (size : ℕ) : I2cSettings where
  opCode := .writeRandom
  regSetting := List.replicate size ⟨0, 0, 0, 0⟩
  size := size
  addrType := 0
  dataType := 0
  delay := 0
  slaveAddr := 0
  i2cFreqMode := 0

/-- The outcome of each pair of allocations; `vzalloc` gives nothing for size 0. -/
structure Allocator where
  grants : ℕ → ℕ → Bool
  zero : ∀ i, grants i 0 = false

inductive CmdType
  | i2cInfo | i2cRndmWr | i2cContWr | wait | other
  deriving DecidableEq, Repr

/-- `enum camera_sensor_cmd_type`, as far as the parser knows it. -/
def CmdType.ofByte (b : ℕ) : CmdType :=
  if b = 4 then .i2cInfo
  else if b = 5 then .i2cRndmWr
  else if b = 7 then .i2cContWr
  else if b = 9 then .wait
  else .other

inductive WaitOp
  | cond | hwUcnd | swUcnd | other
  deriving DecidableEq, Repr

def WaitOp.ofByte (b : ℕ) : WaitOp :=
  if b = 1 then .cond else if b = 2 then .hwUcnd else if b = 3 then .swUcnd else .other

/-- The write operation of a continuous write's op code. -/
def contWriteOp (b : ℕ) : Option I2cOp :=
  if b = 3 then some .writeBurst else if b = 5 then some .writeSeq else none

/-- An `int16_t` stored in a `uint32_t`. -/
def signExtend (n : ℕ) : ℕ := if n < 0x8000 then n else n + 0xFFFF0000

/-- `list` is the entry of `array` a delay goes to, `j` its number of registers. -/
structure ParseState where
  rc : ℤ
  cmdBuf : ℕ
  byteCnt : ℕ
  j : ℕ
  list : Option ℕ
  array : List I2cSettings
  allocs : ℕ
  reads : List (ℕ × ℕ)
  deriving DecidableEq, Repr

def ParseState.read (s : ParseState) (rs : List (ℕ × ℕ)) : ParseState :=
  { s with reads := s.reads ++ rs }

def ParseState.append (s : ParseState) (entry : I2cSettings) : ParseState :=
  { s with array := s.array ++ [entry] }

/-- The entry just appended becomes the one a delay goes to. -/
def ParseState.target (s : ParseState) (j : ℕ) : ParseState :=
  { s with j := j, list := some (s.array.length - 1) }

def ParseState.advance (s : ParseState) (n : ℕ) : ParseState :=
  { s with rc := 0, cmdBuf := s.cmdBuf + 4 * (n / 4), byteCnt := u32Add s.byteCnt n }

/-- `cam_sensor_get_i2c_ptr`, but for the new entry: each caller appends its own. -/
def camSensorGetI2cPtr (alloc : Allocator) (size : ℕ) (s : ParseState) : Bool × ParseState :=
  (alloc.grants s.allocs size, { s with allocs := s.allocs + 1 })

def randomWrSize (count : ℕ) : ℕ := 8 + 8 * count

def continuousWrSize (count : ℕ) : ℕ := 12 + 8 * count

def randomRegs (mem : Memory) (p count : ℕ) : List I2cRegArray :=
  (List.range count).map fun cnt =>
    ⟨readWord mem (p + 8 + 8 * cnt), readWord mem (p + 12 + 8 * cnt), 0, 0⟩

def continuousRegs (mem : Memory) (p count : ℕ) : List I2cRegArray :=
  (List.range count).map fun cnt => ⟨readWord mem (p + 8), readWord mem (p + 12 + 8 * cnt), 0, 0⟩

def randomEntry (mem : Memory) (p count : ℕ) : I2cSettings :=
  { blankSettings count with
    regSetting := randomRegs mem p count
    addrType := byteAt mem (p + 5)
    dataType := byteAt mem (p + 4) }

def continuousEntry (mem : Memory) (p count : ℕ) (op : I2cOp) : I2cSettings :=
  { blankSettings count with
    opCode := op
    regSetting := continuousRegs mem p count
    addrType := byteAt mem (p + 5)
    dataType := byteAt mem (p + 4) }

def pollEntry (mem : Memory) (p : ℕ) : I2cSettings :=
  { blankSettings 1 with
    opCode := .poll
    regSetting := [⟨readWord mem (p + 8), readWord mem (p + 12), readHalf mem (p + 4), 0⟩]
    addrType := byteAt mem (p + 1)
    dataType := byteAt mem p }

def infoEntry (mem : Memory) (p : ℕ) : I2cSettings :=
  { blankSettings 1 with
    opCode := .setI2cInfo
    slaveAddr := readHalf mem p
    i2cFreqMode := byteAt mem (p + 2) }

/-- Register `i` waits after it is written. -/
def I2cSettings.setHwDelay (entry : I2cSettings) (i n : ℕ) : I2cSettings :=
  { entry with regSetting := entry.regSetting.modify i fun r => { r with delay := signExtend n } }

def I2cSettings.setSwDelay (entry : I2cSettings) (n : ℕ) : I2cSettings := { entry with delay := n }

def camSensorHandleDelay (mem : Memory) (op : WaitOp) (s : ParseState) : ℤ × ParseState :=
  match s.list with
  | none => (-Errno.EINVAL, s)
  | some i =>
    if s.j > 0 then
      let s := s.read [(s.cmdBuf, 2)]
      let delay := readHalf mem s.cmdBuf
      let set := fun entry : I2cSettings =>
        if op = .hwUcnd then entry.setHwDelay (s.j - 1) delay else entry.setSwDelay delay
      (0, { s with array := s.array.modify i set }.advance 4)
    else (-Errno.EINVAL, s)

def camSensorHandlePoll (alloc : Allocator) (mem : Memory) (s : ParseState) : ℤ × ParseState :=
  match camSensorGetI2cPtr alloc 1 s with
  | (false, s) => (-Errno.ENOMEM, s)
  | (true, s) =>
    let p := s.cmdBuf
    let s := s.read [(p, 1), (p + 1, 1), (p + 8, 4), (p + 12, 4), (p + 4, 2)]
    (0, ((s.append (pollEntry mem p)).target 1).advance 20)

/-- Returns the advance besides the code; it is a `uint16_t`. -/
def camSensorHandleRandomWrite (alloc : Allocator) (mem : Memory) (s : ParseState) :
    ℤ × ℕ × ParseState :=
  let p := s.cmdBuf
  let count := readHalf mem p
  match camSensorGetI2cPtr alloc count s with
  | (false, s) => (-Errno.ENOMEM, 0, s)
  | (true, s) =>
    let s := s.read ([(p + 5, 1), (p + 4, 1)] ++
      (List.range count).flatMap fun cnt => [(p + 8 + 8 * cnt, 4), (p + 12 + 8 * cnt, 4)])
    (0, randomWrSize count % 0x10000, (s.append (randomEntry mem p count)).target count)

def camSensorHandleContinuousWrite (alloc : Allocator) (mem : Memory) (s : ParseState) :
    ℤ × ℕ × ParseState :=
  let p := s.cmdBuf
  let count := readHalf mem p
  match camSensorGetI2cPtr alloc count s with
  | (false, s) => (-Errno.ENOMEM, 0, s)
  | (true, s) =>
    let s := s.read [(p + 2, 1)]
    match contWriteOp (byteAt mem (p + 2)) with
    | none => (-Errno.EINVAL, 0, s.append (blankSettings count))
    | some op =>
      let s := s.read ([(p + 5, 1), (p + 4, 1)] ++
        (List.range count).flatMap fun cnt => [(p + 8, 4), (p + 12 + 8 * cnt, 4)])
      (0, continuousWrSize count % 0x10000,
        (s.append (continuousEntry mem p count op)).target count)

def camSensorHandleSlaveInfo (alloc : Allocator) (mem : Memory) (s : ParseState) : ℤ × ParseState :=
  match camSensorGetI2cPtr alloc 1 s with
  | (false, s) => (-Errno.ENOMEM, s)
  | (true, s) =>
    let p := s.cmdBuf
    (0, (s.read [(p, 2), (p + 2, 1)]).append (infoEntry mem p))

inductive LoopExit
  | finished
  | relBuf (rc : ℤ)
  deriving DecidableEq, Repr

/-- The rest of a round, from a handler's code on. -/
def afterHandler (r : ℤ × ParseState) : (LoopExit × ParseState) ⊕ ParseState :=
  if r.1 < 0 then .inl (.relBuf r.1, r.2) else .inr r.2

def afterWrite (rc : ℤ) (r : ℤ × ℕ × ParseState) : (LoopExit × ParseState) ⊕ ParseState :=
  if r.1 < 0 then .inl (.relBuf rc, r.2.2) else .inr (r.2.2.advance r.2.1)

/-- The loop of `cam_sensor_i2c_command_parser` over one buffer. -/
def parseBody (alloc : Allocator) (mem : Memory) (remainLen length : ℕ) (s : ParseState) :
    (LoopExit × ParseState) ⊕ ParseState :=
  if s.byteCnt < length then
    let left := remainLen - s.byteCnt
    if left < 4 then .inl (.relBuf (-Errno.EINVAL), s)
    else
      let p := s.cmdBuf
      let s := s.read [(p + 2, 1), (p + 3, 1)]
      -- The size checks of wait and info commands repeat the one above.
      match CmdType.ofByte (byteAt mem (p + 3)) with
      | .i2cRndmWr =>
        if left < 16 then .inl (.relBuf (-Errno.EINVAL), s)
        else
          let s := s.read [(p, 2)]
          if randomWrSize (readHalf mem p) > left then
            .inl (.relBuf (-Errno.EINVAL), s)
          else afterWrite (-Errno.EINVAL) (camSensorHandleRandomWrite alloc mem s)
      | .i2cContWr =>
        if left < 20 then .inl (.relBuf (-Errno.EINVAL), s)
        else
          let s := s.read [(p, 2)]
          if continuousWrSize (readHalf mem p) > left then
            .inl (.relBuf (-Errno.EINVAL), s)
          else
            let r := camSensorHandleContinuousWrite alloc mem s
            afterWrite r.1 r
      | .wait =>
        match WaitOp.ofByte (byteAt mem (p + 2)) with
        | .cond => afterHandler (camSensorHandlePoll alloc mem s)
        | .other => .inl (.relBuf (-Errno.EINVAL), s)
        | op => afterHandler (camSensorHandleDelay mem op s)
      | .i2cInfo =>
        let r := camSensorHandleSlaveInfo alloc mem s
        if r.1 ≠ 0 then .inl (.relBuf r.1, r.2) else .inr (r.2.advance 4)
      | .other => .inl (.relBuf (-Errno.EINVAL), s)
  else .inl (.finished, s)

def afterRound : (LoopExit × ParseState) ⊕ ParseState → ParseState
  | .inl r => r.2
  | .inr s => s

/-- One element of `cmd_desc`, with what `cam_mem_get_cpu_buf` returns and stores for its
handle. -/
structure CmdDesc where
  rc : ℤ
  mem : Memory
  lenOfBuff : ℕ
  offset : UInt32
  length : UInt32

structure I2cSettingsArray where
  listHead : List I2cSettings
  isSettingsValid : ℤ
  allocs : ℕ
  deriving DecidableEq, Repr

/-- The checks before the loop, with the code returned when one of them fails. -/
def checkDesc (d : CmdDesc) : Option ℤ :=
  if d.rc < 0 then some d.rc
  else if d.lenOfBuff < 4 ∨ d.offset.toNat > d.lenOfBuff - 4 then some (-Errno.EINVAL)
  else if d.lenOfBuff - d.offset.toNat < d.length.toNat then some (-Errno.EINVAL)
  else none

def descBody (alloc : Allocator) (d : CmdDesc) :
    ParseState → (LoopExit × ParseState) ⊕ ParseState :=
  parseBody alloc d.mem (d.lenOfBuff - d.offset.toNat) d.length.toNat

def parseStart (d : CmdDesc) (a : I2cSettingsArray) : ParseState where
  rc := d.rc
  cmdBuf := 4 * (d.offset.toNat / 4)
  byteCnt := 0
  j := 0
  list := none
  array := a.listHead
  allocs := a.allocs
  reads := []

/-- The array when the loop over a buffer has ended. -/
def ParseState.settings (s : ParseState) (valid : ℤ) : I2cSettingsArray := ⟨s.array, valid, s.allocs⟩

/-- The call, with the code so far `rc`, returns `ret` and leaves the array `b`. The
counter of buffers is an `int16_t`, so there are fewer than `0x8000` of them. -/
def CamSensorI2cCommandParser (alloc : Allocator) :
    ℤ → I2cSettingsArray → List CmdDesc → ℤ → I2cSettingsArray → Prop
  | rc, a, [], ret, b => ret = rc ∧ b = a
  | rc, a, d :: ds, ret, b =>
    if d.length = 0 then CamSensorI2cCommandParser alloc rc a ds ret b
    else
      match checkDesc d with
      | some e => ret = e ∧ b = a
      | none => ∃ exit s, WhileLoop.Returns (descBody alloc d) (parseStart d a) (exit, s) ∧
          match exit with
          | .relBuf e => ret = e ∧ b = s.settings a.isSettingsValid
          | .finished => CamSensorI2cCommandParser alloc s.rc (s.settings 1) ds ret b

/-- The call comes to the head of the loop over buffer `d` in state `s`. -/
def EntersLoop (alloc : Allocator) :
    I2cSettingsArray → List CmdDesc → CmdDesc → ParseState → Prop
  | _, [], _, _ => False
  | a, d :: ds, e, s =>
    if d.length = 0 then EntersLoop alloc a ds e s
    else checkDesc d = none ∧
      ((e = d ∧ WhileLoop.Reaches (descBody alloc d) (parseStart d a) s) ∨
        ∃ t, WhileLoop.Returns (descBody alloc d) (parseStart d a) (.finished, t) ∧
          EntersLoop alloc (t.settings 1) ds e s)

end CameraKernel.SensorUtil
