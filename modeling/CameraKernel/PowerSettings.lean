import CameraKernel.SensorUtil

/-! The parser of power commands: the settings of a power sequence up and of one down, with the waits
between them. The call logs the places and lengths of its reads. -/
namespace CameraKernel.PowerSettings
open GenericBlob (Memory readWord)
open SensorUtil (byteAt readHalf)

def MAX_POWER_CONFIG : ℕ := 12
def SENSOR_SEQ_TYPE_MAX : ℕ := 12

def CAMERA_SENSOR_CMD_TYPE_PWR_UP : ℕ := 2
def CAMERA_SENSOR_CMD_TYPE_PWR_DOWN : ℕ := 3
def CAMERA_SENSOR_CMD_TYPE_WAIT : ℕ := 9
def CAMERA_SENSOR_WAIT_OP_SW_UCND : ℕ := 3

def sizeofCommonHeader : ℕ := 4
def sizeofPower : ℕ := 16
def sizeofPowerSettings : ℕ := 12
def sizeofUnconditionalWait : ℕ := 4

inductive Dir
  | up | down
  deriving DecidableEq, Repr

/-- `struct cam_sensor_power_setting`; the delay is an `unsigned short`. -/
structure PowerSetting where
  seqType : ℕ
  configVal : ℕ
  delay : ℕ
  deriving DecidableEq, Repr

/-- The arrays of `struct cam_sensor_power_ctrl_t`, with the entries written so far, and their sizes;
a pointer that is NULL is `none`. -/
structure PowerInfo where
  setting : Dir → Option (List PowerSetting)
  size : Dir → ℕ

def PowerInfo.freed : PowerInfo := ⟨fun _ => none, fun _ => 0⟩

/-- A call, with the memory that `cmd_buf` points to and whether the two allocations succeed. -/
structure Call where
  mem : Memory
  cmdLength : UInt32
  cmdBufLen : ℕ
  inside : cmdLength.toNat ≤ cmdBufLen
  info : PowerInfo
  grants : Dir → Bool

structure Result where
  rc : ℤ
  info : PowerInfo
  /-- The entries written into each array, also into one that is freed again. -/
  written : Dir → ℕ
  reads : List (ℕ × ℕ)

structure ParseState where
  totSize : UInt32
  ptr : ℕ
  lastCmdType : Option Dir
  size : Dir → ℕ
  entries : Dir → List PowerSetting
  reads : List (ℕ × ℕ)

def ParseState.read (s : ParseState) (rs : List (ℕ × ℕ)) : ParseState :=
  { s with reads := s.reads ++ rs }

def typeAt (mem : Memory) (p : ℕ) : ℕ := byteAt mem (p + 3)

def validateSize (type : ℕ) : ℕ :=
  if type = CAMERA_SENSOR_CMD_TYPE_PWR_UP ∨ type = CAMERA_SENSOR_CMD_TYPE_PWR_DOWN then sizeofPower
  else if type = CAMERA_SENSOR_CMD_TYPE_WAIT then sizeofUnconditionalWait
  else 0

/-- Whether the buffer is refused, and the reads. -/
def camSensorValidate (mem : Memory) (ptr remainBuf : ℕ) : Bool × List (ℕ × ℕ) :=
  if remainBuf < sizeofCommonHeader then (true, [])
  else (decide (remainBuf < validateSize (typeAt mem ptr)), [(ptr + 3, 1)])

variable (c : Call)

/-- Entry `i` of the command at `base`; its type and its value are read. -/
def settingAt (mem : Memory) (base i : ℕ) : ℕ × ℕ :=
  (readHalf mem (base + 4 + 12 * i), readWord mem (base + 8 + 12 * i))

def settingReads (base i : ℕ) : List (ℕ × ℕ) := [(base + 4 + 12 * i, 2), (base + 8 + 12 * i, 4)]

def ParseState.append (s : ParseState) (dir : Dir) (x : ℕ × ℕ) : ParseState :=
  { s with entries := Function.update s.entries dir (s.entries dir ++ [⟨x.1, x.2, 0⟩]) }

/-- Entry `i`; the first is part of the command's size. -/
def takeSetting (dir : Dir) (base i : ℕ) (s : ParseState) : ParseState :=
  let s := (s.read (settingReads base i)).append dir (settingAt c.mem base i)
  if i = 0 then s
  else { s with
    ptr := s.ptr + sizeofPowerSettings
    totSize := s.totSize + UInt32.ofNat sizeofPowerSettings }

/-- `n` entries from entry `i` on. The size is checked behind each of them. -/
def takeSettings (dir : Dir) (base : ℕ) : ℕ → ℕ → ParseState → Bool × ParseState
  | 0, _, s => (true, s)
  | n + 1, i, s =>
    let s := takeSetting c dir base i s
    if c.cmdLength < s.totSize then (false, s) else takeSettings dir base n (i + 1) s

/-- A command of settings. The one for the way down adds its size before its checks, which makes no
difference as the call ends when one of them fails. -/
def powerCommand (dir : Dir) (s : ParseState) : Bool × ParseState :=
  let base := s.ptr
  let count := readHalf c.mem base
  let s := s.read [(base, 2)]
  if 0xFFFF - s.size dir < count then (false, s)
  else
    let s := { s with size := Function.update s.size dir (s.size dir + count) }
    if MAX_POWER_CONFIG < s.size dir ∨ SENSOR_SEQ_TYPE_MAX ≤ count then (false, s)
    else takeSettings c dir base count 0
      { s with
        ptr := base + sizeofPower
        totSize := s.totSize + UInt32.ofNat sizeofPower
        lastCmdType := some dir }

/-- An `int16_t`. -/
def signedHalf (n : ℕ) : ℤ := if n < 0x8000 then n else n - 0x10000

def u16Add (a : ℕ) (d : ℤ) : ℕ := (((a : ℤ) + d) % 0x10000).toNat

/-- The delay goes to the entry written last. -/
def ParseState.delayLast (s : ParseState) (dir : Dir) (d : ℤ) : ParseState :=
  { s with
    entries := Function.update s.entries dir
      ((s.entries dir).modify ((s.entries dir).length - 1) fun e =>
        { e with delay := u16Add e.delay d }) }

def waitDelay (s : ParseState) : ParseState :=
  match s.lastCmdType with
  | some dir =>
    if byteAt c.mem (s.ptr + 2) = CAMERA_SENSOR_WAIT_OP_SW_UCND ∧ 0 < (s.entries dir).length then
      (s.read [(s.ptr, 2)]).delayLast dir (signedHalf (readHalf c.mem s.ptr))
    else s
  | none => s

inductive Exit
  | finished | freePowerSettings | returned
  deriving DecidableEq, Repr

def waitCommand (s : ParseState) : (Exit × ParseState) ⊕ ParseState :=
  let s := waitDelay c (s.read [(s.ptr + 2, 1)])
  let s := { s with totSize := s.totSize + UInt32.ofNat sizeofUnconditionalWait }
  -- This check leaves the arrays where they are.
  if c.cmdLength < s.totSize then .inl (.returned, s)
  else .inr { s with ptr := s.ptr + sizeofUnconditionalWait }

def afterPower (r : Bool × ParseState) : (Exit × ParseState) ⊕ ParseState :=
  if r.1 then .inr r.2 else .inl (.freePowerSettings, r.2)

def parseBody (s : ParseState) : (Exit × ParseState) ⊕ ParseState :=
  if s.totSize < c.cmdLength then
    let v := camSensorValidate c.mem s.ptr (c.cmdLength - s.totSize).toNat
    if v.1 then .inl (.freePowerSettings, s.read v.2)
    else if typeAt c.mem s.ptr = CAMERA_SENSOR_CMD_TYPE_PWR_UP then
      afterPower (powerCommand c .up (s.read v.2))
    else if typeAt c.mem s.ptr = CAMERA_SENSOR_CMD_TYPE_WAIT then waitCommand c (s.read v.2)
    else if typeAt c.mem s.ptr = CAMERA_SENSOR_CMD_TYPE_PWR_DOWN then
      afterPower (powerCommand c .down (s.read v.2))
    else .inl (.freePowerSettings, s.read v.2)
  else .inl (.finished, s)

def parseStart (reads : List (ℕ × ℕ)) : ParseState := ⟨0, 0, none, fun _ => 0, fun _ => [], reads⟩

def endOfLoop (r : Exit × ParseState) : Result :=
  let held : PowerInfo := ⟨fun dir => some (r.2.entries dir), r.2.size⟩
  let written := fun dir => (r.2.entries dir).length
  match r.1 with
  | .finished => ⟨0, held, written, r.2.reads⟩
  | .freePowerSettings => ⟨-Errno.EINVAL, .freed, written, r.2.reads⟩
  | .returned => ⟨-Errno.EINVAL, held, written, r.2.reads⟩

/-- The arguments are refused; an empty buffer is not looked at. -/
def argsCheck : Bool × List (ℕ × ℕ) :=
  if c.cmdLength = 0 then (true, []) else camSensorValidate c.mem 0 c.cmdBufLen

/-- The call returns `r`. -/
def CamSensorUpdatePowerSettings (r : Result) : Prop :=
  if (argsCheck c).1 then r = ⟨-Errno.EINVAL, c.info, fun _ => 0, (argsCheck c).2⟩
  else if !c.grants .up then
    r = ⟨-Errno.ENOMEM, ⟨Function.update c.info.setting .up none, Function.update c.info.size .up 0⟩,
      fun _ => 0, (argsCheck c).2⟩
  else if !c.grants .down then r = ⟨-Errno.ENOMEM, .freed, fun _ => 0, (argsCheck c).2⟩
  else ∃ e, WhileLoop.Returns (parseBody c) (parseStart (argsCheck c).2) e ∧ r = endOfLoop e

inductive Command
  | power (dir : Dir) (settings : List (ℕ × ℕ))
  /-- A wait, with its delay if it is one of the software. -/
  | wait (delay : Option ℤ)
  deriving DecidableEq, Repr

/-- The bytes of a command; one without settings still has the place of one. -/
def Command.size : Command → ℕ
  | power _ settings => 4 + 12 * max settings.length 1
  | wait _ => 4

/-- The bytes that must be there for it to be taken up. -/
def Command.header : Command → ℕ
  | power .. => 16
  | wait _ => 4

def settingsAt (mem : Memory) (p : ℕ) : List (ℕ × ℕ) :=
  (List.range (readHalf mem p)).map (settingAt mem p)

def commandAt (mem : Memory) (p : ℕ) : Option Command :=
  if typeAt mem p = CAMERA_SENSOR_CMD_TYPE_PWR_UP then some (.power .up (settingsAt mem p))
  else if typeAt mem p = CAMERA_SENSOR_CMD_TYPE_WAIT then
    some (.wait (if byteAt mem (p + 2) = CAMERA_SENSOR_WAIT_OP_SW_UCND then
      some (signedHalf (readHalf mem p)) else none))
  else if typeAt mem p = CAMERA_SENSOR_CMD_TYPE_PWR_DOWN then some (.power .down (settingsAt mem p))
  else none

/-- A setting with the sum of the delays behind it. -/
structure Wanted where
  seqType : ℕ
  configVal : ℕ
  delay : ℤ
  deriving DecidableEq, Repr

structure Wants where
  last : Option Dir
  lists : Dir → List Wanted

def Wants.add (w : Wants) : Command → Wants
  | .power dir settings =>
    ⟨some dir, Function.update w.lists dir
      (w.lists dir ++ settings.map fun x => ⟨x.1, x.2, 0⟩)⟩
  | .wait (some d) =>
    match w.last with
    | some dir => { w with
        lists := Function.update w.lists dir
          ((w.lists dir).modify ((w.lists dir).length - 1) fun e => { e with delay := e.delay + d }) }
    | none => w
  | .wait none => w

/-- The settings that the commands ask for, in order. -/
def wants (cs : List Command) : Wants := cs.foldl Wants.add ⟨none, fun _ => []⟩

def PowerSetting.holds (e : PowerSetting) : Wanted := ⟨e.seqType, e.configVal, e.delay⟩

/-- The commands `cs` stand in the buffer from `p` to its end. -/
inductive Stream (mem : Memory) (stop : ℕ) : ℕ → List Command → Prop
  | nil : Stream mem stop stop []
  | cons {p : ℕ} {cmd : Command} {cs : List Command} (h : p < stop)
      (hc : commandAt mem p = some cmd) (hcs : Stream mem stop (p + cmd.size) cs) :
      Stream mem stop p (cmd :: cs)

structure Result.Kept (r : Result) : Prop where
  reads : ∀ x ∈ r.reads, x.1 + x.2 ≤ c.cmdLength.toNat
  written : ∀ dir, r.written dir ≤ MAX_POWER_CONFIG
  success : r.rc = 0 → ∃ cs, Stream c.mem c.cmdLength.toNat 0 cs ∧ ∀ dir, ∃ es,
    r.info.setting dir = some es ∧ es.map PowerSetting.holds = (wants cs).lists dir ∧
      r.info.size dir = r.written dir ∧ r.written dir = es.length
  error : r.rc < 0 → r.info = .freed

/-- The call returns, and keeps to what it promises. -/
def Call.Sound : Prop := ∃ r, CamSensorUpdatePowerSettings c r ∧ r.Kept c

/-- Behind the commands `cs` the parser takes up the command at `pos`. -/
structure Takes (cs : List Command) (pos : ℕ) (cmd : Command) : Prop where
  header : pos + cmd.header ≤ c.cmdLength.toNat
  command : commandAt c.mem pos = some cmd
  count : ∀ dir settings, cmd = .power dir settings → settings.length < SENSOR_SEQ_TYPE_MAX ∧
    ((wants cs).lists dir).length + settings.length ≤ MAX_POWER_CONFIG

/-- The parser comes to `pos` behind the commands `cs`, all of which end in the buffer. -/
inductive Walk : ℕ → List Command → Prop
  | start : Walk 0 []
  | next {pos : ℕ} {cs : List Command} {cmd : Command} (h : Walk pos cs) (ht : Takes c cs pos cmd)
      (hf : pos + cmd.size ≤ c.cmdLength.toNat) : Walk (pos + cmd.size) (cs ++ [cmd])

/-- The buffer of a command at `pos` ends within the last word of a setting, which is not read, and
the end of that setting can still be counted. -/
def CutAtUnused (pos : ℕ) : Prop :=
  let k := (c.cmdLength.toNat - pos - 4) / 12
  pos + 12 + 12 * k ≤ c.cmdLength.toNat ∧ pos + 16 + 12 * k < 2 ^ 32

def PowerInfo.isFreed (i : PowerInfo) : Prop := ∀ dir, i.setting dir = none ∧ i.size dir = 0

/-- A call refused for its arguments finds both arrays freed, and a buffer that is too short for a
header is not longer than its command; one that fails to allocate the first array finds the second
freed. Else a command taken up ends in the buffer or is cut at the word that is not read, and no sum
of delays leaves 16 bits. -/
def Call.Good : Prop :=
  if (argsCheck c).1 then
    c.info.isFreed ∧ (c.cmdLength ≠ 0 → 4 ≤ c.cmdBufLen → 4 ≤ c.cmdLength.toNat)
  else
    4 ≤ c.cmdLength.toNat ∧
      if !c.grants .up then c.info.setting .down = none ∧ c.info.size .down = 0
      else c.grants .down = true →
        (∀ pos cs cmd, Walk c pos cs → Takes c cs pos cmd →
          pos + cmd.size ≤ c.cmdLength.toNat ∨ CutAtUnused c pos) ∧
        ∀ cs, Walk c c.cmdLength.toNat cs → ∀ dir, ∀ x ∈ (wants cs).lists dir,
          0 ≤ x.delay ∧ x.delay < 0x10000

end CameraKernel.PowerSettings
