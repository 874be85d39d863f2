import CameraKernel.Errno
import CameraKernel.WhileLoop

/-! The loop of `cam_cci_data_queue` for `MSM_CCI_I2C_WRITE`: how register writes are packed
into packets and the packets into the words of a hardware queue. The hardware is a script
of what it shows in each round. -/
namespace CameraKernel.CciQueue

/-- `struct cam_sensor_i2c_reg_array`, but for the mask the queue does not use. -/
structure Reg where
  regAddr : UInt32
  regData : UInt32
  delay : UInt32
  deriving DecidableEq, Repr

inductive AddrType
  | byte | word | b3 | dword
  deriving DecidableEq, Repr

inductive DataType
  | byte | word | b3 | dword
  deriving DecidableEq, Repr

/-- `cam_cci_convert_type_to_num_bytes`. -/
def AddrType.numBytes : AddrType → ℕ
  | byte => 1
  | word => 2
  | b3 => 3
  | dword => 4

/-- What is put in a packet, "either byte or word addr". -/
def AddrType.sentBytes : AddrType → ℕ
  | byte => 1
  | _ => 2

def DataType.numBytes : DataType → ℕ
  | byte => 1
  | word => 2
  | b3 => 3
  | dword => 4

inductive Queue
  | queue0 | queue1
  deriving DecidableEq, Repr

def Queue.maxQueueSize : Queue → UInt32
  | queue0 => 128
  | queue1 => 32

structure Setting where
  addrType : AddrType
  dataType : DataType
  payloadSize : ℕ
  cyclesPerUs : UInt32
  queue : Queue
  payload : payloadSize = 10 ∨ payloadSize = 11

def maxWrite : ℕ := 8192
def maxDelay : UInt32 := 1000000

def waitCmd : ℕ := 2
def reportCmd : ℕ := 8
def writeCmd : ℕ := 9

variable (m : Setting)

/-- The loop of `cam_cci_calc_cmd_len` from `cmd` on: the length and the count `pack`. -/
def packLoop (packMaxLen : ℕ) : ℕ → ℕ → ℕ → List Reg → ℕ × ℕ
  | i, len, pack, cmd :: next :: rest =>
    if i < packMaxLen then
      if cmd.delay ≠ 0 then (len, pack)
      else if cmd.regAddr + 1 = next.regAddr then
        if len + m.dataType.numBytes > m.payloadSize then (len, pack)
        else packLoop packMaxLen (i + m.dataType.numBytes) (len + m.dataType.numBytes) (pack + 1)
          (next :: rest)
      else (len, pack)
    else (len, pack)
  | _, len, pack, _ => (len, pack)

/-- The words a packet may take, and the entries it takes besides the first. -/
def camCciCalcCmdLen (cmds : List Reg) : ℤ × ℕ :=
  let len := m.dataType.numBytes + m.addrType.numBytes
  let packMaxLen := min cmds.length (m.payloadSize - len)
  let r := packLoop m packMaxLen 0 len 0 cmds
  if r.1 > m.payloadSize then (-Errno.EINVAL, r.2) else ((((r.1 + 1) / 4 + 1 : ℕ) : ℤ), r.2)

def addrBytes (regAddr : UInt32) : List ℕ :=
  match m.addrType with
  | .byte => [regAddr.toNat % 0x100]
  | _ => [regAddr.toNat / 0x100 % 0x100, regAddr.toNat % 0x100]

def dataBytes (regData : UInt32) : List ℕ :=
  match m.dataType with
  | .byte => [regData.toNat % 0x100]
  | .word => [regData.toNat / 0x100 % 0x100, regData.toNat % 0x100]
  | .b3 => [regData.toNat / 0x10000 % 0x100, regData.toNat / 0x100 % 0x100, regData.toNat % 0x100]
  | .dword => [regData.toNat / 0x1000000 % 0x100, regData.toNat / 0x10000 % 0x100,
      regData.toNat / 0x100 % 0x100, regData.toNat % 0x100]

/-- The `do` loop: the bytes it puts behind the first `i`, and the entries it leaves. -/
def dataLoop : ℕ → ℕ → List Reg → List ℕ × List Reg
  | _, _, [] => ([], [])
  | pack, i, cmd :: rest =>
    if m.dataType = .byte ∨ i + 1 ≤ m.payloadSize then
      let bytes := dataBytes m cmd.regData
      match pack with
      | 0 => (bytes, rest)
      | pack + 1 =>
        if rest ≠ [] ∧ i + bytes.length ≤ m.payloadSize then
          let r := dataLoop pack (i + bytes.length) rest
          (bytes ++ r.1, r.2)
        else (bytes, rest)
    else ([], cmd :: rest)

/-- Four bytes a word, the first one lowest. -/
def loadWords : List ℕ → List ℕ
  | [] => []
  | [a] => [a]
  | [a, b] => [a ||| b <<< 8]
  | [a, b, c] => [a ||| b <<< 8 ||| c <<< 16]
  | a :: b :: c :: d :: rest => (a ||| b <<< 8 ||| c <<< 16 ||| d <<< 24) :: loadWords rest

/-- The command byte with the count, the address and the data. -/
def packetBytes (addr data : List ℕ) : List ℕ :=
  (writeCmd ||| (addr ++ data).length <<< 4) :: (addr ++ data)

/-- The word after a packet whose first entry has the delay. -/
def waitWords (delay : UInt32) : List ℕ :=
  if delay > 0 ∧ delay < maxDelay then
    [(delay * m.cyclesPerUs / 0x100).toNat <<< 4 ||| waitCmd]
  else []

/-- What the driver finds in a round: the word count, `q_free`, and how waiting for a full
queue ends. -/
structure Observed where
  readVal : UInt32
  qFree : Bool
  fullRc : ℤ
  deriving DecidableEq, Repr

structure QueueState where
  cmds : List Reg
  words : List ℕ
  round : ℕ
  deriving DecidableEq, Repr

inductive QueueExit
  | transferEnd
  | failed (rc : ℤ)
  deriving DecidableEq, Repr

def reportWords (qFree : Bool) : List ℕ := if qFree then [] else [reportCmd ||| 1 <<< 8]

/-- The words of the next packet and its wait, and the entries left. -/
def loadPacket (pack : ℕ) : List Reg → List ℕ × List Reg
  | [] => ([], [])
  | cmd :: rest =>
    let addr := addrBytes m cmd.regAddr
    let r := dataLoop m pack (1 + addr.length) (cmd :: rest)
    (loadWords (packetBytes addr r.1) ++ waitWords m cmd.delay, r.2)

def queueBody (hw : ℕ → Observed) (s : QueueState) : (QueueExit × QueueState) ⊕ QueueState :=
  if s.cmds = [] then .inl (.transferEnd, s)
  else
    let r := camCciCalcCmdLen m s.cmds
    -- The length is kept in a `uint16_t`.
    let len := (r.1 % 0x10000).toNat
    if len = 0 then .inl (.failed (-Errno.EINVAL), s)
    else
      let o := hw s.round
      let need := o.readVal + UInt32.ofNat len + 1
      if need > m.queue.maxQueueSize then
        -- `cam_cci_process_full_q`; the packet is tried again.
        let s := { s with words := s.words ++ reportWords o.qFree, round := s.round + 1 }
        if o.fullRc < 0 then .inl (.failed o.fullRc, s) else .inr s
      else
        -- `cam_cci_process_half_q`
        let report := if need > m.queue.maxQueueSize / 2 then reportWords o.qFree else []
        let p := loadPacket m r.2 s.cmds
        .inr ⟨p.2, s.words ++ report ++ p.1, s.round + 1⟩

/-- The call comes to `cam_cci_transfer_end` and has loaded `words` since the queue was
locked. -/
def CamCciDataQueue (hw : ℕ → Observed) (regSetting : List Reg) (words : List ℕ) : Prop :=
  regSetting.length ≠ 0 ∧ regSetting.length ≤ maxWrite ∧
    ∃ s, WhileLoop.Returns (queueBody m hw) ⟨regSetting, [], 0⟩ (.transferEnd, s) ∧ s.words = words

end CameraKernel.CciQueue
