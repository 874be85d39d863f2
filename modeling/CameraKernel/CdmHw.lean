import CameraKernel.Errno
import CameraKernel.Transition

/-! Submissions to the hardware CDM and their completions. The hardware executes committed
BLs in FIFO order; an interrupt reads the tag of the last gen-irq BL it executed; work items
run in any order, since the queue allows several at once. -/
namespace CameraKernel.CdmHw

abbrev CAM_CDM_HWFIFO_SIZE : ℕ := 0x40

def CAM_CDM_GET_CLIENT_IDX (hdl : UInt32) : UInt32 := hdl &&& 0x1F

inductive BlCmdType
  | memHandle | hwIova | kernelIova
  deriving DecidableEq, Repr

/-- `blAddr` holds the bits of the union: a memory handle or an address. -/
structure BlCmd where
  blAddr : UInt64
  offset : UInt32
  len : UInt32
  deriving DecidableEq, Repr

structure BlRequest where
  flag : Int
  userdata : UInt64
  cookie : UInt64
  type : BlCmdType
  cmd : List BlCmd
  deriving DecidableEq, Repr

structure SubmitBl where
  handle : UInt32
  data : BlRequest
  deriving DecidableEq, Repr

/-- A pending callback. `submission` numbers the submissions that asked for one. -/
structure BlCbRequestEntry where
  blTag : UInt8
  clientHdl : UInt32
  userdata : UInt64
  cookie : UInt32
  submission : ℕ
  deriving DecidableEq, Repr

/-- A BL committed to the FIFO. A gen-irq BL makes its tag the interrupt's user data, from
the tag's own place in the gen-irq buffer. -/
structure Bl where
  tag : UInt8
  genIrq : Option ℕ
  deriving DecidableEq, Repr

structure WorkPayload where
  inlineIrq : Bool
  irqData : UInt32
  deriving DecidableEq, Repr

structure Client where
  handle : UInt32
  callback : Bool
  deriving DecidableEq, Repr

/-- `executed` and `log` record, in order, the submissions whose gen-irq BL was executed and
the callbacks made. -/
structure State where
  blTag : UInt8
  blRequestList : List BlCbRequestEntry
  fifo : List Bl
  irqUsrData : UInt32
  works : List WorkPayload
  submitted : ℕ
  executed : List ℕ
  log : List BlCbRequestEntry
  deriving DecidableEq, Repr

def init : State := ⟨0, [], [], 0, [], 0, [], []⟩

/-- What may happen without the driver's lock. An interrupt may find no memory for its
payload, and its registers may fail to be read. -/
inductive HwEvent
  | execute
  | irq (alloc : Bool) (status inlineIrq : Bool) (dataRead queued : Bool)
  deriving DecidableEq, Repr

def executeBl (s : State) : State :=
  match s.fifo with
  | [] => s
  | ⟨_, none⟩ :: fifo => { s with fifo }
  | ⟨tag, some k⟩ :: fifo =>
    { s with fifo, irqUsrData := tag.toNat.toUInt32, executed := s.executed ++ [k] }

def irq (alloc status inlineIrq dataRead queued : Bool) (s : State) : State :=
  if alloc && status && queued then
    let irqData := if inlineIrq && dataRead then s.irqUsrData else 0
    { s with works := s.works ++ [⟨inlineIrq, irqData⟩] }
  else s

def hwEvent (s : State) : HwEvent → State
  | .execute => executeBl s
  | .irq alloc status inlineIrq dataRead queued => irq alloc status inlineIrq dataRead queued s

/-- What a gen-irq submission meets: hardware events before it, then its failures. -/
structure GenIrqAnswers where
  hw : List HwEvent
  noMem : Bool
  writeFails : Bool
  commitFails : Bool
  deriving DecidableEq, Repr

/-- What one BL of a submission meets. `error` is the reading of the error counter, `wait`
the return value of the wait for FIFO space, `ioBuf` that of the buffer lookup. -/
structure BlAnswers where
  hw : List HwEvent
  error : Bool
  wait : Int
  ioBuf : Int × UInt64 × UInt64
  writeFails : Bool
  commitFails : Bool
  genIrq : GenIrqAnswers
  deriving DecidableEq, Repr

def commit (genIrq : Option ℕ) (s : State) : State :=
  { s with fifo := s.fifo ++ [⟨s.blTag, genIrq⟩] }

def submitGenIrq (a : GenIrqAnswers) (req : SubmitBl) (s : State) : State × Int :=
  let s := a.hw.foldl hwEvent s
  if s.blTag > 63 then (s, -Errno.EINVAL)
  else if a.noMem then (s, -Errno.ENOMEM)
  else
    let node : BlCbRequestEntry :=
      ⟨s.blTag, req.handle, req.data.userdata, req.data.cookie.toUInt32, s.submitted⟩
    let listed :=
      { s with blRequestList := s.blRequestList ++ [node], submitted := s.submitted + 1 }
    let unlisted := { listed with blRequestList := listed.blRequestList.erase node }
    if a.writeFails then (unlisted, -Errno.EIO)
    else if a.commitFails then (unlisted, -Errno.EIO)
    else (commit (some node.submission) listed, 0)

/-- The address and the length a command's buffer has, or the error that ends the loop. -/
def lookup (a : BlAnswers) (type : BlCmdType) (cmd : BlCmd) :
    Except Int (Int × UInt64 × UInt64) :=
  match type with
  | .memHandle => .ok a.ioBuf
  | .hwIova =>
    if cmd.blAddr = 0 then .error (-Errno.EINVAL)
    else .ok (0, cmd.blAddr, (cmd.len + cmd.offset).toUInt64)
  | .kernelIova => .error (-Errno.EINVAL)

/-- The state after one BL, the FIFO space left, the return code, and whether the loop goes on. -/
structure Outcome where
  s : State
  writeCount : Int
  rc : Int
  goOn : Bool

/-- The BL's registers, its commit, and the gen-irq BL after the last one. -/
def writeBl (a : BlAnswers) (req : SubmitBl) (i : ℕ) (writeCount : Int) (s : State) : Outcome :=
  let s := if s.blTag.toNat ≥ CAM_CDM_HWFIFO_SIZE - 1 then { s with blTag := 0 } else s
  if a.writeFails then ⟨s, writeCount, -Errno.EIO, false⟩
  else if a.commitFails then ⟨s, writeCount, -Errno.EIO, false⟩
  else
    let s := commit none s
    let s := { s with blTag := s.blTag + 1 }
    if req.data.flag = 1 ∧ i = req.data.cmd.length - 1 then
      let (s, rc) := submitGenIrq a.genIrq req s
      ⟨if rc = 0 then { s with blTag := s.blTag + 1 } else s, writeCount, rc, true⟩
    else ⟨s, writeCount, 0, true⟩

def submitOne (a : BlAnswers) (req : SubmitBl) (i : ℕ) (cmd : BlCmd) (writeCount : Int)
    (s : State) : Outcome :=
  let s := a.hw.foldl hwEvent s
  if cmd.len = 0 && cmd.len > 0x100000 then ⟨s, writeCount, -Errno.EINVAL, false⟩
  else if a.error then ⟨s, writeCount, -Errno.EIO, false⟩
  else
    let writeCount := if writeCount = 0 then a.wait else writeCount - 1
    if writeCount < 0 then ⟨s, writeCount, -Errno.EIO, false⟩
    else
      match lookup a req.data.type cmd with
      | .error rc => ⟨s, writeCount, rc, false⟩
      | .ok (rc, hwVaddr, len) =>
        if rc = 0 ∧ hwVaddr ≠ 0 ∧ len ≠ 0 ∧ cmd.offset.toUInt64 ≤ len then
          if len - cmd.offset.toUInt64 < cmd.len.toUInt64 then
            ⟨s, writeCount, -Errno.EINVAL, false⟩
          else writeBl a req i writeCount s
        else ⟨s, writeCount, -Errno.EINVAL, false⟩

def submitAll (answers : ℕ → BlAnswers) (req : SubmitBl) :
    List BlCmd → ℕ → Outcome → State × Int
  | [], _, o => (o.s, o.rc)
  | cmd :: cmds, i, o =>
    let o := submitOne (answers i) req i cmd o.writeCount o.s
    if o.goOn then submitAll answers req cmds (i + 1) o else (o.s, o.rc)

structure SubmitAnswers where
  error : Bool
  pendingRc : Int
  bl : List BlAnswers
  deriving DecidableEq, Repr

/-- An answer for every command, those not listed being a failed buffer lookup. -/
def SubmitAnswers.at (a : SubmitAnswers) (i : ℕ) : BlAnswers :=
  a.bl.getD i ⟨[], true, 0, (-Errno.EINVAL, 0, 0), true, true, ⟨[], true, true, true⟩⟩

def submitBl (a : SubmitAnswers) (req : SubmitBl) (s : State) : State × Int :=
  if a.error then (s, -Errno.EIO)
  else if a.pendingRc ≠ 0 then (s, a.pendingRc)
  else submitAll a.at req req.data.cmd 0 ⟨s, 0, 0, true⟩

/-- The client a callback would be made to. -/
def notified (clients : List (Option Client)) (node : BlCbRequestEntry) : Bool :=
  match (clients[(CAM_CDM_GET_CLIENT_IDX node.clientHdl).toNat]?).join with
  | none => false
  | some client => client.handle = node.clientHdl && client.callback

def notifyClients (clients : List (Option Client)) (node : BlCbRequestEntry) (s : State) : State :=
  if notified clients node then { s with log := s.log ++ [node] } else s

/-- The loop of the handler: notify and delete from the head on, to the first entry with the tag. -/
def drain (clients : List (Option Client)) (irqData : UInt32) :
    List BlCbRequestEntry → State → State
  | [], s => { s with blRequestList := [] }
  | node :: list, s =>
    let s := notifyClients clients node s
    if node.blTag.toNat = irqData.toNat then { s with blRequestList := list }
    else drain clients irqData list s

def work (clients : List (Option Client)) (payload : WorkPayload) (s : State) : State :=
  if payload.inlineIrq then drain clients payload.irqData s.blRequestList s else s

inductive Op
  | submitBl (a : SubmitAnswers) (req : SubmitBl)
  | hw (e : HwEvent)
  | work (k : ℕ) (clients : List (Option Client))
  deriving DecidableEq, Repr

def step (s : State) : Op → State
  | .submitBl a req => (submitBl a req s).1
  | .hw e => hwEvent s e
  | .work k clients =>
    match s.works[k]? with
    | none => s
    | some payload => work clients payload { s with works := s.works.eraseIdx k }

end CameraKernel.CdmHw
