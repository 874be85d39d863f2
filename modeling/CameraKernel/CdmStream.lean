import CameraKernel.Errno
import CameraKernel.Transition

/-! Clients of one CDM: acquire, stream-on, stream-off, submission and release. -/
namespace CameraKernel.CdmStream

/-- The CDM's index, and whether it is the virtual one, which has no platform resource. -/
structure Cdm where
  index : UInt32
  isVirtual : Bool
  deriving DecidableEq, Repr

/-- A registered client. `id` tells apart the clients that use one slot in turn. -/
structure Client where
  handle : UInt32
  refcount : ℕ
  streamOn : Bool
  callback : Bool
  id : ℕ
  deriving DecidableEq, Repr

/-- What the stream calls share: the count and what is switched on. -/
structure Hw where
  openCount : ℕ
  cpasOn : Bool
  platformOn : Bool
  deriving DecidableEq, Repr

abbrev Slot := Fin 32

/-- `inFlight` lists the submissions under way, each with the client whose reference it holds;
`freed` has the number of references held for each client freed. -/
structure State where
  hw : Hw
  clients : Slot → Option Client
  inFlight : List (Slot × ℕ)
  nextId : ℕ
  freed : List ℕ

def init : State := ⟨⟨0, false, false⟩, fun _ => none, [], 0, []⟩

def clientIdx (hdl : UInt32) : Slot :=
  ⟨(hdl &&& 0x1F).toNat, by
    rw [UInt32.toNat_and]
    exact Nat.lt_of_le_of_lt Nat.and_le_right (by decide)⟩

def createClientHandle (hwIdx : UInt32) (i : Slot) : UInt32 :=
  ((hwIdx &&& 0xF) <<< 5) ||| (UInt32.ofNat i.val &&& 0x1F)

def modify (t : Slot → Option Client) (i : Slot) (f : Client → Client) : Slot → Option Client :=
  Function.update t i ((t i).map f)

def Client.get (c : Client) : Client := { c with refcount := c.refcount + 1 }

/-- A put at zero only warns. -/
def Client.put (c : Client) : Client := { c with refcount := c.refcount - 1 }

def State.getClientRefcount (s : State) (i : Slot) : State :=
  { s with clients := modify s.clients i Client.get }

def State.putClientRefcount (s : State) (i : Slot) : State :=
  { s with clients := modify s.clients i Client.put }

/-- How a CPAS stop ends: its return code, and after a failure whether CPAS is still on. -/
structure CpasStop where
  rc : Int
  on : Bool
  deriving DecidableEq, Repr

/-- What the steps of a stream call return. -/
structure Answers where
  enableRc : Int
  cpasStartRc : Int
  irqMaskFails : Bool
  resetFails : Bool
  timeLeft : Int
  genIrqRc : Int
  disableRc : Int
  cpasStop : CpasStop
  deriving DecidableEq, Repr

def Hw.stopCpas (hw : Hw) (stop : CpasStop) : Hw :=
  { hw with cpasOn := decide (stop.rc ≠ 0) && stop.on }

/-- Clocks and regulators go off whatever `disable_platform_resource` returns. -/
def Hw.disablePlatform (hw : Hw) : Hw := { hw with platformOn := false }

def hwCdmInit (a : Answers) (hw : Hw) : Hw × Int :=
  if a.irqMaskFails || a.resetFails || a.timeLeft ≤ 0 then (hw.disablePlatform, -Errno.EIO)
  else (hw, 0)

def hwCdmDeinit (a : Answers) (hw : Hw) : Hw × Int := (hw.disablePlatform, a.disableRc)

def firstInit (cdm : Cdm) (a : Answers) (hw : Hw) : Hw × Int :=
  if cdm.isVirtual then (hw, 0)
  else
    match hwCdmInit a hw with
    | (hw, rc) =>
      if rc = 0 then
        if a.genIrqRc ≠ 0 then ((hwCdmDeinit a hw).1, a.genIrqRc) else (hw, 0)
      else (hw, rc)

/-- Stream-on under the lock: whether the client's flag is set, and the return code. -/
def switchOn (cdm : Cdm) (a : Answers) (hw : Hw) : Hw × Bool × Int :=
  if hw.openCount = 0 then
    if !cdm.isVirtual && a.enableRc ≠ 0 then (hw, false, a.enableRc)
    else
      let hw := if cdm.isVirtual then hw else { hw with platformOn := true }
      if a.cpasStartRc ≠ 0 then
        (if cdm.isVirtual then hw else hw.disablePlatform, false, a.cpasStartRc)
      else
        match firstInit cdm a { hw with cpasOn := true } with
        | (hw, rc) =>
          if rc = 0 then ({ hw with openCount := hw.openCount + 1 }, true, 0)
          else (hw.stopCpas a.cpasStop, false, rc)
  else ({ hw with openCount := hw.openCount + 1 }, true, 0)

/-- Stream-off under the lock: whether the client's flag is cleared, and the return code. -/
def switchOff (cdm : Cdm) (a : Answers) (hw : Hw) : Hw × Bool × Int :=
  if hw.openCount ≠ 0 then
    let hw := { hw with openCount := hw.openCount - 1 }
    if hw.openCount = 0 then
      match if cdm.isVirtual then (hw, 0) else hwCdmDeinit a hw with
      | (hw, rc) =>
        if rc ≠ 0 then (hw, false, rc) else (hw.stopCpas a.cpasStop, true, a.cpasStop.rc)
    else (hw, true, 0)
  else (hw, false, -Errno.ENXIO)

def streamOps (cdm : Cdm) (a : Answers) (hdl : UInt32) (operation : Bool) (s : State) :
    State × Int :=
  let i := clientIdx hdl
  match s.clients i with
  | none => (s, -Errno.EINVAL)
  | some client =>
    let s := s.getClientRefcount i
    if hdl ≠ client.handle then (s.putClientRefcount i, -Errno.EINVAL)
    else if client.streamOn = operation then (s.putClientRefcount i, -Errno.EPERM)
    else
      match if operation then switchOn cdm a s.hw else switchOff cdm a s.hw with
      | (hw, switched, rc) =>
        let s := { s with hw }
        let s := if switched then
          { s with clients := modify s.clients i fun c => { c with streamOn := operation } } else s
        (s.putClientRefcount i, rc)

def freeSlot (s : State) : Option Slot := (List.finRange 32).find? fun i => (s.clients i).isNone

def acquire (cdm : Cdm) (noMem noOps callback : Bool) (s : State) : State × Int :=
  match freeSlot s with
  | none => (s, -Errno.EINVAL)
  | some i =>
    if noMem then (s, -Errno.ENOMEM)
    else if cdm.isVirtual && noOps then (s, -Errno.EPERM)
    else
      let client : Client := ⟨createClientHandle cdm.index i, 0, false, callback, s.nextId⟩
      ({ s with clients := Function.update s.clients i (some client.get),
                nextId := s.nextId + 1 }, 0)

/-- A submission up to the wait for the CDM's lock, with a reference held on success. -/
def submitBegin (hdl : UInt32) (typeOk : Bool) (flag : Int) (s : State) : State × Int :=
  let i := clientIdx hdl
  if !typeOk then (s, -Errno.EINVAL)
  else
    match s.clients i with
    | none => (s, -Errno.EINVAL)
    | some client =>
      if hdl ≠ client.handle then (s, -Errno.EINVAL)
      else
        let s := s.getClientRefcount i
        if flag = 1 && !client.callback then (s.putClientRefcount i, -Errno.EINVAL)
        else if client.streamOn ≠ true then (s.putClientRefcount i, -Errno.EINVAL)
        else ({ s with inFlight := s.inFlight ++ [(i, client.id)] }, 0)

/-- The end of the `k`-th submission under way. -/
def submitEnd (k : ℕ) (rc : Int) (s : State) : State × Int :=
  match s.inFlight[k]? with
  | none => (s, 0)
  | some (i, id) =>
    let s := { s with inFlight := s.inFlight.eraseIdx k }
    -- the put to a client that was freed goes to memory that is no client's
    if (s.clients i).map (·.id) = some id then (s.putClientRefcount i, rc) else (s, rc)

/-- The submissions that hold a reference to the client of a slot. -/
def State.held (s : State) (i : Slot) : ℕ := s.inFlight.countP fun r => r.1 = i

def release (hdl : UInt32) (s : State) : State × Int :=
  let i := clientIdx hdl
  match s.clients i with
  | none => (s, -Errno.EINVAL)
  | some client =>
    if hdl ≠ client.handle then (s, -Errno.EINVAL)
    else
      let s := s.putClientRefcount i
      if client.put.refcount ≠ 0 then (s, -Errno.EPERM)
      else ({ s with clients := Function.update s.clients i none,
                     freed := s.freed ++ [s.inFlight.countP fun r => r = (i, client.id)] }, 0)

inductive Op
  | acquire (noMem noOps callback : Bool)
  | streamOn (hdl : UInt32) (a : Answers)
  | streamOff (hdl : UInt32) (a : Answers)
  | submitBegin (hdl : UInt32) (typeOk : Bool) (flag : Int)
  | submitEnd (k : ℕ) (rc : Int)
  | release (hdl : UInt32)
  deriving DecidableEq, Repr

def call (cdm : Cdm) (s : State) : Op → State × Int
  | .acquire noMem noOps callback => acquire cdm noMem noOps callback s
  | .streamOn hdl a => streamOps cdm a hdl true s
  | .streamOff hdl a => streamOps cdm a hdl false s
  | .submitBegin hdl typeOk flag => submitBegin hdl typeOk flag s
  | .submitEnd k rc => submitEnd k rc s
  | .release hdl => release hdl s

def step (cdm : Cdm) (s : State) (op : Op) : State := (call cdm s op).1

end CameraKernel.CdmStream
