import CameraKernel.Errno
import CameraKernel.MachineInt

/-! The request lists of an ISP context and its hardware event handlers. A request
object is a number below `ctxReqMax`, and a list is the list of the objects linked
into it. What the handlers report to the request manager, and their return codes,
which no caller reads, are left out. -/
namespace CameraKernel.Isp

def ctxReqMax : ℕ := 20
def cfgMax : ℕ := 22

inductive CtxState
  | available
  | acquired
  | ready
  | activated
  deriving DecidableEq, Repr

inductive Substate
  | sof
  | applied
  | epoch
  | bubble
  | bubbleApplied
  | hwError
  | halt
  deriving DecidableEq, Repr

/-- The substate machine that acquiring the hardware chooses. -/
inductive Machine
  | pix
  | fs2
  | rdi
  deriving DecidableEq, Repr

/-- An output fence, -1 once it is signalled. How often it was passed to
`cam_sync_signal` is not in the source: it is what the fences are judged by. -/
structure FenceMapOut where
  resourceHandle : ℕ
  syncId : ℤ
  passed : ℕ
  deriving DecidableEq, Repr

/-- A request object with its ISP part. `accepted` is not in the source: the object holds a
request that config_dev took. -/
structure Req where
  requestId : ℕ
  fenceMapOut : List FenceMapOut
  numFenceMapIn : ℕ
  numAcked : ℕ
  numCfg : ℕ
  fps : ℕ
  initPacket : Bool
  bubbleReport : Bool
  bubbleDetected : Bool
  reapply : Bool
  accepted : Bool
  deriving DecidableEq, Repr

/-- `stray` is not in the source: a write went through the head of an empty list. -/
structure Ctx where
  state : CtxState
  sessionHdl : ℤ
  devHdl : ℤ
  linkHdl : ℤ
  crmIntf : Bool
  lastFlushReq : ℕ
  free : List ℕ
  pending : List ℕ
  wait : List ℕ
  active : List ℕ
  held : Option ℕ
  req : ℕ → Req
  substate : Substate
  machine : Machine
  rdiOnly : Bool
  hwCtx : Bool
  hwAcquired : Bool
  initReceived : Bool
  frameId : ℕ
  activeReqCnt : ℤ
  processBubble : Bool
  reportedReqId : ℕ
  lastAppliedReqId : ℕ
  lastBufdoneReqId : ℕ
  fps : ℕ
  irqTimestamps : ℕ
  irqDelayDetect : Bool
  stray : Bool

def contextInit : Ctx where
  state := .available
  sessionHdl := -1
  devHdl := -1
  linkHdl := -1
  crmIntf := false
  lastFlushReq := 0
  free := List.range ctxReqMax
  pending := []
  wait := []
  active := []
  held := none
  req _ := ⟨0, [], 0, 0, 0, 0, false, false, false, false, false⟩
  substate := .sof
  machine := .pix
  rdiOnly := false
  hwCtx := false
  hwAcquired := false
  initReceived := false
  frameId := 0
  activeReqCnt := 0
  processBubble := false
  reportedReqId := 0
  lastAppliedReqId := 0
  lastBufdoneReqId := 0
  fps := 0
  irqTimestamps := 0
  irqDelayDetect := false
  stray := false

/-- Signalled, and its id reset. -/
def FenceMapOut.retire (f : FenceMapOut) : FenceMapOut :=
  if f.syncId = -1 then f else { f with syncId := -1, passed := f.passed + 1 }

/-- Signalled, and its id kept. -/
def FenceMapOut.signal (f : FenceMapOut) : FenceMapOut :=
  if f.syncId = -1 then f else { f with passed := f.passed + 1 }

/-- The end of a request that failed. -/
def Req.fail (r : Req) : Req := { r with fenceMapOut := r.fenceMapOut.map FenceMapOut.retire }

/-- The end of a request that is flushed. -/
def Req.flush (r : Req) : Req := { r.fail with reapply := false }

/-- The end of a request that is cut off. -/
def Req.cutOff (r : Req) : Req := { r with fenceMapOut := r.fenceMapOut.map FenceMapOut.signal }

def Req.recovering (r : Req) : Bool := r.bubbleDetected && r.bubbleReport

/-- The requests of a list end in turn and go to the tail of the free list. -/
def freeEach (finish : Req → Req) (c : Ctx) (l : List ℕ) : Ctx :=
  { c with
    req := fun i => if i ∈ l then finish (c.req i) else c.req i
    free := c.free ++ l }

@[simp] lemma freeEach_pending (finish : Req → Req) (c : Ctx) (l : List ℕ) :
    (freeEach finish c l).pending = c.pending := rfl

@[simp] lemma freeEach_wait (finish : Req → Req) (c : Ctx) (l : List ℕ) :
    (freeEach finish c l).wait = c.wait := rfl

@[simp] lemma freeEach_active (finish : Req → Req) (c : Ctx) (l : List ℕ) :
    (freeEach finish c l).active = c.active := rfl

def setReq (c : Ctx) (i : ℕ) (r : Req) : Ctx := { c with req := Function.update c.req i r }

/-- What the hardware layer reports. A done event names the output ports, each with what
`cam_sync_signal` answers if it is called for the port. What a read through the head of an
empty list gives is the last part of a register update. -/
inductive Event
  | error
  | sof (irqTime : ℕ)
  | regUpdate (irqTime strayFps : ℕ)
  | epoch (irqTime : ℕ)
  | eof
  | done (irqTime : ℕ) (acks : List (ℕ × ℤ))
  deriving DecidableEq, Repr

def irqLate (c : Ctx) (t : ℕ) : Bool :=
  c.frameId != 1 && c.fps != 0 && decide (MachineInt.u64Sub t c.irqTimestamps > 1000 * 1000 / c.fps)

def stampIrq (c : Ctx) (t : ℕ) : Ctx :=
  { c with irqDelayDetect := c.irqDelayDetect || irqLate c t, irqTimestamps := t }

def updateFps (c : Ctx) (fps : ℕ) : Ctx := { c with fps := if fps ≠ 0 then fps else c.fps }

def firstUnreported (c : Ctx) : Option ℕ :=
  c.active.find? fun i => decide (c.reportedReqId < (c.req i).requestId)

def report (c : Ctx) : Ctx :=
  match firstUnreported c with
  | none => c
  | some i => { c with reportedReqId := (c.req i).requestId }

def raiseReported (c : Ctx) (id : ℕ) : Ctx :=
  { c with reportedReqId := if c.reportedReqId < id then id else c.reportedReqId }

def sofInActivatedState (c : Ctx) (t : ℕ) : Ctx := stampIrq { c with frameId := c.frameId + 1 } t

/-- Back to the SOF substate when no request is active. -/
def settle (c : Ctx) : Ctx := { c with substate := if c.active = [] then .sof else c.substate }

def sofInEpoch (c : Ctx) (t : ℕ) : Ctx := settle (sofInActivatedState c t)

def rdiOnlySofInTopState (c : Ctx) : Ctx := settle { c with frameId := c.frameId + 1 }

def rdiOnlySofInAppliedState (c : Ctx) : Ctx :=
  { c with frameId := c.frameId + 1, substate := .bubbleApplied }

/-- All active requests are cut off. -/
def rdiOnlySofInBubbleState (c : Ctx) : Ctx :=
  { freeEach Req.cutOff c c.active with
    frameId := c.frameId + 1
    active := []
    activeReqCnt := c.activeReqCnt - c.active.length
    substate := .sof }

def fs2SofInSofState (c : Ctx) : Ctx :=
  let c := { c with frameId := c.frameId + 1 }
  if c.wait = [] ∧ c.crmIntf = true ∧ c.activeReqCnt ≤ 2 then report c else c

/-- A request that is found with every fence acknowledged leaves the active list here, and
the counter stays. -/
def notifySofInActivatedState (c : Ctx) : Ctx :=
  if c.crmIntf = true ∧ c.activeReqCnt ≤ 2 then
    match firstUnreported c with
    | none => c
    | some i =>
      let c := { c with reportedReqId := (c.req i).requestId }
      if (c.req i).numAcked = (c.req i).fenceMapOut.length then
        { c with active := c.active.erase i, free := c.free ++ [i] }
      else c
  else c

/-- The hardware took the first waiting request: without buffers it is complete. -/
def takeUp (c : Ctx) (i : ℕ) (rest : List ℕ) : Ctx :=
  if (c.req i).fenceMapOut.length ≠ 0 then
    { c with wait := rest, active := c.active ++ [i], activeReqCnt := c.activeReqCnt + 1 }
  else { c with wait := rest, free := c.free ++ [i] }

def regUpdInActivatedState (c : Ctx) (t : ℕ) : Ctx :=
  match c.wait with
  | [] => c
  | i :: rest => stampIrq { updateFps (takeUp c i rest) (c.req i).fps with substate := .epoch } t

def fs2RegUpdInAppliedState (c : Ctx) : Ctx :=
  match c.wait with
  | [] => c
  | i :: rest =>
    let c := { updateFps (takeUp c i rest) (c.req i).fps with substate := .epoch }
    if (c.req i).fenceMapOut.length = 1 ∧ c.crmIntf = true ∧ c.activeReqCnt ≤ 2 then report c else c

def rdiOnlyRegUpdInBubbleAppliedState (c : Ctx) : Ctx :=
  if c.crmIntf = true then
    match c.wait with
    | [] => { c with substate := .sof }
    | i :: rest =>
      let requestId :=
        if (c.req i).fenceMapOut.length = 0 ∧ (c.req i).initPacket = true then 0 else (c.req i).requestId
      { updateFps (takeUp c i rest) (c.req i).fps with
        substate := .epoch
        reportedReqId := if requestId ≠ 0 then requestId else c.reportedReqId }
  else { c with substate := .epoch }

/-- The first waiting request is unlinked, and goes to the free list only if every fence of
it is acknowledged. -/
def dropWaiting (c : Ctx) : Ctx :=
  match c.wait with
  | [] => c
  | i :: rest =>
    let freed := if (c.req i).fenceMapOut.length = (c.req i).numAcked then [i] else []
    updateFps { c with wait := rest, free := c.free ++ freed } (c.req i).fps

def regUpdInSof (c : Ctx) (t : ℕ) : Ctx :=
  if c.state ≠ .activated ∧ c.frameId > 1 then c else stampIrq (dropWaiting c) t

def fs2RegUpdInSof (c : Ctx) : Ctx :=
  if c.state ≠ .activated ∧ c.frameId > 1 then c else dropWaiting c

/-- The request is read from the active list in every branch. -/
def regUpdInEpochState (c : Ctx) (t strayFps : ℕ) : Ctx :=
  let fps := match c.active with
    | i :: _ => if c.frameId = 1 ∨ c.wait ≠ [] then (c.req i).fps else 0
    | [] => if c.wait ≠ [] then strayFps else 0
  stampIrq (updateFps c fps) t

def regUpdInHwError (c : Ctx) : Ctx := { c with substate := .sof }

/-- The first waiting request missed its register update. It becomes active, and is
recovered only if that was asked for and the request manager can be told. -/
def bubble (c : Ctx) (i : ℕ) (rest : List ℕ) : Ctx :=
  { setReq c i { c.req i with
      bubbleDetected := true, reapply := true, bubbleReport := (c.req i).bubbleReport && c.crmIntf } with
    wait := rest
    active := c.active ++ [i]
    activeReqCnt := c.activeReqCnt + 1
    substate := .bubble }

def epochInApplied (c : Ctx) (t : ℕ) : Ctx :=
  match c.wait with
  | [] => stampIrq { c with substate := .sof } t
  | i :: rest =>
    stampIrq (raiseReported { bubble c i rest with
      processBubble := ((c.req i).bubbleReport && c.crmIntf) || c.processBubble } (c.req i).requestId) t

/-- The bubble of a request that waits in the BUBBLE_APPLIED substate. -/
def bubbleAgain (c : Ctx) (i : ℕ) (rest : List ℕ) : Ctx :=
  if (c.req i).bubbleReport && c.crmIntf then bubble c i rest
  else raiseReported (bubble c i rest) (c.req i).requestId

def epochInBubbleApplied (c : Ctx) : Ctx :=
  match c.wait with
  | [] => { c with substate := .bubble }
  | i :: rest => bubbleAgain c i rest

def rdiOnlySofInBubbleApplied (c : Ctx) : Ctx :=
  let c := { c with frameId := c.frameId + 1 }
  match c.wait with
  | [] => { c with substate := .sof }
  | i :: rest => bubbleAgain c i rest

/-- The first entry with the handle is changed. -/
def changeFirst (handle : ℕ) (g : FenceMapOut → FenceMapOut) : List FenceMapOut → List FenceMapOut
  | [] => []
  | f :: fs => if f.resourceHandle = handle then g f :: fs else f :: changeFirst handle g fs

/-- One port is done. Under recovery only the count goes up; else the fence is signalled, and
keeps its id when the signal fails. -/
def ackPort (r : Req) (ack : ℕ × ℤ) : Req :=
  match r.fenceMapOut.find? fun f => f.resourceHandle == ack.1 with
  | none => r
  | some f =>
    if f.syncId = -1 then r
    else if r.recovering then { r with numAcked := r.numAcked + 1 }
    else if ack.2 = 0 then
      { r with
        numAcked := r.numAcked + 1
        fenceMapOut := changeFirst ack.1 FenceMapOut.retire r.fenceMapOut }
    else { r with fenceMapOut := changeFirst ack.1 FenceMapOut.signal r.fenceMapOut }

def ackPorts (r : Req) (acks : List (ℕ × ℤ)) : Req := acks.foldl ackPort r

/-- All ports of the first active request are done: back to the pending list under recovery,
else to the free list. -/
def finishFirst (c : Ctx) (i : ℕ) (rest : List ℕ) : Ctx :=
  if (c.req i).recovering then
    { setReq c i { c.req i with numAcked := 0, bubbleDetected := false } with
      active := rest
      activeReqCnt := c.activeReqCnt - 1
      pending := i :: c.pending
      processBubble := false }
  else
    { setReq c i { c.req i with reapply := false } with
      active := rest
      activeReqCnt := c.activeReqCnt - 1
      free := c.free ++ [i]
      lastBufdoneReqId := (c.req i).requestId }

/-- An interrupt came late, so the next active request fails as well. The counter alone says
that there is one: on an empty list the list head goes to the free list, and what the lists are
from there on is not followed. -/
def dropDelayed (c : Ctx) : Ctx :=
  if c.activeReqCnt ≠ 0 ∧ c.irqDelayDetect = true then
    match c.active with
    | [] => { c with activeReqCnt := c.activeReqCnt - 1, irqDelayDetect := false, stray := true }
    | i :: rest =>
      { freeEach Req.fail c [i] with
        active := rest, activeReqCnt := c.activeReqCnt - 1, irqDelayDetect := false }
  else { c with irqDelayDetect := false }

def handleBufDoneInActivatedState (c : Ctx) (t : ℕ) (acks : List (ℕ × ℤ)) : Ctx :=
  match c.active with
  | [] => c
  | i :: rest =>
    let r := ackPorts (c.req i) acks
    let c := setReq (stampIrq c t) i r
    if r.numAcked ≠ r.fenceMapOut.length then c else dropDelayed (finishFirst c i rest)

/-- The number in an `int64_t` with the bits of `n`. -/
def int64 (n : ℕ) : ℤ := if n < 2 ^ 63 then n else n - 2 ^ 64

/-- The bits of an `int64_t` that a request id went to through a variable of type `int`. -/
def requestIdAsInt (id : ℕ) : ℕ :=
  if id % 2 ^ 32 < 2 ^ 31 then id % 2 ^ 32 else 2 ^ 64 - 2 ^ 32 + id % 2 ^ 32

/-- The one comparison of `reported_req_id` that is signed on both sides. -/
def fs2BufDone (c : Ctx) (t : ℕ) (acks : List (ℕ × ℤ)) : Ctx :=
  match c.active with
  | [] => c
  | i :: _ =>
    let d := handleBufDoneInActivatedState c t acks
    let id := requestIdAsInt (c.req i).requestId
    if c.activeReqCnt = d.activeReqCnt + 1 ∧ d.wait = [] ∧ d.active = [] then
      { d with
        substate := .sof
        reportedReqId := if int64 d.reportedReqId < int64 id then id else d.reportedReqId }
    else d

def unrecoverable (c : Ctx) (l : List ℕ) : List ℕ := l.takeWhile fun i => !(c.req i).bubbleReport

def recoverable (c : Ctx) (l : List ℕ) : List ℕ := l.dropWhile fun i => !(c.req i).bubbleReport

lemma unrecoverable_append (c : Ctx) (l : List ℕ) : unrecoverable c l ++ recoverable c l = l :=
  List.takeWhile_append_dropWhile

/-- The active requests in front of the first to recover fail. -/
def failActive (c : Ctx) : Ctx :=
  { freeEach Req.fail c (unrecoverable c c.active) with
    active := recoverable c c.active
    activeReqCnt := c.activeReqCnt - (unrecoverable c c.active).length }

/-- The same for the waiting requests, counter included. -/
def failWait (c : Ctx) : Ctx :=
  { freeEach Req.fail c (unrecoverable c c.wait) with
    wait := recoverable c c.wait
    activeReqCnt := c.activeReqCnt - (unrecoverable c c.wait).length }

/-- Every active request goes to the head of the pending list, and then every waiting one. -/
def moveToPending (c : Ctx) : Ctx :=
  { c with
    pending := c.wait ++ (c.active ++ c.pending)
    active := []
    wait := []
    activeReqCnt := c.activeReqCnt - c.active.length - c.wait.length }

/-- Pending requests fail up to the first to recover, or to the last that was applied. -/
def failPending : Ctx → List ℕ → Ctx
  | c, [] => { c with pending := [] }
  | c, i :: rest =>
    if (c.req i).bubbleReport then { c with pending := i :: rest }
    else if (c.req i).requestId < c.lastAppliedReqId then failPending (freeEach Req.fail c [i]) rest
    else { freeEach Req.fail c [i] with pending := rest }

def failApplied (c : Ctx) : Ctx :=
  if c.active = [] ∧ c.wait = [] then c
  else
    let c := failActive c
    if c.active ≠ [] then moveToPending c
    else
      let c := failWait c
      if c.wait ≠ [] then moveToPending c else c

def handleError (c : Ctx) : Ctx :=
  let c := failApplied c
  let c := failPending c c.pending
  { c with substate := if c.crmIntf then .hwError else c.substate }

def pixIrq (c : Ctx) : Event → Ctx
  | .error => match c.substate with
    | .hwError | .halt => c
    | _ => handleError c
  | .sof t => match c.substate with
    | .epoch => sofInEpoch c t
    | .halt => c
    | _ => sofInActivatedState c t
  | .regUpdate t strayFps => match c.substate with
    | .sof => regUpdInSof c t
    | .applied | .bubbleApplied => regUpdInActivatedState c t
    | .epoch => regUpdInEpochState c t strayFps
    | .hwError => regUpdInHwError c
    | _ => c
  | .epoch t => match c.substate with
    | .sof | .epoch | .bubble => notifySofInActivatedState c
    | .applied => epochInApplied c t
    | .bubbleApplied => epochInBubbleApplied c
    | _ => c
  | .eof => c
  | .done t acks => match c.substate with
    | .applied | .epoch | .bubble | .bubbleApplied => handleBufDoneInActivatedState c t acks
    | _ => c

/-- As the PIX machine, but for the SOF substate and the APPLIED and EPOCH substates' register
update and buffer done. -/
def fs2Irq (c : Ctx) (e : Event) : Ctx :=
  match c.substate, e with
  | .sof, .sof _ => fs2SofInSofState c
  | .sof, .regUpdate _ _ => fs2RegUpdInSof c
  | .sof, .epoch _ => fs2SofInSofState c
  | .applied, .regUpdate _ _ => fs2RegUpdInAppliedState c
  | .applied, .done t acks => fs2BufDone c t acks
  | .epoch, .done t acks => fs2BufDone c t acks
  | _, e => pixIrq c e

def rdiOnlyIrq (c : Ctx) : Event → Ctx
  | .error => match c.substate with
    | .applied | .epoch | .bubble | .bubbleApplied => handleError c
    | _ => c
  | .sof _ => match c.substate with
    | .sof | .epoch => rdiOnlySofInTopState c
    | .applied => rdiOnlySofInAppliedState c
    | .bubble => rdiOnlySofInBubbleState c
    | .bubbleApplied => rdiOnlySofInBubbleApplied c
    | _ => c
  | .regUpdate t _ => match c.substate with
    | .sof => regUpdInSof c t
    | .bubbleApplied => rdiOnlyRegUpdInBubbleAppliedState c
    | _ => c
  | .epoch _ => c
  | .eof => c
  | .done t acks => match c.substate with
    | .applied | .epoch | .bubble | .bubbleApplied => handleBufDoneInActivatedState c t acks
    | _ => c

def handleIrqInActivated (c : Ctx) (e : Event) : Ctx :=
  match c.machine with
  | .pix => pixIrq c e
  | .fs2 => fs2Irq c e
  | .rdi => rdiOnlyIrq c e

/-- The error handler is installed. -/
def handlesError (c : Ctx) : Bool :=
  match c.machine, c.substate with
  | _, .hwError | _, .halt | .rdi, .sof => false
  | _, _ => true

/-- The epoch event is handled as the start of a frame. -/
def notifiesSof (c : Ctx) : Bool :=
  match c.machine, c.substate with
  | .pix, .sof | .pix, .epoch | .pix, .bubble | .fs2, .epoch | .fs2, .bubble => true
  | _, _ => false

/-- The buffer done handler is installed. -/
def handlesDone (c : Ctx) : Bool :=
  match c.substate with
  | .applied | .epoch | .bubble | .bubbleApplied => true
  | _ => false

/-- The first active request has all ports done. -/
def doneCompletes (c : Ctx) (acks : List (ℕ × ℤ)) : Bool :=
  c.active.head?.any fun i =>
    (ackPorts (c.req i) acks).numAcked == (ackPorts (c.req i) acks).fenceMapOut.length

/-- The counter points past the end of the active list. -/
def straysAfter (c : Ctx) (t : ℕ) : Bool :=
  c.active.length == 1 && c.activeReqCnt != 1 && (c.irqDelayDetect || irqLate c t)

/-- All that an event can do to the context. -/
inductive Handled (c : Ctx) : Event → Ctx → Prop
  | ignored (e) : Handled c e c
  | error (h : handlesError c = true) : Handled c .error (handleError c)
  | sof (t) : Handled c (.sof t) (sofInActivatedState c t)
  | sofInEpoch (t) : Handled c (.sof t) (sofInEpoch c t)
  | sofInTop (t) : Handled c (.sof t) (rdiOnlySofInTopState c)
  | sofInApplied (t) : Handled c (.sof t) (rdiOnlySofInAppliedState c)
  | sofInBubble (t) (h : c.machine = .rdi) : Handled c (.sof t) (rdiOnlySofInBubbleState c)
  | sofInBubbleApplied (t) : Handled c (.sof t) (rdiOnlySofInBubbleApplied c)
  | sofInSof (t) : Handled c (.sof t) (fs2SofInSofState c)
  | epochInSof (t) : Handled c (.epoch t) (fs2SofInSofState c)
  | notifySof (t) (h : notifiesSof c = true) : Handled c (.epoch t) (notifySofInActivatedState c)
  | epochInApplied (t) (h : c.machine ≠ .rdi) : Handled c (.epoch t) (epochInApplied c t)
  | epochInBubbleApplied (t) : Handled c (.epoch t) (epochInBubbleApplied c)
  | regUpdInSof (t s) (h : c.substate = .sof) : Handled c (.regUpdate t s) (regUpdInSof c t)
  | fs2RegUpdInSof (t s) (h : c.substate = .sof) : Handled c (.regUpdate t s) (fs2RegUpdInSof c)
  | regUpd (t s) : Handled c (.regUpdate t s) (regUpdInActivatedState c t)
  | fs2RegUpd (t s) : Handled c (.regUpdate t s) (fs2RegUpdInAppliedState c)
  | rdiOnlyRegUpd (t s) (h : c.machine = .rdi) :
      Handled c (.regUpdate t s) (rdiOnlyRegUpdInBubbleAppliedState c)
  | regUpdInEpoch (t s) : Handled c (.regUpdate t s) (regUpdInEpochState c t s)
  | regUpdInHwError (t s) : Handled c (.regUpdate t s) (regUpdInHwError c)
  | done (t acks) (h : handlesDone c = true) :
      Handled c (.done t acks) (handleBufDoneInActivatedState c t acks)
  | fs2Done (t acks) (h : handlesDone c = true) : Handled c (.done t acks) (fs2BufDone c t acks)

lemma pixIrq_handled {c : Ctx} (h : c.machine = .pix) (e : Event) : Handled c e (pixIrq c e) := by
  cases e <;> cases hs : c.substate <;> simp only [pixIrq, hs] <;> constructor <;>
    simp [handlesError, notifiesSof, handlesDone, h, hs]

lemma fs2Irq_handled {c : Ctx} (h : c.machine = .fs2) (e : Event) : Handled c e (fs2Irq c e) := by
  cases e <;> cases hs : c.substate <;> simp only [fs2Irq, pixIrq, hs] <;> constructor <;>
    simp [handlesError, notifiesSof, handlesDone, h, hs]

lemma rdiOnlyIrq_handled {c : Ctx} (h : c.machine = .rdi) (e : Event) :
    Handled c e (rdiOnlyIrq c e) := by
  cases e <;> cases hs : c.substate <;> simp only [rdiOnlyIrq, hs] <;> constructor <;>
    simp [handlesError, handlesDone, h, hs]

theorem handleIrqInActivated_handled (c : Ctx) (e : Event) :
    Handled c e (handleIrqInActivated c e) := by
  rw [handleIrqInActivated]
  cases h : c.machine with
  | pix => exact pixIrq_handled h e
  | fs2 => exact fs2Irq_handled h e
  | rdi => exact rdiOnlyIrq_handled h e

/-! ### What no event changes -/

/-- The fields that belong to the calls: who the context is for, and what it has acquired. -/
structure Top where
  state : CtxState
  sessionHdl : ℤ
  devHdl : ℤ
  linkHdl : ℤ
  crmIntf : Bool
  lastFlushReq : ℕ
  held : Option ℕ
  machine : Machine
  rdiOnly : Bool
  hwCtx : Bool
  hwAcquired : Bool
  initReceived : Bool

def Ctx.top (c : Ctx) : Top :=
  ⟨c.state, c.sessionHdl, c.devHdl, c.linkHdl, c.crmIntf, c.lastFlushReq, c.held, c.machine, c.rdiOnly,
    c.hwCtx, c.hwAcquired, c.initReceived⟩

lemma stampIrq_top (c : Ctx) (t : ℕ) : (stampIrq c t).top = c.top := rfl

lemma updateFps_top (c : Ctx) (fps : ℕ) : (updateFps c fps).top = c.top := rfl

lemma raiseReported_top (c : Ctx) (id : ℕ) : (raiseReported c id).top = c.top := rfl

lemma bubble_top (c : Ctx) (i : ℕ) (rest : List ℕ) : (bubble c i rest).top = c.top := rfl

lemma settled_top (c : Ctx) (substate : Substate) (id : ℕ) :
    ({ c with substate := substate, reportedReqId := id } : Ctx).top = c.top := rfl

lemma report_top (c : Ctx) : (report c).top = c.top := by
  unfold report
  split <;> rfl

lemma takeUp_top (c : Ctx) (i : ℕ) (rest : List ℕ) : (takeUp c i rest).top = c.top := by
  unfold takeUp
  split <;> rfl

lemma bubbleAgain_top (c : Ctx) (i : ℕ) (rest : List ℕ) :
    (bubbleAgain c i rest).top = c.top := by
  unfold bubbleAgain
  split
  · exact bubble_top c i rest
  · exact (raiseReported_top _ _).trans (bubble_top c i rest)

lemma dropWaiting_top (c : Ctx) : (dropWaiting c).top = c.top := by
  unfold dropWaiting
  split <;> rfl

lemma finishFirst_top (c : Ctx) (i : ℕ) (rest : List ℕ) :
    (finishFirst c i rest).top = c.top := by
  unfold finishFirst
  split <;> rfl

lemma dropDelayed_top (c : Ctx) : (dropDelayed c).top = c.top := by
  unfold dropDelayed
  split
  · split <;> rfl
  · rfl

lemma handleBufDone_top (c : Ctx) (t : ℕ) (acks : List (ℕ × ℤ)) :
    (handleBufDoneInActivatedState c t acks).top = c.top := by
  unfold handleBufDoneInActivatedState
  split
  · rfl
  · dsimp only
    split
    · rfl
    · exact (dropDelayed_top _).trans (finishFirst_top _ _ _)

/-- An error handles the lists, their requests and the counter, and nothing else. -/
structure ErrorKeeps (c d : Ctx) : Prop where
  top : d.top = c.top
  processBubble : d.processBubble = c.processBubble
  reportedReqId : d.reportedReqId = c.reportedReqId
  stray : d.stray = c.stray

lemma ErrorKeeps.refl (c : Ctx) : ErrorKeeps c c := ⟨rfl, rfl, rfl, rfl⟩

lemma ErrorKeeps.trans {c d e : Ctx} (h : ErrorKeeps c d) (h' : ErrorKeeps d e) : ErrorKeeps c e :=
  ⟨h'.top.trans h.top, h'.processBubble.trans h.processBubble, h'.reportedReqId.trans h.reportedReqId,
    h'.stray.trans h.stray⟩

lemma freeEach_errorKeeps (finish : Req → Req) (c : Ctx) (l : List ℕ) :
    ErrorKeeps c (freeEach finish c l) := ⟨rfl, rfl, rfl, rfl⟩

lemma failActive_errorKeeps (c : Ctx) : ErrorKeeps c (failActive c) := ⟨rfl, rfl, rfl, rfl⟩

lemma failWait_errorKeeps (c : Ctx) : ErrorKeeps c (failWait c) := ⟨rfl, rfl, rfl, rfl⟩

lemma moveToPending_errorKeeps (c : Ctx) : ErrorKeeps c (moveToPending c) := ⟨rfl, rfl, rfl, rfl⟩

lemma failPending_errorKeeps (c : Ctx) (l : List ℕ) : ErrorKeeps c (failPending c l) := by
  induction l generalizing c with
  | nil => exact ⟨rfl, rfl, rfl, rfl⟩
  | cons i rest ih =>
    unfold failPending
    split
    · exact ⟨rfl, rfl, rfl, rfl⟩
    · split
      · exact (freeEach_errorKeeps _ c [i]).trans (ih _)
      · exact ⟨rfl, rfl, rfl, rfl⟩

lemma failApplied_errorKeeps (c : Ctx) : ErrorKeeps c (failApplied c) := by
  have hactive := failActive_errorKeeps c
  have hwait := hactive.trans (failWait_errorKeeps _)
  unfold failApplied
  dsimp only
  split_ifs
  · exact .refl c
  · exact hactive.trans (moveToPending_errorKeeps _)
  · exact hwait.trans (moveToPending_errorKeeps _)
  · exact hwait

lemma handleError_errorKeeps (c : Ctx) : ErrorKeeps c (handleError c) :=
  ((failApplied_errorKeeps c).trans (failPending_errorKeeps _ _)).trans ⟨rfl, rfl, rfl, rfl⟩

lemma takenUp_top (c : Ctx) (i fps id : ℕ) (rest : List ℕ) (substate : Substate) :
    ({ updateFps (takeUp c i rest) fps with substate := substate, reportedReqId := id } : Ctx).top =
      c.top :=
  (settled_top _ _ _).trans ((updateFps_top _ _).trans (takeUp_top c i rest))

lemma handled_top {c d : Ctx} {e : Event} (h : Handled c e d) : d.top = c.top := by
  cases h with
  | ignored | sof | sofInEpoch | sofInTop | sofInApplied | sofInBubble | regUpdInEpoch
  | regUpdInHwError => rfl
  | error => exact (handleError_errorKeeps c).top
  | sofInBubbleApplied =>
    unfold rdiOnlySofInBubbleApplied
    dsimp only
    split
    · rfl
    · exact bubbleAgain_top _ _ _
  | sofInSof | epochInSof =>
    unfold fs2SofInSofState
    dsimp only
    split
    · exact report_top _
    · rfl
  | notifySof =>
    unfold notifySofInActivatedState
    split
    · split
      · rfl
      · dsimp only
        split <;> rfl
    · rfl
  | epochInApplied t =>
    unfold epochInApplied
    split
    · exact stampIrq_top _ t
    · rename_i i rest hwait
      exact (stampIrq_top _ t).trans ((raiseReported_top _ _).trans (bubble_top c i rest))
  | epochInBubbleApplied =>
    unfold epochInBubbleApplied
    split
    · rfl
    · exact bubbleAgain_top _ _ _
  | regUpdInSof t =>
    unfold regUpdInSof
    split
    · rfl
    · exact (stampIrq_top _ t).trans (dropWaiting_top c)
  | fs2RegUpdInSof =>
    unfold fs2RegUpdInSof
    split
    · rfl
    · exact dropWaiting_top _
  | regUpd t =>
    unfold regUpdInActivatedState
    split
    · rfl
    · exact (stampIrq_top _ t).trans (takenUp_top c _ _ _ _ _)
  | fs2RegUpd =>
    unfold fs2RegUpdInAppliedState
    split
    · rfl
    · dsimp only
      split
      · exact (report_top _).trans (takenUp_top c _ _ _ _ _)
      · exact takenUp_top c _ _ _ _ _
  | rdiOnlyRegUpd =>
    unfold rdiOnlyRegUpdInBubbleAppliedState
    split
    · split
      · rfl
      · exact takenUp_top c _ _ _ _ _
    · rfl
  | done t acks => exact handleBufDone_top _ _ _
  | fs2Done t acks =>
    unfold fs2BufDone
    split
    · rfl
    · dsimp only
      split <;> exact handleBufDone_top _ _ _

lemma handled_state {c d : Ctx} {e : Event} (h : Handled c e d) : d.state = c.state :=
  congrArg Top.state (handled_top h)

end CameraKernel.Isp
