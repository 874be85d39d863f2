import CameraKernel.IspContext
import CameraKernel.Transition

/-! What user space and the request manager ask of an ISP context, and its runs. All of it
happens under `ctx_mutex`, so only hardware events fall between the two halves of
config_dev. What the hardware layer answers is part of a request. -/
namespace CameraKernel.Isp

inductive PacketOp
  | initDev
  | updateDev
  | other
  deriving DecidableEq, Repr

/-- A packet with what is found when it is read: whether the command buffer holds it, the
answer of `hw_prepare_update` and what it fills in, which fences are live, and the answer of
`add_req`. -/
structure Packet where
  readable : Bool
  opCode : PacketOp
  requestId : ℕ
  prepareRc : ℤ
  numCfg : ℕ
  fps : ℕ
  mapOut : List (ℕ × ℤ)
  numMapIn : ℕ
  syncActive : ℤ → Bool
  addReqRc : ℤ

def syncMaxObjs : ℤ := 1024

/-- `cam_sync_get_obj_ref`. -/
def syncGetObjRef (syncActive : ℤ → Bool) (obj : ℤ) : ℤ :=
  if obj ≥ syncMaxObjs ∨ obj ≤ 0 then -Errno.EINVAL
  else if syncActive obj then 0 else -Errno.EINVAL

/-- The object as the prepared packet fills it in. The bubble flag is not touched. -/
def fillReq (r : Req) (p : Packet) : Req :=
  { r with
    numCfg := p.numCfg
    fenceMapOut := p.mapOut.map fun m => ⟨m.1, m.2, 0⟩
    numFenceMapIn := p.numMapIn
    numAcked := 0
    bubbleDetected := false
    fps := p.fps
    initPacket := p.opCode == .initDev
    requestId := p.requestId }

/-- From the tail past every younger request. -/
def insertInOrder (c : Ctx) (i : ℕ) : List ℕ :=
  let younger := fun j => decide ((c.req i).requestId < (c.req j).requestId)
  c.pending.rdropWhile younger ++ i :: c.pending.rtakeWhile younger

def enqueueRequestInOrder (c : Ctx) (i : ℕ) : Ctx := { c with pending := insertInOrder c i }

/-- A second INIT packet is merged into the first, whose object takes over its fences and id. -/
def mergeInit (c : Ctx) (old i : ℕ) : Ctx :=
  { setReq c old { c.req old with
      fenceMapOut := (c.req i).fenceMapOut
      numFenceMapIn := (c.req i).numFenceMapIn
      numCfg := (c.req old).numCfg + (c.req i).numCfg
      requestId := (c.req i).requestId } with
    free := c.free ++ [i] }

inductive InitEnqueued
  | added (c : Ctx)
  | merged (c : Ctx)
  | rejected (rc : ℤ)

def enqueueInitRequest (c : Ctx) (i : ℕ) : InitEnqueued :=
  match c.pending with
  | [] => .added { c with pending := [i] }
  | old :: _ =>
    if (c.req old).initPacket = false then .rejected (-Errno.EINVAL)
    else if (c.req old).fenceMapOut.length ≠ 0 ∨ (c.req old).numFenceMapIn ≠ 0 then
      .rejected (-Errno.EINVAL)
    else if (c.req old).numCfg + (c.req i).numCfg ≥ cfgMax then .rejected (-Errno.ENOMEM)
    else .merged (mergeInit c old i)

def acceptReq (c : Ctx) (i : ℕ) : Ctx := setReq c i { c.req i with accepted := true }

def freeReq (c : Ctx) (i : ℕ) : Ctx := { c with free := c.free ++ [i] }

/-- The first half of config_dev: a free request object. -/
def takeFreeReq (c : Ctx) : ℤ × Ctx :=
  match c.free with
  | [] => (-Errno.ENOMEM, c)
  | i :: rest => (0, setReq { c with free := rest, held := some i } i { c.req i with accepted := false })

/-- The packet's request is queued, or its object freed. -/
def queueReq (c : Ctx) (i : ℕ) (p : Packet) : ℤ × Ctx :=
  if p.opCode = .initDev then
    if c.state ≠ .activated then
      match enqueueInitRequest c i with
      | .added c => (0, { acceptReq c i with initReceived := true })
      | .merged c => (0, { c with initReceived := true })
      | .rejected rc => (rc, { freeReq c i with initReceived := true })
    else (-Errno.EINVAL, freeReq c i)
  else if c.state = .ready ∨ c.state = .activated then
    if p.addReqRc ≠ 0 then (p.addReqRc, freeReq c i)
    else (0, enqueueRequestInOrder (acceptReq c i) i)
  else (-Errno.EINVAL, freeReq c i)

/-- The second half. An update that is not newer than the last flush is refused. -/
def configDevInTopState (c : Ctx) (i : ℕ) (p : Packet) : ℤ × Ctx :=
  let c := { c with held := none }
  if p.readable = false then (-Errno.EINVAL, freeReq c i)
  else if p.opCode = .updateDev ∧ p.requestId ≤ c.lastFlushReq then (-Errno.EINVAL, freeReq c i)
  else if p.prepareRc ≠ 0 then (-Errno.EFAULT, freeReq c i)
  else
    let c := setReq c i (fillReq (c.req i) p)
    if p.mapOut.any fun m => decide (syncGetObjRef p.syncActive m.2 ≠ 0) then
      (-Errno.EINVAL, freeReq c i)
    else queueReq c i p

/-- In the acquired state the first configuration makes a linked context ready. -/
def configDev (c : Ctx) (i : ℕ) (p : Packet) : ℤ × Ctx :=
  let out := configDevInTopState c i p
  if c.state = .acquired ∧ out.1 = 0 ∧ c.linkHdl ≥ 0 then (out.1, { out.2 with state := .ready })
  else out

/-- The context once the held object is filled in. -/
def filled (c : Ctx) (i : ℕ) (p : Packet) : Ctx :=
  setReq { c with held := none } i (fillReq (c.req i) p)

def RefsTaken (p : Packet) : Prop := ∀ m ∈ p.mapOut, syncGetObjRef p.syncActive m.2 = 0

def InitEnqueued.isMerged : InitEnqueued → Bool
  | .merged _ => true
  | _ => false

/-- The packet held by config_dev is an INIT packet that is merged into another. -/
def mergesInit (c : Ctx) (i : ℕ) (p : Packet) : Bool :=
  p.opCode == .initDev && c.state != .activated && p.readable && p.prepareRc == 0 &&
    (p.mapOut.all fun m => syncGetObjRef p.syncActive m.2 == 0) &&
    (enqueueInitRequest (filled c i p) i).isMerged

/-- All that the second half of config_dev can do, but for the step from the acquired to the
ready state. -/
inductive Configured (c : Ctx) (i : ℕ) (p : Packet) : Ctx → Prop
  | rejected (r : Req) (b : Bool) (h : r.accepted = (c.req i).accepted) :
      Configured c i p { freeReq (setReq { c with held := none } i r) i with initReceived := b }
  | initAdded (hrefs : RefsTaken p) (hpending : c.pending = []) :
      Configured c i p { acceptReq { filled c i p with pending := [i] } i with initReceived := true }
  | initMerged (hrefs : RefsTaken p) (hmerges : mergesInit c i p = true) (old : ℕ) (rest : List ℕ)
      (hpending : c.pending = old :: rest) (hfences : ((filled c i p).req old).fenceMapOut = []) :
      Configured c i p { mergeInit (filled c i p) old i with initReceived := true }
  | queued (hrefs : RefsTaken p) :
      Configured c i p (enqueueRequestInOrder (acceptReq (filled c i p) i) i)

lemma freeReq_configured (c : Ctx) (i : ℕ) (p : Packet) :
    Configured c i p (freeReq { c with held := none } i) := by
  have h := Configured.rejected (p := p) (c.req i) c.initReceived rfl
  rwa [setReq, Function.update_eq_self] at h

lemma queueReq_configured {c : Ctx} {i : ℕ} {p : Packet} (hrefs : RefsTaken p)
    (hread : p.readable = true) (hprepare : p.prepareRc = 0) :
    Configured c i p (queueReq (filled c i p) i p).2 := by
  have hfree := Configured.rejected (c := c) (p := p) (fillReq (c.req i) p) c.initReceived rfl
  unfold queueReq
  split
  · rename_i hop
    split
    · rename_i hidle
      have hmerges (d : Ctx) (hd : enqueueInitRequest (filled c i p) i = .merged d) :
          mergesInit c i p = true := by
        have hstate : c.state ≠ .activated := hidle
        have hall : (p.mapOut.all fun m => syncGetObjRef p.syncActive m.2 == 0) = true := by
          simpa [RefsTaken] using hrefs
        simp [mergesInit, hop, hstate, hread, hprepare, hall, hd, InitEnqueued.isMerged]
      revert hmerges
      unfold enqueueInitRequest
      cases hpending : c.pending with
      | nil =>
        rw [show (filled c i p).pending = [] from hpending]
        intro hmerges
        exact .initAdded hrefs hpending
      | cons old rest =>
        rw [show (filled c i p).pending = old :: rest from hpending]
        dsimp only
        split_ifs with hinit hmap hcfg
        · intro hmerges
          exact .rejected (fillReq (c.req i) p) true rfl
        · intro hmerges
          exact .rejected (fillReq (c.req i) p) true rfl
        · intro hmerges
          exact .rejected (fillReq (c.req i) p) true rfl
        · intro hmerges
          push Not at hmap
          exact .initMerged hrefs (hmerges _ rfl) old rest hpending (List.length_eq_zero_iff.mp hmap.1)
    · exact hfree
  · split
    · split
      · exact hfree
      · exact .queued hrefs
    · exact hfree

theorem configDevInTopState_configured (c : Ctx) (i : ℕ) (p : Packet) :
    Configured c i p (configDevInTopState c i p).2 := by
  unfold configDevInTopState
  dsimp only
  split_ifs with hread hflush hprepare hrefs
  · exact freeReq_configured c i p
  · exact freeReq_configured c i p
  · exact freeReq_configured c i p
  · exact .rejected (fillReq (c.req i) p) c.initReceived rfl
  · apply queueReq_configured
    · simpa [RefsTaken] using hrefs
    · simpa using hread
    · simpa using hprepare

lemma configured_eq {c d : Ctx} {i : ℕ} {p : Packet} (h : Configured c i p d) :
    ∃ free pending req initReceived, d = { c with
      held := none
      free := free
      pending := pending
      req := req
      initReceived := initReceived } := by
  cases h with
  | rejected | initAdded | initMerged | queued =>
    simp only [freeReq, acceptReq, mergeInit, enqueueRequestInOrder, filled, setReq]
    exact ⟨_, _, _, _, rfl⟩

lemma configured_active {c d : Ctx} {i : ℕ} {p : Packet} (h : Configured c i p d) :
    d.active = c.active ∧ d.wait = c.wait ∧ d.activeReqCnt = c.activeReqCnt ∧ d.state = c.state := by
  obtain ⟨free, pending, req, initReceived, rfl⟩ := configured_eq h
  exact ⟨rfl, rfl, rfl, rfl⟩

def beginConfigDev (c : Ctx) : ℤ × Ctx :=
  match c.state with
  | .available => (-Errno.EPROTO, c)
  | .acquired => if c.hwAcquired = false then (-Errno.EINVAL, c) else takeFreeReq c
  | .ready | .activated => takeFreeReq c

structure ApplyReq where
  requestId : ℕ
  reportIfBubble : Bool
  hwConfigRc : ℤ
  deriving DecidableEq, Repr

def applyReqInActivatedState (c : Ctx) (a : ApplyReq) (next : Substate) : ℤ × Ctx :=
  match c.pending with
  | [] => (-Errno.EFAULT, c)
  | i :: rest =>
    if c.processBubble then (-Errno.EAGAIN, c)
    else if (c.req i).requestId ≠ a.requestId then
      if (c.lastAppliedReqId + 1) % 2 ^ 64 ≠ (c.req i).requestId then
        (0, { c with lastAppliedReqId := a.requestId })
      else (-Errno.EFAULT, c)
    else
      let c := setReq c i { c.req i with bubbleReport := a.reportIfBubble }
      if a.hwConfigRc ≠ 0 then (a.hwConfigRc, c)
      else
        (0, { c with
              substate := next
              lastAppliedReqId := a.requestId
              pending := rest
              wait := c.wait ++ [i] })

def applyReq (c : Ctx) (a : ApplyReq) : ℤ × Ctx :=
  match c.machine, c.substate with
  | _, .sof | _, .epoch => applyReqInActivatedState c a .applied
  | .pix, .bubble | .fs2, .bubble => applyReqInActivatedState c a .bubbleApplied
  | _, _ => (-Errno.EFAULT, c)

inductive FlushType
  | all
  | cancelReq
  deriving DecidableEq, Repr

structure FlushReq where
  type : FlushType
  reqId : ℕ
  hwResetRc : ℤ
  hwStartRc : ℤ
  deriving DecidableEq, Repr

def isCancelled (c : Ctx) (f : FlushReq) (i : ℕ) : Bool := (c.req i).requestId == f.reqId

def flushed (c : Ctx) (f : FlushReq) (l : List ℕ) : List ℕ :=
  match f.type with
  | .all => l
  | .cancelReq => (l.find? (isCancelled c f)).toList

def unflushed (c : Ctx) (f : FlushReq) (l : List ℕ) : List ℕ :=
  match f.type with
  | .all => []
  | .cancelReq => l.eraseP (isCancelled c f)

def flushRc (f : FlushReq) (l : List ℕ) : ℤ :=
  if l = [] ∧ f.type = .cancelReq then -Errno.EINVAL else 0

def flushPending (c : Ctx) (f : FlushReq) : Ctx :=
  { freeEach Req.flush c (flushed c f c.pending) with pending := unflushed c f c.pending }

/-- What flush ALL does once the hardware is stopped and reset. -/
def flushApplied (c : Ctx) (f : FlushReq) : Ctx :=
  { freeEach Req.flush c (flushed c f c.wait ++ flushed c f c.active) with
    wait := unflushed c f c.wait
    active := unflushed c f c.active
    activeReqCnt := 0 }

/-- The id of the last flush is kept in 32 bits. -/
def recordFlush (c : Ctx) (f : FlushReq) : Ctx :=
  { c with lastFlushReq := if f.type = .all then f.reqId % 2 ^ 32 else c.lastFlushReq }

/-- The substate is reset on every path. -/
def flushReqInTopState (c : Ctx) (f : FlushReq) : ℤ × Ctx :=
  let rc := flushRc f c.pending
  let c : Ctx := { flushPending (recordFlush c f) f with processBubble := false }
  if f.type = .cancelReq ∨ (c.wait = [] ∧ c.active = []) then (rc, { c with substate := .sof })
  else if f.hwResetRc ≠ 0 then (f.hwResetRc, { c with substate := .sof })
  else (f.hwStartRc, { flushApplied c f with substate := .sof })

def flushReqInReady (c : Ctx) (f : FlushReq) : ℤ × Ctx :=
  let d := flushPending c f
  (flushRc f c.pending, { d with state := if d.pending = [] then .acquired else d.state })

def flushReq (c : Ctx) (f : FlushReq) : ℤ × Ctx :=
  match c.state with
  | .available => (-Errno.EPROTO, c)
  | .ready => flushReqInReady c f
  | .acquired | .activated => flushReqInTopState c f

structure StartCmd where
  sessionHandle : ℤ
  devHandle : ℤ
  hwStartRc : ℤ
  deriving DecidableEq, Repr

def startSubstate (c : Ctx) (r : Req) : Substate :=
  if c.rdiOnly then .applied else if r.fenceMapOut.length ≠ 0 then .epoch else .sof

def startDevInReady (c : Ctx) (cmd : StartCmd) : ℤ × Ctx :=
  if cmd.sessionHandle ≠ c.sessionHdl ∨ cmd.devHandle ≠ c.devHdl then (-Errno.EPERM, c)
  else match c.pending with
  | [] => (-Errno.EFAULT, c)
  | i :: rest =>
    if c.hwCtx = false then (-Errno.EFAULT, c)
    else
      let c := { c with
        processBubble := false
        frameId := 0
        activeReqCnt := 0
        reportedReqId := 0
        substate := startSubstate c (c.req i) }
      if cmd.hwStartRc ≠ 0 then (cmd.hwStartRc, c)
      else if (c.req i).fenceMapOut.length ≠ 0 then
        (0, { c with
              state := .activated
              pending := rest
              active := c.active ++ [i]
              activeReqCnt := c.activeReqCnt + 1 })
      else (0, { c with state := .activated, pending := rest, wait := c.wait ++ [i] })

def unlinkInReady (c : Ctx) : Ctx := { c with linkHdl := -1, crmIntf := false, state := .acquired }

/-- `cmd` says whether there is a stop command; without one the context is unlinked too. -/
def stopDevInActivatedUnlock (c : Ctx) (cmd : Bool) : Ctx :=
  let d := { freeEach Req.cutOff c (c.pending ++ c.wait ++ c.active) with
    substate := .halt
    pending := []
    wait := []
    active := []
    frameId := 0
    activeReqCnt := 0
    reportedReqId := 0
    lastAppliedReqId := 0
    lastBufdoneReqId := 0
    processBubble := false }
  if cmd then d else unlinkInReady d

def stopDevInActivated (c : Ctx) : Ctx :=
  { stopDevInActivatedUnlock c true with initReceived := false, state := .acquired }

/-- An acquiring call: whether its arguments pass, and the answers of the hardware manager. -/
structure AcquireCmd where
  sessionHandle : ℤ
  splitAcquire : Bool
  argsRc : ℤ
  hwAcquireRc : ℤ
  hwCmdRc : ℤ
  ctxType : Machine
  devHdl : ℤ
  deriving DecidableEq, Repr

def acquireHw (c : Ctx) (ctxType : Machine) : Ctx :=
  { c with machine := ctxType, rdiOnly := c.rdiOnly || ctxType == .rdi, hwCtx := true, hwAcquired := true }

def freeHw (c : Ctx) : Ctx := { c with hwCtx := false, hwAcquired := false }

def acquireDevHandle (c : Ctx) (cmd : AcquireCmd) : ℤ × Ctx :=
  if cmd.devHdl ≤ 0 then (-Errno.EFAULT, freeHw { c with devHdl := cmd.devHdl })
  else (0, { c with devHdl := cmd.devHdl, sessionHdl := cmd.sessionHandle, state := .acquired })

def acquireDevInAvailable (c : Ctx) (cmd : AcquireCmd) : ℤ × Ctx :=
  if cmd.splitAcquire then acquireDevHandle c cmd
  else if cmd.argsRc ≠ 0 then (cmd.argsRc, c)
  else if cmd.hwAcquireRc ≠ 0 then (cmd.hwAcquireRc, c)
  else if cmd.hwCmdRc ≠ 0 then (cmd.hwCmdRc, freeHw c)
  else acquireDevHandle (acquireHw c cmd.ctxType) cmd

/-- An acquire changes the handles, the hardware held and the state, and no request. -/
structure AcquireKeeps (c d : Ctx) : Prop where
  req : d.req = c.req
  held : d.held = c.held
  processBubble : d.processBubble = c.processBubble
  stray : d.stray = c.stray
  state : d.state = c.state ∨ d.state = .acquired

lemma acquireHw_keeps (c : Ctx) (ctxType : Machine) : AcquireKeeps c (acquireHw c ctxType) :=
  ⟨rfl, rfl, rfl, rfl, .inl rfl⟩

lemma freeHw_keeps (c : Ctx) : AcquireKeeps c (freeHw c) := ⟨rfl, rfl, rfl, rfl, .inl rfl⟩

lemma AcquireKeeps.handle {c d : Ctx} (h : AcquireKeeps c d) (cmd : AcquireCmd) :
    AcquireKeeps c (acquireDevHandle d cmd).2 := by
  unfold acquireDevHandle
  split_ifs
  · exact ⟨h.req, h.held, h.processBubble, h.stray, h.state⟩
  · exact ⟨h.req, h.held, h.processBubble, h.stray, .inr rfl⟩

lemma acquireDevInAvailable_keeps (c : Ctx) (cmd : AcquireCmd) :
    AcquireKeeps c (acquireDevInAvailable c cmd).2 := by
  have hself : AcquireKeeps c c := ⟨rfl, rfl, rfl, rfl, .inl rfl⟩
  unfold acquireDevInAvailable
  split_ifs
  · exact hself.handle cmd
  · exact hself
  · exact hself
  · exact freeHw_keeps c
  · exact (acquireHw_keeps c cmd.ctxType).handle cmd

/-- Whatever the answer, the four lists start over. A node hands out only contexts that are
available. -/
def acquireDev (c : Ctx) (cmd : AcquireCmd) : ℤ × Ctx :=
  match c.state with
  | .available =>
    let out := acquireDevInAvailable c cmd
    (out.1, { out.2 with free := List.range ctxReqMax, pending := [], wait := [], active := [] })
  | _ => (-Errno.EPROTO, c)

def acquireHwInAcquired (c : Ctx) (cmd : AcquireCmd) : ℤ × Ctx :=
  if cmd.argsRc ≠ 0 then (cmd.argsRc, c)
  else if cmd.hwAcquireRc ≠ 0 then (cmd.hwAcquireRc, c)
  else if cmd.hwCmdRc ≠ 0 then (cmd.hwCmdRc, freeHw c)
  else (0, acquireHw c cmd.ctxType)

def flushAll : FlushReq := ⟨.all, 0, 0, 0⟩

def releaseHwInTopState (c : Ctx) : Ctx :=
  flushPending { c with
    hwCtx := false
    lastFlushReq := 0
    frameId := 0
    activeReqCnt := 0
    hwAcquired := false
    initReceived := false
    reportedReqId := 0
    lastAppliedReqId := 0
    lastBufdoneReqId := 0
    state := .acquired } flushAll

def releaseDevInTopState (c : Ctx) : Ctx :=
  let c := if c.hwCtx then releaseHwInTopState c else c
  flushPending { c with
    sessionHdl := -1
    devHdl := -1
    linkHdl := -1
    crmIntf := false
    lastFlushReq := 0
    frameId := 0
    activeReqCnt := 0
    hwAcquired := false
    initReceived := false
    rdiOnly := false
    reportedReqId := 0
    lastAppliedReqId := 0
    lastBufdoneReqId := 0
    state := .available } flushAll

inductive Op
  | acquireDev (cmd : AcquireCmd)
  | acquireHw (cmd : AcquireCmd)
  | releaseHw
  | releaseDev
  | link (linkHdl : ℤ)
  | unlink
  | beginConfig
  | config (p : Packet)
  | startDev (cmd : StartCmd)
  | stopDev
  | apply (a : ApplyReq)
  | flush (f : FlushReq)
  | irq (e : Event)

/-- An operation with the mutex free. The top state decides which of them exist. -/
def call (c : Ctx) : Op → Ctx
  | .acquireDev cmd => (acquireDev c cmd).2
  | .acquireHw cmd => if c.state = .acquired then (acquireHwInAcquired c cmd).2 else c
  | .releaseHw => match c.state with
    | .available => c
    | .acquired | .ready => releaseHwInTopState c
    | .activated => releaseHwInTopState (stopDevInActivatedUnlock c false)
  | .releaseDev => match c.state with
    | .available => c
    | .acquired | .ready => releaseDevInTopState c
    | .activated => releaseDevInTopState (stopDevInActivatedUnlock c false)
  | .link linkHdl =>
    if c.state = .acquired then
      { c with linkHdl := linkHdl, crmIntf := true, state := if c.initReceived then .ready else .acquired }
    else c
  | .unlink => match c.state with
    | .available => c
    | .acquired => { c with linkHdl := -1, crmIntf := false }
    | .ready => unlinkInReady c
    | .activated => unlinkInReady (stopDevInActivatedUnlock c false)
  | .beginConfig => (beginConfigDev c).2
  | .config _ => c
  | .startDev cmd => if c.state = .ready then (startDevInReady c cmd).2 else c
  | .stopDev => if c.state = .activated then stopDevInActivated c else c
  | .apply a => if c.state = .activated then (applyReq c a).2 else c
  | .flush f => (flushReq c f).2
  | .irq _ => c

/-- An event is handled at once, in the activated state only. Everything else waits for the
config_dev in progress to end. -/
def step (c : Ctx) (op : Op) : Ctx :=
  match op, c.held with
  | .irq e, _ => if c.state = .activated then handleIrqInActivated c e else c
  | .config p, some i => (configDev c i p).2
  | .config _, none => c
  | _, some _ => c
  | op, none => call c op

/-- A packet that passes every check. -/
def packet (opCode : PacketOp) (requestId : ℕ) (mapOut : List (ℕ × ℤ)) : Packet where
  readable := true
  opCode := opCode
  requestId := requestId
  prepareRc := 0
  numCfg := 1
  fps := 0
  mapOut := mapOut
  numMapIn := 0
  syncActive _ := true
  addReqRc := 0

/-- An update that writes one port. -/
def update (requestId : ℕ) (fence : ℤ) : List Op :=
  [.beginConfig, .config (packet .updateDev requestId [(1, fence)])]

/-- A linked context that streams from the INIT packet 1, without buffers. -/
def startUp (ctxType : Machine) : List Op :=
  [.acquireDev ⟨1, false, 0, 0, 0, ctxType, 7⟩, .link 5, .beginConfig,
    .config (packet .initDev 1 []), .startDev ⟨1, 7, 0⟩]

/-- The first frame takes the INIT packet. -/
def firstFrame : List Op := [.irq (.sof 0), .irq (.regUpdate 0 0)]

end CameraKernel.Isp
