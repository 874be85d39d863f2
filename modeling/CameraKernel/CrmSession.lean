import CameraKernel.CrmLink

/-! The request manager's operations on the links of a session. A link names its sync
partner; processing a frame on one link reads the partner's queue and tables, and
writes its sync fields. -/
namespace CameraKernel.Crm
open MachineInt

abbrev Links := ℕ → CoreLink

def setLink (σ : Links) (l : ℕ) (f : CoreLink → CoreLink) : Links := Function.update σ l (f (σ l))

def setSync (σ : Links) (l : ℕ) (f : LinkSync → LinkSync) : Links :=
  setLink σ l fun k => { k with sync := f k.sync }

def injectDelayOn (σ : Links) (l idx : ℕ) : ℤ × Links :=
  let r := injectDelay idx (σ l).lTbl
  (r.1, setLink σ l fun k => { k with lTbl := r.2 })

def checkLinkOn (σ : Links) (l idx : ℕ) (validateOnly : Bool) : ℤ × Links :=
  let r := checkLinkIsReady (σ l) idx validateOnly
  (r.1, setLink σ l fun _ => r.2)

/-- Give up on this frame, and tell the partner to skip its own. -/
def skipSyncSof (σ : Links) (l : ℕ) (rc : ℤ) : ℤ × Links :=
  (rc, setSync σ l fun s => { s with syncLinkSofSkip := true })

/-- All validation is done; the result of the last traversal is not looked at. -/
def applyChecked (σ : Links) (l idx : ℕ) : ℤ × Links := (0, (checkLinkOn σ l idx false).2)

/-- The part of `__cam_req_mgr_check_sync_for_mslave` that looks for the partner's
request. -/
def checkPartnerReq (σ : Links) (l m idx : ℕ) (syncReqId : ℤ) : ℤ × Links :=
  let initialSyncReq := (σ m).sync.initialSyncReq
  if initialSyncReq ≠ -1 ∧ initialSyncReq ≤ syncReqId then
    match findSlotForReq (σ m).inQ syncReqId with
    | none => skipSyncSof σ l (-Errno.EINVAL)
    | some syncIdx =>
      let rdIdx := (σ m).inQ.rdIdx
      let status := ((σ m).inQ.slot syncIdx).status
      if status ≠ .reqApplied ∧ ((syncIdx : ℤ) - rdIdx + maxReqSlots).tmod maxReqSlots ≥ 1 ∧
          ((σ m).inQ.slot rdIdx).status ≠ .reqApplied then (-Errno.EINVAL, σ)
      else
        let r := checkLinkOn σ m syncIdx true
        if r.1 ≠ 0 ∧ status ≠ .reqApplied then skipSyncSof r.2 l r.1
        else applyChecked r.2 l idx
  else applyChecked σ l idx

def checkSyncForMslave (σ : Links) (l idx : ℕ) : ℤ × Links :=
  match (σ l).sync.syncLink with
  | none => (-Errno.EINVAL, σ)
  | some m =>
    let reqId := ((σ l).inQ.slot idx).reqId
    if (σ m).sync.syncLinkSofSkip = true then
      let σ := setSync σ m fun s => { s with syncLinkSofSkip := false }
      (-Errno.EAGAIN, (injectDelayOn σ l idx).2)
    else if (σ l).sync.inMsyncMode = true ∧ (σ m).sync.inMsyncMode = true ∧
        reqId - ((σ m).inQ.slot (σ m).inQ.rdIdx).reqId >
          u32Sub (σ l).maxDelay (σ m).maxDelay then (-Errno.EINVAL, σ)
    else if (σ l).sync.isMaster = true then
      let r := injectDelayOn σ l idx
      if r.1 ≠ 0 then skipSyncSof r.2 l r.1
      else if (r.2 m).sync.initialSkip = true then (-Errno.EAGAIN, r.2)
      else
        let r := checkLinkOn r.2 l idx true
        if r.1 ≠ 0 then skipSyncSof r.2 l r.1
        else
          let prevIdx := decIdx idx ((r.2 l).maxDelay - (r.2 m).maxDelay)
          checkPartnerReq r.2 l m idx ((r.2 l).inQ.slot prevIdx).reqId
    else
      let σ := setSync σ l fun s => { s with initialSkip := false }
      let r := injectDelayOn σ l idx
      if r.1 ≠ 0 then skipSyncSof r.2 l r.1
      else
        let r := checkLinkOn r.2 l idx true
        if r.1 ≠ 0 then skipSyncSof r.2 l r.1
        else
          let nextIdx := incIdx (r.2 l).inQ.rdIdx ((r.2 m).maxDelay - (r.2 l).maxDelay)
          checkPartnerReq r.2 l m idx ((r.2 l).inQ.slot nextIdx).reqId

def defaultFrameDuration : ℕ := 33333333

def frameDuration (s : LinkSync) : ℕ :=
  if s.prevSofTimestamp ≠ 0 then u64Sub s.sofTimestamp s.prevSofTimestamp else defaultFrameDuration

/-- The comparison of the time stamps of two links on their first frame. -/
def skipsFirstFrame (s p : LinkSync) : Bool :=
  (s.sofTimestamp > p.sofTimestamp ∧ p.sofTimestamp > 0 ∧
      u64Sub s.sofTimestamp p.sofTimestamp < frameDuration p / 2) ∨
    s.sofTimestamp ≤ p.sofTimestamp

/-- The last part of `__cam_req_mgr_check_sync_req_is_ready`: the self-correction when the
frames are in step. -/
def correctSync (σ : Links) (l m idx : ℕ) : ℤ × Links :=
  let reqId := ((σ l).inQ.slot idx).reqId
  let rd := (σ m).inQ.slot (σ m).inQ.rdIdx
  let s := (σ l).sync
  let p := (σ m).sync
  if s.sofTimestamp > p.sofTimestamp ∧ p.sofTimestamp > 0 ∧
      s.sofTimestamp - p.sofTimestamp < frameDuration p / 5 ∧ rd.syncMode = syncModeSync then
    if reqId > rd.reqId then (-Errno.EAGAIN, σ)
    else if reqId < rd.reqId then
      applyChecked (setSync σ l fun s => { s with syncLinkSofSkip := true }) l idx
    else applyChecked σ l idx
  else if p.sofTimestamp > 0 ∧ s.sofTimestamp < p.sofTimestamp ∧
      p.sofTimestamp - s.sofTimestamp < frameDuration p / 5 ∧ rd.syncMode = syncModeSync ∧
      reqId ≥ rd.reqId then (-Errno.EAGAIN, σ)
  else applyChecked σ l idx

def checkSyncReqIsReady (σ : Links) (l idx : ℕ) : ℤ × Links :=
  match (σ l).sync.syncLink with
  | none => (-Errno.EINVAL, σ)
  | some m =>
    let reqId := ((σ l).inQ.slot idx).reqId
    if (σ m).sync.initialSkip = true then
      let σ := setSync σ l fun s => { s with initialSkip := false }
      (-Errno.EAGAIN, (injectDelayOn σ l idx).2)
    else
      let first := (σ l).sync.initialSkip
      let σ := setSync σ l fun s => { s with initialSkip := false }
      if first = true ∧ skipsFirstFrame (σ l).sync (σ m).sync = true then
        (-Errno.EAGAIN, (injectDelayOn σ l idx).2)
      else if (σ m).sync.syncLinkSofSkip = true then
        let σ := setSync σ m fun s => { s with syncLinkSofSkip := false }
        (-Errno.EAGAIN, (injectDelayOn σ l idx).2)
      else
        let inj := injectDelayOn σ l idx
        let σ := inj.2
        match findSlotForReq (σ m).inQ reqId with
        | none => (-Errno.EAGAIN, σ)
        | some syncIdx =>
          let rdIdx := (σ m).inQ.rdIdx
          let status := ((σ m).inQ.slot syncIdx).status
          if status ≠ .reqApplied ∧ ((syncIdx : ℤ) - rdIdx + maxReqSlots).tmod maxReqSlots ≥ 1 ∧
              ((σ m).inQ.slot rdIdx).status ≠ .reqApplied then (-Errno.EAGAIN, σ)
          else
            let own := checkLinkOn σ l idx true
            let partner := checkLinkOn own.2 m syncIdx true
            let σ := partner.2
            let ready : Bool := inj.1 = 0 ∧ own.1 = 0
            let syncReady : Bool := ¬(partner.1 ≠ 0 ∧ status ≠ .reqApplied)
            if syncReady ≠ ready then
              if u64Sub (σ l).sync.sofTimestamp (σ m).sync.sofTimestamp >
                  frameDuration (σ m).sync / 2 then skipSyncSof σ l (-Errno.EINVAL)
              else (-Errno.EINVAL, σ)
            else if ready = false then (-Errno.EINVAL, σ)
            else correctSync σ l m idx

/-- The decision of `__cam_req_mgr_process_req` whether the request at `idx` may go out. -/
def checkReady (σ : Links) (l idx : ℕ) : ℤ × Links :=
  match (σ l).sync.syncLink with
  | some m =>
    if ((σ l).inQ.slot idx).syncMode = syncModeSync then
      if (σ l).sync.isMaster = true ∨ (σ m).sync.isMaster = true then
        checkSyncForMslave (setSync σ l fun s => { s with inMsyncMode := true }) l idx
      else checkSyncReqIsReady σ l idx
    else
      let σ :=
        if (σ l).sync.inMsyncMode = true then
          let σ := setSync σ l fun s => { s with inMsyncMode := false, initialSyncReq := -1 }
          setSync σ m fun s => { s with initialSyncReq := -1, inMsyncMode := false }
        else σ
      let r := injectDelayOn σ l idx
      if r.1 ≠ 0 then r else checkLinkOn r.2 l idx false
  | none =>
    let σ :=
      if (σ l).sync.inMsyncMode = true then
        setSync σ l fun s => { s with inMsyncMode := false, initialSyncReq := -1 }
      else σ
    let r := injectDelayOn σ l idx
    if r.1 ≠ 0 then r else checkLinkOn r.2 l idx false

/-- What a trigger returns, leaves and does: the calls of `apply_req`, and whether the
request at the read index was fully applied. -/
structure Outcome where
  rc : ℤ
  links : Links
  calls : List ApplyReq
  applied : Bool

def setStatus (σ : Links) (l idx : ℕ) (status : SlotStatus) : Links :=
  setLink σ l fun k => { k with inQ := setSlot k.inQ idx fun s => { s with status := status } }

/-- The slot is applied: remember it, and reset the one that no table needs any more. -/
def retireSlot (σ : Links) (l idx : ℕ) : Links :=
  let σ := setLink σ l fun k => { k with triggerMask := 0 }
  let σ := setStatus σ l idx .reqApplied
  let resetStep :=
    match (σ l).sync.syncLink with
    | none => (σ l).maxDelay
    | some m =>
      if (σ l).sync.inMsyncMode = true ∧ (σ m).sync.isMaster = true then (σ m).maxDelay
      else (σ l).maxDelay
  setLink σ l fun k =>
    let lastAppliedIdx := if (k.inQ.slot idx).reqId > 0 then (idx : ℤ) else k.inQ.lastAppliedIdx
    resetReqSlot { k with inQ := { k.inQ with lastAppliedIdx := lastAppliedIdx } }
      (decIdx idx (resetStep + 1))

/-- Send the request at `idx` and take stock of the answers. -/
def sendStage (σ : Links) (l idx trigger : ℕ) (answer : ℕ → ℤ) : Outcome :=
  let r := sendReq (σ l) trigger answer
  let σ := setLink σ l fun k => { k with lTbl := r.lTbl, openReqCnt := r.openReqCnt }
  if r.rc < 0 then ⟨r.rc, setStatus σ l idx .reqPending, r.calls, false⟩
  else
    let σ := setLink σ l fun k => { k with
      triggerMask := k.triggerMask ||| trigger
      state := if k.state = .err then .ready else k.state
      sync := { k.sync with syncLinkSofSkip := false } }
    if (σ l).triggerMask = (σ l).subscribeEvent then ⟨r.rc, retireSlot σ l idx, r.calls, true⟩
    else ⟨r.rc, σ, r.calls, false⟩

def processReq (σ : Links) (l trigger timestamp : ℕ) (answer : ℕ → ℤ) : Outcome :=
  let idx := (σ l).inQ.rdIdx
  if ((σ l).inQ.slot idx).status = .noReq then ⟨0, σ, [], false⟩
  else if trigger = triggerSof then
    let σ := setSync σ l fun s =>
      { s with prevSofTimestamp := s.sofTimestamp, sofTimestamp := timestamp }
    if (σ l).triggerMask ≠ 0 then ⟨-Errno.EINVAL, σ, [], false⟩
    else
      let r := checkReady σ l idx
      if r.1 < 0 then
        ⟨if (r.2 l).state = .err then -Errno.EPERM else r.1, setStatus r.2 l idx .reqPending, [], false⟩
      else sendStage r.2 l idx trigger answer
  else if trigger = triggerEof then
    if (σ l).triggerMask &&& triggerSof = 0 then ⟨-Errno.EINVAL, σ, [], false⟩
    else sendStage σ l idx trigger answer
  else ⟨0, σ, [], false⟩

/-- The request a SOF names is done with: forget it, and move off it. -/
def releaseNamed (link : CoreLink) (reqId : ℤ) : CoreLink :=
  match findSlotForReq link.inQ reqId with
  | none => link
  | some idx =>
    let inQ := link.inQ
    let inQ := if inQ.lastAppliedIdx = idx then { inQ with lastAppliedIdx := -1 } else inQ
    let inQ := if idx = inQ.rdIdx then { inQ with rdIdx := incIdx inQ.rdIdx 1 } else inQ
    resetReqSlot { link with inQ := inQ } idx

def processTrigger (σ : Links) (l trigger : ℕ) (reqId : ℤ) (timestamp : ℕ) (answer : ℕ → ℤ) :
    Outcome :=
  let σ := if trigger = triggerSof then setLink σ l fun k => releaseNamed k reqId else σ
  if ((σ l).inQ.slot (σ l).inQ.rdIdx).status = .reqApplied then
    match checkNextReqSlot (σ l) with
    | none => ⟨0, σ, [], false⟩
    | some k =>
      let σ := setLink σ l fun _ => { k with inQ := { k.inQ with rdIdx := incIdx k.inQ.rdIdx 1 } }
      processReq σ l trigger timestamp answer
  else processReq σ l trigger timestamp answer

def processSchedReq (σ : Links) (l : ℕ) (reqId syncMode bubbleEnable : ℤ) : Links :=
  let σ := setLink σ l fun k => enqueueReq k reqId syncMode bubbleEnable
  match (σ l).sync.syncLink with
  | none => σ
  | some m =>
    if syncMode = syncModeSync then σ else setSync σ m fun s => { s with initialSyncReq := -1 }

def scheduleRequest (σ : Links) (l : ℕ) (reqId syncMode bubbleEnable : ℤ) : ℤ × Links :=
  if reqId ≤ (σ l).lastFlushId then (-Errno.EINVAL, σ)
  else
    let σ := setLink σ l fun k => { k with lastFlushId := 0 }
    (0, processSchedReq σ l reqId syncMode bubbleEnable)

end CameraKernel.Crm
