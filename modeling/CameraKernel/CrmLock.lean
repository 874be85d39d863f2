import CameraKernel.CrmLinkSetup
import CameraKernel.LockDiscipline

/-! The entry points of the request manager as programs that take and give back its lock. What the
calls inside them return is an argument. -/
namespace CameraKernel.Crm
open LockDiscipline

/-- The label at the end of an entry point. -/
def crmEnd (rc : ℤ) : LockM ℤ := do
  unlock
  return rc

structure SessionInfo where
  sessionHdl : ℤ
  deriving DecidableEq, Repr

/-- `sessionHdl` is what `cam_create_session_hdl` returns. -/
structure CreateSessionAnswers where
  kzalloc : Bool
  sessionHdl : ℤ
  deriving DecidableEq, Repr

def camReqMgrCreateSession (env : CreateSessionAnswers) : Option SessionInfo → LockM ℤ
  | none => return -Errno.EINVAL
  | some _ => do
    lock
    if !env.kzalloc then crmEnd (-Errno.ENOMEM)
    else if env.sessionHdl < 0 then crmEnd env.sessionHdl
    else crmEnd 0

structure DestroySessionAnswers where
  session : Bool
  destroyRc : ℤ
  deriving DecidableEq, Repr

def camReqMgrDestroySession (env : DestroySessionAnswers) : Option SessionInfo → LockM ℤ
  | none => return -Errno.EINVAL
  | some _ => do
    lock
    if !env.session then crmEnd (-Errno.ENOENT)
    else crmEnd env.destroyRc

/-- The link calls with their lock; `linkWith` has what they do to the link. -/
def linkLocked (maxHandles : ℕ) (sync : LinkSync) (env : LinkAnswers) :
    Option (List DeviceAnswer) → LockM ℤ
  | none => return -Errno.EINVAL
  | some devs =>
    if devs.length > maxHandles then return -Errno.EINVAL
    else do
      lock
      if !env.session then crmEnd (-Errno.EINVAL)
      else if !env.reserve then crmEnd (-Errno.EINVAL)
      else if env.linkHdl < 0 then crmEnd env.linkHdl
      else if !env.subdevs then crmEnd (-Errno.ENOMEM)
      else if (setupLinkDevices sync devs).1 < 0 then crmEnd (setupLinkDevices sync devs).1
      else if !env.workq then crmEnd (-Errno.ENOMEM)
      else if !env.payload then crmEnd (-Errno.ENOMEM)
      else crmEnd 0

structure UnlinkInfo where
  sessionHdl : ℤ
  linkHdl : ℤ
  deriving DecidableEq, Repr

structure UnlinkAnswers where
  session : Bool
  link : Bool
  unlinkRc : ℤ
  deriving DecidableEq, Repr

def camReqMgrUnlink (env : UnlinkAnswers) : Option UnlinkInfo → LockM ℤ
  | none => return -Errno.EINVAL
  | some _ => do
    lock
    if !env.session then crmEnd (-Errno.EINVAL)
    else if !env.link then crmEnd (-Errno.EINVAL)
    else crmEnd env.unlinkRc

structure ScheduleArg where
  linkHdl : ℤ
  reqId : ℤ
  deriving DecidableEq, Repr

/-- `link` is the `last_flush_id` of the link that is found. -/
structure ScheduleAnswers where
  link : Option ℤ
  session : Bool
  processRc : ℤ
  deriving DecidableEq, Repr

def camReqMgrScheduleRequest (env : ScheduleAnswers) : Option ScheduleArg → LockM ℤ
  | none => return -Errno.EINVAL
  | some schedReq => do
    lock
    match env.link with
    | none => crmEnd (-Errno.EINVAL)
    | some lastFlushId =>
      if !env.session then crmEnd (-Errno.EINVAL)
      else if schedReq.reqId ≤ lastFlushId then crmEnd (-Errno.EINVAL)
      else crmEnd env.processRc

def maxLinksPerSession : ℤ := 2

def syncModeNoSync : ℤ := 0

structure SyncMode where
  syncMode : ℤ
  numLinks : ℤ
  linkHdl0 : ℤ
  linkHdl1 : ℤ
  deriving DecidableEq, Repr

structure SyncConfigAnswers where
  session : Bool
  link1 : Bool
  link2 : Bool
  deriving DecidableEq, Repr

def camReqMgrSyncConfig (env : SyncConfigAnswers) : Option SyncMode → LockM ℤ
  | none => return -Errno.EINVAL
  | some syncInfo =>
    if syncInfo.numLinks < 0 ∨ syncInfo.numLinks > maxLinksPerSession then return -Errno.EINVAL
    else if syncInfo.syncMode ≠ syncModeSync ∧ syncInfo.syncMode ≠ syncModeNoSync then
      return -Errno.EINVAL
    else if syncInfo.linkHdl0 = 0 ∨ syncInfo.linkHdl1 = 0 then return -Errno.EINVAL
    else do
      lock
      if !env.session then crmEnd (-Errno.EINVAL)
      else if !env.link1 then crmEnd (-Errno.EINVAL)
      else if !env.link2 then crmEnd (-Errno.EINVAL)
      else crmEnd 0

def flushTypeMax : UInt32 := 2

structure FlushInfo where
  linkHdl : ℤ
  flushType : UInt32
  reqId : ℤ
  deriving DecidableEq, Repr

/-- `session` is the number of links of the session that is found, `waitRc` what the wait for the
worker returns. -/
structure FlushAnswers where
  session : Option ℤ
  link : Bool
  task : Bool
  enqueueRc : ℤ
  waitRc : ℤ
  deriving DecidableEq, Repr

def camReqMgrFlushRequests (env : FlushAnswers) : Option FlushInfo → LockM ℤ
  | none => crmEnd (-Errno.EFAULT)
  | some flushInfo =>
    -- both checks go to the label behind the lock
    if flushInfo.flushType ≥ flushTypeMax then crmEnd (-Errno.EINVAL)
    else do
      lock
      match env.session with
      | none => crmEnd (-Errno.EINVAL)
      | some numLinks =>
        if numLinks ≤ 0 then crmEnd 0
        else if !env.link then crmEnd (-Errno.EINVAL)
        else if !env.task then crmEnd (-Errno.ENOMEM)
        else if env.enqueueRc < 0 then crmEnd env.enqueueRc
        else if env.waitRc ≤ 0 then crmEnd (-Errno.ETIMEDOUT)
        else crmEnd 0

def linkActivate : ℤ := 0
def linkDeactivate : ℤ := 1

structure LinkControl where
  ops : ℤ
  linkHdls : List ℤ
  numLinks : ℤ
  deriving DecidableEq, Repr

/-- The loop over the links: each answer is `none` for a handle without a link, else what
`crm_timer_init` returns. -/
def controlLinks (ops : ℤ) : ℤ → List (Option ℤ) → ℤ
  | rc, [] => rc
  | _, none :: _ => -Errno.EINVAL
  | rc, some timerRc :: rest =>
    let rc := if ops = linkActivate then (if timerRc < 0 then -Errno.EFAULT else timerRc)
      else if ops = linkDeactivate then rc
      else -Errno.EINVAL
    controlLinks ops rc rest

def camReqMgrLinkControl (links : ℤ → Option ℤ) : Option LinkControl → LockM ℤ
  | none => return -Errno.EINVAL
  | some control =>
    if control.numLinks ≤ 0 ∨ control.numLinks > maxLinksPerSession then return -Errno.EINVAL
    else do
      lock
      crmEnd (controlLinks control.ops 0
        ((control.linkHdls.take control.numLinks.toNat).map links))

structure DumpReqCmd where
  linkHdl : ℤ
  issueReqId : ℤ
  deriving DecidableEq, Repr

structure DumpAnswers where
  session : Option ℤ
  link : Bool
  deriving DecidableEq, Repr

/-- The code is 0 whatever happens. -/
def camReqMgrDumpRequest (env : DumpAnswers) : Option DumpReqCmd → LockM ℤ
  | none => crmEnd 0
  | some _ => do
    lock
    match env.session with
    | none => crmEnd 0
    | some numLinks =>
      if numLinks ≤ 0 then crmEnd 0
      else if !env.link then crmEnd 0
      else crmEnd 0

/-- A call of an entry point, with its argument and what the calls inside it return. -/
inductive CrmCall
  | createSession (env : CreateSessionAnswers) (sesInfo : Option SessionInfo)
  | destroySession (env : DestroySessionAnswers) (sesInfo : Option SessionInfo)
  | link (sync : LinkSync) (env : LinkAnswers) (devs : Option (List DeviceAnswer))
  | linkV2 (sync : LinkSync) (env : LinkAnswers) (devs : Option (List DeviceAnswer))
  | unlink (env : UnlinkAnswers) (unlinkInfo : Option UnlinkInfo)
  | scheduleRequest (env : ScheduleAnswers) (schedReq : Option ScheduleArg)
  | syncConfig (env : SyncConfigAnswers) (syncInfo : Option SyncMode)
  | flushRequests (env : FlushAnswers) (flushInfo : Option FlushInfo)
  | linkControl (links : ℤ → Option ℤ) (control : Option LinkControl)
  | dumpRequest (env : DumpAnswers) (dumpReq : Option DumpReqCmd)

def CrmCall.run : CrmCall → LockM ℤ
  | .createSession env sesInfo => camReqMgrCreateSession env sesInfo
  | .destroySession env sesInfo => camReqMgrDestroySession env sesInfo
  | .link sync env devs => linkLocked camReqMgrMaxHandles sync env devs
  | .linkV2 sync env devs => linkLocked camReqMgrMaxHandlesV2 sync env devs
  | .unlink env unlinkInfo => camReqMgrUnlink env unlinkInfo
  | .scheduleRequest env schedReq => camReqMgrScheduleRequest env schedReq
  | .syncConfig env syncInfo => camReqMgrSyncConfig env syncInfo
  | .flushRequests env flushInfo => camReqMgrFlushRequests env flushInfo
  | .linkControl links control => camReqMgrLinkControl links control
  | .dumpRequest env dumpReq => camReqMgrDumpRequest env dumpReq

/-- The argument is one that flush or dump refuses before it takes the lock. -/
def CrmCall.refusedUnlocked : CrmCall → Bool
  | .flushRequests _ none => true
  | .flushRequests _ (some flushInfo) => flushTypeMax ≤ flushInfo.flushType
  | .dumpRequest _ none => true
  | _ => false

lemma obeys_crmEnd (rc : ℤ) : Obeys true (crmEnd rc) := obeys_unlock rc

lemma linkLocked_rc (maxHandles : ℕ) (sync : LinkSync) (env : LinkAnswers)
    (devs : List DeviceAnswer) (log : List LockOp) :
    ((linkLocked maxHandles sync env (some devs)).run log).1 =
      (linkWith maxHandles sync env devs).rc := by
  have hlock : ∀ body : LockM ℤ, ((do lock; body).run log).1 = (body.run (log ++ [LockOp.lock])).1 :=
    fun _ => rfl
  have hend : ∀ (rc : ℤ) (held : List LockOp), ((crmEnd rc).run held).1 = rc := fun _ _ => rfl
  have hite : ∀ (cond : Prop) [Decidable cond] (a b : LockM ℤ) (held : List LockOp),
      ((if cond then a else b).run held).1 = if cond then (a.run held).1 else (b.run held).1 :=
    fun cond _ a b held => apply_ite (fun body : LockM ℤ => (body.run held).1) cond a b
  rw [linkLocked, linkWith]
  by_cases hlen : devs.length > maxHandles
  · rw [if_pos hlen, if_pos hlen]
    rfl
  · rw [if_neg hlen, if_neg hlen, hlock]
    simp only [hite, hend, apply_ite LinkResult.rc]

lemma linkLocked_obeys (maxHandles : ℕ) (sync : LinkSync) (env : LinkAnswers)
    (devs : Option (List DeviceAnswer)) : Obeys false (linkLocked maxHandles sync env devs) := by
  cases devs with
  | none => exact obeys_return _
  | some devs =>
    apply (obeys_return _).ite
    apply Obeys.lock
    repeat apply (obeys_crmEnd _).ite
    exact obeys_crmEnd _

lemma CrmCall.obeys {call : CrmCall} (h : call.refusedUnlocked = false) : Obeys false call.run := by
  cases call with
  | createSession env sesInfo =>
    cases sesInfo with
    | none => exact obeys_return _
    | some sesInfo =>
      apply Obeys.lock
      apply (obeys_crmEnd _).ite
      exact (obeys_crmEnd _).ite (obeys_crmEnd _)
  | destroySession env sesInfo =>
    cases sesInfo with
    | none => exact obeys_return _
    | some sesInfo =>
      apply Obeys.lock
      exact (obeys_crmEnd _).ite (obeys_crmEnd _)
  | link sync env devs => exact linkLocked_obeys camReqMgrMaxHandles sync env devs
  | linkV2 sync env devs => exact linkLocked_obeys camReqMgrMaxHandlesV2 sync env devs
  | unlink env unlinkInfo =>
    cases unlinkInfo with
    | none => exact obeys_return _
    | some unlinkInfo =>
      apply Obeys.lock
      apply (obeys_crmEnd _).ite
      exact (obeys_crmEnd _).ite (obeys_crmEnd _)
  | scheduleRequest env schedReq =>
    cases schedReq with
    | none => exact obeys_return _
    | some schedReq =>
      apply Obeys.lock
      cases env.link with
      | none => exact obeys_crmEnd _
      | some lastFlushId =>
        apply (obeys_crmEnd _).ite
        exact (obeys_crmEnd _).ite (obeys_crmEnd _)
  | syncConfig env syncInfo =>
    cases syncInfo with
    | none => exact obeys_return _
    | some syncInfo =>
      apply (obeys_return _).ite
      apply (obeys_return _).ite
      apply (obeys_return _).ite
      apply Obeys.lock
      apply (obeys_crmEnd _).ite
      apply (obeys_crmEnd _).ite
      exact (obeys_crmEnd _).ite (obeys_crmEnd _)
  | flushRequests env flushInfo =>
    cases flushInfo with
    | none => simp [refusedUnlocked] at h
    | some flushInfo =>
      have htype : ¬flushInfo.flushType ≥ flushTypeMax := by simpa [refusedUnlocked] using h
      simp only [run, camReqMgrFlushRequests, if_neg htype]
      apply Obeys.lock
      cases env.session with
      | none => exact obeys_crmEnd _
      | some numLinks =>
        apply (obeys_crmEnd _).ite
        apply (obeys_crmEnd _).ite
        apply (obeys_crmEnd _).ite
        apply (obeys_crmEnd _).ite
        exact (obeys_crmEnd _).ite (obeys_crmEnd _)
  | linkControl links control =>
    cases control with
    | none => exact obeys_return _
    | some control =>
      apply (obeys_return _).ite
      apply Obeys.lock
      exact obeys_crmEnd _
  | dumpRequest env dumpReq =>
    cases dumpReq with
    | none => simp [refusedUnlocked] at h
    | some dumpReq =>
      apply Obeys.lock
      cases env.session with
      | none => exact obeys_crmEnd _
      | some numLinks =>
        apply (obeys_crmEnd _).ite
        exact (obeys_crmEnd _).ite (obeys_crmEnd _)

lemma CrmCall.lockOps_refused {call : CrmCall} (h : call.refusedUnlocked = true) :
    lockOps call.run = [.unlock] := by
  cases call with
  | flushRequests env flushInfo =>
    cases flushInfo with
    | none => rfl
    | some flushInfo =>
      have htype : flushInfo.flushType ≥ flushTypeMax := by simpa [refusedUnlocked] using h
      simp only [run, camReqMgrFlushRequests, if_pos htype]
      rfl
  | dumpRequest env dumpReq =>
    cases dumpReq with
    | none => rfl
    | some dumpReq => simp [refusedUnlocked] at h
  | _ => simp [refusedUnlocked] at h

/-- An entry point keeps the discipline of the lock unless it refuses its argument before taking it. -/
theorem crmCall_disciplined_iff (call : CrmCall) :
    Disciplined false (lockOps call.run) ↔ call.refusedUnlocked = false := by
  constructor
  · intro hops
    by_contra hrefused
    rw [CrmCall.lockOps_refused (by simpa using hrefused)] at hops
    exact absurd hops (by decide)
  · exact fun h => (CrmCall.obeys h).disciplined

/-- A flush with type 2. -/
theorem crmCall_undisciplined :
    ¬∀ (env : FlushAnswers) (flushInfo : FlushInfo),
      Disciplined false (lockOps (CrmCall.flushRequests env (some flushInfo)).run) := by
  intro hall
  exact absurd (hall ⟨some 1, true, true, 0, 1⟩ ⟨7, 2, 0⟩) (by decide)

/-- Threads that make such calls exclude each other. -/
theorem crmCalls_exclusive {ι : Type*} [DecidableEq ι] (calls : ι → List CrmCall)
    (h : ∀ t, ∀ call ∈ calls t, call.refusedUnlocked = false) (ts : List ι) {t u : ι}
    (ht : (Transition.run Threads.step
      (Threads.start fun t => ((calls t).map fun call => lockOps call.run).flatten) ts).inside t = true)
    (hu : (Transition.run Threads.step
      (Threads.start fun t => ((calls t).map fun call => lockOps call.run).flatten) ts).inside u = true) :
    t = u := by
  refine Threads.exclusive_run (fun t => Disciplined.flatten ?_) ts ht hu
  intro ops hops
  obtain ⟨call, hcall, rfl⟩ := List.mem_map.mp hops
  exact (CrmCall.obeys (h t call hcall)).disciplined

/-- An unlink that finds no session. -/
def unlinkRefused : CrmCall := .unlink ⟨false, false, 0⟩ (some ⟨1, 2⟩)

theorem crmCalls_exclusive_unlink :
    (Transition.run Threads.step
      (Threads.start fun _ : Bool => ([unlinkRefused].map fun call => lockOps call.run).flatten)
        [true, false, false]).inside false = false := by
  have htrue : (Transition.run Threads.step
      (Threads.start fun _ : Bool => ([unlinkRefused].map fun call => lockOps call.run).flatten)
        [true, false, false]).inside true = true := by decide
  by_contra h
  rw [Bool.not_eq_false] at h
  cases crmCalls_exclusive (fun _ : Bool => [unlinkRefused])
    (by simp [unlinkRefused, CrmCall.refusedUnlocked]) _ h htrue

end CameraKernel.Crm
