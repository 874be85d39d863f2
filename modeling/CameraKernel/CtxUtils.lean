import CameraKernel.Errno
import CameraKernel.Transition

/-! The request objects of a context that waits for input fences, `cam_context_utils.c`.
Three kinds of threads work on them: the ioctl thread (`ctx_mutex` lets one in at a time),
the input-fence callbacks, and the buf-done handlers. What a function does under `ctx->lock`,
under the lock of one sync object or in one atomic operation is one step; `sync_mutex` is a
flag that a step may find taken. What a called function outside the file returns is an
argument of the step. -/
namespace CameraKernel.CtxUtils
open Errno

/-- The two states in which a sync object calls back. -/
inductive Signaled
  | success
  | error
  deriving DecidableEq, Repr

/-- `struct cam_ctx_request`. The numbers of map entries are the lengths of the lists, and
`ctx` says whether `req->ctx` is set. -/
structure CtxRequest where
  ctx : Bool
  requestId : ℕ
  inMapEntries : List ℤ
  outMapEntries : List ℤ
  numInAcked : ℕ
  flushed : Bool
  deriving DecidableEq, Repr

/-- What the outside has seen of the request an object carries: the output fences it was
submitted with (none once it is refused), those passed to `cam_sync_signal`, and how often
`hw_config` was called for it. -/
structure Story where
  asked : List ℤ
  sent : List (ℤ × Signaled)
  configured : ℕ
  deriving DecidableEq, Repr

def Story.blank : Story := ⟨[], [], 0⟩

/-- `struct cam_context`. Objects are named by their index in `req_list`. `tempPending` and
`tempActive` are the local lists of the two loops of `cam_context_flush_ctx_to_hw`, and
`registered` holds the callbacks of this file in the callback lists of the sync objects. -/
structure Context where
  req : ℕ → CtxRequest
  freeReqList : List ℕ
  pendingReqList : List ℕ
  activeReqList : List ℕ
  tempPending : List ℕ
  tempActive : List ℕ
  lastFlushReq : ℕ
  hwFlush : Bool
  syncMutex : Bool
  registered : List (ℤ × ℕ)
  story : ℕ → Story

namespace Context

def setReq (c : Context) (r : ℕ) (q : CtxRequest) : Context :=
  { c with req := Function.update c.req r q }

def setStory (c : Context) (r : ℕ) (s : Story) : Context :=
  { c with story := Function.update c.story r s }

/-- `list_del_init` of an object, wherever it is linked. -/
def listDel (c : Context) (r : ℕ) : Context :=
  { c with
    freeReqList := c.freeReqList.erase r
    pendingReqList := c.pendingReqList.erase r
    activeReqList := c.activeReqList.erase r
    tempPending := c.tempPending.erase r
    tempActive := c.tempActive.erase r }

def addFree (c : Context) (r : ℕ) : Context :=
  { c with freeReqList := c.freeReqList ++ [r] }

def addPending (c : Context) (r : ℕ) : Context :=
  { c with pendingReqList := c.pendingReqList ++ [r] }

def addActive (c : Context) (r : ℕ) : Context :=
  { c with activeReqList := c.activeReqList ++ [r] }

def setMutex (c : Context) (b : Bool) : Context := { c with syncMutex := b }

def clearCtx (c : Context) (r : ℕ) : Context := c.setReq r { c.req r with ctx := false }

def setFlushed (c : Context) (r : ℕ) (b : Bool) : Context :=
  c.setReq r { c.req r with flushed := b }

/-- `atomic_inc_return(&req->num_in_acked)`. -/
def incAcked (c : Context) (r : ℕ) : Context :=
  c.setReq r { c.req r with numInAcked := (c.req r).numInAcked + 1 }

/-- Every input fence of the object has been counted. -/
def allAcked (c : Context) (r : ℕ) : Bool :=
  (c.req r).numInAcked == (c.req r).inMapEntries.length

/-- The call of `cam_sync_signal` for an output fence of the object. -/
def syncSignal (c : Context) (r : ℕ) (sync : ℤ) (status : Signaled) : Context :=
  c.setStory r { c.story r with sent := (c.story r).sent ++ [(sync, status)] }

/-- `cam_sync_deregister_callback`: every callback of the object on this fence is dropped;
the flag says whether one was found. -/
def deregisterCallback (c : Context) (r : ℕ) (sync : ℤ) : Context × Bool :=
  ({ c with registered := c.registered.filter (· ≠ (sync, r)) }, c.registered.contains (sync, r))

/-- The first object of a list that carries a request. -/
def findReq (c : Context) (l : List ℕ) (id : ℕ) : Option ℕ :=
  l.find? (fun r => (c.req r).requestId == id)

end Context

/-- Where the flush of one request stands: looking it up in the pending and in the active
list, deregistering the callback of input fence `i`, counting that deregistration,
signalling output fence `i`, putting the object on the free list. The flag is `free_req`,
and set for an active request. -/
inductive Flush
  | pending (id : ℕ)
  | active (id : ℕ)
  | deregister (r i : ℕ) (freeReq : Bool)
  | count (r i : ℕ) (freeReq : Bool)
  | signal (r i : ℕ) (freeReq : Bool)
  | free (r : ℕ)
  | finished
  deriving DecidableEq, Repr

/-- What follows the last call of `cam_sync_signal`. -/
def Flush.afterSignals (r : ℕ) (freeReq : Bool) : Flush := if freeReq then .free r else .finished

/-- One step of `cam_context_flush_req_to_hw`, and of the loop bodies of
`cam_context_flush_ctx_to_hw`. `rc` is the result of `cam_sync_signal`. -/
def Flush.step (c : Context) (rc : ℤ) : Flush → Context × Flush
  | .pending id =>
    if c.syncMutex = true then (c, .pending id)
    else
      match c.findReq c.pendingReqList id with
      | some r => ((c.listDel r).setFlushed r true, .deregister r 0 false)
      | none => (c, if c.hwFlush = true then .active id else .finished)
  | .active id =>
    match c.findReq c.activeReqList id with
    | some r => (c.listDel r, .signal r 0 true)
    | none => (c, .finished)
  | .deregister r i freeReq =>
    match (c.req r).inMapEntries[i]? with
    | none => (c, .signal r 0 freeReq)
    | some sync =>
      let d := c.deregisterCallback r sync
      (d.1, if d.2 = true then .count r i freeReq else .deregister r (i + 1) freeReq)
  | .count r i freeReq =>
    let c := c.incAcked r
    (c, .deregister r (i + 1) (freeReq || c.allAcked r))
  | .signal r i freeReq =>
    match (c.req r).outMapEntries[i]? with
    | none => (c, .afterSignals r freeReq)
    | some sync =>
      if sync = -1 then (c, .signal r (i + 1) freeReq)
      else (c.syncSignal r sync .error,
        -- an output fence signalled by somebody else ends the loop
        if rc = -EALREADY then .afterSignals r freeReq else .signal r (i + 1) freeReq)
  | .free r => ((c.clearCtx r).addFree r, .finished)
  | .finished => (c, .finished)

/-- Where a callback stands: before it reads `req->ctx`, before it counts itself, in the
flush of a failed request, before `sync_mutex`, in `hw_config` (`sync_mutex` taken), about
to put a flushed object on the free list. -/
inductive CallbackPc
  | enter
  | ack
  | flush (f : Flush)
  | lock
  | config
  | free
  deriving DecidableEq, Repr

structure Callback where
  req : ℕ
  status : Signaled
  pc : CallbackPc
  deriving DecidableEq, Repr

/-- `cam_context_apply_req_to_hw` up to the call of `hw_config`. -/
def Context.applyReqToHw (c : Context) (r : ℕ) : Context :=
  let c := (c.listDel r).addActive r
  c.setStory r { c.story r with configured := (c.story r).configured + 1 }

/-- The end of `cam_context_apply_req_to_hw`, with the result of `hw_config`. -/
def Context.configReturned (c : Context) (r : ℕ) (rc : ℤ) : Context :=
  if rc ≠ 0 then (c.listDel r).addFree r else c

/-- One step of a callback. `rc` is what `cam_sync_signal` or `hw_config` returns. -/
def Callback.step (c : Context) (rc : ℤ) (t : Callback) : Context × Option Callback :=
  match t.pc with
  | .enter => (c, if (c.req t.req).ctx = true then some { t with pc := .ack } else none)
  | .ack =>
    let c := c.incAcked t.req
    (c,
      if c.allAcked t.req = true then
        match t.status with
        | .error => some { t with pc := .flush (.pending (c.req t.req).requestId) }
        | .success => some { t with pc := .lock }
      else none)
  | .flush .finished => (c, some { t with pc := .lock })
  | .flush f =>
    let d := f.step c rc
    (d.1, some { t with pc := .flush d.2 })
  | .lock =>
    if c.syncMutex = true then (c, some t)
    else if (c.req t.req).flushed = true then
      ((c.setFlushed t.req false).clearCtx t.req, some { t with pc := .free })
    else ((c.applyReqToHw t.req).setMutex true, some { t with pc := .config })
  | .config => ((c.configReturned t.req rc).setMutex false, none)
  | .free => ((c.listDel t.req).addFree t.req, none)

/-- Where the ioctl thread stands. `freeReq` is the label `free_req` of
`cam_context_prepare_dev_to_hw`, with the code to return; `flushPending` and `flushActive`
are the two loops of `cam_context_flush_ctx_to_hw`. -/
inductive Ioctl
  | idle
  | prepare (r : ℕ)
  | checkValid (r : ℕ)
  | register (r j : ℕ)
  | freeReq (r : ℕ) (rc : ℤ)
  | flushReq (f : Flush)
  | flushPending (f : Flush)
  | flushSplice
  | flushActive (f : Flush)
  deriving DecidableEq, Repr

/-- A buf-done handler that has taken its request off the active list and signals output
fence `i` next. -/
structure Done where
  req : ℕ
  i : ℕ
  result : Signaled
  deriving DecidableEq, Repr

/-- One turn of its loop: the fence is signalled and its entry set to `-1`. -/
def Context.doneSignal (c : Context) (d : Done) (sync : ℤ) : Context :=
  (c.syncSignal d.req sync d.result).setReq d.req
    { c.req d.req with outMapEntries := (c.req d.req).outMapEntries.set d.i (-1) }

/-- `ret` is what the last call that returned has returned. -/
structure System where
  ctx : Context
  ioctl : Ioctl
  callbacks : List Callback
  dones : List Done
  ret : ℤ

/-- A packet as `cam_context_prepare_dev_to_hw` sees it: whether the buffer is mapped and
long enough, what `hw_prepare_update` returns and fills in, and which sync objects are
active when references to the output fences are taken. -/
structure Packet where
  mapped : Bool
  requestId : ℕ
  prepareRc : ℤ
  inMapEntries : List ℤ
  outMapEntries : List ℤ
  activeObjs : List ℤ
  deriving DecidableEq, Repr

/-- `CAM_SYNC_MAX_OBJS`. -/
def camSyncMaxObjs : ℤ := 1024

/-- `cam_sync_get_obj_ref`. -/
def Packet.syncGetObjRef (p : Packet) (sync : ℤ) : ℤ :=
  if sync ≥ camSyncMaxObjs ∨ sync ≤ 0 then -EINVAL
  else if sync ∈ p.activeObjs then 0 else -EINVAL

/-- The object takes over what `hw_prepare_update` has filled in. -/
def Context.fillReq (c : Context) (r : ℕ) (p : Packet) : Context :=
  { c with lastFlushReq := 0 }.setReq r
    ⟨(c.req r).ctx, p.requestId, p.inMapEntries, p.outMapEntries, 0, (c.req r).flushed⟩

/-- The references to the output fences are taken. -/
def Context.submitReq (c : Context) (r : ℕ) (p : Packet) : Context :=
  (c.fillReq r p).setStory r ⟨p.outMapEntries, [], 0⟩

/-- What `cam_sync_register_callback` does: it fails, it keeps the callback until the fence
is signalled, or it dispatches it since the fence is signalled already. -/
inductive Registration
  | failed (rc : ℤ)
  | kept
  | dispatched (status : Signaled)
  deriving DecidableEq, Repr

inductive Op
  | takeReq
  | prepareUpdate (p : Packet)
  | checkValid (rc : ℤ)
  | registerCallback (o : Registration)
  | freeReq
  | flushReq (id : ℕ)
  | flushCtx (id : Option ℕ)
  | flush (rc : ℤ)
  | fence (sync : ℤ) (status : Signaled)
  | callback (t : Callback) (rc : ℤ)
  | bufDone (id : ℕ) (bubble : Bool)
  | done (d : Done)
  deriving DecidableEq

namespace System

def setIoctl (s : System) (i : Ioctl) : System := { s with ioctl := i }

def setCtx (s : System) (c : Context) : System := { s with ctx := c }

def return_ (s : System) (rc : ℤ) : System := { s with ioctl := .idle, ret := rc }

/-- The start of `cam_context_prepare_dev_to_hw`, with the `memset` of the object. -/
def takeReq (s : System) : System :=
  match s.ioctl, s.ctx.freeReqList with
  | .idle, [] => s.return_ (-ENOMEM)
  | .idle, r :: _ =>
    (s.setCtx (((s.ctx.listDel r).setReq r ⟨true, 0, [], [], 0, false⟩).setStory r .blank)).setIoctl
      (.prepare r)
  | _, _ => s

/-- `cam_context_prepare_dev_to_hw` from the mapping of the packet to the pending list. -/
def prepareUpdate (s : System) (p : Packet) : System :=
  match s.ioctl with
  | .prepare r =>
    if p.mapped = false then s.setIoctl (.freeReq r (-EINVAL))
    else if p.requestId ≤ s.ctx.lastFlushReq then s.setIoctl (.freeReq r (-EINVAL))
    else if p.prepareRc ≠ 0 then
      (s.setCtx { s.ctx with lastFlushReq := 0 }).setIoctl (.freeReq r (-EFAULT))
    else if p.outMapEntries.any (fun sync => p.syncGetObjRef sync ≠ 0) = true then
      (s.setCtx (s.ctx.fillReq r p)).setIoctl (.freeReq r (-EINVAL))
    else if 0 < p.inMapEntries.length then
      (s.setCtx ((s.ctx.submitReq r p).addPending r)).setIoctl (.checkValid r)
    else (s.setCtx (s.ctx.submitReq r p)).return_ 0
  | _ => s

/-- The calls of `cam_sync_check_valid`; on failure the object stays linked. -/
def checkValid (s : System) (rc : ℤ) : System :=
  match s.ioctl with
  | .checkValid r => s.setIoctl (if rc ≠ 0 then .freeReq r rc else .register r 0)
  | _ => s

/-- After the registration of callback `j` of the object. -/
def registered (s : System) (r j : ℕ) : System :=
  if j + 1 < (s.ctx.req r).inMapEntries.length then s.setIoctl (.register r (j + 1))
  else s.return_ 0

def registerCallback (s : System) (o : Registration) : System :=
  match s.ioctl with
  | .register r j =>
    match (s.ctx.req r).inMapEntries[j]? with
    | none => s.return_ 0
    | some sync =>
      match o with
      | .failed rc => (s.setCtx (s.ctx.listDel r)).setIoctl (.freeReq r rc)
      | .kept => (s.setCtx { s.ctx with registered := s.ctx.registered ++ [(sync, r)] }).registered r j
      | .dispatched status =>
        { s with callbacks := ⟨r, status, .enter⟩ :: s.callbacks }.registered r j
  | _ => s

/-- The label `free_req`. -/
def freeReq (s : System) : System :=
  match s.ioctl with
  | .freeReq r rc => (s.setCtx (((s.ctx.clearCtx r).addFree r).setStory r .blank)).return_ rc
  | _ => s

/-- `cam_context_flush_dev_to_hw` for one request. -/
def flushReq (s : System) (id : ℕ) : System :=
  match s.ioctl with
  | .idle => s.setIoctl (.flushReq (.pending id))
  | _ => s

/-- `cam_context_flush_dev_to_hw` for all requests, which notes `last_flush_req`, or
`cam_context_stop_dev_to_hw`, up to the first loop of `cam_context_flush_ctx_to_hw`. -/
def flushCtx (s : System) (id : Option ℕ) : System :=
  match s.ioctl with
  | .idle =>
    if s.ctx.syncMutex = true then s
    else
      (s.setCtx { s.ctx with
        lastFlushReq := id.getD s.ctx.lastFlushReq
        syncMutex := true
        tempPending := s.ctx.pendingReqList
        pendingReqList := [] }).setIoctl (.flushPending .finished)
  | _ => s

/-- One step of the flush that the ioctl thread is in. -/
def flush (s : System) (rc : ℤ) : System :=
  match s.ioctl with
  | .flushReq .finished => s.return_ 0
  | .flushReq f => (s.setCtx (f.step s.ctx rc).1).setIoctl (.flushReq (f.step s.ctx rc).2)
  | .flushPending .finished =>
    match s.ctx.tempPending with
    | [] => (s.setCtx (s.ctx.setMutex false)).setIoctl .flushSplice
    | r :: _ =>
      (s.setCtx ((s.ctx.listDel r).setFlushed r true)).setIoctl (.flushPending (.deregister r 0 false))
  | .flushPending f => (s.setCtx (f.step s.ctx rc).1).setIoctl (.flushPending (f.step s.ctx rc).2)
  | .flushSplice =>
    (s.setCtx { s.ctx with tempActive := s.ctx.activeReqList, activeReqList := [] }).setIoctl
      (.flushActive .finished)
  | .flushActive .finished =>
    match s.ctx.tempActive with
    | [] => s.return_ 0
    | r :: _ => (s.setCtx (s.ctx.listDel r)).setIoctl (.flushActive (.signal r 0 true))
  | .flushActive f => (s.setCtx (f.step s.ctx rc).1).setIoctl (.flushActive (f.step s.ctx rc).2)
  | _ => s

/-- A fence is signalled: its callbacks are dispatched. -/
def fence (s : System) (sync : ℤ) (status : Signaled) : System :=
  { s with
    ctx := { s.ctx with registered := s.ctx.registered.filter (fun x => x.1 ≠ sync) }
    callbacks := (s.ctx.registered.filter (fun x => x.1 = sync)).map (fun x => ⟨x.2, status, .enter⟩) ++
      s.callbacks }

def callback (s : System) (t : Callback) (rc : ℤ) : System :=
  if t ∈ s.callbacks then
    { s with
      ctx := (t.step s.ctx rc).1
      callbacks := (t.step s.ctx rc).2.toList ++ s.callbacks.erase t }
  else s

/-- `cam_context_buf_done_from_hw` up to the first `spin_unlock`. -/
def bufDone (s : System) (id : ℕ) (bubble : Bool) : System :=
  match s.ctx.activeReqList with
  | [] => { s with ret := - Errno.EIO }
  | r :: _ =>
    if id ≠ (s.ctx.req r).requestId then { s with ret := - Errno.EIO }
    else if (s.ctx.req r).outMapEntries = [] then { s with ret := - Errno.EIO }
    else
      { s with
        ctx := s.ctx.listDel r
        dones := ⟨r, 0, if bubble = true then .error else .success⟩ :: s.dones }

/-- One step of the rest: a call of `cam_sync_signal`, or the return to the free list. -/
def done (s : System) (d : Done) : System :=
  if d ∈ s.dones then
    match (s.ctx.req d.req).outMapEntries[d.i]? with
    | some sync =>
      { s with
        ctx := s.ctx.doneSignal d sync
        dones := { d with i := d.i + 1 } :: s.dones.erase d }
    | none =>
      { s with
        ctx := (s.ctx.addFree d.req).clearCtx d.req
        dones := s.dones.erase d
        ret := 0 }
  else s

def step (s : System) : Op → System
  | .takeReq => s.takeReq
  | .prepareUpdate p => s.prepareUpdate p
  | .checkValid rc => s.checkValid rc
  | .registerCallback o => s.registerCallback o
  | .freeReq => s.freeReq
  | .flushReq id => s.flushReq id
  | .flushCtx id => s.flushCtx id
  | .flush rc => s.flush rc
  | .fence sync status => s.fence sync status
  | .callback t rc => s.callback t rc
  | .bufDone id bubble => s.bufDone id bubble
  | .done d => s.done d

/-- `cam_context_init` with `reqSize` objects. -/
def init (reqSize : ℕ) (hwFlush : Bool) : System where
  ctx :=
    { req := fun _ => ⟨true, 0, [], [], 0, false⟩
      freeReqList := List.range reqSize
      pendingReqList := []
      activeReqList := []
      tempPending := []
      tempActive := []
      lastFlushReq := 0
      hwFlush := hwFlush
      syncMutex := false
      registered := []
      story := fun _ => .blank }
  ioctl := .idle
  callbacks := []
  dones := []
  ret := 0

end System

end CameraKernel.CtxUtils
