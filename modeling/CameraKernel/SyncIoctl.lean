import CameraKernel.SyncOps

/-! The ioctls of the sync device that work on one fence, and the open and close of its
file. What a copy from user memory yields is part of the input. -/
namespace CameraKernel.SyncIoctl
open SyncTable SyncOps

/-- `cam_private_ioctl_arg`; `user` is what `copy_from_user` finds, `none` when it faults. -/
structure PrivateIoctlArg (α : Type) where
  size : ℕ
  ioctlPtr : ℕ
  user : Option α
  deriving DecidableEq, Repr

structure SyncSignal where
  syncObj : ℤ
  syncState : ℕ
  deriving DecidableEq, Repr

structure UserPayloadInfo where
  syncObj : ℤ
  payload : UInt64 × UInt64
  deriving DecidableEq, Repr

def sizeofSyncSignal : ℕ := 8
def sizeofUserPayloadInfo : ℕ := 24

/-- The checks every handler starts with. -/
def fetch {α : Type} (sizeof : ℕ) (arg : PrivateIoctlArg α) : Except ℤ α :=
  if arg.size ≠ sizeof then .error (-Errno.EINVAL)
  else if arg.ioctlPtr = 0 then .error (-Errno.EINVAL)
  else
    match arg.user with
    | none => .error (-Errno.EFAULT)
    | some v => .ok v

def camSyncHandleSignal (dev : SyncDevice) (arg : PrivateIoctlArg SyncSignal) : ℤ × SyncDevice :=
  match fetch sizeofSyncSignal arg with
  | .error rc => (rc, dev)
  | .ok s =>
    let r := camSyncGetObjRef dev s.syncObj
    if r.1 ≠ 0 then r else camSyncSignal r.2 s.syncObj s.syncState

/-- Unlike a callback, a payload is served on any signaled state: `remaining` is not read. -/
def camSyncHandleRegisterUserPayload (dev : SyncDevice) (arg : PrivateIoctlArg UserPayloadInfo)
    (alloc : Bool) : ℤ × SyncDevice :=
  match fetch sizeofUserPayloadInfo arg with
  | .error rc => (rc, dev)
  | .ok u =>
    if outOfRange u.syncObj then (-Errno.EINVAL, dev)
    else if !alloc then (-Errno.ENOMEM, dev)
    else
      let i := u.syncObj.toNat
      let row := dev.syncTable i
      if row.state = .invalid then (-Errno.EINVAL, dev)
      else if row.state = .signaledSuccess ∨ row.state = .signaledError then
        (0, { dev with trace := dev.trace ++ [SyncEvent.v4l2Event i row.clientId row.state u.payload] })
      else if u.payload ∈ row.userPayloadList then (-Errno.EALREADY, dev)
      else (0, setRow dev i { row with userPayloadList := row.userPayloadList ++ [u.payload] })

def camSyncHandleDeregisterUserPayload (dev : SyncDevice) (arg : PrivateIoctlArg UserPayloadInfo) :
    ℤ × SyncDevice :=
  match fetch sizeofUserPayloadInfo arg with
  | .error rc => (rc, dev)
  | .ok u =>
    if outOfRange u.syncObj then (-Errno.EINVAL, dev)
    else
      let i := u.syncObj.toNat
      let row := dev.syncTable i
      if row.state = .invalid then (-Errno.EINVAL, dev)
      else (0, setRow dev i { row with
        userPayloadList := row.userPayloadList.filter (· ≠ u.payload) })

/-- The row after a reset: its lists are dropped, not unlinked. -/
def resetRow (row : SyncTableRow) : SyncTableRow :=
  { row with
    state := .active, remaining := 0, refCnt := 0, signaled := false
    callbackList := [], parentsList := [], childrenList := [], userPayloadList := [] }

def camSyncReset (dev : SyncDevice) (obj : ℤ) : ℤ × SyncDevice :=
  if outOfRange obj then (-Errno.EINVAL, dev)
  else if (dev.syncTable obj.toNat).state = .invalid then (-Errno.EINVAL, dev)
  else (0, setRow dev obj.toNat (resetRow (dev.syncTable obj.toNat)))

/-- The argument is copied a second time for the registration: `again` is what is found then. -/
def camSyncHandleReset (dev : SyncDevice) (arg : PrivateIoctlArg UserPayloadInfo)
    (again : Option UserPayloadInfo) (alloc : Bool) : ℤ × SyncDevice :=
  match fetch sizeofUserPayloadInfo arg with
  | .error rc => (rc, dev)
  | .ok u =>
    let r := camSyncReset dev u.syncObj
    if r.1 ≠ 0 then r
    else camSyncHandleRegisterUserPayload r.2 { arg with user := again } alloc

structure SyncSys where
  dev : SyncDevice
  openCnt : ℕ

/-- `fh` is the answer of `v4l2_fh_open`. -/
def camSyncOpen (s : SyncSys) (fh : ℤ) : ℤ × SyncSys :=
  if fh ≠ 0 then (fh, s)
  else if s.openCnt + 1 > 1 then (0, { s with openCnt := s.openCnt + 1 })
  else (0, ⟨{ s.dev with camSyncEventq := true }, s.openCnt + 1⟩)

/-- The rows the two sweeps of the last close visit. -/
def sweptRows : List ℕ := List.range' 1 (camSyncMaxObjs - 1)

def closeSignal (r : ℤ × SyncDevice) (i : ℕ) : ℤ × SyncDevice :=
  if (r.2.syncTable i).state = .active then camSyncSignal r.2 i 3 else r

def closeDestroy (r : ℤ × SyncDevice) (i : ℕ) : ℤ × SyncDevice :=
  if (r.2.syncTable i).state ≠ .invalid then camSyncDestroy r.2 i else r

def closeSignalAll (dev : SyncDevice) : ℤ × SyncDevice := sweptRows.foldl closeSignal (0, dev)

def closeDestroyAll (r : ℤ × SyncDevice) : ℤ × SyncDevice := sweptRows.foldl closeDestroy r

/-- The driver once the last file is closed. -/
def closedSys (dev : SyncDevice) : SyncSys := ⟨{ dev with camSyncEventq := false }, 0⟩

/-- Between the sweeps the work queue is flushed, so what the first has queued has run. -/
def camSyncClose (s : SyncSys) : ℤ × SyncSys :=
  if s.openCnt - 1 ≠ 0 then (0, { s with openCnt := s.openCnt - 1 })
  else
    let r := closeDestroyAll (closeSignalAll s.dev)
    (r.1, closedSys r.2)

/-- One call on the driver: from the kernel side, or through an open file. -/
inductive SyncCall
  | kernel (op : SyncOp)
  | signal (arg : PrivateIoctlArg SyncSignal)
  | registerPayload (arg : PrivateIoctlArg UserPayloadInfo) (alloc : Bool)
  | deregisterPayload (arg : PrivateIoctlArg UserPayloadInfo)
  | reset (arg : PrivateIoctlArg UserPayloadInfo) (again : Option UserPayloadInfo) (alloc : Bool)
  | openFile (fh : ℤ)
  | closeFile

def SyncSys.onDev (s : SyncSys) (r : ℤ × SyncDevice) : SyncSys := { s with dev := r.2 }

/-- Without an open file there is nobody to make an ioctl or to close. -/
def sysStep (s : SyncSys) : SyncCall → SyncSys
  | .kernel op => { s with dev := step s.dev op }
  | .signal arg => if s.openCnt = 0 then s else s.onDev (camSyncHandleSignal s.dev arg)
  | .registerPayload arg alloc =>
    if s.openCnt = 0 then s else s.onDev (camSyncHandleRegisterUserPayload s.dev arg alloc)
  | .deregisterPayload arg =>
    if s.openCnt = 0 then s else s.onDev (camSyncHandleDeregisterUserPayload s.dev arg)
  | .reset arg again alloc =>
    if s.openCnt = 0 then s else s.onDev (camSyncHandleReset s.dev arg again alloc)
  | .openFile fh => (camSyncOpen s fh).2
  | .closeFile => if s.openCnt = 0 then s else (camSyncClose s).2

/-- The driver as the probe leaves it; `switch` is the module parameter. -/
def sysProbe (switch : Bool) : SyncSys := ⟨{ camSyncProbe with triggerCbWithoutSwitch := switch }, 0⟩

end CameraKernel.SyncIoctl
