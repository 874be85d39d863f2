import CameraKernel.SyncTable
import CameraKernel.Transition
import CameraKernel.MachineInt

/-! The entry points of the sync driver. Each row-lock critical section is a
definition of its own, and an entry point run to completion composes them.
Allocation outcomes are inputs. -/
namespace CameraKernel.SyncOps
open SyncTable MachineInt

/-- `find_first_zero_bit` and `test_and_set_bit`, with no other caller in between. -/
def takeBit (dev : SyncDevice) : Option (ℕ × SyncDevice) :=
  (findFirstZeroBit dev.bitmap).map fun idx => (idx, setBit dev idx true)

/-- The critical section of `cam_sync_create` on the row it has taken. -/
def createSection (dev : SyncDevice) (idx clientId : ℕ) : Except ℤ ℕ × SyncDevice :=
  let r := camSyncInitRow dev idx .indv clientId
  if r.1 ≠ 0 then (.error (-Errno.EINVAL), setBit r.2 idx false) else (.ok idx, r.2)

def camSyncCreate (dev : SyncDevice) (clientId : ℕ) : Except ℤ ℕ × SyncDevice :=
  match takeBit dev with
  | none => (.error (-Errno.ENOMEM), dev)
  | some (idx, dev) => createSection dev idx clientId

def camSyncCheckValid (dev : SyncDevice) (obj : ℤ) : ℤ :=
  if outOfRange obj then -Errno.EINVAL
  else if !dev.bitmap obj.toNat then -Errno.EINVAL
  else if (dev.syncTable obj.toNat).state = .invalid then -Errno.EINVAL
  else 0

def camSyncGetObjRef (dev : SyncDevice) (obj : ℤ) : ℤ × SyncDevice :=
  if outOfRange obj then (-Errno.EINVAL, dev)
  else
    let row := dev.syncTable obj.toNat
    if row.state ≠ .active then (-Errno.EINVAL, dev)
    else (0, setRow dev obj.toNat { row with refCnt := row.refCnt + 1 })

def camSyncPutObjRef (dev : SyncDevice) (obj : ℤ) : ℤ × SyncDevice :=
  if outOfRange obj then (-Errno.EINVAL, dev)
  else
    let row := dev.syncTable obj.toNat
    (0, setRow dev obj.toNat { row with refCnt := row.refCnt - 1 })

/-- The user status codes a signal accepts. -/
def signalStatus : ℕ → Option SyncState
  | 2 => some .signaledSuccess
  | 3 => some .signaledError
  | _ => none

/-- First critical section of `cam_sync_signal`. The list returned holds the
parents still to be told; it is empty unless the object really fires. -/
def signalSection (dev : SyncDevice) (obj : ℤ) (status : ℕ) :
    ℤ × Option (SyncState × List ℕ) × SyncDevice :=
  if outOfRange obj then (-Errno.EINVAL, none, dev)
  else
    let i := obj.toNat
    let row := dev.syncTable i
    if row.state = .invalid then (-Errno.EINVAL, none, dev)
    else if row.type = .group then (-Errno.EINVAL, none, dev)
    else if row.state ≠ .active then (-Errno.EALREADY, none, dev)
    else
      match signalStatus status with
      | none => (-Errno.EINVAL, none, dev)
      | some st =>
        let row := { row with refCnt := row.refCnt - 1 }
        if row.refCnt ≠ 0 then (0, none, setRow dev i row)
        else
          let dev := setRow dev i { row with state := st }
          let dev := camSyncUtilDispatchSignaledCb dev i st
          let row := dev.syncTable i
          (0, some (st, row.parentsList), setRow dev i { row with parentsList := [] })

/-- Critical section of `cam_sync_signal` on one parent: count down, fold the
status in, dispatch when the last child has reported. -/
def parentSection (status : SyncState) (dev : SyncDevice) (p : ℕ) : SyncDevice :=
  let row := dev.syncTable p
  let row := { row with remaining := u32Dec row.remaining }
  match camSyncUtilUpdateParentState row.state status with
  | none => setRow dev p row
  | some st =>
    let dev := setRow dev p { row with state := st }
    if row.remaining = 0 then camSyncUtilDispatchSignaledCb dev p st else dev

def camSyncSignal (dev : SyncDevice) (obj : ℤ) (status : ℕ) : ℤ × SyncDevice :=
  match signalSection dev obj status with
  | (rc, none, dev) => (rc, dev)
  | (_, some (st, parents), dev) => (0, parents.foldl (parentSection st) dev)

/-- One round of the child loop of `cam_sync_init_group_object`, under the child's
lock. `alloc` says whether the child node and the parent node can be allocated. -/
def mergeChild (idx : ℕ) (alloc : Bool × Bool) (dev : SyncDevice) (c : ℕ) : ℤ × SyncDevice :=
  let child := dev.syncTable c
  if child.type = .group ∨ child.state = .invalid then (-Errno.EINVAL, dev)
  else if child.state = .signaledError then
    (0, setRow dev idx { dev.syncTable idx with state := .signaledError })
  else if child.state ≠ .active then (0, dev)
  else
    let row := dev.syncTable idx
    let row := { row with
      clientId := child.clientId, remaining := u32Inc row.remaining }
    if !alloc.1 then (-Errno.ENOMEM, setRow dev idx row)
    else
      let dev := setRow dev idx { row with childrenList := row.childrenList ++ [c] }
      if !alloc.2 then (-Errno.ENOMEM, dev)
      else
        let child := dev.syncTable c
        (0, setRow dev c { child with parentsList := child.parentsList ++ [idx] })

/-- The child loop; it stops at the first failure and tells how many children it
had finished. -/
def mergeChildren (idx : ℕ) (alloc : ℕ → Bool × Bool) :
    ℕ → SyncDevice → List ℕ → ℤ × ℕ × SyncDevice
  | i, dev, [] => (0, i, dev)
  | i, dev, c :: cs =>
    match mergeChild idx (alloc i) dev c with
    | (0, dev) => mergeChildren idx alloc (i + 1) dev cs
    | (rc, dev) => (rc, i, dev)

/-- Undo the parent link of one child, under the child's lock. -/
def unlinkChild (idx : ℕ) (dev : SyncDevice) (c : ℕ) : SyncDevice :=
  setRow dev c (camSyncUtilCleanupParentsList (dev.syncTable c) .one idx)

/-- End of a successful child loop: a group with nothing to wait for is complete. -/
def mergeFinish (idx : ℕ) (dev : SyncDevice) : SyncDevice :=
  let row := dev.syncTable idx
  if row.remaining = 0 then
    setRow dev idx { row with
      state := if row.state = .signaledError then .signaledError else .signaledSuccess
      signaled := true }
  else dev

def camSyncInitGroupObject (dev : SyncDevice) (idx : ℕ) (objs : List ℕ)
    (alloc : ℕ → Bool × Bool) : ℤ × SyncDevice :=
  let dev := (camSyncInitRow dev idx .group 0).2
  match mergeChildren idx alloc 0 dev objs with
  | (0, _, dev) => (0, mergeFinish idx dev)
  | (rc, i, dev) =>
    let dev := setRow dev idx { dev.syncTable idx with state := .invalid }
    let dev := (objs.take i).reverse.foldl (unlinkChild idx) dev
    (rc, setRow dev idx (camSyncUtilCleanupChildrenList (dev.syncTable idx) .all 0))

/-- One outer round of `cam_common_util_remove_duplicate_arr` at index `i`. -/
def removeDuplicateRound (s : List ℤ × ℕ) (i : ℕ) : List ℤ × ℕ :=
  let x := s.1.getD i 0
  if x ∈ s.1.take s.2 then s else (s.1.set s.2 x, s.2 + 1)

/-- The array after the in-place pass and the number of entries kept. -/
def camCommonUtilRemoveDuplicateArr (arr : List ℤ) : List ℤ × ℕ :=
  (List.range' 1 (arr.length - 1)).foldl removeDuplicateRound (arr, 1)

def camSyncMerge (dev : SyncDevice) (objs : List ℤ) (alloc : ℕ → Bool × Bool) :
    Except ℤ ℕ × SyncDevice :=
  if objs.length ≤ 1 then (.error (-Errno.EINVAL), dev)
  else
    let r := camCommonUtilRemoveDuplicateArr objs
    if r.2 ≠ objs.length then (.error (-Errno.EINVAL), dev)
    else
      match (r.1.map (camSyncCheckValid dev)).find? (· ≠ 0) with
      | some rc => (.error rc, dev)
      | none =>
        match takeBit dev with
        | none => (.error (-Errno.ENOMEM), dev)
        | some (idx, dev) =>
          let g := camSyncInitGroupObject dev idx (r.1.map Int.toNat) alloc
          if g.1 < 0 then (.error (-Errno.EINVAL), setBit g.2 idx false) else (.ok idx, g.2)

/-- First critical section of `cam_sync_deinit_object`: the row turns INVALID and
its children and parents move to local lists. -/
def deinitDetach (dev : SyncDevice) (idx : ℕ) : Option (List ℕ × List ℕ × SyncDevice) :=
  let row := dev.syncTable idx
  if row.state = .invalid then none
  else some (row.childrenList.filter (0 < ·), row.parentsList.filter (0 < ·),
    setRow dev idx { row with
      state := .invalid
      childrenList := row.childrenList.filter (¬ 0 < ·)
      parentsList := row.parentsList.filter (¬ 0 < ·) })

/-- Section on one detached child. -/
def deinitChild (idx : ℕ) (dev : SyncDevice) (c : ℕ) : SyncDevice :=
  if (dev.syncTable c).state = .invalid then dev else unlinkChild idx dev c

/-- Section on one detached parent. -/
def deinitParent (idx : ℕ) (dev : SyncDevice) (p : ℕ) : SyncDevice :=
  if (dev.syncTable p).state = .invalid then dev
  else setRow dev p (camSyncUtilCleanupChildrenList (dev.syncTable p) .one idx)

/-- Last critical section: the row is zeroed and its bit given back. -/
def deinitClear (idx : ℕ) (dev : SyncDevice) : SyncDevice :=
  setBit (setRow dev idx zeroRow) idx false

def camSyncDeinitObject (dev : SyncDevice) (idx : ℕ) : ℤ × SyncDevice :=
  if idx = 0 ∨ idx ≥ camSyncMaxObjs then (-Errno.EINVAL, dev)
  else
    match deinitDetach dev idx with
    | none => (-Errno.EINVAL, dev)
    | some (children, parents, dev) =>
      let dev := children.foldl (deinitChild idx) dev
      let dev := parents.foldl (deinitParent idx) dev
      (0, deinitClear idx dev)

/-- A negative handle becomes a huge `uint32_t` index and is refused. -/
def camSyncDestroy (dev : SyncDevice) (obj : ℤ) : ℤ × SyncDevice :=
  if obj < 0 then (-Errno.EINVAL, dev) else camSyncDeinitObject dev obj.toNat

/-- A signaled state that no child will change any more. -/
def SyncTableRow.complete (row : SyncTableRow) : Bool :=
  decide ((row.state = .signaledSuccess ∨ row.state = .signaledError) ∧ row.remaining = 0)

def camSyncRegisterCallback (dev : SyncDevice) (cb : SyncCallback) (obj : ℤ) (alloc : Bool) :
    ℤ × SyncDevice :=
  if outOfRange obj ∨ cb.callbackFunc = 0 then (-Errno.EINVAL, dev)
  else
    let i := obj.toNat
    let row := dev.syncTable i
    if row.state = .invalid then (-Errno.EINVAL, dev)
    else if !alloc then (-Errno.ENOMEM, dev)
    else if SyncTableRow.complete row then
      (0, { dev with trace := dev.trace ++
        [if dev.triggerCbWithoutSwitch then .invoke i row.state cb
         else .queueWork i row.state cb] })
    else (0, setRow dev i { row with callbackList := row.callbackList ++ [cb] })

def camSyncDeregisterCallback (dev : SyncDevice) (cb : SyncCallback) (obj : ℤ) :
    ℤ × SyncDevice :=
  if outOfRange obj then (-Errno.EINVAL, dev)
  else
    let i := obj.toNat
    let row := dev.syncTable i
    if row.state = .invalid then (-Errno.EINVAL, dev)
    else
      (if cb ∈ row.callbackList then 0 else -Errno.ENOENT,
        setRow dev i { row with callbackList := row.callbackList.filter (· ≠ cb) })

/-- One call of the driver, with the outcomes of its allocations. -/
inductive SyncOp
  | create (clientId : ℕ)
  | merge (objs : List ℤ) (alloc : ℕ → Bool × Bool)
  | getObjRef (obj : ℤ)
  | putObjRef (obj : ℤ)
  | signal (obj : ℤ) (status : ℕ)
  | destroy (obj : ℤ)
  | registerCallback (cb : SyncCallback) (obj : ℤ) (alloc : Bool)
  | deregisterCallback (cb : SyncCallback) (obj : ℤ)

def step (dev : SyncDevice) : SyncOp → SyncDevice
  | .create clientId => (camSyncCreate dev clientId).2
  | .merge objs alloc => (camSyncMerge dev objs alloc).2
  | .getObjRef obj => (camSyncGetObjRef dev obj).2
  | .putObjRef obj => (camSyncPutObjRef dev obj).2
  | .signal obj status => (camSyncSignal dev obj status).2
  | .destroy obj => (camSyncDestroy dev obj).2
  | .registerCallback cb obj alloc => (camSyncRegisterCallback dev cb obj alloc).2
  | .deregisterCallback cb obj => (camSyncDeregisterCallback dev cb obj).2

end CameraKernel.SyncOps
