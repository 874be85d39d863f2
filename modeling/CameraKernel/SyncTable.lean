import CameraKernel.Errno

/-! The fence table of the sync driver: rows, bitmap and the row-level helpers.
Row names and the error counter are left out, since they only feed log lines.
Every effect visible outside the table is appended to `trace`. -/
namespace CameraKernel.SyncTable

def camSyncMaxObjs : ℕ := 1024

inductive SyncState
  | invalid
  | active
  | signaledSuccess
  | signaledError
  deriving DecidableEq, Repr

inductive SyncType
  | indv
  | group
  deriving DecidableEq, Repr

inductive SyncListClean
  | one
  | all
  deriving DecidableEq, Repr

/-- A registered kernel callback; a null function pointer is `0`. -/
structure SyncCallback where
  callbackFunc : ℕ
  cbData : ℕ
  deriving DecidableEq, Repr

structure SyncTableRow where
  type : SyncType
  syncId : ℕ
  parentsList : List ℕ
  childrenList : List ℕ
  state : SyncState
  remaining : ℕ
  signaled : Bool
  callbackList : List SyncCallback
  userPayloadList : List (UInt64 × UInt64)
  refCnt : BitVec 32
  clientId : ℕ
  deriving DecidableEq, Repr

/-- What the driver does to the outside: entering the dispatch routine, putting a
callback on the work queue, calling it directly, sending a V4L2 event. -/
inductive SyncEvent
  | dispatch (obj : ℕ) (status : SyncState)
  | queueWork (obj : ℕ) (status : SyncState) (cb : SyncCallback)
  | invoke (obj : ℕ) (status : SyncState) (cb : SyncCallback)
  | v4l2Event (obj clientId : ℕ) (status : SyncState) (payload : UInt64 × UInt64)
  deriving DecidableEq, Repr

/-- The object an event is about. -/
def SyncEvent.obj : SyncEvent → ℕ
  | .dispatch obj _ => obj
  | .queueWork obj _ _ => obj
  | .invoke obj _ _ => obj
  | .v4l2Event obj _ _ _ => obj

def SyncEvent.status : SyncEvent → SyncState
  | .dispatch _ status => status
  | .queueWork _ status _ => status
  | .invoke _ status _ => status
  | .v4l2Event _ _ status _ => status

structure SyncDevice where
  syncTable : ℕ → SyncTableRow
  bitmap : ℕ → Bool
  camSyncEventq : Bool
  triggerCbWithoutSwitch : Bool
  trace : List SyncEvent

/-- The row after `memset` to zero. -/
def zeroRow : SyncTableRow :=
  ⟨.indv, 0, [], [], .invalid, 0, false, [], [], 0, 0⟩

/-- The device as `cam_sync_probe` leaves it: only bit 0 is taken. -/
def camSyncProbe : SyncDevice :=
  ⟨fun _ => zeroRow, fun i => decide (i = 0), false, false, []⟩

def setRow (dev : SyncDevice) (i : ℕ) (row : SyncTableRow) : SyncDevice :=
  { dev with syncTable := Function.update dev.syncTable i row }

def setBit (dev : SyncDevice) (i : ℕ) (b : Bool) : SyncDevice :=
  { dev with bitmap := Function.update dev.bitmap i b }

def findFirstZeroBit (bitmap : ℕ → Bool) : Option ℕ :=
  (List.range camSyncMaxObjs).find? fun i => !bitmap i

/-- Range test every entry point starts with. -/
def outOfRange (obj : ℤ) : Bool := decide (obj ≥ camSyncMaxObjs ∨ obj ≤ 0)

/-- The contents `cam_sync_init_row` gives a row. -/
def initRow (idx : ℕ) (type : SyncType) (clientId : ℕ) : SyncTableRow :=
  { zeroRow with type := type, syncId := idx, state := .active, clientId := clientId }

def camSyncInitRow (dev : SyncDevice) (idx : ℕ) (type : SyncType) (clientId : ℕ) :
    ℤ × SyncDevice :=
  if idx = 0 ∨ idx ≥ camSyncMaxObjs then (-Errno.EINVAL, dev)
  else (0, setRow dev idx (initRow idx type clientId))

/-- Both list clean-up routines: drop the first matching entry, or all entries. -/
def cleanupList (cleanType : SyncListClean) (obj : ℕ) (l : List ℕ) : List ℕ :=
  match cleanType with
  | .one => l.erase obj
  | .all => []

def camSyncUtilCleanupChildrenList (row : SyncTableRow) (cleanType : SyncListClean) (obj : ℕ) :
    SyncTableRow :=
  { row with childrenList := cleanupList cleanType obj row.childrenList }

def camSyncUtilCleanupParentsList (row : SyncTableRow) (cleanType : SyncListClean) (obj : ℕ) :
    SyncTableRow :=
  { row with parentsList := cleanupList cleanType obj row.parentsList }

/-- Events of one dispatch: the queued callbacks, then the user payloads as long
as an event queue is open. -/
def dispatchEvents (eventq : Bool) (obj : ℕ) (status : SyncState) (row : SyncTableRow) :
    List SyncEvent :=
  SyncEvent.dispatch obj status :: row.callbackList.map (SyncEvent.queueWork obj status) ++
    if eventq then row.userPayloadList.map (SyncEvent.v4l2Event obj row.clientId status) else []

/-- The row after one dispatch. Payloads stay listed when no event queue is open. -/
def dispatchedRow (eventq : Bool) (row : SyncTableRow) : SyncTableRow :=
  { row with
    callbackList := []
    userPayloadList := if eventq then [] else row.userPayloadList
    signaled := true }

def camSyncUtilDispatchSignaledCb (dev : SyncDevice) (obj : ℕ) (status : SyncState) :
    SyncDevice :=
  let row := dev.syncTable obj
  if row.state = .invalid then dev
  else
    { setRow dev obj (dispatchedRow dev.camSyncEventq row) with
      trace := dev.trace ++ dispatchEvents dev.camSyncEventq obj status row }

/-- The state of a parent after one of its children is signaled with `newState`;
`none` is the `-EINVAL` return. -/
def camSyncUtilUpdateParentState (state newState : SyncState) : Option SyncState :=
  match state with
  | .active | .signaledSuccess => some newState
  | .signaledError => some .signaledError
  | .invalid => none

section Updates
variable (dev : SyncDevice) (i j : ℕ) (row : SyncTableRow) (b : Bool)

@[simp] lemma setRow_self : (setRow dev i row).syncTable i = row := by simp [setRow]

lemma setRow_apply : (setRow dev i row).syncTable j = if j = i then row else dev.syncTable j := by
  simp [setRow, Function.update_apply]

@[simp] lemma setRow_ne (h : j ≠ i) : (setRow dev i row).syncTable j = dev.syncTable j := by
  simp [setRow_apply, h]

@[simp] lemma setRow_bitmap : (setRow dev i row).bitmap = dev.bitmap := rfl
@[simp] lemma setRow_trace : (setRow dev i row).trace = dev.trace := rfl
@[simp] lemma setRow_eventq : (setRow dev i row).camSyncEventq = dev.camSyncEventq := rfl
@[simp] lemma setRow_switch :
    (setRow dev i row).triggerCbWithoutSwitch = dev.triggerCbWithoutSwitch := rfl
@[simp] lemma setBit_syncTable : (setBit dev i b).syncTable = dev.syncTable := rfl
@[simp] lemma setBit_trace : (setBit dev i b).trace = dev.trace := rfl
@[simp] lemma setBit_eventq : (setBit dev i b).camSyncEventq = dev.camSyncEventq := rfl
@[simp] lemma setBit_switch :
    (setBit dev i b).triggerCbWithoutSwitch = dev.triggerCbWithoutSwitch := rfl

lemma setBit_apply : (setBit dev i b).bitmap j = if j = i then b else dev.bitmap j := by
  simp [setBit, Function.update_apply]

end Updates

lemma findFirstZeroBit_some {bitmap : ℕ → Bool} {idx : ℕ}
    (h : findFirstZeroBit bitmap = some idx) : idx < camSyncMaxObjs ∧ bitmap idx = false := by
  have hm := List.mem_of_find?_eq_some h
  have hp := List.find?_some h
  exact ⟨List.mem_range.mp hm, by simpa using hp⟩

lemma outOfRange_eq_false {obj : ℤ} (h : outOfRange obj = false) :
    0 < obj.toNat ∧ obj.toNat < camSyncMaxObjs ∧ (obj.toNat : ℤ) = obj := by
  simp only [outOfRange, decide_eq_false_iff_not, not_or, not_le] at h
  omega

end CameraKernel.SyncTable
