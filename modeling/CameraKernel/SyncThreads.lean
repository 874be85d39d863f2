import CameraKernel.SyncOps

/-! Concurrent calls of the sync driver. Every row-lock critical section is one
step, and a merge keeps the lock of its own row from the first to the last of its
sections. The fields `gen` and `merged` are ghosts: they tell the objects that
have used one row apart and record which object was merged into which. -/
namespace CameraKernel.SyncThreads
open SyncTable SyncOps

/-- A row together with the number of times it had been initialised. -/
structure Occupant where
  row : ℕ
  gen : ℕ
  deriving DecidableEq, Repr

/-- Where a call stands between two of its critical sections. -/
inductive Call
  /-- `cam_sync_create` has taken a bit. -/
  | create (idx clientId : ℕ)
  /-- `cam_sync_merge` is validating its objects. -/
  | check (objs rest : List ℤ) (alloc : ℕ → Bool × Bool)
  /-- `cam_sync_merge` has taken a bit. -/
  | group (idx : ℕ) (objs : List ℕ) (alloc : ℕ → Bool × Bool)
  /-- `cam_sync_init_group_object` is in its child loop. -/
  | link (idx : ℕ) (linked rest : List ℕ) (alloc : ℕ → Bool × Bool)
  /-- `cam_sync_init_group_object` is at `clean_children_info`. -/
  | unlink (idx : ℕ) (rest : List ℕ)
  /-- `cam_sync_signal` holds a detached parents list. -/
  | notify (src : Occupant) (status : SyncState) (parents : List ℕ)
  /-- `cam_sync_deinit_object` holds detached lists. -/
  | destroy (idx : ℕ) (children parents : List ℕ)
  | done

structure Sys where
  dev : SyncDevice
  calls : List Call
  gen : ℕ → ℕ
  merged : List (Occupant × Occupant)

def probe : Sys := ⟨camSyncProbe, [], fun _ => 0, []⟩

/-- The row whose lock the call keeps between its steps. -/
def Call.holds : Call → Option ℕ
  | .link idx _ _ _ => some idx
  | .unlink idx _ => some idx
  | _ => none

/-- The parents a call still has to notify. -/
def Call.pending : Call → List ℕ
  | .notify _ _ parents => parents
  | _ => []

def Sys.locked (s : Sys) (x : ℕ) : Bool := s.calls.any fun c => c.holds == some x

def Sys.occupant (s : Sys) (x : ℕ) : Occupant := ⟨x, s.gen x⟩

def bump (gen : ℕ → ℕ) (x : ℕ) : ℕ → ℕ := Function.update gen x (gen x + 1)

/-- One scheduling decision: a call starts, a checked merge takes a bit, or a call
does its next critical section. Any zero bit may be the one that is taken, since
the search and `test_and_set_bit` are two steps of the source. -/
inductive Choice
  | create (idx clientId : ℕ)
  | merge (objs : List ℤ) (alloc : ℕ → Bool × Bool)
  | take (k idx : ℕ)
  | getObjRef (obj : ℤ)
  | putObjRef (obj : ℤ)
  | signal (obj : ℤ) (status : ℕ)
  | destroy (obj : ℤ)
  | advance (k : ℕ)

/-- The section of a merge on its next child. -/
def linkSection (s : Sys) (idx : ℕ) (linked : List ℕ) (c : ℕ) (rest : List ℕ)
    (alloc : ℕ → Bool × Bool) : Call × Sys :=
  let r := mergeChild idx (alloc linked.length) s.dev c
  if r.1 = 0 then
    (.link idx (linked ++ [c]) rest alloc,
      { s with dev := r.2, merged := (s.occupant c, s.occupant idx) :: s.merged })
  else
    (.unlink idx linked.reverse,
      { s with dev := setRow r.2 idx { r.2.syncTable idx with state := .invalid } })

/-- The end of `clean_children_info` and the error exit of `cam_sync_merge`. -/
def abandon (idx : ℕ) (dev : SyncDevice) : SyncDevice :=
  setBit (setRow dev idx (camSyncUtilCleanupChildrenList (dev.syncTable idx) .all 0)) idx false

/-- The next critical section of a call; a call that meets a held lock spins. -/
def Call.advance (s : Sys) (call : Call) : Call × Sys :=
  match call with
  | .create idx clientId =>
    if s.locked idx then (call, s)
    else (.done, { s with
      dev := (createSection s.dev idx clientId).2, gen := bump s.gen idx })
  | .check objs (o :: rest) alloc =>
    if camSyncCheckValid s.dev o = 0 then (.check objs rest alloc, s) else (.done, s)
  | .check _ [] _ => (call, s)
  | .group idx objs alloc =>
    if s.locked idx then (call, s)
    else (.link idx [] objs alloc, { s with
      dev := (camSyncInitRow s.dev idx .group 0).2, gen := bump s.gen idx })
  | .link idx linked (c :: rest) alloc =>
    if s.locked c then (call, s) else linkSection s idx linked c rest alloc
  | .link idx _ [] _ => (.done, { s with dev := mergeFinish idx s.dev })
  | .unlink idx (c :: rest) =>
    if s.locked c then (call, s) else (.unlink idx rest, { s with dev := unlinkChild idx s.dev c })
  | .unlink idx [] => (.done, { s with dev := abandon idx s.dev })
  | .notify src st (p :: ps) =>
    if s.locked p then (call, s) else (.notify src st ps, { s with dev := parentSection st s.dev p })
  | .notify _ _ [] => (.done, s)
  | .destroy idx (c :: children) parents =>
    if s.locked c then (call, s)
    else (.destroy idx children parents, { s with dev := deinitChild idx s.dev c })
  | .destroy idx [] (p :: parents) =>
    if s.locked p then (call, s)
    else (.destroy idx [] parents, { s with dev := deinitParent idx s.dev p })
  | .destroy idx [] [] =>
    if s.locked idx then (call, s) else (.done, { s with dev := deinitClear idx s.dev })
  | .done => (call, s)

def freeBit (dev : SyncDevice) (idx : ℕ) : Bool :=
  decide (idx < camSyncMaxObjs) && !dev.bitmap idx

def Sys.start (s : Sys) (call : Call) : Sys := { s with calls := s.calls ++ [call] }

/-- The first section of a signal. -/
def startSignal (s : Sys) (obj : ℤ) (status : ℕ) : Sys :=
  let r := signalSection s.dev obj status
  match r.2.1 with
  | none => { s with dev := r.2.2 }
  | some (st, parents) =>
    Sys.start { s with dev := r.2.2 } (.notify (s.occupant obj.toNat) st parents)

/-- The first section of a destroy. -/
def startDestroy (s : Sys) (idx : ℕ) : Sys :=
  match deinitDetach s.dev idx with
  | none => s
  | some (children, parents, dev) => Sys.start { s with dev := dev } (.destroy idx children parents)

def step (s : Sys) : Choice → Sys
  | .create idx clientId =>
    if freeBit s.dev idx then
      Sys.start { s with dev := setBit s.dev idx true } (.create idx clientId)
    else s
  | .merge objs alloc =>
    if objs.length ≤ 1 ∨ (camCommonUtilRemoveDuplicateArr objs).2 ≠ objs.length then s
    else s.start (.check (camCommonUtilRemoveDuplicateArr objs).1
      (camCommonUtilRemoveDuplicateArr objs).1 alloc)
  | .take k idx =>
    match s.calls[k]? with
    | some (.check objs [] alloc) =>
      if freeBit s.dev idx then
        { s with
          dev := setBit s.dev idx true
          calls := s.calls.set k (.group idx (objs.map Int.toNat) alloc) }
      else s
    | _ => s
  | .getObjRef obj =>
    if s.locked obj.toNat then s else { s with dev := (camSyncGetObjRef s.dev obj).2 }
  | .putObjRef obj => { s with dev := (camSyncPutObjRef s.dev obj).2 }
  | .signal obj status => if s.locked obj.toNat then s else startSignal s obj status
  | .destroy obj =>
    if obj ≤ 0 ∨ obj ≥ camSyncMaxObjs then s
    else if s.locked obj.toNat then s
    else startDestroy s obj.toNat
  | .advance k =>
    match s.calls[k]? with
    | none => s
    | some call =>
      let r := call.advance s
      { r.2 with calls := s.calls.set k r.1 }

/-- The row a call is building or taking down. -/
def Call.owner : Call → Option ℕ
  | .create idx _ => some idx
  | .group idx _ _ => some idx
  | .link idx _ _ _ => some idx
  | .unlink idx _ => some idx
  | .destroy idx _ _ => some idx
  | _ => none

/-- Why a step may move row `x` out of ACTIVE or change its counter. -/
inductive Cause (s : Sys) (x : ℕ) : Choice → Prop
  /-- A signal of that very object. -/
  | signal {obj : ℤ} {status : ℕ} (h : obj.toNat = x) : Cause s x (.signal obj status)
  /-- A signal of an object merged into the one that now occupies the row; the
  counter is not at zero. -/
  | notified {k : ℕ} {src : Occupant} {st : SyncState} {ps : List ℕ}
      (hk : s.calls[k]? = some (.notify src st (x :: ps)))
      (hm : (src, s.occupant x) ∈ s.merged) (hr : 0 < (s.dev.syncTable x).remaining) :
      Cause s x (.advance k)
  /-- The call that is building the row or taking it down. -/
  | owner {k : ℕ} {call : Call} (hk : s.calls[k]? = some call) (ho : call.owner = some x) :
      Cause s x (.advance k)
  /-- The start of the row's own destruction. -/
  | destroy {obj : ℤ} (h : obj.toNat = x) : Cause s x (.destroy obj)

/-- No row leaves ACTIVE, and no counter changes, for a reason that lies outside
the object occupying the row. -/
def NoForeignHit (s : Sys) (i : Choice) : Prop :=
  ∀ x, (s.dev.syncTable x).state = .active ∧ ((step s i).dev.syncTable x).state ≠ .active ∨
    ((step s i).dev.syncTable x).remaining ≠ (s.dev.syncTable x).remaining → Cause s x i

/-- The index a step of the call would give back. -/
def Call.releases : Call → Option ℕ
  | .unlink idx [] => some idx
  | .destroy idx [] [] => some idx
  | _ => none

/-- No index is given back while a signal still holds an undelivered entry for it. -/
def ReleasesQuiet (s : Sys) : Choice → Prop
  | .advance k => ∀ call ∈ s.calls[k]?, ∀ x ∈ call.releases, ∀ c ∈ s.calls, x ∉ c.pending
  | _ => True

instance (s : Sys) : ∀ i, Decidable (ReleasesQuiet s i)
  | .advance k => inferInstanceAs
      (Decidable (∀ call ∈ s.calls[k]?, ∀ x ∈ call.releases, ∀ c ∈ s.calls, x ∉ c.pending))
  | .create .. | .merge .. | .take .. | .getObjRef _ | .putObjRef _ | .signal .. | .destroy _ =>
    isTrue trivial

end CameraKernel.SyncThreads
