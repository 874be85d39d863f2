import CameraKernel.CtxUtils
import CameraKernel.SyncSignal

/-! One uninterrupted call of `cam_context_prepare_dev_to_hw`, with the references and the
callbacks it takes in the fence table. What the code outside answers, and which allocations
succeed, are given; `lastAck` is the callback that finds every input fence counted. -/
namespace CameraKernel.CtxSubmit
open CtxUtils (CtxRequest)
open SyncIoctl (withRef camSyncGetObjRef_active camSyncGetObjRef_refused)
open SyncTable SyncOps SyncSpec Errno

/-- `sizeof(struct cam_packet)`. -/
def sizeofCamPacket : ℕ := 64

/-- The address of `cam_context_sync_callback`. -/
def camContextSyncCallback : ℕ := 1

/-- `cpuBufs` is the number of gets less the number of puts of the packet buffer. -/
structure Submit where
  req : ℕ → CtxRequest
  freeReqList : List ℕ
  pendingReqList : List ℕ
  activeReqList : List ℕ
  waitReqList : List ℕ
  lastFlushReq : ℕ
  refcount : ℕ
  cpuBufs : ℤ
  sync : SyncDevice

/-- What the call reads and is told: `cam_context_validate_thread`, the length of the packet
buffer, the packet, `hw_prepare_update` and the allocation for input fence `j`. -/
structure Answers where
  threadRc : ℤ
  cpuBuf : Option ℕ
  offset : ℕ
  requestId : ℕ
  prepareRc : ℤ
  outMapEntries : List ℤ
  inMapEntries : List ℤ
  alloc : ℕ → Bool
  lastAck : Submit → ℕ → SyncState → Submit

namespace Submit

def setReq (s : Submit) (r : ℕ) (q : CtxRequest) : Submit :=
  { s with req := Function.update s.req r q }

/-- `list_del_init` of an object, wherever it is linked. -/
def listDel (s : Submit) (r : ℕ) : Submit :=
  { s with
    freeReqList := s.freeReqList.erase r
    pendingReqList := s.pendingReqList.erase r
    activeReqList := s.activeReqList.erase r
    waitReqList := s.waitReqList.erase r }

def addPending (s : Submit) (r : ℕ) : Submit :=
  { s with pendingReqList := s.pendingReqList ++ [r] }

/-- `cam_context_getref`: a count of 0 stays as it is. -/
def getref (s : Submit) : Submit :=
  { s with refcount := if s.refcount = 0 then 0 else s.refcount + 1 }

def putref (s : Submit) : Submit := { s with refcount := s.refcount - 1 }

def getCpuBuf (s : Submit) : Submit := { s with cpuBufs := s.cpuBufs + 1 }

def putCpuBuf (s : Submit) : Submit := { s with cpuBufs := s.cpuBufs - 1 }

/-- The object is taken off the free list and cleared. -/
def takeReq (s : Submit) (r : ℕ) : Submit :=
  (s.listDel r).setReq r ⟨true, 0, [], [], 0, false⟩

/-- The label `free_req`. An object that is still on another list stays linked there. -/
def freeReq (s : Submit) (r : ℕ) : Submit :=
  { s with freeReqList := s.freeReqList ++ [r] }.setReq r { s.req r with ctx := false }

/-- The label `free_cpu_buf`. -/
def freeCpuBuf (s : Submit) (r : ℕ) : Submit := s.putCpuBuf.freeReq r

end Submit

/-- References to the output fences, up to the first that is refused. The list holds the
fences taken. -/
def getRefs : List ℤ → SyncDevice → ℤ × List ℤ × SyncDevice
  | [], dev => (0, [], dev)
  | o :: outs, dev =>
    let d := camSyncGetObjRef dev o
    if d.1 ≠ 0 then (d.1, [], d.2)
    else
      let t := getRefs outs d.2
      (t.1, o :: t.2.1, t.2.2)

/-- The loop under `put_ref`, last fence first. -/
def putRefs (taken : List ℤ) (dev : SyncDevice) : SyncDevice :=
  taken.foldr (fun o d => (camSyncPutObjRef d o).2) dev

/-- The first error of the loop over `cam_sync_check_valid`. -/
def checkFences (dev : SyncDevice) : List ℤ → ℤ
  | [] => 0
  | x :: xs => if camSyncCheckValid dev x ≠ 0 then camSyncCheckValid dev x else checkFences dev xs

/-- A registration for this fence calls back before it returns. -/
def calledBack (dev : SyncDevice) (x : ℤ) : Bool :=
  SyncTableRow.complete (dev.syncTable x.toNat) && dev.triggerCbWithoutSwitch

/-- `cam_context_sync_callback`. -/
def contextSyncCallback (a : Answers) (r : ℕ) (status : SyncState) (s : Submit) : Submit :=
  if (s.req r).ctx = false then s
  else
    let s := s.setReq r { s.req r with numInAcked := (s.req r).numInAcked + 1 }
    if (s.req r).numInAcked = (s.req r).inMapEntries.length then (a.lastAck s r status).putref
    else s.putref

/-- The loop that registers the input fences, from fence `j` on. -/
def registerFences (a : Answers) (r : ℕ) : ℕ → List ℤ → Submit → ℤ × Submit
  | _, [], s => (0, s)
  | j, x :: xs, s =>
    let s := s.getref
    let d := camSyncRegisterCallback s.sync ⟨camContextSyncCallback, r⟩ x (a.alloc j)
    let t := { s with sync := d.2 }
    if d.1 ≠ 0 then (d.1, (t.listDel r).putref)
    else
      registerFences a r (j + 1) xs
        (if calledBack s.sync x = true then
          contextSyncCallback a r (s.sync.syncTable x.toNat).state t else t)

/-- The two loops over the input fences, behind the pending list. -/
def submitFences (a : Answers) (r : ℕ) (s : Submit) : ℤ × Submit :=
  if a.inMapEntries = [] then (0, s)
  else
    let s := s.addPending r
    let rc := checkFences s.sync a.inMapEntries
    if rc ≠ 0 then (rc, s) else registerFences a r 0 a.inMapEntries s

/-- What follows a successful `hw_prepare_update`, with the label `put_ref`. -/
def submitReq (a : Answers) (r : ℕ) (s : Submit) : ℤ × Submit :=
  let s := s.setReq r ⟨true, a.requestId, a.inMapEntries, a.outMapEntries, 0, false⟩
  let g := getRefs a.outMapEntries s.sync
  let f := if g.1 ≠ 0 then (g.1, { s with sync := g.2.2 })
    else submitFences a r { s with sync := g.2.2 }
  if f.1 ≠ 0 then (f.1, { f.2 with sync := putRefs g.2.1 f.2.sync }.freeCpuBuf r)
  else (f.1, f.2.putCpuBuf)

def prepareDevToHw (a : Answers) (s : Submit) : ℤ × Submit :=
  if a.threadRc ≠ 0 then (a.threadRc, s)
  else
    match s.freeReqList with
    | [] => (-ENOMEM, s)
    | r :: _ =>
      let s := s.takeReq r
      match a.cpuBuf with
      | none => (-EINVAL, s.freeReq r)
      | some len =>
        let s := s.getCpuBuf
        if len < sizeofCamPacket ∨ a.offset ≥ len - sizeofCamPacket then (-EINVAL, s.freeCpuBuf r)
        else if a.requestId ≤ s.lastFlushReq then (-EINVAL, s.freeCpuBuf r)
        else
          let s := { s with lastFlushReq := 0 }
          if a.prepareRc ≠ 0 then (-EFAULT, s.freeCpuBuf r) else submitReq a r s

/-- `cam_sync_get_obj_ref` accepts the fence. -/
def refable (dev : SyncDevice) (o : ℤ) : Prop :=
  outOfRange o = false ∧ (dev.syncTable o.toNat).state = .active

instance (dev : SyncDevice) (o : ℤ) : Decidable (refable dev o) := by
  unfold refable
  infer_instance

/-- Nothing the loops over the input fences test is different. -/
structure SameFences (d e : SyncDevice) : Prop where
  state : ∀ x, (e.syncTable x).state = (d.syncTable x).state
  remaining : ∀ x, (e.syncTable x).remaining = (d.syncTable x).remaining
  bitmap : e.bitmap = d.bitmap
  trigger : e.triggerCbWithoutSwitch = d.triggerCbWithoutSwitch

section Devices
variable {d e f : SyncDevice} {o x : ℤ} {i : ℕ} {outs taken : List ℤ}

lemma SameFences.refl (d : SyncDevice) : SameFences d d := ⟨fun _ => rfl, fun _ => rfl, rfl, rfl⟩

lemma SameFences.trans (hd : SameFences d e) (he : SameFences e f) : SameFences d f where
  state x := (he.state x).trans (hd.state x)
  remaining x := (he.remaining x).trans (hd.remaining x)
  bitmap := he.bitmap.trans hd.bitmap
  trigger := he.trigger.trans hd.trigger

lemma SameFences.setRow {row : SyncTableRow} (hs : row.state = (d.syncTable i).state)
    (hr : row.remaining = (d.syncTable i).remaining) : SameFences d (setRow d i row) where
  state x := by
    by_cases hx : x = i
    · subst hx
      simpa [SyncTable.setRow] using hs
    · simp [SyncTable.setRow, Function.update_of_ne hx]
  remaining x := by
    by_cases hx : x = i
    · subst hx
      simpa [SyncTable.setRow] using hr
    · simp [SyncTable.setRow, Function.update_of_ne hx]
  bitmap := rfl
  trigger := rfl

lemma SameFences.calledBack (h : SameFences d e) (x : ℤ) : calledBack e x = calledBack d x := by
  simp only [CtxSubmit.calledBack, SyncTableRow.complete, h.state, h.remaining, h.trigger]

lemma SameFences.checkValid (h : SameFences d e) (x : ℤ) :
    camSyncCheckValid e x = camSyncCheckValid d x := by
  simp only [camSyncCheckValid, h.state, h.bitmap]

lemma SameFences.refable (h : SameFences d e) (o : ℤ) : refable e o ↔ refable d o := by
  simp only [CtxSubmit.refable, h.state]

lemma sameFences_withRef (d : SyncDevice) (i : ℕ) : SameFences d (withRef d i) :=
  SameFences.setRow rfl rfl

lemma camSyncGetObjRef_not_taken (h : ¬refable d o) : camSyncGetObjRef d o = (-EINVAL, d) := by
  refine camSyncGetObjRef_refused ?_
  by_contra hn
  push Not at hn
  exact h ⟨by simpa using hn.1, hn.2⟩

lemma camSyncPutObjRef_withRef (hr : outOfRange o = false) :
    (camSyncPutObjRef (withRef d o.toNat) o).2 = d := by
  simp [camSyncPutObjRef, hr, withRef, SyncTable.setRow]

lemma getRefs_cons_taken (h : refable d o) :
    getRefs (o :: outs) d =
      ((getRefs outs (withRef d o.toNat)).1, o :: (getRefs outs (withRef d o.toNat)).2.1,
        (getRefs outs (withRef d o.toNat)).2.2) := by
  simp [getRefs, camSyncGetObjRef_active h.1 h.2]

lemma getRefs_cons_not_taken (h : ¬refable d o) : getRefs (o :: outs) d = (-EINVAL, [], d) := by
  have hE : -EINVAL ≠ 0 := by decide
  simp [getRefs, camSyncGetObjRef_not_taken h, hE]

theorem putRefs_getRefs (outs : List ℤ) (d : SyncDevice) :
    putRefs (getRefs outs d).2.1 (getRefs outs d).2.2 = d := by
  induction outs generalizing d with
  | nil => rfl
  | cons o outs ih =>
    by_cases h : refable d o
    · rw [getRefs_cons_taken h]
      have hrest := ih (withRef d o.toNat)
      change (camSyncPutObjRef (putRefs _ _) o).2 = d
      rw [hrest]
      exact camSyncPutObjRef_withRef h.1
    · rw [getRefs_cons_not_taken h]
      rfl

lemma getRefs_sameFences (outs : List ℤ) (d : SyncDevice) :
    SameFences d (getRefs outs d).2.2 := by
  induction outs generalizing d with
  | nil => exact .refl d
  | cons o outs ih =>
    by_cases h : refable d o
    · rw [getRefs_cons_taken h]
      exact (sameFences_withRef d o.toNat).trans (ih _)
    · rw [getRefs_cons_not_taken h]
      exact .refl d

lemma getRefs_eq_zero (outs : List ℤ) (d : SyncDevice) :
    (getRefs outs d).1 = 0 ↔ ∀ o ∈ outs, refable d o := by
  induction outs generalizing d with
  | nil => simp [getRefs]
  | cons o outs ih =>
    have hE : -EINVAL ≠ 0 := by decide
    by_cases h : refable d o
    · rw [getRefs_cons_taken h]
      simp only [ih, (sameFences_withRef d o.toNat).refable, List.forall_mem_cons, h, true_and]
    · rw [getRefs_cons_not_taken h]
      simp [hE, h]

lemma camSyncPutObjRef_callbackList (d : SyncDevice) (o : ℤ) (i : ℕ) :
    ((camSyncPutObjRef d o).2.syncTable i).callbackList = (d.syncTable i).callbackList := by
  unfold camSyncPutObjRef
  split
  · rfl
  · by_cases hi : i = o.toNat
    · subst hi
      simp [SyncTable.setRow]
    · simp [SyncTable.setRow, Function.update_of_ne hi]

lemma putRefs_callbackList (taken : List ℤ) (d : SyncDevice) (i : ℕ) :
    ((putRefs taken d).syncTable i).callbackList = (d.syncTable i).callbackList := by
  induction taken with
  | nil => rfl
  | cons o taken ih => exact (camSyncPutObjRef_callbackList _ o i).trans ih

lemma camSyncPutObjRef_refCnt_congr (h : ∀ i, (e.syncTable i).refCnt = (d.syncTable i).refCnt)
    (o : ℤ) (i : ℕ) :
    ((camSyncPutObjRef e o).2.syncTable i).refCnt = ((camSyncPutObjRef d o).2.syncTable i).refCnt := by
  unfold camSyncPutObjRef
  split
  · exact h i
  · by_cases hi : i = o.toNat
    · subst hi
      simp [SyncTable.setRow, h]
    · simp [SyncTable.setRow, Function.update_of_ne hi, h]

lemma putRefs_refCnt_congr (h : ∀ i, (e.syncTable i).refCnt = (d.syncTable i).refCnt)
    (taken : List ℤ) (i : ℕ) :
    ((putRefs taken e).syncTable i).refCnt = ((putRefs taken d).syncTable i).refCnt := by
  induction taken generalizing i with
  | nil => exact h i
  | cons o taken ih => exact camSyncPutObjRef_refCnt_congr ih o i

lemma checkFences_eq_zero (d : SyncDevice) (xs : List ℤ) :
    checkFences d xs = 0 ↔ ∀ x ∈ xs, camSyncCheckValid d x = 0 := by
  induction xs with
  | nil => simp [checkFences]
  | cons x xs ih =>
    by_cases hx : camSyncCheckValid d x = 0
    · simp [checkFences, hx, ih]
    · simp [checkFences, hx]

lemma checkValid_row (hv : camSyncCheckValid d x = 0) :
    outOfRange x = false ∧ (d.syncTable x.toNat).state ≠ .invalid := by
  have hE : -EINVAL ≠ 0 := by decide
  unfold camSyncCheckValid at hv
  by_cases hr : outOfRange x = true
  · rw [if_pos hr] at hv
    exact absurd hv hE
  rw [if_neg hr] at hv
  by_cases hb : (!d.bitmap x.toNat) = true
  · rw [if_pos hb] at hv
    exact absurd hv hE
  rw [if_neg hb] at hv
  refine ⟨by simpa using hr, fun hs => ?_⟩
  rw [if_pos hs] at hv
  exact hE hv

lemma camSyncRegisterCallback_eq_zero (r : ℕ) (alloc : Bool) (hv : camSyncCheckValid d x = 0) :
    (camSyncRegisterCallback d ⟨camContextSyncCallback, r⟩ x alloc).1 = 0 ↔ alloc = true := by
  have hM : -ENOMEM ≠ 0 := by decide
  obtain ⟨hr, hs⟩ := checkValid_row hv
  cases alloc with
  | false => simp [camSyncRegisterCallback, hr, hs, camContextSyncCallback, hM]
  | true =>
    by_cases hc : SyncTableRow.complete (d.syncTable x.toNat) = true
    · simp [camSyncRegisterCallback, hr, hs, camContextSyncCallback, hc]
    · simp [camSyncRegisterCallback, hr, hs, camContextSyncCallback, hc]

lemma camSyncRegisterCallback_kept (cb : SyncCallback) (alloc : Bool) :
    SameFences d (camSyncRegisterCallback d cb x alloc).2 ∧
      (∀ i, ((camSyncRegisterCallback d cb x alloc).2.syncTable i).refCnt = (d.syncTable i).refCnt) ∧
      (calledBack d x = true → (camSyncRegisterCallback d cb x alloc).2.syncTable = d.syncTable) := by
  rcases camSyncRegisterCallback_cases d cb x alloc with ⟨-, he⟩ | ⟨-, -, he⟩ | ⟨-, hc, he⟩
  · rw [he]
    exact ⟨.refl d, fun _ => rfl, fun _ => rfl⟩
  · rw [he]
    exact ⟨⟨fun _ => rfl, fun _ => rfl, rfl, rfl⟩, fun _ => rfl, fun _ => rfl⟩
  · rw [he]
    refine ⟨SameFences.setRow rfl rfl, fun i => ?_, fun hb => ?_⟩
    · by_cases hi : i = x.toNat
      · subst hi
        simp [SyncTable.setRow]
      · simp [SyncTable.setRow, Function.update_of_ne hi]
    · simp [calledBack, hc] at hb

end Devices

/-- A registration has left the lists as they were. -/
structure SameLists (s t : Submit) : Prop where
  freeReqList : t.freeReqList = s.freeReqList
  pendingReqList : t.pendingReqList = s.pendingReqList
  activeReqList : t.activeReqList = s.activeReqList
  waitReqList : t.waitReqList = s.waitReqList
  cpuBufs : t.cpuBufs = s.cpuBufs

/-- The context is still named by the object, held, and waits for `n` more callbacks at least. -/
structure Waiting (r n : ℕ) (s : Submit) : Prop where
  ctx : (s.req r).ctx = true
  acked : (s.req r).numInAcked + n ≤ (s.req r).inMapEntries.length
  held : 0 < s.refcount

/-- One registration that succeeded, and was not the last callback. -/
structure Registered (x : ℤ) (s t : Submit) : Prop where
  lists : SameLists s t
  refcount : t.refcount = s.refcount + if calledBack s.sync x = true then 0 else 1
  fences : SameFences s.sync t.sync
  refCnt : ∀ i, (t.sync.syncTable i).refCnt = (s.sync.syncTable i).refCnt
  rows : calledBack s.sync x = true → t.sync.syncTable = s.sync.syncTable

/-- The fences among `done` whose callback still holds a reference on the context. -/
def owing (dev : SyncDevice) (done : List ℤ) : ℕ := done.countP fun x => !calledBack dev x

/-- The registrations of `done` succeeded, and the next failed. -/
structure Stopped (r : ℕ) (done : List ℤ) (s t : Submit) : Prop where
  lists : SameLists (s.listDel r) t
  refcount : t.refcount = s.refcount + owing s.sync done
  refCnt : ∀ i, (t.sync.syncTable i).refCnt = (s.sync.syncTable i).refCnt
  rows : (∀ x ∈ done, calledBack s.sync x = true) → t.sync.syncTable = s.sync.syncTable

section Registrations
variable {a : Answers} {r j n : ℕ} {x : ℤ} {xs done : List ℤ} {s t u : Submit}

lemma owing_eq_zero (dev : SyncDevice) (done : List ℤ) :
    owing dev done = 0 ↔ ∀ x ∈ done, calledBack dev x = true := by
  simp [owing, List.countP_eq_zero]

/-- The state behind a registration that succeeds. -/
def afterRegister (a : Answers) (r j : ℕ) (x : ℤ) (s : Submit) : Submit :=
  let s := s.getref
  let t := { s with
    sync := (camSyncRegisterCallback s.sync ⟨camContextSyncCallback, r⟩ x (a.alloc j)).2 }
  if calledBack s.sync x = true then contextSyncCallback a r (s.sync.syncTable x.toNat).state t
  else t

lemma registerFences_ok (hv : camSyncCheckValid s.sync x = 0) (ha : a.alloc j = true) :
    registerFences a r j (x :: xs) s = registerFences a r (j + 1) xs (afterRegister a r j x s) := by
  have hrc := (camSyncRegisterCallback_eq_zero r (a.alloc j) hv).mpr ha
  have hrc' : (camSyncRegisterCallback s.getref.sync ⟨camContextSyncCallback, r⟩ x (a.alloc j)).1 = 0 :=
    hrc
  simp only [registerFences, hrc', ne_eq, not_true_eq_false, if_false]
  rfl

lemma registerFences_failed (hv : camSyncCheckValid s.sync x = 0) (ha : a.alloc j = false)
    (hheld : 0 < s.refcount) :
    (registerFences a r j (x :: xs) s).1 ≠ 0 ∧
      Stopped r [] s (registerFences a r j (x :: xs) s).2 := by
  have hne : (camSyncRegisterCallback s.getref.sync ⟨camContextSyncCallback, r⟩ x (a.alloc j)).1 ≠ 0 := by
    intro h
    have := (camSyncRegisterCallback_eq_zero r (a.alloc j) hv).mp h
    simp [ha] at this
  have hdev : (camSyncRegisterCallback s.getref.sync ⟨camContextSyncCallback, r⟩ x (a.alloc j)).2 =
      s.sync := by
    rcases camSyncRegisterCallback_cases s.getref.sync ⟨camContextSyncCallback, r⟩ x (a.alloc j) with
      h | h | h
    · exact h.2
    · rw [h.2.2] at hne
      exact absurd rfl hne
    · rw [h.2.2] at hne
      exact absurd rfl hne
  simp only [registerFences, hne, ne_eq, not_false_eq_true, if_true, true_and, hdev]
  exact ⟨⟨rfl, rfl, rfl, rfl, rfl⟩, by simp [Submit.putref, Submit.listDel, Submit.getref, owing, hheld.ne'],
    fun _ => rfl, fun _ => rfl⟩

lemma afterRegister_registered (hw : Waiting r (n + 2) s) :
    Registered x s (afterRegister a r j x s) ∧ Waiting r (n + 1) (afterRegister a r j x s) := by
  obtain ⟨hctx, hacked, hheld⟩ := hw
  obtain ⟨hsame, hcnt, hrows⟩ := camSyncRegisterCallback_kept (d := s.sync) (x := x)
    ⟨camContextSyncCallback, r⟩ (a.alloc j)
  by_cases hb : calledBack s.sync x = true
  · have hlast : (s.req r).numInAcked + 1 ≠ (s.req r).inMapEntries.length := by omega
    have he : afterRegister a r j x s =
        { s with
          req := Function.update s.req r { s.req r with numInAcked := (s.req r).numInAcked + 1 }
          sync := (camSyncRegisterCallback s.sync ⟨camContextSyncCallback, r⟩ x (a.alloc j)).2 } := by
      simp [afterRegister, Submit.getref, hb, contextSyncCallback, hctx, Submit.setReq, hlast,
        Submit.putref, hheld.ne']
    rw [he]
    exact ⟨⟨⟨rfl, rfl, rfl, rfl, rfl⟩, by simp [hb], hsame, hcnt, hrows⟩,
      by simpa using hctx, by simp; omega, hheld⟩
  · have he : afterRegister a r j x s =
        { s with
          refcount := s.refcount + 1
          sync := (camSyncRegisterCallback s.sync ⟨camContextSyncCallback, r⟩ x (a.alloc j)).2 } := by
      simp [afterRegister, Submit.getref, hb, hheld.ne']
    rw [he]
    exact ⟨⟨⟨rfl, rfl, rfl, rfl, rfl⟩, by simp [hb], hsame, hcnt, hrows⟩,
      hctx, by simpa using (by omega : (s.req r).numInAcked + (n + 1) ≤ _), Nat.succ_pos _⟩

lemma Stopped.cons (hreg : Registered x s t) (hstop : Stopped r done t u) :
    Stopped r (x :: done) s u where
  lists := by
    obtain ⟨hf, hp, ha, hw, hc⟩ := hreg.lists
    obtain ⟨hf', hp', ha', hw', hc'⟩ := hstop.lists
    simp only [Submit.listDel] at hf' hp' ha' hw' hc'
    exact ⟨by rw [hf', hf]; rfl, by rw [hp', hp]; rfl, by rw [ha', ha]; rfl, by rw [hw', hw]; rfl,
      hc'.trans hc⟩
  refcount := by
    have howing : owing t.sync done = owing s.sync done := by
      simp only [owing, hreg.fences.calledBack]
    rw [hstop.refcount, hreg.refcount, howing]
    by_cases hb : calledBack s.sync x = true
    · simp [owing, hb]
    · simp [owing, hb]
      omega
  refCnt i := (hstop.refCnt i).trans (hreg.refCnt i)
  rows hall := by
    have hx := hreg.rows (hall x List.mem_cons_self)
    have hrest := hstop.rows fun y hy => by
      rw [hreg.fences.calledBack]
      exact hall y (List.mem_cons_of_mem x hy)
    rw [hrest, hx]

theorem registerFences_cases (xs : List ℤ) (j : ℕ) (s : Submit)
    (hvalid : ∀ x ∈ xs, camSyncCheckValid s.sync x = 0) (hw : Waiting r xs.length s) :
    ((∀ k < xs.length, a.alloc (j + k) = true) ∧ (registerFences a r j xs s).1 = 0) ∨
    ∃ k < xs.length, a.alloc (j + k) = false ∧ (∀ i < k, a.alloc (j + i) = true) ∧
      (registerFences a r j xs s).1 ≠ 0 ∧
      Stopped r (xs.take k) s (registerFences a r j xs s).2 := by
  induction xs generalizing j s with
  | nil => exact Or.inl ⟨by simp, rfl⟩
  | cons x xs ih =>
    have hv : camSyncCheckValid s.sync x = 0 := hvalid x List.mem_cons_self
    cases ha : a.alloc j with
    | false =>
      obtain ⟨hne, hstop⟩ := registerFences_failed (r := r) hv ha hw.held
      exact Or.inr ⟨0, by simp, ha, by simp, hne, hstop⟩
    | true =>
      rw [registerFences_ok hv ha]
      cases xs with
      | nil => exact Or.inl ⟨by simpa using ha, rfl⟩
      | cons y ys =>
        obtain ⟨hreg, hw'⟩ := afterRegister_registered (a := a) (j := j) (x := x) (n := ys.length)
          (by simpa using hw)
        have hvalid' : ∀ z ∈ y :: ys, camSyncCheckValid (afterRegister a r j x s).sync z = 0 :=
          fun z hz => (hreg.fences.checkValid z).trans (hvalid z (List.mem_cons_of_mem x hz))
        rcases ih (j + 1) _ hvalid' (by simpa using hw') with
          ⟨hall, hrc⟩ | ⟨k, hk, hfail, hbefore, hrc, hstop⟩
        · refine Or.inl ⟨fun k hk => ?_, hrc⟩
          cases k with
          | zero => exact ha
          | succ k =>
            have := hall k (by simpa using hk)
            rwa [Nat.add_right_comm] at this
        · refine Or.inr ⟨k + 1, by simpa using hk, ?_, fun i hi => ?_, hrc, ?_⟩
          · rwa [Nat.add_right_comm] at hfail
          · cases i with
            | zero => exact ha
            | succ i =>
              have := hbefore i (by omega)
              rwa [Nat.add_right_comm] at this
          · exact hstop.cons hreg

end Registrations

/-! ### A call -/

/-- What an error return should leave behind. The free list gets the object back at its end. -/
structure Undone (s t : Submit) : Prop where
  freeReqList : t.freeReqList.Perm s.freeReqList
  pendingReqList : t.pendingReqList = s.pendingReqList
  activeReqList : t.activeReqList = s.activeReqList
  waitReqList : t.waitReqList = s.waitReqList
  refcount : t.refcount = s.refcount
  refCnt : ∀ i, (t.sync.syncTable i).refCnt = (s.sync.syncTable i).refCnt
  callbackList : ∀ i, (t.sync.syncTable i).callbackList = (s.sync.syncTable i).callbackList
  cpuBufs : t.cpuBufs = s.cpuBufs

/-- A context in use, with every request object on one list. -/
structure Submit.InUse (s : Submit) : Prop where
  linked : (s.freeReqList ++ s.pendingReqList ++ s.activeReqList ++ s.waitReqList).Nodup
  held : 0 < s.refcount

/-- The call gets to the input fences. -/
structure Accepted (a : Answers) (s : Submit) : Prop where
  thread : a.threadRc = 0
  free : s.freeReqList ≠ []
  packet : ∃ len, a.cpuBuf = some len ∧ sizeofCamPacket ≤ len ∧ a.offset < len - sizeofCamPacket
  request : s.lastFlushReq < a.requestId
  prepare : a.prepareRc = 0
  refs : ∀ o ∈ a.outMapEntries, refable s.sync o

/-- No input fence is refused, and every fence before the first for which there is no memory
calls back at once. -/
def SafeFences (a : Answers) (dev : SyncDevice) : Prop :=
  (∀ x ∈ a.inMapEntries, camSyncCheckValid dev x = 0) ∧
    ∀ k < a.inMapEntries.length, a.alloc k = false → (∀ i < k, a.alloc i = true) →
      ∀ x ∈ a.inMapEntries.take k, calledBack dev x = true

section Call
variable {a : Answers} {r : ℕ} {rest : List ℕ} {s t : Submit}

lemma takeReq_lists (h : s.InUse) (hfree : s.freeReqList = r :: rest) :
    (s.takeReq r).freeReqList = rest ∧ (s.takeReq r).pendingReqList = s.pendingReqList ∧
      (s.takeReq r).activeReqList = s.activeReqList ∧ (s.takeReq r).waitReqList = s.waitReqList := by
  have hlinked := h.linked
  rw [hfree] at hlinked
  simp only [List.cons_append, List.nodup_cons, List.mem_append, not_or] at hlinked
  obtain ⟨⟨⟨⟨-, hp⟩, ha⟩, hw⟩, -⟩ := hlinked
  simp [Submit.takeReq, Submit.listDel, Submit.setReq, hfree, List.erase_of_not_mem hp,
    List.erase_of_not_mem ha, List.erase_of_not_mem hw]

lemma undone_of_free (h : s.InUse) (hfree : s.freeReqList = r :: rest)
    (hlists : SameLists (s.takeReq r) t) (href : t.refcount = s.refcount)
    (hrefCnt : ∀ i, (t.sync.syncTable i).refCnt = (s.sync.syncTable i).refCnt)
    (hcb : ∀ i, (t.sync.syncTable i).callbackList = (s.sync.syncTable i).callbackList) :
    Undone s (t.freeReq r) := by
  obtain ⟨hf, hp, ha, hw⟩ := takeReq_lists h hfree
  refine ⟨?_, hlists.pendingReqList.trans hp, hlists.activeReqList.trans ha,
    hlists.waitReqList.trans hw, href, hrefCnt, hcb, hlists.cpuBufs⟩
  have hback : (t.freeReq r).freeReqList = rest ++ [r] := by
    simp [Submit.freeReq, Submit.setReq, hlists.freeReqList, hf]
  rw [hback, hfree]
  exact (List.perm_append_singleton r rest)

/-- The state at which the references to the output fences are taken. -/
def filled (a : Answers) (r : ℕ) (s : Submit) : Submit :=
  { (s.takeReq r).getCpuBuf with lastFlushReq := 0 }.setReq r
    ⟨true, a.requestId, a.inMapEntries, a.outMapEntries, 0, false⟩

/-- The state at which the input fences are looked at. -/
def referenced (a : Answers) (r : ℕ) (s : Submit) : Submit :=
  { filled a r s with sync := (getRefs a.outMapEntries s.sync).2.2 }

/-- What the label `put_ref` makes of the state at which an input fence has failed. -/
def unwound (a : Answers) (r : ℕ) (s t : Submit) : Submit :=
  { t with sync := putRefs (getRefs a.outMapEntries s.sync).2.1 t.sync }.freeCpuBuf r

lemma prepareDevToHw_accepted (h : Accepted a s) (hfree : s.freeReqList = r :: rest) :
    prepareDevToHw a s =
      let f := submitFences a r (referenced a r s)
      if f.1 ≠ 0 then (f.1, unwound a r s f.2) else (f.1, f.2.putCpuBuf) := by
  obtain ⟨len, hcpu, hlen, hoff⟩ := h.packet
  have hbad : ¬(len < sizeofCamPacket ∨ a.offset ≥ len - sizeofCamPacket) := by omega
  have hreq : ¬a.requestId ≤ s.lastFlushReq := h.request.not_ge
  have hrefs : (getRefs a.outMapEntries s.sync).1 = 0 := (getRefs_eq_zero _ _).mpr h.refs
  have hlast : (s.takeReq r).getCpuBuf.lastFlushReq = s.lastFlushReq := rfl
  simp only [prepareDevToHw, h.thread, ne_eq, not_true_eq_false, if_false, hfree, hcpu, hbad, hlast,
    hreq, h.prepare, submitReq]
  have hsync : ((({ (s.takeReq r).getCpuBuf with lastFlushReq := 0 } : Submit)).setReq r
      ⟨true, a.requestId, a.inMapEntries, a.outMapEntries, 0, false⟩).sync = s.sync := rfl
  simp only [hsync, hrefs, not_true_eq_false, if_false]
  rfl

theorem prepareDevToHw_early (h : s.InUse) (hn : ¬Accepted a s) :
    Undone s (prepareDevToHw a s).2 := by
  have hself : Undone s s := ⟨.refl _, rfl, rfl, rfl, rfl, fun _ => rfl, fun _ => rfl, rfl⟩
  unfold prepareDevToHw
  by_cases hthread : a.threadRc ≠ 0
  · rwa [if_pos hthread]
  rw [if_neg hthread]
  cases hfree : s.freeReqList with
  | nil => exact hself
  | cons r rest =>
    have hback (t : Submit) (hlists : SameLists (s.takeReq r) t) (href : t.refcount = s.refcount)
        (hsync : t.sync = s.sync) : Undone s (t.freeReq r) :=
      undone_of_free h hfree hlists href (fun i => by rw [hsync]) (fun i => by rw [hsync])
    have hput (t : Submit) : (t.getCpuBuf.putCpuBuf).cpuBufs = t.cpuBufs := by
      simp [Submit.getCpuBuf, Submit.putCpuBuf]
    cases hcpu : a.cpuBuf with
    | none => exact hback _ ⟨rfl, rfl, rfl, rfl, rfl⟩ rfl rfl
    | some len =>
      dsimp only
      split_ifs with hlen hreq hprep
      · exact hback _ ⟨rfl, rfl, rfl, rfl, hput _⟩ rfl rfl
      · exact hback _ ⟨rfl, rfl, rfl, rfl, hput _⟩ rfl rfl
      · exact hback _ ⟨rfl, rfl, rfl, rfl, hput (s.takeReq r)⟩ rfl rfl
      · -- only the references are left, and the prefix that was taken is put back
        have hrefs : (getRefs a.outMapEntries s.sync).1 ≠ 0 := by
          intro hz
          refine hn ⟨by simpa using hthread, by simp [hfree], ⟨len, hcpu, by omega, by omega⟩, ?_,
            by simpa using hprep, (getRefs_eq_zero _ _).mp hz⟩
          exact Nat.lt_of_not_le hreq
        have he : (submitReq a r { (s.takeReq r).getCpuBuf with lastFlushReq := 0 }).2 =
            unwound a r s (referenced a r s) := by
          simp only [submitReq]
          have hsync : ((({ (s.takeReq r).getCpuBuf with lastFlushReq := 0 } : Submit)).setReq r
              ⟨true, a.requestId, a.inMapEntries, a.outMapEntries, 0, false⟩).sync = s.sync := rfl
          simp only [hsync, hrefs, ne_eq, not_false_eq_true, if_true]
          rfl
        rw [he]
        exact hback _ ⟨rfl, rfl, rfl, rfl, hput (s.takeReq r)⟩ rfl (putRefs_getRefs _ _)

lemma not_undone_of_pending (h : s.InUse) (hfree : s.freeReqList = r :: rest) :
    ¬Undone s (unwound a r s ((referenced a r s).addPending r)) := by
  intro hu
  have hlist := congrArg List.length hu.pendingReqList
  have hp : (s.takeReq r).pendingReqList = s.pendingReqList := (takeReq_lists h hfree).2.1
  have hnow : (unwound a r s ((referenced a r s).addPending r)).pendingReqList =
      s.pendingReqList ++ [r] := by
    change (s.takeReq r).pendingReqList ++ [r] = _
    rw [hp]
  rw [hnow] at hlist
  simp at hlist

lemma undone_iff_of_stopped {done : List ℤ} (h : s.InUse) (hfree : s.freeReqList = r :: rest)
    (hstop : Stopped r done ((referenced a r s).addPending r) t) :
    Undone s (unwound a r s t) ↔ ∀ x ∈ done, calledBack s.sync x = true := by
  have hsame : SameFences s.sync ((referenced a r s).addPending r).sync := getRefs_sameFences _ _
  have howing : owing ((referenced a r s).addPending r).sync done = owing s.sync done := by
    simp only [owing, hsame.calledBack]
  have href : t.refcount = s.refcount + owing s.sync done := by
    rw [← howing]
    exact hstop.refcount
  constructor
  · intro hu
    have hcount : t.refcount = s.refcount := hu.refcount
    exact (owing_eq_zero _ _).mp (by omega)
  · intro hall
    obtain ⟨hf, hp, ha, hw⟩ := takeReq_lists h hfree
    have hrow := hstop.rows fun x hx => (hsame.calledBack x).trans (hall x hx)
    have hrefCnt (i : ℕ) : ((putRefs (getRefs a.outMapEntries s.sync).2.1 t.sync).syncTable i).refCnt =
        (s.sync.syncTable i).refCnt := by
      have hcongr := putRefs_refCnt_congr (d := ((referenced a r s).addPending r).sync) hstop.refCnt
        (getRefs a.outMapEntries s.sync).2.1 i
      rw [hcongr]
      exact congrArg (fun d => (d.syncTable i).refCnt) (putRefs_getRefs a.outMapEntries s.sync)
    have hcb (i : ℕ) : ((putRefs (getRefs a.outMapEntries s.sync).2.1 t.sync).syncTable i).callbackList =
        (s.sync.syncTable i).callbackList := by
      rw [putRefs_callbackList, hrow, ← putRefs_callbackList (getRefs a.outMapEntries s.sync).2.1]
      exact congrArg (fun d => (d.syncTable i).callbackList) (putRefs_getRefs a.outMapEntries s.sync)
    have hnone : owing s.sync done = 0 := (owing_eq_zero _ _).mpr hall
    have hlinked := h.linked
    rw [hfree] at hlinked
    simp only [List.cons_append, List.nodup_cons, List.mem_append, not_or] at hlinked
    obtain ⟨⟨⟨⟨hnf, hnp⟩, hna⟩, hnw⟩, -⟩ := hlinked
    refine undone_of_free h hfree ⟨?_, ?_, ?_, ?_, ?_⟩
      (show t.refcount = s.refcount by omega) hrefCnt hcb
    · refine hstop.lists.freeReqList.trans ?_
      change (s.takeReq r).freeReqList.erase r = _
      rw [hf, List.erase_of_not_mem hnf]
    · refine hstop.lists.pendingReqList.trans ?_
      change ((s.takeReq r).pendingReqList ++ [r]).erase r = _
      rw [hp, List.erase_append_right _ hnp]
      simp
    · refine hstop.lists.activeReqList.trans ?_
      change (s.takeReq r).activeReqList.erase r = _
      rw [ha, List.erase_of_not_mem hna]
    · refine hstop.lists.waitReqList.trans ?_
      change (s.takeReq r).waitReqList.erase r = _
      rw [hw, List.erase_of_not_mem hnw]
    · have hcpu : t.cpuBufs = s.cpuBufs + 1 := hstop.lists.cpuBufs
      change t.cpuBufs - 1 = s.cpuBufs
      omega

/-- An error return undoes the call if and only if, once the packet is accepted, no input
fence is refused, and no registration fails behind one that keeps its callback. -/
theorem prepareDevToHw_undone_iff (h : s.InUse) :
    ((prepareDevToHw a s).1 ≠ 0 → Undone s (prepareDevToHw a s).2) ↔
      (Accepted a s → SafeFences a s.sync) := by
  by_cases hacc : Accepted a s
  swap
  · exact ⟨fun _ h => absurd h hacc, fun _ _ => prepareDevToHw_early h hacc⟩
  obtain ⟨r, rest, hfree⟩ := List.exists_cons_of_ne_nil hacc.free
  have hsame : SameFences s.sync (referenced a r s).sync := getRefs_sameFences _ _
  simp only [hacc, true_imp_iff]
  rw [prepareDevToHw_accepted hacc hfree]
  by_cases hnil : a.inMapEntries = []
  · simp [submitFences, SafeFences, hnil]
  by_cases hcheck : checkFences (referenced a r s).sync a.inMapEntries = 0
  swap
  · -- refused: the object is still pending
    have hf : submitFences a r (referenced a r s) =
        (checkFences (referenced a r s).sync a.inMapEntries, (referenced a r s).addPending r) := by
      simp only [submitFences, if_neg hnil]
      rw [if_pos (show checkFences ((referenced a r s).addPending r).sync a.inMapEntries ≠ 0 from hcheck)]
      rfl
    have hunsafe : ¬SafeFences a s.sync := by
      intro hsafe
      refine hcheck ((checkFences_eq_zero _ _).mpr fun x hx => ?_)
      exact (hsame.checkValid x).trans (hsafe.1 x hx)
    simp only [hf, ne_eq, hcheck, not_false_eq_true, if_true, true_imp_iff, hunsafe, iff_false]
    exact not_undone_of_pending h hfree
  have hf : submitFences a r (referenced a r s) =
      registerFences a r 0 a.inMapEntries ((referenced a r s).addPending r) := by
    simp only [submitFences, if_neg hnil]
    rw [if_neg (not_not.mpr
      (show checkFences ((referenced a r s).addPending r).sync a.inMapEntries = 0 from hcheck))]
  have hvalid : ∀ x ∈ a.inMapEntries, camSyncCheckValid (referenced a r s).sync x = 0 :=
    (checkFences_eq_zero _ _).mp hcheck
  have hvalid' : ∀ x ∈ a.inMapEntries, camSyncCheckValid s.sync x = 0 := fun x hx =>
    (hsame.checkValid x).symm.trans (hvalid x hx)
  have hwaiting : Waiting r a.inMapEntries.length ((referenced a r s).addPending r) := by
    refine ⟨?_, ?_, h.held⟩
    · simp [referenced, filled, Submit.addPending, Submit.setReq]
    · simp [referenced, filled, Submit.addPending, Submit.setReq]
  rw [hf]
  rcases registerFences_cases (a := a) a.inMapEntries 0
      ((referenced a r s).addPending r) hvalid hwaiting with
    ⟨hall, hrc⟩ | ⟨k, hk, hfail, hbefore, hrc, hstop⟩
  · have hsafe : SafeFences a s.sync := by
      refine ⟨hvalid', fun k hk hfail _ => ?_⟩
      have := hall k hk
      rw [Nat.zero_add, hfail] at this
      exact absurd this (by decide)
    simp [hrc, hsafe]
  · simp only [Nat.zero_add] at hfail hbefore
    simp only [ne_eq, hrc, not_false_eq_true, if_true, true_imp_iff]
    rw [undone_iff_of_stopped h hfree hstop]
    constructor
    · refine fun hdone => ⟨hvalid', fun k' hk' hfail' hbefore' => ?_⟩
      -- there is one first failure
      have hkk : k' = k := by
        rcases Nat.lt_trichotomy k' k with hlt | heq | hgt
        · exact absurd (hbefore k' hlt) (by simp [hfail'])
        · exact heq
        · exact absurd (hbefore' k hgt) (by simp [hfail])
      rwa [hkk]
    · exact fun hsafe => hsafe.2 k hk hfail hbefore

end Call

/-- Fences 2 and 3 wait to be signaled. -/
def twoActive : SyncDevice :=
  { camSyncProbe with
    syncTable := fun i => if i = 2 ∨ i = 3 then initRow i .indv 0 else zeroRow
    bitmap := fun i => decide (i = 0 ∨ i = 2 ∨ i = 3) }

/-- A context with two free objects and no request. -/
def idle : Submit :=
  ⟨fun _ => ⟨false, 0, [], [], 0, false⟩, [0, 1], [], [], [], 0, 1, 0, twoActive⟩

/-- A packet with these input fences, with memory for the first `n` registrations. -/
def waitsFor (xs : List ℤ) (n : ℕ) : Answers :=
  ⟨0, some 4096, 0, 1, 0, [], xs, fun j => decide (j < n), fun s _ _ => s⟩

lemma idle_inUse : idle.InUse := ⟨by decide, by decide⟩

theorem waitsForOne_undone :
    (prepareDevToHw (waitsFor [2] 0) idle).1 = -ENOMEM ∧
      Undone idle (prepareDevToHw (waitsFor [2] 0) idle).2 := by
  have hsafe : SafeFences (waitsFor [2] 0) idle.sync := by
    refine ⟨by decide +kernel, fun k hk _ _ => ?_⟩
    have hzero : k = 0 := Nat.lt_one_iff.mp hk
    simp [hzero]
  exact ⟨by decide +kernel, (prepareDevToHw_undone_iff idle_inUse).mpr (fun _ => hsafe) (by decide +kernel)⟩

/-- No memory for the second registration: fence 2 keeps the callback of an object that is
free again, with its reference on the context. A fence nobody has made: the object is on two
lists. -/
theorem not_prepareDevToHw_undone :
    ((prepareDevToHw (waitsFor [2, 3] 1) idle).1 = -ENOMEM ∧
      (prepareDevToHw (waitsFor [2, 3] 1) idle).2.freeReqList = [1, 0] ∧
      (prepareDevToHw (waitsFor [2, 3] 1) idle).2.refcount = 2 ∧
      ((prepareDevToHw (waitsFor [2, 3] 1) idle).2.sync.syncTable 2).callbackList =
        [⟨camContextSyncCallback, 0⟩] ∧
      ¬Undone idle (prepareDevToHw (waitsFor [2, 3] 1) idle).2) ∧
    (prepareDevToHw (waitsFor [5] 1) idle).1 = -EINVAL ∧
      (prepareDevToHw (waitsFor [5] 1) idle).2.freeReqList = [1, 0] ∧
      (prepareDevToHw (waitsFor [5] 1) idle).2.pendingReqList = [0] ∧
      ¬Undone idle (prepareDevToHw (waitsFor [5] 1) idle).2 := by
  refine ⟨⟨by decide +kernel, by decide +kernel, by decide +kernel, by decide +kernel, fun hu => ?_⟩,
    by decide +kernel, by decide +kernel, by decide +kernel, fun hu => ?_⟩
  · exact absurd hu.refcount (by decide +kernel)
  · exact absurd hu.pendingReqList (by decide +kernel)

end CameraKernel.CtxSubmit
