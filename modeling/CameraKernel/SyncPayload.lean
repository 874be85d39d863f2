import CameraKernel.SyncClose

/-! User payloads. A payload listed on an object is sent once, when the object completes, as
long as none is registered on a group that has a status but still waits for children: there
it is sent at once, where a callback would be listed. -/
namespace CameraKernel.SyncPayload
open SyncTable SyncOps SyncSpec SyncInvariant SyncIoctl SyncLinks SyncClose MachineInt

/-- A status while children are pending. -/
def partialRow (dev : SyncDevice) (obj : ℤ) : Bool :=
  !outOfRange obj && (decide ((dev.syncTable obj.toNat).state = .signaledSuccess) ||
    decide ((dev.syncTable obj.toNat).state = .signaledError)) &&
    decide ((dev.syncTable obj.toNat).remaining ≠ 0)

def payloadArg (u : UserPayloadInfo) : PrivateIoctlArg UserPayloadInfo :=
  ⟨sizeofUserPayloadInfo, 1, some u⟩

/-- The event goes out during the registration. -/
def ServedNow (dev : SyncDevice) (u : UserPayloadInfo) : Prop :=
  (camSyncHandleRegisterUserPayload dev (payloadArg u) true).2.trace ≠ dev.trace

/-- The callback is handed over during the registration. -/
def CallbackNow (dev : SyncDevice) (cb : SyncCallback) (obj : ℤ) : Prop :=
  (camSyncRegisterCallback dev cb obj true).2.trace ≠ dev.trace

/-- The registration is accepted, and nothing sent. -/
def QueuesPayload (dev : SyncDevice) (u : UserPayloadInfo) : Prop :=
  ((camSyncHandleRegisterUserPayload dev (payloadArg u) true).1 = 0 ∧ ¬ ServedNow dev u) →
    u.payload ∈ ((camSyncHandleRegisterUserPayload dev (payloadArg u) true).2.syncTable
      u.syncObj.toNat).userPayloadList

theorem registerPayload_cases (dev : SyncDevice) (arg : PrivateIoctlArg UserPayloadInfo) (alloc : Bool) :
    let r := camSyncHandleRegisterUserPayload dev arg alloc
    (r.1 ≠ 0 ∧ r.2 = dev) ∨
    ∃ u, fetch sizeofUserPayloadInfo arg = .ok u ∧ outOfRange u.syncObj = false ∧ alloc = true ∧
      (((dev.syncTable u.syncObj.toNat).state = .signaledSuccess ∨
          (dev.syncTable u.syncObj.toNat).state = .signaledError) ∧
        r = (0, { dev with trace := dev.trace ++ [SyncEvent.v4l2Event u.syncObj.toNat
          (dev.syncTable u.syncObj.toNat).clientId (dev.syncTable u.syncObj.toNat).state u.payload] }) ∨
      (dev.syncTable u.syncObj.toNat).state = .active ∧
        u.payload ∉ (dev.syncTable u.syncObj.toNat).userPayloadList ∧
        r = (0, setRow dev u.syncObj.toNat { dev.syncTable u.syncObj.toNat with
          userPayloadList := (dev.syncTable u.syncObj.toNat).userPayloadList ++ [u.payload] })) := by
  have hE : -Errno.EINVAL ≠ 0 := by decide
  have hM : -Errno.ENOMEM ≠ 0 := by decide
  have hA : -Errno.EALREADY ≠ 0 := by decide
  have hF : ∀ rc, fetch sizeofUserPayloadInfo arg = .error rc → rc ≠ 0 := by
    intro rc hf
    simp only [fetch] at hf
    split_ifs at hf
    · cases hf
      exact hE
    · cases hf
      exact hE
    · cases hu : arg.user with
      | none =>
        rw [hu] at hf
        cases hf
        decide
      | some u =>
        rw [hu] at hf
        cases hf
  intro r
  simp only [r, camSyncHandleRegisterUserPayload]
  cases hf : fetch sizeofUserPayloadInfo arg with
  | error rc => exact Or.inl ⟨hF rc hf, rfl⟩
  | ok u =>
    dsimp only
    cases hr : outOfRange u.syncObj with
    | true => exact Or.inl ⟨hE, rfl⟩
    | false =>
    cases alloc with
    | false => exact Or.inl ⟨hM, rfl⟩
    | true =>
    simp only [Bool.false_eq_true, Bool.not_true, if_false]
    by_cases hi : (dev.syncTable u.syncObj.toNat).state = .invalid
    · rw [if_pos hi]
      exact Or.inl ⟨hE, rfl⟩
    rw [if_neg hi]
    by_cases hs : (dev.syncTable u.syncObj.toNat).state = .signaledSuccess ∨
        (dev.syncTable u.syncObj.toNat).state = .signaledError
    · rw [if_pos hs]
      exact Or.inr ⟨u, rfl, hr, trivial, Or.inl ⟨hs, rfl⟩⟩
    rw [if_neg hs]
    by_cases hd : u.payload ∈ (dev.syncTable u.syncObj.toNat).userPayloadList
    · rw [if_pos hd]
      exact Or.inl ⟨hA, rfl⟩
    · rw [if_neg hd]
      refine Or.inr ⟨u, rfl, hr, trivial, Or.inr ⟨?_, hd, rfl⟩⟩
      cases hst : (dev.syncTable u.syncObj.toNat).state with
      | invalid => exact absurd hst hi
      | active => rfl
      | signaledSuccess => exact absurd (Or.inl hst) hs
      | signaledError => exact absurd (Or.inr hst) hs

section
variable {dev dev' : SyncDevice} {u : UserPayloadInfo} {cb : SyncCallback}

lemma servedNow_iff : ServedNow dev u ↔ outOfRange u.syncObj = false ∧
    ((dev.syncTable u.syncObj.toNat).state = .signaledSuccess ∨
      (dev.syncTable u.syncObj.toNat).state = .signaledError) := by
  simp only [ServedNow, camSyncHandleRegisterUserPayload, payloadArg, fetch]
  by_cases hr : outOfRange u.syncObj = true
  · simp [hr]
  by_cases hi : (dev.syncTable u.syncObj.toNat).state = .invalid
  · simp [hr, hi]
  by_cases hs : (dev.syncTable u.syncObj.toNat).state = .signaledSuccess ∨
    (dev.syncTable u.syncObj.toNat).state = .signaledError
  · simp [hr, hi, hs]
  · by_cases hd : u.payload ∈ (dev.syncTable u.syncObj.toNat).userPayloadList <;> simp [hr, hi, hs, hd]

lemma callbackNow_iff (hcb : cb.callbackFunc ≠ 0) {obj : ℤ} : CallbackNow dev cb obj ↔
    outOfRange obj = false ∧ SyncTableRow.complete (dev.syncTable obj.toNat) = true := by
  simp only [CallbackNow, camSyncRegisterCallback]
  by_cases hr : outOfRange obj = true
  · simp [hr]
  by_cases hi : (dev.syncTable obj.toNat).state = .invalid
  · simp [hr, hi, hcb, SyncTableRow.complete]
  by_cases hc : SyncTableRow.complete (dev.syncTable obj.toNat) = true <;> simp [hr, hi, hcb, hc]

theorem servedNow_callbackNow_iff (hcb : cb.callbackFunc ≠ 0) :
    (ServedNow dev u ↔ CallbackNow dev cb u.syncObj) ↔ partialRow dev u.syncObj = false := by
  rw [servedNow_iff, callbackNow_iff hcb]
  simp only [partialRow, SyncTableRow.complete, decide_eq_true_eq]
  by_cases hr : outOfRange u.syncObj = true
  · simp [hr]
  by_cases hs : (dev.syncTable u.syncObj.toNat).state = .signaledSuccess ∨
    (dev.syncTable u.syncObj.toNat).state = .signaledError
  · by_cases hz : (dev.syncTable u.syncObj.toNat).remaining = 0
    · simp [hr, hs, hz]
    · rcases hs with hs | hs <;> simp [hr, hs, hz]
  · obtain ⟨h1, h2⟩ := not_or.mp hs
    simp [hr, h1, h2]

lemma queuesPayload (dev : SyncDevice) (u : UserPayloadInfo) : QueuesPayload dev u := by
  rintro ⟨hrc, hno⟩
  have hf : fetch sizeofUserPayloadInfo (payloadArg u) = .ok u := rfl
  rcases registerPayload_cases dev (payloadArg u) true with ⟨hne, -⟩ |
    ⟨u', hu, hr, -, ⟨hs, -⟩ | ⟨-, -, he⟩⟩
  · exact absurd hrc hne
  · cases hf.symm.trans hu
    exact absurd (servedNow_iff.mpr ⟨hr, hs⟩) hno
  · cases hf.symm.trans hu
    rw [he]
    simp

end

structure Delivery where
  clientId : ℕ
  status : SyncState
  payload : UInt64 × UInt64
  deriving DecidableEq, Repr

def delivery : SyncEvent → Option Delivery
  | .v4l2Event _ clientId st payload => some ⟨clientId, st, payload⟩
  | _ => none

/-- The payload events of object `x`. -/
def deliveredOn (x : ℕ) (ev : List SyncEvent) : List Delivery := (eventsOf x ev).filterMap delivery

/-- Payloads are listed once each, while the object is pending and a queue is open. -/
structure RowListed (eventq : Bool) (row : SyncTableRow) : Prop where
  nodup : row.userPayloadList.Nodup
  pending : row.userPayloadList ≠ [] →
    eventq = true ∧ row.state ≠ .invalid ∧ SyncTableRow.complete row = false

/-- What a step can do to a live row that stays live: nothing to its payloads, a count, or
its completion, which sends them all. -/
inductive RowMove (row row' : SyncTableRow) : List Delivery → Prop
  | kept (state : row'.state = row.state) (remaining : row'.remaining = row.remaining)
      (clientId : row'.clientId = row.clientId)
      (list : row'.userPayloadList = row.userPayloadList) : RowMove row row' []
  | counted (before : SyncTableRow.complete row = false) (after : SyncTableRow.complete row' = false)
      (live : row'.state ≠ .invalid) (clientId : row'.clientId = row.clientId)
      (list : row'.userPayloadList = row.userPayloadList) : RowMove row row' []
  | completed (before : SyncTableRow.complete row = false) (after : SyncTableRow.complete row' = true)
      (clientId : row'.clientId = row.clientId) (list : row'.userPayloadList = []) :
      RowMove row row' (row.userPayloadList.map fun p => ⟨row'.clientId, row'.state, p⟩)

structure Listed (dev : SyncDevice) : Prop where
  links : LinkInv dev
  rows : ∀ x, RowListed dev.camSyncEventq (dev.syncTable x)

/-- What a call does to all rows but those it releases. -/
structure Moves (dev dev' : SyncDevice) (gone : ℕ → Prop) (ev : List SyncEvent) : Prop where
  trace : dev'.trace = dev.trace ++ ev
  eventq : dev'.camSyncEventq = dev.camSyncEventq
  rows : ∀ x, (dev.syncTable x).state ≠ .invalid → ¬ gone x →
    RowMove (dev.syncTable x) (dev'.syncTable x) (deliveredOn x ev)
  fresh : ∀ x, (dev.syncTable x).state = .invalid ∨ gone x → (dev'.syncTable x).userPayloadList = []

section
variable {dev dev' : SyncDevice} {i x : ℕ} {st : SyncState} {row row' : SyncTableRow} {eventq : Bool}
  {gone : ℕ → Prop} {ev : List SyncEvent}

lemma rowListed_nil (h : row.userPayloadList = []) : RowListed eventq row :=
  ⟨h ▸ List.nodup_nil, fun hne => absurd h hne⟩

lemma complete_congr (hs : row'.state = row.state) (hr : row'.remaining = row.remaining) :
    SyncTableRow.complete row' = SyncTableRow.complete row := by
  rw [SyncTableRow.complete, hs, hr]
  rfl

lemma RowListed.moved (h : RowListed eventq row) {d : List Delivery} (hm : RowMove row row' d) :
    RowListed eventq row' := by
  cases hm with
  | kept hs hr hc hl =>
    refine ⟨hl ▸ h.nodup, fun hne => ?_⟩
    rw [hs, complete_congr hs hr]
    exact h.pending (hl ▸ hne)
  | counted hb ha hlive hc hl =>
    exact ⟨hl ▸ h.nodup, fun hne => ⟨(h.pending (hl ▸ hne)).1, hlive, ha⟩⟩
  | completed hb ha hc hl => exact rowListed_nil hl

lemma Listed.nil_of_invalid (h : Listed dev) (hi : (dev.syncTable x).state = .invalid) :
    (dev.syncTable x).userPayloadList = [] := by
  by_contra hne
  exact ((h.rows x).pending hne).2.1 hi

lemma Listed.moves (h : Listed dev) (hl : LinkInv dev') (hm : Moves dev dev' gone ev) : Listed dev' := by
  refine ⟨hl, fun x => ?_⟩
  rw [hm.eventq]
  by_cases hx : (dev.syncTable x).state = .invalid ∨ gone x
  · exact rowListed_nil (hm.fresh x hx)
  · obtain ⟨hlive, hstay⟩ := not_or.mp hx
    exact (h.rows x).moved (hm.rows x hlive hstay)

lemma Listed.moves_kept (h : Listed dev) (ht : dev'.trace = dev.trace ++ ev)
    (he : dev'.camSyncEventq = dev.camSyncEventq) (hev : ∀ e ∈ ev, delivery e = none)
    (hrows : ∀ x, (dev.syncTable x).state ≠ .invalid → (dev'.syncTable x).state = (dev.syncTable x).state ∧
      (dev'.syncTable x).remaining = (dev.syncTable x).remaining ∧
      (dev'.syncTable x).clientId = (dev.syncTable x).clientId)
    (hlist : ∀ x, (dev'.syncTable x).userPayloadList = (dev.syncTable x).userPayloadList) :
    Moves dev dev' (fun _ => False) ev := by
  refine ⟨ht, he, fun x hx _ => ?_, fun x hx => ?_⟩
  · have hd : deliveredOn x ev = [] := by
      rw [deliveredOn, List.filterMap_eq_nil_iff]
      exact fun e hm => hev e (List.mem_of_mem_filter hm)
    rw [hd]
    obtain ⟨hs, hr, hc⟩ := hrows x hx
    exact RowMove.kept hs hr hc (hlist x)
  · rw [hlist]
    exact h.nil_of_invalid (hx.resolve_right id)

lemma Listed.moves_setRow (h : Listed dev) (hs : row.state = (dev.syncTable i).state)
    (hr : row.remaining = (dev.syncTable i).remaining) (hc : row.clientId = (dev.syncTable i).clientId)
    (hl : row.userPayloadList = (dev.syncTable i).userPayloadList) :
    Moves dev (setRow dev i row) (fun _ => False) [] := by
  refine h.moves_kept (List.append_nil _).symm rfl (by simp) (fun x _ => ?_) fun x => ?_
  · by_cases hx : x = i
    · subst hx
      rw [setRow_self]
      exact ⟨hs, hr, hc⟩
    · rw [setRow_ne _ _ _ _ hx]
      exact ⟨rfl, rfl, rfl⟩
  · by_cases hx : x = i
    · subst hx
      rwa [setRow_self]
    · rw [setRow_ne _ _ _ _ hx]

lemma Listed.moves_refl (h : Listed dev) : Moves dev dev (fun _ => False) [] :=
  h.moves_kept (List.append_nil _).symm rfl (by simp) (fun _ _ => ⟨rfl, rfl, rfl⟩) fun _ => rfl

lemma RowListed.dispatch (h : RowListed eventq row) : (dispatchEvents eventq i st row).filterMap delivery =
    row.userPayloadList.map fun p => ⟨row.clientId, st, p⟩ := by
  have hc : (row.callbackList.map (SyncEvent.queueWork i st)).filterMap delivery = [] := by
    rw [List.filterMap_map, List.filterMap_eq_nil_iff]
    exact fun _ _ => rfl
  have hv : (row.userPayloadList.map (SyncEvent.v4l2Event i row.clientId st)).filterMap delivery =
      row.userPayloadList.map fun p => ⟨row.clientId, st, p⟩ := by
    rw [List.filterMap_map]
    exact congrFun List.filterMap_eq_map row.userPayloadList
  rw [dispatchEvents, List.cons_append, List.filterMap_cons, List.filterMap_append, hc]
  cases heq : eventq with
  | true => simp [delivery, hv]
  | false =>
    have hnil : row.userPayloadList = [] := by
      by_contra hne
      have hopen := (h.pending hne).1
      simp [heq] at hopen
    simp [delivery, hnil]

lemma RowListed.dispatched_nil (h : RowListed eventq row) :
    (if eventq then [] else row.userPayloadList) = [] := by
  split_ifs with he
  · rfl
  · by_contra hne
    exact he (h.pending hne).1

lemma not_complete_of_active (h : row.state = .active) : SyncTableRow.complete row = false := by
  simp [SyncTableRow.complete, h]

lemma complete_of_zero (hst : row.state = .signaledSuccess ∨ row.state = .signaledError)
    (hr : row.remaining = 0) : SyncTableRow.complete row = true := by
  simp [SyncTableRow.complete, hst, hr]

lemma not_complete_of_ne (hr : row.remaining ≠ 0) : SyncTableRow.complete row = false := by
  simp [SyncTableRow.complete, hr]

lemma RowListed.fired (h : RowListed eventq row) (ha : row.state = .active) (hr : row.remaining = 0)
    (hst : st = .signaledSuccess ∨ st = .signaledError) :
    RowMove row (firedRow eventq st row) ((dispatchEvents eventq i st row).filterMap delivery) := by
  rw [h.dispatch]
  exact RowMove.completed (not_complete_of_active ha) (complete_of_zero hst hr) rfl h.dispatched_nil

lemma RowListed.parent (h : RowListed eventq row) (hlive : row.state ≠ .invalid) (hr : 0 < row.remaining)
    (hst : st = .signaledSuccess ∨ st = .signaledError) :
    RowMove row (parentRow eventq st row) ((parentEvents eventq st i row).filterMap delivery) := by
  obtain ⟨st', hu, hst'⟩ : ∃ st', camSyncUtilUpdateParentState row.state st = some st' ∧
      (st' = .signaledSuccess ∨ st' = .signaledError) := by
    cases hs : row.state with
    | invalid => exact absurd hs hlive
    | active => exact ⟨st, rfl, hst⟩
    | signaledSuccess => exact ⟨st, rfl, hst⟩
    | signaledError => exact ⟨_, rfl, Or.inr rfl⟩
  have hbefore := not_complete_of_ne hr.ne'
  rw [parentRow, parentEvents, hu]
  dsimp only
  by_cases hz : (countDown row).remaining = 0
  · rw [if_pos hz, if_pos hz, h.dispatch]
    exact RowMove.completed hbefore (complete_of_zero hst' hz) rfl h.dispatched_nil
  · rw [if_neg hz, if_neg hz, List.filterMap_nil]
    refine RowMove.counted hbefore (not_complete_of_ne hz) ?_ rfl rfl
    rcases hst' with rfl | rfl <;> exact SyncState.noConfusion

lemma Listed.moves_signaled (h : Listed dev) (hst : st = .signaledSuccess ∨ st = .signaledError)
    (ha : (dev.syncTable i).state = .active) (ht : (dev.syncTable i).type = .indv)
    (hs : Signaled dev i st dev') : ∃ ev, Moves dev dev' (fun _ => False) ev := by
  have hself : i ∉ (dev.syncTable i).parentsList := by
    intro hm
    have hgroup := (h.links.parent i i hm).2.1
    simp [ht] at hgroup
  have hev := fun x => (eventsOf_signaled (h.links.parentsNodup i) hself : eventsOf x
    (dispatchEvents dev.camSyncEventq i st _ ++ _) = _)
  refine ⟨_, hs.trace.trans (List.append_assoc _ _ _), hs.config.eventq, fun x hx _ => ?_, fun x hx => ?_⟩
  · rw [deliveredOn, hev]
    by_cases hxi : x = i
    · subst hxi
      rw [if_pos rfl, hs.self]
      exact (h.rows x).fired ha (h.links.indv x hx ht) hst
    rw [if_neg hxi]
    by_cases hm : x ∈ (dev.syncTable i).parentsList
    · rw [if_pos hm, hs.parents x hm]
      exact (h.rows x).parent hx (h.links.remaining_pos hm) hst
    · rw [if_neg hm, hs.others x hxi hm]
      exact RowMove.kept rfl rfl rfl rfl
  · have hdead := hx.resolve_right id
    have hxi : x ≠ i := by
      rintro rfl
      simp [ha] at hdead
    rw [hs.others x hxi fun hm => (h.links.parent i x hm).1 hdead]
    exact h.nil_of_invalid hdead

lemma Listed.moves_signal (h : Listed dev) (obj : ℤ) (status : ℕ) :
    ∃ ev, Moves dev (camSyncSignal dev obj status).2 (fun _ => False) ev := by
  by_cases hf : ∃ st, Fires dev obj status st
  · obtain ⟨st, hf⟩ := hf
    have hself : obj.toNat ∉ (dev.syncTable obj.toNat).parentsList := by
      intro hm
      have hgroup := (h.links.parent _ _ hm).2.1
      simp [hf.indv] at hgroup
    exact h.moves_signaled (signalStatus_ne hf.status) hf.active hf.indv
      (camSyncSignal_spec hf (h.links.parentsNodup _) hself)
  · obtain ⟨n, he⟩ := camSyncSignal_quiet (not_exists.mp hf)
    rw [he]
    exact ⟨[], h.moves_setRow rfl rfl rfl rfl⟩

/-! ### The other calls of the kernel side -/

lemma setRow_list (h : row.userPayloadList = (dev.syncTable i).userPayloadList) (x : ℕ) :
    ((setRow dev i row).syncTable x).userPayloadList = (dev.syncTable x).userPayloadList := by
  by_cases hx : x = i
  · rw [hx, setRow_self, h]
  · rw [setRow_ne _ _ _ _ hx]

lemma mergeChild_list (dev : SyncDevice) (idx c : ℕ) (alloc : Bool × Bool) (x : ℕ) :
    ((mergeChild idx alloc dev c).2.syncTable x).userPayloadList = (dev.syncTable x).userPayloadList := by
  simp only [mergeChild]
  split_ifs
  · rfl
  · exact setRow_list (by rfl) x
  · rfl
  · exact setRow_list (by rfl) x
  · exact setRow_list (by rfl) x
  · exact (setRow_list (by rfl) x).trans (setRow_list (by rfl) x)

lemma mergeChildren_list (dev : SyncDevice) (idx : ℕ) (alloc : ℕ → Bool × Bool) (l : List ℕ) (n x : ℕ) :
    ((mergeChildren idx alloc n dev l).2.2.syncTable x).userPayloadList =
      (dev.syncTable x).userPayloadList := by
  induction l generalizing n dev with
  | nil => rfl
  | cons c l ih =>
    have hone := mergeChild_list dev idx c (alloc n) x
    rw [mergeChildren]
    revert hone
    generalize mergeChild idx (alloc n) dev c = r
    obtain ⟨rc, d⟩ := r
    intro hone
    split
    · next heq =>
      cases heq
      exact (ih _ (n + 1)).trans hone
    · next heq =>
      cases heq
      exact hone

lemma unlinkChildren_list (idx : ℕ) (l : List ℕ) (x : ℕ) :
    ((l.foldl (unlinkChild idx) dev).syncTable x).userPayloadList = (dev.syncTable x).userPayloadList := by
  induction l generalizing dev with
  | nil => rfl
  | cons c l ih => exact ih.trans (setRow_list (by rfl) x)

lemma mergeFinish_list (idx x : ℕ) :
    ((mergeFinish idx dev).syncTable x).userPayloadList = (dev.syncTable x).userPayloadList := by
  simp only [mergeFinish]
  by_cases hz : (dev.syncTable idx).remaining = 0
  · rw [if_pos hz]
    exact setRow_list (by rfl) x
  · rw [if_neg hz]

lemma camSyncInitGroupObject_list {idx : ℕ} (hidx : (dev.syncTable idx).userPayloadList = []) (l : List ℕ)
    (alloc : ℕ → Bool × Bool) (x : ℕ) : ((camSyncInitGroupObject dev idx l alloc).2.syncTable
      x).userPayloadList = (dev.syncTable x).userPayloadList := by
  have hinit : ((camSyncInitRow dev idx .group 0).2.syncTable x).userPayloadList =
      (dev.syncTable x).userPayloadList := by
    simp only [camSyncInitRow]
    split_ifs
    · rfl
    · exact setRow_list hidx.symm x
  have hloop := mergeChildren_list (camSyncInitRow dev idx .group 0).2 idx alloc l 0 x
  simp only [camSyncInitGroupObject]
  revert hloop
  generalize mergeChildren idx alloc 0 (camSyncInitRow dev idx .group 0).2 l = r
  obtain ⟨rc, n, d⟩ := r
  intro hloop
  split
  · next heq =>
    cases heq
    exact (mergeFinish_list idx x).trans (hloop.trans hinit)
  · next heq =>
    cases heq
    refine (setRow_list (by rfl) x).trans ((unlinkChildren_list idx _ x).trans ?_)
    exact (setRow_list (by rfl) x).trans (hloop.trans hinit)

lemma Listed.merge_list (h : Listed dev) (objs : List ℤ) (alloc : ℕ → Bool × Bool) (x : ℕ) :
    ((camSyncMerge dev objs alloc).2.syncTable x).userPayloadList = (dev.syncTable x).userPayloadList := by
  simp only [camSyncMerge]
  split_ifs
  · rfl
  · rfl
  · split
    · rfl
    · cases hb : takeBit dev with
      | none => rfl
      | some r =>
        obtain ⟨idx, d⟩ := r
        obtain ⟨-, hbit, rfl⟩ := takeBit_some hb
        have hidx : ((setBit dev idx true).syncTable idx).userPayloadList = [] :=
          h.nil_of_invalid (h.links.invalid_of_free hbit)
        have hinit := camSyncInitGroupObject_list hidx
          ((camCommonUtilRemoveDuplicateArr objs).1.map Int.toNat) alloc x
        dsimp only
        split_ifs
        · exact hinit
        · exact hinit

lemma Listed.moves_merge (h : Listed dev) (objs : List ℤ) (alloc : ℕ → Bool × Bool) :
    Moves dev (camSyncMerge dev objs alloc).2 (fun _ => False) [] := by
  have hlist := h.merge_list objs alloc
  revert hlist
  rcases camSyncMerge_spec dev objs alloc h.links.bitZero
    (fun i c hi => h.links.notMem_parents (h.links.invalid_of_free hi) c) with
    ⟨idx, d, he, hm⟩ | ⟨e, d, he, rfl | ⟨idx, ha⟩⟩
  · rw [he]
    refine fun hlist => h.moves_kept (hm.trace.trans (List.append_nil _).symm) hm.eventq (by simp)
      (fun x hx => ?_) hlist
    have hxi : x ≠ idx := by
      rintro rfl
      exact hx (h.links.invalid_of_free hm.free)
    obtain ⟨ps, hrow⟩ := hm.frame hxi
    rw [hrow]
    exact ⟨rfl, rfl, rfl⟩
  · rw [he]
    exact fun _ => h.moves_refl
  · rw [he]
    refine fun hlist => h.moves_kept (ha.outside.trace.trans (List.append_nil _).symm) ha.outside.eventq
      (by simp) (fun x hx => ?_) hlist
    have hxi : x ≠ idx := by
      rintro rfl
      exact hx (h.links.invalid_of_free ha.free)
    rw [ha.others x hxi]
    exact ⟨rfl, rfl, rfl⟩

lemma Listed.moves_create (h : Listed dev) (clientId : ℕ) :
    Moves dev (camSyncCreate dev clientId).2 (fun _ => False) [] := by
  rcases camSyncCreate_spec dev clientId h.links.bitZero with ⟨e, he⟩ | ⟨idx, -, hbit, he⟩
  · rw [he]
    exact h.moves_refl
  · rw [he]
    have hdead := h.links.invalid_of_free hbit
    refine h.moves_kept (List.append_nil _).symm rfl (by simp) (fun x hx => ?_) fun x => ?_
    · have hxi : x ≠ idx := by
        rintro rfl
        exact hx hdead
      rw [setRow_ne _ _ _ _ hxi]
      exact ⟨rfl, rfl, rfl⟩
    · exact setRow_list (h.nil_of_invalid hdead).symm x

lemma Listed.moves_destroy (h : Listed dev) (obj : ℤ) :
    Moves dev (camSyncDestroy dev obj).2 (fun x => x = obj.toNat) [] := by
  rcases camSyncDestroy_spec dev obj (fun i => ⟨h.links.childrenNodup i, h.links.childrenPos i⟩)
    (fun i => ⟨h.links.parentsNodup i, h.links.zero_notMem i⟩) with he | hd
  · have hdead : (dev.syncTable obj.toNat).state = .invalid := by
      by_contra hlive
      obtain ⟨hpos, hbit⟩ := (h.links.live _).1 hlive
      have hgone := camSyncDestroy_state ⟨hpos, h.links.range _ hbit⟩ hlive
      rw [show ((obj.toNat : ℕ) : ℤ) = obj by omega, he] at hgone
      exact hlive hgone
    rw [he]
    refine ⟨(List.append_nil _).symm, rfl, fun x _ _ => RowMove.kept rfl rfl rfl rfl, fun x hx => ?_⟩
    rcases hx with hx | rfl
    · exact h.nil_of_invalid hx
    · exact h.nil_of_invalid hdead
  · refine ⟨hd.trace.trans (List.append_nil _).symm, hd.eventq, fun x _ hx => ?_, fun x hx => ?_⟩
    · rw [hd.others x hx]
      split_ifs <;> exact RowMove.kept rfl rfl rfl rfl
    · by_cases hxi : x = obj.toNat
      · rw [hxi, hd.self]
        rfl
      · have hdead := hx.resolve_right hxi
        rw [hd.others x hxi, if_pos hdead]
        exact h.nil_of_invalid hdead

/-- The row a call from the kernel side gives back. -/
def released : SyncOp → ℕ → Prop
  | .destroy obj, x => x = obj.toNat
  | _, _ => False

lemma Listed.moves_kernel (h : Listed dev) (op : SyncOp) :
    ∃ ev, Moves dev (step dev op) (released op) ev := by
  cases op with
  | create clientId => exact ⟨[], h.moves_create clientId⟩
  | merge objs alloc => exact ⟨[], h.moves_merge objs alloc⟩
  | getObjRef obj =>
    simp only [SyncOps.step, camSyncGetObjRef]
    split_ifs
    · exact ⟨[], h.moves_refl⟩
    · exact ⟨[], h.moves_refl⟩
    · exact ⟨[], h.moves_setRow rfl rfl rfl rfl⟩
  | putObjRef obj =>
    simp only [SyncOps.step, camSyncPutObjRef]
    split_ifs
    · exact ⟨[], h.moves_refl⟩
    · exact ⟨[], h.moves_setRow rfl rfl rfl rfl⟩
  | signal obj status => exact h.moves_signal obj status
  | destroy obj => exact ⟨[], h.moves_destroy obj⟩
  | registerCallback cb obj alloc =>
    rcases camSyncRegisterCallback_cases dev cb obj alloc with ⟨-, he⟩ | ⟨-, -, he⟩ | ⟨-, -, he⟩
    · rw [SyncOps.step, he]
      exact ⟨[], h.moves_refl⟩
    · rw [SyncOps.step, he]
      refine ⟨_, h.moves_kept rfl rfl (fun e hm => ?_) (fun _ _ => ⟨rfl, rfl, rfl⟩) fun _ => rfl⟩
      rw [List.mem_singleton.mp hm, handOver]
      split_ifs <;> rfl
    · rw [SyncOps.step, he]
      exact ⟨[], h.moves_setRow rfl rfl rfl rfl⟩
  | deregisterCallback cb obj =>
    simp only [SyncOps.step, camSyncDeregisterCallback]
    split_ifs
    · exact ⟨[], h.moves_refl⟩
    · exact ⟨[], h.moves_refl⟩
    · exact ⟨[], h.moves_setRow rfl rfl rfl rfl⟩
    · exact ⟨[], h.moves_setRow rfl rfl rfl rfl⟩

lemma RowMove.of_same {row₀ : SyncTableRow} {d : List Delivery} (h : RowMove row row' d)
    (hs : row.state = row₀.state) (hr : row.remaining = row₀.remaining)
    (hc : row.clientId = row₀.clientId) (hl : row.userPayloadList = row₀.userPayloadList) :
    RowMove row₀ row' d := by
  have hcomplete := complete_congr hs hr
  cases h with
  | kept hs' hr' hc' hl' => exact .kept (hs'.trans hs) (hr'.trans hr) (hc'.trans hc) (hl'.trans hl)
  | counted hb ha hlive hc' hl' =>
    exact .counted (hcomplete ▸ hb) ha hlive (hc'.trans hc) (hl'.trans hl)
  | completed hb ha hc' hl' =>
    rw [hl]
    exact .completed (hcomplete ▸ hb) ha (hc'.trans hc) hl'

lemma Listed.moves_handleSignal (h : Listed dev) (arg : PrivateIoctlArg SyncSignal) :
    ∃ ev, Moves dev (camSyncHandleSignal dev arg).2 (fun _ => False) ev := by
  simp only [camSyncHandleSignal]
  cases fetch sizeofSyncSignal arg with
  | error rc => exact ⟨[], h.moves_refl⟩
  | ok s =>
    dsimp only
    obtain ⟨ev, href⟩ : ∃ ev, Moves dev (camSyncGetObjRef dev s.syncObj).2 (fun _ => False) ev :=
      h.moves_kernel (.getObjRef s.syncObj)
    have hlisted := h.moves (h.links.getObjRef s.syncObj) href
    by_cases hrc : (camSyncGetObjRef dev s.syncObj).1 ≠ 0
    · rw [if_pos hrc]
      exact ⟨ev, href⟩
    · rw [if_neg hrc]
      obtain ⟨ev', hsig⟩ := hlisted.moves_signal s.syncObj s.syncState
      have hview : (camSyncGetObjRef dev s.syncObj).2.trace = dev.trace ∧
          (camSyncGetObjRef dev s.syncObj).2.camSyncEventq = dev.camSyncEventq ∧
          ∀ x, ∃ n, (camSyncGetObjRef dev s.syncObj).2.syncTable x = { dev.syncTable x with refCnt := n } := by
        simp only [camSyncGetObjRef]
        split_ifs
        · exact ⟨rfl, rfl, fun x => ⟨_, rfl⟩⟩
        · exact ⟨rfl, rfl, fun x => ⟨_, rfl⟩⟩
        · refine ⟨rfl, rfl, fun x => ?_⟩
          by_cases hx : x = s.syncObj.toNat
          · rw [hx, setRow_self]
            exact ⟨_, rfl⟩
          · rw [setRow_ne _ _ _ _ hx]
            exact ⟨_, rfl⟩
      obtain ⟨ht, he, hrow⟩ := hview
      refine ⟨ev', hsig.trace.trans (by rw [ht]), hsig.eventq.trans he, fun x hx hg => ?_, fun x hx => ?_⟩
      · obtain ⟨n, hn⟩ := hrow x
        exact (hsig.rows x (by rw [hn]; exact hx) hg).of_same (by rw [hn]) (by rw [hn]) (by rw [hn])
          (by rw [hn])
      · obtain ⟨n, hn⟩ := hrow x
        exact hsig.fresh x (by rw [hn]; exact hx)

end

end CameraKernel.SyncPayload
