import CameraKernel.SyncIoctl
import CameraKernel.SyncSpec

/-! The signal ioctl takes a reference before the signal can be refused, and does not give
it back when it is. -/
namespace CameraKernel.SyncIoctl
open SyncTable SyncOps SyncSpec

/-- The reference is taken, and the signal behind it refused. -/
def keepsRef (dev : SyncDevice) (arg : PrivateIoctlArg SyncSignal) : Bool :=
  match fetch sizeofSyncSignal arg with
  | .error _ => false
  | .ok s =>
    !outOfRange s.syncObj && decide ((dev.syncTable s.syncObj.toNat).state = .active) &&
      (decide ((dev.syncTable s.syncObj.toNat).type = .group) || (signalStatus s.syncState).isNone)

def signalIoctl (dev : SyncDevice) (arg : PrivateIoctlArg SyncSignal) : SyncDevice :=
  (camSyncHandleSignal dev arg).2

/-- The call names `obj` and comes with a status no signal accepts. -/
def badStatus (obj : ℤ) (arg : PrivateIoctlArg SyncSignal) : Bool :=
  match fetch sizeofSyncSignal arg with
  | .error _ => false
  | .ok s => decide (s.syncObj = obj) && (signalStatus s.syncState).isNone

section
variable {dev : SyncDevice} {arg : PrivateIoctlArg SyncSignal} {obj : ℤ} {status : ℕ}

/-- The device with one more reference on a row. -/
def withRef (dev : SyncDevice) (i : ℕ) : SyncDevice :=
  setRow dev i { dev.syncTable i with refCnt := (dev.syncTable i).refCnt + 1 }

lemma camSyncGetObjRef_active (hr : outOfRange obj = false)
    (ha : (dev.syncTable obj.toNat).state = .active) :
    camSyncGetObjRef dev obj = (0, withRef dev obj.toNat) := by
  simp [camSyncGetObjRef, hr, ha, withRef]

lemma camSyncGetObjRef_refused
    (h : outOfRange obj = true ∨ (dev.syncTable obj.toNat).state ≠ .active) :
    camSyncGetObjRef dev obj = (-Errno.EINVAL, dev) := by
  cases hr : outOfRange obj with
  | true => simp [camSyncGetObjRef, hr]
  | false =>
    have hna : (dev.syncTable obj.toNat).state ≠ .active := by simpa [hr] using h
    simp [camSyncGetObjRef, hr, hna]

lemma camSyncSignal_refused (hr : outOfRange obj = false)
    (ha : (dev.syncTable obj.toNat).state = .active)
    (h : (dev.syncTable obj.toNat).type = .group ∨ signalStatus status = none) :
    camSyncSignal dev obj status = (-Errno.EINVAL, dev) := by
  by_cases ht : (dev.syncTable obj.toNat).type = .group
  · simp [camSyncSignal, signalSection, hr, ha, ht]
  · have hs : signalStatus status = none := h.resolve_left ht
    simp [camSyncSignal, signalSection, hr, ha, ht, hs]

lemma camSyncSignal_accepted (hr : outOfRange obj = false)
    (ha : (dev.syncTable obj.toNat).state = .active)
    (ht : (dev.syncTable obj.toNat).type ≠ .group) (hs : signalStatus status ≠ none) :
    (camSyncSignal dev obj status).1 = 0 := by
  obtain ⟨st, hs⟩ := Option.ne_none_iff_exists'.mp hs
  simp only [camSyncSignal, signalSection, hr, ha, ht, hs, Bool.false_eq_true, if_false,
    reduceCtorEq, ne_eq, not_true_eq_false]
  by_cases hn : (dev.syncTable obj.toNat).refCnt - 1 = 0
  · rw [if_neg (not_not.mpr hn)]
  · rw [if_pos hn]

theorem camSyncHandleSignal_failed (h : (camSyncHandleSignal dev arg).1 ≠ 0) :
    (keepsRef dev arg = false ∧ signalIoctl dev arg = dev) ∨
    ∃ s, fetch sizeofSyncSignal arg = .ok s ∧ keepsRef dev arg = true ∧
      signalIoctl dev arg = withRef dev s.syncObj.toNat := by
  revert h
  simp only [signalIoctl, camSyncHandleSignal, keepsRef]
  cases hf : fetch sizeofSyncSignal arg with
  | error rc => exact fun _ => Or.inl ⟨rfl, rfl⟩
  | ok s =>
    dsimp only
    by_cases hact : outOfRange s.syncObj = false ∧ (dev.syncTable s.syncObj.toNat).state = .active
    swap
    · have hno : outOfRange s.syncObj = true ∨ (dev.syncTable s.syncObj.toNat).state ≠ .active := by
        rcases not_and_or.mp hact with hr | ha
        · exact Or.inl (by simpa using hr)
        · exact Or.inr ha
      rw [camSyncGetObjRef_refused hno]
      refine fun _ => Or.inl ⟨?_, by simp [Errno.EINVAL]⟩
      rcases hno with hr | ha <;> simp [*]
    obtain ⟨hr, ha⟩ := hact
    have ha' : ((withRef dev s.syncObj.toNat).syncTable s.syncObj.toNat).state = .active := by
      simpa [withRef] using ha
    have ht' : ((withRef dev s.syncObj.toNat).syncTable s.syncObj.toNat).type =
        (dev.syncTable s.syncObj.toNat).type := by
      simp [withRef]
    rw [camSyncGetObjRef_active hr ha]
    simp only [ne_eq, not_true_eq_false, if_false]
    by_cases hrej : (dev.syncTable s.syncObj.toNat).type = .group ∨ signalStatus s.syncState = none
    · rw [camSyncSignal_refused hr ha' (by rwa [ht'])]
      refine fun _ => Or.inr ⟨s, rfl, ?_, rfl⟩
      rcases hrej with ht | hs <;> simp [*]
    · obtain ⟨ht, hs⟩ := not_or.mp hrej
      intro hne
      exact absurd (camSyncSignal_accepted hr ha' (by rwa [ht']) hs) hne

lemma withRef_ne (dev : SyncDevice) (i : ℕ) : (withRef dev i).syncTable ≠ dev.syncTable := by
  intro he
  have hrow := congrArg SyncTableRow.refCnt (congrFun he i)
  simp [withRef] at hrow

lemma keepsRef_fails (h : keepsRef dev arg = true) : (camSyncHandleSignal dev arg).1 ≠ 0 := by
  simp only [keepsRef] at h
  cases hf : fetch sizeofSyncSignal arg with
  | error rc => simp [hf] at h
  | ok s =>
    simp only [hf, Bool.and_eq_true, Bool.not_eq_true', decide_eq_true_eq, Bool.or_eq_true,
      Option.isNone_iff_eq_none] at h
    obtain ⟨⟨hr, ha⟩, hrej⟩ := h
    have ha' : ((withRef dev s.syncObj.toNat).syncTable s.syncObj.toNat).state = .active := by
      simpa [withRef] using ha
    have hsig := camSyncSignal_refused hr ha' (by simpa [withRef] using hrej)
    simp [camSyncHandleSignal, hf, camSyncGetObjRef_active hr ha, hsig, Errno.EINVAL]

end

/-- What the ioctl would do if a refusal had no effect. -/
def FailsClean (dev : SyncDevice) (arg : PrivateIoctlArg SyncSignal) : Prop :=
  (camSyncHandleSignal dev arg).1 ≠ 0 → (signalIoctl dev arg).syncTable = dev.syncTable

/-- Every call of the run returns an error. -/
def AllFail (dev : SyncDevice) (args : List (PrivateIoctlArg SyncSignal)) : Prop :=
  Transition.Guarded signalIoctl (fun dev arg => (camSyncHandleSignal dev arg).1 ≠ 0) dev args

/-- A well-formed argument of the ioctl. -/
def signalArg (obj : ℤ) (status : ℕ) : PrivateIoctlArg SyncSignal :=
  ⟨sizeofSyncSignal, 1, some ⟨obj, status⟩⟩

section
variable {dev : SyncDevice} {arg : PrivateIoctlArg SyncSignal} {obj : ℤ} {status : ℕ} {st : SyncState}

theorem failsClean_iff (dev : SyncDevice) (arg : PrivateIoctlArg SyncSignal) :
    FailsClean dev arg ↔ keepsRef dev arg = false := by
  constructor
  · intro h
    by_contra hk
    have hfail := keepsRef_fails (by simpa using hk)
    rcases camSyncHandleSignal_failed hfail with ⟨hno, -⟩ | ⟨s, -, -, he⟩
    · exact hk hno
    · exact withRef_ne dev s.syncObj.toNat (he ▸ h hfail)
  · intro hk hfail
    rcases camSyncHandleSignal_failed hfail with ⟨-, he⟩ | ⟨s, -, hyes, -⟩
    · rw [he]
    · simp [hk] at hyes

/-- An ACTIVE individual object. -/
structure Pending (dev : SyncDevice) (obj : ℤ) : Prop where
  inRange : outOfRange obj = false
  active : (dev.syncTable obj.toNat).state = .active
  indv : (dev.syncTable obj.toNat).type = .indv

lemma Pending.failed (h : Pending dev obj) (hfail : (camSyncHandleSignal dev arg).1 ≠ 0) :
    (signalIoctl dev arg).syncTable obj.toNat = { dev.syncTable obj.toNat with
      refCnt := (dev.syncTable obj.toNat).refCnt +
        BitVec.ofNat 32 (if badStatus obj arg = true then 1 else 0) } := by
  rcases camSyncHandleSignal_failed hfail with ⟨hk, he⟩ | ⟨s, hf, hk, he⟩
  · have hbad : badStatus obj arg = false := by
      rw [← Bool.not_eq_true]
      intro hb
      simp only [badStatus, keepsRef] at hb hk
      cases hf : fetch sizeofSyncSignal arg with
      | error rc => simp [hf] at hb
      | ok s =>
        simp only [hf, Bool.and_eq_true, decide_eq_true_eq] at hb
        simp [hf, hb.1, hb.2, h.inRange, h.active] at hk
    simp [he, hbad]
  · rw [he]
    simp only [keepsRef, hf, Bool.and_eq_true, Bool.not_eq_true', decide_eq_true_eq] at hk
    by_cases hobj : s.syncObj = obj
    · subst hobj
      have hbad : badStatus s.syncObj arg = true := by simpa [badStatus, hf, h.indv] using hk.2
      simp [withRef, hbad]
    · have hbad : badStatus obj arg = false := by simp [badStatus, hf, hobj]
      have hne : obj.toNat ≠ s.syncObj.toNat := by
        have h1 := outOfRange_eq_false h.inRange
        have h2 := outOfRange_eq_false hk.1.1
        omega
      rw [withRef, setRow_ne _ _ _ _ hne]
      simp [hbad]

lemma Pending.of_row {dev' : SyncDevice} {n : BitVec 32} (h : Pending dev obj)
    (hrow : dev'.syncTable obj.toNat = { dev.syncTable obj.toNat with refCnt := n }) :
    Pending dev' obj :=
  ⟨h.inRange, by rw [hrow]; exact h.active, by rw [hrow]; exact h.indv⟩

lemma Pending.allFail (h : Pending dev obj) {args : List (PrivateIoctlArg SyncSignal)}
    (hfail : AllFail dev args) :
    (Transition.run signalIoctl dev args).syncTable obj.toNat = { dev.syncTable obj.toNat with
      refCnt := (dev.syncTable obj.toNat).refCnt + BitVec.ofNat 32 (args.countP (badStatus obj)) } := by
  induction args generalizing dev with
  | nil => simp
  | cons arg args ih =>
    have hrow := h.failed hfail.1
    rw [Transition.run_cons, ih (h.of_row hrow) hfail.2, hrow, List.countP_cons]
    simp only [BitVec.ofNat_add, add_assoc, add_comm]

lemma parentSection_state {d : SyncDevice} {i p : ℕ} (hst : st = .signaledSuccess ∨ st = .signaledError)
    (h : (d.syncTable i).state = st) : ((parentSection st d p).syncTable i).state = st := by
  by_cases hp : i = p
  · subst hp
    have hu : camSyncUtilUpdateParentState (d.syncTable i).state st = some st := by
      rcases hst with rfl | rfl <;> rw [h] <;> rfl
    have hne : st ≠ .invalid := by rcases hst with rfl | rfl <;> decide
    simp only [parentSection, hu, camSyncUtilDispatchSignaledCb]
    split_ifs <;> simp [dispatchedRow]
  · simp only [parentSection, camSyncUtilDispatchSignaledCb]
    cases camSyncUtilUpdateParentState (d.syncTable p).state st with
    | none => simpa [hp] using h
    | some st' =>
      dsimp only
      split_ifs <;> simpa [hp, setRow] using h

lemma foldl_parentSection_state (hst : st = .signaledSuccess ∨ st = .signaledError) (ps : List ℕ)
    {d : SyncDevice} {i : ℕ} (h : (d.syncTable i).state = st) :
    ((ps.foldl (parentSection st) d).syncTable i).state = st := by
  induction ps generalizing d with
  | nil => exact h
  | cons p ps ih => exact ih (parentSection_state hst h)

lemma Pending.signaled_iff (h : Pending dev obj) (hs : signalStatus status = some st) :
    ((signalIoctl dev (signalArg obj status)).syncTable obj.toNat).state = st ↔
      (dev.syncTable obj.toNat).refCnt = 0 := by
  have hst := signalStatus_ne hs
  have hioctl : signalIoctl dev (signalArg obj status) =
      (camSyncSignal (withRef dev obj.toNat) obj status).2 := by
    simp [signalIoctl, camSyncHandleSignal, signalArg, fetch, camSyncGetObjRef_active h.inRange h.active]
  have hrow : (withRef dev obj.toNat).syncTable obj.toNat = { dev.syncTable obj.toNat with
      refCnt := (dev.syncTable obj.toNat).refCnt + 1 } := by simp [withRef]
  rw [hioctl]
  by_cases hzero : (dev.syncTable obj.toNat).refCnt = 0
  · have hfires : Fires (withRef dev obj.toNat) obj status st :=
      ⟨h.inRange, by rw [hrow]; exact h.active, by rw [hrow]; exact h.indv, hs, by simp [hrow, hzero]⟩
    rw [camSyncSignal_fires hfires]
    refine iff_of_true (foldl_parentSection_state hst _ ?_) hzero
    simp [fire, firedRow, dispatchedRow]
  · have hquiet : ∀ st', ¬ Fires (withRef dev obj.toNat) obj status st' := by
      intro st' hf
      have hone := hf.lastRef
      rw [hrow] at hone
      exact hzero (by simpa using hone)
    obtain ⟨n, he⟩ := camSyncSignal_quiet hquiet
    rw [he, setRow_self, hrow]
    refine iff_of_false ?_ hzero
    rcases hst with rfl | rfl <;> simp [h.active]

/-- A failed call is clean just when it keeps no reference; and after failed calls a pending
object without references is signaled by the first valid call just when the references the
failed calls kept on it add up to none. -/
theorem signal_ioctl_failsClean_iff (dev : SyncDevice) (arg : PrivateIoctlArg SyncSignal) (obj : ℤ)
    (args : List (PrivateIoctlArg SyncSignal)) (status : ℕ) (st : SyncState) :
    (FailsClean dev arg ↔ keepsRef dev arg = false) ∧
    (Pending dev obj → (dev.syncTable obj.toNat).refCnt = 0 →
      AllFail dev args → signalStatus status = some st →
      (((signalIoctl (Transition.run signalIoctl dev args) (signalArg obj status)).syncTable
        obj.toNat).state = st ↔ BitVec.ofNat 32 (args.countP (badStatus obj)) = 0)) := by
  refine ⟨failsClean_iff dev arg, fun h hzero hfail hs => ?_⟩
  have hrow := h.allFail hfail
  rw [(h.of_row hrow).signaled_iff hs, hrow]
  simp [hzero]

/-- A fence created through an open device. -/
def oneFence : SyncDevice :=
  (Transition.run sysStep (sysProbe false) [.openFile 0, .kernel (.create 0)]).dev

lemma pending_oneFence : Pending oneFence 1 := ⟨by decide +kernel, by decide +kernel, by decide +kernel⟩

theorem signal_ioctl_failsClean_oneFence :
    FailsClean oneFence (signalArg 0 2) ∧
    ((signalIoctl (Transition.run signalIoctl oneFence [signalArg 0 2]) (signalArg 1 2)).syncTable
      1).state = .signaledSuccess := by
  obtain ⟨hclean, hfires⟩ :=
    signal_ioctl_failsClean_iff oneFence (signalArg 0 2) 1 [signalArg 0 2] 2 .signaledSuccess
  refine ⟨hclean.mpr (by decide +kernel), ?_⟩
  have hone := (hfires pending_oneFence (by decide +kernel) ⟨by decide +kernel, trivial⟩ rfl).mpr
    (by decide +kernel)
  rwa [Int.toNat_one] at hone

/-- A status of 0 is refused, yet the next, valid signal does not fire. -/
theorem not_failsClean_badStatus :
    ¬ FailsClean oneFence (signalArg 1 0) ∧
    (camSyncHandleSignal oneFence (signalArg 1 0)).1 = -Errno.EINVAL ∧
    (camSyncHandleSignal (signalIoctl oneFence (signalArg 1 0)) (signalArg 1 2)).1 = 0 ∧
    ((signalIoctl (signalIoctl oneFence (signalArg 1 0)) (signalArg 1 2)).syncTable 1).state =
      .active := by
  refine ⟨fun h => ?_, by decide +kernel, by decide +kernel, by decide +kernel⟩
  have hrow := congrArg SyncTableRow.refCnt (congrFun (h (by decide +kernel)) 1)
  exact absurd hrow (by decide +kernel)

end

end CameraKernel.SyncIoctl
