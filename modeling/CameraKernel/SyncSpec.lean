import CameraKernel.SyncOps
import CameraKernel.KeyedFold

/-! What each entry point of the sync driver does to the table, stated row by row. -/
namespace CameraKernel.SyncSpec
open SyncTable SyncOps MachineInt

/-! ### Signaling -/

/-- The row of a child that fires, with its parents spliced off. -/
def firedRow (eventq : Bool) (st : SyncState) (row : SyncTableRow) : SyncTableRow :=
  { dispatchedRow eventq { row with refCnt := 0, state := st } with parentsList := [] }

def fire (dev : SyncDevice) (i : ℕ) (st : SyncState) : SyncDevice :=
  { setRow dev i (firedRow dev.camSyncEventq st (dev.syncTable i)) with
    trace := dev.trace ++ dispatchEvents dev.camSyncEventq i st (dev.syncTable i) }

/-- The signal call is the one that takes the object out of ACTIVE. -/
structure Fires (dev : SyncDevice) (obj : ℤ) (status : ℕ) (st : SyncState) : Prop where
  inRange : outOfRange obj = false
  active : (dev.syncTable obj.toNat).state = .active
  indv : (dev.syncTable obj.toNat).type = .indv
  status : signalStatus status = some st
  lastRef : (dev.syncTable obj.toNat).refCnt = 1

lemma signalStatus_ne {status : ℕ} {st : SyncState} (h : signalStatus status = some st) :
    st = .signaledSuccess ∨ st = .signaledError := by
  unfold signalStatus at h
  split at h <;> simp_all

lemma signalSection_fires {dev : SyncDevice} {obj : ℤ} {status : ℕ} {st : SyncState}
    (h : Fires dev obj status st) :
    signalSection dev obj status =
      (0, some (st, (dev.syncTable obj.toNat).parentsList), fire dev obj.toNat st) := by
  have hst : st ≠ .invalid := by rcases signalStatus_ne h.status with rfl | rfl <;> decide
  simp [signalSection, h.inRange, h.active, h.indv, h.status, h.lastRef, fire, firedRow,
    camSyncUtilDispatchSignaledCb, hst, dispatchedRow, dispatchEvents, setRow,
    Function.update_idem]

lemma signalSection_quiet {dev : SyncDevice} {obj : ℤ} {status : ℕ}
    (h : ∀ st, ¬ Fires dev obj status st) :
    (signalSection dev obj status).2.1 = none ∧
    ∃ n, (signalSection dev obj status).2.2 =
      setRow dev obj.toNat { dev.syncTable obj.toNat with refCnt := n } := by
  have hsame : ∃ n, dev = setRow dev obj.toNat { dev.syncTable obj.toNat with refCnt := n } :=
    ⟨(dev.syncTable obj.toNat).refCnt, by simp [setRow]⟩
  by_cases hr : outOfRange obj = true
  · simpa [signalSection, hr] using hsame
  by_cases hi : (dev.syncTable obj.toNat).state = .invalid
  · simpa [signalSection, hr, hi] using hsame
  by_cases hg : (dev.syncTable obj.toNat).type = .group
  · simpa [signalSection, hr, hi, hg] using hsame
  by_cases ha : (dev.syncTable obj.toNat).state = .active
  swap
  · simpa [signalSection, hr, hi, hg, ha] using hsame
  cases hs : signalStatus status with
  | none => simpa [signalSection, hr, hg, ha, hs] using hsame
  | some st =>
    have ht : (dev.syncTable obj.toNat).type = .indv := by
      cases hty : (dev.syncTable obj.toNat).type <;> simp_all
    have hone : (dev.syncTable obj.toNat).refCnt - 1 ≠ 0 := by
      intro he
      have hc : (dev.syncTable obj.toNat).refCnt = 1 := by
        have := congrArg (· + 1) he
        simpa using this
      exact h st ⟨by simpa using hr, ha, ht, hs, hc⟩
    have hd : signalSection dev obj status = (0, none, setRow dev obj.toNat
        { dev.syncTable obj.toNat with refCnt := (dev.syncTable obj.toNat).refCnt - 1 }) := by
      simp only [signalSection, hr, ht, ha, hs, hone, ne_eq, not_false_eq_true, if_true,
        reduceCtorEq, if_false, not_true_eq_false, Bool.false_eq_true]
    exact ⟨by rw [hd], _, by rw [hd]⟩

lemma camSyncSignal_fires {dev : SyncDevice} {obj : ℤ} {status : ℕ} {st : SyncState}
    (h : Fires dev obj status st) :
    camSyncSignal dev obj status =
      (0, (dev.syncTable obj.toNat).parentsList.foldl (parentSection st)
        (fire dev obj.toNat st)) := by
  simp [camSyncSignal, signalSection_fires h]

lemma camSyncSignal_quiet {dev : SyncDevice} {obj : ℤ} {status : ℕ}
    (h : ∀ st, ¬ Fires dev obj status st) :
    ∃ n, (camSyncSignal dev obj status).2 =
      setRow dev obj.toNat { dev.syncTable obj.toNat with refCnt := n } := by
  obtain ⟨hn, n, hd⟩ := signalSection_quiet h
  refine ⟨n, ?_⟩
  generalize hr : signalSection dev obj status = r at hn hd
  obtain ⟨rc, out, dev'⟩ := r
  simp only at hn hd
  simp [camSyncSignal, hr, hn, hd]

/-- One child less to wait for, as the `uint32_t` counter computes it. -/
def countDown (row : SyncTableRow) : SyncTableRow :=
  { row with remaining := u32Dec row.remaining }

def parentRow (eventq : Bool) (st : SyncState) (row : SyncTableRow) : SyncTableRow :=
  match camSyncUtilUpdateParentState row.state st with
  | none => countDown row
  | some st' =>
    if (countDown row).remaining = 0 then dispatchedRow eventq { countDown row with state := st' }
    else { countDown row with state := st' }

def parentEvents (eventq : Bool) (st : SyncState) (p : ℕ) (row : SyncTableRow) :
    List SyncEvent :=
  match camSyncUtilUpdateParentState row.state st with
  | none => []
  | some st' => if (countDown row).remaining = 0 then dispatchEvents eventq p st' row else []

lemma updateParentState_ne {state st st' : SyncState} (hst : st ≠ .invalid)
    (h : camSyncUtilUpdateParentState state st = some st') : st' ≠ .invalid := by
  cases state <;> simp [camSyncUtilUpdateParentState] at h <;> subst h <;> first | exact hst | decide

/-- The bitmap and the two switches of the device. -/
structure SameConfig (dev dev' : SyncDevice) : Prop where
  bitmap : dev'.bitmap = dev.bitmap
  eventq : dev'.camSyncEventq = dev.camSyncEventq
  switch : dev'.triggerCbWithoutSwitch = dev.triggerCbWithoutSwitch

lemma parentSection_local (dev : SyncDevice) {st : SyncState} (hst : st ≠ .invalid) :
    KeyedFold.Local SyncDevice.syncTable SyncDevice.trace (SameConfig dev)
      (parentRow dev.camSyncEventq st) (parentEvents dev.camSyncEventq st)
      (parentSection st) where
  keeps d p h := by
    have hs : SameConfig d (parentSection st d p) := by
      unfold parentSection camSyncUtilDispatchSignaledCb
      dsimp only
      split
      · exact ⟨rfl, rfl, rfl⟩
      · split_ifs <;> exact ⟨rfl, rfl, rfl⟩
    exact ⟨hs.bitmap.trans h.bitmap, hs.eventq.trans h.eventq, hs.switch.trans h.switch⟩
  table d p h := by
    unfold parentSection parentRow
    cases hu : camSyncUtilUpdateParentState (d.syncTable p).state st with
    | none => simp [hu, setRow, countDown]
    | some st' =>
      have hne := updateParentState_ne hst hu
      dsimp only
      rw [hu]
      simp only [countDown]
      split_ifs with hz
      · simp [camSyncUtilDispatchSignaledCb, hne, setRow, dispatchedRow, h.eventq, hz]
      · simp [setRow, hz]
  logged d p h := by
    unfold parentSection parentEvents
    cases hu : camSyncUtilUpdateParentState (d.syncTable p).state st with
    | none => simp [hu]
    | some st' =>
      have hne := updateParentState_ne hst hu
      dsimp only
      rw [hu]
      simp only [countDown]
      split_ifs with hz
      · simp [camSyncUtilDispatchSignaledCb, hne, dispatchEvents, h.eventq, hz]
      · simp [hz]

/-- A signal that fires, row by row. -/
structure Signaled (dev : SyncDevice) (i : ℕ) (st : SyncState) (dev' : SyncDevice) : Prop where
  config : SameConfig dev dev'
  self : dev'.syncTable i = firedRow dev.camSyncEventq st (dev.syncTable i)
  parents : ∀ p ∈ (dev.syncTable i).parentsList,
    dev'.syncTable p = parentRow dev.camSyncEventq st (dev.syncTable p)
  others : ∀ x, x ≠ i → x ∉ (dev.syncTable i).parentsList → dev'.syncTable x = dev.syncTable x
  trace : dev'.trace = dev.trace ++ dispatchEvents dev.camSyncEventq i st (dev.syncTable i) ++
    (dev.syncTable i).parentsList.flatMap fun p =>
      parentEvents dev.camSyncEventq st p (dev.syncTable p)

theorem camSyncSignal_spec {dev : SyncDevice} {obj : ℤ} {status : ℕ} {st : SyncState}
    (h : Fires dev obj status st) (hnd : (dev.syncTable obj.toNat).parentsList.Nodup)
    (hself : obj.toNat ∉ (dev.syncTable obj.toNat).parentsList) :
    Signaled dev obj.toNat st (camSyncSignal dev obj status).2 := by
  have hst : st ≠ .invalid := by rcases signalStatus_ne h.status with rfl | rfl <;> decide
  rw [camSyncSignal_fires h]
  generalize obj.toNat = i at *
  have hloc := parentSection_local dev hst
  have hcfg : SameConfig dev (fire dev i st) := ⟨rfl, rfl, rfl⟩
  have hfire : ∀ x, x ≠ i → (fire dev i st).syncTable x = dev.syncTable x :=
    fun x hx => setRow_ne _ _ _ _ hx
  have hrow := fun x => hloc.foldl_apply hnd hcfg x
  refine ⟨hloc.foldl_keeps _ hcfg, ?_, ?_, ?_, ?_⟩
  · rw [hrow, if_neg hself]
    exact setRow_self _ _ _
  · intro p hp
    rw [hrow, if_pos hp, hfire p fun he => hself (he ▸ hp)]
  · intro x hx hnot
    rw [hrow, if_neg hnot, hfire x hx]
  · rw [hloc.foldl_log hnd hcfg]
    refine congrArg₂ _ rfl (List.flatMap_congr fun p hp => ?_)
    rw [hfire p fun he => hself (he ▸ hp)]

lemma takeBit_some {dev dev' : SyncDevice} {idx : ℕ} (h : takeBit dev = some (idx, dev')) :
    idx < camSyncMaxObjs ∧ dev.bitmap idx = false ∧ dev' = setBit dev idx true := by
  unfold takeBit at h
  obtain ⟨i, hi, he⟩ := Option.map_eq_some_iff.mp h
  cases he
  obtain ⟨hlt, hbit⟩ := findFirstZeroBit_some hi
  exact ⟨hlt, hbit, rfl⟩

lemma camSyncInitRow_ok {dev : SyncDevice} {idx : ℕ} (hr : 0 < idx ∧ idx < camSyncMaxObjs)
    (type : SyncType) (c : ℕ) :
    camSyncInitRow dev idx type c = (0, setRow dev idx (initRow idx type c)) := by
  rw [camSyncInitRow, if_neg]
  omega

theorem camSyncCreate_spec (dev : SyncDevice) (clientId : ℕ) (hzero : dev.bitmap 0 = true) :
    (∃ e, camSyncCreate dev clientId = (.error e, dev)) ∨
    ∃ idx, (0 < idx ∧ idx < camSyncMaxObjs) ∧ dev.bitmap idx = false ∧
      camSyncCreate dev clientId =
        (.ok idx, setRow (setBit dev idx true) idx (initRow idx .indv clientId)) := by
  unfold camSyncCreate
  cases hb : takeBit dev with
  | none => exact Or.inl ⟨_, rfl⟩
  | some r =>
    obtain ⟨idx, dev1⟩ := r
    obtain ⟨hlt, hbit, rfl⟩ := takeBit_some hb
    have hpos : 0 < idx := Nat.pos_of_ne_zero fun he => by simp [he, hzero] at hbit
    exact Or.inr ⟨idx, ⟨hpos, hlt⟩, hbit, by simp [createSection, camSyncInitRow_ok ⟨hpos, hlt⟩]⟩

/-! ### Merging -/

/-- The children a merge has to wait for. -/
def activeOf (dev : SyncDevice) (l : List ℕ) : List ℕ :=
  l.filter fun c => (dev.syncTable c).state = .active

lemma mem_activeOf {dev : SyncDevice} {l : List ℕ} {c : ℕ} :
    c ∈ activeOf dev l ↔ c ∈ l ∧ (dev.syncTable c).state = .active := by
  simp [activeOf]

/-- The parent link a merge into `idx` leaves in a waiting child. -/
def linked (idx : ℕ) (row : SyncTableRow) : SyncTableRow :=
  { row with parentsList := row.parentsList ++ [idx] }

/-- Everything but the table is untouched. -/
structure SameOutside (dev dev' : SyncDevice) : Prop where
  bitmap : dev'.bitmap = dev.bitmap
  trace : dev'.trace = dev.trace
  eventq : dev'.camSyncEventq = dev.camSyncEventq
  switch : dev'.triggerCbWithoutSwitch = dev.triggerCbWithoutSwitch

lemma SameOutside.refl (dev : SyncDevice) : SameOutside dev dev := ⟨rfl, rfl, rfl, rfl⟩

lemma SameOutside.trans {a b c : SyncDevice} (h : SameOutside a b) (g : SameOutside b c) :
    SameOutside a c :=
  ⟨g.bitmap.trans h.bitmap, g.trace.trans h.trace, g.eventq.trans h.eventq,
    g.switch.trans h.switch⟩

lemma sameOutside_setRow (dev : SyncDevice) (i : ℕ) (row : SyncTableRow) :
    SameOutside dev (setRow dev i row) := ⟨rfl, rfl, rfl, rfl⟩

/-- The table after the child loop has gone through `l` without a failure. -/
structure Linked (dev : SyncDevice) (idx : ℕ) (l : List ℕ) (dev' : SyncDevice) : Prop where
  outside : SameOutside dev dev'
  children : ∀ c ∈ l, (dev.syncTable c).type = .indv ∧ (dev.syncTable c).state ≠ .invalid
  others : ∀ c, c ≠ idx → dev'.syncTable c =
    if c ∈ activeOf dev l then linked idx (dev.syncTable c) else dev.syncTable c
  remaining : (dev'.syncTable idx).remaining =
    (dev.syncTable idx).remaining + (activeOf dev l).length
  childrenList : (dev'.syncTable idx).childrenList =
    (dev.syncTable idx).childrenList ++ activeOf dev l
  state : (dev'.syncTable idx).state =
    if ∃ c ∈ l, (dev.syncTable c).state = .signaledError then .signaledError
    else (dev.syncTable idx).state
  type : (dev'.syncTable idx).type = (dev.syncTable idx).type
  parentsList : (dev'.syncTable idx).parentsList = (dev.syncTable idx).parentsList
  signaled : (dev'.syncTable idx).signaled = (dev.syncTable idx).signaled
  callbackList : (dev'.syncTable idx).callbackList = (dev.syncTable idx).callbackList

lemma type_indv {row : SyncTableRow} (h : ¬ row.type = .group) : row.type = .indv := by
  cases ht : row.type with
  | indv => rfl
  | group => exact absurd ht h

lemma mergeChild_ok {idx : ℕ} {alloc : Bool × Bool} {dev dev' : SyncDevice} {c : ℕ}
    (hne : c ≠ idx) (hlt : (dev.syncTable idx).remaining < u32Max)
    (h : mergeChild idx alloc dev c = (0, dev')) : Linked dev idx [c] dev' := by
  have hne' : idx ≠ c := hne.symm
  have hE : -Errno.EINVAL ≠ 0 := by decide
  have hM : -Errno.ENOMEM ≠ 0 := by decide
  unfold mergeChild at h
  dsimp only at h
  split_ifs at h with hbad herr hact ha1 ha2
  · exact absurd (congrArg Prod.fst h) hE
  · obtain rfl := congrArg Prod.snd h
    have hty := type_indv (not_or.mp hbad).1
    constructor <;> simp [activeOf, herr, hty, sameOutside_setRow]
    intro x hx
    simp [hx]
  · obtain rfl := congrArg Prod.snd h
    have hty := type_indv (not_or.mp hbad).1
    constructor <;> simp [activeOf, hact, herr, hty, (not_or.mp hbad).2, SameOutside.refl]
  · exact absurd (congrArg Prod.fst h) hM
  · exact absurd (congrArg Prod.fst h) hM
  · obtain rfl := congrArg Prod.snd h
    have hty := type_indv (not_or.mp hbad).1
    rw [ne_eq, not_not] at hact
    constructor
    · exact ⟨rfl, rfl, rfl, rfl⟩
    · simp [hty, hact]
    · intro x hx
      by_cases hxc : x = c
      · subst x
        simp [activeOf, hact, linked, hne]
      · simp [activeOf, hact, hx, hxc]
    · simp [activeOf, hact, hne', u32Inc_of_lt hlt]
    all_goals simp [activeOf, hact, hne']

lemma mergeChild_fail {idx : ℕ} {alloc : Bool × Bool} {dev dev' : SyncDevice} {c : ℕ} {rc : ℤ}
    (hlt : (dev.syncTable idx).remaining < u32Max)
    (h : mergeChild idx alloc dev c = (rc, dev')) (hrc : rc ≠ 0) :
    rc < 0 ∧ SameOutside dev dev' ∧ (∀ x, x ≠ idx → dev'.syncTable x = dev.syncTable x) ∧
      (dev'.syncTable idx).parentsList = (dev.syncTable idx).parentsList ∧
      (dev.syncTable idx).remaining ≤ (dev'.syncTable idx).remaining := by
  have hE : -Errno.EINVAL < 0 := by decide
  have hM : -Errno.ENOMEM < 0 := by decide
  unfold mergeChild at h
  dsimp only at h
  split_ifs at h
  all_goals obtain rfl := congrArg Prod.fst h
  all_goals obtain rfl := congrArg Prod.snd h
  · exact ⟨hE, .refl _, fun _ _ => rfl, rfl, le_refl _⟩
  · exact absurd rfl hrc
  · exact absurd rfl hrc
  · exact ⟨hM, sameOutside_setRow _ _ _, fun x hx => by simp [hx], by simp,
      by simp [u32Inc_of_lt hlt]⟩
  · exact ⟨hM, sameOutside_setRow _ _ _, fun x hx => by simp [hx], by simp,
      by simp [u32Inc_of_lt hlt]⟩
  · exact absurd rfl hrc

lemma activeOf_congr {dev dev' : SyncDevice} {l : List ℕ}
    (h : ∀ c ∈ l, dev'.syncTable c = dev.syncTable c) : activeOf dev' l = activeOf dev l := by
  apply List.filter_congr
  intro c hc
  rw [h c hc]

lemma linked_nil (dev : SyncDevice) (idx : ℕ) : Linked dev idx [] dev := by
  constructor <;> simp [activeOf, SameOutside.refl]

lemma Linked.cons {dev d d' : SyncDevice} {idx c : ℕ} {l : List ℕ} (h : Linked dev idx [c] d)
    (g : Linked d idx l d') (hc : c ∉ l) (hidx : idx ∉ l) : Linked dev idx (c :: l) d' := by
  have hsame : ∀ x ∈ l, d.syncTable x = dev.syncTable x := by
    intro x hx
    have hxc : x ≠ c := fun he => hc (he ▸ hx)
    rw [h.others x fun he => hidx (he ▸ hx), if_neg]
    simp [activeOf, hxc]
  have hact : activeOf dev (c :: l) = activeOf dev [c] ++ activeOf d l := by
    rw [activeOf_congr hsame, activeOf, List.filter_cons]
    split_ifs with hca <;> simp [activeOf, hca]
  constructor
  · exact h.outside.trans g.outside
  · intro x hx
    rcases List.mem_cons.mp hx with rfl | hx
    · exact h.children x (by simp)
    · rw [← hsame x hx]
      exact g.children x hx
  · intro x hx
    rw [g.others x hx, h.others x hx, hact]
    simp only [List.mem_append]
    by_cases hxl : x ∈ activeOf d l
    · have hxc : x ∉ activeOf dev [c] := by
        intro hm
        have : x = c := by simpa using (List.mem_filter.mp hm).1
        exact hc (this ▸ (List.mem_filter.mp hxl).1)
      simp [hxl, hxc]
    · simp [hxl]
  · rw [g.remaining, h.remaining, hact, List.length_append, Nat.add_assoc]
  · rw [g.childrenList, h.childrenList, hact, List.append_assoc]
  · rw [g.state, h.state]
    have he : (∃ x ∈ l, (d.syncTable x).state = .signaledError) ↔
        ∃ x ∈ l, (dev.syncTable x).state = .signaledError :=
      exists_congr fun x => and_congr_right fun hx => by rw [hsame x hx]
    simp only [he, List.mem_cons, List.not_mem_nil, or_false, exists_eq_or_imp, exists_eq_left]
    by_cases hl : ∃ x ∈ l, (dev.syncTable x).state = .signaledError
    · simp only [hl, or_true, if_true]
    · simp only [hl, or_false, if_false]
  · rw [g.type, h.type]
  · rw [g.parentsList, h.parentsList]
  · rw [g.signaled, h.signaled]
  · rw [g.callbackList, h.callbackList]

/-- The child loop either links all of `l`, or stops after linking a proper
prefix of it and touches no further row but the group's. -/
theorem mergeChildren_spec {idx : ℕ} (alloc : ℕ → Bool × Bool) {l : List ℕ} (i : ℕ)
    (dev : SyncDevice) (hnd : l.Nodup) (hidx : idx ∉ l)
    (hlt : (dev.syncTable idx).remaining + l.length ≤ u32Max) :
    (∃ d, mergeChildren idx alloc i dev l = (0, i + l.length, d) ∧ Linked dev idx l d) ∨
    ∃ rc k d d', mergeChildren idx alloc i dev l = (rc, i + k, d') ∧ rc < 0 ∧ k < l.length ∧
      Linked dev idx (l.take k) d ∧ SameOutside d d' ∧
      (∀ x, x ≠ idx → d'.syncTable x = d.syncTable x) ∧
      (d'.syncTable idx).parentsList = (d.syncTable idx).parentsList := by
  induction l generalizing i dev with
  | nil => exact Or.inl ⟨dev, rfl, linked_nil dev idx⟩
  | cons c l ih =>
    obtain ⟨hc, hnd⟩ := List.nodup_cons.mp hnd
    rw [List.mem_cons, not_or] at hidx
    rw [List.length_cons] at hlt
    obtain ⟨rc, d, hr⟩ : ∃ rc d, mergeChild idx (alloc i) dev c = (rc, d) := ⟨_, _, rfl⟩
    by_cases hrc : rc = 0
    · subst rc
      have hd := mergeChild_ok (Ne.symm hidx.1) (by omega) hr
      have hlen : (activeOf dev [c]).length ≤ 1 := (List.length_filter_le _ _)
      have hrem := hd.remaining
      have hm : mergeChildren idx alloc i dev (c :: l) = mergeChildren idx alloc (i + 1) d l := by
        simp [mergeChildren, hr]
      rcases ih (i + 1) d hnd hidx.2 (by omega) with
        ⟨d', he, hl⟩ | ⟨rc, k, d', d'', he, hneg, hk, hl, ho, hs⟩
      · exact Or.inl ⟨d', by rw [hm, he, List.length_cons]; congr 2; omega,
          hd.cons hl hc hidx.2⟩
      · refine Or.inr ⟨rc, k + 1, d', d'', by rw [hm, he]; congr 2; omega, hneg,
          by simpa using hk, ?_, ho, hs⟩
        rw [List.take_succ_cons]
        exact hd.cons hl (fun h => hc (List.mem_of_mem_take h))
          fun h => hidx.2 (List.mem_of_mem_take h)
    · obtain ⟨hneg, ho, hs, hp, -⟩ := mergeChild_fail (by omega) hr hrc
      refine Or.inr ⟨rc, 0, dev, d, ?_, hneg, by simp, by simpa using linked_nil dev idx, ho,
        hs, hp⟩
      rw [mergeChildren, hr]
      split
      · next he => exact absurd (congrArg Prod.fst he) hrc
      · next he =>
        cases he
        rfl

lemma foldl_unlinkChild {dev d : SyncDevice} {idx : ℕ} {l : List ℕ} (hnd : l.Nodup)
    (hidx : idx ∉ l) (hfree : ∀ c, idx ∉ (dev.syncTable c).parentsList)
    (h : ∀ c, c ≠ idx → d.syncTable c =
      if c ∈ activeOf dev l then linked idx (dev.syncTable c) else dev.syncTable c) :
    SameOutside d (l.reverse.foldl (unlinkChild idx) d) ∧
    (l.reverse.foldl (unlinkChild idx) d).syncTable idx = d.syncTable idx ∧
    ∀ c, c ≠ idx → (l.reverse.foldl (unlinkChild idx) d).syncTable c = dev.syncTable c := by
  have hloc : KeyedFold.Local SyncDevice.syncTable (fun _ => ([] : List Unit)) (SameOutside d)
      (fun row => camSyncUtilCleanupParentsList row .one idx) (fun _ _ => [])
      (unlinkChild idx) :=
    ⟨fun s k hs => hs.trans (sameOutside_setRow _ _ _), fun s k _ => rfl, fun s k _ => rfl⟩
  have hrow := hloc.foldl_apply (List.nodup_reverse.mpr hnd) (SameOutside.refl d)
  refine ⟨hloc.foldl_keeps _ (SameOutside.refl d), ?_, ?_⟩
  · rw [hrow, if_neg (by simpa using hidx)]
  · intro c hc
    rw [hrow, h c hc]
    by_cases hcl : c ∈ l
    · have herase := List.erase_of_not_mem (hfree c)
      by_cases hca : c ∈ activeOf dev l
      · simp [hcl, hca, linked, camSyncUtilCleanupParentsList, cleanupList,
          List.erase_append_right _ (hfree c)]
      · simp [hcl, hca, camSyncUtilCleanupParentsList, cleanupList, herase]
    · have hca : c ∉ activeOf dev l := fun hm => hcl (List.mem_filter.mp hm).1
      simp [hcl, hca]

/-- A merge that went through: the free row `idx` is now a group over `l`. -/
structure Merged (dev : SyncDevice) (idx : ℕ) (l : List ℕ) (dev' : SyncDevice) : Prop where
  free : dev.bitmap idx = false
  range : 0 < idx ∧ idx < camSyncMaxObjs
  nodup : l.Nodup
  two : 2 ≤ l.length
  children : ∀ c ∈ l, dev.bitmap c = true ∧
    (dev.syncTable c).type = .indv ∧ (dev.syncTable c).state ≠ .invalid
  bitmap : dev'.bitmap = Function.update dev.bitmap idx true
  trace : dev'.trace = dev.trace
  eventq : dev'.camSyncEventq = dev.camSyncEventq
  switch : dev'.triggerCbWithoutSwitch = dev.triggerCbWithoutSwitch
  others : ∀ c, c ≠ idx → dev'.syncTable c =
    if c ∈ activeOf dev l then linked idx (dev.syncTable c) else dev.syncTable c
  remaining : (dev'.syncTable idx).remaining = (activeOf dev l).length
  childrenList : (dev'.syncTable idx).childrenList = activeOf dev l
  state : (dev'.syncTable idx).state =
    if ∃ c ∈ l, (dev.syncTable c).state = .signaledError then .signaledError
    else if activeOf dev l = [] then .signaledSuccess else .active
  type : (dev'.syncTable idx).type = .group
  parentsList : (dev'.syncTable idx).parentsList = []
  signaled : (dev'.syncTable idx).signaled = decide (activeOf dev l = [])
  callbackList : (dev'.syncTable idx).callbackList = []

lemma Merged.notMem {dev dev' : SyncDevice} {idx : ℕ} {l : List ℕ} (h : Merged dev idx l dev') :
    idx ∉ l := by
  intro hm
  have := (h.children idx hm).1
  simp [h.free] at this

lemma Merged.frame {dev dev' : SyncDevice} {idx : ℕ} {l : List ℕ} (hm : Merged dev idx l dev')
    {c : ℕ} (hc : c ≠ idx) :
    ∃ ps, dev'.syncTable c = { dev.syncTable c with parentsList := ps } := by
  rw [hm.others c hc]
  split_ifs
  · exact ⟨_, rfl⟩
  · exact ⟨_, rfl⟩

/-- A merge that failed after taking row `idx`. -/
structure Aborted (dev : SyncDevice) (idx : ℕ) (dev' : SyncDevice) : Prop where
  free : dev.bitmap idx = false
  outside : SameOutside dev dev'
  others : ∀ c, c ≠ idx → dev'.syncTable c = dev.syncTable c
  state : (dev'.syncTable idx).state = .invalid
  parentsList : (dev'.syncTable idx).parentsList = []
  childrenList : (dev'.syncTable idx).childrenList = []

lemma foldl_removeDuplicateRound (arr : List ℤ) (m : ℕ) (hm : m < arr.length) :
    let r := (List.range' 1 m).foldl removeDuplicateRound (arr, 1)
    r.2 ≤ m + 1 ∧ (r.2 = m + 1 → r.1 = arr ∧ (arr.take (m + 1)).Nodup) := by
  induction m with
  | zero =>
    obtain ⟨x, xs, rfl⟩ := List.exists_cons_of_length_pos hm
    simp
  | succ m ih =>
    obtain ⟨hle, heq⟩ := ih (by omega)
    rw [List.range'_concat, List.foldl_append]
    generalize (List.range' 1 m).foldl removeDuplicateRound (arr, 1) = r at hle heq
    simp only [List.foldl_cons, List.foldl_nil, removeDuplicateRound]
    split_ifs with hx
    · exact ⟨by omega, fun h => by omega⟩
    · refine ⟨by simpa using hle, fun h => ?_⟩
      obtain ⟨ha, hnd⟩ := heq (by simpa using h)
      have hk : r.2 = m + 1 := by simpa using h
      have hidx : 1 + 1 * m = m + 1 := by omega
      have hget : arr.getD (m + 1) 0 = arr[m + 1] := by
        rw [List.getD_eq_getElem?_getD, List.getElem?_eq_getElem hm, Option.getD_some]
      rw [hidx, ha, hk, hget] at hx
      rw [hidx, ha, hk, hget]
      refine ⟨List.set_getElem_self _, ?_⟩
      rw [List.take_succ_eq_append_getElem hm]
      exact List.nodup_append.mpr ⟨hnd, by simp, by simpa using fun a ha => ne_of_mem_of_not_mem ha hx⟩

lemma removeDuplicateArr_length {arr : List ℤ} (hpos : 0 < arr.length)
    (h : (camCommonUtilRemoveDuplicateArr arr).2 = arr.length) :
    (camCommonUtilRemoveDuplicateArr arr).1 = arr ∧ arr.Nodup := by
  have hl : arr.length - 1 + 1 = arr.length := by omega
  have hr := (foldl_removeDuplicateRound arr (arr.length - 1) (by omega)).2
  simp only [hl, List.take_length] at hr
  exact hr h

section GroupObject
variable {dev : SyncDevice} {idx : ℕ} {l : List ℕ}

lemma mergeFinish_spec {d : SyncDevice} (hidx : idx ∉ l)
    (h : Linked (setRow dev idx (initRow idx .group 0)) idx l d) :
    SameOutside dev (mergeFinish idx d) ∧
    (∀ c, c ≠ idx → (mergeFinish idx d).syncTable c =
      if c ∈ activeOf dev l then linked idx (dev.syncTable c) else dev.syncTable c) ∧
    (mergeFinish idx d).syncTable idx = { d.syncTable idx with
      state := if ∃ c ∈ l, (dev.syncTable c).state = .signaledError then .signaledError
        else if activeOf dev l = [] then .signaledSuccess else .active
      signaled := decide (activeOf dev l = []) } := by
  have hsame : ∀ c ∈ l, (setRow dev idx (initRow idx .group 0)).syncTable c = dev.syncTable c :=
    fun c hc => setRow_ne _ _ _ _ fun he => hidx (he ▸ hc)
  have hact := activeOf_congr hsame
  have herr : (∃ c ∈ l, ((setRow dev idx (initRow idx .group 0)).syncTable c).state =
      .signaledError) ↔ ∃ c ∈ l, (dev.syncTable c).state = .signaledError :=
    exists_congr fun c => and_congr_right fun hc => by rw [hsame c hc]
  have hrem := h.remaining
  have hst := h.state
  have hsig := h.signaled
  rw [hact, setRow_self] at hrem
  simp only [herr, setRow_self] at hst
  rw [setRow_self] at hsig
  simp only [initRow, zeroRow, Nat.zero_add] at hrem hst hsig
  have hout : SameOutside dev d := (sameOutside_setRow _ _ _).trans h.outside
  have hzero : (d.syncTable idx).remaining = 0 ↔ activeOf dev l = [] := by
    rw [hrem, List.length_eq_zero_iff]
  have hothers : ∀ c, c ≠ idx → d.syncTable c =
      if c ∈ activeOf dev l then linked idx (dev.syncTable c) else dev.syncTable c := by
    intro c hc
    rw [h.others c hc, hact, setRow_ne _ _ _ _ hc]
  unfold mergeFinish
  dsimp only
  by_cases hz : activeOf dev l = []
  · rw [if_pos (hzero.mpr hz)]
    refine ⟨hout.trans (sameOutside_setRow _ _ _), ?_, ?_⟩
    · intro c hc
      rw [setRow_ne _ _ _ _ hc, hothers c hc]
    · rw [setRow_self, hst]
      split_ifs <;> simp_all
  · rw [if_neg fun he => hz (hzero.mp he)]
    refine ⟨hout, hothers, ?_⟩
    rw [if_neg hz, decide_eq_false hz, ← hst, ← hsig]

lemma camSyncInitGroupObject_ok {alloc : ℕ → Bool × Bool} {i : ℕ} {d : SyncDevice}
    (hr : 0 < idx ∧ idx < camSyncMaxObjs)
    (h : mergeChildren idx alloc 0 (setRow dev idx (initRow idx .group 0)) l = (0, i, d)) :
    camSyncInitGroupObject dev idx l alloc = (0, mergeFinish idx d) := by
  simp [camSyncInitGroupObject, camSyncInitRow_ok hr, h]

lemma camSyncInitGroupObject_abort {alloc : ℕ → Bool × Bool} {rc : ℤ} {i : ℕ} {d : SyncDevice}
    (hr : 0 < idx ∧ idx < camSyncMaxObjs)
    (h : mergeChildren idx alloc 0 (setRow dev idx (initRow idx .group 0)) l = (rc, i, d))
    (hrc : rc ≠ 0) :
    let e := (l.take i).reverse.foldl (unlinkChild idx)
      (setRow d idx { d.syncTable idx with state := .invalid })
    camSyncInitGroupObject dev idx l alloc =
      (rc, setRow e idx (camSyncUtilCleanupChildrenList (e.syncTable idx) .all 0)) := by
  unfold camSyncInitGroupObject
  rw [camSyncInitRow_ok hr]
  dsimp only
  rw [h]
  split
  · next heq => exact absurd (congrArg Prod.fst heq) hrc
  · next heq =>
    cases heq
    rfl

theorem camSyncInitGroupObject_spec (dev : SyncDevice) (alloc : ℕ → Bool × Bool)
    (hr : 0 < idx ∧ idx < camSyncMaxObjs) (hnd : l.Nodup) (hidx : idx ∉ l)
    (hlen : l.length ≤ u32Max) (hfree : ∀ c, idx ∉ (dev.syncTable c).parentsList) :
    (∃ d, camSyncInitGroupObject dev idx l alloc = (0, mergeFinish idx d) ∧
      Linked (setRow dev idx (initRow idx .group 0)) idx l d) ∨
    ∃ rc d, camSyncInitGroupObject dev idx l alloc = (rc, d) ∧ rc < 0 ∧ SameOutside dev d ∧
      (∀ c, c ≠ idx → d.syncTable c = dev.syncTable c) ∧
      (d.syncTable idx).state = .invalid ∧ (d.syncTable idx).childrenList = [] ∧
      (d.syncTable idx).parentsList = [] := by
  obtain ⟨dev0, h0⟩ : ∃ dev0, dev0 = setRow dev idx (initRow idx .group 0) := ⟨_, rfl⟩
  have hrow0 : dev0.syncTable idx = initRow idx .group 0 := by rw [h0, setRow_self]
  have hsame0 : ∀ c, c ≠ idx → dev0.syncTable c = dev.syncTable c :=
    fun c hc => by rw [h0, setRow_ne _ _ _ _ hc]
  rcases mergeChildren_spec alloc 0 dev0 hnd hidx (by simpa [hrow0, initRow, zeroRow])
    with ⟨d, hm, hl⟩ | ⟨rc, k, d, d', hm, hneg, hk, hl, ho, hs, hp⟩
  · rw [h0] at hm hl
    exact Or.inl ⟨d, camSyncInitGroupObject_ok hr hm, hl⟩
  · obtain ⟨e, he⟩ : ∃ e, e = setRow d' idx { d'.syncTable idx with state := .invalid } := ⟨_, rfl⟩
    have hothers : ∀ c, c ≠ idx → e.syncTable c = if c ∈ activeOf dev (l.take k)
        then linked idx (dev.syncTable c) else dev.syncTable c := by
      intro c hc
      have hcongr : activeOf dev0 (l.take k) = activeOf dev (l.take k) :=
        activeOf_congr fun x hx => hsame0 x fun hx' => hidx (hx' ▸ List.mem_of_mem_take hx)
      rw [he, setRow_ne _ _ _ _ hc, hs c hc, hl.others c hc, hcongr, hsame0 c hc]
    obtain ⟨hout, hrow, hback⟩ := foldl_unlinkChild (hnd.sublist (List.take_sublist k l))
      (fun hm => hidx (List.mem_of_mem_take hm)) hfree hothers
    have hee : SameOutside dev e := by
      rw [he]
      refine SameOutside.trans ?_ (hl.outside.trans (ho.trans (sameOutside_setRow _ _ _)))
      rw [h0]
      exact sameOutside_setRow _ _ _
    obtain ⟨f, hf⟩ : ∃ f, f = (l.take k).reverse.foldl (unlinkChild idx) e := ⟨_, rfl⟩
    rw [← hf] at hout hrow hback
    refine Or.inr ⟨rc, setRow f idx (camSyncUtilCleanupChildrenList (f.syncTable idx) .all 0),
      ?_, hneg, hee.trans (hout.trans (sameOutside_setRow _ _ _)), ?_, ?_, ?_, ?_⟩
    · rw [h0, Nat.zero_add] at hm
      rw [camSyncInitGroupObject_abort hr hm hneg.ne, hf, he]
    · intro c hc
      rw [setRow_ne _ _ _ _ hc, hback c hc]
    · simp [camSyncUtilCleanupChildrenList, hrow, he]
    · simp [camSyncUtilCleanupChildrenList, cleanupList]
    · simp [camSyncUtilCleanupChildrenList, hrow, he, hp, hl.parentsList, hrow0, initRow, zeroRow]

end GroupObject

lemma checkValid_of_find {dev : SyncDevice} {objs : List ℤ}
    (h : (objs.map (camSyncCheckValid dev)).find? (· ≠ 0) = none) (o : ℤ) (ho : o ∈ objs) :
    o.toNat < camSyncMaxObjs ∧ (o.toNat : ℤ) = o ∧ dev.bitmap o.toNat = true ∧
      (dev.syncTable o.toNat).state ≠ .invalid := by
  have hz : camSyncCheckValid dev o = 0 := by
    have := List.find?_eq_none.mp h _ (List.mem_map_of_mem ho)
    simpa using this
  have hE : -Errno.EINVAL ≠ 0 := by decide
  unfold camSyncCheckValid at hz
  split_ifs at hz with hr hb hs
  · exact absurd hz hE
  · exact absurd hz hE
  · exact absurd hz hE
  · obtain ⟨-, hlt, hcast⟩ := outOfRange_eq_false (by simpa using hr)
    exact ⟨hlt, hcast, by simpa using hb, hs⟩

lemma merged_of_linked {dev d : SyncDevice} {idx : ℕ} {l : List ℕ} (hfree : dev.bitmap idx = false)
    (hr : 0 < idx ∧ idx < camSyncMaxObjs) (hnd : l.Nodup) (htwo : 2 ≤ l.length)
    (hset : ∀ c ∈ l, dev.bitmap c = true)
    (h : Linked (setRow (setBit dev idx true) idx (initRow idx .group 0)) idx l d) :
    Merged dev idx l (mergeFinish idx d) := by
  have hidx : idx ∉ l := fun hm => by simp [hset idx hm] at hfree
  obtain ⟨ho, hs, hrow⟩ := mergeFinish_spec hidx h
  have hact : activeOf (setRow (setBit dev idx true) idx (initRow idx .group 0)) l =
      activeOf dev l := activeOf_congr fun c hc => setRow_ne _ _ _ _ fun he => hidx (he ▸ hc)
  have hrem := h.remaining
  have hch := h.childrenList
  rw [hact, setRow_self] at hrem hch
  refine
    { free := hfree, range := hr, nodup := hnd, two := htwo
      children := ?_, bitmap := ho.bitmap, trace := ho.trace, eventq := ho.eventq
      switch := ho.switch, others := hs
      remaining := by rw [hrow]; simpa [initRow, zeroRow] using hrem
      childrenList := by rw [hrow]; simpa [initRow, zeroRow] using hch
      state := by rw [hrow]; rfl
      type := by rw [hrow]; simpa [initRow] using h.type
      parentsList := by rw [hrow]; simpa [initRow, zeroRow] using h.parentsList
      signaled := by rw [hrow]; rfl
      callbackList := by rw [hrow]; simpa [initRow, zeroRow] using h.callbackList }
  intro c hc
  have hne : c ≠ idx := fun he => hidx (he ▸ hc)
  have hval := h.children c hc
  rw [setRow_ne _ _ _ _ hne] at hval
  exact ⟨hset c hc, hval⟩

theorem camSyncMerge_spec (dev : SyncDevice) (objs : List ℤ) (alloc : ℕ → Bool × Bool)
    (hzero : dev.bitmap 0 = true)
    (hfree : ∀ i c, dev.bitmap i = false → i ∉ (dev.syncTable c).parentsList) :
    (∃ idx d, camSyncMerge dev objs alloc = (.ok idx, d) ∧
      Merged dev idx (objs.map Int.toNat) d) ∨
    ∃ e d, camSyncMerge dev objs alloc = (.error e, d) ∧ (d = dev ∨ ∃ idx, Aborted dev idx d) := by
  unfold camSyncMerge
  by_cases hlen : objs.length ≤ 1
  · exact Or.inr ⟨_, _, if_pos hlen, Or.inl rfl⟩
  rw [if_neg hlen]
  dsimp only
  by_cases hdup : (camCommonUtilRemoveDuplicateArr objs).2 = objs.length
  swap
  · exact Or.inr ⟨_, _, if_pos hdup, Or.inl rfl⟩
  obtain ⟨harr, hnd⟩ := removeDuplicateArr_length (by omega) hdup
  rw [if_neg (not_not.mpr hdup), harr]
  cases hf : (objs.map (camSyncCheckValid dev)).find? (· ≠ 0) with
  | some rc => exact Or.inr ⟨_, _, rfl, Or.inl rfl⟩
  | none =>
    have hval := fun o ho => checkValid_of_find hf o ho
    cases hb : takeBit dev with
    | none => exact Or.inr ⟨_, _, rfl, Or.inl rfl⟩
    | some r =>
      obtain ⟨idx, dev1⟩ := r
      obtain ⟨hidx, hbit, rfl⟩ := takeBit_some hb
      have hpos : 0 < idx := Nat.pos_of_ne_zero fun he => by simp [he, hzero] at hbit
      have hnotMem : idx ∉ objs.map Int.toNat := by
        intro hm
        obtain ⟨o, ho, he⟩ := List.mem_map.mp hm
        have := (hval o ho).2.2.1
        rw [he, hbit] at this
        cases this
      have hndN : (objs.map Int.toNat).Nodup := by
        refine List.Nodup.map_on (fun x hx y hy he => ?_) hnd
        rw [← (hval x hx).2.1, ← (hval y hy).2.1, he]
      have hlenN : (objs.map Int.toNat).length ≤ u32Max := by
        have hsub : ∀ x ∈ objs.map Int.toNat, x ∈ List.range camSyncMaxObjs := by
          intro x hx
          obtain ⟨o, ho, rfl⟩ := List.mem_map.mp hx
          exact List.mem_range.mpr (hval o ho).1
        have := (hndN.subperm hsub).length_le
        rw [List.length_range] at this
        rw [u32Max_eq]
        exact this.trans (by decide)
      dsimp only
      rcases camSyncInitGroupObject_spec (setBit dev idx true) alloc ⟨hpos, hidx⟩ hndN
        hnotMem hlenN (fun c => hfree idx c hbit) with ⟨d, hg, hl⟩ | ⟨rc, d, hg, hneg, ho, hs, hst, hc, hp⟩
      · refine Or.inl ⟨idx, mergeFinish idx d, by rw [hg, if_neg (lt_irrefl 0)], ?_⟩
        refine merged_of_linked hbit ⟨hpos, hidx⟩ hndN (by rw [List.length_map]; omega) ?_ hl
        intro c hc
        obtain ⟨o, ho, rfl⟩ := List.mem_map.mp hc
        exact (hval o ho).2.2.1
      · refine Or.inr ⟨_, setBit d idx false, by rw [hg, if_pos hneg], Or.inr ⟨idx, ?_⟩⟩
        refine ⟨hbit, ⟨?_, ho.trace, ho.eventq, ho.switch⟩, hs, hst, hp, hc⟩
        ext x
        rw [setBit_apply, ho.bitmap, setBit_apply]
        by_cases hx : x = idx <;> simp [hx, hbit]

/-- What the section on a detached child or parent makes of its row. -/
def unlinkedRow (cleanup : SyncTableRow → SyncTableRow) (row : SyncTableRow) : SyncTableRow :=
  if row.state = .invalid then row else cleanup row

lemma deinit_local (cleanup : SyncTableRow → SyncTableRow) (dev : SyncDevice) :
    KeyedFold.Local SyncDevice.syncTable (fun _ => ([] : List Unit)) (SameOutside dev)
      (unlinkedRow cleanup) (fun _ _ => [])
      (fun d x => if (d.syncTable x).state = .invalid then d
        else setRow d x (cleanup (d.syncTable x))) where
  keeps d x h := by
    split_ifs
    · exact h
    · exact h.trans (sameOutside_setRow _ _ _)
  table d x _ := by
    dsimp only [unlinkedRow]
    split_ifs
    · exact (Function.update_eq_self x d.syncTable).symm
    · rfl
  logged _ _ _ := rfl

/-- A destroy that went through: the row is zeroed and given back, its links in
other rows are gone, and no counter has been touched. -/
structure Destroyed (dev : SyncDevice) (idx : ℕ) (dev' : SyncDevice) : Prop where
  range : 0 < idx ∧ idx < camSyncMaxObjs
  live : (dev.syncTable idx).state ≠ .invalid
  bitmap : dev'.bitmap = Function.update dev.bitmap idx false
  trace : dev'.trace = dev.trace
  eventq : dev'.camSyncEventq = dev.camSyncEventq
  switch : dev'.triggerCbWithoutSwitch = dev.triggerCbWithoutSwitch
  self : dev'.syncTable idx = zeroRow
  others : ∀ x, x ≠ idx → dev'.syncTable x =
    if (dev.syncTable x).state = .invalid then dev.syncTable x
    else { dev.syncTable x with
      parentsList := if x ∈ (dev.syncTable idx).childrenList
        then (dev.syncTable x).parentsList.erase idx else (dev.syncTable x).parentsList
      childrenList := if x ∈ (dev.syncTable idx).parentsList
        then (dev.syncTable x).childrenList.erase idx else (dev.syncTable x).childrenList }

lemma unlinked_both (row : SyncTableRow) (idx : ℕ) (p c : Prop) [Decidable p] [Decidable c] :
    (if p then unlinkedRow (fun row => camSyncUtilCleanupChildrenList row .one idx)
        (if c then unlinkedRow (fun row => camSyncUtilCleanupParentsList row .one idx) row else row)
      else if c then unlinkedRow (fun row => camSyncUtilCleanupParentsList row .one idx) row else row) =
    if row.state = .invalid then row
    else { row with
      parentsList := if c then row.parentsList.erase idx else row.parentsList
      childrenList := if p then row.childrenList.erase idx else row.childrenList } := by
  unfold unlinkedRow
  by_cases hi : row.state = .invalid
  · simp only [hi, if_true, ite_self]
  · by_cases hp : p <;> by_cases hc : c <;>
      simp [hi, hp, hc, camSyncUtilCleanupParentsList, camSyncUtilCleanupChildrenList, cleanupList]

theorem camSyncDestroy_spec (dev : SyncDevice) (obj : ℤ)
    (hc : ∀ i, (dev.syncTable i).childrenList.Nodup ∧ 0 ∉ (dev.syncTable i).childrenList)
    (hp : ∀ i, (dev.syncTable i).parentsList.Nodup ∧ 0 ∉ (dev.syncTable i).parentsList) :
    (camSyncDestroy dev obj).2 = dev ∨ Destroyed dev obj.toNat (camSyncDestroy dev obj).2 := by
  by_cases hneg : obj < 0
  · simp [camSyncDestroy, hneg]
  generalize hidx : obj.toNat = idx
  by_cases hr : idx = 0 ∨ idx ≥ camSyncMaxObjs
  · simp [camSyncDestroy, hneg, camSyncDeinitObject, hidx, hr]
  by_cases hi : (dev.syncTable idx).state = .invalid
  · simp [camSyncDestroy, hneg, camSyncDeinitObject, hidx, hr, deinitDetach, hi]
  right
  have hfc : (dev.syncTable idx).childrenList.filter (0 < ·) = (dev.syncTable idx).childrenList :=
    List.filter_eq_self.mpr fun x hx => by
      simpa using Nat.pos_of_ne_zero fun he => (hc idx).2 (he ▸ hx)
  have hfp : (dev.syncTable idx).parentsList.filter (0 < ·) = (dev.syncTable idx).parentsList :=
    List.filter_eq_self.mpr fun x hx => by
      simpa using Nat.pos_of_ne_zero fun he => (hp idx).2 (he ▸ hx)
  obtain ⟨d, hd⟩ : ∃ d, deinitDetach dev idx = some ((dev.syncTable idx).childrenList,
      (dev.syncTable idx).parentsList, d) ∧ SameOutside dev d ∧
      ∀ x, x ≠ idx → d.syncTable x = dev.syncTable x := by
    refine ⟨_, by rw [deinitDetach, if_neg hi, hfc, hfp], sameOutside_setRow _ _ _, ?_⟩
    intro x hx
    rw [setRow_ne _ _ _ _ hx]
  obtain ⟨hdet, hout, hsame⟩ := hd
  have hchildren := deinit_local (fun row => camSyncUtilCleanupParentsList row .one idx) d
  have hparents := deinit_local (fun row => camSyncUtilCleanupChildrenList row .one idx) d
  have hk := hchildren.foldl_keeps (dev.syncTable idx).childrenList (SameOutside.refl d)
  have hrow := fun x => hparents.foldl_apply (hp idx).1 hk x
  have hrow' := fun x => hchildren.foldl_apply (hc idx).1 (SameOutside.refl d) x
  have hk' := hout.trans (hparents.foldl_keeps (dev.syncTable idx).parentsList hk)
  have heq : (camSyncDestroy dev obj).2 = deinitClear idx
      ((dev.syncTable idx).parentsList.foldl (deinitParent idx)
        ((dev.syncTable idx).childrenList.foldl (deinitChild idx) d)) := by
    simp [camSyncDestroy, hneg, camSyncDeinitObject, hidx, hr, hdet]
  rw [heq]
  refine ⟨by omega, hi, ?_, hk'.trace, hk'.eventq, hk'.switch, by simp [deinitClear], ?_⟩
  · exact congrArg (Function.update · idx false) hk'.bitmap
  · intro x hx
    refine (setRow_ne _ _ _ _ hx).trans ((hrow x).trans ?_)
    rw [hrow', hsame x hx]
    exact unlinked_both (dev.syncTable x) idx _ _

/-- The event by which a late registration is served. -/
def handOver (dev : SyncDevice) (i : ℕ) (cb : SyncCallback) : SyncEvent :=
  if dev.triggerCbWithoutSwitch then .invoke i (dev.syncTable i).state cb
  else .queueWork i (dev.syncTable i).state cb

theorem camSyncRegisterCallback_cases (dev : SyncDevice) (cb : SyncCallback) (obj : ℤ)
    (alloc : Bool) :
    let r := camSyncRegisterCallback dev cb obj alloc
    let row := dev.syncTable obj.toNat
    (r.1 ≠ 0 ∧ r.2 = dev) ∨
    ((obj.toNat : ℤ) = obj ∧ SyncTableRow.complete row = true ∧
      r = (0, { dev with trace := dev.trace ++ [handOver dev obj.toNat cb] })) ∨
    ((obj.toNat : ℤ) = obj ∧ SyncTableRow.complete row = false ∧
      r = (0, setRow dev obj.toNat { row with callbackList := row.callbackList ++ [cb] })) := by
  have hE : -Errno.EINVAL ≠ 0 := by decide
  have hM : -Errno.ENOMEM ≠ 0 := by decide
  intro r row
  by_cases hr : outOfRange obj ∨ cb.callbackFunc = 0
  · exact Or.inl (by simp [r, camSyncRegisterCallback, hr, hE])
  obtain ⟨hr, hcb⟩ := not_or.mp hr
  have hcast := (outOfRange_eq_false (by simpa using hr)).2.2
  by_cases hi : row.state = .invalid
  · exact Or.inl (by simp [r, camSyncRegisterCallback, hr, hcb, row, hi, hE] at *)
  by_cases ha : alloc = true
  swap
  · exact Or.inl (by simp [r, camSyncRegisterCallback, hr, hcb, row, hi, ha, hM])
  by_cases hc : SyncTableRow.complete row = true
  · exact Or.inr (Or.inl ⟨hcast, hc, by
      simp [r, camSyncRegisterCallback, hr, hcb, row, hi, ha, hc, handOver] at *⟩)
  · exact Or.inr (Or.inr ⟨hcast, by simpa using hc, by
      simp [r, camSyncRegisterCallback, hr, hcb, row, hi, ha, hc] at *⟩)

end CameraKernel.SyncSpec
