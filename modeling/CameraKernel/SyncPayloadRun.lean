import CameraKernel.SyncPayload

/-! A listed payload over whole runs: sent once, with the final status, when its object
completes. -/
namespace CameraKernel.SyncPayload
open SyncTable SyncOps SyncSpec SyncInvariant SyncIoctl SyncLinks SyncClose MachineInt

/-- What has been sent of payload `pl` of object `i`. -/
def sendsOf (i : ℕ) (pl : UInt64 × UInt64) (ev : List SyncEvent) : List Delivery :=
  (deliveredOn i ev).filter fun d => d.payload = pl

/-- The registration a call makes, and the device it makes it on. -/
def registration (s : SyncSys) : SyncCall → Option (SyncDevice × PrivateIoctlArg UserPayloadInfo × Bool)
  | .registerPayload arg alloc => if s.openCnt = 0 then none else some (s.dev, arg, alloc)
  | .reset arg again alloc =>
    if s.openCnt = 0 then none
    else
      match fetch sizeofUserPayloadInfo arg with
      | .error _ => none
      | .ok u =>
        if (camSyncReset s.dev u.syncObj).1 ≠ 0 then none
        else some ((camSyncReset s.dev u.syncObj).2, { arg with user := again }, alloc)
  | _ => none

/-- The registration is of `pl` on object `i`, and is served at once. -/
def servesArg (i : ℕ) (pl : UInt64 × UInt64) (dev : SyncDevice) (arg : PrivateIoctlArg UserPayloadInfo)
    (alloc : Bool) : Bool :=
  match fetch sizeofUserPayloadInfo arg with
  | .error _ => false
  | .ok u => decide (u.syncObj.toNat = i ∧ u.payload = pl ∧ outOfRange u.syncObj = false ∧ alloc = true ∧
      ((dev.syncTable i).state = .signaledSuccess ∨ (dev.syncTable i).state = .signaledError))

def serves (i : ℕ) (pl : UInt64 × UInt64) (s : SyncSys) (c : SyncCall) : Bool :=
  match registration s c with
  | none => false
  | some (dev, arg, alloc) => servesArg i pl dev arg alloc

/-- How often along a run a registration of `pl` on object `i` is served at once. -/
def servings (i : ℕ) (pl : UInt64 × UInt64) : SyncSys → List SyncCall → ℕ
  | _, [] => 0
  | s, c :: cs => (if serves i pl s c then 1 else 0) + servings i pl (sysStep s c) cs

def onPartial (dev : SyncDevice) (arg : PrivateIoctlArg UserPayloadInfo) : Bool :=
  match fetch sizeofUserPayloadInfo arg with
  | .error _ => false
  | .ok u => partialRow dev u.syncObj

/-- No payload is registered on an object with a status and children pending, and no reset
tears a link. -/
def registersWhole (s : SyncSys) (c : SyncCall) : Bool :=
  resetsUnlinked s c &&
    match registration s c with
    | none => true
    | some (dev, arg, _) => !onPartial dev arg

/-- The call leaves payload `pl` of object `i` with the object: it does not destroy or reset
the object, take the payload back, or close the last file. -/
def keeps (i : ℕ) (pl : UInt64 × UInt64) (s : SyncSys) : SyncCall → Bool
  | .kernel (.destroy obj) => decide (obj.toNat ≠ i)
  | .deregisterPayload arg =>
    match fetch sizeofUserPayloadInfo arg with
    | .error _ => true
    | .ok u => decide (¬ (u.syncObj.toNat = i ∧ u.payload = pl))
  | .reset arg _ _ =>
    match fetch sizeofUserPayloadInfo arg with
    | .error _ => true
    | .ok u => decide (u.syncObj.toNat ≠ i)
  | .closeFile => decide (s.openCnt ≠ 1)
  | _ => true

/-- A step as payload `pl` of object `i` sees it. -/
structure Tracked (i : ℕ) (pl : UInt64 × UInt64) (row row' : SyncTableRow) (ev : List SyncEvent)
    (served : Bool) : Prop where
  waiting : SyncTableRow.complete row = false → pl ∈ row.userPayloadList →
    (SyncTableRow.complete row' = false ∧ pl ∈ row'.userPayloadList ∧ sendsOf i pl ev = [] ∧ served = false) ∨
    (SyncTableRow.complete row' = true ∧ sendsOf i pl ev = [⟨row'.clientId, row'.state, pl⟩] ∧ served = false)
  done : SyncTableRow.complete row = true → SyncTableRow.complete row' = true ∧
    row'.clientId = row.clientId ∧ row'.state = row.state ∧
    sendsOf i pl ev = if served then [⟨row.clientId, row.state, pl⟩] else []

section
variable {dev dev' : SyncDevice} {i x : ℕ} {st : SyncState} {row row' : SyncTableRow} {eventq : Bool}
  {gone : ℕ → Prop} {ev : List SyncEvent} {pl : UInt64 × UInt64}

lemma RowListed.filter_sent (h : RowListed eventq row) (hpl : pl ∈ row.userPayloadList)
    (f : UInt64 × UInt64 → Delivery) (hf : ∀ p, (f p).payload = p) :
    (row.userPayloadList.map f).filter (fun d => d.payload = pl) = [f pl] := by
  rw [List.filter_map]
  have hone : row.userPayloadList.filter (fun p => p = pl) = [pl] := by
    rw [List.filter_eq, List.count_eq_one_of_mem h.nodup hpl]
    rfl
  have hcomp : ((fun d : Delivery => decide (d.payload = pl)) ∘ f) = fun p => decide (p = pl) := by
    funext p
    simp [hf]
  rw [hcomp, hone, List.map_singleton]

lemma RowListed.tracked (h : RowListed eventq row) (hm : RowMove row row' (deliveredOn i ev)) :
    Tracked i pl row row' ev false := by
  revert hm
  generalize hd : deliveredOn i ev = d
  intro hm
  cases hm with
  | kept hs hr hc hl =>
    refine ⟨fun hw hpl => Or.inl ⟨(complete_congr hs hr).trans hw, hl ▸ hpl, by simp [sendsOf, hd], rfl⟩,
      fun hw => ⟨(complete_congr hs hr).trans hw, hc, hs, by simp [sendsOf, hd]⟩⟩
  | counted hb ha hlive hc hl =>
    refine ⟨fun _ hpl => Or.inl ⟨ha, hl ▸ hpl, by simp [sendsOf, hd], rfl⟩, fun hw => ?_⟩
    simp [hb] at hw
  | completed hb ha hc hl =>
    refine ⟨fun _ hpl => Or.inr ⟨ha, ?_, rfl⟩, fun hw => ?_⟩
    · rw [sendsOf, hd]
      exact h.filter_sent hpl _ fun _ => rfl
    · simp [hb] at hw

lemma tracked_same (hs : row'.state = row.state) (hr : row'.remaining = row.remaining)
    (hc : row'.clientId = row.clientId) (hl : pl ∈ row.userPayloadList → pl ∈ row'.userPayloadList)
    (hev : sendsOf i pl ev = []) : Tracked i pl row row' ev false :=
  ⟨fun hw hpl => Or.inl ⟨(complete_congr hs hr).trans hw, hl hpl, hev, rfl⟩,
    fun hw => ⟨(complete_congr hs hr).trans hw, hc, hs, by simp [hev]⟩⟩

lemma servesArg_iff {arg : PrivateIoctlArg UserPayloadInfo} {alloc : Bool} {u : UserPayloadInfo}
    (hf : fetch sizeofUserPayloadInfo arg = .ok u) : servesArg i pl dev arg alloc = true ↔
      u.syncObj.toNat = i ∧ u.payload = pl ∧ outOfRange u.syncObj = false ∧ alloc = true ∧
      ((dev.syncTable i).state = .signaledSuccess ∨ (dev.syncTable i).state = .signaledError) := by
  simp [servesArg, hf]

lemma sendsOf_single (y c : ℕ) (st : SyncState) (p : UInt64 × UInt64) :
    sendsOf i pl [.v4l2Event y c st p] = if y = i ∧ p = pl then [⟨c, st, p⟩] else [] := by
  by_cases hy : y = i
  · subst hy
    by_cases hp : p = pl <;> simp [sendsOf, deliveredOn, eventsOf, SyncEvent.obj, delivery, hp]
  · simp [sendsOf, deliveredOn, eventsOf, SyncEvent.obj, hy]

lemma servesArg_rc {arg : PrivateIoctlArg UserPayloadInfo} {alloc : Bool}
    (h : servesArg i pl dev arg alloc = true) : (camSyncHandleRegisterUserPayload dev arg alloc).1 = 0 := by
  cases hf : fetch sizeofUserPayloadInfo arg with
  | error rc => simp [servesArg, hf] at h
  | ok u =>
    obtain ⟨rfl, -, hr, ha, hs⟩ := (servesArg_iff hf).mp h
    have hi : (dev.syncTable u.syncObj.toNat).state ≠ .invalid := by
      rcases hs with hs | hs <;> simp [hs]
    simp [camSyncHandleRegisterUserPayload, hf, hr, ha, hi, hs]

lemma complete_of_whole {arg : PrivateIoctlArg UserPayloadInfo} {u : UserPayloadInfo}
    (hf : fetch sizeofUserPayloadInfo arg = .ok u) (hr : outOfRange u.syncObj = false)
    (hs : (dev.syncTable u.syncObj.toNat).state = .signaledSuccess ∨
      (dev.syncTable u.syncObj.toNat).state = .signaledError)
    (hwhole : onPartial dev arg = false) :
    SyncTableRow.complete (dev.syncTable u.syncObj.toNat) = true := by
  refine complete_of_zero hs ?_
  by_contra hz
  rcases hs with hs | hs <;> simp [onPartial, hf, partialRow, hr, hs, hz] at hwhole

lemma Listed.appended (h : Listed dev) (hopen : dev.camSyncEventq = true)
    (hl : LinkInv dev') (hsame : ∀ x, x ≠ i → dev'.syncTable x = dev.syncTable x)
    (hact : (dev.syncTable i).state = .active) (hfresh : pl ∉ (dev.syncTable i).userPayloadList)
    (hq : dev'.camSyncEventq = dev.camSyncEventq)
    (hrow : dev'.syncTable i = { dev.syncTable i with
      userPayloadList := (dev.syncTable i).userPayloadList ++ [pl] }) : Listed dev' := by
  refine ⟨hl, fun x => ?_⟩
  rw [hq]
  by_cases hx : x = i
  · rw [hx, hrow]
    refine ⟨?_, fun _ => ⟨hopen, by simp [hact], not_complete_of_active hact⟩⟩
    refine List.nodup_append.mpr ⟨(h.rows i).nodup, List.nodup_singleton pl, fun a ha b hb he => ?_⟩
    rw [List.mem_singleton] at hb
    exact hfresh (hb ▸ he ▸ ha)
  · rw [hsame x hx]
    exact h.rows x

lemma Listed.register (h : Listed dev) (hopen : dev.camSyncEventq = true)
    {arg : PrivateIoctlArg UserPayloadInfo} (alloc : Bool) (hwhole : onPartial dev arg = false)
    (i : ℕ) (pl : UInt64 × UInt64) :
    Listed (camSyncHandleRegisterUserPayload dev arg alloc).2 ∧
    (camSyncHandleRegisterUserPayload dev arg alloc).2.camSyncEventq = dev.camSyncEventq ∧
    ∃ ev, (camSyncHandleRegisterUserPayload dev arg alloc).2.trace = dev.trace ++ ev ∧
      Tracked i pl (dev.syncTable i)
        ((camSyncHandleRegisterUserPayload dev arg alloc).2.syncTable i) ev (servesArg i pl dev arg alloc) := by
  have hlinks := h.links.registerPayload arg alloc
  have hserves : servesArg i pl dev arg alloc = true →
    (camSyncHandleRegisterUserPayload dev arg alloc).1 = 0 := servesArg_rc
  revert hlinks hserves
  rcases registerPayload_cases dev arg alloc with ⟨hne, he⟩ | ⟨u, hf, hr, ha, ⟨hs, he⟩ | ⟨hact, hfresh, he⟩⟩
  · intro _ hserves
    have hno : servesArg i pl dev arg alloc = false := by
      rw [← Bool.not_eq_true]
      exact fun hyes => hne (hserves hyes)
    rw [he, hno]
    exact ⟨h, rfl, [], (List.append_nil _).symm, tracked_same rfl rfl rfl id rfl⟩
  · intro hlinks _
    rw [he] at hlinks ⊢
    have hcomplete := complete_of_whole hf hr hs hwhole
    refine ⟨⟨hlinks, h.rows⟩, rfl, _, rfl, ?_⟩
    by_cases hi : u.syncObj.toNat = i
    · rw [hi] at hcomplete hs
      refine ⟨fun hw => by simp [hcomplete] at hw, fun _ => ⟨hcomplete, rfl, rfl, ?_⟩⟩
      have hiff : servesArg i pl dev arg alloc = true ↔ u.payload = pl := by
        rw [servesArg_iff hf]
        exact ⟨fun hall => hall.2.1, fun hp => ⟨hi, hp, hr, ha, hs⟩⟩
      rw [sendsOf_single]
      by_cases hp : u.payload = pl
      · rw [if_pos ⟨hi, hp⟩, if_pos (hiff.mpr hp), hi, hp]
      · rw [if_neg fun hall => hp hall.2, if_neg fun hyes => hp (hiff.mp hyes)]
    · have hno : servesArg i pl dev arg alloc = false := by
        rw [← Bool.not_eq_true, servesArg_iff hf]
        exact fun hall => hi hall.1
      rw [hno]
      exact tracked_same rfl rfl rfl id (by rw [sendsOf_single, if_neg fun hall => hi hall.1])
  · intro hlinks _
    rw [he] at hlinks ⊢
    have hno : servesArg i pl dev arg alloc = false := by
      rw [← Bool.not_eq_true, servesArg_iff hf]
      rintro ⟨rfl, -, -, -, hs | hs⟩ <;> simp [hact] at hs
    rw [hno]
    refine ⟨h.appended hopen hlinks (fun x hx => setRow_ne _ _ _ _ hx) hact hfresh rfl (setRow_self _ _ _),
      rfl, [], (List.append_nil _).symm, ?_⟩
    by_cases hi : i = u.syncObj.toNat
    · subst hi
      dsimp only
      rw [setRow_self]
      exact tracked_same rfl rfl rfl (fun hm => List.mem_append_left _ hm) rfl
    · dsimp only
      rw [setRow_ne _ _ _ _ hi]
      exact tracked_same rfl rfl rfl id rfl

lemma Listed.deregister (i : ℕ) (pl : UInt64 × UInt64) (h : Listed dev) (arg : PrivateIoctlArg UserPayloadInfo) :
    Listed (camSyncHandleDeregisterUserPayload dev arg).2 ∧
    (camSyncHandleDeregisterUserPayload dev arg).2.camSyncEventq = dev.camSyncEventq ∧
    ((∀ u, fetch sizeofUserPayloadInfo arg = .ok u → ¬ (u.syncObj.toNat = i ∧ u.payload = pl)) →
      ∃ ev, (camSyncHandleDeregisterUserPayload dev arg).2.trace = dev.trace ++ ev ∧
        Tracked i pl (dev.syncTable i) ((camSyncHandleDeregisterUserPayload dev arg).2.syncTable i) ev false) := by
  have hsame : Listed dev ∧ dev.camSyncEventq = dev.camSyncEventq ∧
      ∃ ev, dev.trace = dev.trace ++ ev ∧ Tracked i pl (dev.syncTable i) (dev.syncTable i) ev false :=
    ⟨h, rfl, [], (List.append_nil _).symm, tracked_same rfl rfl rfl id rfl⟩
  have hlinks := h.links.deregisterPayload arg
  revert hlinks
  simp only [camSyncHandleDeregisterUserPayload]
  cases hf : fetch sizeofUserPayloadInfo arg with
  | error rc => exact fun _ => ⟨hsame.1, rfl, fun _ => hsame.2.2⟩
  | ok u =>
    dsimp only
    split_ifs
    · exact fun _ => ⟨hsame.1, rfl, fun _ => hsame.2.2⟩
    · exact fun _ => ⟨hsame.1, rfl, fun _ => hsame.2.2⟩
    · intro hlinks
      refine ⟨⟨hlinks, fun x => ?_⟩, rfl, fun hother => ⟨[], (List.append_nil _).symm, ?_⟩⟩
      · have hrow := h.rows u.syncObj.toNat
        by_cases hx : x = u.syncObj.toNat
        · dsimp only
          rw [hx, setRow_self]
          refine ⟨hrow.nodup.filter _, fun hne => hrow.pending fun hnil => hne ?_⟩
          simp [hnil]
        · dsimp only
          rw [setRow_ne _ _ _ _ hx]
          exact h.rows x
      · by_cases hi : i = u.syncObj.toNat
        · subst hi
          dsimp only
          rw [setRow_self]
          refine tracked_same rfl rfl rfl (fun hm => ?_) rfl
          exact List.mem_filter.mpr ⟨hm, by simpa using fun he => hother u rfl ⟨rfl, he.symm⟩⟩
        · dsimp only
          rw [setRow_ne _ _ _ _ hi]
          exact tracked_same rfl rfl rfl id rfl

lemma Listed.reset (h : Listed dev) {obj : ℤ} (hq : outOfRange obj || unlinked dev obj.toNat) :
    Listed (camSyncReset dev obj).2 ∧ (camSyncReset dev obj).2.camSyncEventq = dev.camSyncEventq ∧
    (camSyncReset dev obj).2.trace = dev.trace ∧
    ∀ x, x ≠ obj.toNat → (camSyncReset dev obj).2.syncTable x = dev.syncTable x := by
  have hlinks := h.links.reset hq
  revert hlinks
  simp only [camSyncReset]
  split_ifs
  · exact fun _ => ⟨h, rfl, rfl, fun _ _ => rfl⟩
  · exact fun _ => ⟨h, rfl, rfl, fun _ _ => rfl⟩
  · intro hlinks
    refine ⟨⟨hlinks, fun x => ?_⟩, rfl, rfl, fun x hx => setRow_ne _ _ _ _ hx⟩
    by_cases hx : x = obj.toNat
    · dsimp only
      rw [hx, setRow_self]
      exact rowListed_nil rfl
    · dsimp only
      rw [setRow_ne _ _ _ _ hx]
      exact h.rows x

/-- The invariant of the runs: payloads are listed as they should be, and a queue is open
just while a file is. -/
structure PayloadInv (s : SyncSys) : Prop where
  listed : Listed s.dev
  eventq : s.dev.camSyncEventq = decide (s.openCnt ≠ 0)

lemma payloadInv_probe (switch : Bool) : PayloadInv (sysProbe switch) := by
  refine ⟨⟨linkInv_probe.of_sameRows rfl fun _ => SameLinks.refl _, fun x => rowListed_nil rfl⟩, rfl⟩

/-- What a call through the file or from the kernel does to payload `pl` of object `i`. -/
def TrackedStep (i : ℕ) (pl : UInt64 × UInt64) (s s' : SyncSys) (served : Bool) : Prop :=
  ∃ ev, s'.dev.trace = s.dev.trace ++ ev ∧
    Tracked i pl (s.dev.syncTable i) (s'.dev.syncTable i) ev served

variable {s s' : SyncSys}

lemma trackedStep_refl (i : ℕ) (pl : UInt64 × UInt64) (s : SyncSys) : TrackedStep i pl s s false :=
  ⟨[], (List.append_nil _).symm, tracked_same rfl rfl rfl id rfl⟩

lemma PayloadInv.moved (i : ℕ) (pl : UInt64 × UInt64) (h : PayloadInv s) (hl : LinkInv dev') (hm : Moves s.dev dev' gone ev) :
    PayloadInv { s with dev := dev' } ∧
      (¬ gone i → TrackedStep i pl s { s with dev := dev' } false) := by
  refine ⟨⟨h.listed.moves hl hm, hm.eventq.trans h.eventq⟩, fun hg => ⟨ev, hm.trace, ?_⟩⟩
  by_cases hlive : (s.dev.syncTable i).state = .invalid
  · have hnil := h.listed.nil_of_invalid hlive
    refine ⟨fun _ hpl => by simp [hnil] at hpl, fun hc => ?_⟩
    simp [SyncTableRow.complete, hlive] at hc
  · exact (h.listed.rows i).tracked (hm.rows i hlive hg)

lemma PayloadInv.signal (i : ℕ) (pl : UInt64 × UInt64) (h : PayloadInv s) (arg : PrivateIoctlArg SyncSignal) :
    PayloadInv (sysStep s (.signal arg)) ∧ TrackedStep i pl s (sysStep s (.signal arg)) false := by
  simp only [sysStep]
  split_ifs
  · exact ⟨h, trackedStep_refl i pl s⟩
  · obtain ⟨ev, hm⟩ := h.listed.moves_handleSignal arg
    obtain ⟨hinv, htrack⟩ := h.moved i pl (h.listed.links.handleSignal arg) hm
    exact ⟨hinv, htrack id⟩

lemma Listed.foldl_closeSignal {r : ℤ × SyncDevice} (h : Listed r.2) (l : List ℕ) :
    Listed (l.foldl closeSignal r).2 ∧ (l.foldl closeSignal r).2.camSyncEventq = r.2.camSyncEventq := by
  induction l generalizing r with
  | nil => exact ⟨h, rfl⟩
  | cons j l ih =>
    obtain ⟨hj, hq⟩ : Listed (closeSignal r j).2 ∧ (closeSignal r j).2.camSyncEventq = r.2.camSyncEventq := by
      simp only [closeSignal]
      split_ifs
      · obtain ⟨ev, hm⟩ := h.moves_signal j 3
        exact ⟨h.moves (h.links.signal j 3) hm, hm.eventq⟩
      · exact ⟨h, rfl⟩
    obtain ⟨hl, hq'⟩ := ih hj
    exact ⟨hl, hq'.trans hq⟩

lemma Listed.foldl_closeDestroy {r : ℤ × SyncDevice} (h : Listed r.2) (l : List ℕ) :
    Listed (l.foldl closeDestroy r).2 := by
  induction l generalizing r with
  | nil => exact h
  | cons j l ih =>
    refine ih ?_
    simp only [closeDestroy]
    split_ifs
    · exact h.moves (h.links.destroy j) (h.moves_destroy j)
    · exact h

lemma PayloadInv.close (h : PayloadInv s) (hopen : s.openCnt ≠ 0) : PayloadInv (camSyncClose s).2 := by
  by_cases hlast : s.openCnt - 1 = 0
  · have hgone := allGone h.listed.links hlast
    have hlinks := h.listed.links.closed
    have hstart : Listed ((0, s.dev) : ℤ × SyncDevice).2 := h.listed
    have hlist := ((hstart.foldl_closeSignal sweptRows).1.foldl_closeDestroy sweptRows)
    rw [← closeSignalAll, ← closeDestroyAll] at hlist
    revert hgone hlinks
    rw [camSyncClose_last hlast]
    intro hgone hlinks
    refine ⟨⟨hlinks, fun x => rowListed_nil ?_⟩, rfl⟩
    have hdead := (hgone x).1
    rw [closedSys_syncTable] at hdead ⊢
    exact hlist.nil_of_invalid hdead
  · rw [camSyncClose, if_pos hlast]
    refine ⟨h.listed, h.eventq.trans ?_⟩
    simp [hopen, hlast]

/-- Every call keeps the lists in order, and one that leaves the payload with its object
sends it when, and only when, the object completes or is complete. -/
theorem PayloadInv.step (i : ℕ) (pl : UInt64 × UInt64) (h : PayloadInv s) (c : SyncCall) (hok : registersWhole s c = true) :
    PayloadInv (sysStep s c) ∧
      (keeps i pl s c = true → TrackedStep i pl s (sysStep s c) (serves i pl s c)) := by
  obtain ⟨hreset, hwhole⟩ := Bool.and_eq_true_iff.mp hok
  cases c with
  | kernel op =>
    obtain ⟨ev, hm⟩ := h.listed.moves_kernel op
    obtain ⟨hinv, htrack⟩ := h.moved i pl (h.listed.links.step op) hm
    refine ⟨hinv, fun hk => htrack ?_⟩
    cases op with
    | destroy obj =>
      have hne : obj.toNat ≠ i := by simpa [keeps] using hk
      exact fun he => hne (Eq.symm he)
    | _ => exact id
  | signal arg =>
    obtain ⟨hinv, htrack⟩ := h.signal i pl arg
    exact ⟨hinv, fun _ => htrack⟩
  | registerPayload arg alloc =>
    by_cases hopen : s.openCnt = 0
    · simp only [sysStep, serves, registration, hopen, if_true]
      exact ⟨h, fun _ => trackedStep_refl i pl s⟩
    · simp only [registration, hopen, if_false, Bool.not_eq_true'] at hwhole
      have hq : s.dev.camSyncEventq = true := by rw [h.eventq]; simpa using hopen
      obtain ⟨hl, he, htrack⟩ := h.listed.register hq alloc hwhole i pl
      simp only [sysStep, serves, registration, hopen, if_false]
      exact ⟨⟨hl, he.trans h.eventq⟩, fun _ => htrack⟩
  | deregisterPayload arg =>
    by_cases hopen : s.openCnt = 0
    · simp only [sysStep, hopen, if_true]
      exact ⟨h, fun _ => trackedStep_refl i pl s⟩
    · obtain ⟨hl, he, htrack⟩ := h.listed.deregister i pl arg
      simp only [sysStep, hopen, if_false]
      refine ⟨⟨hl, he.trans h.eventq⟩, fun hk => htrack fun u hf => ?_⟩
      have hother : ¬ u.syncObj.toNat = i ∨ ¬ u.payload = pl := by simpa [keeps, hf] using hk
      exact not_and_or.mpr hother
  | reset arg again alloc =>
    by_cases hopen : s.openCnt = 0
    · simp only [sysStep, serves, registration, hopen, if_true]
      exact ⟨h, fun _ => trackedStep_refl i pl s⟩
    cases hf : fetch sizeofUserPayloadInfo arg with
    | error rc =>
      simp only [sysStep, serves, registration, hopen, if_false, hf, camSyncHandleReset]
      exact ⟨h, fun _ => trackedStep_refl i pl s⟩
    | ok u =>
      simp only [resetsUnlinked, hf] at hreset
      simp only [registration, hopen, if_false, hf] at hwhole
      obtain ⟨hl, he, ht, hsame⟩ := h.listed.reset hreset
      simp only [sysStep, serves, registration, hopen, if_false, hf, camSyncHandleReset]
      by_cases hrc : (camSyncReset s.dev u.syncObj).1 ≠ 0
      · rw [if_pos hrc, if_pos hrc]
        refine ⟨⟨hl, he.trans h.eventq⟩, fun hk => ⟨[], ht.trans (List.append_nil _).symm, ?_⟩⟩
        have hne : u.syncObj.toNat ≠ i := by simpa [keeps, hf] using hk
        simp only [SyncSys.onDev]
        rw [hsame i hne.symm]
        exact tracked_same rfl rfl rfl id rfl
      · rw [if_neg hrc] at hwhole ⊢
        rw [if_neg hrc]
        have hq : (camSyncReset s.dev u.syncObj).2.camSyncEventq = true := by
          rw [he, h.eventq]
          simpa using hopen
        have hwhole' : onPartial (camSyncReset s.dev u.syncObj).2 { arg with user := again } = false := by
          simpa using hwhole
        obtain ⟨hl', he', ev, ht', htrack⟩ := hl.register hq alloc hwhole' i pl
        refine ⟨⟨hl', he'.trans (he.trans h.eventq)⟩, fun hk => ⟨ev, by rw [← ht]; exact ht', ?_⟩⟩
        have hne : u.syncObj.toNat ≠ i := by simpa [keeps, hf] using hk
        rw [hsame i hne.symm] at htrack
        exact htrack
  | openFile fh =>
    simp only [sysStep, camSyncOpen]
    split_ifs with h1 h2
    · exact ⟨h, fun _ => trackedStep_refl i pl s⟩
    · refine ⟨⟨h.listed, h.eventq.trans ?_⟩, fun _ => trackedStep_refl i pl s⟩
      have hpos : s.openCnt ≠ 0 := by omega
      simp [hpos]
    · have hzero : s.openCnt = 0 := by omega
      refine ⟨⟨⟨h.listed.links.of_sameRows rfl fun _ => SameLinks.refl _, fun x => rowListed_nil ?_⟩,
        by simp⟩, fun _ => trackedStep_refl i pl s⟩
      by_contra hne
      have hq := ((h.listed.rows x).pending hne).1
      rw [h.eventq, hzero] at hq
      cases hq
  | closeFile =>
    simp only [sysStep]
    by_cases hopen : s.openCnt = 0
    · rw [if_pos hopen]
      exact ⟨h, fun _ => trackedStep_refl i pl s⟩
    · rw [if_neg hopen]
      refine ⟨h.close hopen, fun hk => ?_⟩
      have hlast : s.openCnt - 1 ≠ 0 := by
        have hone : s.openCnt ≠ 1 := by simpa [keeps] using hk
        omega
      rw [camSyncClose, if_pos hlast]
      exact trackedStep_refl i pl s

/-- What a run that leaves payload `pl` with object `i` has done to it, `n` registrations of
it having been served at once. -/
structure TrackedRun (i : ℕ) (pl : UInt64 × UInt64) (row row' : SyncTableRow) (new : List SyncEvent)
    (n : ℕ) : Prop where
  waiting : SyncTableRow.complete row = false → pl ∈ row.userPayloadList →
    (SyncTableRow.complete row' = false → pl ∈ row'.userPayloadList ∧ sendsOf i pl new = []) ∧
    (SyncTableRow.complete row' = true →
      sendsOf i pl new = List.replicate (n + 1) ⟨row'.clientId, row'.state, pl⟩)
  done : SyncTableRow.complete row = true → SyncTableRow.complete row' = true ∧
    row'.clientId = row.clientId ∧ row'.state = row.state ∧
    sendsOf i pl new = List.replicate n ⟨row.clientId, row.state, pl⟩

lemma sendsOf_append (ev ev' : List SyncEvent) :
    sendsOf i pl (ev ++ ev') = sendsOf i pl ev ++ sendsOf i pl ev' := by
  rw [sendsOf, deliveredOn, eventsOf_append, List.filterMap_append, List.filter_append]
  rfl

lemma Tracked.run {row'' : SyncTableRow} {ev' : List SyncEvent} {served : Bool} {n : ℕ}
    (h : Tracked i pl row row' ev served) (hr : TrackedRun i pl row' row'' ev' n) :
    TrackedRun i pl row row'' (ev ++ ev') ((if served then 1 else 0) + n) := by
  refine ⟨fun hw hpl => ?_, fun hc => ?_⟩
  · rw [sendsOf_append]
    rcases h.waiting hw hpl with ⟨hw', hpl', hev, rfl⟩ | ⟨hc', hev, rfl⟩
    · obtain ⟨hno, hyes⟩ := hr.waiting hw' hpl'
      simpa [hev] using ⟨hno, hyes⟩
    · obtain ⟨hc'', hcl, hst, hev'⟩ := hr.done hc'
      refine ⟨fun hno => by simp [hc''] at hno, fun _ => ?_⟩
      rw [hev, hev', hcl, hst, List.replicate_succ']
      simp [← List.replicate_succ, ← List.replicate_succ']
  · obtain ⟨hc', hcl, hst, hev⟩ := h.done hc
    obtain ⟨hc'', hcl', hst', hev'⟩ := hr.done hc'
    refine ⟨hc'', hcl'.trans hcl, hst'.trans hst, ?_⟩
    rw [sendsOf_append, hev, hev', hcl, hst]
    cases served with
    | true => simp [Nat.add_comm 1 n, List.replicate_succ]
    | false => simp

theorem PayloadInv.run (h : PayloadInv s) {calls : List SyncCall}
    (hok : Transition.Guarded sysStep (fun s c => registersWhole s c = true ∧ keeps i pl s c = true) s calls) :
    ∃ new, (Transition.run sysStep s calls).dev.trace = s.dev.trace ++ new ∧
      TrackedRun i pl (s.dev.syncTable i) ((Transition.run sysStep s calls).dev.syncTable i) new
        (servings i pl s calls) := by
  induction calls generalizing s with
  | nil =>
    refine ⟨[], (List.append_nil _).symm, fun hw hpl => ⟨fun _ => ⟨hpl, rfl⟩, fun hc => ?_⟩,
      fun hc => ⟨hc, rfl, rfl, rfl⟩⟩
    simp only [Transition.run_nil] at hc
    simp [hw] at hc
  | cons c cs ih =>
    obtain ⟨⟨hwhole, hkeep⟩, hrest⟩ := hok
    obtain ⟨hinv, hstep⟩ := h.step i pl c hwhole
    obtain ⟨ev, htrace, htrack⟩ := hstep hkeep
    obtain ⟨new, htrace', hrun⟩ := ih hinv hrest
    rw [Transition.run_cons]
    exact ⟨ev ++ new, by rw [htrace', htrace, List.append_assoc], htrack.run hrun⟩

/-- What has become of a payload that was listed on object `i` in state `s`. -/
def PayloadOutcome (i : ℕ) (pl : UInt64 × UInt64) (s s' : SyncSys) (n : ℕ) : Prop :=
  ∃ new, s'.dev.trace = s.dev.trace ++ new ∧
    (SyncTableRow.complete (s'.dev.syncTable i) = false →
      pl ∈ (s'.dev.syncTable i).userPayloadList ∧ sendsOf i pl new = []) ∧
    (SyncTableRow.complete (s'.dev.syncTable i) = true →
      sendsOf i pl new =
        List.replicate (n + 1) ⟨(s'.dev.syncTable i).clientId, (s'.dev.syncTable i).state, pl⟩)

/-- A registration is served at once as a callback's would be just when the row has no status
with children pending, and lists the payload otherwise; and in the runs that register on no
other rows a listed payload is sent once, with the final status, when its object completes. -/
theorem payload_sent_on_completion (dev : SyncDevice) (u : UserPayloadInfo) (cb : SyncCallback)
    (switch : Bool) (before calls : List SyncCall) (i : ℕ) (pl : UInt64 × UInt64) :
    (cb.callbackFunc ≠ 0 →
      ((ServedNow dev u ↔ CallbackNow dev cb u.syncObj) ↔ partialRow dev u.syncObj = false)) ∧
    QueuesPayload dev u ∧
    (Transition.Guarded sysStep (fun s c => registersWhole s c = true) (sysProbe switch) before →
      pl ∈ ((Transition.run sysStep (sysProbe switch) before).dev.syncTable i).userPayloadList →
      Transition.Guarded sysStep (fun s c => registersWhole s c = true ∧ keeps i pl s c = true)
        (Transition.run sysStep (sysProbe switch) before) calls →
      PayloadOutcome i pl (Transition.run sysStep (sysProbe switch) before)
        (Transition.run sysStep (Transition.run sysStep (sysProbe switch) before) calls)
        (servings i pl (Transition.run sysStep (sysProbe switch) before) calls)) := by
  refine ⟨servedNow_callbackNow_iff, queuesPayload dev u, ?_⟩
  intro hbefore hpl hcalls
  have hinv : PayloadInv (Transition.run sysStep (sysProbe switch) before) :=
    Transition.run_invariant (fun s c hs hok => (hs.step i pl c hok).1)
      (payloadInv_probe switch) hbefore
  obtain ⟨new, htrace, hrun⟩ := hinv.run hcalls
  have hpending := ((hinv.listed.rows i).pending (List.ne_nil_of_mem hpl)).2.2
  exact ⟨new, htrace, hrun.waiting hpending hpl⟩

def somePayload : UInt64 × UInt64 := (5, 6)

theorem payload_sent_on_completion_fence :
    PayloadOutcome 1 somePayload
      (Transition.run sysStep (sysProbe false)
        [.openFile 0, .kernel (.create 9), .registerPayload (payloadArg ⟨1, somePayload⟩) true])
      (Transition.run sysStep (Transition.run sysStep (sysProbe false)
        [.openFile 0, .kernel (.create 9), .registerPayload (payloadArg ⟨1, somePayload⟩) true])
        [.signal ⟨sizeofSyncSignal, 1, some ⟨1, 2⟩⟩]) 0 ∧
    (∀ u cb, cb.callbackFunc ≠ 0 → ServedNow camSyncProbe u → CallbackNow camSyncProbe cb u.syncObj) := by
  refine ⟨?_, fun u cb hcb => ?_⟩
  · obtain ⟨-, -, hrun⟩ := payload_sent_on_completion camSyncProbe ⟨1, somePayload⟩ ⟨1, 0⟩ false
      [.openFile 0, .kernel (.create 9), .registerPayload (payloadArg ⟨1, somePayload⟩) true]
      [.signal ⟨sizeofSyncSignal, 1, some ⟨1, 2⟩⟩] 1 somePayload
    exact hrun (by decide +kernel) (by decide +kernel) (by decide +kernel)
  · obtain ⟨hnow, -⟩ := payload_sent_on_completion camSyncProbe u cb false [] [] 1 somePayload
    refine ((hnow hcb).mpr ?_).mp
    simp [partialRow, camSyncProbe, zeroRow]

/-- Two fences and their group, of which one fence is signaled. -/
def halfDone : SyncDevice := (Transition.run sysStep (sysProbe false)
  [.openFile 0, .kernel (.create 0), .kernel (.create 0), .kernel (.merge [1, 2] fun _ => (true, true)),
    .kernel (.getObjRef 1), .kernel (.signal 1 2)]).dev

theorem not_servedNow_callbackNow_halfDone :
    ¬ (ServedNow halfDone ⟨3, somePayload⟩ ↔ CallbackNow halfDone ⟨7, 0⟩ 3) ∧
    (camSyncHandleRegisterUserPayload halfDone (payloadArg ⟨3, somePayload⟩) true).2.trace =
      halfDone.trace ++ [SyncEvent.v4l2Event 3 0 .signaledSuccess somePayload] ∧
    ((camSyncSignal (camSyncGetObjRef halfDone 2).2 2 3).2.syncTable 3).state = .signaledError := by
  refine ⟨fun hiff => ?_, by decide +kernel, by decide +kernel⟩
  have hserved : ServedNow halfDone ⟨3, somePayload⟩ := servedNow_iff.mpr (by decide +kernel)
  have hcb := (callbackNow_iff (by decide)).mp (hiff.mp hserved)
  exact absurd hcb.2 (by decide +kernel)

end

end CameraKernel.SyncPayload
