import CameraKernel.SyncInvariant

/-! The outcome of a group: whatever the order in which its children are signaled,
it is dispatched once, with the error of any child, and every callback registered
on it is delivered once. -/
namespace CameraKernel.SyncGroupOutcome
open SyncTable SyncOps SyncSpec SyncInvariant MachineInt

def isDispatch (g : ℕ) : SyncEvent → Bool
  | .dispatch obj _ => obj == g
  | _ => false

def isQueued (g : ℕ) (cb : SyncCallback) : SyncEvent → Bool
  | .queueWork obj _ c => obj == g && c == cb
  | _ => false

def isInvoked (g : ℕ) (cb : SyncCallback) : SyncEvent → Bool
  | .invoke obj _ c => obj == g && c == cb
  | _ => false

/-- Handed over to its function, through the work queue or directly. -/
def deliveries (g : ℕ) (cb : SyncCallback) (evs : List SyncEvent) : ℕ :=
  evs.countP (isQueued g cb) + evs.countP (isInvoked g cb)

/-- The call registers `cb` on `g` and is accepted. -/
def registers (g : ℕ) (cb : SyncCallback) (dev : SyncDevice) : SyncOp → Bool
  | .registerCallback cb' obj alloc =>
    decide (cb' = cb ∧ obj = g ∧ (camSyncRegisterCallback dev cb' obj alloc).1 = 0)
  | _ => false

/-- The number of accepted registrations of `cb` on `g` along a run. -/
def registrations (g : ℕ) (cb : SyncCallback) : SyncDevice → List SyncOp → ℕ
  | _, [] => 0
  | dev, op :: ops =>
    (if registers g cb dev op then 1 else 0) + registrations g cb (step dev op) ops

def NoDestroy (ops : List SyncOp) : Prop := ∀ op ∈ ops, ∀ obj, op ≠ .destroy obj

section Events
variable {g : ℕ} {cb : SyncCallback} {evs : List SyncEvent}

lemma countP_isDispatch_of_ne (h : ∀ e ∈ evs, e.obj ≠ g) : evs.countP (isDispatch g) = 0 := by
  rw [List.countP_eq_zero]
  intro e he hd
  apply h e he
  cases e <;> simp_all [isDispatch, SyncEvent.obj]

lemma isInvoked_of_ne {e : SyncEvent} (h : e.obj ≠ g) : isInvoked g cb e = false := by
  cases e <;> simp_all [isInvoked, SyncEvent.obj]

lemma deliveries_of_ne (h : ∀ e ∈ evs, e.obj ≠ g) : deliveries g cb evs = 0 := by
  have hq : evs.countP (isQueued g cb) = 0 := by
    rw [List.countP_eq_zero]
    intro e he hd
    apply h e he
    cases e <;> simp_all [isQueued, SyncEvent.obj]
  have hi : evs.countP (isInvoked g cb) = 0 := by
    rw [List.countP_eq_zero]
    intro e he
    simp [isInvoked_of_ne (h e he)]
  rw [deliveries, hq, hi]

lemma deliveries_append (evs' : List SyncEvent) :
    deliveries g cb (evs ++ evs') = deliveries g cb evs + deliveries g cb evs' := by
  simp only [deliveries, List.countP_append]
  omega

lemma mem_dispatchEvents {eventq : Bool} {obj : ℕ} {st : SyncState} {row : SyncTableRow}
    {e : SyncEvent} (h : e ∈ dispatchEvents eventq obj st row) : e.obj = obj ∧ e.status = st := by
  simp only [dispatchEvents, List.cons_append, List.mem_cons, List.mem_append, List.mem_map] at h
  rcases h with rfl | ⟨c, -, rfl⟩ | h
  · exact ⟨rfl, rfl⟩
  · exact ⟨rfl, rfl⟩
  · split_ifs at h
    · obtain ⟨u, -, rfl⟩ := List.mem_map.mp h
      exact ⟨rfl, rfl⟩
    · simp at h

lemma isInvoked_dispatchEvents {eventq : Bool} {obj : ℕ} {st : SyncState} {row : SyncTableRow}
    {e : SyncEvent} (h : e ∈ dispatchEvents eventq obj st row) : isInvoked g cb e = false := by
  simp only [dispatchEvents, List.cons_append, List.mem_cons, List.mem_append, List.mem_map] at h
  rcases h with rfl | ⟨c, -, rfl⟩ | h
  · rfl
  · rfl
  · split_ifs at h
    · obtain ⟨u, -, rfl⟩ := List.mem_map.mp h
      rfl
    · simp at h

lemma countP_dispatchEvents (eventq : Bool) (st : SyncState) (row : SyncTableRow)
    {p : SyncEvent → Bool} (hp : ∀ c u, p (.v4l2Event g c st u) = false) :
    (dispatchEvents eventq g st row).countP p =
      (if p (.dispatch g st) then 1 else 0) + row.callbackList.countP fun c =>
        p (.queueWork g st c) := by
  have hv : (row.userPayloadList.map (SyncEvent.v4l2Event g row.clientId st)).countP p = 0 := by
    simp [List.countP_eq_zero, hp]
  unfold dispatchEvents
  rw [List.cons_append, List.countP_cons, List.countP_append, List.countP_map, Nat.add_comm]
  congr 1
  cases eventq
  · rfl
  · rw [if_pos rfl, hv]
    rfl

lemma dispatchEvents_counts (eventq : Bool) (st : SyncState) (row : SyncTableRow)
    (cb : SyncCallback) :
    (dispatchEvents eventq g st row).countP (isDispatch g) = 1 ∧
    deliveries g cb (dispatchEvents eventq g st row) = row.callbackList.count cb := by
  constructor
  · rw [countP_dispatchEvents _ _ _ fun _ _ => rfl]
    simp [isDispatch]
  · rw [deliveries, countP_dispatchEvents _ _ _ fun _ _ => rfl,
      countP_dispatchEvents _ _ _ fun _ _ => rfl]
    simp [isQueued, isInvoked, List.count]

end Events

/-- What is known of group `g` over the objects `l`, with the events `new` since
the merge. `waited` says whether any child was active at the merge. -/
structure Outcome (g : ℕ) (l : List ℕ) (waited : Bool) (dev : SyncDevice)
    (new : List SyncEvent) : Prop where
  inv : TableInv dev
  group : (dev.syncTable g).type = .group
  live : (dev.syncTable g).state ≠ .invalid
  children : ∀ c ∈ l, (dev.syncTable c).type = .indv ∧ (dev.syncTable c).state ≠ .invalid ∧
    ((dev.syncTable c).state = .active ↔ g ∈ (dev.syncTable c).parentsList)
  parents : ∀ c, g ∈ (dev.syncTable c).parentsList → c ∈ l
  error : (dev.syncTable g).state = .signaledError ↔
    ∃ c ∈ l, (dev.syncTable c).state = .signaledError
  waits : 0 < (dev.syncTable g).remaining → waited = true
  quiet : 0 < (dev.syncTable g).remaining → ∀ e ∈ new, e.obj ≠ g
  status : ∀ e ∈ new, e.obj = g → e.status = (dev.syncTable g).state
  dispatched : new.countP (isDispatch g) =
    if waited ∧ (dev.syncTable g).remaining = 0 then 1 else 0

/-- The accepted registrations of `cb` are either delivered or still listed. -/
def Accounted (g : ℕ) (cb : SyncCallback) (n : ℕ) (dev : SyncDevice) (new : List SyncEvent) : Prop :=
  deliveries g cb new + (dev.syncTable g).callbackList.count cb = n

/-- A step that moves neither the group nor its children; it may still change who
listens to the group. -/
structure Unmoved (g : ℕ) (l : List ℕ) (dev dev' : SyncDevice) (ev : List SyncEvent) : Prop where
  type : (dev'.syncTable g).type = (dev.syncTable g).type
  state : (dev'.syncTable g).state = (dev.syncTable g).state
  remaining : (dev'.syncTable g).remaining = (dev.syncTable g).remaining
  children : ∀ c ∈ l, (dev'.syncTable c).type = (dev.syncTable c).type ∧
    (dev'.syncTable c).state = (dev.syncTable c).state
  parents : ∀ c, g ∈ (dev'.syncTable c).parentsList ↔ g ∈ (dev.syncTable c).parentsList
  trace : dev'.trace = dev.trace ++ ev
  events : ∀ e ∈ ev, e.obj ≠ g

/-- A step that has nothing to do with the group. -/
structure Untouched (g : ℕ) (l : List ℕ) (dev dev' : SyncDevice) (ev : List SyncEvent) : Prop
    extends Unmoved g l dev dev' ev where
  callbackList : (dev'.syncTable g).callbackList = (dev.syncTable g).callbackList

section
variable {g : ℕ} {l : List ℕ} {waited : Bool} {dev dev' : SyncDevice} {new ev : List SyncEvent}
  {cb : SyncCallback} {n : ℕ}

lemma Outcome.remaining_eq_zero_iff (h : Outcome g l waited dev new) :
    (dev.syncTable g).remaining = 0 ↔ ∀ c ∈ l, (dev.syncTable c).state ≠ .active := by
  rw [h.inv.count g h.group h.live, Finset.card_eq_zero, Finset.eq_empty_iff_forall_notMem]
  constructor
  · intro hw c hc ha
    exact hw c (mem_waiting.mpr ⟨h.inv.lt_of_mem ((h.children c hc).2.2.mp ha),
      (h.children c hc).2.2.mp ha⟩)
  · intro hl c hc
    have hp := (mem_waiting.mp hc).2
    exact hl c (h.parents c hp) (h.inv.child c g hp).1

lemma Outcome.unmoved (h : Outcome g l waited dev new) (hi : TableInv dev')
    (hu : Unmoved g l dev dev' ev) : Outcome g l waited dev' (new ++ ev) where
  inv := hi
  group := by rw [hu.type]; exact h.group
  live := by rw [hu.state]; exact h.live
  children c hc := by
    rw [(hu.children c hc).1, (hu.children c hc).2, hu.parents]
    exact h.children c hc
  parents c hc := h.parents c ((hu.parents c).mp hc)
  error := by
    rw [hu.state, h.error]
    exact exists_congr fun c => and_congr_right fun hc => by rw [(hu.children c hc).2]
  waits hr := h.waits (hu.remaining ▸ hr)
  quiet hr e he := by
    rw [hu.remaining] at hr
    rcases List.mem_append.mp he with he | he
    · exact h.quiet hr e he
    · exact hu.events e he
  status e he hg := by
    rw [hu.state]
    rcases List.mem_append.mp he with he | he
    · exact h.status e he hg
    · exact absurd hg (hu.events e he)
  dispatched := by
    rw [List.countP_append, countP_isDispatch_of_ne hu.events, hu.remaining, h.dispatched,
      Nat.add_zero]

lemma Accounted.untouched (h : Accounted g cb n dev new) (hu : Untouched g l dev dev' ev) :
    Accounted g cb n dev' (new ++ ev) := by
  rw [Accounted, deliveries_append, deliveries_of_ne hu.events, hu.callbackList, Nat.add_zero]
  exact h

/-- One step of a run, seen from the group. -/
structure StepOutcome (g : ℕ) (l : List ℕ) (waited : Bool) (dev : SyncDevice)
    (new : List SyncEvent) (op : SyncOp) (dev' : SyncDevice) (ev : List SyncEvent) : Prop where
  trace : dev'.trace = dev.trace ++ ev
  outcome : Outcome g l waited dev' (new ++ ev)
  accounted : ∀ cb n, op ≠ .deregisterCallback cb g → Accounted g cb n dev new →
    Accounted g cb (n + if registers g cb dev op then 1 else 0) dev' (new ++ ev)
  switch : dev'.triggerCbWithoutSwitch = dev.triggerCbWithoutSwitch
  direct : dev.triggerCbWithoutSwitch = false → ∀ e ∈ ev, ∀ cb, isInvoked g cb e = false

lemma Outcome.step_untouched {op : SyncOp} (h : Outcome g l waited dev new) (hi : TableInv dev')
    (hu : Untouched g l dev dev' ev) (hr : ∀ cb, registers g cb dev op = false)
    (hs : dev'.triggerCbWithoutSwitch = dev.triggerCbWithoutSwitch) :
    StepOutcome g l waited dev new op dev' ev where
  trace := hu.trace
  outcome := h.unmoved hi hu.toUnmoved
  accounted cb n _ ha := by
    rw [hr cb]
    exact ha.untouched hu
  switch := hs
  direct _ e he cb := isInvoked_of_ne (hu.events e he)

lemma untouched_refl : Untouched g l dev dev [] := by
  refine ⟨?_, rfl⟩
  constructor <;> simp

lemma unmoved_setRow {i : ℕ} {row : SyncTableRow} (ht : row.type = (dev.syncTable i).type)
    (hs : row.state = (dev.syncTable i).state)
    (hp : row.parentsList = (dev.syncTable i).parentsList)
    (hr : row.remaining = (dev.syncTable i).remaining) :
    Unmoved g l dev (setRow dev i row) [] := by
  have key : ∀ x, ((setRow dev i row).syncTable x).type = (dev.syncTable x).type ∧
      ((setRow dev i row).syncTable x).state = (dev.syncTable x).state ∧
      ((setRow dev i row).syncTable x).parentsList = (dev.syncTable x).parentsList ∧
      ((setRow dev i row).syncTable x).remaining = (dev.syncTable x).remaining := by
    intro x
    by_cases hx : x = i
    · subst x
      simp [ht, hs, hp, hr]
    · simp [hx]
  exact ⟨(key g).1, (key g).2.1, (key g).2.2.2, fun c _ => ⟨(key c).1, (key c).2.1⟩,
    fun c => by rw [(key c).2.2.1], by simp, by simp⟩

lemma untouched_setRow {i : ℕ} {row : SyncTableRow} (ht : row.type = (dev.syncTable i).type)
    (hs : row.state = (dev.syncTable i).state)
    (hp : row.parentsList = (dev.syncTable i).parentsList)
    (hr : row.remaining = (dev.syncTable i).remaining)
    (hc : i = g → row.callbackList = (dev.syncTable i).callbackList) :
    Untouched g l dev (setRow dev i row) [] := by
  refine ⟨unmoved_setRow ht hs hp hr, ?_⟩
  by_cases hg : g = i
  · rw [← hg, setRow_self, hc hg.symm, hg]
  · rw [setRow_ne _ _ _ _ hg]

lemma Outcome.ne_of_invalid (h : Outcome g l waited dev new) {idx : ℕ}
    (hi : (dev.syncTable idx).state = .invalid) : g ≠ idx ∧ ∀ c ∈ l, c ≠ idx := by
  refine ⟨fun he => h.live (he ▸ hi), fun c hc he => ?_⟩
  exact (h.children c hc).2.1 (he ▸ hi)

lemma Outcome.untouched_replace (h : Outcome g l waited dev new) {idx : ℕ}
    (hi : (dev.syncTable idx).state = .invalid)
    (hsame : ∀ c, c ≠ idx → dev'.syncTable c = dev.syncTable c)
    (hp : (dev'.syncTable idx).parentsList = []) (ht : dev'.trace = dev.trace) :
    Untouched g l dev dev' [] := by
  obtain ⟨hg, hl⟩ := h.ne_of_invalid hi
  have hgs := hsame g hg
  refine ⟨⟨by rw [hgs], by rw [hgs], by rw [hgs], ?_, ?_, by simp [ht], by simp⟩, by rw [hgs]⟩
  · intro c hc
    rw [hsame c (hl c hc)]
    exact ⟨rfl, rfl⟩
  · intro c
    by_cases hc : c = idx
    · rw [hc, hp, h.inv.parentsList_invalid hi]
    · rw [hsame c hc]

lemma Outcome.untouched_merged (h : Outcome g l waited dev new) {idx : ℕ} {l' : List ℕ}
    (hm : Merged dev idx l' dev') : Untouched g l dev dev' [] := by
  obtain ⟨hg, hl⟩ := h.ne_of_invalid (h.inv.invalid_of_free hm.free)
  obtain ⟨ps, hgr⟩ := hm.frame hg
  refine ⟨⟨by rw [hgr], by rw [hgr], by rw [hgr], ?_, ?_, by simp [hm.trace], by simp⟩, by rw [hgr]⟩
  · intro c hc
    obtain ⟨ps, hcr⟩ := hm.frame (hl c hc)
    rw [hcr]
    exact ⟨rfl, rfl⟩
  · intro c
    rw [h.inv.parents_merged hm]
    simp [hg]

lemma mem_parentEvents {eventq : Bool} {st : SyncState} {p : ℕ} {row : SyncTableRow}
    {e : SyncEvent} (h : e ∈ parentEvents eventq st p row) : e.obj = p := by
  unfold parentEvents at h
  split at h
  · simp at h
  · split_ifs at h
    · exact (mem_dispatchEvents h).1
    · simp at h

lemma Outcome.untouched_signaled (h : Outcome g l waited dev new) {i : ℕ} {st : SyncState}
    (ht : (dev.syncTable i).type = .indv) (ha : (dev.syncTable i).state = .active)
    (hst : st = .signaledSuccess ∨ st = .signaledError)
    (hs : Signaled dev i st dev') (hg : g ∉ (dev.syncTable i).parentsList) :
    Untouched g l dev dev' (dispatchEvents dev.camSyncEventq i st (dev.syncTable i) ++
      (dev.syncTable i).parentsList.flatMap fun p =>
        parentEvents dev.camSyncEventq st p (dev.syncTable p)) := by
  have hgi : g ≠ i := by
    rintro rfl
    have := h.group
    simp [ht] at this
  have hrow := hs.others g hgi hg
  refine ⟨⟨by rw [hrow], by rw [hrow], by rw [hrow], ?_, ?_, ?_, ?_⟩, by rw [hrow]⟩
  · intro c hc
    have hci : c ≠ i := by
      rintro rfl
      exact hg ((h.children c hc).2.2.mp ha)
    have hcp : c ∉ (dev.syncTable i).parentsList := by
      intro hm
      have := (h.inv.parent i c hm).2.1
      simp [(h.children c hc).1] at this
    rw [hs.others c hci hcp]
    exact ⟨rfl, rfl⟩
  · intro c
    rw [h.inv.parents_signaled hst hs]
    refine ⟨fun hc => hc.2, fun hc => ⟨?_, hc⟩⟩
    rintro rfl
    exact hg hc
  · rw [hs.trace, List.append_assoc]
  · intro e he
    rcases List.mem_append.mp he with he | he
    · rw [(mem_dispatchEvents he).1]
      exact hgi.symm
    · obtain ⟨p, hp, he⟩ := List.mem_flatMap.mp he
      rw [mem_parentEvents he]
      exact fun hpg => hg (hpg ▸ hp)

/-- Only one entry of a parents list speaks about the group. -/
lemma flatMap_parentEvents_split (dev : SyncDevice) (eventq : Bool) (st : SyncState) {ps : List ℕ}
    (hnd : ps.Nodup) (hg : g ∈ ps) :
    ∃ a b : List SyncEvent, (∀ e ∈ a ++ b, e.obj ≠ g) ∧
      ps.flatMap (fun p => parentEvents eventq st p (dev.syncTable p)) =
        a ++ parentEvents eventq st g (dev.syncTable g) ++ b := by
  obtain ⟨xs, ys, rfl⟩ := List.append_of_mem hg
  have hx : g ∉ xs ++ ys := (List.nodup_cons.mp (List.nodup_middle.mp hnd)).1
  refine ⟨_, _, ?_, by rw [List.flatMap_append, List.flatMap_cons, List.append_assoc]⟩
  intro e he
  rw [← List.flatMap_append] at he
  obtain ⟨p, hp, he⟩ := List.mem_flatMap.mp he
  rw [mem_parentEvents he]
  exact fun hpg => hx (hpg ▸ hp)

lemma parentRow_group (g : ℕ) (eventq : Bool) (st : SyncState) {row : SyncTableRow}
    (hl : row.state ≠ .invalid) (hr : 0 < row.remaining) :
    ∃ st', st' = (if row.state = .signaledError then .signaledError else st) ∧
      (parentRow eventq st row).state = st' ∧
      (parentRow eventq st row).remaining = row.remaining - 1 ∧
      (row.remaining = 1 → (parentRow eventq st row).callbackList = [] ∧
        parentEvents eventq st g row = dispatchEvents eventq g st' row) ∧
      (row.remaining ≠ 1 → (parentRow eventq st row).callbackList = row.callbackList ∧
        parentEvents eventq st g row = []) := by
  have hu : camSyncUtilUpdateParentState row.state st =
      some (if row.state = .signaledError then .signaledError else st) := by
    cases hs : row.state with
    | invalid => exact absurd hs hl
    | active => rfl
    | signaledSuccess => rfl
    | signaledError => rfl
  have hdec : (countDown row).remaining = row.remaining - 1 := u32Dec_of_pos hr
  refine ⟨_, rfl, ?_⟩
  unfold parentRow parentEvents
  rw [hu]
  dsimp only
  by_cases hone : row.remaining = 1
  · have hz : (countDown row).remaining = 0 := by omega
    rw [if_pos hz, if_pos hz]
    exact ⟨rfl, hdec, fun _ => ⟨rfl, rfl⟩, fun hne => absurd hone hne⟩
  · have hz : (countDown row).remaining ≠ 0 := by omega
    rw [if_neg hz, if_neg hz]
    exact ⟨rfl, hdec, fun he => absurd he hone, fun _ => ⟨rfl, rfl⟩⟩

lemma Outcome.error_reported (h : Outcome g l waited dev new) {i : ℕ} {st : SyncState}
    (hs : Signaled dev i st dev') (hg : g ∈ (dev.syncTable i).parentsList)
    (hstate : (dev'.syncTable g).state =
      if (dev.syncTable g).state = .signaledError then .signaledError else st) :
    (dev'.syncTable g).state = .signaledError ↔
      ∃ c ∈ l, (dev'.syncTable c).state = .signaledError := by
  have hil := h.parents i hg
  have hself : (dev'.syncTable i).state = st := by
    rw [hs.self]
    rfl
  have hother : ∀ c ∈ l, c ≠ i → (dev'.syncTable c).state = (dev.syncTable c).state := by
    intro c hc hci
    rw [hs.others c hci]
    intro hm
    have := (h.inv.parent i c hm).2.1
    simp [(h.children c hc).1] at this
  rw [hstate]
  constructor
  · intro he
    by_cases hge : (dev.syncTable g).state = .signaledError
    · obtain ⟨c, hc, hce⟩ := h.error.mp hge
      refine ⟨c, hc, ?_⟩
      rw [hother c hc, hce]
      rintro rfl
      simp [(h.inv.child c g hg).1] at hce
    · rw [if_neg hge] at he
      exact ⟨i, hil, by rw [hself, he]⟩
  · rintro ⟨c, hc, hce⟩
    by_cases hci : c = i
    · rw [hci, hself] at hce
      simp [hce]
    · rw [hother c hc hci] at hce
      rw [if_pos (h.error.mpr ⟨c, hc, hce⟩)]

lemma Outcome.step_reported {op : SyncOp} (h : Outcome g l waited dev new) {i : ℕ}
    {st : SyncState} (ht : (dev.syncTable i).type = .indv)
    (ha : (dev.syncTable i).state = .active)
    (hst : st = .signaledSuccess ∨ st = .signaledError)
    (hs : Signaled dev i st dev') (hg : g ∈ (dev.syncTable i).parentsList)
    (hreg : ∀ cb, registers g cb dev op = false) :
    ∃ ev, StepOutcome g l waited dev new op dev' ev := by
  have hi' := h.inv.signaled hst ha ht hs
  have hpos : 0 < (dev.syncTable g).remaining := by
    rw [h.inv.count g h.group h.live]
    exact Finset.card_pos.mpr ⟨i, h.inv.mem_waiting_of_mem hg⟩
  have hgi : g ≠ i := by
    rintro rfl
    have := h.group
    simp [ht] at this
  have hwaited := h.waits hpos
  have hquiet := h.quiet hpos
  obtain ⟨st', hst', hstate, hrem, hlast, hearly⟩ :=
    parentRow_group g dev.camSyncEventq st h.live hpos
  rw [← hs.parents g hg] at hstate hrem hlast hearly
  obtain ⟨a, b, hab, hsplit⟩ := flatMap_parentEvents_split dev dev.camSyncEventq st
    (h.inv.parentsNodup i) hg
  obtain ⟨pre, hpre⟩ : ∃ pre, pre = dispatchEvents dev.camSyncEventq i st (dev.syncTable i) ++ a :=
    ⟨_, rfl⟩
  have hpreg : ∀ e ∈ pre, e.obj ≠ g := by
    intro e he
    rw [hpre] at he
    rcases List.mem_append.mp he with he | he
    · rw [(mem_dispatchEvents he).1]
      exact hgi.symm
    · exact hab e (List.mem_append_left _ he)
  have hbg : ∀ e ∈ b, e.obj ≠ g := fun e he => hab e (List.mem_append_right _ he)
  have htrace : dev'.trace = dev.trace ++
      (pre ++ parentEvents dev.camSyncEventq st g (dev.syncTable g) ++ b) := by
    rw [hs.trace, hsplit, hpre]
    simp only [List.append_assoc]
  generalize hmid : parentEvents dev.camSyncEventq st g (dev.syncTable g) = mid at *
  have hstatus : ∀ e ∈ mid, e.status = st' ∧ (dev.syncTable g).remaining = 1 := by
    intro e he
    by_cases hone : (dev.syncTable g).remaining = 1
    · rw [(hlast hone).2] at he
      exact ⟨(mem_dispatchEvents he).2, hone⟩
    · simp [(hearly hone).2] at he
  have hall : ∀ e ∈ new ++ (pre ++ mid ++ b), e.obj = g → e ∈ mid := by
    intro e he heg
    simp only [List.mem_append] at he
    rcases he with he | (he | he) | he
    · exact absurd heg (hquiet e he)
    · exact absurd heg (hpreg e he)
    · exact he
    · exact absurd heg (hbg e he)
  refine ⟨pre ++ mid ++ b, htrace, ⟨hi', ?_, ?_, ?_, ?_, ?_, fun _ => hwaited, ?_, ?_, ?_⟩, ?_,
    hs.config.switch, ?_⟩
  · rw [(h.inv.rows_signaled hst hs hgi).1]
    exact h.group
  · rw [ne_eq, (h.inv.rows_signaled hst hs hgi).2.2.2]
    exact h.live
  · intro c hc
    obtain ⟨hct, hcl, hca⟩ := h.children c hc
    rw [h.inv.parents_signaled hst hs]
    by_cases hci : c = i
    · subst c
      rw [hs.self]
      rcases hst with rfl | rfl <;> simp [firedRow, dispatchedRow, ht]
    · have hcp : c ∉ (dev.syncTable i).parentsList := by
        intro hm
        have := (h.inv.parent i c hm).2.1
        simp [hct] at this
      rw [hs.others c hci hcp]
      exact ⟨hct, hcl, by simp [hci, hca]⟩
  · intro c hc
    exact h.parents c ((h.inv.parents_signaled hst hs c g).mp hc).2
  · exact h.error_reported hs hg (by rw [hstate, hst'])
  · intro hr e he heg
    have := (hstatus e (hall e he heg)).2
    omega
  · intro e he heg
    rw [hstate, (hstatus e (hall e he heg)).1]
  · have hnew := h.dispatched
    rw [if_neg (by omega)] at hnew
    rw [List.countP_append, List.countP_append, List.countP_append, hnew,
      countP_isDispatch_of_ne hpreg, countP_isDispatch_of_ne hbg, hrem]
    by_cases hone : (dev.syncTable g).remaining = 1
    · rw [(hlast hone).2, (dispatchEvents_counts _ _ _ ⟨0, 0⟩).1]
      simp [hone, hwaited]
    · rw [(hearly hone).2, if_neg (by omega)]
      rfl
  · intro cb n _ hacc
    rw [hreg cb]
    unfold Accounted at *
    rw [deliveries_append, deliveries_append, deliveries_append, deliveries_of_ne hpreg,
      deliveries_of_ne hbg]
    by_cases hone : (dev.syncTable g).remaining = 1
    · rw [(hlast hone).2, (hlast hone).1, (dispatchEvents_counts _ _ _ cb).2]
      simpa using hacc
    · rw [(hearly hone).2, (hearly hone).1]
      simpa [deliveries] using hacc
  · intro _ e he cb
    by_cases heg : e.obj = g
    · have hm := hall e (List.mem_append_right _ he) heg
      rw [(hlast (hstatus e hm).2).2] at hm
      exact isInvoked_dispatchEvents hm
    · exact isInvoked_of_ne heg

lemma Outcome.step_signal (h : Outcome g l waited dev new) (obj : ℤ) (status : ℕ) :
    ∃ ev, StepOutcome g l waited dev new (.signal obj status)
      (camSyncSignal dev obj status).2 ev := by
  by_cases hf : ∃ st, Fires dev obj status st
  · obtain ⟨st, hf⟩ := hf
    have hself : obj.toNat ∉ (dev.syncTable obj.toNat).parentsList := by
      intro hm
      have := (h.inv.parent _ _ hm).2.1
      simp [hf.indv] at this
    have hst := signalStatus_ne hf.status
    have hs := camSyncSignal_spec hf (h.inv.parentsNodup _) hself
    by_cases hg : g ∈ (dev.syncTable obj.toNat).parentsList
    · exact h.step_reported hf.indv hf.active hst hs hg fun _ => rfl
    · exact ⟨_, h.step_untouched (h.inv.signal obj status)
        (h.untouched_signaled hf.indv hf.active hst hs hg) (fun _ => rfl) hs.config.switch⟩
  · obtain ⟨n, he⟩ := camSyncSignal_quiet (not_exists.mp hf)
    have hi := h.inv.signal obj status
    rw [he] at hi ⊢
    exact ⟨[], h.step_untouched hi (untouched_setRow rfl rfl rfl rfl fun _ => rfl) (fun _ => rfl) rfl⟩

lemma Outcome.complete_iff (h : Outcome g l waited dev new) :
    SyncTableRow.complete (dev.syncTable g) = true ↔ (dev.syncTable g).remaining = 0 := by
  rw [SyncTableRow.complete, decide_eq_true_iff]
  exact ⟨fun hc => hc.2, fun hr => ⟨(h.inv.done g h.group h.live hr).state, hr⟩⟩

lemma Outcome.step_handOver (h : Outcome g l waited dev new) {cb : SyncCallback} {op : SyncOp}
    (hc : SyncTableRow.complete (dev.syncTable g) = true)
    (hreg : ∀ cb', registers g cb' dev op = decide (cb = cb')) :
    StepOutcome g l waited dev new op
      { dev with trace := dev.trace ++ [handOver dev g cb] } [handOver dev g cb] := by
  have hr := h.complete_iff.mp hc
  have hobj : (handOver dev g cb).obj = g ∧ (handOver dev g cb).status = (dev.syncTable g).state := by
    unfold handOver
    split_ifs <;> exact ⟨rfl, rfl⟩
  have hdisp : [handOver dev g cb].countP (isDispatch g) = 0 := by
    unfold handOver
    split_ifs <;> rfl
  have hdel : ∀ cb', deliveries g cb' [handOver dev g cb] = if cb = cb' then 1 else 0 := by
    intro cb'
    unfold handOver
    split_ifs <;> simp_all [deliveries, isQueued, isInvoked]
  refine ⟨rfl, ⟨h.inv.of_sameLinks rfl fun i => SameLinks.refl _, h.group, h.live, h.children,
    h.parents, h.error, h.waits, fun hpos => ?_, ?_, ?_⟩, ?_, rfl, ?_⟩
  · exact absurd hr hpos.ne'
  · intro e he heg
    rcases List.mem_append.mp he with he | he
    · exact h.status e he heg
    · rw [List.mem_singleton.mp he]
      exact hobj.2
  · rw [List.countP_append, hdisp, Nat.add_zero]
    exact h.dispatched
  · intro cb' n _ hacc
    unfold Accounted at *
    rw [deliveries_append, hdel, hreg, ← hacc]
    simp only [decide_eq_true_eq]
    omega
  · intro hs e he cb'
    rw [List.mem_singleton.mp he, handOver, hs]
    rfl

lemma Outcome.step_setCallbackList (h : Outcome g l waited dev new) {op : SyncOp}
    {cbs : List SyncCallback}
    (hi : TableInv (setRow dev g { dev.syncTable g with callbackList := cbs }))
    (hcount : ∀ cb, op ≠ .deregisterCallback cb g → cbs.count cb =
      (dev.syncTable g).callbackList.count cb + if registers g cb dev op then 1 else 0) :
    StepOutcome g l waited dev new op
      (setRow dev g { dev.syncTable g with callbackList := cbs }) [] where
  trace := by simp
  outcome := h.unmoved hi (unmoved_setRow rfl rfl rfl rfl)
  accounted cb n hop hacc := by
    unfold Accounted at *
    rw [List.append_nil, setRow_self, hcount cb hop, ← hacc, Nat.add_assoc]
  switch := rfl
  direct _ e he := by simp at he

lemma Outcome.step_registerCallback (h : Outcome g l waited dev new) (cb : SyncCallback)
    (obj : ℤ) (alloc : Bool) :
    ∃ ev, StepOutcome g l waited dev new (.registerCallback cb obj alloc)
      (camSyncRegisterCallback dev cb obj alloc).2 ev := by
  have hi := h.inv.registerCallback cb obj alloc
  have hcases := camSyncRegisterCallback_cases dev cb obj alloc
  dsimp only at hcases
  have hother : obj ≠ g ∨ (camSyncRegisterCallback dev cb obj alloc).1 ≠ 0 →
      ∀ cb', registers g cb' dev (.registerCallback cb obj alloc) = false := by
    intro hne cb'
    simp only [registers, decide_eq_false_iff_not]
    tauto
  rcases hcases with ⟨hrc, he⟩ | ⟨hcast, hc, he⟩ | ⟨hcast, hc, he⟩
  · rw [he]
    exact ⟨[], h.step_untouched h.inv untouched_refl (hother (Or.inr hrc)) rfl⟩
  all_goals by_cases hg : obj = g
  · subst obj
    rw [Int.toNat_natCast] at hc he
    rw [he]
    exact ⟨_, h.step_handOver hc fun cb' => by simp [registers, he]⟩
  · rw [he] at hi ⊢
    refine ⟨[handOver dev obj.toNat cb], h.step_untouched hi ?_ (hother (Or.inl hg)) rfl⟩
    refine ⟨⟨rfl, rfl, rfl, fun _ _ => ⟨rfl, rfl⟩, fun _ => Iff.rfl, rfl, ?_⟩, rfl⟩
    intro e he
    have hobj : e.obj = obj.toNat := by
      rw [List.mem_singleton.mp he, handOver]
      split_ifs <;> rfl
    rw [hobj]
    exact fun hgi => hg (by rw [← hcast, hgi])
  · subst obj
    rw [Int.toNat_natCast] at hc he
    rw [he] at hi ⊢
    refine ⟨[], h.step_setCallbackList hi fun cb' _ => ?_⟩
    by_cases hcb : cb = cb'
    · subst cb'
      simp [registers, he]
    · simp [registers, hcb]
  · rw [he] at hi ⊢
    refine ⟨[], h.step_untouched hi (untouched_setRow rfl rfl rfl rfl fun hgi => ?_)
      (hother (Or.inl hg)) rfl⟩
    exact absurd (by rw [← hcast, hgi]) hg

lemma Outcome.step_deregisterCallback (h : Outcome g l waited dev new) (cb : SyncCallback)
    (obj : ℤ) :
    ∃ ev, StepOutcome g l waited dev new (.deregisterCallback cb obj)
      (camSyncDeregisterCallback dev cb obj).2 ev := by
  have hi := h.inv.step (.deregisterCallback cb obj) trivial
  rw [SyncOps.step] at hi
  have hcases : (camSyncDeregisterCallback dev cb obj).2 = dev ∨ (obj.toNat : ℤ) = obj ∧
      (camSyncDeregisterCallback dev cb obj).2 = setRow dev obj.toNat { dev.syncTable obj.toNat with
        callbackList := (dev.syncTable obj.toNat).callbackList.filter (· ≠ cb) } := by
    unfold camSyncDeregisterCallback
    split_ifs with hr
    · exact Or.inl rfl
    · have hcast := (outOfRange_eq_false (by simpa using hr)).2.2
      dsimp only
      split_ifs
      · exact Or.inl rfl
      · exact Or.inr ⟨hcast, rfl⟩
      · exact Or.inr ⟨hcast, rfl⟩
  rcases hcases with he | ⟨hcast, he⟩
  · rw [he]
    exact ⟨[], h.step_untouched h.inv untouched_refl (fun _ => rfl) rfl⟩
  · rw [he] at hi ⊢
    by_cases hg : obj.toNat = g
    · subst g
      refine ⟨[], h.step_setCallbackList hi fun cb' hne => ?_⟩
      have hcb : cb' ≠ cb := fun hcb => hne (by rw [hcb, hcast])
      rw [List.count_filter (by simpa using hcb)]
      rfl
    · exact ⟨[], h.step_untouched hi (untouched_setRow rfl rfl rfl rfl fun hgi => absurd hgi hg)
        (fun _ => rfl) rfl⟩

theorem Outcome.step (h : Outcome g l waited dev new) (op : SyncOp)
    (hop : ∀ obj, op ≠ .destroy obj) :
    ∃ ev, StepOutcome g l waited dev new op (step dev op) ev := by
  cases op with
  | create clientId =>
    have hi := h.inv.create clientId
    rw [SyncOps.step]
    rcases camSyncCreate_spec dev clientId h.inv.bitZero with ⟨e, he⟩ | ⟨idx, -, hbit, he⟩
    · rw [he]
      exact ⟨[], h.step_untouched h.inv untouched_refl (fun _ => rfl) rfl⟩
    · rw [he] at hi ⊢
      refine ⟨[], h.step_untouched hi (h.untouched_replace (h.inv.invalid_of_free hbit)
        (fun c hc => setRow_ne _ _ _ _ hc) ?_ rfl) (fun _ => rfl) rfl⟩
      rw [setRow_self]
      rfl
  | merge objs alloc =>
    have hi := h.inv.merge objs alloc
    have hfree : ∀ i c, dev.bitmap i = false → i ∉ (dev.syncTable c).parentsList :=
      fun i c hi => h.inv.notMem_parents (h.inv.invalid_of_free hi) c
    rw [SyncOps.step]
    rcases camSyncMerge_spec dev objs alloc h.inv.bitZero hfree with
      ⟨idx, d, he, hm⟩ | ⟨e, d, he, rfl | ⟨idx, ha⟩⟩
    · rw [he] at hi ⊢
      exact ⟨[], h.step_untouched hi (h.untouched_merged hm) (fun _ => rfl) hm.switch⟩
    · rw [he]
      exact ⟨[], h.step_untouched h.inv untouched_refl (fun _ => rfl) rfl⟩
    · rw [he] at hi ⊢
      exact ⟨[], h.step_untouched hi (h.untouched_replace (h.inv.invalid_of_free ha.free) ha.others
        ha.parentsList ha.outside.trace) (fun _ => rfl) ha.outside.switch⟩
  | getObjRef obj =>
    have hi := h.inv.step (.getObjRef obj) trivial
    simp only [SyncOps.step, camSyncGetObjRef] at hi ⊢
    split_ifs at hi ⊢
    · exact ⟨[], h.step_untouched hi untouched_refl (fun _ => rfl) rfl⟩
    · exact ⟨[], h.step_untouched hi untouched_refl (fun _ => rfl) rfl⟩
    · exact ⟨[], h.step_untouched hi (untouched_setRow rfl rfl rfl rfl fun _ => rfl)
        (fun _ => rfl) rfl⟩
  | putObjRef obj =>
    have hi := h.inv.step (.putObjRef obj) trivial
    simp only [SyncOps.step, camSyncPutObjRef] at hi ⊢
    split_ifs at hi ⊢
    · exact ⟨[], h.step_untouched hi untouched_refl (fun _ => rfl) rfl⟩
    · exact ⟨[], h.step_untouched hi (untouched_setRow rfl rfl rfl rfl fun _ => rfl)
        (fun _ => rfl) rfl⟩
  | signal obj status => exact h.step_signal obj status
  | destroy obj => exact absurd rfl (hop obj)
  | registerCallback cb obj alloc => exact h.step_registerCallback cb obj alloc
  | deregisterCallback cb obj => exact h.step_deregisterCallback cb obj

/-- The account of the group over a whole run. -/
structure RunOutcome (g : ℕ) (l : List ℕ) (waited : Bool) (dev : SyncDevice)
    (new : List SyncEvent) (ops : List SyncOp) (dev' : SyncDevice) (ev : List SyncEvent) : Prop where
  trace : dev'.trace = dev.trace ++ ev
  outcome : Outcome g l waited dev' (new ++ ev)
  accounted : ∀ cb n, (∀ op ∈ ops, op ≠ .deregisterCallback cb g) → Accounted g cb n dev new →
    Accounted g cb (n + registrations g cb dev ops) dev' (new ++ ev)
  direct : dev.triggerCbWithoutSwitch = false → ∀ e ∈ ev, ∀ cb, isInvoked g cb e = false

theorem Outcome.run (h : Outcome g l waited dev new) {ops : List SyncOp} (hops : NoDestroy ops) :
    ∃ ev, RunOutcome g l waited dev new ops (Transition.run SyncOps.step dev ops) ev := by
  induction ops generalizing dev new with
  | nil => exact ⟨[], by simp, by simpa using h, fun cb n _ ha => by simpa [registrations] using ha,
      by simp⟩
  | cons op ops ih =>
    obtain ⟨ev, hs⟩ := h.step op (hops op (by simp))
    obtain ⟨ev', hr⟩ := ih hs.outcome fun o ho => hops o (by simp [ho])
    refine ⟨ev ++ ev', ?_, ?_, ?_, ?_⟩
    · rw [Transition.run_cons, hr.trace, hs.trace, List.append_assoc]
    · rw [← List.append_assoc]
      exact hr.outcome
    · intro cb n hne ha
      have h1 := hs.accounted cb n (hne op (by simp)) ha
      have h2 := hr.accounted cb _ (fun o ho => hne o (by simp [ho])) h1
      rw [registrations, ← Nat.add_assoc, ← List.append_assoc]
      exact h2
    · intro hsw e he cb
      rcases List.mem_append.mp he with he | he
      · exact hs.direct hsw e he cb
      · exact hr.direct (by rw [hs.switch, hsw]) e he cb

end

lemma outcome_of_merged {dev dev' : SyncDevice} {g : ℕ} {l : List ℕ} (h : TableInv dev)
    (hm : Merged dev g l dev') : Outcome g l (decide (activeOf dev l ≠ [])) dev' [] := by
  have hnot := h.notMem_parents (h.invalid_of_free hm.free)
  have hstate : ∀ c ∈ l, (dev'.syncTable c).state = (dev.syncTable c).state ∧
      (dev'.syncTable c).type = (dev.syncTable c).type := by
    intro c hc
    obtain ⟨ps, he⟩ := hm.frame fun he => hm.notMem (he ▸ hc)
    rw [he]
    exact ⟨rfl, rfl⟩
  refine ⟨h.merged hm, hm.type, ?_, ?_, ?_, ?_, ?_, by simp, by simp, ?_⟩
  · rw [hm.state]
    split_ifs <;> decide
  · intro c hc
    rw [(hstate c hc).1, (hstate c hc).2, h.parents_merged hm]
    refine ⟨(hm.children c hc).2.1, (hm.children c hc).2.2, ?_⟩
    simp [hnot, mem_activeOf, hc]
  · intro c hc
    rcases (h.parents_merged hm c g).mp hc with hc | ⟨-, hc⟩
    · exact absurd hc (hnot c)
    · exact (mem_activeOf.mp hc).1
  · have hiff : (∃ c ∈ l, (dev'.syncTable c).state = .signaledError) ↔
        ∃ c ∈ l, (dev.syncTable c).state = .signaledError :=
      exists_congr fun c => and_congr_right fun hc => by rw [(hstate c hc).1]
    rw [hiff, hm.state]
    by_cases he : ∃ c ∈ l, (dev.syncTable c).state = .signaledError
    · simp only [he, if_true]
    · simp only [he, if_false, iff_false]
      split_ifs <;> decide
  · intro hr
    rw [hm.remaining] at hr
    simpa using List.length_pos_iff.mp hr
  · simp [hm.remaining]

/-- The probed device, with the event queue open or not and the debug switch of
the callbacks on or off. -/
def probed (eventq switch : Bool) : SyncDevice :=
  { camSyncProbe with camSyncEventq := eventq, triggerCbWithoutSwitch := switch }

def ChildrenDone (dev : SyncDevice) (l : List ℕ) : Prop :=
  ∀ c ∈ l, (dev.syncTable c).state ≠ .active

instance (dev : SyncDevice) (l : List ℕ) : Decidable (ChildrenDone dev l) :=
  inferInstanceAs (Decidable (∀ c ∈ l, (dev.syncTable c).state ≠ .active))

/-- The error of any child, success otherwise. -/
def finalStatus (dev : SyncDevice) (l : List ℕ) : SyncState :=
  if ∃ c ∈ l, (dev.syncTable c).state = .signaledError then .signaledError else .signaledSuccess

lemma NoDestroy.guarded {ops : List SyncOp} (h : NoDestroy ops) (dev : SyncDevice) :
    Transition.Guarded step DestroysDetached dev ops := by
  induction ops generalizing dev with
  | nil => trivial
  | cons op ops ih =>
    refine ⟨?_, ih (fun o ho => h o (by simp [ho])) _⟩
    cases op with
    | destroy obj => exact absurd rfl (h _ (by simp) obj)
    | _ => trivial

lemma tableInv_probed (eventq switch : Bool) {ops : List SyncOp} (h : NoDestroy ops) :
    TableInv (Transition.run step (probed eventq switch) ops) :=
  Transition.run_invariant (fun _ op hs hok => hs.step op hok)
    (tableInv_probe.of_sameLinks rfl fun _ => SameLinks.refl _) (h.guarded _)

/-- The events of a run about group `g` over the objects `l`, merged in `dev₀` with
`dev₁` as the result, against the states of the children. -/
structure GroupOutcome (g : ℕ) (l : List ℕ) (dev₀ dev₁ : SyncDevice) (ops : List SyncOp)
    (dev : SyncDevice) (new : List SyncEvent) : Prop where
  trace : dev.trace = dev₁.trace ++ new
  dispatchOnce : new.countP (isDispatch g) =
    if ¬ ChildrenDone dev₀ l ∧ ChildrenDone dev l then 1 else 0
  complete : ChildrenDone dev l → (dev.syncTable g).state = finalStatus dev l ∧
    (dev.syncTable g).remaining = 0 ∧ (dev.syncTable g).signaled = true
  status : ∀ e ∈ new, e.obj = g → ChildrenDone dev l ∧ e.status = finalStatus dev l
  callbacks : ∀ cb, (∀ op ∈ ops, op ≠ .deregisterCallback cb g) →
    deliveries g cb new = if ChildrenDone dev l then registrations g cb dev₁ ops else 0
  queued : dev₁.triggerCbWithoutSwitch = false → ∀ cb,
    deliveries g cb new = new.countP (isQueued g cb)

/-- After any run without destroy, merge, and go on in any way without destroy:
the group is dispatched exactly once, when the last of its active children has
been signaled, and every callback registered on it is delivered exactly once, all
with the final status. -/
theorem group_outcome (eventq switch : Bool) (ops₀ ops : List SyncOp) (objs : List ℤ)
    (alloc : ℕ → Bool × Bool) (g : ℕ) (h₀ : NoDestroy ops₀) (h : NoDestroy ops)
    (hm : (camSyncMerge (Transition.run step (probed eventq switch) ops₀) objs alloc).1 = .ok g) :
    let dev₀ := Transition.run step (probed eventq switch) ops₀
    let dev₁ := (camSyncMerge dev₀ objs alloc).2
    let l := objs.map Int.toNat
    ∃ new, GroupOutcome g l dev₀ dev₁ ops (Transition.run step dev₁ ops) new := by
  intro dev₀ dev₁ l
  have hinv : TableInv dev₀ := tableInv_probed eventq switch h₀
  have hfree : ∀ i c, dev₀.bitmap i = false → i ∉ (dev₀.syncTable c).parentsList :=
    fun i c hi => hinv.notMem_parents (hinv.invalid_of_free hi) c
  have hmerged : Merged dev₀ g l dev₁ := by
    rcases camSyncMerge_spec dev₀ objs alloc hinv.bitZero hfree with
      ⟨idx, d, he, hmg⟩ | ⟨e, d, he, -⟩
    · rw [he] at hm
      cases hm
      simpa only [dev₁, he] using hmg
    · rw [he] at hm
      cases hm
  obtain ⟨new, hr⟩ := (outcome_of_merged hinv hmerged).run h
  have ho := hr.outcome
  rw [List.nil_append] at ho
  have hdone := ho.remaining_eq_zero_iff
  have hcomplete : ∀ hd : ChildrenDone (Transition.run step dev₁ ops) l,
      Settled ((Transition.run step dev₁ ops).syncTable g) ∧
      ((Transition.run step dev₁ ops).syncTable g).state =
        finalStatus (Transition.run step dev₁ ops) l := by
    intro hd
    have hs := ho.inv.done g ho.group ho.live (hdone.mpr hd)
    refine ⟨hs, ?_⟩
    unfold finalStatus
    split_ifs with he
    · exact ho.error.mpr he
    · exact hs.state.resolve_right fun hse => he (ho.error.mp hse)
  have hstatus : ∀ e ∈ new, e.obj = g → ChildrenDone (Transition.run step dev₁ ops) l := by
    intro e he heg
    refine hdone.mp (Nat.eq_zero_of_not_pos fun hpos => ?_)
    exact ho.quiet hpos e he heg
  refine ⟨new, hr.trace, ?_, ?_, ?_, ?_, ?_⟩
  · have hd := ho.dispatched
    have hw : activeOf dev₀ l ≠ [] ↔ ¬ ChildrenDone dev₀ l := by
      simp [activeOf, ChildrenDone, List.filter_eq_nil_iff]
    simp only [decide_eq_true_eq, hw, hdone] at hd
    exact hd
  · exact fun hd => ⟨(hcomplete hd).2, hdone.mpr hd, (hcomplete hd).1.signaled⟩
  · intro e he heg
    have hd := hstatus e he heg
    exact ⟨hd, by rw [ho.status e he heg, (hcomplete hd).2]⟩
  · intro cb hne
    have hacc := hr.accounted cb 0 hne (by simp [Accounted, deliveries, hmerged.callbackList])
    rw [Accounted, List.nil_append, Nat.zero_add] at hacc
    split_ifs with hd
    · rw [← hacc, (hcomplete hd).1.callbackList, List.count_nil, Nat.add_zero]
    · apply deliveries_of_ne
      intro e he heg
      exact hd (hstatus e he heg)
  · intro hsw cb
    have hno : new.countP (isInvoked g cb) = 0 := by
      rw [List.countP_eq_zero]
      intro e he
      simp [hr.direct hsw e he cb]
    rw [deliveries, hno, Nat.add_zero]

/-- Two fences, the first signaled with an error. -/
def errorFirst : List SyncOp := [.create 0, .create 0, .getObjRef 1, .signal 1 3]

/-- A callback registered on the group before, and one after, its last child. -/
def lateSuccess : List SyncOp :=
  [.registerCallback ⟨7, 0⟩ 3 true, .getObjRef 2, .signal 2 2, .registerCallback ⟨7, 0⟩ 3 true]

theorem group_outcome_lateSuccess :
    let dev₀ := Transition.run step (probed false false) errorFirst
    let dev₁ := (camSyncMerge dev₀ [1, 2] fun _ => (true, true)).2
    let l := ([1, 2] : List ℤ).map Int.toNat
    ∃ new, GroupOutcome 3 l dev₀ dev₁ lateSuccess (Transition.run step dev₁ lateSuccess) new ∧
      new.countP (isDispatch 3) = 1 ∧ new.countP (isQueued 3 ⟨7, 0⟩) = 2 := by
  intro dev₀ dev₁ l
  obtain ⟨new, h⟩ := group_outcome false false errorFirst lateSuccess [1, 2] (fun _ => (true, true)) 3
    (by simp [NoDestroy, errorFirst]) (by simp [NoDestroy, lateSuccess]) (by decide +kernel)
  refine ⟨new, h, ?_, ?_⟩
  · rw [h.dispatchOnce, if_pos (by decide +kernel)]
  · rw [← h.queued (by decide +kernel), h.callbacks _ (by simp [lateSuccess]),
      if_pos (by decide +kernel)]
    decide +kernel

end CameraKernel.SyncGroupOutcome
