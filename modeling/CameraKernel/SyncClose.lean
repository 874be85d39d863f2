import CameraKernel.SyncLinks

/-! The last close of the sync device: which callbacks its first sweep queues, and what its
second sweep leaves of the table. -/
namespace CameraKernel.SyncClose
open SyncTable SyncOps SyncSpec SyncInvariant SyncIoctl SyncLinks MachineInt

def eventsOf (x : ℕ) (ev : List SyncEvent) : List SyncEvent := ev.filter fun e => e.obj = x

def queuedWork : SyncEvent → Option (SyncState × SyncCallback)
  | .queueWork _ st cb => some (st, cb)
  | _ => none

/-- The callbacks of object `x` put on the work queue, each with its status. -/
def queuedOn (x : ℕ) (ev : List SyncEvent) : List (SyncState × SyncCallback) :=
  (eventsOf x ev).filterMap queuedWork

section
variable {dev dev' : SyncDevice} {i x : ℕ} {st : SyncState}

@[simp] lemma eventsOf_nil : eventsOf x [] = [] := rfl

lemma eventsOf_append (ev ev' : List SyncEvent) :
    eventsOf x (ev ++ ev') = eventsOf x ev ++ eventsOf x ev' :=
  List.filter_append ev ev'

lemma queuedOn_append (ev ev' : List SyncEvent) :
    queuedOn x (ev ++ ev') = queuedOn x ev ++ queuedOn x ev' := by
  rw [queuedOn, eventsOf_append, List.filterMap_append]
  rfl

lemma obj_dispatchEvents {eventq : Bool} {row : SyncTableRow} {e : SyncEvent}
    (h : e ∈ dispatchEvents eventq i st row) : e.obj = i := by
  simp only [dispatchEvents, List.cons_append, List.mem_cons, List.mem_append, List.mem_map] at h
  rcases h with rfl | ⟨c, -, rfl⟩ | h
  · rfl
  · rfl
  · split_ifs at h
    · obtain ⟨u, -, rfl⟩ := List.mem_map.mp h
      rfl
    · simp at h

lemma eventsOf_dispatchEvents (eventq : Bool) (row : SyncTableRow) :
    eventsOf x (dispatchEvents eventq i st row) =
      if x = i then dispatchEvents eventq i st row else [] := by
  split_ifs with hx
  · rw [eventsOf, List.filter_eq_self]
    intro e he
    simp [obj_dispatchEvents he, hx]
  · rw [eventsOf, List.filter_eq_nil_iff]
    intro e he
    simp [obj_dispatchEvents he, Ne.symm hx]

lemma eventsOf_parentEvents (eventq : Bool) (row : SyncTableRow) :
    eventsOf x (parentEvents eventq st i row) =
      if x = i then parentEvents eventq st i row else [] := by
  unfold parentEvents
  cases camSyncUtilUpdateParentState row.state st with
  | none => simp
  | some st' =>
    dsimp only
    by_cases hz : (countDown row).remaining = 0
    · simp only [hz, if_true]
      exact eventsOf_dispatchEvents eventq row
    · simp [hz]

lemma eventsOf_flatMap {f : ℕ → List SyncEvent} {ps : List ℕ} (hnd : ps.Nodup)
    (hf : ∀ p, eventsOf x (f p) = if x = p then f p else []) :
    eventsOf x (ps.flatMap f) = if x ∈ ps then f x else [] := by
  induction ps with
  | nil => rfl
  | cons p ps ih =>
    obtain ⟨hp, hnd⟩ := List.nodup_cons.mp hnd
    rw [List.flatMap_cons, eventsOf_append, hf, ih hnd]
    by_cases hx : x = p
    · subst hx
      simp [hp]
    · simp [hx]

lemma eventsOf_signaled (hnd : (dev.syncTable i).parentsList.Nodup)
    (hself : i ∉ (dev.syncTable i).parentsList) :
    eventsOf x (dispatchEvents dev.camSyncEventq i st (dev.syncTable i) ++
      (dev.syncTable i).parentsList.flatMap fun p =>
        parentEvents dev.camSyncEventq st p (dev.syncTable p)) =
      if x = i then dispatchEvents dev.camSyncEventq i st (dev.syncTable i)
      else if x ∈ (dev.syncTable i).parentsList then
        parentEvents dev.camSyncEventq st x (dev.syncTable x) else [] := by
  rw [eventsOf_append, eventsOf_dispatchEvents,
    eventsOf_flatMap hnd fun p => eventsOf_parentEvents dev.camSyncEventq (dev.syncTable p)]
  by_cases hx : x = i
  · subst hx
    simp [hself]
  · simp [hx]

lemma filterMap_dispatchEvents (eventq : Bool) (row : SyncTableRow) :
    (dispatchEvents eventq i st row).filterMap queuedWork = row.callbackList.map (st, ·) := by
  have hv : (row.userPayloadList.map (SyncEvent.v4l2Event i row.clientId st)).filterMap queuedWork = [] := by
    rw [List.filterMap_map, List.filterMap_eq_nil_iff]
    exact fun _ _ => rfl
  have hc : (row.callbackList.map (SyncEvent.queueWork i st)).filterMap queuedWork =
      row.callbackList.map (st, ·) := by
    rw [List.filterMap_map]
    exact congrFun List.filterMap_eq_map row.callbackList
  rw [dispatchEvents, List.cons_append, List.filterMap_cons, List.filterMap_append, hc]
  cases eventq
  · simp [queuedWork]
  · simp [queuedWork, hv]

/-! ### The first sweep -/

/-- The sweep over `l` comes by an ACTIVE individual object with one reference left. -/
structure FiresIn (dev : SyncDevice) (l : List ℕ) (c : ℕ) : Prop where
  mem : c ∈ l
  active : (dev.syncTable c).state = .active
  indv : (dev.syncTable c).type = .indv
  lastRef : (dev.syncTable c).refCnt = 1

/-- The sweep over `l` fires object `i`, or all that group `i` counts. -/
def Dispatches (dev : SyncDevice) (l : List ℕ) (i : ℕ) : Prop :=
  FiresIn dev l i ∨
  ((waiting dev i).Nonempty ∧ (∀ c ∈ waiting dev i, FiresIn dev l c) ∧
    (dev.syncTable i).remaining = (waiting dev i).card)

/-- What the sweep queues for object `i`: its callbacks, or nothing. -/
def Served (dev : SyncDevice) (l : List ℕ) (i : ℕ) (q : List (SyncState × SyncCallback)) : Prop :=
  (Dispatches dev l i ∧ q = (dev.syncTable i).callbackList.map (SyncState.signaledError, ·)) ∨
    (¬ Dispatches dev l i ∧ q = [])

lemma Served.of_iff {l l' : List ℕ} {q : List (SyncState × SyncCallback)} (h : Served dev' l' i q)
    (hiff : Dispatches dev' l' i ↔ Dispatches dev l i)
    (hcb : (dev'.syncTable i).callbackList = (dev.syncTable i).callbackList) : Served dev l i q := by
  rwa [Served, hiff, hcb] at h

lemma closeSignal_cases (h : LinkInv dev) {j : ℕ} (hj : 0 < j ∧ j < camSyncMaxObjs) (rc : ℤ) :
    (FiresIn dev [j] j ∧ Signaled dev j .signaledError (closeSignal (rc, dev) j).2) ∨
    (¬ FiresIn dev [j] j ∧ ∃ n, (closeSignal (rc, dev) j).2 =
      setRow dev j { dev.syncTable j with refCnt := n }) := by
  simp only [closeSignal]
  by_cases ha : (dev.syncTable j).state = .active
  swap
  · rw [if_neg ha]
    exact Or.inr ⟨fun hf => ha hf.active, (dev.syncTable j).refCnt, by simp [setRow]⟩
  rw [if_pos ha]
  have hr : outOfRange (j : ℤ) = false := by
    simp only [outOfRange, decide_eq_false_iff_not]
    omega
  by_cases hf : FiresIn dev [j] j
  · left
    have hfires : Fires dev (j : ℤ) 3 .signaledError := ⟨hr, hf.active, hf.indv, rfl, hf.lastRef⟩
    have hself : j ∉ (dev.syncTable j).parentsList := by
      intro hm
      have hgroup := (h.parent j j hm).2.1
      simp [hf.indv] at hgroup
    exact ⟨hf, camSyncSignal_spec hfires (h.parentsNodup j) hself⟩
  · right
    refine ⟨hf, camSyncSignal_quiet fun st hfires => hf ?_⟩
    exact ⟨List.mem_singleton_self j, hfires.active, hfires.indv, hfires.lastRef⟩

lemma firesIn_cons {l : List ℕ} {j c : ℕ} (hc : c ≠ j) : FiresIn dev (j :: l) c ↔ FiresIn dev l c :=
  ⟨fun h => ⟨(List.mem_cons.mp h.mem).resolve_left hc, h.active, h.indv, h.lastRef⟩,
    fun h => ⟨List.mem_cons_of_mem j h.mem, h.active, h.indv, h.lastRef⟩⟩

lemma dispatches_quiet {l : List ℕ} {j : ℕ} (hj : j ∉ l) (hf : ¬ FiresIn dev [j] j) (n : BitVec 32)
    (i : ℕ) : Dispatches (setRow dev j { dev.syncTable j with refCnt := n }) l i ↔
      Dispatches dev (j :: l) i := by
  obtain ⟨d, hd⟩ : ∃ d, d = setRow dev j { dev.syncTable j with refCnt := n } := ⟨_, rfl⟩
  have hne : ∀ c, c ≠ j → d.syncTable c = dev.syncTable c := fun c hc => by rw [hd, setRow_ne _ _ _ _ hc]
  have hself : d.syncTable j = { dev.syncTable j with refCnt := n } := by rw [hd, setRow_self]
  have hfires : ∀ c, FiresIn d l c ↔ FiresIn dev (j :: l) c := by
    intro c
    by_cases hc : c = j
    · subst hc
      refine iff_of_false (fun h => hj h.mem) fun h => hf ?_
      exact ⟨List.mem_singleton_self c, h.active, h.indv, h.lastRef⟩
    · rw [firesIn_cons hc]
      constructor <;> intro h
      · exact ⟨h.mem, hne c hc ▸ h.active, hne c hc ▸ h.indv, hne c hc ▸ h.lastRef⟩
      · exact ⟨h.mem, (hne c hc).symm ▸ h.active, (hne c hc).symm ▸ h.indv, (hne c hc).symm ▸ h.lastRef⟩
  have hpar : ∀ c, (d.syncTable c).parentsList = (dev.syncTable c).parentsList := by
    intro c
    by_cases hc : c = j
    · rw [hc, hself]
    · rw [hne c hc]
  have hrem : (d.syncTable i).remaining = (dev.syncTable i).remaining := by
    by_cases hc : i = j
    · rw [hc, hself]
    · rw [hne i hc]
  have hw : waiting d i = waiting dev i := by simp only [waiting, hpar]
  rw [← hd]
  simp only [Dispatches, hfires, hw, hrem]

section Fired
variable {j : ℕ} (h : LinkInv dev) (hf : FiresIn dev [j] j)
  (hs : Signaled dev j .signaledError dev')

include h hs in
lemma waiting_fired (g : ℕ) : waiting dev' g = (waiting dev g).erase j := by
  ext c
  rw [Finset.mem_erase, mem_waiting, mem_waiting]
  by_cases hc : c = j
  · have hnil : (dev'.syncTable j).parentsList = [] := by
      rw [hs.self]
      rfl
    simp [hc, hnil]
  · rw [(h.links_signaled (Or.inr rfl) hs hc).2.1]
    simp [hc]

include h hs in
lemma firesIn_fired {l : List ℕ} {c : ℕ} (hc : c ≠ j) : FiresIn dev' l c ↔ FiresIn dev (j :: l) c := by
  rw [firesIn_cons hc]
  rcases h.row_signaled (Or.inr rfl) hs hc with ⟨hm, hd⟩ | ⟨-, he⟩
  · have hgroup := (h.parent j c hm).2.1
    refine iff_of_false (fun hf => ?_) fun hf => ?_
    · have := hd.type.symm.trans hf.indv
      simp [hgroup] at this
    · simp [hf.indv] at hgroup
  · constructor <;> intro hf
    · exact ⟨hf.mem, he ▸ hf.active, he ▸ hf.indv, he ▸ hf.lastRef⟩
    · exact ⟨hf.mem, he.symm ▸ hf.active, he.symm ▸ hf.indv, he.symm ▸ hf.lastRef⟩

include h hf hs in
lemma dispatches_fired {l : List ℕ} (hi : i ≠ j)
    (hrem : (j ∉ waiting dev i ∧ (dev'.syncTable i).remaining = (dev.syncTable i).remaining) ∨
      (j ∈ waiting dev i ∧ (dev'.syncTable i).remaining = (dev.syncTable i).remaining - 1 ∧
        (dev'.syncTable i).remaining ≠ 0)) :
    Dispatches dev' l i ↔ Dispatches dev (j :: l) i := by
  have hj : FiresIn dev (j :: l) j := ⟨List.mem_cons_self, hf.active, hf.indv, hf.lastRef⟩
  have hall : (∀ c ∈ waiting dev' i, FiresIn dev' l c) ↔ ∀ c ∈ waiting dev i, FiresIn dev (j :: l) c := by
    rw [waiting_fired h hs]
    constructor
    · intro hw c hc
      by_cases hcj : c = j
      · exact hcj ▸ hj
      · exact (firesIn_fired h hs hcj).mp (hw c (Finset.mem_erase.mpr ⟨hcj, hc⟩))
    · intro hw c hc
      obtain ⟨hcj, hc⟩ := Finset.mem_erase.mp hc
      exact (firesIn_fired h hs hcj).mpr (hw c hc)
  have hcount : ((waiting dev' i).Nonempty ∧ (dev'.syncTable i).remaining = (waiting dev' i).card) ↔
      (waiting dev i).Nonempty ∧ (dev.syncTable i).remaining = (waiting dev i).card := by
    rw [waiting_fired h hs]
    rcases hrem with ⟨hno, hr⟩ | ⟨hyes, hr, hz⟩
    · rw [Finset.erase_eq_of_notMem hno, hr]
    · have hpos := Finset.card_pos.mpr ⟨j, hyes⟩
      rw [← Finset.card_pos, ← Finset.card_pos, Finset.card_erase_of_mem hyes, hr]
      omega
  rw [Dispatches, Dispatches, firesIn_fired h hs hi, hall]
  refine or_congr Iff.rfl ⟨fun ⟨hn, ha, hr⟩ => ?_, fun ⟨hn, ha, hr⟩ => ?_⟩
  · obtain ⟨hn', hr'⟩ := hcount.mp ⟨hn, hr⟩
    exact ⟨hn', ha, hr'⟩
  · obtain ⟨hn', hr'⟩ := hcount.mpr ⟨hn, hr⟩
    exact ⟨hn', ha, hr'⟩

lemma parentEvents_last {row : SyncTableRow} (eventq : Bool) (hl : row.state ≠ .invalid)
    (hone : row.remaining = 1) :
    (parentEvents eventq .signaledError i row).filterMap queuedWork =
      row.callbackList.map (SyncState.signaledError, ·) := by
  have hu : camSyncUtilUpdateParentState row.state .signaledError = some .signaledError := by
    cases hst : row.state with
    | invalid => exact absurd hst hl
    | active => rfl
    | signaledSuccess => rfl
    | signaledError => rfl
  have hz : (countDown row).remaining = 0 := by
    rw [countDown, hone]
    rfl
  rw [parentEvents, hu]
  dsimp only
  rw [if_pos hz]
  exact filterMap_dispatchEvents eventq row

include h hf hs in
lemma served_fired {l : List ℕ} {ev : List SyncEvent} {q : List (SyncState × SyncCallback)}
    (hev : eventsOf i ev = if i = j then dispatchEvents dev.camSyncEventq j .signaledError (dev.syncTable j)
      else if i ∈ (dev.syncTable j).parentsList then
        parentEvents dev.camSyncEventq .signaledError i (dev.syncTable i) else [])
    (hq : Served dev' l i q) : Served dev (j :: l) i (queuedOn i ev ++ q) := by
  have hj : FiresIn dev (j :: l) j := ⟨List.mem_cons_self, hf.active, hf.indv, hf.lastRef⟩
  have hnil : ¬ Dispatches dev' l i → q = [] := fun hno => (hq.resolve_left fun hy => hno hy.1).2
  rw [queuedOn, hev]
  by_cases hi : i = j
  · subst hi
    have hempty : waiting dev' i = ∅ := by
      rw [Finset.eq_empty_iff_forall_notMem]
      intro c hc
      rw [waiting_fired h hs] at hc
      have hgroup := (h.parent c i (mem_waiting.mp (Finset.mem_of_mem_erase hc)).2).2.1
      simp [hf.indv] at hgroup
    have hno : ¬ Dispatches dev' l i := by
      rintro (hfire | ⟨hw, -⟩)
      · have hact := hfire.active
        rw [hs.self] at hact
        cases hact
      · simp [hempty] at hw
    rw [if_pos rfl, filterMap_dispatchEvents, hnil hno, List.append_nil]
    exact Or.inl ⟨Or.inl hj, rfl⟩
  rw [if_neg hi]
  rcases h.row_signaled (Or.inr rfl) hs hi with ⟨hm, hd⟩ | ⟨hm, he⟩
  · rw [if_pos hm]
    have hwait : j ∈ waiting dev i := h.mem_waiting_iff.mpr hm
    obtain ⟨hlive, hgroup, -⟩ := h.parent j i hm
    have hpos := h.remaining_pos hm
    have hcard := h.pending i
    by_cases hone : (dev.syncTable i).remaining = 1
    · have hsingle : waiting dev i = {j} := by
        refine Finset.eq_singleton_iff_unique_mem.mpr ⟨hwait, fun c hc => ?_⟩
        exact Finset.card_le_one.mp (hone ▸ hcard) c hc j hwait
      have hno : ¬ Dispatches dev' l i := by
        rintro (hfire | ⟨hw, -⟩)
        · have := hd.type.symm.trans hfire.indv
          simp [hgroup] at this
        · simp [waiting_fired h hs, hsingle] at hw
      rw [parentEvents_last _ hlive hone, hnil hno, List.append_nil]
      refine Or.inl ⟨Or.inr ⟨⟨j, hwait⟩, fun c hc => ?_, by rw [hone, hsingle, Finset.card_singleton]⟩, rfl⟩
      rw [hsingle, Finset.mem_singleton] at hc
      exact hc ▸ hj
    · have hdec : (countDown (dev.syncTable i)).remaining ≠ 0 := by
        have hdown : (countDown (dev.syncTable i)).remaining = (dev.syncTable i).remaining - 1 :=
          u32Dec_of_pos hpos
        omega
      have hevents : parentEvents dev.camSyncEventq .signaledError i (dev.syncTable i) = [] := by
        unfold parentEvents
        cases camSyncUtilUpdateParentState (dev.syncTable i).state .signaledError with
        | none => rfl
        | some st' => exact if_neg hdec
      have hcb : (dev'.syncTable i).callbackList = (dev.syncTable i).callbackList := by
        rw [hs.parents i hm, parentRow]
        cases camSyncUtilUpdateParentState (dev.syncTable i).state .signaledError with
        | none => rfl
        | some st' =>
          dsimp only
          rw [if_neg hdec]
          rfl
      rw [hevents, List.filterMap_nil, List.nil_append]
      refine hq.of_iff (dispatches_fired h hf hs hi (Or.inr ⟨hwait, hd.remaining, ?_⟩)) hcb
      rw [hd.remaining]
      omega
  · rw [if_neg hm, List.filterMap_nil, List.nil_append]
    refine hq.of_iff (dispatches_fired h hf hs hi (Or.inl ⟨fun hw => hm (mem_waiting.mp hw).2, ?_⟩)) ?_
    · rw [he]
    · rw [he]

end Fired

theorem sweep_served (h : LinkInv dev) {l : List ℕ} (hl : ∀ j ∈ l, 0 < j ∧ j < camSyncMaxObjs)
    (hnd : l.Nodup) (rc : ℤ) :
    ∃ new, (l.foldl closeSignal (rc, dev)).2.trace = dev.trace ++ new ∧
      ∀ i, Served dev l i (queuedOn i new) := by
  induction l generalizing dev rc with
  | nil =>
    refine ⟨[], (List.append_nil _).symm, fun i => Or.inr ⟨?_, rfl⟩⟩
    rintro (hf | ⟨⟨c, hc⟩, hall, -⟩)
    · exact List.not_mem_nil hf.mem
    · exact List.not_mem_nil (hall c hc).mem
  | cons j l ih =>
    obtain ⟨hj, hnd⟩ := List.nodup_cons.mp hnd
    obtain ⟨hrange, hl⟩ := List.forall_mem_cons.mp hl
    have hstart : LinkInv ((rc, dev) : ℤ × SyncDevice).2 := h
    have hinv := hstart.closeSignal j
    have hcases := closeSignal_cases h hrange rc
    rw [List.foldl_cons]
    revert hinv hcases
    generalize closeSignal (rc, dev) j = r
    obtain ⟨rc', dev'⟩ := r
    intro hinv hcases
    obtain ⟨new, htrace, hserved⟩ := ih hinv hl hnd rc'
    rw [htrace]
    rcases hcases with ⟨hf, hs⟩ | ⟨hf, n, he⟩
    · have hself : j ∉ (dev.syncTable j).parentsList := by
        intro hm
        have hgroup := (h.parent j j hm).2.1
        simp [hf.indv] at hgroup
      rw [hs.trace, List.append_assoc, List.append_assoc, ← List.append_assoc _ _ new]
      refine ⟨_, rfl, fun i => ?_⟩
      rw [queuedOn_append]
      exact served_fired h hf hs (eventsOf_signaled (h.parentsNodup j) hself) (hserved i)
    · simp only at he
      subst he
      refine ⟨new, rfl, fun i => (hserved i).of_iff (dispatches_quiet hj hf n i) ?_⟩
      by_cases hi : i = j
      · rw [hi, setRow_self]
      · rw [setRow_ne _ _ _ _ hi]

lemma camSyncDestroy_state (hi : 0 < i ∧ i < camSyncMaxObjs) (hlive : (dev.syncTable i).state ≠ .invalid) :
    ((camSyncDestroy dev i).2.syncTable i).state = .invalid := by
  have hrange : ¬ (i = 0 ∨ i ≥ camSyncMaxObjs) := by omega
  have hneg : ¬ (i : ℤ) < 0 := by omega
  simp [camSyncDestroy, hneg, camSyncDeinitObject, hrange, deinitDetach, hlive, deinitClear, zeroRow]

lemma closeDestroy_spec (h : LinkInv dev) {j : ℕ} (hj : 0 < j ∧ j < camSyncMaxObjs) (rc : ℤ) :
    (closeDestroy (rc, dev) j).2.trace = dev.trace ∧
    ∀ i, ((closeDestroy (rc, dev) j).2.syncTable i).state = .invalid ↔
      i = j ∨ (dev.syncTable i).state = .invalid := by
  simp only [closeDestroy]
  by_cases hlive : (dev.syncTable j).state = .invalid
  · rw [if_neg (not_not.mpr hlive)]
    refine ⟨rfl, fun i => ⟨Or.inr, ?_⟩⟩
    rintro (rfl | hi)
    · exact hlive
    · exact hi
  rw [if_pos hlive]
  have hgone := camSyncDestroy_state hj hlive
  rcases camSyncDestroy_spec dev j (fun i => ⟨h.childrenNodup i, h.childrenPos i⟩)
    (fun i => ⟨h.parentsNodup i, h.zero_notMem i⟩) with he | hd
  · rw [he] at hgone
    exact absurd hgone hlive
  · rw [Int.toNat_natCast] at hd
    refine ⟨hd.trace, fun i => ?_⟩
    by_cases hi : i = j
    · rw [hi]
      exact iff_of_true hgone (Or.inl rfl)
    · rw [hd.others i hi]
      split_ifs <;> simp_all

theorem sweep_gone (h : LinkInv dev) {l : List ℕ} (hl : ∀ j ∈ l, 0 < j ∧ j < camSyncMaxObjs) (rc : ℤ) :
    (l.foldl closeDestroy (rc, dev)).2.trace = dev.trace ∧
    ∀ i, ((l.foldl closeDestroy (rc, dev)).2.syncTable i).state = .invalid ↔
      i ∈ l ∨ (dev.syncTable i).state = .invalid := by
  induction l generalizing dev rc with
  | nil => simp
  | cons j l ih =>
    obtain ⟨hrange, hl⟩ := List.forall_mem_cons.mp hl
    have hstart : LinkInv ((rc, dev) : ℤ × SyncDevice).2 := h
    have hinv := hstart.closeDestroy j
    have hstop := closeDestroy_spec h hrange rc
    rw [List.foldl_cons]
    revert hinv hstop
    generalize closeDestroy (rc, dev) j = r
    obtain ⟨rc', dev'⟩ := r
    intro hinv hstop
    obtain ⟨htrace, hstate⟩ := ih hinv hl rc'
    refine ⟨htrace.trans hstop.1, fun i => ?_⟩
    rw [hstate, hstop.2, List.mem_cons]
    tauto

lemma mem_sweptRows (i : ℕ) : i ∈ sweptRows ↔ 0 < i ∧ i < camSyncMaxObjs := by
  rw [sweptRows, List.mem_range'_1, camSyncMaxObjs]
  omega

lemma swept_inRange : ∀ j ∈ sweptRows, 0 < j ∧ j < camSyncMaxObjs := fun j hj => (mem_sweptRows j).mp hj

lemma sweptRows_nodup : sweptRows.Nodup := List.nodup_range'

/-- The object is ACTIVE and individual, or a group that waits for such objects. -/
def Outstanding (dev : SyncDevice) (i : ℕ) : Prop :=
  ((dev.syncTable i).state = .active ∧ (dev.syncTable i).type = .indv) ∨ (waiting dev i).Nonempty

/-- Every callback of an outstanding object is queued once, with an error, by the first
sweep; the second adds nothing. -/
def QueuesAll (s : SyncSys) : Prop :=
  ∃ new, (closeSignalAll s.dev).2.trace = s.dev.trace ++ new ∧
    (camSyncClose s).2.dev.trace = s.dev.trace ++ new ∧
    ∀ i, Outstanding s.dev i →
      queuedOn i new = (s.dev.syncTable i).callbackList.map (SyncState.signaledError, ·)

/-- An outstanding object with a callback has one reference left, or counts just the
objects it waits for, which have one reference left each. -/
def CallbacksReady (dev : SyncDevice) : Prop :=
  ∀ i, Outstanding dev i → (dev.syncTable i).callbackList ≠ [] →
    ((dev.syncTable i).type = .indv ∧ (dev.syncTable i).refCnt = 1) ∨
    ((∀ c ∈ waiting dev i, (dev.syncTable c).refCnt = 1) ∧
      (dev.syncTable i).type = .group ∧ (dev.syncTable i).remaining = (waiting dev i).card)

def AllGone (dev : SyncDevice) : Prop :=
  ∀ i, (dev.syncTable i).state = .invalid ∧ (dev.bitmap i = true ↔ i = 0)

lemma firesIn_swept (h : LinkInv dev) : FiresIn dev sweptRows i ↔
    (dev.syncTable i).state = .active ∧ (dev.syncTable i).type = .indv ∧ (dev.syncTable i).refCnt = 1 := by
  refine ⟨fun hf => ⟨hf.active, hf.indv, hf.lastRef⟩, fun ⟨ha, ht, hr⟩ => ⟨?_, ha, ht, hr⟩⟩
  obtain ⟨hpos, hbit⟩ := (h.live i).1 (by simp [ha])
  exact (mem_sweptRows i).mpr ⟨hpos, h.range i hbit⟩

lemma dispatches_swept (h : LinkInv dev) (ho : Outstanding dev i) :
    Dispatches dev sweptRows i ↔
      ((dev.syncTable i).type = .indv ∧ (dev.syncTable i).refCnt = 1) ∨
      ((∀ c ∈ waiting dev i, (dev.syncTable c).refCnt = 1) ∧
        (dev.syncTable i).type = .group ∧ (dev.syncTable i).remaining = (waiting dev i).card) := by
  have hgroup : (waiting dev i).Nonempty → (dev.syncTable i).type = .group := fun ⟨c, hc⟩ =>
    (h.parent c i (mem_waiting.mp hc).2).2.1
  rw [Dispatches, firesIn_swept h]
  constructor
  · rintro (⟨-, ht, hr⟩ | ⟨hne, hall, hcount⟩)
    · exact Or.inl ⟨ht, hr⟩
    · exact Or.inr ⟨fun c hc => (hall c hc).lastRef, hgroup hne, hcount⟩
  · rintro (⟨ht, hr⟩ | ⟨hall, ht, hcount⟩)
    · rcases ho with ⟨ha, -⟩ | hne
      · exact Or.inl ⟨ha, ht, hr⟩
      · simp [hgroup hne] at ht
    · rcases ho with ⟨-, hi⟩ | hne
      · simp [hi] at ht
      · refine Or.inr ⟨hne, fun c hc => ?_, hcount⟩
        obtain ⟨ha, hi⟩ := h.child c i (mem_waiting.mp hc).2
        exact (firesIn_swept h).mpr ⟨ha, hi, hall c hc⟩

@[simp] lemma closedSys_trace (dev : SyncDevice) : (closedSys dev).dev.trace = dev.trace := rfl

@[simp] lemma closedSys_syncTable (dev : SyncDevice) : (closedSys dev).dev.syncTable = dev.syncTable := rfl

lemma close_trace {s : SyncSys} (h : LinkInv s.dev) (hlast : s.openCnt - 1 = 0) :
    (camSyncClose s).2.dev.trace = (closeSignalAll s.dev).2.trace := by
  have hinv := h.closeSignalAll
  rw [camSyncClose_last hlast, closedSys_trace, closeDestroyAll]
  revert hinv
  generalize closeSignalAll s.dev = r
  obtain ⟨rc, dev⟩ := r
  intro hinv
  have hdev : LinkInv dev := hinv
  exact (sweep_gone hdev swept_inRange rc).1

theorem queuesAll_iff {s : SyncSys} (h : LinkInv s.dev) (hlast : s.openCnt - 1 = 0) :
    QueuesAll s ↔ CallbacksReady s.dev := by
  obtain ⟨new, htrace, hserved⟩ :=
    sweep_served h swept_inRange sweptRows_nodup 0
  rw [← closeSignalAll] at htrace
  constructor
  · rintro ⟨new', htrace', -, hall⟩ i ho hcb
    have heq : new' = new := List.append_cancel_left (htrace'.symm.trans htrace)
    rw [← dispatches_swept h ho]
    rcases hserved i with ⟨hyes, -⟩ | ⟨-, hno⟩
    · exact hyes
    · have hq := hall i ho
      rw [heq, hno] at hq
      exact absurd (List.map_eq_nil_iff.mp hq.symm) hcb
  · intro hready
    refine ⟨new, htrace, (close_trace h hlast).trans htrace, fun i ho => ?_⟩
    rcases hserved i with ⟨-, hq⟩ | ⟨hno, hq⟩
    · exact hq
    · have hnil : (s.dev.syncTable i).callbackList = [] := by
        by_contra hcb
        exact hno ((dispatches_swept h ho).mpr (hready i ho hcb))
      rw [hq, hnil, List.map_nil]

theorem allGone {s : SyncSys} (h : LinkInv s.dev) (hlast : s.openCnt - 1 = 0) :
    AllGone (camSyncClose s).2.dev := by
  have hclosed := h.closed
  have hstate : ∀ i, ((camSyncClose s).2.dev.syncTable i).state = .invalid := by
    have hinv := h.closeSignalAll
    rw [camSyncClose_last hlast, closedSys_syncTable, closeDestroyAll]
    revert hinv
    generalize closeSignalAll s.dev = r
    obtain ⟨rc, dev⟩ := r
    intro hinv i
    have hdev : LinkInv dev := hinv
    refine ((sweep_gone hdev swept_inRange rc).2 i).mpr ?_
    by_cases hlive : (dev.syncTable i).state = .invalid
    · exact Or.inr hlive
    · obtain ⟨hpos, hbit⟩ := (hdev.live i).1 hlive
      exact Or.inl ((mem_sweptRows i).mpr ⟨hpos, hdev.range i hbit⟩)
  intro i
  refine ⟨hstate i, fun hbit => ?_, ?_⟩
  · by_contra hi
    exact (hclosed.live i).2 ⟨Nat.pos_of_ne_zero hi, hbit⟩ (hstate i)
  · rintro rfl
    exact hclosed.bitZero

/-- The last close of every run in which resets tear no link queues all callbacks just
when they are ready, and leaves nothing of the table. -/
theorem last_close_queuesAll_iff {switch : Bool} {calls : List SyncCall}
    (h : Transition.Guarded sysStep (fun s c => resetsUnlinked s c = true) (sysProbe switch) calls)
    (hlast : (Transition.run sysStep (sysProbe switch) calls).openCnt = 1) :
    (QueuesAll (Transition.run sysStep (sysProbe switch) calls) ↔
      CallbacksReady (Transition.run sysStep (sysProbe switch) calls).dev) ∧
    AllGone (camSyncClose (Transition.run sysStep (sysProbe switch) calls)).2.dev := by
  have hinv := linkInv_run h
  have hzero : (Transition.run sysStep (sysProbe switch) calls).openCnt - 1 = 0 := by omega
  exact ⟨queuesAll_iff hinv hzero, allGone hinv hzero⟩

/-- A fence with a callback and one reference, in an open device, and a second one that is reset. -/
def referencedFence : List SyncCall :=
  [.openFile 0, .kernel (.create 0), .kernel (.create 0), .kernel (.getObjRef 1),
    .kernel (.registerCallback ⟨7, 0⟩ 1 true),
    .reset ⟨sizeofUserPayloadInfo, 8, some ⟨2, (1, 2)⟩⟩ (some ⟨2, (1, 2)⟩) true]

theorem last_close_queuesAll_referencedFence :
    (QueuesAll (Transition.run sysStep (sysProbe false) referencedFence) ↔
      CallbacksReady (Transition.run sysStep (sysProbe false) referencedFence).dev) ∧
    AllGone (camSyncClose (Transition.run sysStep (sysProbe false) referencedFence)).2.dev :=
  last_close_queuesAll_iff (by decide +kernel) (by decide +kernel)

/-- A fence with a callback but no reference. -/
def unreferencedFence : List SyncCall :=
  [.openFile 0, .kernel (.create 0), .kernel (.registerCallback ⟨7, 0⟩ 1 true)]

theorem not_queuesAll_unreferencedFence :
    ¬ QueuesAll (Transition.run sysStep (sysProbe false) unreferencedFence) := by
  have hguard : Transition.Guarded sysStep (fun s c => resetsUnlinked s c = true) (sysProbe false)
      unreferencedFence := by decide +kernel
  have hinv := linkInv_run hguard
  rw [queuesAll_iff hinv (by decide +kernel)]
  intro hready
  have hrow : ((Transition.run sysStep (sysProbe false) unreferencedFence).dev.syncTable 1).state = .active ∧
      ((Transition.run sysStep (sysProbe false) unreferencedFence).dev.syncTable 1).type = .indv ∧
      ((Transition.run sysStep (sysProbe false) unreferencedFence).dev.syncTable 1).callbackList ≠ [] ∧
      ((Transition.run sysStep (sysProbe false) unreferencedFence).dev.syncTable 1).refCnt = 0 := by
    decide +kernel
  obtain ⟨ha, ht, hcb, hr⟩ := hrow
  rcases hready 1 (Or.inl ⟨ha, ht⟩) hcb with ⟨-, hone⟩ | ⟨-, hgroup, -⟩
  · rw [hr] at hone
    exact absurd hone (by decide)
  · rw [ht] at hgroup
    cases hgroup

end
end CameraKernel.SyncClose
