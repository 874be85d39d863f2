import CameraKernel.IspOps

/-! Where the request objects of an ISP context are. Every object is linked into at most
one list, in every run; an object that is on none is lost. -/
namespace CameraKernel.Isp

/-- How often an object is on a list or held by config_dev. -/
def places (c : Ctx) (i : ℕ) : ℕ :=
  c.free.count i + c.pending.count i + c.wait.count i + c.active.count i + c.held.toList.count i

lemma places_congr {c d : Ctx} (hfree : d.free = c.free) (hpending : d.pending = c.pending)
    (hwait : d.wait = c.wait) (hactive : d.active = c.active) (hheld : d.held = c.held) :
    places d = places c := by
  funext i
  rw [places, places, hfree, hpending, hwait, hactive, hheld]

@[simp] lemma stampIrq_places (c : Ctx) (t : ℕ) : places (stampIrq c t) = places c := rfl

@[simp] lemma updateFps_places (c : Ctx) (fps : ℕ) : places (updateFps c fps) = places c := rfl

@[simp] lemma raiseReported_places (c : Ctx) (id : ℕ) : places (raiseReported c id) = places c := rfl

lemma settled_places (c : Ctx) (substate : Substate) (id : ℕ) :
    places { c with substate := substate, reportedReqId := id } = places c := rfl

@[simp] lemma report_places (c : Ctx) : places (report c) = places c := by
  unfold report
  split <;> rfl

lemma takeUp_places {c : Ctx} {i : ℕ} {rest : List ℕ} (h : c.wait = i :: rest) :
    places (takeUp c i rest) = places c := by
  funext j
  unfold takeUp
  split
  · simp only [places, h, List.count_append, List.count_cons, List.count_nil]
    omega
  · simp only [places, h, List.count_append, List.count_cons, List.count_nil]
    omega

lemma takenUp_places {c : Ctx} {i : ℕ} {rest : List ℕ} (h : c.wait = i :: rest) (fps id : ℕ)
    (substate : Substate) :
    places { updateFps (takeUp c i rest) fps with substate := substate, reportedReqId := id } =
      places c :=
  (settled_places _ _ _).trans ((updateFps_places _ _).trans (takeUp_places h))

lemma bubble_places {c : Ctx} {i : ℕ} {rest : List ℕ} (h : c.wait = i :: rest) :
    places (bubble c i rest) = places c := by
  funext j
  simp only [places, bubble, setReq, h, List.count_append, List.count_cons, List.count_nil]
  omega

lemma bubbleAgain_places {c : Ctx} {i : ℕ} {rest : List ℕ} (h : c.wait = i :: rest) :
    places (bubbleAgain c i rest) = places c := by
  unfold bubbleAgain
  split
  · exact bubble_places h
  · rw [raiseReported_places, bubble_places h]

lemma notifySof_places (c : Ctx) : places (notifySofInActivatedState c) = places c := by
  unfold notifySofInActivatedState
  split
  · cases hfirst : firstUnreported c with
    | none => rfl
    | some i =>
      have hmem : i ∈ c.active := List.mem_of_find?_eq_some hfirst
      dsimp only
      split
      · funext j
        have hpos : 0 < c.active.count i := List.count_pos_iff.mpr hmem
        simp only [places, List.count_append, List.count_cons, List.count_nil, List.count_erase]
        by_cases hj : i = j
        · subst hj
          simp only [beq_self_eq_true, if_true]
          omega
        · simp only [beq_iff_eq, hj, if_false]
          omega
      · rfl
  · rfl

lemma finishFirst_places {c : Ctx} {i : ℕ} {rest : List ℕ} (h : c.active = i :: rest) :
    places (finishFirst c i rest) = places c := by
  funext j
  unfold finishFirst
  split
  · simp only [places, setReq, h, List.count_cons]
    omega
  · simp only [places, setReq, h, List.count_append, List.count_cons, List.count_nil]
    omega

lemma dropDelayed_places (c : Ctx) : places (dropDelayed c) = places c := by
  unfold dropDelayed
  split
  · cases hactive : c.active with
    | nil => exact places_congr rfl rfl rfl hactive.symm rfl
    | cons i rest =>
      funext j
      simp only [places, freeEach, hactive, List.count_append, List.count_cons, List.count_nil]
      omega
  · rfl

lemma handleBufDone_places (c : Ctx) (t : ℕ) (acks : List (ℕ × ℤ)) :
    places (handleBufDoneInActivatedState c t acks) = places c := by
  unfold handleBufDoneInActivatedState
  cases hactive : c.active with
  | nil => rfl
  | cons i rest =>
    dsimp only
    split
    · rfl
    · rw [dropDelayed_places, finishFirst_places (by exact hactive)]
      rfl

lemma fs2BufDone_places (c : Ctx) (t : ℕ) (acks : List (ℕ × ℤ)) :
    places (fs2BufDone c t acks) = places c := by
  have h := handleBufDone_places c t acks
  unfold fs2BufDone
  cases c.active with
  | nil => rfl
  | cons i rest =>
    dsimp only
    split <;> exact h

lemma failActive_places (c : Ctx) : places (failActive c) = places c := by
  funext j
  have hcount := congrArg (List.count j) (unrecoverable_append c c.active)
  simp only [List.count_append] at hcount
  simp only [places, failActive, freeEach, List.count_append]
  omega

lemma failWait_places (c : Ctx) : places (failWait c) = places c := by
  funext j
  have hcount := congrArg (List.count j) (unrecoverable_append c c.wait)
  simp only [List.count_append] at hcount
  simp only [places, failWait, freeEach, List.count_append]
  omega

lemma moveToPending_places (c : Ctx) : places (moveToPending c) = places c := by
  funext j
  simp only [places, moveToPending, List.count_append, List.count_nil]
  omega

lemma failPending_places (c : Ctx) (l : List ℕ) :
    places (failPending c l) = places { c with pending := l } := by
  induction l generalizing c with
  | nil => rfl
  | cons i rest ih =>
    have hfree : places { freeEach Req.fail c [i] with pending := rest } =
        places { c with pending := i :: rest } := by
      funext j
      simp only [places, freeEach, List.count_append, List.count_cons, List.count_nil]
      omega
    unfold failPending
    split
    · rfl
    · split
      · rw [ih, hfree]
      · exact hfree

lemma failApplied_places (c : Ctx) : places (failApplied c) = places c := by
  unfold failApplied
  split
  · rfl
  · dsimp only
    split
    · rw [moveToPending_places, failActive_places]
    · split
      · rw [moveToPending_places, failWait_places, failActive_places]
      · rw [failWait_places, failActive_places]

lemma handleError_places (c : Ctx) : places (handleError c) = places c := by
  rw [← failApplied_places c, ← failPending_places (failApplied c) (failApplied c).pending]
  rfl

lemma rdiOnlySofInBubbleState_places (c : Ctx) : places (rdiOnlySofInBubbleState c) = places c := by
  funext j
  simp only [places, rdiOnlySofInBubbleState, freeEach, List.count_append, List.count_nil]
  omega

/-- The register update of the SOF substate keeps the first waiting request. -/
def keepsWaiting (c : Ctx) : Bool :=
  c.wait.head?.all fun i => (c.req i).fenceMapOut.length == (c.req i).numAcked

lemma dropWaiting_places_le (c : Ctx) (j : ℕ) : places (dropWaiting c) j ≤ places c j := by
  unfold dropWaiting
  cases hwait : c.wait with
  | nil => exact le_rfl
  | cons i rest =>
    dsimp only
    rw [updateFps_places]
    split
    · simp only [places, hwait, List.count_append, List.count_cons, List.count_nil]
      omega
    · simp only [places, hwait, List.count_append, List.count_cons, List.count_nil]
      omega

lemma dropWaiting_places {c : Ctx} (h : keepsWaiting c = true) : places (dropWaiting c) = places c := by
  unfold dropWaiting
  cases hwait : c.wait with
  | nil => rfl
  | cons i rest =>
    have hacked : (c.req i).fenceMapOut.length = (c.req i).numAcked := by
      simpa [keepsWaiting, hwait] using h
    funext j
    dsimp only
    rw [updateFps_places, if_pos hacked]
    simp only [places, hwait, List.count_append, List.count_cons, List.count_nil]
    omega

lemma fs2SofInSofState_places (c : Ctx) : places (fs2SofInSofState c) = places c := by
  unfold fs2SofInSofState
  dsimp only
  split
  · rw [report_places]
    rfl
  · rfl

lemma rdiOnlySofInBubbleApplied_places (c : Ctx) : places (rdiOnlySofInBubbleApplied c) = places c := by
  unfold rdiOnlySofInBubbleApplied
  dsimp only
  cases hwait : c.wait with
  | nil => exact places_congr rfl rfl hwait.symm rfl rfl
  | cons i rest =>
    dsimp only
    rw [bubbleAgain_places (by rfl)]
    exact places_congr rfl rfl hwait.symm rfl rfl

lemma epochInApplied_places (c : Ctx) (t : ℕ) : places (epochInApplied c t) = places c := by
  unfold epochInApplied
  cases hwait : c.wait with
  | nil => exact places_congr rfl rfl hwait.symm rfl rfl
  | cons i rest =>
    dsimp only
    rw [stampIrq_places, raiseReported_places, ← bubble_places hwait]
    generalize bubble c i rest = d
    rfl

lemma epochInBubbleApplied_places (c : Ctx) : places (epochInBubbleApplied c) = places c := by
  unfold epochInBubbleApplied
  cases hwait : c.wait with
  | nil => exact places_congr rfl rfl hwait.symm rfl rfl
  | cons i rest => exact bubbleAgain_places hwait

lemma regUpd_places (c : Ctx) (t : ℕ) : places (regUpdInActivatedState c t) = places c := by
  unfold regUpdInActivatedState
  cases hwait : c.wait with
  | nil => rfl
  | cons i rest => exact (stampIrq_places _ t).trans (takenUp_places hwait _ _ _)

lemma fs2RegUpd_places (c : Ctx) : places (fs2RegUpdInAppliedState c) = places c := by
  unfold fs2RegUpdInAppliedState
  cases hwait : c.wait with
  | nil => rfl
  | cons i rest =>
    dsimp only
    split
    · rw [report_places]
      exact takenUp_places hwait _ _ _
    · exact takenUp_places hwait _ _ _

lemma rdiOnlyRegUpd_places (c : Ctx) : places (rdiOnlyRegUpdInBubbleAppliedState c) = places c := by
  unfold rdiOnlyRegUpdInBubbleAppliedState
  split
  · cases hwait : c.wait with
    | nil => exact places_congr rfl rfl hwait.symm rfl rfl
    | cons i rest => exact takenUp_places hwait _ _ _
  · rfl

lemma handled_places {c d : Ctx} {e : Event} (h : Handled c e d) :
    places d = places c ∨
      c.substate = .sof ∧ (∃ t s, e = .regUpdate t s) ∧ places d = places (dropWaiting c) := by
  cases h with
  | ignored | sof | sofInEpoch | sofInTop | sofInApplied | regUpdInEpoch | regUpdInHwError => exact .inl rfl
  | error => exact .inl (handleError_places c)
  | sofInBubble => exact .inl (rdiOnlySofInBubbleState_places c)
  | sofInBubbleApplied => exact .inl (rdiOnlySofInBubbleApplied_places c)
  | sofInSof | epochInSof => exact .inl (fs2SofInSofState_places c)
  | notifySof => exact .inl (notifySof_places c)
  | epochInApplied t => exact .inl (epochInApplied_places c t)
  | epochInBubbleApplied => exact .inl (epochInBubbleApplied_places c)
  | regUpdInSof t s hsub =>
    unfold regUpdInSof
    split
    · exact .inl rfl
    · exact .inr ⟨hsub, ⟨t, s, rfl⟩, rfl⟩
  | fs2RegUpdInSof t s hsub =>
    unfold fs2RegUpdInSof
    split
    · exact .inl rfl
    · exact .inr ⟨hsub, ⟨t, s, rfl⟩, rfl⟩
  | regUpd t => exact .inl (regUpd_places c t)
  | fs2RegUpd => exact .inl (fs2RegUpd_places c)
  | rdiOnlyRegUpd => exact .inl (rdiOnlyRegUpd_places c)
  | done t acks => exact .inl (handleBufDone_places c t acks)
  | fs2Done t acks => exact .inl (fs2BufDone_places c t acks)

lemma handled_places_le {c d : Ctx} {e : Event} (h : Handled c e d) (j : ℕ) : places d j ≤ places c j := by
  rcases handled_places h with heq | ⟨-, -, heq⟩
  · exact (congrFun heq j).le
  · exact (congrFun heq j).le.trans (dropWaiting_places_le c j)

lemma takeFreeReq_places (c : Ctx) (h : c.held = none) : places (takeFreeReq c).2 = places c := by
  unfold takeFreeReq
  cases hfree : c.free with
  | nil => rfl
  | cons i rest =>
    funext j
    simp only [places, setReq, hfree, h, Option.toList_some, Option.toList_none, List.count_cons, List.count_nil]
    omega

lemma beginConfigDev_places (c : Ctx) (h : c.held = none) : places (beginConfigDev c).2 = places c := by
  unfold beginConfigDev
  split
  · rfl
  · split
    · rfl
    · exact takeFreeReq_places c h
  · exact takeFreeReq_places c h
  · exact takeFreeReq_places c h

lemma count_insertInOrder (c : Ctx) (i j : ℕ) :
    (insertInOrder c i).count j = c.pending.count j + [i].count j := by
  have hsplit := congrArg (List.count j) (List.rdropWhile_append_rtakeWhile (p := fun k =>
    decide ((c.req i).requestId < (c.req k).requestId)) (l := c.pending))
  simp only [List.count_append] at hsplit
  simp only [insertInOrder, List.count_append, List.count_cons, List.count_nil]
  omega

lemma configured_places {c d : Ctx} {i : ℕ} {p : Packet} (hheld : c.held = some i)
    (h : Configured c i p d) : places d = places c := by
  funext j
  cases h with
  | rejected =>
    simp only [places, freeReq, setReq, hheld, Option.toList_some, Option.toList_none, List.count_append, List.count_nil]
    omega
  | initAdded hrefs hpending =>
    simp only [places, acceptReq, filled, setReq, hheld, hpending, Option.toList_some, Option.toList_none, List.count_nil]
    omega
  | initMerged =>
    simp only [places, mergeInit, filled, setReq, hheld, Option.toList_some, Option.toList_none, List.count_append, List.count_nil]
    omega
  | queued =>
    simp only [places, enqueueRequestInOrder, count_insertInOrder]
    simp only [acceptReq, filled, setReq, hheld, Option.toList_some, Option.toList_none, List.count_nil]
    omega

lemma configDev_places {c : Ctx} {i : ℕ} (h : c.held = some i) (p : Packet) :
    places (configDev c i p).2 = places c := by
  rw [← configured_places h (configDevInTopState_configured c i p)]
  unfold configDev
  dsimp only
  split <;> rfl

lemma applyReq_places (c : Ctx) (a : ApplyReq) : places (applyReq c a).2 = places c := by
  have happly (next : Substate) : places (applyReqInActivatedState c a next).2 = places c := by
    unfold applyReqInActivatedState
    cases hpending : c.pending with
    | nil => rfl
    | cons i rest =>
      dsimp only
      split_ifs
      · rfl
      · exact places_congr rfl hpending.symm rfl rfl rfl
      · rfl
      · rfl
      · funext j
        simp only [places, setReq, hpending, List.count_append, List.count_cons, List.count_nil]
        omega
  unfold applyReq
  split
  · exact happly _
  · exact happly _
  · exact happly _
  · exact happly _
  · rfl

lemma count_find_add_count_eraseP (p : ℕ → Bool) (l : List ℕ) (j : ℕ) :
    (l.find? p).toList.count j + (l.eraseP p).count j = l.count j := by
  induction l with
  | nil => rfl
  | cons i l ih =>
    cases hi : p i with
    | true =>
      rw [List.find?_cons_of_pos hi, List.eraseP_cons_of_pos hi]
      simp only [Option.toList_some, List.count_cons, List.count_nil]
      omega
    | false =>
      rw [List.find?_cons_of_neg (by simp [hi]), List.eraseP_cons_of_neg (by simp [hi])]
      simp only [List.count_cons]
      omega

lemma count_flushed (c : Ctx) (f : FlushReq) (l : List ℕ) (j : ℕ) :
    (flushed c f l).count j + (unflushed c f l).count j = l.count j := by
  unfold flushed unflushed
  cases f.type with
  | all => simp
  | cancelReq => exact count_find_add_count_eraseP (isCancelled c f) l j

lemma flushPending_places (c : Ctx) (f : FlushReq) : places (flushPending c f) = places c := by
  funext j
  have hcount := count_flushed c f c.pending j
  simp only [places, flushPending, freeEach, List.count_append]
  omega

lemma flushApplied_places (c : Ctx) (f : FlushReq) : places (flushApplied c f) = places c := by
  funext j
  have hwait := count_flushed c f c.wait j
  have hactive := count_flushed c f c.active j
  simp only [places, flushApplied, freeEach, List.count_append]
  omega

lemma flushReq_places (c : Ctx) (f : FlushReq) : places (flushReq c f).2 = places c := by
  have hpending : places { flushPending (recordFlush c f) f with processBubble := false } = places c :=
    flushPending_places (recordFlush c f) f
  have htop : places (flushReqInTopState c f).2 = places c := by
    unfold flushReqInTopState
    dsimp only
    split_ifs
    · exact hpending
    · exact hpending
    · exact (flushApplied_places _ f).trans hpending
  unfold flushReq
  split
  · rfl
  · exact flushPending_places c f
  · exact htop
  · exact htop

lemma startDevInReady_places (c : Ctx) (cmd : StartCmd) : places (startDevInReady c cmd).2 = places c := by
  unfold startDevInReady
  split
  · rfl
  · cases hpending : c.pending with
    | nil => rfl
    | cons i rest =>
      dsimp only
      split_ifs
      · rfl
      · exact places_congr rfl hpending.symm rfl rfl rfl
      · funext j
        simp only [places, hpending, List.count_append, List.count_cons, List.count_nil]
        omega
      · funext j
        simp only [places, hpending, List.count_append, List.count_cons, List.count_nil]
        omega

lemma stopDevInActivatedUnlock_places (c : Ctx) (cmd : Bool) :
    places (stopDevInActivatedUnlock c cmd) = places c := by
  funext j
  unfold stopDevInActivatedUnlock
  dsimp only
  split
  · simp only [places, freeEach, List.count_append, List.count_nil]
    omega
  · simp only [places, unlinkInReady, freeEach, List.count_append, List.count_nil]
    omega

lemma releaseHwInTopState_places (c : Ctx) : places (releaseHwInTopState c) = places c :=
  flushPending_places _ flushAll

lemma releaseDevInTopState_places (c : Ctx) : places (releaseDevInTopState c) = places c := by
  unfold releaseDevInTopState
  dsimp only
  rw [flushPending_places]
  split
  · exact releaseHwInTopState_places c
  · rfl

lemma acquireHwInAcquired_places (c : Ctx) (cmd : AcquireCmd) :
    places (acquireHwInAcquired c cmd).2 = places c := by
  unfold acquireHwInAcquired
  split_ifs <;> rfl

lemma acquireDev_held (c : Ctx) (cmd : AcquireCmd) : (acquireDev c cmd).2.held = c.held := by
  unfold acquireDev
  split
  · exact (acquireDevInAvailable_keeps c cmd).held
  · rfl

lemma acquireDev_places {c : Ctx} (hheld : c.held = none) (cmd : AcquireCmd) :
    places (acquireDev c cmd).2 = places c ∨
      c.state = .available ∧ places (acquireDev c cmd).2 = (List.range ctxReqMax).count := by
  have hkeep := acquireDev_held c cmd
  revert hkeep
  unfold acquireDev
  split
  · rename_i hstate
    intro hkeep
    right
    refine ⟨hstate, ?_⟩
    funext j
    rw [places, hkeep, hheld]
    simp
  · intro hkeep
    exact .inl rfl

lemma call_places {c : Ctx} (hheld : c.held = none) (op : Op) :
    places (call c op) = places c ∨
      c.state = .available ∧ places (call c op) = (List.range ctxReqMax).count := by
  cases op with
  | acquireDev cmd => exact acquireDev_places hheld cmd
  | acquireHw cmd =>
    left
    simp only [call]
    split
    · exact acquireHwInAcquired_places c cmd
    · rfl
  | releaseHw =>
    left
    simp only [call]
    split
    · rfl
    · exact releaseHwInTopState_places c
    · exact releaseHwInTopState_places c
    · rw [releaseHwInTopState_places, stopDevInActivatedUnlock_places]
  | releaseDev =>
    left
    simp only [call]
    split
    · rfl
    · exact releaseDevInTopState_places c
    · exact releaseDevInTopState_places c
    · rw [releaseDevInTopState_places, stopDevInActivatedUnlock_places]
  | link linkHdl =>
    left
    simp only [call]
    split <;> rfl
  | unlink =>
    left
    simp only [call]
    split
    · rfl
    · rfl
    · rfl
    · exact stopDevInActivatedUnlock_places c false
  | beginConfig => exact .inl (beginConfigDev_places c hheld)
  | config p => exact .inl rfl
  | startDev cmd =>
    left
    simp only [call]
    split
    · exact startDevInReady_places c cmd
    · rfl
  | stopDev =>
    left
    simp only [call]
    split
    · exact stopDevInActivatedUnlock_places c true
    · rfl
  | apply a =>
    left
    simp only [call]
    split
    · exact applyReq_places c a
    · rfl
  | flush f => exact .inl (flushReq_places c f)
  | irq e => exact .inl rfl

/-- No object is linked in twice. -/
def Linked (c : Ctx) : Prop := ∀ i, places c i ≤ 1

lemma contextInit_linked : Linked contextInit := by
  intro i
  have hcount := List.nodup_iff_count_le_one.mp (List.nodup_range (n := ctxReqMax)) i
  simpa [places, contextInit] using hcount

lemma step_linked {c : Ctx} (h : Linked c) (op : Op) : Linked (step c op) := by
  intro i
  unfold step
  split
  · split
    · exact (handled_places_le (handleIrqInActivated_handled c _) i).trans (h i)
    · exact h i
  · rename_i hheld
    rw [configDev_places hheld]
    exact h i
  · exact h i
  · exact h i
  · rename_i hheld
    rcases call_places hheld _ with heq | ⟨-, heq⟩
    · exact (congrFun heq i).le.trans (h i)
    · exact (congrFun heq i).le.trans (List.nodup_iff_count_le_one.mp List.nodup_range i)

end CameraKernel.Isp
