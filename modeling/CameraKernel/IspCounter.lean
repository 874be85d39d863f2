import CameraKernel.IspOps

/-! The active request counter. Every handler moves requests and adjusts the counter on
its own, so each is judged by what it does to the drift between the two. -/
namespace CameraKernel.Isp

/-- How far the counter is off the active list. -/
def drift (c : Ctx) : ℤ := c.activeReqCnt - c.active.length

lemma drift_eq {c d : Ctx} (hcnt : d.activeReqCnt = c.activeReqCnt) (hactive : d.active = c.active) :
    drift d = drift c := by
  rw [drift, drift, hcnt, hactive]

lemma drift_eq_zero {c : Ctx} : drift c = 0 ↔ c.activeReqCnt = c.active.length := by
  rw [drift]
  omega

@[simp] lemma stampIrq_drift (c : Ctx) (t : ℕ) : drift (stampIrq c t) = drift c := rfl

@[simp] lemma updateFps_drift (c : Ctx) (fps : ℕ) : drift (updateFps c fps) = drift c := rfl

@[simp] lemma settle_drift (c : Ctx) : drift (settle c) = drift c := rfl

@[simp] lemma raiseReported_drift (c : Ctx) (id : ℕ) : drift (raiseReported c id) = drift c := rfl

@[simp] lemma report_drift (c : Ctx) : drift (report c) = drift c := by
  unfold report
  split <;> rfl

lemma takeUp_drift (c : Ctx) (i : ℕ) (rest : List ℕ) : drift (takeUp c i rest) = drift c := by
  unfold takeUp
  split
  · simp only [drift, List.length_append, List.length_singleton]
    omega
  · rfl

lemma bubble_drift (c : Ctx) (i : ℕ) (rest : List ℕ) : drift (bubble c i rest) = drift c := by
  simp only [drift, bubble, List.length_append, List.length_singleton]
  omega

lemma bubbleAgain_drift (c : Ctx) (i : ℕ) (rest : List ℕ) : drift (bubbleAgain c i rest) = drift c := by
  unfold bubbleAgain
  split
  · exact bubble_drift c i rest
  · rw [raiseReported_drift, bubble_drift]

lemma finishFirst_drift {c : Ctx} {i : ℕ} {rest : List ℕ} (h : c.active = i :: rest) :
    drift (finishFirst c i rest) = drift c := by
  unfold finishFirst
  split <;> (simp only [drift, h, List.length_cons]; omega)

lemma dropDelayed_drift {c : Ctx} (h : drift c = 0) : drift (dropDelayed c) = 0 := by
  rw [drift_eq_zero] at h
  unfold dropDelayed
  split
  · rename_i hlate
    cases hactive : c.active with
    | nil => simp [hactive] at h; exact absurd h hlate.1
    | cons i rest =>
      simp only [drift, h, hactive, List.length_cons]
      omega
  · simpa [drift_eq_zero] using h

lemma handleBufDone_drift {c : Ctx} (h : drift c = 0) (t : ℕ) (acks : List (ℕ × ℤ)) :
    drift (handleBufDoneInActivatedState c t acks) = 0 := by
  unfold handleBufDoneInActivatedState
  cases hactive : c.active with
  | nil => exact h
  | cons i rest =>
    dsimp only
    split
    · exact h
    · apply dropDelayed_drift
      rw [finishFirst_drift (by exact hactive)]
      exact h

lemma fs2BufDone_drift {c : Ctx} (h : drift c = 0) (t : ℕ) (acks : List (ℕ × ℤ)) :
    drift (fs2BufDone c t acks) = 0 := by
  unfold fs2BufDone
  cases hactive : c.active with
  | nil => exact h
  | cons i rest =>
    dsimp only
    split
    · exact handleBufDone_drift h t acks
    · exact handleBufDone_drift h t acks

lemma rdiOnlySofInBubbleState_drift (c : Ctx) : drift (rdiOnlySofInBubbleState c) = drift c := by
  simp [drift, rdiOnlySofInBubbleState]

lemma refreshed_drift (c : Ctx) (fps : ℕ) (substate : Substate) :
    drift { updateFps c fps with substate := substate } = drift c := rfl

lemma regUpd_drift (c : Ctx) (t : ℕ) : drift (regUpdInActivatedState c t) = drift c := by
  unfold regUpdInActivatedState
  cases c.wait with
  | nil => rfl
  | cons i rest =>
    dsimp only
    rw [stampIrq_drift, refreshed_drift, takeUp_drift]

lemma fs2RegUpd_drift (c : Ctx) : drift (fs2RegUpdInAppliedState c) = drift c := by
  unfold fs2RegUpdInAppliedState
  cases c.wait with
  | nil => rfl
  | cons i rest =>
    dsimp only
    split
    · rw [report_drift, refreshed_drift, takeUp_drift]
    · rw [refreshed_drift, takeUp_drift]

lemma rdiOnlyRegUpd_drift (c : Ctx) : drift (rdiOnlyRegUpdInBubbleAppliedState c) = drift c := by
  unfold rdiOnlyRegUpdInBubbleAppliedState
  split
  · cases c.wait with
    | nil => rfl
    | cons i rest =>
      dsimp only
      rw [← takeUp_drift c i rest]
      generalize takeUp c i rest = d
      rfl
  · rfl

lemma dropWaiting_drift (c : Ctx) : drift (dropWaiting c) = drift c := by
  unfold dropWaiting
  cases c.wait with
  | nil => rfl
  | cons i rest => rfl

lemma epochInApplied_drift (c : Ctx) (t : ℕ) : drift (epochInApplied c t) = drift c := by
  unfold epochInApplied
  cases c.wait with
  | nil => rfl
  | cons i rest => exact bubble_drift c i rest

lemma epochInBubbleApplied_drift (c : Ctx) : drift (epochInBubbleApplied c) = drift c := by
  unfold epochInBubbleApplied
  cases c.wait with
  | nil => rfl
  | cons i rest => exact bubbleAgain_drift c i rest

lemma rdiOnlySofInBubbleApplied_drift (c : Ctx) : drift (rdiOnlySofInBubbleApplied c) = drift c := by
  unfold rdiOnlySofInBubbleApplied
  dsimp only
  cases c.wait with
  | nil => rfl
  | cons i rest => exact bubbleAgain_drift { c with frameId := c.frameId + 1 } i rest

lemma fs2SofInSofState_drift (c : Ctx) : drift (fs2SofInSofState c) = drift c := by
  unfold fs2SofInSofState
  dsimp only
  split
  · exact report_drift _
  · rfl

/-- Reported as the frame starts, with every fence acknowledged. -/
def frameStartFrees (c : Ctx) : Bool :=
  c.crmIntf && decide (c.activeReqCnt ≤ 2) &&
    (firstUnreported c).any fun i => (c.req i).numAcked == (c.req i).fenceMapOut.length

lemma notifySof_drift {c : Ctx} (h : frameStartFrees c = false) :
    drift (notifySofInActivatedState c) = drift c := by
  unfold notifySofInActivatedState
  split
  · rename_i hcrm
    cases hfirst : firstUnreported c with
    | none => rfl
    | some i =>
      have hacked : (c.req i).numAcked ≠ (c.req i).fenceMapOut.length := by
        simpa [frameStartFrees, hcrm, hfirst] using h
      dsimp only
      rw [if_neg hacked]
      rfl
  · rfl

lemma failPending_drift (c : Ctx) (l : List ℕ) : drift (failPending c l) = drift c := by
  induction l generalizing c with
  | nil => rfl
  | cons i rest ih =>
    unfold failPending
    split
    · rfl
    · split
      · rw [ih]
        rfl
      · rfl

lemma failActive_drift (c : Ctx) : drift (failActive c) = drift c := by
  have hlen := congrArg List.length (unrecoverable_append c c.active)
  simp only [List.length_append] at hlen
  simp only [drift, failActive]
  omega

lemma failWait_drift (c : Ctx) :
    drift (failWait c) - (failWait c).wait.length = drift c - c.wait.length := by
  have hlen := congrArg List.length (unrecoverable_append c c.wait)
  simp only [List.length_append] at hlen
  simp only [drift, failWait, freeEach_active]
  omega

lemma moveToPending_drift (c : Ctx) : drift (moveToPending c) = drift c - c.wait.length := by
  simp only [drift, moveToPending, List.length_nil]
  omega

lemma failApplied_drift (c : Ctx) : drift (failApplied c) = drift c - c.wait.length := by
  have hwait : (failActive c).wait = c.wait := rfl
  unfold failApplied
  split
  · rename_i hempty
    simp [hempty.2]
  · dsimp only
    split
    · rw [moveToPending_drift, failActive_drift, hwait]
    · split
      · rw [moveToPending_drift, failWait_drift, failActive_drift, hwait]
      · rename_i hgone
        push Not at hgone
        have hfail := failWait_drift (failActive c)
        rw [hgone, failActive_drift, hwait] at hfail
        simpa using hfail

lemma handleError_drift (c : Ctx) : drift (handleError c) = drift c - c.wait.length := by
  rw [← failApplied_drift, ← failPending_drift (failApplied c) (failApplied c).pending]
  rfl

/-- What keeps the counter exact: no error finds a request waiting, and no start of frame
frees an active request. -/
def counterSafe (c : Ctx) : Op → Bool
  | .irq .error => !handlesError c || c.wait.isEmpty
  | .irq (.epoch _) => !notifiesSof c || !frameStartFrees c
  | _ => true

structure CounterInv (c : Ctx) : Prop where
  counted : c.state = .activated → drift c = 0
  idle : c.state ≠ .activated → c.active = []

lemma contextInit_counterInv : CounterInv contextInit := by
  constructor
  · intro h
    simp [contextInit] at h
  · intro h
    rfl

lemma counterInv_of_idle {c : Ctx} (hstate : c.state ≠ .activated) (hactive : c.active = []) :
    CounterInv c :=
  ⟨fun h => absurd h hstate, fun _ => hactive⟩

lemma counterInv_of_drift {c : Ctx} (hstate : c.state = .activated) (h : drift c = 0) : CounterInv c :=
  ⟨fun _ => h, fun hidle => absurd hstate hidle⟩

lemma CounterInv.frame {c d : Ctx} (h : CounterInv c) (hstate : d.state = c.state)
    (hcnt : d.activeReqCnt = c.activeReqCnt) (hactive : d.active = c.active) : CounterInv d := by
  constructor
  · intro hd
    rw [drift_eq hcnt hactive]
    exact h.counted (hstate ▸ hd)
  · intro hd
    rw [hactive]
    exact h.idle (hstate ▸ hd)

lemma handled_drift {c d : Ctx} {e : Event} (h : Handled c e d) (hc : drift c = 0)
    (hsafe : counterSafe c (.irq e) = true) : drift d = 0 := by
  cases h with
  | ignored | sof | sofInEpoch | sofInTop | sofInApplied | regUpdInEpoch | regUpdInHwError => exact hc
  | error hinst =>
    have hwait : c.wait = [] := by simpa [counterSafe, hinst] using hsafe
    rw [handleError_drift, hc, hwait]
    rfl
  | sofInBubble => rw [rdiOnlySofInBubbleState_drift, hc]
  | sofInBubbleApplied => rw [rdiOnlySofInBubbleApplied_drift, hc]
  | sofInSof | epochInSof => rw [fs2SofInSofState_drift, hc]
  | notifySof t hinst =>
    have hfrees : frameStartFrees c = false := by simpa [counterSafe, hinst] using hsafe
    rw [notifySof_drift hfrees, hc]
  | epochInApplied t => rw [epochInApplied_drift, hc]
  | epochInBubbleApplied => rw [epochInBubbleApplied_drift, hc]
  | regUpdInSof t =>
    unfold regUpdInSof
    split
    · exact hc
    · rw [stampIrq_drift, dropWaiting_drift, hc]
  | fs2RegUpdInSof =>
    unfold fs2RegUpdInSof
    split
    · exact hc
    · rw [dropWaiting_drift, hc]
  | regUpd t => rw [regUpd_drift, hc]
  | fs2RegUpd => rw [fs2RegUpd_drift, hc]
  | rdiOnlyRegUpd => rw [rdiOnlyRegUpd_drift, hc]
  | done t acks => exact handleBufDone_drift hc t acks
  | fs2Done t acks => exact fs2BufDone_drift hc t acks

lemma takeFreeReq_counterInv {c : Ctx} (h : CounterInv c) : CounterInv (takeFreeReq c).2 := by
  unfold takeFreeReq
  split
  · exact h
  · exact h.frame rfl rfl rfl

lemma beginConfigDev_counterInv {c : Ctx} (h : CounterInv c) : CounterInv (beginConfigDev c).2 := by
  unfold beginConfigDev
  cases c.state with
  | available => exact h
  | acquired =>
    dsimp only
    split
    · exact h
    · exact takeFreeReq_counterInv h
  | ready => exact takeFreeReq_counterInv h
  | activated => exact takeFreeReq_counterInv h

lemma configDev_counterInv {c : Ctx} (h : CounterInv c) (i : ℕ) (p : Packet) :
    CounterInv (configDev c i p).2 := by
  obtain ⟨hactive, -, hcnt, hstate⟩ := configured_active (configDevInTopState_configured c i p)
  unfold configDev
  dsimp only
  split
  · rename_i hready
    have hidle : c.active = [] := h.idle (by simp [hready.1])
    exact counterInv_of_idle (by simp) (hactive.trans hidle)
  · exact h.frame hstate hcnt hactive

lemma applyReq_counterInv {c : Ctx} (h : CounterInv c) (a : ApplyReq) : CounterInv (applyReq c a).2 := by
  have happly (next : Substate) : CounterInv (applyReqInActivatedState c a next).2 := by
    unfold applyReqInActivatedState
    split
    · exact h
    · dsimp only
      split_ifs
      · exact h
      · exact h.frame rfl rfl rfl
      · exact h
      · exact h.frame rfl rfl rfl
      · exact h.frame rfl rfl rfl
  unfold applyReq
  split
  · exact happly _
  · exact happly _
  · exact happly _
  · exact happly _
  · exact h

lemma flushReqInTopState_counterInv {c : Ctx} (h : CounterInv c) (f : FlushReq) :
    CounterInv (flushReqInTopState c f).2 := by
  unfold flushReqInTopState
  dsimp only
  split_ifs with hend hreset
  · exact h.frame rfl rfl rfl
  · exact h.frame rfl rfl rfl
  · have hall : f.type = .all := by
      cases htype : f.type with
      | all => rfl
      | cancelReq => exact absurd (.inl htype) hend
    constructor
    · intro hstate
      simp [drift_eq_zero, flushApplied, unflushed, hall]
    · intro hstate
      simp [flushApplied, unflushed, hall]

lemma flushReqInReady_counterInv {c : Ctx} (h : CounterInv c) (hready : c.state = .ready) (f : FlushReq) :
    CounterInv (flushReqInReady c f).2 := by
  have hidle : c.active = [] := h.idle (by simp [hready])
  refine counterInv_of_idle ?_ hidle
  change (if (flushPending c f).pending = [] then CtxState.acquired else c.state) ≠ _
  split_ifs <;> simp [hready]

lemma flushReq_counterInv {c : Ctx} (h : CounterInv c) (f : FlushReq) : CounterInv (flushReq c f).2 := by
  unfold flushReq
  cases hstate : c.state with
  | available => exact h
  | ready => exact flushReqInReady_counterInv h hstate f
  | acquired => exact flushReqInTopState_counterInv h f
  | activated => exact flushReqInTopState_counterInv h f

lemma startDevInReady_counterInv {c : Ctx} (h : CounterInv c) (hready : c.state = .ready) (cmd : StartCmd) :
    CounterInv (startDevInReady c cmd).2 := by
  have hidle : c.active = [] := h.idle (by simp [hready])
  unfold startDevInReady
  split
  · exact h
  · split
    · exact h
    · dsimp only
      split_ifs
      · exact h
      · exact counterInv_of_idle (by simp [hready]) hidle
      · exact counterInv_of_drift rfl (by simp [drift_eq_zero, hidle])
      · exact counterInv_of_drift rfl (by simp [drift_eq_zero, hidle])

lemma stopDevInActivatedUnlock_active (c : Ctx) (cmd : Bool) :
    (stopDevInActivatedUnlock c cmd).active = [] := by
  unfold stopDevInActivatedUnlock
  cases cmd with
  | false => rfl
  | true => rfl

lemma releaseHwInTopState_counterInv {c : Ctx} (h : c.active = []) : CounterInv (releaseHwInTopState c) := by
  refine counterInv_of_idle ?_ h
  simp [releaseHwInTopState, flushPending, freeEach]

lemma releaseDevInTopState_counterInv {c : Ctx} (h : c.active = []) :
    CounterInv (releaseDevInTopState c) := by
  have hactive : (releaseDevInTopState c).active = c.active := by
    unfold releaseDevInTopState
    dsimp only
    split <;> rfl
  refine counterInv_of_idle ?_ (hactive.trans h)
  simp [releaseDevInTopState, flushPending, freeEach]

lemma acquireDev_counterInv {c : Ctx} (h : CounterInv c) (cmd : AcquireCmd) :
    CounterInv (acquireDev c cmd).2 := by
  unfold acquireDev
  cases hc : c.state with
  | available =>
    refine counterInv_of_idle ?_ rfl
    rcases (acquireDevInAvailable_keeps c cmd).state with hs | hs <;> simp [hs, hc]
  | acquired | ready | activated => exact h

lemma acquireHwInAcquired_counterInv {c : Ctx} (h : CounterInv c) (cmd : AcquireCmd) :
    CounterInv (acquireHwInAcquired c cmd).2 := by
  unfold acquireHwInAcquired
  split_ifs
  · exact h
  · exact h
  · exact h.frame rfl rfl rfl
  · exact h.frame rfl rfl rfl

lemma call_counterInv {c : Ctx} (h : CounterInv c) (op : Op) : CounterInv (call c op) := by
  have hstop := stopDevInActivatedUnlock_active c
  cases op with
  | acquireDev cmd => exact acquireDev_counterInv h cmd
  | acquireHw cmd =>
    simp only [call]
    split
    · exact acquireHwInAcquired_counterInv h cmd
    · exact h
  | releaseHw =>
    simp only [call]
    cases hc : c.state with
    | available => exact h
    | acquired => exact releaseHwInTopState_counterInv (h.idle (by simp [hc]))
    | ready => exact releaseHwInTopState_counterInv (h.idle (by simp [hc]))
    | activated => exact releaseHwInTopState_counterInv (hstop false)
  | releaseDev =>
    simp only [call]
    cases hc : c.state with
    | available => exact h
    | acquired => exact releaseDevInTopState_counterInv (h.idle (by simp [hc]))
    | ready => exact releaseDevInTopState_counterInv (h.idle (by simp [hc]))
    | activated => exact releaseDevInTopState_counterInv (hstop false)
  | link linkHdl =>
    simp only [call]
    split
    · rename_i hc
      refine counterInv_of_idle ?_ (h.idle (by simp [hc]))
      dsimp only
      split_ifs <;> simp
    · exact h
  | unlink =>
    simp only [call]
    cases hc : c.state with
    | available => exact h
    | acquired => exact h.frame hc.symm rfl rfl
    | ready => exact counterInv_of_idle (by simp [unlinkInReady]) (h.idle (by simp [hc]))
    | activated => exact counterInv_of_idle (by simp [unlinkInReady]) (hstop false)
  | beginConfig => exact beginConfigDev_counterInv h
  | config p => exact h
  | startDev cmd =>
    simp only [call]
    split
    · rename_i hc
      exact startDevInReady_counterInv h hc cmd
    · exact h
  | stopDev =>
    simp only [call]
    split
    · exact counterInv_of_idle (by simp [stopDevInActivated]) (hstop true)
    · exact h
  | apply a =>
    simp only [call]
    split
    · exact applyReq_counterInv h a
    · exact h
  | flush f => exact flushReq_counterInv h f
  | irq e => exact h

lemma step_counterInv {c : Ctx} (h : CounterInv c) (op : Op) (hsafe : counterSafe c op = true) :
    CounterInv (step c op) := by
  unfold step
  split
  · rename_i e
    split
    · rename_i hc
      have hd := handleIrqInActivated_handled c e
      refine counterInv_of_drift ((handled_state hd).trans hc) ?_
      exact handled_drift hd (h.counted hc) hsafe
    · exact h
  · exact configDev_counterInv h _ _
  · exact h
  · exact h
  · exact call_counterInv h _

/-- In every run in which no error finds a request waiting and no start of frame frees an
active request, the counter is the length of the active list whenever the context is
activated. -/
theorem run_activeReqCnt (ops : List Op)
    (hsafe : Transition.Guarded step (fun c op => counterSafe c op = true) contextInit ops)
    (hstate : (Transition.run step contextInit ops).state = .activated) :
    (Transition.run step contextInit ops).activeReqCnt =
      (Transition.run step contextInit ops).active.length := by
  have hinv : CounterInv (Transition.run step contextInit ops) :=
    Transition.run_invariant (fun c op (hc : CounterInv c) hop => step_counterInv hc op hop)
      contextInit_counterInv hsafe
  exact drift_eq_zero.mp (hinv.counted hstate)

/-- A request is taken up by the hardware and fails on an error. -/
def errorWhenActive : List Op :=
  startUp .pix ++ update 2 11 ++ firstFrame ++ [Op.apply ⟨2, false, 0⟩, .irq (.regUpdate 0 0), .irq .error] ++
    update 3 12 ++ [Op.irq (.regUpdate 0 0), .apply ⟨3, false, 0⟩, .irq (.regUpdate 0 0)]

theorem errorWhenActive_activeReqCnt :
    Transition.Guarded step (fun c op => counterSafe c op = true) contextInit errorWhenActive ∧
      (Transition.run step contextInit errorWhenActive).state = .activated ∧
      (Transition.run step contextInit errorWhenActive).activeReqCnt =
        (Transition.run step contextInit errorWhenActive).active.length ∧
      (Transition.run step contextInit errorWhenActive).active = [2] := by
  have hsafe : Transition.Guarded step (fun c op => counterSafe c op = true) contextInit errorWhenActive := by
    decide +kernel
  have hstate : (Transition.run step contextInit errorWhenActive).state = .activated := by decide +kernel
  exact ⟨hsafe, hstate, run_activeReqCnt errorWhenActive hsafe hstate, by decide +kernel⟩

/-- The error comes before the register update. -/
def errorWhenWaiting : List Op :=
  startUp .pix ++ update 2 11 ++ firstFrame ++ [Op.apply ⟨2, false, 0⟩, .irq .error]

theorem errorWhenWaiting_counter_negative :
    (Transition.run step contextInit errorWhenWaiting).state = .activated ∧
      (Transition.run step contextInit errorWhenWaiting).activeReqCnt = -1 ∧
      (Transition.run step contextInit errorWhenWaiting).active = [] := by
  decide +kernel

end CameraKernel.Isp
