import CameraKernel.CrmSession
import CameraKernel.Transition

/-! The flush watermark of a link. A flush of all requests stores its id, and the first
newer request drops it again. -/
namespace CameraKernel.Crm
open MachineInt

/-- The arguments of a call of `cam_req_mgr_schedule_request`. -/
structure SchedRequest where
  reqId : ℤ
  syncMode : ℤ
  bubbleEnable : ℤ
  deriving DecidableEq, Repr

/-- The calls on one link that read or write its watermark. -/
inductive WatermarkOp
  | flushAll (reqId : ℤ)
  | schedule (req : SchedRequest)
  deriving DecidableEq, Repr

def watermarkStep (l : ℕ) (σ : Links) : WatermarkOp → Links
  | .flushAll reqId => setLink σ l fun k => flushAll k reqId
  | .schedule req => (scheduleRequest σ l req.reqId req.syncMode req.bubbleEnable).2

variable {σ : Links} {l : ℕ}

@[simp] lemma setLink_self (f : CoreLink → CoreLink) : setLink σ l f l = f (σ l) := by
  simp [setLink]

lemma setLink_of_ne {j : ℕ} (h : j ≠ l) (f : CoreLink → CoreLink) : setLink σ l f j = σ j := by
  simp [setLink, h]

lemma setSync_lastFlushId (m : ℕ) (f : LinkSync → LinkSync) (j : ℕ) :
    (setSync σ m f j).lastFlushId = (σ j).lastFlushId := by
  by_cases hj : j = m
  · simp [setSync, hj]
  · rw [setSync, setLink_of_ne hj]

lemma processSchedReq_lastFlushId (reqId syncMode bubbleEnable : ℤ) :
    (processSchedReq σ l reqId syncMode bubbleEnable l).lastFlushId = (σ l).lastFlushId := by
  have hown : (setLink σ l (fun k => enqueueReq k reqId syncMode bubbleEnable) l).lastFlushId =
      (σ l).lastFlushId := by simp [enqueueReq]
  unfold processSchedReq
  cases (setLink σ l (fun k => enqueueReq k reqId syncMode bubbleEnable) l).sync.syncLink with
  | none => exact hown
  | some m =>
    dsimp only
    split_ifs
    · exact hown
    · rw [setSync_lastFlushId, hown]

lemma scheduleRequest_lastFlushId (reqId syncMode bubbleEnable : ℤ) :
    ((scheduleRequest σ l reqId syncMode bubbleEnable).2 l).lastFlushId =
      if reqId ≤ (σ l).lastFlushId then (σ l).lastFlushId else 0 := by
  unfold scheduleRequest
  split_ifs
  · rfl
  · rw [processSchedReq_lastFlushId]
    simp

lemma run_lastFlushId {flushId : ℤ} {reqs : List SchedRequest}
    (hmark : (σ l).lastFlushId = flushId ∨ (σ l).lastFlushId = 0) :
    ((Transition.run (watermarkStep l) σ (reqs.map .schedule) l).lastFlushId : ℤ) =
      if ∃ req ∈ reqs, flushId < req.reqId then 0 else (σ l).lastFlushId := by
  induction reqs generalizing σ with
  | nil => simp
  | cons req reqs ih =>
    have hstep : (watermarkStep l σ (.schedule req) l).lastFlushId =
        if req.reqId ≤ (σ l).lastFlushId then (σ l).lastFlushId else 0 :=
      scheduleRequest_lastFlushId _ _ _
    have hnext : ((watermarkStep l σ (.schedule req) l).lastFlushId : ℤ) = flushId ∨
        (watermarkStep l σ (.schedule req) l).lastFlushId = 0 := by
      rw [hstep]
      split_ifs
      · exact hmark
      · exact Or.inr rfl
    rw [List.map_cons, Transition.run_cons, ih hnext, hstep]
    by_cases hnew : flushId < req.reqId
    · -- A newer request drops the watermark for good.
      have hzero : (if req.reqId ≤ (σ l).lastFlushId then (σ l).lastFlushId else 0) = 0 := by
        rcases hmark with hmark | hmark <;> split_ifs <;> omega
      rw [hzero]
      simp [hnew]
    · have hsame : (if req.reqId ≤ (σ l).lastFlushId then (σ l).lastFlushId else 0) =
          (σ l).lastFlushId := by
        rcases hmark with hmark | hmark <;> split_ifs <;> omega
      rw [hsame]
      simp [hnew]

/-- After a flush of everything up to `flushId`, a request that is not newer is refused, until
a newer one has been accepted. -/
theorem schedule_after_flush_iff (σ : Links) (l : ℕ) (flushId : ℤ) (hpos : 0 ≤ flushId)
    (hfit : flushId ≤ u32Max) (reqs : List SchedRequest) (req : SchedRequest)
    (hold : req.reqId ≤ flushId) :
    (scheduleRequest (Transition.run (watermarkStep l) σ (.flushAll flushId :: reqs.map .schedule)) l
        req.reqId req.syncMode req.bubbleEnable).1 = 0 ↔
      0 < req.reqId ∧ ∃ r ∈ reqs, flushId < r.reqId := by
  have hmark : ((watermarkStep l σ (.flushAll flushId) l).lastFlushId : ℤ) = flushId := by
    simp only [watermarkStep, setLink_self, flushAll]
    rw [Int.emod_eq_of_lt hpos (by omega), Int.toNat_of_nonneg hpos]
  have hrun := @run_lastFlushId _ l _ reqs (Or.inl hmark)
  rw [Transition.run_cons, scheduleRequest]
  by_cases hnew : ∃ r ∈ reqs, flushId < r.reqId
  · rw [if_pos hnew] at hrun
    rw [hrun]
    split_ifs with hle
    · simp only [Errno.EINVAL]
      omega
    · exact iff_of_true rfl ⟨by omega, hnew⟩
  · rw [if_neg hnew, hmark] at hrun
    rw [hrun, if_pos hold]
    simp [hnew, Errno.EINVAL]

def unpaired : LinkSync := ⟨none, false, false, true, false, -1, 0, 0⟩

theorem schedule_after_flush_refused :
    (scheduleRequest (Transition.run (watermarkStep 0) (fun _ => setupLinkInfo [] unpaired)
      [.flushAll 5, .schedule ⟨3, 0, 0⟩]) 0 4 0 0).1 ≠ 0 := by
  intro h
  obtain ⟨-, r, hr, hlt⟩ := (schedule_after_flush_iff (fun _ => setupLinkInfo [] unpaired) 0 5
    (by decide) (by rw [u32Max_eq]; decide) [⟨3, 0, 0⟩] ⟨4, 0, 0⟩ (by decide)).mp h
  simp_all

/-- Request 4 is flushed, and accepted all the same after request 6. -/
theorem flushedRequest_accepted :
    (scheduleRequest (Transition.run (watermarkStep 0) (fun _ => setupLinkInfo [] unpaired)
      [.flushAll 5, .schedule ⟨6, 0, 0⟩]) 0 4 0 0).1 = 0 := by
  decide +kernel

end CameraKernel.Crm
