import CameraKernel.Hfi
import CameraKernel.Transition

/-! Starting and stopping the firmware interface: `cam_hfi_init` and `cam_hfi_deinit` with the two
queue mutexes and what the firmware answers while it is polled. -/
namespace CameraKernel.HfiStart
open Hfi

/-- The values of the init response register. -/
abbrev Status := BitVec 32

def icpInitRespReset : Status := 0
def icpInitRespSuccess : Status := 1
def icpInitRespFailed : Status := 2

def hfiMaxPollTry : ℕ := 5

/-- `g_hfi` and whether each mutex is held. -/
structure HfiState where
  gHfi : Option HfiInfo
  hfiCmdQMutex : Bool
  hfiMsgQMutex : Bool

/-- What an init call gets: whether there is memory, what the buffers hold, and the value of the
response register at each read. -/
structure InitEnv where
  kzalloc : Bool
  mem : QId → ℕ → Word
  response : ℕ → Status

inductive Call
  | init (env : InitEnv)
  | deinit

/-- How a call ends: it returns a code, or waits forever for a mutex. -/
inductive Outcome
  | returned (rc : ℤ)
  | stuck
  deriving DecidableEq, Repr

/-- The polling loop, with the tries left, `retry_cnt` and the last status: whether it ends well. -/
def pollInit (response : ℕ → Status) : ℕ → ℕ → Status → Bool
  | 0, _, status => status ≠ icpInitRespReset
  | left + 1, retryCnt, _ =>
    let status := response retryCnt
    if status = icpInitRespSuccess then true
    else if status = icpInitRespFailed then false
    else pollInit response left (retryCnt + 1) status

/-- A zeroed `hfi_info`. -/
def zeroedInfo : HfiInfo := ⟨.deinit, false, false, fun _ => ⟨0, 0, 0, fun _ => 0⟩⟩

/-- `cam_hfi_init`. The state check returns without giving the mutexes back, and a firmware failure
leaves `rc` at zero. -/
def camHfiInitCall (env : InitEnv) (s : HfiState) : Outcome × HfiState :=
  if s.hfiCmdQMutex || s.hfiMsgQMutex then (.stuck, s)
  else
    let locked (hfi : Option HfiInfo) : HfiState := ⟨hfi, true, true⟩
    let unlocked (hfi : Option HfiInfo) : HfiState := ⟨hfi, false, false⟩
    match if s.gHfi.isNone && env.kzalloc then some zeroedInfo else s.gHfi with
    | none => (.returned (-Errno.ENOMEM), unlocked none)
    | some hfi =>
      if hfi.hfiState ≠ .deinit then (.returned (-Errno.EINVAL), locked (some hfi))
      else if pollInit env.response hfiMaxPollTry 0 0 then
        (.returned 0, unlocked (some (camHfiInit env.mem)))
      else (.returned 0, unlocked none)

/-- `cam_hfi_deinit`; its code is not an answer. -/
def camHfiDeinit (s : HfiState) : Outcome × HfiState :=
  if s.hfiCmdQMutex || s.hfiMsgQMutex then (.stuck, s)
  else (.returned 0, ⟨none, false, false⟩)

def call (s : HfiState) : Call → Outcome × HfiState
  | .init env => camHfiInitCall env s
  | .deinit => camHfiDeinit s

def step (s : HfiState) (c : Call) : HfiState := (call s c).2

def start : HfiState := ⟨none, false, false⟩

def HfiState.released (s : HfiState) : Prop := s.hfiCmdQMutex = false ∧ s.hfiMsgQMutex = false

/-- The interface is up, with both queues. -/
def HfiState.ready (s : HfiState) : Prop :=
  ∃ hfi, s.gHfi = some hfi ∧ hfi.hfiState = .ready ∧ hfi.cmdQState = true ∧ hfi.msgQState = true

/-- A call that returns has released the mutexes, and an init call returns 0 exactly when the
interface is up. -/
def Truthful (s : HfiState) (c : Call) : Prop :=
  ∀ rc, (call s c).1 = .returned rc → (step s c).released ∧
    match c with
    | .init _ => rc = 0 ↔ (step s c).ready
    | .deinit => True

/-- Within the tries the firmware reports success before any failure, or neither, with something
other than reset in the register at the end. -/
def Responds (response : ℕ → Status) : Prop :=
  (∃ n < hfiMaxPollTry, response n = icpInitRespSuccess ∧ ∀ i < n, response i ≠ icpInitRespFailed) ∨
    (∀ n < hfiMaxPollTry, response n ≠ icpInitRespFailed) ∧
      response (hfiMaxPollTry - 1) ≠ icpInitRespReset

/-- The interface is down when it is brought up, and then the firmware responds. -/
def Orderly (s : HfiState) : Call → Prop
  | .init env => s.gHfi = none ∧ (env.kzalloc = true → Responds env.response)
  | .deinit => True

/-- `Responds` for a loop that has `left` tries from read `k` on. -/
def RespondsFrom (response : ℕ → Status) (left k : ℕ) (status : Status) : Prop :=
  (∃ n < left, response (k + n) = icpInitRespSuccess ∧
      ∀ i < n, response (k + i) ≠ icpInitRespFailed) ∨
    (∀ n < left, response (k + n) ≠ icpInitRespFailed) ∧
      (if left = 0 then status else response (k + left - 1)) ≠ icpInitRespReset

lemma respondsFrom_success {response : ℕ → Status} {k : ℕ} (h : response k = icpInitRespSuccess)
    (left : ℕ) (status : Status) : RespondsFrom response (left + 1) k status :=
  .inl ⟨0, Nat.succ_pos left, h, fun i hi => absurd hi (Nat.not_lt_zero i)⟩

lemma not_respondsFrom_failed {response : ℕ → Status} {k : ℕ} (h : response k = icpInitRespFailed)
    (left : ℕ) (status : Status) : ¬ RespondsFrom response (left + 1) k status := by
  rintro (⟨n, -, hsuccess, hbefore⟩ | ⟨hnone, -⟩)
  · cases n with
    | zero => rw [Nat.add_zero, h] at hsuccess; revert hsuccess; decide
    | succ n => exact hbefore 0 (Nat.succ_pos n) h
  · exact hnone 0 (Nat.succ_pos left) h

lemma respondsFrom_succ {response : ℕ → Status} {k : ℕ} (hsuccess : response k ≠ icpInitRespSuccess)
    (hfailed : response k ≠ icpInitRespFailed) (left : ℕ) (status : Status) :
    RespondsFrom response (left + 1) k status ↔ RespondsFrom response left (k + 1) (response k) := by
  have hshift : ∀ n, k + 1 + n = k + (n + 1) := fun n => by omega
  have hlast : (if left = 0 then response k else response (k + 1 + left - 1)) =
      response (k + (left + 1) - 1) := by
    split_ifs with hzero
    · rw [hzero]
      rfl
    · congr 1
      omega
  unfold RespondsFrom
  rw [hlast, if_neg (Nat.succ_ne_zero left)]
  refine or_congr ?_ (and_congr_left fun _ => ?_)
  · constructor
    · rintro ⟨n, hn, hat, hbefore⟩
      cases n with
      | zero => exact absurd hat hsuccess
      | succ n =>
        refine ⟨n, by omega, by rwa [hshift], fun i hi => ?_⟩
        rw [hshift]
        exact hbefore (i + 1) (by omega)
    · rintro ⟨n, hn, hat, hbefore⟩
      refine ⟨n + 1, by omega, by rwa [← hshift], fun i hi => ?_⟩
      cases i with
      | zero => exact hfailed
      | succ i =>
        rw [← hshift]
        exact hbefore i (by omega)
  · constructor
    · intro hnone n hn
      rw [hshift]
      exact hnone (n + 1) (by omega)
    · intro hnone n hn
      cases n with
      | zero => exact hfailed
      | succ n =>
        rw [← hshift]
        exact hnone n (by omega)

lemma pollInit_iff (response : ℕ → Status) (left k : ℕ) (status : Status) :
    pollInit response left k status = true ↔ RespondsFrom response left k status := by
  induction left generalizing k status with
  | zero => simp [pollInit, RespondsFrom]
  | succ left ih =>
    by_cases hsuccess : response k = icpInitRespSuccess
    · simp only [pollInit, if_pos hsuccess, respondsFrom_success hsuccess]
    · by_cases hfailed : response k = icpInitRespFailed
      · simp only [pollInit, if_neg hsuccess, if_pos hfailed, Bool.false_eq_true, false_iff]
        exact not_respondsFrom_failed hfailed left status
      · simp only [pollInit, if_neg hsuccess, if_neg hfailed]
        rw [ih, respondsFrom_succ hsuccess hfailed]

lemma pollInit_iff_responds (response : ℕ → Status) :
    pollInit response hfiMaxPollTry 0 0 = true ↔ Responds response := by
  rw [pollInit_iff, RespondsFrom, Responds]
  simp only [Nat.zero_add, hfiMaxPollTry, OfNat.ofNat_ne_zero, if_false]

/-- Between calls that met the condition the mutexes are free, and the interface is down or up. -/
structure Inv (s : HfiState) : Prop where
  released : s.released
  up : s.gHfi ≠ none → s.ready

lemma inv_start : Inv start := ⟨⟨rfl, rfl⟩, fun h => absurd rfl h⟩

lemma ready_camHfiInit (mem : QId → ℕ → Word) : (⟨some (camHfiInit mem), false, false⟩ : HfiState).ready :=
  ⟨_, rfl, rfl, rfl, rfl⟩

lemma not_ready_none (cmd msg : Bool) : ¬ (⟨none, cmd, msg⟩ : HfiState).ready := by
  rintro ⟨hfi, hnone, -⟩
  cases hnone

lemma camHfiInitCall_down {s : HfiState} (h : s.released) (hdown : s.gHfi = none) (env : InitEnv) :
    camHfiInitCall env s =
      if !env.kzalloc then (.returned (-Errno.ENOMEM), ⟨none, false, false⟩)
      else if pollInit env.response hfiMaxPollTry 0 0 then
        (.returned 0, ⟨some (camHfiInit env.mem), false, false⟩)
      else (.returned 0, ⟨none, false, false⟩) := by
  obtain ⟨hcmd, hmsg⟩ := h
  cases hmem : env.kzalloc with
  | false => simp [camHfiInitCall, hcmd, hmsg, hdown, hmem]
  | true => simp [camHfiInitCall, hcmd, hmsg, hdown, hmem, zeroedInfo]

lemma camHfiInitCall_up {s : HfiState} (h : s.released) (hup : s.ready) (env : InitEnv) :
    camHfiInitCall env s = (.returned (-Errno.EINVAL), ⟨s.gHfi, true, true⟩) := by
  obtain ⟨hcmd, hmsg⟩ := h
  obtain ⟨hfi, hsome, hready, -⟩ := hup
  simp [camHfiInitCall, hcmd, hmsg, hsome, hready]

lemma camHfiDeinit_eq {s : HfiState} (h : s.released) :
    camHfiDeinit s = (.returned 0, ⟨none, false, false⟩) := by
  simp [camHfiDeinit, h.1, h.2]

lemma Inv.truthful_init_iff {s : HfiState} (h : Inv s) (env : InitEnv) :
    Truthful s (.init env) ↔ Orderly s (.init env) := by
  by_cases hdown : s.gHfi = none
  · have hcall := camHfiInitCall_down h.released hdown env
    rw [Orderly, Truthful, step, call, hcall, ← pollInit_iff_responds]
    cases hmem : env.kzalloc with
    | false =>
      simp [HfiState.released, not_ready_none, hdown, Errno.ENOMEM]
    | true =>
      cases hpoll : pollInit env.response hfiMaxPollTry 0 0 with
      | true => simp [HfiState.released, ready_camHfiInit, hdown]
      | false => simp [HfiState.released, not_ready_none, hdown]
  · refine iff_of_false (fun htruth => ?_) (fun horderly => hdown horderly.1)
    have hcall := camHfiInitCall_up h.released (h.up hdown) env
    have hreleased := (htruth (-Errno.EINVAL) (by rw [call, hcall])).1
    rw [step, call, hcall] at hreleased
    cases hreleased.1

lemma Inv.truthful_deinit {s : HfiState} (h : Inv s) : Truthful s .deinit := by
  intro rc _
  rw [step, call, camHfiDeinit_eq h.released]
  exact ⟨⟨rfl, rfl⟩, trivial⟩

lemma Inv.truthful_iff {s : HfiState} (h : Inv s) (c : Call) : Truthful s c ↔ Orderly s c := by
  cases c with
  | init env => exact h.truthful_init_iff env
  | deinit => exact iff_of_true h.truthful_deinit trivial

lemma Inv.step {s : HfiState} (h : Inv s) (c : Call) (hc : Orderly s c) : Inv (step s c) := by
  cases c with
  | init env =>
    rw [HfiStart.step, call, camHfiInitCall_down h.released hc.1]
    split_ifs
    · exact inv_start
    · exact ⟨⟨rfl, rfl⟩, fun _ => ready_camHfiInit env.mem⟩
    · exact inv_start
  | deinit =>
    rw [HfiStart.step, call, camHfiDeinit_eq h.released]
    exact inv_start

/-- The calls of a run report truthfully and release the mutexes exactly when the interface is
brought up only while it is down, by a firmware that responds. -/
theorem run_truthful_iff (calls : List Call) :
    Transition.Guarded step Truthful start calls ↔ Transition.Guarded step Orderly start calls :=
  Transition.guarded_iff (fun _ c h => h.truthful_iff c) (fun _ c h hc => h.step c hc) inv_start

/-- The firmware reports a failure, and the call returns 0 with the interface down. -/
theorem not_run_truthful : ¬ ∀ calls, Transition.Guarded step Truthful start calls := by
  intro hall
  have htruth := (hall [.init ⟨true, fun _ _ => 0, fun _ => icpInitRespFailed⟩]).1
  obtain ⟨-, hready⟩ := htruth 0 (by decide)
  exact not_ready_none _ _ (hready.mp rfl)

end CameraKernel.HfiStart
