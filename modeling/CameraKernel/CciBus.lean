import CameraKernel.Errno
import CameraKernel.Transition

/-! The frequency of one CCI master. Every read, burst read and write enters and leaves by the
same steps: under `mutex` it takes `master_sem` or a reference and sets the clock, and at its end
it gives one of the two back. What lies between is a transfer in progress. -/
namespace CameraKernel.CciBus

/-- `I2C_MAX_MODES`. -/
def maxModes : ℤ := 4

/-- Where a transfer that holds `mutex` stands: in `down`, before taking its reference, or before
`cam_cci_set_clk_param`. -/
inductive Stage
  | waiting
  | counting
  | selecting
  deriving DecidableEq, Repr

structure Entering where
  id : ℕ
  i2cFreqMode : ℤ
  stage : Stage
  deriving DecidableEq, Repr

/-- `running` are the transfers between their frequency selection and their release step;
`clashes` collects those that were running when another one changed the frequency. -/
structure Master where
  isFirstReq : Bool
  masterSem : ℕ
  freqRefCnt : ℕ
  i2cFreqMode : ℤ
  mutex : Option Entering
  running : List ℕ
  clashes : List ℕ
  deriving DecidableEq, Repr

/-- `cam_cci_init_cci_params` and `cam_cci_init`. -/
def init : Master := ⟨true, 1, 0, maxModes, none, [], []⟩

def enter (m : Master) (id : ℕ) (mode : ℤ) : Master :=
  if m.mutex.isSome then m
  else if m.isFirstReq then { m with isFirstReq := false, mutex := some ⟨id, mode, .waiting⟩ }
  else if mode ≠ m.i2cFreqMode then { m with mutex := some ⟨id, mode, .waiting⟩ }
  else { m with mutex := some ⟨id, mode, .counting⟩ }

/-- `down` goes on once the semaphore is free; the count has 16 bits. -/
def take (m : Master) : Master :=
  match m.mutex with
  | some ⟨id, mode, .waiting⟩ =>
    if 0 < m.masterSem then
      { m with masterSem := m.masterSem - 1, mutex := some ⟨id, mode, .selecting⟩ }
    else m
  | some ⟨id, mode, .counting⟩ =>
    { m with freqRefCnt := (m.freqRefCnt + 1) % 2 ^ 16, mutex := some ⟨id, mode, .selecting⟩ }
  | _ => m

/-- `cam_cci_set_clk_param` writes the clock registers. -/
def reprograms (m : Master) (mode : ℤ) : Bool :=
  0 ≤ mode && mode < maxModes && m.i2cFreqMode != mode

def setClkParam (m : Master) : Master :=
  match m.mutex with
  | some ⟨id, mode, .selecting⟩ =>
    { m with
      i2cFreqMode := if reprograms m mode then mode else m.i2cFreqMode
      mutex := none
      running := id :: m.running
      clashes := if reprograms m mode then m.clashes ++ m.running else m.clashes }
  | _ => m

def release (m : Master) (id : ℕ) : Master :=
  if id ∈ m.running then
    if m.freqRefCnt = 0 then
      { m with masterSem := m.masterSem + 1, running := m.running.erase id }
    else { m with freqRefCnt := m.freqRefCnt - 1, running := m.running.erase id }
  else m

inductive Op
  | enter (id : ℕ) (mode : ℤ)
  | take
  | setClkParam
  | release (id : ℕ)
  deriving DecidableEq, Repr

def step (m : Master) : Op → Master
  | .enter id mode => enter m id mode
  | .take => take m
  | .setClkParam => setClkParam m
  | .release id => release m id

structure Exclusive (m : Master) : Prop where
  clashes : m.clashes = []
  masterSem : m.masterSem ≤ 1

/-- What a step may not meet: a change of frequency with references out, or a reference that no
longer fits the count. -/
def busSafe (m : Master) : Op → Bool
  | .take => match m.mutex with
    | some ⟨_, _, .counting⟩ => m.freqRefCnt + 1 < 2 ^ 16
    | _ => true
  | .setClkParam => match m.mutex with
    | some ⟨_, mode, .selecting⟩ => !reprograms m mode || m.freqRefCnt = 0
    | _ => true
  | _ => true

/-- Transfers that have taken the semaphore or a reference. -/
def entered (m : Master) : ℕ :=
  match m.mutex with
  | some ⟨_, _, .selecting⟩ => m.running.length + 1
  | _ => m.running.length

/-- Each of them accounts for one reference, or for the semaphore. -/
structure Inv (m : Master) : Prop where
  account : entered m + m.masterSem = m.freqRefCnt + 1
  masterSem : m.masterSem ≤ 1
  clashes : m.clashes = []

lemma inv_init : Inv init := ⟨rfl, le_refl 1, rfl⟩

lemma enter_inv {m : Master} (h : Inv m) (id : ℕ) (mode : ℤ) : Inv (enter m id mode) := by
  unfold enter
  split
  · exact h
  · next hfree =>
    have hnone : m.mutex = none := by simpa using hfree
    have hacc : m.running.length + m.masterSem = m.freqRefCnt + 1 := by
      have := h.account
      rwa [entered, hnone] at this
    split_ifs <;> exact ⟨hacc, h.masterSem, h.clashes⟩

lemma take_inv {m : Master} (h : Inv m) (hsafe : busSafe m .take = true) : Inv (take m) := by
  have hacc := h.account
  have hsem := h.masterSem
  unfold take
  split
  · next id mode hm =>
    rw [entered, hm] at hacc
    split
    · refine ⟨?_, ?_, h.clashes⟩
      · simp only [entered] at hacc ⊢
        omega
      · simp only
        omega
    · exact h
  · next id mode hm =>
    rw [entered, hm] at hacc
    have hfits : m.freqRefCnt + 1 < 2 ^ 16 := by simpa [busSafe, hm] using hsafe
    refine ⟨?_, hsem, h.clashes⟩
    simp only [entered] at hacc ⊢
    omega
  · exact h

lemma Inv.alone {m : Master} (h : Inv m) {id : ℕ} {mode : ℤ} (hm : m.mutex = some ⟨id, mode, .selecting⟩)
    (hcount : m.freqRefCnt = 0) : m.running = [] := by
  have hacc := h.account
  rw [entered, hm] at hacc
  simp only at hacc
  have hlen : m.running.length = 0 := by omega
  exact List.length_eq_zero_iff.mp hlen

lemma setClkParam_inv {m : Master} (h : Inv m) (hsafe : busSafe m .setClkParam = true) :
    Inv (setClkParam m) := by
  have hacc := h.account
  unfold setClkParam
  split
  · next id mode hm =>
    rw [entered, hm] at hacc
    refine ⟨?_, h.masterSem, ?_⟩
    · simpa [entered] using hacc
    · simp only
      split
      · next hchange =>
        have hcount : m.freqRefCnt = 0 := by simpa [busSafe, hm, hchange] using hsafe
        rw [h.clashes, h.alone hm hcount]
        rfl
      · exact h.clashes
  · exact h

lemma release_inv {m : Master} (h : Inv m) (id : ℕ) : Inv (release m id) := by
  have hacc := h.account
  have hsem := h.masterSem
  unfold release
  split
  · next hid =>
    have hlen : (m.running.erase id).length + 1 = m.running.length := by
      have := List.length_erase_of_mem hid
      have := List.length_pos_of_mem hid
      omega
    have herase : ∀ sem cnt, entered { m with masterSem := sem, freqRefCnt := cnt, running := m.running.erase id } + 1 =
        entered m := by
      intro sem cnt
      unfold entered
      simp only
      split <;> omega
    split
    · next hcount =>
      have := herase (m.masterSem + 1) m.freqRefCnt
      refine ⟨?_, ?_, h.clashes⟩
      · simp only
        omega
      · simp only
        omega
    · next hcount =>
      have := herase m.masterSem (m.freqRefCnt - 1)
      refine ⟨?_, hsem, h.clashes⟩
      simp only
      omega
  · exact h

lemma step_inv {m : Master} (h : Inv m) (op : Op) (hsafe : busSafe m op = true) : Inv (step m op) := by
  cases op with
  | enter id mode => exact enter_inv h id mode
  | take => exact take_inv h hsafe
  | setClkParam => exact setClkParam_inv h hsafe
  | release id => exact release_inv h id

/-- No transfer is running when the frequency changes, along every run that meets `busSafe`. -/
theorem run_exclusive (ops : List Op)
    (hsafe : Transition.Guarded step (fun m op => busSafe m op = true) init ops) :
    Exclusive (Transition.run step init ops) := by
  have h := Transition.run_invariant (fun m op (h : Inv m) hop => step_inv h op hop) inv_init hsafe
  exact ⟨h.clashes, h.masterSem⟩

theorem sharedThenChanged_exclusive :
    Exclusive (Transition.run step init
      [.enter 1 0, .take, .setClkParam, .enter 2 0, .take, .setClkParam, .enter 3 1, .release 1, .take,
        .release 2, .take, .setClkParam, .release 3]) :=
  run_exclusive _ (by decide +kernel)

/-- On an idle bus the second transfer takes only a reference, and the third gets the semaphore. -/
theorem idleThenChanged_clash :
    ¬ Exclusive (Transition.run step init
      [.enter 1 0, .take, .setClkParam, .release 1, .enter 2 0, .take, .setClkParam, .enter 3 1, .take,
        .setClkParam]) := by
  intro h
  exact absurd h.clashes (by decide +kernel)

end CameraKernel.CciBus
