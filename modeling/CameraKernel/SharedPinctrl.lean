import CameraKernel.Errno

/-! The pins shared between sensors: suspended and released by their last user. The driver
counts the devices of all shared GPIOs together. -/
namespace CameraKernel.SharedPinctrl

inductive PinctrlStatus
  | got
  | active
  | suspend
  | put
  deriving DecidableEq, Repr

structure GpioRes where
  gpio : ℕ
  devList : List ℕ
  deriving DecidableEq, Repr

inductive PinctrlCall
  | selectActive
  | selectSuspend
  | put
  deriving DecidableEq, Repr

structure State where
  sharedGpio : List ℕ
  sharedGpioEnabled : Bool
  pstatus : PinctrlStatus
  sharedClkRefCount : ℕ
  gpioResList : List GpioRes
  calls : List PinctrlCall
  deriving DecidableEq, Repr

/-- One pass over the live list for one GPIO of the table; the pass ends where the number
reaches two. -/
def countDevs (gpio : ℕ) : List GpioRes → ℕ × Bool → ℕ × Bool
  | [], r => r
  | res :: rest, (devNum, hold) =>
    if res.gpio = gpio then
      if 2 ≤ devNum + res.devList.length then (devNum + res.devList.length, true)
      else countDevs gpio rest (devNum + res.devList.length, hold)
    else countDevs gpio rest (devNum, hold)

def sharedPinctrlCheckHold (s : State) : Bool :=
  -- The number is not reset from one GPIO of the table to the next.
  let r := s.sharedGpio.foldl (fun r gpio => countDevs gpio s.gpioResList r) (0, false)
  if 1 < s.sharedClkRefCount then true else r.2

def sharedPinctrlPut (s : State) : State :=
  if !s.sharedGpioEnabled then s
  else if s.pstatus = .put then s
  else if sharedPinctrlCheckHold s then s
  else { s with pstatus := .put, calls := s.calls ++ [PinctrlCall.put] }

/-- `rc` is what the kernel answers to the selection. -/
def sharedPinctrlSelectState (s : State) (active : Bool) (rc : ℤ) : ℤ × State :=
  if !s.sharedGpioEnabled then (0, s)
  else if s.pstatus = .put then (0, s)
  else if active && s.pstatus ≠ .active then
    (rc, { s with pstatus := .active, calls := s.calls ++ [PinctrlCall.selectActive] })
  else if !active && !sharedPinctrlCheckHold s then
    (rc, { s with pstatus := .suspend, calls := s.calls ++ [PinctrlCall.selectSuspend] })
  else (0, s)

def devsOf (l : List GpioRes) (gpio : ℕ) : ℕ :=
  ((l.filter (·.gpio = gpio)).map (·.devList.length)).sum

/-- The devices of all shared GPIOs, each as often as it is on a list. -/
def sharedDevs (s : State) : ℕ := (s.sharedGpio.map (devsOf s.gpioResList)).sum

/-- The number is exact while it is below two, and the flag says whether it is. -/
structure Counts (r : ℕ × Bool) (devs : ℕ) : Prop where
  exact : r.1 < 2 → r.1 = devs
  two : 2 ≤ r.1 → 2 ≤ devs
  hold : r.2 = true ↔ 2 ≤ r.1

lemma Counts.more {r : ℕ × Bool} {devs : ℕ} (h : Counts r devs) (h2 : 2 ≤ r.1) (n : ℕ) :
    Counts r (devs + n) := by
  refine ⟨fun hlt => absurd h2 (by omega), fun _ => ?_, h.hold⟩
  have := h.two h2
  omega

lemma countDevs_counts (gpio : ℕ) (l : List GpioRes) {r : ℕ × Bool} {devs : ℕ} (h : Counts r devs) :
    Counts (countDevs gpio l r) (devs + devsOf l gpio) := by
  induction l generalizing r devs with
  | nil => simpa [countDevs, devsOf] using h
  | cons res rest ih =>
    obtain ⟨devNum, hold⟩ := r
    by_cases hg : res.gpio = gpio
    · have hdevs : devsOf (res :: rest) gpio = res.devList.length + devsOf rest gpio := by
        simp [devsOf, hg]
      have hexact := h.exact
      have htwo := h.two
      have hhold := h.hold
      simp only at hexact htwo hhold
      rw [countDevs, if_pos hg, hdevs, ← add_assoc]
      by_cases h2 : 2 ≤ devNum + res.devList.length
      · rw [if_pos h2]
        have hnow : Counts (devNum + res.devList.length, true) (devs + res.devList.length) :=
          ⟨fun hlt => by simp only at hlt; omega, fun _ => by omega, by simpa using h2⟩
        exact hnow.more h2 _
      · rw [if_neg h2]
        refine ih ⟨fun _ => ?_, fun hle => absurd hle h2, ?_⟩
        · simp only
          omega
        · simp only
          rw [hhold]
          omega
    · have hdevs : devsOf (res :: rest) gpio = devsOf rest gpio := by simp [devsOf, hg]
      rw [countDevs, if_neg hg, hdevs]
      exact ih h

lemma foldl_counts (gpios : List ℕ) (l : List GpioRes) {r : ℕ × Bool} {devs : ℕ} (h : Counts r devs) :
    Counts (gpios.foldl (fun r gpio => countDevs gpio l r) r)
      (devs + (gpios.map (devsOf l)).sum) := by
  induction gpios generalizing r devs with
  | nil => simpa using h
  | cons gpio gpios ih =>
    rw [List.foldl_cons, List.map_cons, List.sum_cons, ← add_assoc]
    exact ih (countDevs_counts gpio l h)

lemma checkHold_iff (s : State) :
    sharedPinctrlCheckHold s = true ↔ 2 ≤ sharedDevs s ∨ 1 < s.sharedClkRefCount := by
  have hstart : Counts (0, false) 0 := ⟨fun _ => rfl, fun h => absurd h (by simp), by simp⟩
  have h := foldl_counts s.sharedGpio s.gpioResList hstart
  rw [zero_add] at h
  rw [sharedPinctrlCheckHold, sharedDevs]
  by_cases hclk : 1 < s.sharedClkRefCount
  · simp [hclk]
  · simp only [hclk, if_false, or_false, h.hold]
    constructor
    · exact h.two
    · intro h2
      by_contra hlt
      have := h.exact (by omega)
      omega

def sharedInUse (s : State) : Prop :=
  (∃ gpio ∈ s.sharedGpio, ∃ res ∈ s.gpioResList, res.gpio = gpio ∧ 2 ≤ res.devList.length) ∨
    1 < s.sharedClkRefCount

instance (s : State) : Decidable (sharedInUse s) := by
  unfold sharedInUse
  infer_instance

lemma le_sharedDevs {s : State} {gpio : ℕ} {res : GpioRes} (hgpio : gpio ∈ s.sharedGpio)
    (hres : res ∈ s.gpioResList) (hg : res.gpio = gpio) : res.devList.length ≤ sharedDevs s := by
  have hone : res.devList.length ≤ devsOf s.gpioResList gpio :=
    List.single_le_sum (by simp) _
      (List.mem_map.2 ⟨res, List.mem_filter.2 ⟨hres, by simpa using hg⟩, rfl⟩)
  exact hone.trans (List.single_le_sum (by simp) _ (List.mem_map.2 ⟨gpio, hgpio, rfl⟩))

lemma sharedInUse.checkHold {s : State} (h : sharedInUse s) : sharedPinctrlCheckHold s = true := by
  rw [checkHold_iff]
  rcases h with ⟨gpio, hgpio, res, hres, hg, h2⟩ | hclk
  · exact .inl (h2.trans (le_sharedDevs hgpio hres hg))
  · exact .inr hclk

/-- The last user suspends the pins, and releases them. -/
structure HeldWhenShared (s : State) : Prop where
  hold : sharedPinctrlCheckHold s = true ↔ sharedInUse s
  suspended : ∀ rc, s.sharedGpioEnabled = true → s.pstatus ≠ .put → ¬ sharedInUse s →
    sharedPinctrlSelectState s false rc =
      (rc, { s with pstatus := .suspend, calls := s.calls ++ [PinctrlCall.selectSuspend] })
  released : s.sharedGpioEnabled = true → s.pstatus ≠ .put → ¬ sharedInUse s →
    sharedPinctrlPut s = { s with pstatus := .put, calls := s.calls ++ [PinctrlCall.put] }

lemma HeldWhenShared.of_hold {s : State} (h : sharedPinctrlCheckHold s = true ↔ sharedInUse s) :
    HeldWhenShared s := by
  refine ⟨h, fun rc hen hput huse => ?_, fun hen hput huse => ?_⟩
  all_goals
    have hhold : sharedPinctrlCheckHold s = false := by
      rw [← Bool.not_eq_true, h]
      exact huse
  · simp [sharedPinctrlSelectState, hen, hput, hhold]
  · simp [sharedPinctrlPut, hen, hput, hhold]

theorem heldWhenShared_iff (s : State) : HeldWhenShared s ↔ sharedInUse s ∨ sharedDevs s ≤ 1 := by
  constructor
  · intro h
    by_cases huse : sharedInUse s
    · exact .inl huse
    · right
      by_contra hlt
      exact huse (h.hold.1 ((checkHold_iff s).2 (.inl (by omega))))
  · intro h
    refine .of_hold ⟨fun hhold => ?_, sharedInUse.checkHold⟩
    rcases h with huse | hdevs
    · exact huse
    · rcases (checkHold_iff s).1 hhold with h2 | hclk
      · omega
      · exact .inr hclk

/-- Two shared GPIOs, both used by one device alone. -/
def twoGpios : State :=
  { sharedGpio := [10, 11], sharedGpioEnabled := true, pstatus := .active, sharedClkRefCount := 0,
    gpioResList := [⟨10, [1]⟩, ⟨11, [1]⟩], calls := [.selectActive] }

theorem twoGpios_held : ¬ HeldWhenShared twoGpios := by
  intro h
  exact absurd (h.hold.1 (by decide)) (by decide)

end CameraKernel.SharedPinctrl
