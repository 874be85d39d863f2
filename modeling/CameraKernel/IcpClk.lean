import Mathlib

/-! The clock of the ICP's devices. A request brings the base clock of its context; the clock of the
device is chosen among the levels of a table, from the sum of the base clocks. -/
namespace CameraKernel.IcpClk

abbrev CAM_MAX_VOTE : ℕ := 8
abbrev CAM_ICP_CTX_MAX : ℕ := 54
def ICP_CLK_TURBO_HZ : UInt64 := 600000000
def ICP_CLK_SVS_HZ : UInt64 := 400000000

inductive HwType
  | ipe | bps
  deriving DecidableEq, Repr

/-- The rates of a device, from the lowest to the highest level. -/
structure ClkTable where
  clkRate : Fin CAM_MAX_VOTE → UInt32
  mono : ∀ i j, i ≤ j → clkRate i ≤ clkRate j

/-- `struct cam_ctx_clk_info`; the rates are in the context. -/
structure CtxClkInfo where
  currFc : UInt32
  rtFlag : UInt32
  baseClk : UInt32
  uncompressedBw : UInt64
  compressedBw : UInt64
  compressedBwAb : UInt64
  deriving DecidableEq, Repr

structure Ctx where
  acquired : Bool
  hwType : HwType
  clkInfo : CtxClkInfo
  table : ClkTable
  watchDog : Bool
  watchDogResetCounter : UInt32

/-- `struct cam_icp_clk_info`. -/
structure ClkInfo where
  baseClk : UInt32
  currClk : UInt32
  threshold : UInt32
  overClked : UInt32
  uncompressedBw : UInt64
  compressedBw : UInt64
  compressedBwAb : UInt64
  deriving DecidableEq, Repr

structure HwMgr where
  ctxData : Fin CAM_ICP_CTX_MAX → Ctx
  clkInfo : HwType → ClkInfo
  ctxtCnt : UInt32
  icpDebugClk : UInt64
  icpDefaultClk : UInt64

/-- `struct cam_icp_clk_bw_request`. -/
structure ClkBwRequest where
  budgetNs : UInt64
  frameCycles : UInt32
  rtFlag : UInt32
  uncompressedBw : UInt64
  compressedBw : UInt64
  deriving DecidableEq, Repr

namespace ClkTable
variable (t : ClkTable)

/-- A read of the array. -/
def rateAt (i : ℕ) : Option UInt32 := if h : i < CAM_MAX_VOTE then some (t.clkRate ⟨i, h⟩) else none

/-- `cam_icp_get_actual_clk_rate_idx`: `CAM_MAX_VOTE` when no level is high enough. -/
def actualClkRateIdx (baseClk : UInt32) : ℕ :=
  (List.finRange CAM_MAX_VOTE).findIdx fun i => t.clkRate i ≥ baseClk

def lowerClkRate (baseClk : UInt32) : Option UInt32 :=
  if t.actualClkRateIdx baseClk > 0 then t.rateAt (t.actualClkRateIdx baseClk - 1) else some baseClk

def nextClkRate (baseClk : UInt32) : Option UInt32 :=
  if t.actualClkRateIdx baseClk < CAM_MAX_VOTE - 1 then t.rateAt (t.actualClkRateIdx baseClk + 1)
  else some baseClk

def actualClkRate (baseClk : UInt32) : UInt32 :=
  (t.rateAt (t.actualClkRateIdx baseClk)).getD baseClk

def isOverClk (clk : ClkInfo) : Bool :=
  t.actualClkRateIdx clk.currClk > t.actualClkRateIdx clk.baseClk

def highest : UInt32 := t.clkRate (Fin.last 7)

/-- The level behind that of a clock, or the clock itself when there is none. -/
def levelAfter (clk : UInt32) : UInt32 := (t.nextClkRate clk).getD clk

end ClkTable

namespace HwMgr
variable (mgr : HwMgr)

def acquiredOf (hwType : HwType) : Finset (Fin CAM_ICP_CTX_MAX) :=
  Finset.univ.filter fun i => (mgr.ctxData i).acquired ∧ (mgr.ctxData i).hwType = hwType

/-- `cam_icp_calc_total_clk`. -/
def calcTotalClk (hwType : HwType) : UInt32 :=
  ∑ i ∈ mgr.acquiredOf hwType, (mgr.ctxData i).clkInfo.baseClk

def setCtx (i : Fin CAM_ICP_CTX_MAX) (ctx : Ctx) : HwMgr :=
  { mgr with ctxData := Function.update mgr.ctxData i ctx }

def setClkInfo (hwType : HwType) (clk : ClkInfo) : HwMgr :=
  { mgr with clkInfo := Function.update mgr.clkInfo hwType clk }

def setCtxClk (i : Fin CAM_ICP_CTX_MAX) (clkInfo : CtxClkInfo) : HwMgr :=
  mgr.setCtx i { mgr.ctxData i with clkInfo }

def ctxTimerReset (i : Fin CAM_ICP_CTX_MAX) : HwMgr :=
  if (mgr.ctxData i).watchDog then
    mgr.setCtx i { mgr.ctxData i with
      watchDogResetCounter := (mgr.ctxData i).watchDogResetCounter + 1 }
  else mgr

end HwMgr

/-- `cam_icp_mgr_calc_base_clk`; a budget of zero has no result. -/
def calcBaseClk (frameCycles : UInt32) (budget : UInt64) : Option UInt32 :=
  if budget = 0 then none
  else some (frameCycles.toUInt64 * 1000000000 / budget).toUInt32

/-- The frames of the context with a request id, those in the firmware counted. -/
def busyPrevReqs (frames : List (UInt64 × Bool)) : Bool :=
  frames.countP (fun f => f.1 ≠ 0 && f.2) > 1

namespace HwMgr
variable (mgr : HwMgr) (i : Fin CAM_ICP_CTX_MAX) (req : ClkBwRequest) (baseClk : UInt32)

/-- The request's frame cycles and base clock, in the context. -/
def withBaseClk : HwMgr :=
  mgr.setCtxClk i { (mgr.ctxData i).clkInfo with
    currFc := req.frameCycles, baseClk, rtFlag := req.rtFlag }

def updateClkBusy : Option (Bool × HwMgr) :=
  let ctx := mgr.ctxData i
  let mgr := mgr.withBaseClk i req baseClk
  let clk : ClkInfo := { mgr.clkInfo ctx.hwType with overClked := 0 }
  if req.frameCycles > ctx.clkInfo.currFc then
    let clk : ClkInfo := { clk with baseClk := mgr.calcTotalClk ctx.hwType }
    if clk.baseClk > ctx.table.actualClkRate baseClk then
      some (true, mgr.setClkInfo ctx.hwType { clk with currClk := clk.baseClk })
    else
      (ctx.table.nextClkRate clk.currClk).map fun next =>
        (true, mgr.setClkInfo ctx.hwType { clk with currClk := next })
  else
    (ctx.table.nextClkRate clk.currClk).map fun next =>
      if clk.currClk < next then (true, mgr.setClkInfo ctx.hwType { clk with currClk := next })
      else (false, mgr.setClkInfo ctx.hwType clk)

/-- One level down, unless that is below the sum. -/
def updateClkOverclkFree (t : ClkTable) (clk : ClkInfo) : Option (Bool × ClkInfo) :=
  if clk.overClked < clk.threshold then some (false, { clk with overClked := clk.overClked + 1 })
  else do
    let lower ← t.lowerClkRate clk.currClk
    let clk : ClkInfo := { clk with currClk := lower }
    if clk.currClk > clk.baseClk then
      if t.isOverClk clk then return (true, { clk with overClked := 0 }) else return (true, clk)
    else if clk.currClk < clk.baseClk then
      let next ← t.nextClkRate clk.currClk
      return (true, { clk with currClk := next, overClked := 0 })
    else return (true, { clk with overClked := 0 })

def updateClkFree : Option (Bool × HwMgr) :=
  let ctx := mgr.ctxData i
  let mgr := mgr.withBaseClk i req baseClk
  let clk : ClkInfo := { mgr.clkInfo ctx.hwType with baseClk := mgr.calcTotalClk ctx.hwType }
  if clk.currClk > clk.baseClk ∧ ctx.table.isOverClk clk then
    (updateClkOverclkFree ctx.table clk).map fun (rc, clk) => (rc, mgr.setClkInfo ctx.hwType clk)
  else if clk.currClk > clk.baseClk then
    some (false, mgr.setClkInfo ctx.hwType { clk with overClked := 0 })
  else if clk.currClk < clk.baseClk then
    some (true, mgr.setClkInfo ctx.hwType
      { clk with currClk := ctx.table.actualClkRate clk.baseClk })
  else some (false, mgr.setClkInfo ctx.hwType clk)

/-- The clock, and the bandwidths with it, are set to a fixed rate. -/
def setRate (hwType : HwType) (rate : UInt64) : HwMgr :=
  mgr.setClkInfo hwType { mgr.clkInfo hwType with
    baseClk := rate.toUInt32, currClk := rate.toUInt32, uncompressedBw := rate, compressedBw := rate,
    compressedBwAb := rate }

def debugClkUpdate (hwType : HwType) : Bool × HwMgr :=
  if mgr.icpDebugClk < ICP_CLK_TURBO_HZ ∧ mgr.icpDebugClk ≠ 0 ∧
      mgr.icpDebugClk ≠ (mgr.clkInfo hwType).currClk.toUInt64 then
    (true, mgr.setRate hwType mgr.icpDebugClk)
  else (false, mgr)

def defaultClkUpdate (hwType : HwType) : Bool × HwMgr :=
  if mgr.icpDefaultClk ≠ (mgr.clkInfo hwType).currClk.toUInt64 then
    (true, mgr.setRate hwType mgr.icpDefaultClk)
  else (false, mgr)

/-- `cam_icp_check_clk_update`. There is no result when a division or an access goes wrong. -/
def checkClkUpdate (frames : List (UInt64 × Bool)) : Option (Bool × HwMgr) :=
  let mgr := mgr.ctxTimerReset i
  if mgr.icpDebugClk ≠ 0 then some (mgr.debugClkUpdate (mgr.ctxData i).hwType)
  else if req.frameCycles = 0 then some (mgr.defaultClkUpdate (mgr.ctxData i).hwType)
  else do
    let baseClk ← calcBaseClk req.frameCycles req.budgetNs
    if busyPrevReqs frames then mgr.updateClkBusy i req baseClk else mgr.updateClkFree i req baseClk

end HwMgr

/-- The sum of the base clocks, in natural numbers. -/
def HwMgr.baseClkSum (mgr : HwMgr) (hwType : HwType) : ℕ :=
  ∑ i ∈ mgr.acquiredOf hwType, (mgr.ctxData i).clkInfo.baseClk.toNat

/-- The clock is at the highest rate or at the sum of the base clocks. -/
def HwMgr.Covers (mgr : HwMgr) (hwType : HwType) (t : ClkTable) : Prop :=
  min t.highest.toNat (mgr.baseClkSum hwType) ≤ (mgr.clkInfo hwType).currClk.toNat

/-- A request of an acquired context. -/
structure Call where
  mgr : HwMgr
  i : Fin CAM_ICP_CTX_MAX
  acquired : (mgr.ctxData i).acquired
  req : ClkBwRequest
  frames : List (UInt64 × Bool)

namespace Call
variable (c : Call)

def hwType : HwType := (c.mgr.ctxData c.i).hwType
def table : ClkTable := (c.mgr.ctxData c.i).table
def currFc : UInt32 := (c.mgr.ctxData c.i).clkInfo.currFc
def currClk : UInt32 := (c.mgr.clkInfo c.hwType).currClk
def busy : Bool := busyPrevReqs c.frames
def check : Option (Bool × HwMgr) := c.mgr.checkClkUpdate c.i c.req c.frames

/-- The base clock that the request asks for. -/
def baseClk : ℕ := c.req.frameCycles.toNat * 1000000000 / c.req.budgetNs.toNat

/-- The contexts with the base clock of the request. -/
def started : HwMgr := c.mgr.withBaseClk c.i c.req (UInt32.ofNat c.baseClk)

def baseClkSum : ℕ := c.started.baseClkSum c.hwType

structure Sound : Prop where
  runs : c.check ≠ none
  baseClk : ∀ rc after, c.check = some (rc, after) → c.mgr.icpDebugClk = 0 →
    c.req.frameCycles ≠ 0 → (after.ctxData c.i).clkInfo.baseClk.toNat = c.baseClk
  sum : ∀ rc after, c.check = some (rc, after) → c.mgr.icpDebugClk = 0 → c.req.frameCycles ≠ 0 →
    (c.busy → c.currFc < c.req.frameCycles) →
      (after.clkInfo c.hwType).baseClk.toNat = after.baseClkSum c.hwType
  covers : ∀ rc after, c.check = some (rc, after) → c.req.frameCycles ≠ 0 →
    c.mgr.Covers c.hwType c.table → after.Covers c.hwType c.table

/-- With the debug clock: it stays as it is, or is high enough. -/
def DebugGood : Prop :=
  c.mgr.icpDebugClk < ICP_CLK_TURBO_HZ → c.mgr.icpDebugClk ≠ c.currClk.toUInt64 →
    c.mgr.Covers c.hwType c.table →
      min c.table.highest.toNat (c.mgr.baseClkSum c.hwType) ≤ c.mgr.icpDebugClk.toNat

/-- Without previous requests that are pending the sum is only not to wrap. -/
def FreeGood : Prop := c.baseClkSum < 2 ^ 32

/-- With such requests, and more frame cycles than before, the sum is above the level of the
request's own base clock, or the next level covers the sum. -/
def BusyGood : Prop :=
  c.baseClkSum < 2 ^ 32 ∧
    (c.baseClkSum ≤ (c.table.actualClkRate (UInt32.ofNat c.baseClk)).toNat →
      c.mgr.Covers c.hwType c.table →
        min c.table.highest.toNat c.baseClkSum ≤ (c.table.levelAfter c.currClk).toNat)

/-- With such requests, and no more frame cycles, the clock or the next level covers the sum. -/
def BumpGood : Prop :=
  c.mgr.Covers c.hwType c.table → min c.table.highest.toNat c.baseClkSum ≤
    max c.currClk.toNat (c.table.levelAfter c.currClk).toNat

def Good : Prop :=
  c.req.frameCycles ≠ 0 →
    if c.mgr.icpDebugClk ≠ 0 then c.DebugGood
    else c.req.budgetNs ≠ 0 ∧ c.baseClk < 2 ^ 32 ∧
      if c.busy then if c.currFc < c.req.frameCycles then c.BusyGood else c.BumpGood
      else c.FreeGood

end Call

namespace ClkTable
variable {t : ClkTable} {clk baseClk : UInt32} {i : ℕ}

lemma actualClkRateIdx_le : t.actualClkRateIdx clk ≤ CAM_MAX_VOTE := by
  have h : t.actualClkRateIdx clk ≤ (List.finRange CAM_MAX_VOTE).length := List.findIdx_le_length
  rwa [List.length_finRange] at h

lemma le_rate (hi : i < CAM_MAX_VOTE) (h : t.actualClkRateIdx clk ≤ i) : clk ≤ t.clkRate ⟨i, hi⟩ := by
  have hidx : t.actualClkRateIdx clk < (List.finRange CAM_MAX_VOTE).length := by
    rw [List.length_finRange]
    omega
  have hle : clk ≤ t.clkRate ⟨t.actualClkRateIdx clk, by omega⟩ := by
    simpa [actualClkRateIdx] using List.findIdx_getElem (w := hidx)
  exact UInt32.le_trans hle (t.mono _ _ h)

lemma rateAt_of_lt (hi : i < CAM_MAX_VOTE) : t.rateAt i = some (t.clkRate ⟨i, hi⟩) := dif_pos hi

lemma nextClkRate_eq (clk : UInt32) : t.nextClkRate clk = some (t.levelAfter clk) := by
  rw [levelAfter, nextClkRate]
  split_ifs with h
  · rw [rateAt_of_lt (show t.actualClkRateIdx clk + 1 < CAM_MAX_VOTE by omega)]
    rfl
  · rfl

lemma le_actualClkRate (clk : UInt32) : clk ≤ t.actualClkRate clk := by
  rw [actualClkRate]
  by_cases h : t.actualClkRateIdx clk < CAM_MAX_VOTE
  · rw [rateAt_of_lt h]
    exact t.le_rate h le_rfl
  · rw [rateAt, dif_neg h]
    exact UInt32.le_refl clk

lemma lowerClkRate_eq_of_lt (h : t.actualClkRateIdx baseClk < t.actualClkRateIdx clk) :
    ∃ lower, t.lowerClkRate clk = some lower ∧ baseClk ≤ lower := by
  have hle : t.actualClkRateIdx clk ≤ CAM_MAX_VOTE := actualClkRateIdx_le
  have hi : t.actualClkRateIdx clk - 1 < CAM_MAX_VOTE := by omega
  refine ⟨t.clkRate ⟨_, hi⟩, ?_, t.le_rate hi (by omega)⟩
  rw [lowerClkRate, if_pos (by omega), rateAt_of_lt hi]

end ClkTable

namespace HwMgr
variable {mgr : HwMgr} {i : Fin CAM_ICP_CTX_MAX} {req : ClkBwRequest} {baseClk : UInt32}
  {hwType : HwType} {clk : ClkInfo} {t : ClkTable}

lemma toNat_calcTotalClk (hwType : HwType) :
    (mgr.calcTotalClk hwType).toNat = mgr.baseClkSum hwType % 2 ^ 32 := by
  rw [calcTotalClk, baseClkSum]
  induction mgr.acquiredOf hwType using Finset.induction_on with
  | empty => rfl
  | insert j s hj ih =>
    rw [Finset.sum_insert hj, Finset.sum_insert hj, UInt32.toNat_add, ih, Nat.add_mod_mod]

@[simp] lemma baseClkSum_setClkInfo : (mgr.setClkInfo hwType clk).baseClkSum = mgr.baseClkSum := rfl

@[simp] lemma clkInfo_setClkInfo : (mgr.setClkInfo hwType clk).clkInfo hwType = clk :=
  Function.update_self ..

@[simp] lemma ctxData_setClkInfo : (mgr.setClkInfo hwType clk).ctxData = mgr.ctxData := rfl

@[simp] lemma clkInfo_ctxTimerReset : (mgr.ctxTimerReset i).clkInfo = mgr.clkInfo := by
  rw [ctxTimerReset]
  split_ifs <;> rfl

@[simp] lemma icpDebugClk_ctxTimerReset : (mgr.ctxTimerReset i).icpDebugClk = mgr.icpDebugClk := by
  rw [ctxTimerReset]
  split_ifs <;> rfl

lemma ctxTimerReset_ctxData (j : Fin CAM_ICP_CTX_MAX) :
    ∃ counter, (mgr.ctxTimerReset i).ctxData j =
      { mgr.ctxData j with watchDogResetCounter := counter } := by
  rw [ctxTimerReset]
  split_ifs
  · by_cases h : j = i
    · subst h
      exact ⟨_, Function.update_self ..⟩
    · exact ⟨_, Function.update_of_ne h ..⟩
  · exact ⟨_, rfl⟩

lemma baseClk_withBaseClk :
    ((mgr.withBaseClk i req baseClk).ctxData i).clkInfo.baseClk = baseClk := by
  simp only [withBaseClk, setCtxClk, setCtx, Function.update_self]

lemma baseClkSum_congr {mgr' : HwMgr} (h : ∀ j, (mgr'.ctxData j).acquired = (mgr.ctxData j).acquired ∧
    (mgr'.ctxData j).hwType = (mgr.ctxData j).hwType ∧
      (mgr'.ctxData j).clkInfo = (mgr.ctxData j).clkInfo) :
    mgr'.baseClkSum = mgr.baseClkSum := by
  funext hwType
  rw [baseClkSum, baseClkSum]
  have hset : mgr'.acquiredOf hwType = mgr.acquiredOf hwType := by
    ext j
    simp only [acquiredOf, Finset.mem_filter, (h j).1, (h j).2.1]
  rw [hset]
  exact Finset.sum_congr rfl fun j _ => by rw [(h j).2.2]

@[simp] lemma baseClkSum_ctxTimerReset : (mgr.ctxTimerReset i).baseClkSum = mgr.baseClkSum := by
  refine baseClkSum_congr fun j => ?_
  obtain ⟨counter, h⟩ := mgr.ctxTimerReset_ctxData (i := i) j
  rw [h]
  exact ⟨rfl, rfl, rfl⟩

lemma covers_setClkInfo : (mgr.setClkInfo hwType clk).Covers hwType t ↔
    min t.highest.toNat (mgr.baseClkSum hwType) ≤ clk.currClk.toNat := by
  rw [Covers, baseClkSum_setClkInfo, clkInfo_setClkInfo]

lemma covers_ctxTimerReset : (mgr.ctxTimerReset i).Covers hwType t ↔ mgr.Covers hwType t := by
  rw [Covers, Covers, baseClkSum_ctxTimerReset, clkInfo_ctxTimerReset]

lemma baseClkSum_withBaseClk_ctxTimerReset :
    ((mgr.ctxTimerReset i).withBaseClk i req baseClk).baseClkSum =
      (mgr.withBaseClk i req baseClk).baseClkSum := by
  refine baseClkSum_congr fun j => ?_
  obtain ⟨counter, h⟩ := mgr.ctxTimerReset_ctxData (i := i) j
  obtain ⟨counter', h'⟩ := mgr.ctxTimerReset_ctxData (i := i) i
  by_cases hj : j = i
  · subst hj
    simp only [withBaseClk, setCtxClk, setCtx, Function.update_self, h, and_self]
  · simp only [withBaseClk, setCtxClk, setCtx, Function.update_of_ne hj, h, and_self]

end HwMgr

/-! ### One request -/

lemma HwMgr.updateClkOverclkFree_eq {t : ClkTable} {clk : ClkInfo} (hlt : clk.baseClk < clk.currClk)
    (hover : t.isOverClk clk) :
    ∃ rc clk', updateClkOverclkFree t clk = some (rc, clk') ∧ clk'.baseClk = clk.baseClk ∧
      clk.baseClk ≤ clk'.currClk := by
  rw [updateClkOverclkFree]
  split_ifs with hthreshold
  · exact ⟨_, _, rfl, rfl, UInt32.le_of_lt hlt⟩
  · obtain ⟨lower, hlower, hle⟩ := t.lowerClkRate_eq_of_lt (of_decide_eq_true hover)
    simp only [hlower, Option.bind_eq_bind, Option.bind_some]
    have hnot : ¬ lower < clk.baseClk := UInt32.not_lt.2 hle
    split_ifs
    all_goals exact ⟨_, _, rfl, rfl, hle⟩

section Updates
variable (mgr : HwMgr) (i : Fin CAM_ICP_CTX_MAX) (req : ClkBwRequest) (baseClk : UInt32)

/-- What an update leaves: the clock of the request in the context, and a clock of the device. -/
def HwMgr.withClks (clk : ClkInfo) : HwMgr :=
  (mgr.withBaseClk i req baseClk).setClkInfo (mgr.ctxData i).hwType clk

lemma HwMgr.updateClkFree_eq :
    ∃ rc clk, mgr.updateClkFree i req baseClk = some (rc, mgr.withClks i req baseClk clk) ∧
      clk.baseClk = (mgr.withBaseClk i req baseClk).calcTotalClk (mgr.ctxData i).hwType ∧
        clk.baseClk ≤ clk.currClk := by
  simp only [updateClkFree]
  split_ifs with hover hgt hlt
  · obtain ⟨rc, clk', hupdate, hbase, hle⟩ := updateClkOverclkFree_eq hover.1 hover.2
    refine ⟨rc, clk', ?_, hbase, ?_⟩
    · rw [hupdate]
      rfl
    · rwa [hbase]
  · exact ⟨_, _, rfl, rfl, UInt32.le_of_lt hgt⟩
  · exact ⟨_, _, rfl, rfl, (mgr.ctxData i).table.le_actualClkRate _⟩
  · exact ⟨_, _, rfl, rfl, UInt32.not_lt.1 hlt⟩

lemma HwMgr.updateClkBusy_eq_of_lt (h : (mgr.ctxData i).clkInfo.currFc < req.frameCycles) :
    ∃ clk, mgr.updateClkBusy i req baseClk = some (true, mgr.withClks i req baseClk clk) ∧
      clk.baseClk = (mgr.withBaseClk i req baseClk).calcTotalClk (mgr.ctxData i).hwType ∧
        clk.currClk = if (mgr.ctxData i).table.actualClkRate baseClk < clk.baseClk then clk.baseClk
          else (mgr.ctxData i).table.levelAfter (mgr.clkInfo (mgr.ctxData i).hwType).currClk := by
  simp only [updateClkBusy, gt_iff_lt, if_pos h, ClkTable.nextClkRate_eq, Option.map_some]
  split_ifs with hsum
  · refine ⟨_, rfl, rfl, ?_⟩
    rw [if_pos hsum]
  · refine ⟨_, rfl, rfl, ?_⟩
    rw [if_neg hsum]
    rfl

/-- Without more frame cycles the sum stays; the clock goes to the next level if that is higher. -/
lemma HwMgr.updateClkBusy_eq_of_le (h : ¬ (mgr.ctxData i).clkInfo.currFc < req.frameCycles) :
    ∃ rc clk, mgr.updateClkBusy i req baseClk = some (rc, mgr.withClks i req baseClk clk) ∧
      clk.currClk.toNat = max (mgr.clkInfo (mgr.ctxData i).hwType).currClk.toNat
        ((mgr.ctxData i).table.levelAfter
          (mgr.clkInfo (mgr.ctxData i).hwType).currClk).toNat := by
  simp only [updateClkBusy, gt_iff_lt, if_neg h, ClkTable.nextClkRate_eq, Option.map_some]
  split_ifs with hnext
  · exact ⟨_, _, rfl, (max_eq_right (UInt32.lt_iff_toNat_lt.1 hnext).le).symm⟩
  · exact ⟨_, _, rfl, (max_eq_left (UInt32.le_iff_toNat_le.1 (UInt32.not_lt.1 hnext))).symm⟩

end Updates

namespace Call
variable {c : Call} {rc : Bool} {after : HwMgr} {clk : ClkInfo}

lemma sound_iff_of_check (h : c.check = some (rc, after)) (hfc : c.req.frameCycles ≠ 0) :
    c.Sound ↔ (c.mgr.icpDebugClk = 0 →
      (after.ctxData c.i).clkInfo.baseClk.toNat = c.baseClk ∧
        ((c.busy → c.currFc < c.req.frameCycles) →
          (after.clkInfo c.hwType).baseClk.toNat = after.baseClkSum c.hwType)) ∧
      (c.mgr.Covers c.hwType c.table → after.Covers c.hwType c.table) := by
  constructor
  · intro hsound
    exact ⟨fun hdebug => ⟨hsound.baseClk _ _ h hdebug hfc, hsound.sum _ _ h hdebug hfc⟩,
      hsound.covers _ _ h hfc⟩
  · intro ⟨hsums, hcovers⟩
    refine ⟨by simp [h], fun rc' after' h' hdebug _ => ?_, fun rc' after' h' hdebug _ => ?_,
      fun rc' after' h' _ => ?_⟩
    all_goals
      obtain ⟨rfl, rfl⟩ : rc = rc' ∧ after = after' := by simpa [h] using h'
    exacts [(hsums hdebug).1, (hsums hdebug).2, hcovers]

lemma sound_of_frameCycles_eq_zero (hfc : c.req.frameCycles = 0) : c.Sound := by
  refine ⟨?_, fun _ _ _ _ hne => absurd hfc hne, fun _ _ _ _ hne => absurd hfc hne,
    fun _ _ _ hne => absurd hfc hne⟩
  rw [check, HwMgr.checkClkUpdate]
  split_ifs <;> simp

lemma hwType_ctxTimerReset : ((c.mgr.ctxTimerReset c.i).ctxData c.i).hwType = c.hwType := by
  obtain ⟨counter, h⟩ := c.mgr.ctxTimerReset_ctxData (i := c.i) c.i
  rw [h]
  rfl

lemma sound_iff_debugGood (hfc : c.req.frameCycles ≠ 0) (hdebug : c.mgr.icpDebugClk ≠ 0) :
    c.Sound ↔ c.DebugGood := by
  have hcheck : c.check = some ((c.mgr.ctxTimerReset c.i).debugClkUpdate
      ((c.mgr.ctxTimerReset c.i).ctxData c.i).hwType) := by
    rw [check, HwMgr.checkClkUpdate, if_pos (by simpa using hdebug)]
  rw [hwType_ctxTimerReset, HwMgr.debugClkUpdate] at hcheck
  simp only [HwMgr.icpDebugClk_ctxTimerReset, HwMgr.clkInfo_ctxTimerReset] at hcheck
  rw [DebugGood]
  split_ifs at hcheck with hset
  · have hclk : c.mgr.icpDebugClk.toUInt32.toNat = c.mgr.icpDebugClk.toNat := by
      have hturbo : c.mgr.icpDebugClk.toNat < 600000000 := UInt64.lt_iff_toNat_lt.1 hset.1
      rw [UInt64.toNat_toUInt32]
      omega
    rw [sound_iff_of_check hcheck hfc, HwMgr.setRate, HwMgr.covers_setClkInfo,
      HwMgr.baseClkSum_ctxTimerReset, hclk]
    constructor
    · intro h _ _
      exact h.2
    · intro h
      exact ⟨fun hzero => absurd hzero hdebug, h hset.1 hset.2.2⟩
  · rw [sound_iff_of_check hcheck hfc, HwMgr.covers_ctxTimerReset]
    constructor
    · intro _ hturbo hne
      exact absurd ⟨hturbo, hdebug, hne⟩ hset
    · intro _
      exact ⟨fun hzero => absurd hzero hdebug, id⟩

lemma sound_iff_of_withClks (hfc : c.req.frameCycles ≠ 0) (hdebug : c.mgr.icpDebugClk = 0)
    (h : c.check = some (rc, (c.mgr.ctxTimerReset c.i).withClks c.i c.req (UInt32.ofNat c.baseClk)
      clk)) :
    c.Sound ↔ c.baseClk < 2 ^ 32 ∧
      ((c.busy → c.currFc < c.req.frameCycles) → clk.baseClk.toNat = c.baseClkSum) ∧
        (c.mgr.Covers c.hwType c.table →
          min c.table.highest.toNat c.baseClkSum ≤ clk.currClk.toNat) := by
  rw [HwMgr.withClks, hwType_ctxTimerReset] at h
  have hbase : (UInt32.ofNat c.baseClk).toNat = c.baseClk ↔ c.baseClk < 2 ^ 32 := by
    rw [UInt32.toNat_ofNat', Nat.mod_eq_iff_lt (by norm_num)]
  have hsum : ((c.mgr.ctxTimerReset c.i).withBaseClk c.i c.req
      (UInt32.ofNat c.baseClk)).baseClkSum c.hwType = c.baseClkSum := by
    rw [HwMgr.baseClkSum_withBaseClk_ctxTimerReset]
    rfl
  rw [sound_iff_of_check h hfc, ← hbase]
  rw [HwMgr.ctxData_setClkInfo, HwMgr.baseClk_withBaseClk, HwMgr.clkInfo_setClkInfo,
    HwMgr.covers_setClkInfo, HwMgr.baseClkSum_setClkInfo, hsum]
  simp only [hdebug, forall_const, and_assoc]

lemma check_eq (hfc : c.req.frameCycles ≠ 0) (hdebug : c.mgr.icpDebugClk = 0) :
    c.check = if c.req.budgetNs = 0 then none
      else if c.busy then
        (c.mgr.ctxTimerReset c.i).updateClkBusy c.i c.req (UInt32.ofNat c.baseClk)
      else (c.mgr.ctxTimerReset c.i).updateClkFree c.i c.req (UInt32.ofNat c.baseClk) := by
  have hbase : (c.req.frameCycles.toUInt64 * 1000000000 / c.req.budgetNs).toUInt32 =
      UInt32.ofNat c.baseClk := by
    -- the product of a 32-bit count and 10^9 fits in 64 bits
    have hlt := c.req.frameCycles.toNat_lt
    have hmul : (c.req.frameCycles.toUInt64 * 1000000000).toNat =
        c.req.frameCycles.toNat * 1000000000 := by
      rw [UInt64.toNat_mul, UInt32.toNat_toUInt64]
      change c.req.frameCycles.toNat * 1000000000 % 2 ^ 64 = _
      omega
    apply UInt32.toNat_inj.1
    rw [UInt64.toNat_toUInt32, UInt64.toNat_div, hmul, UInt32.toNat_ofNat', baseClk]
  rw [check, HwMgr.checkClkUpdate]
  simp only [HwMgr.icpDebugClk_ctxTimerReset, hdebug, ne_eq, not_true_eq_false, if_false, hfc,
    calcBaseClk]
  split_ifs with hbudget
  all_goals simp_all [busy]

lemma toNat_sum_eq_iff :
    (((c.mgr.ctxTimerReset c.i).withBaseClk c.i c.req (UInt32.ofNat c.baseClk)).calcTotalClk
      ((c.mgr.ctxTimerReset c.i).ctxData c.i).hwType).toNat = c.baseClkSum ↔
        c.baseClkSum < 2 ^ 32 := by
  rw [HwMgr.toNat_calcTotalClk, HwMgr.baseClkSum_withBaseClk_ctxTimerReset, hwType_ctxTimerReset]
  exact Nat.mod_eq_iff_lt (by norm_num)

lemma sound_iff_freeGood (hfc : c.req.frameCycles ≠ 0) (hdebug : c.mgr.icpDebugClk = 0)
    (hbudget : c.req.budgetNs ≠ 0) (hbusy : ¬ c.busy) :
    c.Sound ↔ c.baseClk < 2 ^ 32 ∧ c.FreeGood := by
  obtain ⟨rc, clk, hupdate, hbase, hle⟩ := HwMgr.updateClkFree_eq (c.mgr.ctxTimerReset c.i) c.i
    c.req (UInt32.ofNat c.baseClk)
  have hcheck := check_eq hfc hdebug
  rw [if_neg hbudget, if_neg hbusy, hupdate] at hcheck
  have hsum := toNat_sum_eq_iff (c := c)
  rw [← hbase] at hsum
  rw [sound_iff_of_withClks hfc hdebug hcheck, FreeGood, hsum]
  constructor
  · intro ⟨hlt, hsum', _⟩
    exact ⟨hlt, hsum' fun h => absurd h hbusy⟩
  · intro ⟨hlt, hsum'⟩
    refine ⟨hlt, fun _ => hsum', fun _ => ?_⟩
    calc min c.table.highest.toNat c.baseClkSum ≤ c.baseClkSum := min_le_right ..
      _ = clk.baseClk.toNat := (hsum.2 hsum').symm
      _ ≤ clk.currClk.toNat := UInt32.le_iff_toNat_le.1 hle

lemma sound_iff_busyGood (hfc : c.req.frameCycles ≠ 0) (hdebug : c.mgr.icpDebugClk = 0)
    (hbudget : c.req.budgetNs ≠ 0) (hbusy : c.busy) (hlt : c.currFc < c.req.frameCycles) :
    c.Sound ↔ c.baseClk < 2 ^ 32 ∧ c.BusyGood := by
  have hcurr : ((c.mgr.ctxTimerReset c.i).ctxData c.i).clkInfo.currFc = c.currFc ∧
      ((c.mgr.ctxTimerReset c.i).ctxData c.i).table = c.table := by
    obtain ⟨counter, h⟩ := c.mgr.ctxTimerReset_ctxData (i := c.i) c.i
    rw [h]
    exact ⟨rfl, rfl⟩
  obtain ⟨clk, hupdate, hbase, hclk⟩ := HwMgr.updateClkBusy_eq_of_lt (c.mgr.ctxTimerReset c.i) c.i
    c.req (UInt32.ofNat c.baseClk) (by rwa [hcurr.1])
  have hcheck := check_eq hfc hdebug
  rw [if_neg hbudget, if_pos hbusy, hupdate] at hcheck
  have hsum := toNat_sum_eq_iff (c := c)
  rw [← hbase] at hsum
  rw [hcurr.2, hwType_ctxTimerReset, HwMgr.clkInfo_ctxTimerReset] at hclk
  rw [sound_iff_of_withClks hfc hdebug hcheck, BusyGood, hsum]
  refine and_congr_right fun _ => ?_
  constructor
  · intro ⟨hsum', hcovers⟩
    refine ⟨hsum' fun _ => hlt, fun hle hbefore => ?_⟩
    have hnot : ¬ c.table.actualClkRate (UInt32.ofNat c.baseClk) < clk.baseClk := by
      rw [UInt32.lt_iff_toNat_lt, hsum.2 (hsum' fun _ => hlt)]
      omega
    have hmin := hcovers hbefore
    rwa [hclk, if_neg hnot] at hmin
  · intro ⟨hsum', hnext⟩
    refine ⟨fun _ => hsum', fun hbefore => ?_⟩
    rw [hclk]
    split_ifs with habove
    · rw [hsum.2 hsum']
      exact min_le_right ..
    · rw [UInt32.lt_iff_toNat_lt, hsum.2 hsum'] at habove
      exact hnext (by omega) hbefore

lemma sound_iff_bumpGood (hfc : c.req.frameCycles ≠ 0) (hdebug : c.mgr.icpDebugClk = 0)
    (hbudget : c.req.budgetNs ≠ 0) (hbusy : c.busy) (hle : ¬ c.currFc < c.req.frameCycles) :
    c.Sound ↔ c.baseClk < 2 ^ 32 ∧ c.BumpGood := by
  have hcurr : ((c.mgr.ctxTimerReset c.i).ctxData c.i).clkInfo.currFc = c.currFc ∧
      ((c.mgr.ctxTimerReset c.i).ctxData c.i).table = c.table := by
    obtain ⟨counter, h⟩ := c.mgr.ctxTimerReset_ctxData (i := c.i) c.i
    rw [h]
    exact ⟨rfl, rfl⟩
  obtain ⟨rc, clk, hupdate, hclk⟩ := HwMgr.updateClkBusy_eq_of_le (c.mgr.ctxTimerReset c.i) c.i
    c.req (UInt32.ofNat c.baseClk) (by rwa [hcurr.1])
  have hcheck := check_eq hfc hdebug
  rw [if_neg hbudget, if_pos hbusy, hupdate] at hcheck
  rw [hcurr.2, hwType_ctxTimerReset, HwMgr.clkInfo_ctxTimerReset] at hclk
  rw [sound_iff_of_withClks hfc hdebug hcheck, hclk, BumpGood]
  refine and_congr_right fun _ => ?_
  constructor
  · intro ⟨_, hcovers⟩
    exact hcovers
  · intro hcovers
    exact ⟨fun h => absurd (h hbusy) hle, hcovers⟩

/-- The choice of the clock is sound for just the requests that are good. -/
theorem clk_sound_iff_good (c : Call) : c.Sound ↔ c.Good := by
  rw [Good]
  by_cases hfc : c.req.frameCycles = 0
  · exact iff_of_true (sound_of_frameCycles_eq_zero hfc) fun hne => absurd hfc hne
  rw [forall_prop_of_true hfc]
  by_cases hdebug : c.mgr.icpDebugClk = 0
  · rw [if_neg (not_not.2 hdebug)]
    by_cases hbudget : c.req.budgetNs = 0
    · refine iff_of_false (fun hsound => hsound.runs ?_) fun hgood => hgood.1 hbudget
      rw [check_eq hfc hdebug, if_pos hbudget]
    rw [and_iff_right hbudget]
    split_ifs with hbusy hlt
    · exact sound_iff_busyGood hfc hdebug hbudget hbusy hlt
    · exact sound_iff_bumpGood hfc hdebug hbudget hbusy hlt
    · exact sound_iff_freeGood hfc hdebug hbudget hbusy
  · rw [if_pos hdebug]
    exact sound_iff_debugGood hfc hdebug

/-! A request without a budget, and one whose base clock is many levels above the clock: of an
only context, with two frames in the firmware. -/

def levels : ClkTable where
  clkRate i := 100 * (i.val.toUInt32 + 1)
  mono := by decide

def onlyCtx : HwMgr where
  ctxData i :=
    { acquired := i = 0, hwType := .ipe, clkInfo := ⟨10, 0, 50, 1024, 1024, 1024⟩, table := levels,
      watchDog := true, watchDogResetCounter := 0 }
  clkInfo _ := ⟨50, 100, 5, 0, 1024, 1024, 1024⟩
  ctxtCnt := 1
  icpDebugClk := 0
  icpDefaultClk := ICP_CLK_SVS_HZ

def withoutBudget : Call := ⟨onlyCtx, 0, rfl, ⟨0, 750, 0, 1024, 1024⟩, []⟩

def steep : Call :=
  ⟨onlyCtx, 0, rfl, ⟨1000000000, 750, 0, 1024, 1024⟩, [(1, true), (2, true)]⟩

/-- The one divides by zero; after the other the clock is 200, for a base clock of 750. -/
theorem not_clk_sound : ¬ withoutBudget.Sound ∧ ¬ steep.Sound := by
  constructor
  · intro h
    refine h.runs ?_
    rw [check_eq (by decide) rfl]
    exact if_pos rfl
  · rw [sound_iff_busyGood (by decide) rfl (by decide) (by decide) (by decide)]
    intro ⟨_, _, hnext⟩
    have hsum : steep.baseClkSum = 750 := by decide +kernel
    have hbefore : onlyCtx.baseClkSum .ipe = 50 := by decide +kernel
    have hclk := hnext (by rw [hsum]; decide) (by
      change min _ (onlyCtx.baseClkSum .ipe) ≤ _
      rw [hbefore]
      decide)
    rw [hsum] at hclk
    exact absurd hclk (by decide)

end Call

end CameraKernel.IcpClk
