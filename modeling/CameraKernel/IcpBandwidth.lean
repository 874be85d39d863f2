import CameraKernel.IcpClk
import CameraKernel.Transition

/-! The bandwidth of the ICP's devices. A request records its bandwidth in its context; that of the
device is the sum over the contexts, and the timer of an idle context takes its part back. -/
namespace CameraKernel.IcpClk
open Transition

def ICP_OVER_CLK_THRESHOLD : UInt32 := 5
def CAM_CPAS_DEFAULT_AXI_BW : UInt64 := 1024

/-- The three bandwidths, kept side by side in the contexts and in the device. -/
inductive Bw
  | uncompressed | compressed | compressedAb
  deriving DecidableEq, Repr

def CtxClkInfo.bw (clk : CtxClkInfo) : Bw → UInt64
  | .uncompressed => clk.uncompressedBw
  | .compressed => clk.compressedBw
  | .compressedAb => clk.compressedBwAb

def ClkInfo.bw (clk : ClkInfo) : Bw → UInt64
  | .uncompressed => clk.uncompressedBw
  | .compressed => clk.compressedBw
  | .compressedAb => clk.compressedBwAb

/-- The vote for a device; the compressed bandwidth is sent as its `ab` too. -/
structure AxiVote where
  hwType : HwType
  uncompressedBw : UInt64
  compressedBw : UInt64
  compressedBwAb : UInt64
  deriving DecidableEq, Repr

def AxiVote.bw (vote : AxiVote) : Bw → UInt64
  | .uncompressed => vote.uncompressedBw
  | .compressed => vote.compressedBw
  | .compressedAb => vote.compressedBwAb

namespace HwMgr
variable (mgr : HwMgr) (i : Fin CAM_ICP_CTX_MAX) (req : ClkBwRequest)

def hwTypeOf : HwType := (mgr.ctxData i).hwType

def cpasVote (hwType : HwType) : AxiVote :=
  ⟨hwType, (mgr.clkInfo hwType).uncompressedBw, (mgr.clkInfo hwType).compressedBw,
    (mgr.clkInfo hwType).compressedBw⟩

def calcTotalBw (hwType : HwType) (b : Bw) : UInt64 :=
  ∑ j ∈ mgr.acquiredOf hwType, (mgr.ctxData j).clkInfo.bw b

/-- The bandwidth of a request, in the context. -/
def withBw : HwMgr :=
  mgr.setCtxClk i { (mgr.ctxData i).clkInfo with
    uncompressedBw := req.uncompressedBw, compressedBw := req.compressedBw,
    compressedBwAb := req.compressedBw }

/-- `cam_icp_update_bw`. -/
def updateBw (busy : Bool) : Bool × HwMgr :=
  let ctx := (mgr.ctxData i).clkInfo
  let clk := mgr.clkInfo (mgr.hwTypeOf i)
  if req.uncompressedBw = ctx.uncompressedBw ∧ ctx.uncompressedBw = clk.uncompressedBw then
    (false, mgr)
  else if busy ∧ ctx.uncompressedBw > req.uncompressedBw then (false, mgr)
  else
    let mgr' := mgr.withBw i req
    (true, mgr'.setClkInfo (mgr.hwTypeOf i) { clk with
      uncompressedBw := mgr'.calcTotalBw (mgr.hwTypeOf i) .uncompressed
      compressedBw := mgr'.calcTotalBw (mgr.hwTypeOf i) .compressed
      compressedBwAb := mgr'.calcTotalBw (mgr.hwTypeOf i) .compressedAb })

/-- `cam_icp_mgr_ipe_bps_clk_update`, for an acquired context. The vote is left out without the
devices' interfaces; a clock without a result ends the request. -/
def clkUpdate (frames : List (UInt64 × Bool)) (devIntf : Bool) : HwMgr × Option AxiVote :=
  if (mgr.ctxData i).acquired then
    match mgr.checkClkUpdate i req frames with
    | none => (mgr, none)
    | some (_, mgr) =>
      match mgr.updateBw i req (busyPrevReqs frames) with
      | (true, mgr) => (mgr, if devIntf then some (mgr.cpasVote (mgr.hwTypeOf i)) else none)
      | (false, mgr) => (mgr, none)
  else (mgr, none)

def idleClk (clk : CtxClkInfo) : CtxClkInfo :=
  { clk with currFc := 0, baseClk := 0, uncompressedBw := 0, compressedBw := 0, compressedBwAb := 0 }

/-- The part of a context is taken back. -/
def takeBack : HwMgr :=
  let ctx := (mgr.ctxData i).clkInfo
  let clk := mgr.clkInfo (mgr.hwTypeOf i)
  (mgr.setCtxClk i (idleClk ctx)).setClkInfo (mgr.hwTypeOf i) { clk with
    uncompressedBw := clk.uncompressedBw - ctx.uncompressedBw
    compressedBw := clk.compressedBw - ctx.compressedBw
    compressedBwAb := clk.compressedBwAb - ctx.compressedBwAb }

def ctxTimerActs (pending devIntf : Bool) : Bool :=
  (mgr.ctxData i).acquired && (mgr.ctxData i).watchDogResetCounter != 0 && !pending && devIntf

/-- `cam_icp_ctx_timer`. -/
def ctxTimer (pending devIntf : Bool) : HwMgr × Option AxiVote :=
  if mgr.ctxTimerActs i pending devIntf then
    (mgr.takeBack i, some ((mgr.takeBack i).cpasVote (mgr.hwTypeOf i)))
  else if (mgr.ctxData i).acquired ∧ (mgr.ctxData i).watchDogResetCounter ≠ 0 ∧ pending then
    (mgr.ctxTimerReset i, none)
  else (mgr, none)

/-- The contexts up to the first with frames that are pending. -/
def deinitCtxs (hwType : HwType) (pending : Fin CAM_ICP_CTX_MAX → Bool) :
    List (Fin CAM_ICP_CTX_MAX) → HwMgr → HwMgr
  | [], mgr => mgr
  | j :: rest, mgr =>
    if (mgr.ctxData j).acquired ∧ mgr.hwTypeOf j = hwType then
      if pending j then mgr
      else deinitCtxs hwType pending rest (mgr.setCtxClk j (idleClk (mgr.ctxData j).clkInfo))
    else deinitCtxs hwType pending rest mgr

/-- `cam_icp_deinit_idle_clk`. -/
def deinitIdleClk (hwType : HwType) (pending : Fin CAM_ICP_CTX_MAX → Bool) : HwMgr :=
  deinitCtxs hwType pending (List.finRange CAM_ICP_CTX_MAX)
    (mgr.setClkInfo hwType { mgr.clkInfo hwType with baseClk := 0, currClk := 0, overClked := 0 })

/-- The clocks and bandwidths of both devices at the start. -/
def initClkInfo (baseClk : UInt32) : HwMgr :=
  { mgr with
    clkInfo _ := ⟨baseClk, ICP_CLK_SVS_HZ.toUInt32, ICP_OVER_CLK_THRESHOLD, 0,
      CAM_CPAS_DEFAULT_AXI_BW, CAM_CPAS_DEFAULT_AXI_BW, CAM_CPAS_DEFAULT_AXI_BW⟩
    icpDefaultClk := ICP_CLK_SVS_HZ }

def clkInfoInit : HwMgr := mgr.initClkInfo ICP_CLK_SVS_HZ.toUInt32

def resetClkInfo : HwMgr := mgr.initClkInfo 0

def getFreeCtx : Option (Fin CAM_ICP_CTX_MAX) :=
  (List.finRange CAM_ICP_CTX_MAX).find? fun i => !(mgr.ctxData i).acquired

/-- `cam_icp_mgr_acquire_hw`. `buffers` is whether the acquire comes as far as the clocks, `resumed`
whether all that is behind them is well too, and `timer` whether there is memory for a timer. -/
def acquireHw (hwType : HwType) (table : ClkTable) (buffers resumed timer : Bool) : HwMgr :=
  match mgr.getFreeCtx with
  | none => mgr
  | some i =>
    if buffers then
      let mgr := if mgr.ctxtCnt = 0 then mgr.clkInfoInit else mgr
      if resumed then
        { mgr.setCtx i
            { acquired := true, hwType, clkInfo := idleClk (mgr.ctxData i).clkInfo, table,
              watchDog := timer, watchDogResetCounter := 0 } with
          ctxtCnt := mgr.ctxtCnt + 1 }
      else mgr
    else mgr

/-- `cam_icp_mgr_release_ctx`, for an acquired context. -/
def releaseCtx : HwMgr :=
  let ctx := mgr.ctxData i
  let clk := mgr.clkInfo (mgr.hwTypeOf i)
  { (mgr.setCtx i { ctx with
        acquired := false, clkInfo := { ctx.clkInfo with currFc := 0, baseClk := 0 },
        watchDog := false,
        watchDogResetCounter := if ctx.watchDog then 0 else ctx.watchDogResetCounter }).setClkInfo
      (mgr.hwTypeOf i)
      (if clk.baseClk ≥ ctx.clkInfo.baseClk then
        { clk with baseClk := clk.baseClk - ctx.clkInfo.baseClk } else clk) with
    ctxtCnt := mgr.ctxtCnt - 1 }

/-- `cam_icp_mgr_release_hw`. -/
def releaseHw : HwMgr :=
  if (mgr.ctxData i).acquired then
    if (mgr.releaseCtx i).ctxtCnt = 0 then (mgr.releaseCtx i).resetClkInfo else mgr.releaseCtx i
  else mgr

end HwMgr

inductive Input
  | request (i : Fin CAM_ICP_CTX_MAX) (req : ClkBwRequest) (frames : List (UInt64 × Bool))
      (devIntf : Bool)
  | ctxTimer (i : Fin CAM_ICP_CTX_MAX) (pending devIntf : Bool)
  | deviceTimer (hwType : HwType) (pending : Fin CAM_ICP_CTX_MAX → Bool)
  | acquire (hwType : HwType) (table : ClkTable) (buffers resumed timer : Bool)
  | release (i : Fin CAM_ICP_CTX_MAX)

/-- The state after an input, and the vote that it sends. -/
def HwMgr.take (mgr : HwMgr) : Input → HwMgr × Option AxiVote
  | .request i req frames devIntf => mgr.clkUpdate i req frames devIntf
  | .ctxTimer i pending devIntf => mgr.ctxTimer i pending devIntf
  | .deviceTimer hwType pending => (mgr.deinitIdleClk hwType pending, none)
  | .acquire hwType table buffers resumed timer =>
    (mgr.acquireHw hwType table buffers resumed timer, none)
  | .release i => (mgr.releaseHw i, none)

def HwMgr.step (mgr : HwMgr) (input : Input) : HwMgr := (mgr.take input).1

namespace HwMgr
variable (mgr : HwMgr)

/-- What the acquired contexts have recorded, in natural numbers. -/
def bwSum (hwType : HwType) (b : Bw) : ℕ :=
  ∑ j ∈ mgr.acquiredOf hwType, ((mgr.ctxData j).clkInfo.bw b).toNat

/-- The bandwidths of the devices are at least the sums. -/
def Accounted : Prop := ∀ hwType b, mgr.bwSum hwType b ≤ ((mgr.clkInfo hwType).bw b).toNat

/-- The subtractions of a timer do not wrap. -/
def TimerExact : Input → Prop
  | .ctxTimer i pending devIntf => mgr.ctxTimerActs i pending devIntf →
      ∀ b, (mgr.ctxData i).clkInfo.bw b ≤ (mgr.clkInfo (mgr.hwTypeOf i)).bw b
  | _ => True

/-- The step leaves the sums accounted for, takes back no more than there is, and its vote covers
the contexts that are left. -/
structure StepSound (input : Input) : Prop where
  accounted : (mgr.step input).Accounted
  timer : mgr.TimerExact input
  vote : ∀ vote, (mgr.take input).2 = some vote →
    ∀ b, (mgr.step input).bwSum vote.hwType b ≤ (vote.bw b).toNat

/-- The default clock is set, and the bandwidths of the device with it. -/
def Overwrites (i : Fin CAM_ICP_CTX_MAX) (req : ClkBwRequest) : Prop :=
  req.frameCycles = 0 ∧ mgr.icpDefaultClk ≠ (mgr.clkInfo (mgr.hwTypeOf i)).currClk.toUInt64

instance (i : Fin CAM_ICP_CTX_MAX) (req : ClkBwRequest) : Decidable (mgr.Overwrites i req) :=
  inferInstanceAs (Decidable (_ ∧ _))

/-- The request's bandwidth is that of the context and of the device, or is below that of a context
with frames that are pending: nothing is computed. -/
def KeepsBw (i : Fin CAM_ICP_CTX_MAX) (req : ClkBwRequest) (busy : Bool) : Prop :=
  req.uncompressedBw = (mgr.ctxData i).clkInfo.uncompressedBw ∧
      (mgr.ctxData i).clkInfo.uncompressedBw =
        (if mgr.Overwrites i req then mgr.icpDefaultClk
          else (mgr.clkInfo (mgr.hwTypeOf i)).uncompressedBw) ∨
    busy ∧ req.uncompressedBw < (mgr.ctxData i).clkInfo.uncompressedBw

instance (i : Fin CAM_ICP_CTX_MAX) (req : ClkBwRequest) (busy : Bool) :
    Decidable (mgr.KeepsBw i req busy) := inferInstanceAs (Decidable (_ ∨ _))

/-- The default clock, taken for a bandwidth, is enough where nothing is computed, and a sum that is
computed does not wrap. -/
def RequestGood (i : Fin CAM_ICP_CTX_MAX) (req : ClkBwRequest) (busy : Bool) : Prop :=
  if mgr.KeepsBw i req busy then
    mgr.Overwrites i req → ∀ b, mgr.bwSum (mgr.hwTypeOf i) b ≤ mgr.icpDefaultClk.toNat
  else ∀ b, (mgr.withBw i req).bwSum (mgr.hwTypeOf i) b < 2 ^ 64

def StepGood : Input → Prop
  | .request i req frames _ => (mgr.ctxData i).acquired → req.frameCycles = 0 ∨ req.budgetNs ≠ 0 →
      mgr.RequestGood i req (busyPrevReqs frames)
  | _ => True

end HwMgr

namespace HwMgr

section Sums
variable {mgr mgr' : HwMgr} {i j : Fin CAM_ICP_CTX_MAX} {hwType : HwType} {b : Bw}
  {clk : CtxClkInfo}

/-- What a context counts for in a sum. -/
def bwPart (mgr : HwMgr) (hwType : HwType) (b : Bw) (j : Fin CAM_ICP_CTX_MAX) : ℕ :=
  if (mgr.ctxData j).acquired ∧ mgr.hwTypeOf j = hwType then ((mgr.ctxData j).clkInfo.bw b).toNat
  else 0

lemma bwSum_eq (mgr : HwMgr) (hwType : HwType) (b : Bw) :
    mgr.bwSum hwType b = ∑ j, mgr.bwPart hwType b j := Finset.sum_filter ..

lemma bwSum_le (h : ∀ j, mgr'.bwPart hwType b j ≤ mgr.bwPart hwType b j) :
    mgr'.bwSum hwType b ≤ mgr.bwSum hwType b := by
  rw [bwSum_eq, bwSum_eq]
  exact Finset.sum_le_sum fun j _ => h j

lemma bwSum_congr (h : ∀ j, mgr'.bwPart hwType b j = mgr.bwPart hwType b j) :
    mgr'.bwSum hwType b = mgr.bwSum hwType b := by
  rw [bwSum_eq, bwSum_eq]
  exact Finset.sum_congr rfl fun j _ => h j

lemma bwSum_add_of_ne (h : ∀ j, j ≠ i → mgr'.bwPart hwType b j = mgr.bwPart hwType b j) :
    mgr'.bwSum hwType b + mgr.bwPart hwType b i =
      mgr.bwSum hwType b + mgr'.bwPart hwType b i := by
  have hrest : ∑ j ∈ Finset.univ.erase i, mgr'.bwPart hwType b j =
      ∑ j ∈ Finset.univ.erase i, mgr.bwPart hwType b j :=
    Finset.sum_congr rfl fun j hj => h j (Finset.ne_of_mem_erase hj)
  have hsplit (m : HwMgr) : m.bwPart hwType b i + ∑ j ∈ Finset.univ.erase i, m.bwPart hwType b j =
      m.bwSum hwType b := (Finset.add_sum_erase _ _ (Finset.mem_univ i)).trans (m.bwSum_eq ..).symm
  rw [← hsplit mgr, ← hsplit mgr', hrest]
  omega

lemma bwPart_le_bwSum : mgr.bwPart hwType b j ≤ mgr.bwSum hwType b := by
  rw [bwSum_eq]
  exact Finset.single_le_sum (fun _ _ => Nat.zero_le _) (Finset.mem_univ j)

lemma bwSum_eq_zero (h : ∀ j, (mgr.ctxData j).acquired = false) : mgr.bwSum hwType b = 0 := by
  rw [bwSum_eq]
  refine Finset.sum_eq_zero fun j _ => ?_
  rw [bwPart, if_neg]
  simp [h j]

@[simp] lemma ctxData_setCtx_self {ctx : Ctx} : (mgr.setCtx i ctx).ctxData i = ctx :=
  Function.update_self ..

lemma ctxData_setCtx_of_ne {ctx : Ctx} (h : j ≠ i) :
    (mgr.setCtx i ctx).ctxData j = mgr.ctxData j := Function.update_of_ne h ..

lemma bwPart_setCtx_of_ne {ctx : Ctx} (h : j ≠ i) :
    (mgr.setCtx i ctx).bwPart hwType b j = mgr.bwPart hwType b j := by
  rw [bwPart, bwPart, hwTypeOf, hwTypeOf, ctxData_setCtx_of_ne h]

lemma bwPart_setCtxClk_self (hacquired : (mgr.ctxData i).acquired) :
    (mgr.setCtxClk i clk).bwPart (mgr.hwTypeOf i) b i = (clk.bw b).toNat := by
  rw [bwPart, hwTypeOf, setCtxClk, ctxData_setCtx_self]
  exact if_pos ⟨hacquired, rfl⟩

lemma bwPart_self (hacquired : (mgr.ctxData i).acquired) :
    mgr.bwPart (mgr.hwTypeOf i) b i = ((mgr.ctxData i).clkInfo.bw b).toNat :=
  if_pos ⟨hacquired, rfl⟩

lemma bwSum_setCtxClk_of_ne (h : hwType ≠ mgr.hwTypeOf i) :
    (mgr.setCtxClk i clk).bwSum hwType b = mgr.bwSum hwType b := by
  refine bwSum_congr fun j => ?_
  by_cases hj : j = i
  · subst hj
    rw [bwPart, bwPart, hwTypeOf, setCtxClk, ctxData_setCtx_self, if_neg fun h' => h h'.2.symm,
      if_neg fun h' => h h'.2.symm]
  · exact bwPart_setCtx_of_ne hj

lemma bwSum_idle_le {clk : CtxClkInfo} :
    (mgr.setCtxClk i (idleClk clk)).bwSum hwType b ≤ mgr.bwSum hwType b := by
  refine bwSum_le fun j => ?_
  by_cases hj : j = i
  · subst hj
    rw [bwPart, setCtxClk, ctxData_setCtx_self]
    split_ifs
    · cases b <;> exact Nat.zero_le _
    · exact Nat.zero_le _
  · exact (bwPart_setCtx_of_ne hj).le

@[simp] lemma bwSum_setClkInfo {hwType' : HwType} {clk : ClkInfo} :
    (mgr.setClkInfo hwType' clk).bwSum hwType b = mgr.bwSum hwType b := rfl

@[simp] lemma bwSum_setCtxtCnt {n : UInt32} :
    ({ mgr with ctxtCnt := n } : HwMgr).bwSum hwType b = mgr.bwSum hwType b := rfl

lemma toNat_calcTotalBw :
    (mgr.calcTotalBw hwType b).toNat = mgr.bwSum hwType b % 2 ^ 64 := by
  rw [calcTotalBw, bwSum]
  induction mgr.acquiredOf hwType using Finset.induction_on with
  | empty => rfl
  | insert j s hj ih =>
    rw [Finset.sum_insert hj, Finset.sum_insert hj, UInt64.toNat_add, ih, Nat.add_mod_mod]

end Sums

/-- The contexts count for the bandwidths as before. -/
structure SameCtxs (mgr mgr' : HwMgr) : Prop where
  acquired : ∀ j, (mgr'.ctxData j).acquired = (mgr.ctxData j).acquired
  hwType : ∀ j, mgr'.hwTypeOf j = mgr.hwTypeOf j
  bw : ∀ j b, (mgr'.ctxData j).clkInfo.bw b = (mgr.ctxData j).clkInfo.bw b
  ctxtCnt : mgr'.ctxtCnt = mgr.ctxtCnt
  icpDebugClk : mgr'.icpDebugClk = mgr.icpDebugClk

namespace SameCtxs
variable {mgr mgr' mgr'' : HwMgr} {i : Fin CAM_ICP_CTX_MAX}

lemma refl (mgr : HwMgr) : SameCtxs mgr mgr :=
  ⟨fun _ => rfl, fun _ => rfl, fun _ _ => rfl, rfl, rfl⟩

lemma trans (h : SameCtxs mgr mgr') (h' : SameCtxs mgr' mgr'') : SameCtxs mgr mgr'' :=
  ⟨fun j => (h'.acquired j).trans (h.acquired j), fun j => (h'.hwType j).trans (h.hwType j),
    fun j b => (h'.bw j b).trans (h.bw j b), h'.ctxtCnt.trans h.ctxtCnt,
    h'.icpDebugClk.trans h.icpDebugClk⟩

lemma bwSum_eq (h : SameCtxs mgr mgr') (hwType : HwType) (b : Bw) :
    mgr'.bwSum hwType b = mgr.bwSum hwType b := by
  refine bwSum_congr fun j => ?_
  rw [bwPart, bwPart, h.acquired, h.hwType, h.bw]

lemma setClkInfo (mgr : HwMgr) (hwType : HwType) (clk : ClkInfo) :
    SameCtxs mgr (mgr.setClkInfo hwType clk) :=
  ⟨fun _ => rfl, fun _ => rfl, fun _ _ => rfl, rfl, rfl⟩

lemma setCtx {ctx : Ctx} (hacquired : ctx.acquired = (mgr.ctxData i).acquired)
    (htype : ctx.hwType = mgr.hwTypeOf i)
    (hbw : ∀ b, ctx.clkInfo.bw b = (mgr.ctxData i).clkInfo.bw b) :
    SameCtxs mgr (mgr.setCtx i ctx) := by
  refine ⟨fun j => ?_, fun j => ?_, fun j b => ?_, rfl, rfl⟩
  all_goals
    by_cases hj : j = i
    · subst hj
      simp only [hwTypeOf, ctxData_setCtx_self, hacquired, htype, hbw]
    · simp only [hwTypeOf, ctxData_setCtx_of_ne hj]

lemma ctxTimerReset (mgr : HwMgr) (i : Fin CAM_ICP_CTX_MAX) :
    SameCtxs mgr (mgr.ctxTimerReset i) := by
  rw [HwMgr.ctxTimerReset]
  split_ifs
  · exact setCtx rfl rfl fun _ => rfl
  · exact refl mgr

lemma withBaseClk (mgr : HwMgr) (i : Fin CAM_ICP_CTX_MAX) (req : ClkBwRequest) (baseClk : UInt32) :
    SameCtxs mgr (mgr.withBaseClk i req baseClk) := setCtx rfl rfl fun b => by cases b <;> rfl

end SameCtxs

section Clock
variable {mgr mgr' : HwMgr} {i : Fin CAM_ICP_CTX_MAX} {req : ClkBwRequest} {baseClk : UInt32}
  {t : ClkTable} {clk clk' : ClkInfo} {rc : Bool} {frames : List (UInt64 × Bool)} {hwType : HwType}

/-- The contexts and the devices have their bandwidths. -/
def SameBw (mgr mgr' : HwMgr) : Prop :=
  SameCtxs mgr mgr' ∧ ∀ hwType b, (mgr'.clkInfo hwType).bw b = (mgr.clkInfo hwType).bw b

lemma clkInfo_setClkInfo_of_ne {hwType' : HwType} (h : hwType' ≠ hwType) :
    (mgr.setClkInfo hwType clk).clkInfo hwType' = mgr.clkInfo hwType' := Function.update_of_ne h ..

lemma bw_setClkInfo (h : ∀ b, clk.bw b = (mgr.clkInfo hwType).bw b) (hwType' : HwType) (b : Bw) :
    ((mgr.setClkInfo hwType clk).clkInfo hwType').bw b = (mgr.clkInfo hwType').bw b := by
  by_cases htype : hwType' = hwType
  · rw [htype, clkInfo_setClkInfo, h]
  · rw [clkInfo_setClkInfo_of_ne htype]

lemma sameBw_withClks (h : ∀ b, clk.bw b = (mgr.clkInfo (mgr.hwTypeOf i)).bw b) :
    SameBw mgr ((mgr.withBaseClk i req baseClk).setClkInfo (mgr.hwTypeOf i) clk) :=
  ⟨(SameCtxs.withBaseClk ..).trans (SameCtxs.setClkInfo ..), bw_setClkInfo h⟩

lemma updateClkOverclkFree_bw (h : updateClkOverclkFree t clk = some (rc, clk')) (b : Bw) :
    clk'.bw b = clk.bw b := by
  rw [updateClkOverclkFree] at h
  split_ifs at h
  · cases h
    cases b <;> rfl
  · obtain ⟨lower, -, h⟩ := Option.bind_eq_some_iff.1 h
    dsimp only at h
    split_ifs at h
    · cases h
      cases b <;> rfl
    · cases h
      cases b <;> rfl
    · obtain ⟨next, -, h⟩ := Option.bind_eq_some_iff.1 h
      cases h
      cases b <;> rfl
    · cases h
      cases b <;> rfl

lemma updateClkFree_sameBw (h : mgr.updateClkFree i req baseClk = some (rc, mgr')) :
    SameBw mgr mgr' := by
  simp only [updateClkFree] at h
  split_ifs at h
  · obtain ⟨⟨rc', clk'⟩, hupdate, h⟩ := Option.map_eq_some_iff.1 h
    cases h
    refine sameBw_withClks fun b => ?_
    rw [updateClkOverclkFree_bw hupdate]
    cases b <;> rfl
  all_goals
    cases h
    exact sameBw_withClks fun b => by cases b <;> rfl

lemma updateClkBusy_sameBw (h : mgr.updateClkBusy i req baseClk = some (rc, mgr')) :
    SameBw mgr mgr' := by
  simp only [updateClkBusy, ClkTable.nextClkRate_eq, Option.map_some] at h
  split_ifs at h
  all_goals
    cases h
    exact sameBw_withClks fun b => by cases b <;> rfl

variable (i frames) in
lemma checkClkUpdate_eq (hdebug : mgr.icpDebugClk = 0) (hreq : req.frameCycles = 0 ∨ req.budgetNs ≠ 0) :
    ∃ rc mgr', mgr.checkClkUpdate i req frames = some (rc, mgr') ∧ SameCtxs mgr mgr' ∧
      ∀ hwType b, (mgr'.clkInfo hwType).bw b =
        if mgr.Overwrites i req ∧ hwType = mgr.hwTypeOf i then mgr.icpDefaultClk
        else (mgr.clkInfo hwType).bw b := by
  have htype : ((mgr.ctxTimerReset i).ctxData i).hwType = mgr.hwTypeOf i :=
    (SameCtxs.ctxTimerReset mgr i).hwType i
  by_cases hfc : req.frameCycles = 0
  · have hdefault : (mgr.ctxTimerReset i).icpDefaultClk = mgr.icpDefaultClk := by
      rw [ctxTimerReset]
      split_ifs <;> rfl
    rw [checkClkUpdate, if_neg (by simpa using hdebug), if_pos hfc, htype, defaultClkUpdate,
      clkInfo_ctxTimerReset, hdefault]
    by_cases hclk : mgr.icpDefaultClk = (mgr.clkInfo (mgr.hwTypeOf i)).currClk.toUInt64
    · rw [if_neg (not_not.2 hclk)]
      refine ⟨_, _, rfl, SameCtxs.ctxTimerReset mgr i, fun hwType b => ?_⟩
      rw [if_neg fun h => h.1.2 hclk, clkInfo_ctxTimerReset]
    · rw [if_pos hclk]
      refine ⟨_, _, rfl, (SameCtxs.ctxTimerReset mgr i).trans (SameCtxs.setClkInfo ..),
        fun hwType b => ?_⟩
      by_cases hhw : hwType = mgr.hwTypeOf i
      · rw [if_pos ⟨⟨hfc, hclk⟩, hhw⟩, hhw, setRate, clkInfo_setClkInfo]
        cases b <;> rfl
      · rw [if_neg fun h => hhw h.2, setRate, clkInfo_setClkInfo_of_ne hhw,
          clkInfo_ctxTimerReset]
  · have hbudget : req.budgetNs ≠ 0 := hreq.resolve_left hfc
    obtain ⟨rc, mgr', hcheck, hsame, hbw⟩ : ∃ rc mgr',
        mgr.checkClkUpdate i req frames = some (rc, mgr') ∧ SameBw (mgr.ctxTimerReset i) mgr' := by
      rw [checkClkUpdate, if_neg (by simpa using hdebug), if_neg hfc, calcBaseClk, if_neg hbudget]
      simp only [Option.bind_eq_bind, Option.bind_some]
      split_ifs
      · obtain ⟨rc, clk, hupdate⟩ : ∃ rc mgr', (mgr.ctxTimerReset i).updateClkBusy i req
            (req.frameCycles.toUInt64 * 1000000000 / req.budgetNs).toUInt32 = some (rc, mgr') := by
          simp only [updateClkBusy, ClkTable.nextClkRate_eq, Option.map_some]
          split_ifs <;> exact ⟨_, _, rfl⟩
        exact ⟨_, _, hupdate, updateClkBusy_sameBw hupdate⟩
      · obtain ⟨rc, clk, hupdate, -⟩ := (mgr.ctxTimerReset i).updateClkFree_eq i req
          (req.frameCycles.toUInt64 * 1000000000 / req.budgetNs).toUInt32
        exact ⟨_, _, hupdate, updateClkFree_sameBw hupdate⟩
    refine ⟨rc, mgr', hcheck, (SameCtxs.ctxTimerReset mgr i).trans hsame, fun hwType b => ?_⟩
    rw [if_neg fun h => hfc h.1.1, hbw, clkInfo_ctxTimerReset]

lemma checkClkUpdate_eq_none (hdebug : mgr.icpDebugClk = 0) (hfc : req.frameCycles ≠ 0)
    (hbudget : req.budgetNs = 0) : mgr.checkClkUpdate i req frames = none := by
  rw [checkClkUpdate, if_neg (by simpa using hdebug), if_neg hfc, calcBaseClk, if_pos hbudget]
  rfl

end Clock

/-- Besides the bandwidths: the debug clock is off, the contexts are counted, and each has one
compressed bandwidth. -/
structure Counted (mgr : HwMgr) : Prop where
  debug : mgr.icpDebugClk = 0
  count : mgr.ctxtCnt.toNat = (Finset.univ.filter fun j => (mgr.ctxData j).acquired).card
  ab : ∀ j, (mgr.ctxData j).acquired →
    (mgr.ctxData j).clkInfo.bw .compressedAb = (mgr.ctxData j).clkInfo.bw .compressed

structure Inv (mgr : HwMgr) : Prop where
  counted : mgr.Counted
  accounted : mgr.Accounted

section Counted
variable {mgr mgr' : HwMgr} {i : Fin CAM_ICP_CTX_MAX}

lemma Counted.of_same (h : mgr.Counted) (hsame : SameCtxs mgr mgr') : mgr'.Counted where
  debug := hsame.icpDebugClk.trans h.debug
  count := by
    rw [hsame.ctxtCnt, h.count]
    simp only [hsame.acquired]
  ab j hj := by
    rw [hsame.bw, hsame.bw]
    exact h.ab j ((hsame.acquired j).symm.trans hj)

lemma Counted.none_acquired (h : mgr.Counted) (hcount : mgr.ctxtCnt = 0) (j : Fin CAM_ICP_CTX_MAX) :
    (mgr.ctxData j).acquired = false := by
  have hcard : (Finset.univ.filter fun j => (mgr.ctxData j).acquired).card = 0 := by
    rw [← h.count, hcount]
    rfl
  have hj := Finset.filter_eq_empty_iff.1 (Finset.card_eq_zero.1 hcard) (Finset.mem_univ j)
  simpa using hj

lemma accounted_of_none_acquired (h : ∀ j, (mgr.ctxData j).acquired = false) : mgr.Accounted :=
  fun _ _ => (bwSum_eq_zero h).le.trans (Nat.zero_le _)

lemma Counted.setCtxClk (h : mgr.Counted) {clk : CtxClkInfo}
    (hab : clk.bw .compressedAb = clk.bw .compressed) : (mgr.setCtxClk i clk).Counted where
  debug := h.debug
  count := by
    change mgr.ctxtCnt.toNat = _
    rw [h.count]
    congr 2
    funext j
    by_cases hj : j = i
    · subst hj
      rw [HwMgr.setCtxClk, ctxData_setCtx_self]
    · rw [HwMgr.setCtxClk, ctxData_setCtx_of_ne hj]
  ab j hj := by
    by_cases hji : j = i
    · subst hji
      rw [HwMgr.setCtxClk, ctxData_setCtx_self]
      exact hab
    · rw [HwMgr.setCtxClk, ctxData_setCtx_of_ne hji] at hj ⊢
      exact h.ab j hj

lemma Accounted.of_le (h : mgr.Accounted)
    (hsum : ∀ hwType b, mgr'.bwSum hwType b ≤ mgr.bwSum hwType b)
    (hbw : ∀ hwType b, (mgr'.clkInfo hwType).bw b = (mgr.clkInfo hwType).bw b) : mgr'.Accounted :=
  fun hwType b => (hsum hwType b).trans (by rw [hbw]; exact h hwType b)

lemma Inv.bwSum_le_vote (h : mgr.Inv) (hwType : HwType) (b : Bw) :
    mgr.bwSum hwType b ≤ ((mgr.cpasVote hwType).bw b).toNat := by
  cases b with
  | uncompressed => exact h.accounted hwType .uncompressed
  | compressed => exact h.accounted hwType .compressed
  | compressedAb =>
    have hab : mgr.bwSum hwType .compressedAb = mgr.bwSum hwType .compressed := by
      refine Finset.sum_congr rfl fun j hj => ?_
      rw [h.counted.ab j (Finset.mem_filter.1 hj).2.1]
    rw [hab]
    exact h.accounted hwType .compressed

end Counted

section Request
variable {mgr mgr' : HwMgr} {i : Fin CAM_ICP_CTX_MAX} {req : ClkBwRequest} {busy : Bool}

/-- The state when the bandwidth of a request is computed. -/
def recomputed (mgr : HwMgr) (i : Fin CAM_ICP_CTX_MAX) (req : ClkBwRequest) : HwMgr :=
  (mgr.withBw i req).setClkInfo (mgr.hwTypeOf i) { mgr.clkInfo (mgr.hwTypeOf i) with
    uncompressedBw := (mgr.withBw i req).calcTotalBw (mgr.hwTypeOf i) .uncompressed
    compressedBw := (mgr.withBw i req).calcTotalBw (mgr.hwTypeOf i) .compressed
    compressedBwAb := (mgr.withBw i req).calcTotalBw (mgr.hwTypeOf i) .compressedAb }

lemma updateBw_eq (hsame : SameCtxs mgr mgr')
    (hbw : ∀ hwType b, (mgr'.clkInfo hwType).bw b =
      if mgr.Overwrites i req ∧ hwType = mgr.hwTypeOf i then mgr.icpDefaultClk
      else (mgr.clkInfo hwType).bw b) :
    mgr'.updateBw i req busy =
      if mgr.KeepsBw i req busy then (false, mgr') else (true, mgr'.recomputed i req) := by
  have hctx : (mgr'.ctxData i).clkInfo.uncompressedBw = (mgr.ctxData i).clkInfo.uncompressedBw :=
    hsame.bw i .uncompressed
  have hclk : (mgr'.clkInfo (mgr'.hwTypeOf i)).uncompressedBw =
      if mgr.Overwrites i req then mgr.icpDefaultClk
      else (mgr.clkInfo (mgr.hwTypeOf i)).uncompressedBw := by
    rw [hsame.hwType]
    exact (hbw _ .uncompressed).trans (by simp only [and_true]; rfl)
  rw [updateBw]
  simp only [hctx, hclk, gt_iff_lt]
  by_cases hfirst : req.uncompressedBw = (mgr.ctxData i).clkInfo.uncompressedBw ∧
      (mgr.ctxData i).clkInfo.uncompressedBw = if mgr.Overwrites i req then mgr.icpDefaultClk
        else (mgr.clkInfo (mgr.hwTypeOf i)).uncompressedBw
  · have hkeeps : mgr.KeepsBw i req busy := .inl hfirst
    rw [if_pos hfirst, if_pos hkeeps]
  · rw [if_neg hfirst]
    by_cases hsecond : busy ∧ req.uncompressedBw < (mgr.ctxData i).clkInfo.uncompressedBw
    · have hkeeps : mgr.KeepsBw i req busy := .inr hsecond
      rw [if_pos hsecond, if_pos hkeeps]
    · have hkeeps : ¬ mgr.KeepsBw i req busy := not_or_intro hfirst hsecond
      rw [if_neg hsecond, if_neg hkeeps]
      rfl

lemma Counted.recomputed (h : mgr.Counted) : (mgr.recomputed i req).Counted :=
  (h.setCtxClk rfl).of_same (SameCtxs.setClkInfo ..)

lemma bw_recomputed_self (b : Bw) : ((mgr.recomputed i req).clkInfo (mgr.hwTypeOf i)).bw b =
    (mgr.withBw i req).calcTotalBw (mgr.hwTypeOf i) b := by
  rw [HwMgr.recomputed, clkInfo_setClkInfo]
  cases b <;> rfl

lemma withBw_bwSum (hsame : SameCtxs mgr mgr') (hwType : HwType) (b : Bw) :
    (mgr'.withBw i req).bwSum hwType b = (mgr.withBw i req).bwSum hwType b := by
  refine bwSum_congr fun j => ?_
  rw [bwPart, bwPart, withBw, withBw, setCtxClk, setCtxClk, hwTypeOf, hwTypeOf]
  by_cases hj : j = i
  · subst hj
    have htype := hsame.hwType j
    rw [hwTypeOf, hwTypeOf] at htype
    rw [ctxData_setCtx_self, ctxData_setCtx_self, hsame.acquired, htype]
    cases b <;> rfl
  · have htype := hsame.hwType j
    rw [hwTypeOf, hwTypeOf] at htype
    rw [ctxData_setCtx_of_ne hj, ctxData_setCtx_of_ne hj, hsame.acquired, htype, hsame.bw]

lemma accounted_recomputed_iff (hsame : SameCtxs mgr mgr') (h : mgr.Accounted)
    (hbw : ∀ hwType b, hwType ≠ mgr.hwTypeOf i →
      (mgr'.clkInfo hwType).bw b = (mgr.clkInfo hwType).bw b) :
    (mgr'.recomputed i req).Accounted ↔
      ∀ b, (mgr.withBw i req).bwSum (mgr.hwTypeOf i) b < 2 ^ 64 := by
  have hself (b : Bw) : (mgr'.recomputed i req).bwSum (mgr.hwTypeOf i) b ≤
      (((mgr'.recomputed i req).clkInfo (mgr.hwTypeOf i)).bw b).toNat ↔
        (mgr.withBw i req).bwSum (mgr.hwTypeOf i) b < 2 ^ 64 := by
    rw [← hsame.hwType i, bw_recomputed_self, toNat_calcTotalBw, hsame.hwType i,
      withBw_bwSum hsame, recomputed, bwSum_setClkInfo, withBw_bwSum hsame]
    constructor
    · intro hle
      exact lt_of_le_of_lt hle (Nat.mod_lt _ (by norm_num))
    · intro hlt
      exact (Nat.mod_eq_of_lt hlt).ge
  constructor
  · intro haccounted b
    exact (hself b).1 (haccounted _ b)
  · intro hlt hwType b
    by_cases htype : hwType = mgr.hwTypeOf i
    · rw [htype]
      exact (hself b).2 (hlt b)
    · have htype' : hwType ≠ mgr'.hwTypeOf i := by rwa [hsame.hwType]
      rw [recomputed, bwSum_setClkInfo, withBw, bwSum_setCtxClk_of_ne htype', hsame.bwSum_eq,
        clkInfo_setClkInfo_of_ne htype']
      exact (h hwType b).trans_eq (congrArg UInt64.toNat (hbw hwType b htype).symm)

lemma accounted_kept_iff (hsame : SameCtxs mgr mgr') (h : mgr.Accounted)
    (hbw : ∀ hwType b, (mgr'.clkInfo hwType).bw b =
      if mgr.Overwrites i req ∧ hwType = mgr.hwTypeOf i then mgr.icpDefaultClk
      else (mgr.clkInfo hwType).bw b) :
    mgr'.Accounted ↔ (mgr.Overwrites i req →
      ∀ b, mgr.bwSum (mgr.hwTypeOf i) b ≤ mgr.icpDefaultClk.toNat) := by
  constructor
  · intro haccounted hover b
    have hle := haccounted (mgr.hwTypeOf i) b
    rwa [hsame.bwSum_eq, hbw, if_pos ⟨hover, rfl⟩] at hle
  · intro hdefault hwType b
    rw [hsame.bwSum_eq, hbw]
    split_ifs with hover
    · rw [hover.2]
      exact hdefault hover.1 b
    · exact h hwType b

variable {frames : List (UInt64 × Bool)} {devIntf : Bool}

variable (i req frames devIntf) in
lemma clkUpdate_cases (hdebug : mgr.icpDebugClk = 0) :
    mgr.clkUpdate i req frames devIntf = (mgr, none) ∧
        ¬ ((mgr.ctxData i).acquired ∧ (req.frameCycles = 0 ∨ req.budgetNs ≠ 0)) ∨
      ((mgr.ctxData i).acquired ∧ (req.frameCycles = 0 ∨ req.budgetNs ≠ 0)) ∧
        ∃ mgr', SameCtxs mgr mgr' ∧ (∀ hwType b, (mgr'.clkInfo hwType).bw b =
            if mgr.Overwrites i req ∧ hwType = mgr.hwTypeOf i then mgr.icpDefaultClk
            else (mgr.clkInfo hwType).bw b) ∧
          mgr.clkUpdate i req frames devIntf =
            if mgr.KeepsBw i req (busyPrevReqs frames) then (mgr', none)
            else (mgr'.recomputed i req, if devIntf then
              some ((mgr'.recomputed i req).cpasVote ((mgr'.recomputed i req).hwTypeOf i))
              else none) := by
  by_cases hacquired : (mgr.ctxData i).acquired
  · by_cases hreq : req.frameCycles = 0 ∨ req.budgetNs ≠ 0
    · obtain ⟨rc, mgr', hcheck, hsame, hbw⟩ := checkClkUpdate_eq i frames hdebug hreq
      refine .inr ⟨⟨hacquired, hreq⟩, mgr', hsame, hbw, ?_⟩
      rw [clkUpdate, if_pos hacquired, hcheck]
      dsimp only
      rw [updateBw_eq hsame hbw]
      split_ifs <;> rfl
    · refine .inl ⟨?_, fun h => hreq h.2⟩
      rw [not_or, not_not] at hreq
      rw [clkUpdate, if_pos hacquired, checkClkUpdate_eq_none hdebug hreq.1 hreq.2]
  · exact .inl ⟨if_neg hacquired, fun h => hacquired h.1⟩

lemma Counted.clkUpdate (h : mgr.Counted) : (mgr.clkUpdate i req frames devIntf).1.Counted := by
  obtain ⟨heq, -⟩ | ⟨-, mgr', hsame, -, heq⟩ :=
    clkUpdate_cases i req frames devIntf h.debug
  · rwa [heq]
  · rw [heq]
    split_ifs
    · exact h.of_same hsame
    all_goals exact (h.of_same hsame).recomputed

lemma accounted_clkUpdate_iff (h : mgr.Inv) :
    (mgr.clkUpdate i req frames devIntf).1.Accounted ↔
      mgr.StepGood (.request i req frames devIntf) := by
  obtain ⟨heq, hnot⟩ | ⟨hreq, mgr', hsame, hbw, heq⟩ :=
    clkUpdate_cases i req frames devIntf h.counted.debug
  · rw [heq]
    exact iff_of_true h.accounted fun hacquired hreq => absurd ⟨hacquired, hreq⟩ hnot
  · have hgood : mgr.StepGood (.request i req frames devIntf) ↔
        mgr.RequestGood i req (busyPrevReqs frames) :=
      ⟨fun hgood => hgood hreq.1 hreq.2, fun hgood _ _ => hgood⟩
    rw [heq, hgood, RequestGood]
    by_cases hkeeps : mgr.KeepsBw i req (busyPrevReqs frames)
    · rw [if_pos hkeeps, if_pos hkeeps]
      exact accounted_kept_iff hsame h.accounted hbw
    · rw [if_neg hkeeps, if_neg hkeeps]
      refine accounted_recomputed_iff hsame h.accounted fun hwType b htype => ?_
      rw [hbw, if_neg fun hover => htype hover.2]

lemma clkUpdate_vote {vote : AxiVote} (h : mgr.Counted)
    (hvote : (mgr.clkUpdate i req frames devIntf).2 = some vote) :
    vote = (mgr.clkUpdate i req frames devIntf).1.cpasVote vote.hwType := by
  obtain ⟨heq, -⟩ | ⟨-, mgr', hsame, hbw, heq⟩ :=
    clkUpdate_cases i req frames devIntf h.debug
  · rw [heq] at hvote
    cases hvote
  · rw [heq] at hvote ⊢
    split_ifs at hvote ⊢
    all_goals cases hvote
    rfl

end Request

/-! ### The other steps -/

section Steps
variable {mgr : HwMgr} {i : Fin CAM_ICP_CTX_MAX} {hwType : HwType} {b : Bw}

lemma bw_idleClk (clk : CtxClkInfo) (b : Bw) : (idleClk clk).bw b = 0 := by cases b <;> rfl

lemma takeBack_eq : mgr.takeBack i = (mgr.setCtxClk i (idleClk (mgr.ctxData i).clkInfo)).setClkInfo
    (mgr.hwTypeOf i) { mgr.clkInfo (mgr.hwTypeOf i) with
      uncompressedBw := (mgr.clkInfo (mgr.hwTypeOf i)).uncompressedBw -
        (mgr.ctxData i).clkInfo.uncompressedBw
      compressedBw := (mgr.clkInfo (mgr.hwTypeOf i)).compressedBw -
        (mgr.ctxData i).clkInfo.compressedBw
      compressedBwAb := (mgr.clkInfo (mgr.hwTypeOf i)).compressedBwAb -
        (mgr.ctxData i).clkInfo.compressedBwAb } := rfl

lemma Accounted.ctx_bw_le (h : mgr.Accounted) (hacquired : (mgr.ctxData i).acquired) (b : Bw) :
    (mgr.ctxData i).clkInfo.bw b ≤ (mgr.clkInfo (mgr.hwTypeOf i)).bw b := by
  rw [UInt64.le_iff_toNat_le, ← bwPart_self hacquired]
  exact bwPart_le_bwSum.trans (h _ b)

lemma Accounted.takeBack (h : mgr.Accounted) (hacquired : (mgr.ctxData i).acquired) :
    (mgr.takeBack i).Accounted := by
  intro hwType b
  rw [takeBack_eq, bwSum_setClkInfo]
  by_cases htype : hwType = mgr.hwTypeOf i
  · have hsum : (mgr.setCtxClk i (idleClk (mgr.ctxData i).clkInfo)).bwSum (mgr.hwTypeOf i) b +
        mgr.bwPart (mgr.hwTypeOf i) b i = mgr.bwSum (mgr.hwTypeOf i) b +
          (mgr.setCtxClk i (idleClk (mgr.ctxData i).clkInfo)).bwPart (mgr.hwTypeOf i) b i :=
      bwSum_add_of_ne fun j hj => bwPart_setCtx_of_ne hj
    rw [bwPart_setCtxClk_self hacquired, bwPart_self hacquired, bw_idleClk, UInt64.toNat_zero,
      Nat.add_zero] at hsum
    have hsub : (((mgr.takeBack i).clkInfo (mgr.hwTypeOf i)).bw b).toNat =
        ((mgr.clkInfo (mgr.hwTypeOf i)).bw b).toNat - ((mgr.ctxData i).clkInfo.bw b).toNat := by
      rw [← UInt64.toNat_sub_of_le _ _ (h.ctx_bw_le hacquired b), takeBack_eq, clkInfo_setClkInfo]
      cases b <;> rfl
    have hle := h (mgr.hwTypeOf i) b
    rw [htype, ← takeBack_eq, hsub]
    omega
  · rw [bwSum_setCtxClk_of_ne htype, clkInfo_setClkInfo_of_ne htype]
    exact h hwType b

lemma Counted.takeBack (h : mgr.Counted) : (mgr.takeBack i).Counted :=
  (h.setCtxClk rfl).of_same (SameCtxs.setClkInfo ..)

lemma inv_deinitCtxs {pending : Fin CAM_ICP_CTX_MAX → Bool} (js : List (Fin CAM_ICP_CTX_MAX))
    (h : mgr.Inv) : (deinitCtxs hwType pending js mgr).Inv := by
  induction js generalizing mgr with
  | nil => exact h
  | cons j rest ih =>
    rw [deinitCtxs]
    split_ifs
    · exact h
    · exact ih ⟨h.counted.setCtxClk rfl,
        h.accounted.of_le (fun _ _ => bwSum_idle_le) fun _ _ => rfl⟩
    · exact ih h

lemma inv_of_sameBw {mgr' : HwMgr} (h : mgr.Inv) (hsame : SameBw mgr mgr') : mgr'.Inv :=
  ⟨h.counted.of_same hsame.1,
    h.accounted.of_le (fun hwType b => (hsame.1.bwSum_eq hwType b).le) hsame.2⟩

lemma inv_deinitIdleClk {pending : Fin CAM_ICP_CTX_MAX → Bool} (h : mgr.Inv) :
    (mgr.deinitIdleClk hwType pending).Inv :=
  inv_deinitCtxs _ (inv_of_sameBw h
    ⟨SameCtxs.setClkInfo .., bw_setClkInfo fun b => by cases b <;> rfl⟩)

lemma getFreeCtx_acquired (h : mgr.getFreeCtx = some i) : (mgr.ctxData i).acquired = false := by
  simpa using List.find?_some h

lemma inv_initClkInfo {baseClk : UInt32} (h : mgr.Counted)
    (hnone : ∀ j, (mgr.ctxData j).acquired = false) : (mgr.initClkInfo baseClk).Inv :=
  ⟨⟨h.debug, h.count, h.ab⟩, accounted_of_none_acquired hnone⟩

lemma inv_acquire {ctx : Ctx} {clk : CtxClkInfo} (h : mgr.Inv) (hfree : (mgr.ctxData i).acquired = false)
    (hacquired : ctx.acquired) (hclk : ctx.clkInfo = idleClk clk) :
    ({ mgr.setCtx i ctx with ctxtCnt := mgr.ctxtCnt + 1 } : HwMgr).Inv := by
  have hset : (Finset.univ.filter fun j => ((mgr.setCtx i ctx).ctxData j).acquired) =
      insert i (Finset.univ.filter fun j => (mgr.ctxData j).acquired) := by
    ext j
    rw [Finset.mem_insert, Finset.mem_filter_univ, Finset.mem_filter_univ]
    by_cases hj : j = i
    · subst hj
      simp [hacquired]
    · simp [ctxData_setCtx_of_ne hj, hj]
  have hnot : i ∉ Finset.univ.filter fun j => (mgr.ctxData j).acquired := by simp [hfree]
  have hcard : (insert i (Finset.univ.filter fun j => (mgr.ctxData j).acquired)).card ≤
      54 := card_finset_fin_le _
  refine ⟨⟨h.counted.debug, ?_, fun j hj => ?_⟩, fun hwType b => ?_⟩
  · change (mgr.ctxtCnt + 1).toNat = (Finset.univ.filter fun j =>
      ((mgr.setCtx i ctx).ctxData j).acquired).card
    rw [Finset.card_insert_of_notMem hnot, ← h.counted.count] at hcard
    rw [hset, Finset.card_insert_of_notMem hnot, ← h.counted.count, UInt32.toNat_add]
    exact Nat.mod_eq_of_lt (by rw [UInt32.toNat_one]; omega)
  · change ((mgr.setCtx i ctx).ctxData j).acquired at hj
    change ((mgr.setCtx i ctx).ctxData j).clkInfo.bw _ = ((mgr.setCtx i ctx).ctxData j).clkInfo.bw _
    by_cases hji : j = i
    · subst hji
      rw [ctxData_setCtx_self, hclk, bw_idleClk, bw_idleClk]
    · rw [ctxData_setCtx_of_ne hji] at hj ⊢
      exact h.counted.ab j hj
  · rw [bwSum_setCtxtCnt]
    refine le_trans (bwSum_le fun j => ?_) (h.accounted hwType b)
    by_cases hj : j = i
    · subst hj
      rw [bwPart, ctxData_setCtx_self, hclk, bw_idleClk]
      split_ifs <;> exact Nat.zero_le _
    · exact (bwPart_setCtx_of_ne hj).le

lemma inv_acquireHw {table : ClkTable} {buffers resumed timer : Bool} (h : mgr.Inv) :
    (mgr.acquireHw hwType table buffers resumed timer).Inv := by
  rw [acquireHw]
  cases hfree : mgr.getFreeCtx with
  | none => exact h
  | some i =>
    have hinv : (if mgr.ctxtCnt = 0 then mgr.clkInfoInit else mgr).Inv := by
      split_ifs with hcount
      · exact inv_initClkInfo h.counted (h.counted.none_acquired hcount)
      · exact h
    have hctx : (if mgr.ctxtCnt = 0 then mgr.clkInfoInit else mgr).ctxData = mgr.ctxData := by
      split_ifs <;> rfl
    dsimp only
    generalize (if mgr.ctxtCnt = 0 then mgr.clkInfoInit else mgr) = started at hinv hctx ⊢
    split_ifs
    · refine inv_acquire hinv ?_ rfl rfl
      rw [hctx]
      exact getFreeCtx_acquired hfree
    · exact hinv
    · exact h

lemma inv_releaseCtx (h : mgr.Inv) (hacquired : (mgr.ctxData i).acquired) : (mgr.releaseCtx i).Inv := by
  have hctx (j : Fin CAM_ICP_CTX_MAX) (hj : j ≠ i) :
      (mgr.releaseCtx i).ctxData j = mgr.ctxData j := ctxData_setCtx_of_ne hj
  have hself : ((mgr.releaseCtx i).ctxData i).acquired = false := by
    change ((mgr.setCtx i _).ctxData i).acquired = false
    rw [ctxData_setCtx_self]
  have hset : (Finset.univ.filter fun j => ((mgr.releaseCtx i).ctxData j).acquired) =
      (Finset.univ.filter fun j => (mgr.ctxData j).acquired).erase i := by
    ext j
    rw [Finset.mem_erase, Finset.mem_filter_univ, Finset.mem_filter_univ]
    by_cases hj : j = i
    · subst hj
      simp [hself]
    · simp [hctx j hj, hj]
  have hmem : i ∈ Finset.univ.filter fun j => (mgr.ctxData j).acquired := by simp [hacquired]
  have hpos := Finset.card_pos.2 ⟨i, hmem⟩
  refine ⟨⟨h.counted.debug, ?_, fun j hj => ?_⟩, fun hwType b => ?_⟩
  · change (mgr.ctxtCnt - 1).toNat = _
    rw [hset, Finset.card_erase_of_mem hmem, ← h.counted.count, UInt32.toNat_sub_of_le, UInt32.toNat_one]
    rw [UInt32.le_iff_toNat_le, h.counted.count]
    exact hpos
  · have hji : j ≠ i := by
      rintro rfl
      rw [hself] at hj
      cases hj
    rw [hctx j hji] at hj ⊢
    exact h.counted.ab j hj
  · have hbw : ((mgr.releaseCtx i).clkInfo hwType).bw b = (mgr.clkInfo hwType).bw b := by
      refine bw_setClkInfo (fun b => ?_) hwType b
      split_ifs
      all_goals cases b <;> rfl
    rw [hbw]
    refine le_trans (bwSum_le fun j => ?_) (h.accounted hwType b)
    by_cases hj : j = i
    · subst hj
      rw [bwPart, if_neg (by simp [hself])]
      exact Nat.zero_le _
    · rw [bwPart, bwPart, hwTypeOf, hwTypeOf, hctx j hj]

lemma inv_releaseHw (h : mgr.Inv) : (mgr.releaseHw i).Inv := by
  rw [releaseHw]
  split_ifs with hacquired hcount
  · have hinv := inv_releaseCtx h hacquired
    exact inv_initClkInfo hinv.counted (hinv.counted.none_acquired hcount)
  · exact inv_releaseCtx h hacquired
  · exact h

lemma acquired_of_acts {pending devIntf : Bool} (h : mgr.ctxTimerActs i pending devIntf) :
    (mgr.ctxData i).acquired := by
  rw [ctxTimerActs] at h
  simp only [Bool.and_eq_true] at h
  exact h.1.1.1

lemma inv_ctxTimer {pending devIntf : Bool} (h : mgr.Inv) : (mgr.ctxTimer i pending devIntf).1.Inv := by
  rw [ctxTimer]
  split_ifs with hacts
  · exact ⟨h.counted.takeBack, h.accounted.takeBack (acquired_of_acts hacts)⟩
  · exact inv_of_sameBw h ⟨SameCtxs.ctxTimerReset .., fun _ _ => by rw [clkInfo_ctxTimerReset]⟩
  · exact h

lemma ctxTimer_vote {pending devIntf : Bool} {vote : AxiVote}
    (hvote : (mgr.ctxTimer i pending devIntf).2 = some vote) :
    vote = (mgr.ctxTimer i pending devIntf).1.cpasVote vote.hwType := by
  rw [ctxTimer] at hvote ⊢
  split_ifs at hvote ⊢
  all_goals cases hvote
  rfl

lemma stepSound_iff_stepGood (h : mgr.Inv) (input : Input) :
    mgr.StepSound input ↔ mgr.StepGood input := by
  cases input with
  | request i req frames devIntf =>
    constructor
    · intro hsound
      exact (accounted_clkUpdate_iff h).1 hsound.accounted
    · intro hgood
      have hinv : (mgr.clkUpdate i req frames devIntf).1.Inv :=
        ⟨h.counted.clkUpdate, (accounted_clkUpdate_iff h).2 hgood⟩
      refine ⟨hinv.accounted, trivial, fun vote hvote b => ?_⟩
      rw [clkUpdate_vote h.counted hvote]
      exact hinv.bwSum_le_vote vote.hwType b
  | ctxTimer i pending devIntf =>
    refine iff_of_true ⟨(inv_ctxTimer h).accounted, fun hacts =>
      h.accounted.ctx_bw_le (acquired_of_acts hacts), fun vote hvote b => ?_⟩ trivial
    rw [ctxTimer_vote hvote]
    exact (inv_ctxTimer h).bwSum_le_vote vote.hwType b
  | deviceTimer hwType pending =>
    exact iff_of_true ⟨(inv_deinitIdleClk h).accounted, trivial, fun _ hvote => nomatch hvote⟩ trivial
  | acquire hwType table buffers resumed timer =>
    exact iff_of_true ⟨(inv_acquireHw h).accounted, trivial, fun _ hvote => nomatch hvote⟩ trivial
  | release i =>
    exact iff_of_true ⟨(inv_releaseHw h).accounted, trivial, fun _ hvote => nomatch hvote⟩ trivial

lemma inv_step (h : mgr.Inv) {input : Input} (hgood : mgr.StepGood input) : (mgr.step input).Inv := by
  cases input with
  | request i req frames devIntf =>
    exact ⟨h.counted.clkUpdate, (accounted_clkUpdate_iff h).2 hgood⟩
  | ctxTimer i pending devIntf => exact inv_ctxTimer h
  | deviceTimer hwType pending => exact inv_deinitIdleClk h
  | acquire hwType table buffers resumed timer => exact inv_acquireHw h
  | release i => exact inv_releaseHw h

end Steps

/-- No context is acquired, and the debug clock is off. -/
structure Idle (mgr : HwMgr) : Prop where
  free : ∀ j, (mgr.ctxData j).acquired = false
  ctxtCnt : mgr.ctxtCnt = 0
  icpDebugClk : mgr.icpDebugClk = 0

lemma Idle.inv {mgr : HwMgr} (h : mgr.Idle) : mgr.Inv := by
  refine ⟨⟨h.icpDebugClk, ?_, fun j hj => ?_⟩, accounted_of_none_acquired h.free⟩
  · simp [h.free, h.ctxtCnt]
  · rw [h.free] at hj
    cases hj

/-- In every run the bandwidths account for the contexts, step by step, if and only if its requests
are good. -/
theorem bw_accounted_iff_requests_good {mgr : HwMgr} (h : mgr.Idle) (inputs : List Input) :
    Guarded HwMgr.step HwMgr.StepSound mgr inputs ↔ Guarded HwMgr.step HwMgr.StepGood mgr inputs :=
  guarded_iff (fun (_ : HwMgr) input (hinv : HwMgr.Inv _) => stepSound_iff_stepGood hinv input)
    (fun _ _ hinv hgood => inv_step hinv hgood) h.inv

end HwMgr

/-! A context whose clock is above the default one asks for the default, with frames pending. -/

namespace HwMgr

def faster : ClkTable where
  clkRate _ := 600000000
  mono := by decide

def idle : HwMgr where
  ctxData _ := ⟨false, .ipe, ⟨0, 0, 0, 0, 0, 0⟩, faster, false, 0⟩
  clkInfo _ := ⟨0, 0, 0, 0, 0, 0, 0⟩
  ctxtCnt := 0
  icpDebugClk := 0
  icpDefaultClk := 0

lemma idle_idle : idle.Idle := ⟨fun _ => rfl, rfl, rfl⟩

section
local instance ctxMax_neZero : NeZero CAM_ICP_CTX_MAX := ⟨by decide⟩

/-- Two contexts with a request each. -/
def twoRequests : List Input :=
  [.acquire .ipe faster true true true, .acquire .ipe faster true true true,
    .request 0 ⟨1000000000, 500000000, 0, 500000000, 400000000⟩ [(1, false)] true,
    .request 1 ⟨1000000000, 300000000, 0, 300000000, 200000000⟩ [(1, false)] true,
    .ctxTimer 0 false true, .release 1]

/-- A request is in the firmware once its clock has been set. -/
def withoutClock : List Input :=
  [.acquire .ipe faster true true true,
    .request 0 ⟨1000000000, 500000000, 0, 500000000, 500000000⟩ [(1, false)] true,
    .request 0 ⟨1000000000, 500000000, 0, 500000000, 500000000⟩ [(1, true), (2, false)] true,
    .request 0 ⟨0, 0, 0, 0, 0⟩ [(1, true), (2, true), (3, false)] true]

end

theorem twoRequests_accounted : Guarded HwMgr.step HwMgr.StepSound idle twoRequests := by
  have hfirst : (run HwMgr.step idle (twoRequests.take 2)).RequestGood 0
      ⟨1000000000, 500000000, 0, 500000000, 400000000⟩ false := by
    rw [RequestGood, if_neg (by decide +kernel)]
    intro b
    cases b <;> decide +kernel
  have hsecond : (run HwMgr.step idle (twoRequests.take 3)).RequestGood 1
      ⟨1000000000, 300000000, 0, 300000000, 200000000⟩ false := by
    rw [RequestGood, if_neg (by decide +kernel)]
    intro b
    cases b <;> decide +kernel
  exact (bw_accounted_iff_requests_good idle_idle _).2
    ⟨trivial, trivial, fun _ _ => hfirst, fun _ _ => hsecond, trivial, trivial, trivial⟩

/-- The default clock of 400 MHz is less than the context's bandwidth, and the timer wraps. -/
theorem not_bw_accounted : ¬ (run HwMgr.step idle withoutClock).Accounted ∧
    ¬ (run HwMgr.step idle withoutClock).TimerExact (.ctxTimer 0 false true) := by
  constructor
  · intro h
    have hsum := h .ipe .uncompressed
    revert hsum
    decide +kernel
  · intro h
    have hbw := h (by decide +kernel) .uncompressed
    revert hbw
    decide +kernel

end HwMgr

end CameraKernel.IcpClk
