import CameraKernel.IspPrepare

/-! Stopping an IFE context, regularly and in an overflow. Both ways go over the positions of the
base array; the master is known by its hardware index. -/
namespace CameraKernel.IfeStop
open IspPrepare (ResourceNode HwMgrRes SplitId CtxBaseInfo)

/-- The base array: its cores are distinct, since `cam_ife_mgr_add_base_info` adds none twice. -/
structure BaseTable where
  base : List CtxBaseInfo
  nodup : (base.map (·.idx)).Nodup

def BaseTable.empty : BaseTable := ⟨[], List.nodup_nil⟩

/-- An entry of the core takes the split id if it has none. -/
def takeSplit (splitId : SplitId) (baseIdx : UInt32) (b : CtxBaseInfo) : CtxBaseInfo :=
  if b.idx = baseIdx ∧ splitId ≠ .max ∧ b.splitId = .max then { b with splitId } else b

def addBase (base : List CtxBaseInfo) (splitId : SplitId) (baseIdx : UInt32) : List CtxBaseInfo :=
  if ∃ b ∈ base, b.idx = baseIdx then base.map (takeSplit splitId baseIdx)
  else base ++ [⟨baseIdx, splitId⟩]

lemma map_idx_takeSplit (base : List CtxBaseInfo) (splitId : SplitId) (baseIdx : UInt32) :
    (base.map (takeSplit splitId baseIdx)).map (·.idx) = base.map (·.idx) := by
  rw [List.map_map]
  refine List.map_congr_left fun b _ => ?_
  rw [Function.comp, takeSplit]
  split_ifs <;> rfl

def addBaseInfo (t : BaseTable) (splitId : SplitId) (baseIdx : UInt32) : BaseTable where
  base := addBase t.base splitId baseIdx
  nodup := by
    rw [addBase]
    split_ifs with h
    · rw [map_idx_takeSplit]
      exact t.nodup
    · rw [List.map_append, List.map_singleton, List.nodup_append]
      refine ⟨t.nodup, List.nodup_singleton _, fun a ha c hc => ?_⟩
      obtain ⟨b, hb, rfl⟩ := List.mem_map.mp ha
      rintro rfl
      exact h ⟨b, hb, List.mem_singleton.mp hc⟩

/-- The nodes of a source, with the split id of their place. -/
def splitNodes (res : HwMgrRes) : List (SplitId × ResourceNode) :=
  res.left.toList.map (SplitId.left, ·) ++ res.right.toList.map (SplitId.right, ·)

/-- `cam_ife_mgr_process_base_info`, for a context without bases. -/
def processBaseInfo (src : List HwMgrRes) : BaseTable :=
  ((src.filter fun res => !res.uninit).flatMap splitNodes).foldl
    (fun t node => addBaseInfo t node.1 node.2.hwIdx) .empty

/-- The lists of resources of a context. -/
inductive ResList
  | cid | csid | src | inRd | out
  deriving DecidableEq, Repr

/-- What stopping reads of `struct cam_ife_hw_mgr_ctx`. -/
structure Ctx where
  ctxInUse : Bool
  bases : BaseTable
  resList : ResList → List HwMgrRes

inductive HaltCmd
  | atFrameBoundary | immediately
  deriving DecidableEq, Repr

/-- What is sent to the hardware: a stop of the nodes of a list on a CSID core, a stop of a node, or
one of the steps behind them. -/
inductive Stop
  | csid (list : ResList) (core : UInt32) (nodes : List ResourceNode) (cmd : HaltCmd)
  | res (list : ResList) (node : ResourceNode)
  | tasklet
  | pause
  | streamOff
  | deinit
  deriving DecidableEq, Repr

def coreNodes (ctx : Ctx) (list : ResList) (baseIdx : UInt32) : List ResourceNode :=
  (ctx.resList list).flatMap fun res => (res.nodesOn baseIdx).map (·.1)

def csidStopHw (ctx : Ctx) (list : ResList) (cmd : HaltCmd) (baseIdx : UInt32) : List Stop :=
  if coreNodes ctx list baseIdx = [] then []
  else [.csid list baseIdx (coreNodes ctx list baseIdx) cmd]

/-- `cam_ife_hw_mgr_stop_hw_res` for all resources of a list. -/
def stopHwRes (ctx : Ctx) (list : ResList) : List Stop :=
  (ctx.resList list).flatMap fun res => (res.left.toList ++ res.right.toList).map (Stop.res list)

def masterBaseIdx (base : List CtxBaseInfo) : UInt32 :=
  match base.find? (·.splitId = .left) with
  | some b => b.idx
  | none => (base.head?.map (·.idx)).getD 0

/-- The cores that the overflow handler comes to: its loops leave out a position. -/
def overflowCores (base : List CtxBaseInfo) : List UInt32 :=
  masterBaseIdx base :: (base.zipIdx.filter fun b => b.2 ≠ (masterBaseIdx base).toNat).map (·.1.idx)

/-- The cores that the regular stop comes to: its loops leave out a core. -/
def stopCores (base : List CtxBaseInfo) : List UInt32 :=
  masterBaseIdx base :: (base.filter fun b => b.idx ≠ masterBaseIdx base).map (·.idx)

def camIfeMgrStopHwInOverflow (ctx : Ctx) : ℤ × List Stop :=
  if !ctx.ctxInUse then (-Errno.EPERM, [])
  else if ctx.bases.base = [] then (-Errno.EINVAL, [])
  else (0,
    (overflowCores ctx.bases.base).flatMap (csidStopHw ctx .cid .immediately) ++
    (overflowCores ctx.bases.base).flatMap (csidStopHw ctx .csid .immediately) ++
    stopHwRes ctx .src ++ stopHwRes ctx .inRd ++ stopHwRes ctx .out ++ [Stop.tasklet])

/-- `struct cam_isp_stop_args`. -/
structure StopArgs where
  hwStopCmd : HaltCmd
  stopOnly : Bool

def camIfeMgrStopHw (ctx : Ctx) (args : StopArgs) : ℤ × List Stop :=
  if !ctx.ctxInUse then (-Errno.EPERM, [])
  else if args.hwStopCmd = .immediately ∧ args.stopOnly then (-Errno.EPERM, [])
  else if ctx.bases.base = [] then (-Errno.EINVAL, [])
  else (0,
    (stopCores ctx.bases.base).flatMap (csidStopHw ctx .csid args.hwStopCmd) ++
    (stopCores ctx.bases.base).flatMap (csidStopHw ctx .cid args.hwStopCmd) ++
    stopHwRes ctx .out ++ stopHwRes ctx .inRd ++ stopHwRes ctx .src ++ [Stop.tasklet, Stop.pause] ++
    if args.stopOnly then [] else [Stop.streamOff, Stop.deinit])

/-- The cores that a list's stops are sent to. -/
def sentCores (list : ResList) (stops : List Stop) : List UInt32 :=
  stops.filterMap fun
    | .csid l core _ _ => if l = list then some core else none
    | _ => none

/-- The nodes that are stopped, with their lists. -/
def stoppedNodes (stops : List Stop) : List (ResList × ResourceNode) :=
  stops.flatMap fun
    | .csid l _ nodes _ => nodes.map (l, ·)
    | .res l node => [(l, node)]
    | _ => []

/-- Each core that has nodes of the list gets one stop for it, the master first. -/
structure StopsCores (ctx : Ctx) (list : ResList) (stops : List Stop) : Prop where
  once : ∀ b ∈ ctx.bases.base, coreNodes ctx list b.idx ≠ [] →
    (sentCores list stops).count b.idx = 1
  only : ∀ core ∈ sentCores list stops, ∃ b ∈ ctx.bases.base, b.idx = core
  masterFirst : ctx.bases.base ≠ [] → coreNodes ctx list (masterBaseIdx ctx.bases.base) ≠ [] →
    (sentCores list stops).head? = some (masterBaseIdx ctx.bases.base)

/-- The overflow handler stops each core once, and what every regular stop stops. -/
structure StopsAll (ctx : Ctx) : Prop where
  cid : StopsCores ctx .cid (camIfeMgrStopHwInOverflow ctx).2
  csid : StopsCores ctx .csid (camIfeMgrStopHwInOverflow ctx).2
  same : ∀ args, (camIfeMgrStopHw ctx args).1 = 0 → ∀ node,
    node ∈ stoppedNodes (camIfeMgrStopHwInOverflow ctx).2 ↔
      node ∈ stoppedNodes (camIfeMgrStopHw ctx args).2

/-- Of the cores that have nodes of the list, the master alone is where its hardware index is a
position. -/
def InPlace (ctx : Ctx) (list : ResList) : Prop :=
  ∀ i b, ctx.bases.base[i]? = some b → coreNodes ctx list b.idx ≠ [] →
    (b.idx = masterBaseIdx ctx.bases.base ↔ i = (masterBaseIdx ctx.bases.base).toNat)

variable {ctx : Ctx} {list l : ResList} {base : List CtxBaseInfo}

@[simp] lemma sentCores_append (a b : List Stop) :
    sentCores list (a ++ b) = sentCores list a ++ sentCores list b := by
  simp [sentCores]

@[simp] lemma stoppedNodes_append (a b : List Stop) :
    stoppedNodes (a ++ b) = stoppedNodes a ++ stoppedNodes b := by
  simp [stoppedNodes]

lemma sentCores_csid (cmd : HaltCmd) (cores : List UInt32) :
    sentCores list (cores.flatMap (csidStopHw ctx l cmd)) =
      if l = list then cores.filter fun core => coreNodes ctx l core ≠ [] else [] := by
  induction cores with
  | nil => simp [sentCores]
  | cons core cores ih =>
    rw [List.flatMap_cons, sentCores_append, ih, csidStopHw]
    by_cases hl : l = list
    · subst hl
      by_cases hn : coreNodes ctx l core = [] <;> simp [sentCores, hn]
    · by_cases hn : coreNodes ctx l core = [] <;> simp [sentCores, hl, hn]

@[simp] lemma sentCores_stopHwRes : sentCores list (stopHwRes ctx l) = [] := by
  simp only [sentCores, stopHwRes, List.filterMap_eq_nil_iff]
  intro stop hstop
  obtain ⟨res, -, hnode⟩ := List.mem_flatMap.mp hstop
  obtain ⟨node, -, rfl⟩ := List.mem_map.mp hnode
  rfl

lemma mem_stoppedNodes_csid (cmd : HaltCmd) (cores : List UInt32) (node : ResList × ResourceNode) :
    node ∈ stoppedNodes (cores.flatMap (csidStopHw ctx l cmd)) ↔
      node.1 = l ∧ ∃ core ∈ cores, node.2 ∈ coreNodes ctx l core := by
  obtain ⟨list, node⟩ := node
  simp only [stoppedNodes, List.flatMap_assoc, List.mem_flatMap, csidStopHw]
  constructor
  · rintro ⟨core, hcore, hnode⟩
    split_ifs at hnode
    · simp at hnode
    · obtain ⟨stop, hstop, hnode⟩ := hnode
      rw [List.mem_singleton.mp hstop] at hnode
      obtain ⟨_, hmem, heq⟩ := List.mem_map.mp hnode
      cases heq
      exact ⟨rfl, core, hcore, hmem⟩
  · rintro ⟨rfl, core, hcore, hmem⟩
    refine ⟨core, hcore, ?_⟩
    rw [if_neg (List.ne_nil_of_mem hmem)]
    simpa using hmem

lemma sentCores_overflow (hin : ctx.ctxInUse = true) (hbase : ctx.bases.base ≠ []) :
    sentCores .cid (camIfeMgrStopHwInOverflow ctx).2 =
        (overflowCores ctx.bases.base).filter (fun core => coreNodes ctx .cid core ≠ []) ∧
      sentCores .csid (camIfeMgrStopHwInOverflow ctx).2 =
        (overflowCores ctx.bases.base).filter (fun core => coreNodes ctx .csid core ≠ []) := by
  rw [camIfeMgrStopHwInOverflow, hin, Bool.not_true, if_neg (by simp), if_neg hbase]
  simp only [sentCores_append, sentCores_csid, sentCores_stopHwRes]
  simp [sentCores]

lemma masterBaseIdx_mem (hbase : base ≠ []) : ∃ b ∈ base, b.idx = masterBaseIdx base := by
  rw [masterBaseIdx]
  cases hfind : base.find? (·.splitId = .left) with
  | some b => exact ⟨b, List.mem_of_find?_eq_some hfind, rfl⟩
  | none =>
    cases base with
    | nil => exact absurd rfl hbase
    | cons b base => exact ⟨b, by simp, rfl⟩

lemma mem_stopCores (hbase : base ≠ []) (core : UInt32) :
    core ∈ stopCores base ↔ ∃ b ∈ base, b.idx = core := by
  rw [stopCores, List.mem_cons, List.mem_map]
  constructor
  · rintro (rfl | ⟨b, hb, rfl⟩)
    · exact masterBaseIdx_mem hbase
    · exact ⟨b, (List.mem_filter.mp hb).1, rfl⟩
  · rintro ⟨b, hb, rfl⟩
    by_cases hm : b.idx = masterBaseIdx base
    · exact .inl hm
    · exact .inr ⟨b, List.mem_filter.mpr ⟨hb, by simpa using hm⟩, rfl⟩

/-- The positions that the overflow handler's loop does not leave out. -/
def otherCores (base : List CtxBaseInfo) : List UInt32 :=
  (base.zipIdx.filter fun b => b.2 ≠ (masterBaseIdx base).toNat).map (·.1.idx)

lemma mem_otherCores (hnodup : (base.map (·.idx)).Nodup) {i : ℕ} {b : CtxBaseInfo}
    (hb : base[i]? = some b) : b.idx ∈ otherCores base ↔ i ≠ (masterBaseIdx base).toNat := by
  rw [otherCores, List.mem_map]
  constructor
  · rintro ⟨⟨c, j⟩, hmem, hidx⟩
    obtain ⟨hmem, hj⟩ := List.mem_filter.mp hmem
    have hc : base[j]? = some c := List.mem_zipIdx_iff_getElem?.mp hmem
    obtain ⟨hi, hbi⟩ := List.getElem?_eq_some_iff.mp hb
    obtain ⟨hj', hcj⟩ := List.getElem?_eq_some_iff.mp hc
    have : j = i := by
      refine (@List.Nodup.getElem_inj_iff _ _ hnodup j (by simpa) i (by simpa)).mp ?_
      simpa [hbi, hcj] using hidx
    subst this
    simpa using hj
  · intro hi
    exact ⟨(b, i), List.mem_filter.mpr ⟨List.mem_zipIdx_iff_getElem?.mpr hb, by simpa using hi⟩, rfl⟩

lemma otherCores_nodup (hnodup : (base.map (·.idx)).Nodup) : (otherCores base).Nodup := by
  have hsub : (otherCores base).Sublist (base.zipIdx.map (·.1.idx)) :=
    List.filter_sublist.map _
  have hmap : base.zipIdx.map (·.1.idx) = base.map (·.idx) := by
    rw [show (fun b : CtxBaseInfo × ℕ => b.1.idx) = (·.idx) ∘ Prod.fst from rfl, ← List.map_map,
      List.zipIdx_map_fst]
  exact (hmap ▸ hnodup).sublist hsub

lemma count_overflowCores (hnodup : (base.map (·.idx)).Nodup) {i : ℕ} {b : CtxBaseInfo}
    (hb : base[i]? = some b) : (overflowCores base).count b.idx = 1 ↔
      (b.idx = masterBaseIdx base ↔ i = (masterBaseIdx base).toNat) := by
  have hcount : (otherCores base).count b.idx = if i ≠ (masterBaseIdx base).toNat then 1 else 0 := by
    split_ifs with hi
    · exact List.nodup_iff_count_eq_one.mp (otherCores_nodup hnodup) _ ((mem_otherCores hnodup hb).mpr hi)
    · exact List.count_eq_zero.mpr fun hmem => hi ((mem_otherCores hnodup hb).mp hmem)
  rw [show overflowCores base = masterBaseIdx base :: otherCores base from rfl, List.count_cons, hcount]
  by_cases hm : b.idx = masterBaseIdx base
  · by_cases hi : i = (masterBaseIdx base).toNat <;> simp [hm, hi]
  · have hbeq : (masterBaseIdx base == b.idx) = false := beq_eq_false_iff_ne.mpr (Ne.symm hm)
    by_cases hi : i = (masterBaseIdx base).toNat <;> simp [hm, hi, hbeq]

lemma stopsCores_iff (hbase : ctx.bases.base ≠ []) {stops : List Stop}
    (hsent : sentCores list stops =
      (overflowCores ctx.bases.base).filter fun core => coreNodes ctx list core ≠ []) :
    StopsCores ctx list stops ↔ InPlace ctx list := by
  have hcount {i : ℕ} {b : CtxBaseInfo} (hb : ctx.bases.base[i]? = some b)
      (hn : coreNodes ctx list b.idx ≠ []) : (sentCores list stops).count b.idx = 1 ↔
        (b.idx = masterBaseIdx ctx.bases.base ↔ i = (masterBaseIdx ctx.bases.base).toNat) := by
    rw [hsent, List.count_filter (by simpa using hn)]
    exact count_overflowCores ctx.bases.nodup hb
  constructor
  · intro h i b hb hn
    exact (hcount hb hn).mp (h.once b (List.mem_of_getElem? hb) hn)
  · intro h
    refine ⟨fun b hb hn => ?_, fun core hcore => ?_, fun _ hn => ?_⟩
    · obtain ⟨i, hi⟩ := List.mem_iff_getElem?.mp hb
      exact (hcount hi hn).mpr (h i b hi hn)
    · rw [hsent] at hcore
      rcases List.mem_cons.mp (List.mem_filter.mp hcore).1 with rfl | hcore
      · exact masterBaseIdx_mem hbase
      · obtain ⟨⟨b, i⟩, hb, rfl⟩ := List.mem_map.mp hcore
        exact ⟨b, List.mem_of_getElem? (List.mem_zipIdx_iff_getElem?.mp (List.mem_filter.mp hb).1), rfl⟩
    · rw [hsent, overflowCores, List.filter_cons_of_pos (by simpa using hn), List.head?_cons]

lemma InPlace.nodes (h : InPlace ctx list) (hbase : ctx.bases.base ≠ []) (node : ResourceNode) :
    (∃ core ∈ overflowCores ctx.bases.base, node ∈ coreNodes ctx list core) ↔
      ∃ core ∈ stopCores ctx.bases.base, node ∈ coreNodes ctx list core := by
  constructor
  · rintro ⟨core, hcore, hnode⟩
    refine ⟨core, (mem_stopCores hbase core).mpr ?_, hnode⟩
    rcases List.mem_cons.mp hcore with rfl | hcore
    · exact masterBaseIdx_mem hbase
    · obtain ⟨⟨b, i⟩, hb, rfl⟩ := List.mem_map.mp hcore
      exact ⟨b, List.mem_of_getElem? (List.mem_zipIdx_iff_getElem?.mp (List.mem_filter.mp hb).1), rfl⟩
  · rintro ⟨core, hcore, hnode⟩
    obtain ⟨b, hb, rfl⟩ := (mem_stopCores hbase core).mp hcore
    obtain ⟨i, hi⟩ := List.mem_iff_getElem?.mp hb
    have hplace := h i b hi (List.ne_nil_of_mem hnode)
    refine ⟨b.idx, List.mem_cons.mpr ?_, hnode⟩
    by_cases hm : b.idx = masterBaseIdx ctx.bases.base
    · exact .inl hm
    · exact .inr ((mem_otherCores ctx.bases.nodup hi).mpr fun hi' => hm (hplace.mpr hi'))

/-- For every context in use: the overflow handler stops every core once and what the regular stop
stops, exactly if the master is in place among the cores with CIDs and among those with CSIDs. -/
theorem stopsAll_iff (ctx : Ctx) : (ctx.ctxInUse = true → StopsAll ctx) ↔
    (ctx.ctxInUse = true → InPlace ctx .cid ∧ InPlace ctx .csid) := by
  refine forall_congr' fun hin => ?_
  by_cases hbase : ctx.bases.base = []
  · have hrun : (camIfeMgrStopHwInOverflow ctx).2 = [] := by
      simp [camIfeMgrStopHwInOverflow, hin, hbase]
    refine iff_of_true ⟨?_, ?_, fun args hrc => ?_⟩ ?_
    · exact ⟨by simp [hbase], by simp [hrun, sentCores], fun h => absurd hbase h⟩
    · exact ⟨by simp [hbase], by simp [hrun, sentCores], fun h => absurd hbase h⟩
    · rw [camIfeMgrStopHw, hin, Bool.not_true, if_neg (by simp)] at hrc
      split_ifs at hrc
      · exact absurd hrc (by decide)
      · exact absurd hrc (by decide)
    · constructor <;> intro i b hb <;> simp [hbase] at hb
  obtain ⟨hcid, hcsid⟩ := sentCores_overflow hin hbase
  constructor
  · intro h
    exact ⟨(stopsCores_iff hbase hcid).mp h.cid, (stopsCores_iff hbase hcsid).mp h.csid⟩
  · rintro ⟨hpcid, hpcsid⟩
    refine ⟨(stopsCores_iff hbase hcid).mpr hpcid, (stopsCores_iff hbase hcsid).mpr hpcsid, ?_⟩
    intro args hrc node
    have hstop : ¬ (args.hwStopCmd = .immediately ∧ args.stopOnly = true) := by
      intro hbad
      rw [camIfeMgrStopHw, hin, Bool.not_true, if_neg (by simp), if_pos hbad] at hrc
      exact absurd hrc (by decide)
    rw [camIfeMgrStopHwInOverflow, camIfeMgrStopHw, hin, Bool.not_true, if_neg (by simp), if_neg hbase,
      if_neg (by simp), if_neg hstop, if_neg hbase]
    simp only [stoppedNodes_append, List.mem_append, mem_stoppedNodes_csid, hpcid.nodes hbase,
      hpcsid.nodes hbase]
    have htail : node ∉ stoppedNodes [Stop.tasklet] ∧ node ∉ stoppedNodes [Stop.tasklet, .pause] ∧
        node ∉ stoppedNodes (if args.stopOnly = true then [] else [.streamOff, .deinit]) := by
      split_ifs <;> simp [stoppedNodes]
    simp only [htail, or_false]
    grind

/-- A context with the second core alone. -/
def secondCore : Ctx where
  ctxInUse := true
  bases := processBaseInfo [⟨false, some ⟨0, 1⟩, none⟩]
  resList := fun _ => [⟨false, some ⟨0, 1⟩, none⟩]

theorem secondCore_not_stopsAll : ¬ (secondCore.ctxInUse = true → StopsAll secondCore) := by
  intro h
  have honce := (h rfl).csid.once ⟨1, .left⟩ (by decide +kernel) (by decide +kernel)
  exact absurd honce (by decide +kernel)

end CameraKernel.IfeStop
