import CameraKernel.ObjectPool
import CameraKernel.JpegHwMgr

/-! The requests of the JPEG hardware manager over whole runs: where each one is, what its device
does for it, and that a request which could start has a frame task coming. -/
namespace CameraKernel.JpegHwMgr
open ObjectPool

def ConfigTail.queues : ConfigTail → Bool
  | .enqueue _ => true
  | .giveBack _ => false

def ConfigTail.parks : ConfigTail → Option ℕ
  | .enqueue _ => none
  | .giveBack o => some o

/-- A frame task is queued, or will be by a handler that is still running. -/
def HwMgr.wakeComing (s : HwMgr) (frames : ℕ) : Bool :=
  decide (0 < frames) || s.irqTail.isSome || s.configTails.any ConfigTail.queues

/-- Every step on the hardware can be made and succeeds. -/
def hwWorks (ops : HwOps) (args : ConfigArgs) (ans : CmdAnswers) : Bool :=
  ops.init && ops.processCmd && ops.reset && ops.start &&
  (ans.init = 0 && ans.setIrqCb = 0 && ans.reset = 0 && ans.submitBls = 0 && ans.start = 0) &&
  ans.chBaseLen.any fun len => (args.hwUpdateEntries Entry.chbase).offset < len

section
variable (ctxData : ℕ → CtxData)

/-- The devices in use, less `dev` where the request in its slot is one that `sel` picks. -/
def usedForOthers (s : HwMgr) (dev : DevType) (sel : ℕ → Bool) (d : DevType) : Bool :=
  if d = dev ∧ (slotReq s dev sel).isSome then false else s.deviceInUse d

/-- The first of the waiting requests that `sel` does not pick, `rest`, is for a device in use for
another such request, or a frame task is queued or coming. -/
def flushAwake (s : HwMgr) (dev : DevType) (sel : ℕ → Bool) (rest : List ℕ) : Bool :=
  !s.idleHead (usedForOthers s dev sel) rest || s.wakeComing s.workProcessFrame

def flushAllAwake (s : HwMgr) (ctx : ℕ) : Bool :=
  !(ctxData ctx).inUse || flushAwake s (ctxData ctx).devType (fun o => s.ctxOf o = ctx)
    (s.hwConfigReqList.filter fun o => s.ctxOf o ≠ ctx)

def flushReqAwake (s : HwMgr) (ctx : ℕ) (args : FlushArgs) : Bool :=
  !(ctxData ctx).inUse || args.numReqPending ≠ 0 || args.numReqActive = 0 ||
    args.flushReqActive = 0 || 2 ^ 63 ≤ args.flushReqActive || flushAwake s (ctxData ctx).devType (args.names s ctx)
    (s.hwConfigReqList.eraseP (args.names s ctx))

/-- The step takes no exit that loses a request. Where a frame task takes the first waiting request,
the second one is for the same device or for one in use, or another frame task is queued or coming. -/
def conserves (s : HwMgr) : Op → Bool
  | .processCmd ans =>
    match s.hwConfigReqList with
    | [] => true
    | o :: rest =>
      let dev := (s.reqList o).devType
      s.workProcessFrame = 0 || s.deviceInUse dev ||
        (hwWorks (hwOps dev) (s.reqList o).hwCfgArgs ans &&
          (!s.idleHead (Function.update s.deviceInUse dev true) rest ||
            s.wakeComing (s.workProcessFrame - 1)))
  | .interrupt dev taskFree =>
    taskFree || (s.devHwCfgArgs dev).isNone ||
      s.workProcessIrqCb.any fun ctx => (ctxData ctx).devType = dev
  | .processIrq rc =>
    match s.workProcessIrqCb with
    | [] => true
    | ctx :: tasks =>
      let dev := (ctxData ctx).devType
      s.irqTail.isSome || (s.devHwCfgArgs dev).all fun o =>
        if rc = 0 then s.ctxOf o = ctx
        else (s.devices dev).busy || tasks.any fun c => (ctxData c).devType = dev
  | .processIrqDone ans =>
    s.irqTail.all fun t => ans.taskFree && ans.paramLen.any fun len =>
      ((s.reqList t.req).hwCfgArgs.hwUpdateEntries Entry.param).offset / 4 < len
  | .hwFlush args _ =>
    if args.flushType = flushTypeAll then flushAllAwake ctxData s args.ctxtToHwMap
    else if args.flushType = flushTypeReq then flushReqAwake ctxData s args.ctxtToHwMap args
    else true
  | .hwStop ctx _ => flushAllAwake ctxData s ctx
  | _ => true

def HwMgr.parked (s : HwMgr) : List ℕ := s.configTails.filterMap ConfigTail.parks

abbrev HwMgr.Books (s : HwMgr) : Prop :=
  Ledger (List.range camJpegHwCfgQMax) Outcome.serial Outcome.About (fun o => (s.reqList o).serial)
    (fun o => (s.reqList o).hwCfgArgs) s.freeReqList s.unfinished s.parked s.configured s.log

/-- What a device is doing for the request in its slot. -/
structure DeviceInv (s : HwMgr) (d : DevType) : Prop where
  running : ∀ o, s.devHwCfgArgs d = some o → s.deviceInUse d = true ∧
    (s.devices d).refCount = 1 ∧ (s.devices d).started = true ∧
    (s.devices d).irqCb = some (s.ctxOf o) ∧ (s.reqList o).devType = d
  resting : s.devHwCfgArgs d = none → s.deviceInUse d = false ∧
    (s.devices d).refCount = 0 ∧ (s.devices d).started = false
  registered : ∀ ctx, (s.devices d).irqCb = some ctx →
    (ctxData ctx).inUse = true ∧ (ctxData ctx).devType = d
  answered : (s.devHwCfgArgs d).isSome → (s.devices d).busy = true ∨
    ∃ ctx ∈ s.workProcessIrqCb, (ctxData ctx).devType = d

/-- What a configuration checked. -/
structure Accepted (req : CfgReq) : Prop where
  entries : req.hwCfgArgs.numHwUpdateEntries ≠ 0
  inUse : (ctxData req.hwCfgArgs.ctxtToHwMap).inUse = true
  devType : req.devType = (ctxData req.hwCfgArgs.ctxtToHwMap).devType

structure Inv (s : HwMgr) : Prop where
  noCmdTail : s.cmdTail = none
  books : s.Books
  dev : ∀ d, DeviceInv ctxData s d
  req : ∀ o ∈ s.unfinished, Accepted ctxData (s.reqList o)
  tasks : ∀ ctx ∈ s.workProcessIrqCb, (ctxData ctx).inUse = true
  irqCtx : ∀ t, s.irqTail = some t → s.ctxOf t.req = t.ctx

end

/-- A request that could start has a frame task coming. -/
def HwMgr.Awake (s : HwMgr) : Prop :=
  s.idleHead s.deviceInUse s.hwConfigReqList = true → s.wakeComing s.workProcessFrame = true

def HwMgr.otherReqs (s : HwMgr) : DevType → List ℕ
  | .enc => (s.devHwCfgArgs .dma).toList
  | .dma => (s.devHwCfgArgs .enc).toList

lemma slotReqs_perm (s : HwMgr) (d : DevType) :
    List.Perm s.slotReqs ((s.devHwCfgArgs d).toList ++ s.otherReqs d) := by
  cases d with
  | enc => exact List.Perm.refl _
  | dma => exact List.perm_append_comm

@[simp] lemma otherReqs_setSlot (s : HwMgr) (d : DevType) (x : Option ℕ) :
    (s.setSlot d x).otherReqs d = s.otherReqs d := by
  cases d <;> simp [HwMgr.otherReqs, HwMgr.setSlot]

lemma mem_slotReqs {s : HwMgr} {o : ℕ} : o ∈ s.slotReqs ↔ ∃ d, s.devHwCfgArgs d = some o := by
  constructor
  · intro h
    rcases List.mem_append.mp h with h | h
    · exact ⟨.enc, Option.mem_toList.mp h⟩
    · exact ⟨.dma, Option.mem_toList.mp h⟩
  · rintro ⟨d, h⟩
    exact (slotReqs_perm s d).mem_iff.mpr (by simp [h])

lemma mem_unfinished_of_slot {s : HwMgr} {d : DevType} {o : ℕ} (h : s.devHwCfgArgs d = some o) :
    o ∈ s.unfinished := by
  have := mem_slotReqs.mpr ⟨d, h⟩
  simp [HwMgr.unfinished, this]

lemma mem_unfinished_of_list {s : HwMgr} {o : ℕ} (h : o ∈ s.hwConfigReqList) :
    o ∈ s.unfinished := by simp [HwMgr.unfinished, h]

variable {ctxData : ℕ → CtxData} {s : HwMgr}

lemma Inv.nodup (h : Inv ctxData s) : (s.freeReqList ++ (s.unfinished ++ s.parked)).Nodup :=
  h.books.nodup List.nodup_range

lemma Inv.notMem_free (h : Inv ctxData s) {o : ℕ} (ho : o ∈ s.unfinished) : o ∉ s.freeReqList := by
  intro hf
  exact (List.nodup_append.mp h.nodup).2.2 o hf o (List.mem_append_left _ ho) rfl

lemma Inv.nodup_unfinished (h : Inv ctxData s) : s.unfinished.Nodup :=
  (List.nodup_append.mp (List.nodup_append.mp h.nodup).2.1).1

lemma Inv.notMem_list_of_slot (h : Inv ctxData s) {d : DevType} {o : ℕ}
    (ho : s.devHwCfgArgs d = some o) : o ∉ s.hwConfigReqList := by
  intro hl
  have hs : o ∈ s.slotReqs := mem_slotReqs.mpr ⟨d, ho⟩
  exact (List.nodup_append.mp h.nodup_unfinished).2.2 o hl o (List.mem_append_left _ hs) rfl

/-! ### Configuration -/

lemma configHw_cases (ctxData : ℕ → CtxData) (s : HwMgr) (args : ConfigArgs) (taskFree : Bool) :
    (camJpegMgrConfigHw ctxData s args taskFree).2 = s ∨
    ∃ o free req, s.freeReqList = o :: free ∧ Accepted ctxData req ∧ req.hwCfgArgs = args ∧
      req.serial = s.configured.length ∧
      ((camJpegMgrConfigHw ctxData s args taskFree).2 =
        { s with
          freeReqList := free, reqList := Function.update s.reqList o req
          configTails := .giveBack o :: s.configTails } ∨
      (camJpegMgrConfigHw ctxData s args taskFree).2 =
        { s with
          freeReqList := free, reqList := Function.update s.reqList o req
          hwConfigReqList := s.hwConfigReqList ++ [o]
          configTails := .enqueue o :: s.configTails
          configured := s.configured ++ [args] }) := by
  unfold camJpegMgrConfigHw
  by_cases hn : args.numHwUpdateEntries = 0
  · exact .inl (by rw [if_pos hn])
  by_cases hu : (ctxData args.ctxtToHwMap).inUse = true
  · cases hf : s.freeReqList with
    | nil => exact .inl (by simp [hn, hu])
    | cons o free =>
      refine .inr ⟨o, free, ⟨args, (ctxData args.ctxtToHwMap).devType, args.priv,
        s.configured.length⟩, rfl, ⟨hn, hu, rfl⟩, rfl, rfl, ?_⟩
      cases taskFree
      · exact .inl (by simp [hn, hu])
      · exact .inr (by simp [hn, hu])
  · exact .inl (by simp [hn, hu])

/-- What is true of the requests of unfinished objects stays true when a free object is
overwritten. -/
lemma Inv.reqList_update (h : Inv ctxData s) {o : ℕ} {free : List ℕ}
    (hf : s.freeReqList = o :: free) (req : CfgReq) :
    ∀ x ∈ s.unfinished, Function.update s.reqList o req x = s.reqList x := by
  intro x hx
  refine Function.update_of_ne ?_ _ _
  rintro rfl
  exact h.notMem_free hx (by rw [hf]; exact List.mem_cons_self)

lemma Inv.dev_of_frame (h : Inv ctxData s) {t : HwMgr} {d : DevType}
    (hslot : t.devHwCfgArgs d = s.devHwCfgArgs d) (huse : t.deviceInUse d = s.deviceInUse d)
    (hdev : t.devices d = s.devices d) (hreq : ∀ o ∈ s.unfinished, t.reqList o = s.reqList o)
    (htask : ∀ ctx ∈ s.workProcessIrqCb, (ctxData ctx).devType = d → ctx ∈ t.workProcessIrqCb) :
    DeviceInv ctxData t d := by
  have hd := h.dev d
  constructor
  case running =>
    intro o ho
    rw [hslot] at ho
    rw [huse, hdev, HwMgr.ctxOf, hreq o (mem_unfinished_of_slot ho)]
    exact hd.running o ho
  case resting =>
    intro hn
    rw [hslot] at hn
    rw [huse, hdev]
    exact hd.resting hn
  case registered =>
    rw [hdev]
    exact hd.registered
  case answered =>
    intro hs
    rw [hslot] at hs
    rw [hdev]
    rcases hd.answered hs with hb | ⟨ctx, hmem, hctx⟩
    · exact .inl hb
    · exact .inr ⟨ctx, htask ctx hmem hctx, hctx⟩

lemma Inv.irqCtx_of_frame (h : Inv ctxData s) {t : HwMgr} (htail : t.irqTail = s.irqTail)
    (hreq : ∀ o ∈ s.unfinished, t.reqList o = s.reqList o) :
    ∀ x, t.irqTail = some x → t.ctxOf x.req = x.ctx := by
  intro x hx
  rw [htail] at hx
  have hmem : x.req ∈ s.unfinished := by simp [HwMgr.unfinished, hx]
  rw [HwMgr.ctxOf, hreq x.req hmem]
  exact h.irqCtx x hx

lemma Inv.configHw (h : Inv ctxData s) (args : ConfigArgs) (taskFree : Bool) :
    Inv ctxData (camJpegMgrConfigHw ctxData s args taskFree).2 := by
  rcases configHw_cases ctxData s args taskFree with heq |
    ⟨o, free, req, hf, hacc, hargs, hser, heq | heq⟩
  · rw [heq]
    exact h
  all_goals
    have hupd := h.reqList_update hf req
    have hbooks := h.books
    rw [HwMgr.Books, hf] at hbooks
    rw [heq]
  case inr.inl =>
    constructor
    case noCmdTail => exact h.noCmdTail
    case books =>
      refine hbooks.park List.nodup_range ?_ ?_ (List.Perm.refl _)
      · intro x hx
        simp [hx]
      · intro x hx
        simp [hx]
    case dev => exact fun d => h.dev_of_frame rfl rfl rfl hupd fun _ hm _ => hm
    case req =>
      intro x hx
      change Accepted ctxData (Function.update s.reqList o req x)
      rw [hupd x hx]
      exact h.req x hx
    case tasks => exact h.tasks
    case irqCtx => exact h.irqCtx_of_frame rfl hupd
  case inr.inr =>
    have hperm : List.Perm ((s.hwConfigReqList ++ [o]) ++
        (s.slotReqs ++ (s.irqTail.map IrqTail.req).toList)) (o :: s.unfinished) := by
      rw [List.append_assoc]
      exact List.perm_middle
    constructor
    case noCmdTail => exact h.noCmdTail
    case books =>
      refine hbooks.accept List.nodup_range ?_ ?_ ?_ ?_ hperm
      · intro x hx
        simp [hx]
      · intro x hx
        simp [hx]
      · simpa using hser
      · simpa using hargs
    case dev => exact fun d => h.dev_of_frame rfl rfl rfl hupd fun _ hm _ => hm
    case req =>
      intro x hx
      change Accepted ctxData (Function.update s.reqList o req x)
      rcases List.mem_cons.mp (hperm.subset hx) with rfl | hx
      · rw [Function.update_self]
        exact hacc
      · rw [hupd x hx]
        exact h.req x hx
    case tasks => exact h.tasks
    case irqCtx => exact h.irqCtx_of_frame rfl hupd

lemma idleHead_congr {t : HwMgr} {inUse : DevType → Bool} {l : List ℕ}
    (h : ∀ o ∈ l, t.reqList o = s.reqList o) : t.idleHead inUse l = s.idleHead inUse l := by
  cases l with
  | nil => rfl
  | cons o l => simp [HwMgr.idleHead, h o List.mem_cons_self]

lemma Inv.configHw_awake (h : Inv ctxData s) (hw : s.Awake) (args : ConfigArgs) (taskFree : Bool) :
    (camJpegMgrConfigHw ctxData s args taskFree).2.Awake := by
  rcases configHw_cases ctxData s args taskFree with heq |
    ⟨o, free, req, hf, -, -, -, heq | heq⟩
  · rw [heq]
    exact hw
  · rw [heq]
    intro hidle
    rw [idleHead_congr (s := s) fun x hx => h.reqList_update hf _ x (mem_unfinished_of_list hx)] at hidle
    have hcoming := hw hidle
    simpa [HwMgr.wakeComing, ConfigTail.queues] using hcoming
  · rw [heq]
    intro _
    simp [HwMgr.wakeComing, ConfigTail.queues]

lemma Inv.configEnqueue (h : Inv ctxData s) (o : ℕ) : Inv ctxData (configEnqueue s o) := by
  unfold JpegHwMgr.configEnqueue
  split_ifs with hmem
  · have hparked : List.Perm (s.configTails.filterMap ConfigTail.parks)
        ((s.configTails.erase (.enqueue o)).filterMap ConfigTail.parks) :=
      (List.perm_cons_erase hmem).filterMap _
    exact ⟨h.noCmdTail, h.books.perm (List.Perm.refl _) (List.Perm.refl _) hparked.symm,
      fun d => h.dev_of_frame rfl rfl rfl (fun _ _ => rfl) fun _ hm _ => hm, h.req, h.tasks,
      h.irqCtx⟩
  · exact h

lemma configEnqueue_awake (hw : s.Awake) (o : ℕ) : (configEnqueue s o).Awake := by
  unfold configEnqueue
  split_ifs
  · intro _
    simp [HwMgr.wakeComing]
  · exact hw

lemma Inv.configGiveBack (h : Inv ctxData s) (o : ℕ) : Inv ctxData (configGiveBack s o) := by
  unfold JpegHwMgr.configGiveBack
  split_ifs with hmem
  · have hparked : List.Perm (s.configTails.filterMap ConfigTail.parks)
        (o :: (s.configTails.erase (.giveBack o)).filterMap ConfigTail.parks) :=
      (List.perm_cons_erase hmem).filterMap _
    exact ⟨h.noCmdTail, h.books.unpark hparked (List.perm_append_singleton o _),
      fun d => h.dev_of_frame rfl rfl rfl (fun _ _ => rfl) fun _ hm _ => hm, h.req, h.tasks,
      h.irqCtx⟩
  · exact h

lemma configGiveBack_awake (hw : s.Awake) (o : ℕ) : (configGiveBack s o).Awake := by
  unfold configGiveBack
  split_ifs with hmem
  · intro hidle
    have hcoming := hw hidle
    have hany : s.configTails.any ConfigTail.queues =
        (s.configTails.erase (.giveBack o)).any ConfigTail.queues := by
      rw [(List.perm_cons_erase hmem).any_eq, List.any_cons, ConfigTail.queues, Bool.false_or]
    rw [HwMgr.wakeComing, hany] at hcoming
    exact hcoming
  · exact hw

lemma initHw_of_works {ops : HwOps} {args : ConfigArgs} {ans : CmdAnswers} {d : Device}
    (hw : hwWorks ops args ans = true) (hd : d.refCount = 0) :
    ops.init = true ∧ d.initHw ans.init = (0, { d with refCount := 1 }) := by
  simp only [hwWorks, Bool.and_eq_true, decide_eq_true_eq] at hw
  obtain ⟨⟨⟨⟨⟨hinit, -⟩, -⟩, -⟩, ⟨⟨⟨⟨hrc, -⟩, -⟩, -⟩, -⟩⟩, -⟩ := hw
  exact ⟨hinit, by simp [Device.initHw, hd, hrc]⟩

lemma runHw_of_works {ops : HwOps} {args : ConfigArgs} {ans : CmdAnswers}
    (hw : hwWorks ops args ans = true) (ctx : ℕ) (d : Device) :
    runHw ops ctx args ans d = (0, ⟨d.refCount, true, true, some ctx⟩) := by
  simp only [hwWorks, Bool.and_eq_true, decide_eq_true_eq] at hw
  obtain ⟨⟨⟨⟨⟨-, hcmd⟩, hreset⟩, hstart⟩, ⟨⟨⟨⟨-, hcb⟩, hrst⟩, hbl⟩, hst⟩⟩, hbase⟩ := hw
  have hch : camJpegInsertCdmChangeBase args ans.chBaseLen = 0 := by
    cases hlen : ans.chBaseLen with
    | none => simp [hlen] at hbase
    | some len =>
      have hlt : (args.hwUpdateEntries Entry.chbase).offset < len := by simpa [hlen] using hbase
      simp [camJpegInsertCdmChangeBase, hlt]
  simp [runHw, hcmd, hreset, hstart, hcb, hrst, hbl, hst, hch, Device.setIrqCb, Device.startHw]

/-- The state after a frame task that started the first request. -/
def HwMgr.started (s : HwMgr) (o : ℕ) (rest : List ℕ) : HwMgr :=
  let dev := (s.reqList o).devType
  { (s.setDevice dev ⟨1, true, true, some (s.ctxOf o)⟩).setSlot dev (some o) with
    workProcessFrame := s.workProcessFrame - 1
    hwConfigReqList := rest }

lemma Inv.processCmd_cases (h : Inv ctxData s) {ans : CmdAnswers}
    (hok : conserves ctxData s (.processCmd ans) = true) :
    (camJpegMgrProcessCmd ctxData s ans).2 = s ∨
    (s.idleHead s.deviceInUse s.hwConfigReqList = false ∧
      (camJpegMgrProcessCmd ctxData s ans).2 =
        { s with workProcessFrame := s.workProcessFrame - 1 }) ∨
    ∃ o rest, s.hwConfigReqList = o :: rest ∧ s.devHwCfgArgs (s.reqList o).devType = none ∧
      (s.idleHead (Function.update s.deviceInUse (s.reqList o).devType true) rest = true →
        s.wakeComing (s.workProcessFrame - 1) = true) ∧
      (camJpegMgrProcessCmd ctxData s ans).2 = s.started o rest := by
  by_cases hf : s.workProcessFrame = 0
  · exact .inl (by simp [camJpegMgrProcessCmd, hf])
  cases hl : s.hwConfigReqList with
  | nil =>
    refine .inr (.inl ⟨rfl, ?_⟩)
    simp [camJpegMgrProcessCmd, hf, h.noCmdTail, hl]
  | cons o rest =>
    have hreq := h.req o (mem_unfinished_of_list (by rw [hl]; exact List.mem_cons_self))
    cases hu : s.deviceInUse (s.reqList o).devType with
    | true =>
      refine .inr (.inl ⟨by simp [HwMgr.idleHead, hu], ?_⟩)
      simp [camJpegMgrProcessCmd, hf, h.noCmdTail, hl, hu]
    | false =>
      have hnone : s.devHwCfgArgs (s.reqList o).devType = none := by
        by_contra hne
        obtain ⟨x, hx⟩ := Option.ne_none_iff_exists'.mp hne
        rw [((h.dev _).running x hx).1] at hu
        exact absurd hu (by decide)
      simp only [conserves, hl, hf, hu, decide_false, Bool.false_or, Bool.and_eq_true] at hok
      obtain ⟨hworks, hawake⟩ := hok
      refine .inr (.inr ⟨o, rest, rfl, hnone, ?_, ?_⟩)
      · intro hidle
        simpa [hidle] using hawake
      · have hfree : s.freeReqList.erase o = s.freeReqList := List.erase_of_not_mem
          (h.notMem_free (mem_unfinished_of_list (by rw [hl]; exact List.mem_cons_self)))
        have hinit := initHw_of_works hworks ((h.dev _).resting hnone).2.1
        have hrun := runHw_of_works hworks (s.reqList o).hwCfgArgs.ctxtToHwMap
        simp [camJpegMgrProcessCmd, hf, h.noCmdTail, hl, hu, hreq.entries, hreq.inUse,
          ← hreq.devType, HwMgr.setSlot, HwMgr.listDel, HwMgr.setDevice, HwMgr.started, hfree,
          HwMgr.ctxOf, hinit.1, hinit.2, hrun]

lemma slotReqs_setSlot (s : HwMgr) (d : DevType) (x : Option ℕ) :
    List.Perm (s.setSlot d x).slotReqs (x.toList ++ s.otherReqs d) := by
  have h := slotReqs_perm (s.setSlot d x) d
  rw [otherReqs_setSlot] at h
  simpa [HwMgr.setSlot] using h

lemma unfinished_started {o : ℕ} {rest : List ℕ} (hl : s.hwConfigReqList = o :: rest)
    (hnone : s.devHwCfgArgs (s.reqList o).devType = none) :
    List.Perm (s.started o rest).unfinished s.unfinished := by
  have hset := slotReqs_setSlot s (s.reqList o).devType (some o)
  have hold := slotReqs_perm s (s.reqList o).devType
  rw [hnone] at hold
  have hslots : List.Perm (s.setSlot (s.reqList o).devType (some o)).slotReqs (o :: s.slotReqs) :=
    hset.trans (hold.symm.cons o)
  rw [HwMgr.unfinished, HwMgr.unfinished, hl]
  exact ((hslots.append_right _).append_left rest).trans List.perm_middle

lemma Inv.started (h : Inv ctxData s) {o : ℕ} {rest : List ℕ}
    (hl : s.hwConfigReqList = o :: rest) (hnone : s.devHwCfgArgs (s.reqList o).devType = none) :
    Inv ctxData (s.started o rest) := by
  have hperm := unfinished_started hl hnone
  have hreq := h.req o (mem_unfinished_of_list (by rw [hl]; exact List.mem_cons_self))
  constructor
  case noCmdTail => exact h.noCmdTail
  case books => exact h.books.perm (List.Perm.refl _) hperm (List.Perm.refl _)
  case dev =>
    intro d
    by_cases hd : d = (s.reqList o).devType
    · subst hd
      constructor
      case running =>
        intro x hx
        have hxo : o = x := by simpa [HwMgr.started, HwMgr.setSlot] using hx
        subst hxo
        simp [HwMgr.started, HwMgr.setSlot, HwMgr.setDevice, HwMgr.ctxOf]
      case resting => simp [HwMgr.started, HwMgr.setSlot]
      case registered =>
        intro ctx hctx
        have hco : s.ctxOf o = ctx := by
          simpa [HwMgr.started, HwMgr.setSlot, HwMgr.setDevice] using hctx
        subst hco
        exact ⟨hreq.inUse, hreq.devType.symm⟩
      case answered => simp [HwMgr.started, HwMgr.setSlot, HwMgr.setDevice]
    · exact h.dev_of_frame (by simp [HwMgr.started, HwMgr.setSlot, HwMgr.setDevice, hd])
        (by simp [HwMgr.started, HwMgr.setSlot, HwMgr.setDevice, hd])
        (by simp [HwMgr.started, HwMgr.setSlot, HwMgr.setDevice, hd]) (fun _ _ => rfl)
        fun _ hm _ => hm
  case req => exact fun x hx => h.req x (hperm.subset hx)
  case tasks => exact h.tasks
  case irqCtx => exact h.irqCtx_of_frame rfl fun _ _ => rfl

lemma Inv.processCmd (h : Inv ctxData s) {ans : CmdAnswers}
    (hok : conserves ctxData s (.processCmd ans) = true) :
    Inv ctxData (camJpegMgrProcessCmd ctxData s ans).2 := by
  rcases h.processCmd_cases hok with heq | ⟨-, heq⟩ | ⟨o, rest, hl, hnone, -, heq⟩
  · rw [heq]
    exact h
  · rw [heq]
    exact ⟨h.noCmdTail, h.books, fun d => h.dev_of_frame rfl rfl rfl (fun _ _ => rfl)
      fun _ hm _ => hm, h.req, h.tasks, h.irqCtx⟩
  · rw [heq]
    exact h.started hl hnone

lemma Inv.processCmd_awake (h : Inv ctxData s) (hw : s.Awake) {ans : CmdAnswers}
    (hok : conserves ctxData s (.processCmd ans) = true) :
    (camJpegMgrProcessCmd ctxData s ans).2.Awake := by
  rcases h.processCmd_cases hok with heq | ⟨hidle, heq⟩ | ⟨o, rest, hl, -, hawake, heq⟩
  · rw [heq]
    exact hw
  · rw [heq]
    intro hbusy
    exact absurd (hidle.symm.trans hbusy) (by decide)
  · rw [heq]
    exact hawake

/-! ### Interrupts -/

lemma Inv.answer (h : Inv ctxData s) {dev : DevType} {tasks : List ℕ}
    (hsub : ∀ ctx ∈ s.workProcessIrqCb, ctx ∈ tasks)
    (huse : ∀ ctx ∈ tasks, (ctxData ctx).inUse = true)
    (hans : (s.devHwCfgArgs dev).isSome → ∃ ctx ∈ tasks, (ctxData ctx).devType = dev) :
    Inv ctxData { s.setDevice dev { s.devices dev with busy := false } with
      workProcessIrqCb := tasks } := by
  refine ⟨h.noCmdTail, h.books, ?_, h.req, huse, h.irqCtx⟩
  intro d
  by_cases hd : d = dev
  · subst hd
    have hold := h.dev d
    constructor
    case running =>
      intro o ho
      simpa [HwMgr.setDevice, HwMgr.ctxOf] using hold.running o ho
    case resting => simpa [HwMgr.setDevice] using hold.resting
    case registered => simpa [HwMgr.setDevice] using hold.registered
    case answered => exact fun hs => .inr (hans hs)
  · exact h.dev_of_frame rfl rfl (by simp [HwMgr.setDevice, hd]) (fun _ _ => rfl)
      fun ctx hm _ => hsub ctx hm

lemma Inv.interrupt (h : Inv ctxData s) {dev : DevType} {taskFree : Bool}
    (hok : conserves ctxData s (.interrupt dev taskFree) = true) :
    Inv ctxData (camJpegHwMgrCb s dev taskFree) := by
  have hd := h.dev dev
  unfold camJpegHwMgrCb
  by_cases hon : (s.devices dev).refCount = 0
  · rw [if_pos hon]
    exact h
  rw [if_neg hon]
  cases hcb : (s.devices dev).irqCb with
  | none =>
    refine h.answer (fun _ hm => hm) h.tasks fun hs => ?_
    obtain ⟨o, ho⟩ := Option.isSome_iff_exists.mp hs
    rw [(hd.running o ho).2.2.2.1] at hcb
    cases hcb
  | some ctx =>
    have hreg := hd.registered ctx hcb
    cases htask : taskFree with
    | true =>
      refine h.answer (fun _ hm => List.mem_append_left _ hm) ?_ fun _ => ⟨ctx, by simp, hreg.2⟩
      intro c hc
      rcases List.mem_append.mp hc with hc | hc
      · exact h.tasks c hc
      · rw [List.mem_singleton.mp hc]
        exact hreg.1
    | false =>
      refine h.answer (fun _ hm => hm) h.tasks fun hs => ?_
      simp only [conserves, htask, Bool.false_or, Bool.or_eq_true, Option.isNone_iff_eq_none,
        List.any_eq_true, decide_eq_true_eq] at hok
      rcases hok with hnone | hany
      · rw [hnone] at hs
        cases hs
      · exact hany

lemma interrupt_awake (hw : s.Awake) (dev : DevType) (taskFree : Bool) :
    (camJpegHwMgrCb s dev taskFree).Awake := by
  unfold camJpegHwMgrCb
  by_cases hon : (s.devices dev).refCount = 0
  · rw [if_pos hon]
    exact hw
  · rw [if_neg hon]
    cases (s.devices dev).irqCb with
    | none => exact hw
    | some ctx => cases taskFree <;> exact hw

/-- The state after an interrupt task took the request of its device. -/
def HwMgr.taken (s : HwMgr) (tasks : List ℕ) (dev : DevType) (o ctx : ℕ) : HwMgr :=
  { (s.setDevice dev ⟨0, false, false, none⟩).setSlot dev none with
    workProcessIrqCb := tasks
    irqTail := some ⟨o, ctx⟩ }

lemma Inv.processIrq_cases (h : Inv ctxData s) {rc : ℤ}
    (hok : conserves ctxData s (.processIrq rc) = true) :
    (camJpegMgrProcessIrq ctxData s rc).2 = s ∨
    (∃ ctx tasks, s.workProcessIrqCb = ctx :: tasks ∧
      ((s.devHwCfgArgs (ctxData ctx).devType).isSome →
        (s.devices (ctxData ctx).devType).busy = true ∨
          ∃ c ∈ tasks, (ctxData c).devType = (ctxData ctx).devType) ∧
      (camJpegMgrProcessIrq ctxData s rc).2 = { s with workProcessIrqCb := tasks }) ∨
    ∃ ctx tasks o, s.workProcessIrqCb = ctx :: tasks ∧ s.irqTail = none ∧
      s.devHwCfgArgs (ctxData ctx).devType = some o ∧ s.ctxOf o = ctx ∧
      (camJpegMgrProcessIrq ctxData s rc).2 = s.taken tasks (ctxData ctx).devType o ctx := by
  cases hirq : s.irqTail with
  | some t => exact .inl (by simp [camJpegMgrProcessIrq, hirq])
  | none =>
    cases hq : s.workProcessIrqCb with
    | nil => exact .inl (by simp [camJpegMgrProcessIrq, hirq, hq])
    | cons ctx tasks =>
      have huse := h.tasks ctx (by rw [hq]; exact List.mem_cons_self)
      cases hslot : s.devHwCfgArgs (ctxData ctx).devType with
      | none =>
        refine .inr (.inl ⟨ctx, tasks, rfl, fun hs => by simp [hslot] at hs, ?_⟩)
        simp [camJpegMgrProcessIrq, hirq, hq, huse, hslot]
      | some o =>
        obtain ⟨hinUse, hcount, hstarted, -, -⟩ := (h.dev _).running o hslot
        have hops : (hwOps (ctxData ctx).devType).processCmd = true ∧
            (hwOps (ctxData ctx).devType).deinit = true := by
          cases (ctxData ctx).devType <;> decide
        by_cases hrc : rc = 0
        · refine .inr (.inr ⟨ctx, tasks, o, rfl, rfl, hslot, ?_, ?_⟩)
          · simpa [conserves, hq, hirq, hslot, hrc] using hok
          · simp [camJpegMgrProcessIrq, hirq, hq, huse, hslot, hinUse, hops, hrc, Device.setIrqCb,
              Device.deinitHw, hcount, HwMgr.setDevice, HwMgr.setSlot, HwMgr.taken]
        · refine .inr (.inl ⟨ctx, tasks, rfl, fun _ => ?_, ?_⟩)
          · simpa [conserves, hq, hirq, hslot, hrc] using hok
          · simp [camJpegMgrProcessIrq, hirq, hq, huse, hslot, hinUse, hops, hrc, Device.setIrqCb,
              HwMgr.setDevice]

lemma slotReqs_clear {d : DevType} {o : ℕ} (ho : s.devHwCfgArgs d = some o) :
    List.Perm s.slotReqs (o :: (s.setSlot d none).slotReqs) := by
  have hold := slotReqs_perm s d
  rw [ho] at hold
  exact hold.trans ((slotReqs_setSlot s d none).symm.cons o)

lemma Inv.dev_cleared (h : Inv ctxData s) {t : HwMgr} {dev : DevType} {cb : Option ℕ}
    (hslot : t.devHwCfgArgs = Function.update s.devHwCfgArgs dev none)
    (huse : t.deviceInUse = Function.update s.deviceInUse dev false)
    (hdev : t.devices = Function.update s.devices dev ⟨0, false, false, cb⟩)
    (hcb : ∀ ctx, cb = some ctx → (ctxData ctx).inUse = true ∧ (ctxData ctx).devType = dev)
    (hreq : t.reqList = s.reqList)
    (htask : ∀ ctx ∈ s.workProcessIrqCb, (ctxData ctx).devType ≠ dev → ctx ∈ t.workProcessIrqCb) :
    ∀ d, DeviceInv ctxData t d := by
  intro d
  by_cases hd : d = dev
  · subst hd
    constructor
    case running => simp [hslot]
    case resting => simp [huse, hdev]
    case registered => simpa [hdev] using hcb
    case answered => simp [hslot]
  · exact h.dev_of_frame (by simp [hslot, hd]) (by simp [huse, hd]) (by simp [hdev, hd])
      (fun _ _ => by rw [hreq]) fun ctx hm hc => htask ctx hm (by rw [hc]; exact hd)

lemma Inv.processIrq (h : Inv ctxData s) {rc : ℤ}
    (hok : conserves ctxData s (.processIrq rc) = true) :
    Inv ctxData (camJpegMgrProcessIrq ctxData s rc).2 := by
  rcases h.processIrq_cases hok with heq | ⟨ctx, tasks, hq, hans, heq⟩ |
    ⟨ctx, tasks, o, hq, hirq, hslot, hctx, heq⟩
  · rw [heq]
    exact h
  · rw [heq]
    refine ⟨h.noCmdTail, h.books, ?_, h.req, fun c hc => h.tasks c (by rw [hq]; simp [hc]), h.irqCtx⟩
    intro d
    have hd := h.dev d
    refine ⟨hd.running, hd.resting, hd.registered, fun hs => ?_⟩
    by_cases hdev : d = (ctxData ctx).devType
    · subst hdev
      exact hans hs
    · rcases hd.answered hs with hb | ⟨c, hc, hcd⟩
      · exact .inl hb
      · rw [hq] at hc
        rcases List.mem_cons.mp hc with rfl | hc
        · exact absurd hcd.symm hdev
        · exact .inr ⟨c, hc, hcd⟩
  · rw [heq]
    have hperm : List.Perm (s.taken tasks (ctxData ctx).devType o ctx).unfinished s.unfinished := by
      rw [HwMgr.unfinished, HwMgr.unfinished, hirq]
      refine List.Perm.append_left s.hwConfigReqList ?_
      calc List.Perm ((s.setSlot (ctxData ctx).devType none).slotReqs ++ [o])
            (o :: (s.setSlot (ctxData ctx).devType none).slotReqs) := List.perm_append_singleton _ _
        List.Perm _ s.slotReqs := (slotReqs_clear hslot).symm
        List.Perm _ (s.slotReqs ++ []) := by rw [List.append_nil]
    constructor
    case noCmdTail => exact h.noCmdTail
    case books => exact h.books.perm (List.Perm.refl _) hperm (List.Perm.refl _)
    case dev =>
      refine h.dev_cleared rfl rfl rfl (by simp) rfl fun c hc hne => ?_
      rw [hq] at hc
      rcases List.mem_cons.mp hc with rfl | hc
      · exact absurd rfl hne
      · exact hc
    case req => exact fun x hx => h.req x (hperm.subset hx)
    case tasks => exact fun c hc => h.tasks c (by rw [hq]; exact List.mem_cons_of_mem _ hc)
    case irqCtx =>
      intro t ht
      have hto : (⟨o, ctx⟩ : IrqTail) = t := Option.some_inj.mp ht
      subst hto
      exact hctx

lemma Inv.processIrq_awake (h : Inv ctxData s) (hw : s.Awake) {rc : ℤ}
    (hok : conserves ctxData s (.processIrq rc) = true) :
    (camJpegMgrProcessIrq ctxData s rc).2.Awake := by
  rcases h.processIrq_cases hok with heq | ⟨ctx, tasks, -, -, heq⟩ | ⟨ctx, tasks, o, -, -, -, -, heq⟩
  · rw [heq]
    exact hw
  · rw [heq]
    exact hw
  · rw [heq]
    intro _
    simp [HwMgr.wakeComing, HwMgr.taken]

lemma processIrqDone_cases {ans : IrqAnswers}
    (hok : conserves ctxData s (.processIrqDone ans) = true) :
    (processIrqDone s ans).2 = s ∨
    ∃ t, s.irqTail = some t ∧ (processIrqDone s ans).2 =
      { s with
        irqTail := none
        workProcessFrame := s.workProcessFrame + 1
        log := s.log ++
          [.done t.ctx (doneEvent (s.reqList t.req).hwCfgArgs) (s.reqList t.req).serial]
        freeReqList := s.freeReqList ++ [t.req] } := by
  cases hirq : s.irqTail with
  | none => exact .inl (by simp [processIrqDone, hirq])
  | some t =>
    refine .inr ⟨t, rfl, ?_⟩
    simp only [conserves, hirq, Option.all_some, Bool.and_eq_true, Option.any_eq_true,
      decide_eq_true_eq] at hok
    obtain ⟨htask, len, hlen, hoff⟩ := hok
    simp [processIrqDone, hirq, htask, hlen, Nat.not_le.mpr hoff, HwMgr.ctxtEventCb, HwMgr.addFree]

lemma Inv.processIrqDone (h : Inv ctxData s) {ans : IrqAnswers}
    (hok : conserves ctxData s (.processIrqDone ans) = true) :
    Inv ctxData (processIrqDone s ans).2 := by
  rcases processIrqDone_cases hok with heq | ⟨t, hirq, heq⟩
  · rw [heq]
    exact h
  · rw [heq]
    have hperm : List.Perm s.unfinished
        (t.req :: (s.hwConfigReqList ++ (s.slotReqs ++ (none.map IrqTail.req).toList))) := by
      rw [HwMgr.unfinished, hirq, ← List.append_assoc, ← List.append_assoc]
      simpa using List.perm_append_singleton t.req (s.hwConfigReqList ++ s.slotReqs)
    constructor
    case noCmdTail => exact h.noCmdTail
    case books =>
      exact h.books.settle hperm (List.perm_append_singleton t.req _) rfl ⟨(h.irqCtx t hirq).symm, rfl⟩
    case dev => exact fun d => h.dev_of_frame rfl rfl rfl (fun _ _ => rfl) fun _ hm _ => hm
    case req => exact fun x hx => h.req x (hperm.symm.subset (List.mem_cons_of_mem _ hx))
    case tasks => exact h.tasks
    case irqCtx => simp

lemma processIrqDone_awake (hw : s.Awake) {ans : IrqAnswers}
    (hok : conserves ctxData s (.processIrqDone ans) = true) : (processIrqDone s ans).2.Awake := by
  rcases processIrqDone_cases hok with heq | ⟨t, -, heq⟩
  · rw [heq]
    exact hw
  · rw [heq]
    intro _
    simp [HwMgr.wakeComing]

/-! ### Flush and stop -/

/-- A flush got from `s` to `t`: `inUse` are the devices still used and `rest` the requests that
stay, and what queues frame tasks is untouched. -/
structure Flushed (ctxData : ℕ → CtxData) (s t : HwMgr) (inUse : DevType → Bool) (rest : List ℕ) :
    Prop where
  inv : Inv ctxData t
  reqList : t.reqList = s.reqList
  inUse : t.deviceInUse = inUse
  list : t.hwConfigReqList = rest
  irqTail : t.irqTail = s.irqTail
  configTails : t.configTails = s.configTails
  frames : t.workProcessFrame = s.workProcessFrame

lemma Flushed.refl (h : Inv ctxData s) : Flushed ctxData s s s.deviceInUse s.hwConfigReqList :=
  ⟨h, rfl, rfl, rfl, rfl, rfl, rfl⟩

lemma Flushed.trans {t u : HwMgr} {use use' : DevType → Bool} {rest rest' : List ℕ}
    (h : Flushed ctxData s t use rest) (h' : Flushed ctxData t u use' rest') :
    Flushed ctxData s u use' rest' :=
  ⟨h'.inv, h'.reqList.trans h.reqList, h'.inUse, h'.list, h'.irqTail.trans h.irqTail,
    h'.configTails.trans h.configTails, h'.frames.trans h.frames⟩

lemma Flushed.ctxOf {t : HwMgr} {use : DevType → Bool} {rest : List ℕ}
    (h : Flushed ctxData s t use rest) (o : ℕ) : t.ctxOf o = s.ctxOf o := by
  rw [HwMgr.ctxOf, HwMgr.ctxOf, h.reqList]

lemma Flushed.awake {t : HwMgr} {use : DevType → Bool} {rest : List ℕ}
    (h : Flushed ctxData s t use rest)
    (hawake : s.idleHead use rest = true → s.wakeComing s.workProcessFrame = true) : t.Awake := by
  intro hidle
  rw [h.inUse, h.list, idleHead_congr (s := s) fun o _ => by rw [h.reqList]] at hidle
  have hcoming := hawake hidle
  rwa [HwMgr.wakeComing, h.irqTail, h.configTails, h.frames]

lemma Inv.dropListed (h : Inv ctxData s) {o : ℕ} (ho : o ∈ s.hwConfigReqList) :
    Flushed ctxData s (dropReq (s.ctxOf o) s o) s.deviceInUse (s.hwConfigReqList.erase o) := by
  have hfree := h.notMem_free (mem_unfinished_of_list ho)
  have hperm : List.Perm s.unfinished (o :: (s.hwConfigReqList.erase o ++
      (s.slotReqs ++ (s.irqTail.map IrqTail.req).toList))) :=
    (List.perm_cons_erase ho).append_right _
  have heq : dropReq (s.ctxOf o) s o =
      { s with
        freeReqList := s.freeReqList ++ [o], hwConfigReqList := s.hwConfigReqList.erase o
        log := s.log ++ [Outcome.flushed (s.ctxOf o) (s.reqList o).serial] } := by
    simp [dropReq, HwMgr.listDel, HwMgr.addFree, List.erase_of_not_mem hfree]
  rw [heq]
  refine ⟨?_, rfl, rfl, rfl, rfl, rfl, rfl⟩
  constructor
  case noCmdTail => exact h.noCmdTail
  case books => exact h.books.settle hperm (List.perm_append_singleton o _) rfl rfl
  case dev => exact fun d => h.dev_of_frame rfl rfl rfl (fun _ _ => rfl) fun _ hm _ => hm
  case req => exact fun x hx => h.req x (hperm.symm.subset (List.mem_cons_of_mem _ hx))
  case tasks => exact h.tasks
  case irqCtx => exact h.irqCtx

lemma stopDeinitDevice_eq (dev : DevType) (rc : ℤ) {d : Device} (hd : d.refCount = 1) :
    stopDeinitDevice (hwOps dev) rc d = ⟨0, false, false, if rc ≠ 0 then d.irqCb else none⟩ := by
  cases dev <;> by_cases hrc : rc = 0 <;>
    simp [stopDeinitDevice, hwOps, Device.setIrqCb, Device.stopHw, Device.deinitHw, hrc, hd]

lemma Inv.dropStarted (h : Inv ctxData s) {dev : DevType} {o : ℕ} (rc : ℤ)
    (ho : s.devHwCfgArgs dev = some o) :
    Flushed ctxData s (dropReq (s.ctxOf o) (camJpegMgrStopDeinitDev s rc dev) o)
      (Function.update s.deviceInUse dev false) s.hwConfigReqList := by
  obtain ⟨-, hcount, -, hcb, -⟩ := (h.dev dev).running o ho
  have hfree := h.notMem_free (mem_unfinished_of_slot ho)
  have hlist := h.notMem_list_of_slot ho
  have hreg := (h.dev dev).registered
  obtain ⟨cb, hcbeq⟩ : ∃ cb, cb = if rc ≠ 0 then (s.devices dev).irqCb else none := ⟨_, rfl⟩
  have heq : dropReq (s.ctxOf o) (camJpegMgrStopDeinitDev s rc dev) o =
      { (s.setDevice dev ⟨0, false, false, cb⟩).setSlot dev none with
        freeReqList := s.freeReqList ++ [o]
        log := s.log ++ [Outcome.flushed (s.ctxOf o) (s.reqList o).serial] } := by
    simp [dropReq, camJpegMgrStopDeinitDev, stopDeinitDevice_eq dev rc hcount, ← hcbeq,
      HwMgr.setSlot, HwMgr.setDevice, HwMgr.listDel, HwMgr.addFree, List.erase_of_not_mem hfree,
      List.erase_of_not_mem hlist]
  have hperm : List.Perm s.unfinished (o :: (s.hwConfigReqList ++
      ((s.setSlot dev none).slotReqs ++ (s.irqTail.map IrqTail.req).toList))) := by
    calc List.Perm s.unfinished (s.hwConfigReqList ++
          (o :: (s.setSlot dev none).slotReqs ++ (s.irqTail.map IrqTail.req).toList)) :=
          ((slotReqs_clear ho).append_right _).append_left _
      List.Perm _ _ := List.perm_middle
  rw [heq]
  refine ⟨?_, rfl, rfl, rfl, rfl, rfl, rfl⟩
  constructor
  case noCmdTail => exact h.noCmdTail
  case books => exact h.books.settle hperm (List.perm_append_singleton o _) rfl rfl
  case dev =>
    refine h.dev_cleared rfl rfl rfl (fun ctx hctx => ?_) rfl fun _ hm _ => hm
    rw [hcbeq] at hctx
    split_ifs at hctx
    exact hreg ctx hctx
  case req => exact fun x hx => h.req x (hperm.symm.subset (List.mem_cons_of_mem _ hx))
  case tasks => exact h.tasks
  case irqCtx => exact h.irqCtx

lemma Inv.flushSlot (h : Inv ctxData s) (ctx : ℕ) (sel : ℕ → Bool) (rc : ℤ)
    (hsel : ∀ o, sel o = true → s.ctxOf o = ctx) :
    Flushed ctxData s (flushSlot ctxData s ctx sel rc)
      (usedForOthers s (ctxData ctx).devType sel) s.hwConfigReqList := by
  cases hslot : slotReq s (ctxData ctx).devType sel with
  | none =>
    have huse : usedForOthers s (ctxData ctx).devType sel = s.deviceInUse := by
      funext d
      simp [usedForOthers, hslot]
    rw [JpegHwMgr.flushSlot, hslot, huse]
    exact Flushed.refl h
  | some o =>
    have huse : usedForOthers s (ctxData ctx).devType sel =
        Function.update s.deviceInUse (ctxData ctx).devType false := by
      funext d
      by_cases hd : d = (ctxData ctx).devType
      · subst hd
        simp [usedForOthers, hslot]
      · simp [usedForOthers, hd]
    have hpick : s.devHwCfgArgs (ctxData ctx).devType = some o ∧ sel o = true := by
      rw [slotReq] at hslot
      split_ifs at hslot
      exact Option.filter_eq_some_iff.mp hslot
    rw [JpegHwMgr.flushSlot, hslot, huse, ← hsel o hpick.2]
    rw [← hsel o hpick.2] at hpick
    exact h.dropStarted rc hpick.1

lemma Inv.flushList (ctx : ℕ) (l : List ℕ) (hl : l.Nodup) : ∀ s : HwMgr, Inv ctxData s →
    (∀ o ∈ l, o ∈ s.hwConfigReqList) →
    Flushed ctxData s (l.foldl (fun t o => if t.ctxOf o ≠ ctx then t else dropReq ctx t o) s)
      s.deviceInUse (s.hwConfigReqList.filter fun o => decide (o ∈ l → s.ctxOf o ≠ ctx)) := by
  induction l with
  | nil =>
    intro s h _
    have hall : s.hwConfigReqList.filter (fun o => decide (o ∈ ([] : List ℕ) → s.ctxOf o ≠ ctx)) =
        s.hwConfigReqList := by simp
    rw [hall]
    exact Flushed.refl h
  | cons o l ih =>
    intro s h hsub
    rw [List.nodup_cons] at hl
    rw [List.foldl_cons]
    by_cases hctx : s.ctxOf o = ctx
    · subst hctx
      have hdrop := h.dropListed (hsub o List.mem_cons_self)
      have hnd : s.hwConfigReqList.Nodup := (List.nodup_append.mp h.nodup_unfinished).1
      have hrest := ih hl.2 (dropReq (s.ctxOf o) s o) hdrop.inv fun x hx => by
        rw [hdrop.list, hnd.mem_erase_iff]
        exact ⟨fun he => hl.1 (he ▸ hx), hsub x (List.mem_cons_of_mem _ hx)⟩
      rw [if_neg (by simp)]
      rw [hdrop.inUse, hdrop.list] at hrest
      have hfilter : (s.hwConfigReqList.erase o).filter (fun x =>
          decide (x ∈ l → (dropReq (s.ctxOf o) s o).ctxOf x ≠ s.ctxOf o)) =
          s.hwConfigReqList.filter fun x => decide (x ∈ o :: l → s.ctxOf x ≠ s.ctxOf o) := by
        rw [hnd.erase_eq_filter, List.filter_filter]
        refine List.filter_congr fun x hx => ?_
        by_cases hxo : x = o
        · simp [hxo]
        · simp [hxo, hdrop.ctxOf]
      rw [hfilter] at hrest
      exact hdrop.trans hrest
    · have hrest := ih hl.2 s h fun x hx => hsub x (List.mem_cons_of_mem _ hx)
      rw [if_pos hctx]
      have hfilter : s.hwConfigReqList.filter (fun x => decide (x ∈ l → s.ctxOf x ≠ ctx)) =
          s.hwConfigReqList.filter fun x => decide (x ∈ o :: l → s.ctxOf x ≠ ctx) := by
        refine List.filter_congr fun x hx => ?_
        by_cases hxo : x = o
        · simp [hxo, hctx]
        · simp [hxo]
      rw [hfilter] at hrest
      exact hrest

lemma Inv.flush (h : Inv ctxData s) (ctx : ℕ) (rc : ℤ) :
    Flushed ctxData s (camJpegMgrFlush ctxData s ctx rc)
      (usedForOthers s (ctxData ctx).devType fun o => s.ctxOf o = ctx)
      (s.hwConfigReqList.filter fun o => s.ctxOf o ≠ ctx) := by
  have hslot := h.flushSlot ctx (fun o => s.ctxOf o = ctx) rc fun o ho => by
    simpa using ho
  have hnd := (List.nodup_append.mp hslot.inv.nodup_unfinished).1
  have hlist := Inv.flushList ctx _ hnd _ hslot.inv fun _ ho => ho
  have hfilter : (JpegHwMgr.flushSlot ctxData s ctx (fun o => s.ctxOf o = ctx) rc).hwConfigReqList.filter
      (fun o => decide (o ∈ (JpegHwMgr.flushSlot ctxData s ctx
        (fun o => s.ctxOf o = ctx) rc).hwConfigReqList →
          (JpegHwMgr.flushSlot ctxData s ctx (fun o => s.ctxOf o = ctx) rc).ctxOf o ≠ ctx)) =
      s.hwConfigReqList.filter fun o => s.ctxOf o ≠ ctx := by
    rw [hslot.list]
    refine List.filter_congr fun x hx => ?_
    simp [hx, hslot.ctxOf]
  rw [hfilter, hslot.inUse] at hlist
  exact hslot.trans hlist

lemma eraseP_eq_erase {p : ℕ → Bool} {l : List ℕ} {o : ℕ} (h : l.find? p = some o) :
    l.eraseP p = l.erase o := by
  obtain ⟨hp, as, bs, rfl, has⟩ := List.find?_eq_some_iff_append.mp h
  have hnot : o ∉ as := by
    intro ho
    simpa [hp] using has o ho
  rw [List.eraseP_append_right _ fun a ha => by simpa using has a ha, List.erase_append_right _ hnot,
    List.eraseP_cons_of_pos hp, List.erase_cons_head]

lemma Inv.flushReq (h : Inv ctxData s) (ctx : ℕ) (args : FlushArgs) (rc : ℤ) :
    (camJpegMgrFlushReq ctxData s ctx args rc).2 = s ∨
    (args.numReqPending = 0 ∧ args.numReqActive ≠ 0 ∧
      ¬(args.flushReqActive = 0 ∨ 2 ^ 63 ≤ args.flushReqActive)) ∧
    Flushed ctxData s (camJpegMgrFlushReq ctxData s ctx args rc).2
      (usedForOthers s (ctxData ctx).devType (args.names s ctx))
      (s.hwConfigReqList.eraseP (args.names s ctx)) := by
  have hnames : ∀ o, args.names s ctx o = true → s.ctxOf o = ctx := by
    intro o ho
    simp only [FlushArgs.names, Bool.and_eq_true, decide_eq_true_eq] at ho
    exact ho.1
  unfold camJpegMgrFlushReq
  by_cases hp : args.numReqPending = 0
  · by_cases ha : args.numReqActive = 0
    · exact .inl (by simp [hp, ha])
    by_cases hid : args.flushReqActive = 0 ∨ 2 ^ 63 ≤ args.flushReqActive
    · exact .inl (by rw [if_neg (by simp [hp]), if_neg ha, if_pos hid])
    refine .inr ⟨⟨hp, ha, hid⟩, ?_⟩
    have hslot := h.flushSlot ctx (args.names s ctx) rc hnames
    have hsame : args.names (JpegHwMgr.flushSlot ctxData s ctx (args.names s ctx) rc) ctx =
        args.names s ctx := by
      funext o
      simp [FlushArgs.names, hslot.ctxOf, hslot.reqList]
    rw [if_neg (by simp [hp]), if_neg ha, if_neg hid]
    simp only [hsame, hslot.list]
    cases hfind : s.hwConfigReqList.find? (args.names s ctx) with
    | none =>
      rw [List.eraseP_of_forall_not (List.find?_eq_none.mp hfind)]
      exact hslot
    | some o =>
      have hmem : o ∈ s.hwConfigReqList := List.mem_of_find?_eq_some hfind
      have hctx := hnames o (List.find?_some hfind)
      have hdrop := hslot.inv.dropListed (o := o) (by rw [hslot.list]; exact hmem)
      rw [hslot.inUse, hslot.list, hslot.ctxOf, hctx] at hdrop
      rw [eraseP_eq_erase hfind]
      exact hslot.trans hdrop
  · exact .inl (by simp [hp])

lemma awake_of_flushAwake {dev : DevType} {sel : ℕ → Bool} {rest : List ℕ} {t : HwMgr}
    (hf : Flushed ctxData s t (usedForOthers s dev sel) rest)
    (hok : flushAwake s dev sel rest = true) : t.Awake := by
  refine hf.awake fun hidle => ?_
  simpa [flushAwake, hidle] using hok

lemma Inv.hwStop (h : Inv ctxData s) (hw : s.Awake) (ctx : ℕ) (rc : ℤ) :
    Inv ctxData (camJpegMgrHwStop ctxData s ctx rc).2 ∧
    (flushAllAwake ctxData s ctx = true → (camJpegMgrHwStop ctxData s ctx rc).2.Awake) := by
  have hf := h.flush ctx rc
  unfold camJpegMgrHwStop
  cases huse : (ctxData ctx).inUse with
  | false => exact ⟨h, fun _ => hw⟩
  | true =>
    refine ⟨hf.inv, fun hok => awake_of_flushAwake hf ?_⟩
    simpa [flushAllAwake, huse] using hok

lemma Inv.hwFlush (h : Inv ctxData s) (hw : s.Awake) {args : FlushArgs} {rc : ℤ}
    (hok : conserves ctxData s (.hwFlush args rc) = true) :
    Inv ctxData (camJpegMgrHwFlush ctxData s args rc).2 ∧
    (camJpegMgrHwFlush ctxData s args rc).2.Awake := by
  unfold camJpegMgrHwFlush
  cases huse : (ctxData args.ctxtToHwMap).inUse with
  | false => exact ⟨h, hw⟩
  | true =>
    simp only [Bool.not_true, Bool.false_eq_true, if_false]
    by_cases hall : args.flushType = flushTypeAll
    · have hf := h.flush args.ctxtToHwMap rc
      rw [if_pos hall]
      refine ⟨hf.inv, awake_of_flushAwake hf ?_⟩
      simpa [conserves, hall, flushAllAwake, huse] using hok
    by_cases hone : args.flushType = flushTypeReq
    · rw [if_neg hall, if_pos hone]
      rcases h.flushReq args.ctxtToHwMap args rc with heq | ⟨⟨hp, ha, hid⟩, hf⟩
      · rw [heq]
        exact ⟨h, hw⟩
      · refine ⟨hf.inv, awake_of_flushAwake hf ?_⟩
        obtain ⟨hz, hlt⟩ := not_or.mp hid
        simp only [conserves, if_neg hall, if_pos hone, flushReqAwake, huse, hp, ha, hz, hlt] at hok
        simpa using hok
    · rw [if_neg hall, if_neg hone]
      exact ⟨h, hw⟩

theorem Inv.step (h : Inv ctxData s) (hw : s.Awake) (op : Op) (hok : conserves ctxData s op = true) :
    Inv ctxData (step ctxData s op) ∧ (step ctxData s op).Awake := by
  cases op with
  | configHw args taskFree => exact ⟨h.configHw args taskFree, h.configHw_awake hw args taskFree⟩
  | configEnqueue o => exact ⟨h.configEnqueue o, configEnqueue_awake hw o⟩
  | configGiveBack o => exact ⟨h.configGiveBack o, configGiveBack_awake hw o⟩
  | processCmd ans => exact ⟨h.processCmd hok, h.processCmd_awake hw hok⟩
  | processCmdCallback =>
    rw [JpegHwMgr.step, processCmdCallback, h.noCmdTail]
    exact ⟨h, hw⟩
  | interrupt dev taskFree => exact ⟨h.interrupt hok, interrupt_awake hw dev taskFree⟩
  | processIrq rc => exact ⟨h.processIrq hok, h.processIrq_awake hw hok⟩
  | processIrqDone ans => exact ⟨h.processIrqDone hok, processIrqDone_awake hw hok⟩
  | hwFlush args rc => exact h.hwFlush hw hok
  | hwStop ctx rc =>
    obtain ⟨hinv, hawake⟩ := h.hwStop hw ctx rc
    exact ⟨hinv, hawake hok⟩

lemma inv_init : Inv ctxData camJpegHwMgrInit := by
  constructor
  case noCmdTail => rfl
  case books => exact Ledger.init _ _ _ _ _
  case dev =>
    intro d
    constructor <;> simp [camJpegHwMgrInit]
  all_goals simp [camJpegHwMgrInit, HwMgr.unfinished, HwMgr.slotReqs]

lemma Inv.conserved (h : Inv ctxData s) (hw : s.Awake) : Conserved ctxData s := by
  constructor
  case place =>
    intro hq
    have hplace := h.books.place
    rw [HwMgr.unfinished, HwMgr.parked, hq.1, hq.2.2] at hplace
    simpa using hplace
  case inUse =>
    intro _ d
    have hd := h.dev d
    constructor
    · intro huse
      cases hslot : s.devHwCfgArgs d with
      | none =>
        rw [(hd.resting hslot).1] at huse
        cases huse
      | some o =>
        obtain ⟨-, hcount, hstarted, -, -⟩ := hd.running o hslot
        exact ⟨rfl, by omega, hstarted⟩
    · rintro ⟨hslot, -, -⟩
      obtain ⟨o, ho⟩ := Option.isSome_iff_exists.mp hslot
      exact (hd.running o ho).1
  case kept => exact h.books.kept
  case once => exact h.books.once
  case owner => exact h.books.owner
  case wake =>
    intro hq hidle
    have hcoming := hw hidle
    simpa [HwMgr.wakeComing, hq.1, hq.2.2] using hcoming
  case answered => exact fun d => (h.dev d).answered

/-- While every step meets its condition, no request is lost, stranded or answered twice. -/
theorem requests_conserved (ctxData : ℕ → CtxData) (ops : List Op)
    (hok : Transition.Guarded (step ctxData) (fun s op => conserves ctxData s op = true)
      camJpegHwMgrInit ops) :
    Conserved ctxData (Transition.run (step ctxData) camJpegHwMgrInit ops) := by
  have hinv : Inv ctxData (Transition.run (step ctxData) camJpegHwMgrInit ops) ∧
      (Transition.run (step ctxData) camJpegHwMgrInit ops).Awake :=
    Transition.run_invariant
      (fun s op (h : Inv ctxData s ∧ s.Awake) hok => h.1.step h.2 op hok) ⟨inv_init, fun hidle => by cases hidle⟩ hok
  exact hinv.1.conserved hinv.2

/-- A request of an encoder context, with every entry in the first word of its buffer. -/
def oneRequest (priv : ℕ) : ConfigArgs := ⟨0, priv, 3, fun _ => ⟨0, 0⟩, [7]⟩

theorem requests_conserved_encode : Conserved (fun _ => ⟨true, .enc⟩)
    (Transition.run (step fun _ => ⟨true, .enc⟩) camJpegHwMgrInit
      [.configHw (oneRequest 1) true, .configEnqueue 0, .configHw (oneRequest 2) true,
        .configEnqueue 1, .processCmd ⟨0, 0, 0, some 4, 0, 0⟩, .processCmd ⟨0, 0, 0, some 4, 0, 0⟩,
        .interrupt .enc true, .processIrq 0, .processIrqDone ⟨true, some 4⟩,
        .processCmd ⟨0, 0, 0, some 4, 0, 0⟩, .hwStop 0 0]) :=
  requests_conserved _ _ (by decide +kernel)

/-- A device whose initialisation fails stays in use with nothing started on it. -/
theorem not_requests_conserved : ¬ ∀ (ctxData : ℕ → CtxData) (ops : List Op),
    Conserved ctxData (Transition.run (step ctxData) camJpegHwMgrInit ops) := by
  intro h
  have huse := ((h (fun _ => ⟨true, .enc⟩) [.configHw (oneRequest 1) true, .configEnqueue 0,
    .processCmd ⟨-Errno.EIO, 0, 0, some 4, 0, 0⟩]).inUse ⟨rfl, rfl, rfl⟩ .enc).mp
  exact absurd (huse (by decide +kernel)).2.1 (by decide +kernel)

end CameraKernel.JpegHwMgr
