import CameraKernel.IspOps

/-! Which hardware contexts an ISP context owns. The ISP model says only whether `hw_ctx` is set;
here it points to one of the hardware contexts that the hardware manager has handed out. -/
namespace CameraKernel.Isp

/-- `obtained` are the contexts of a successful hw_acquire that no hw_release has been given,
`next` is the one that the hardware manager hands out next. -/
structure Owner where
  ctx : Ctx
  hwCtx : Option ℕ
  obtained : List ℕ
  next : ℕ

namespace Owner

def init : Owner := ⟨contextInit, none, [], 0⟩

/-- `hw_acquire` succeeds. -/
def obtain (o : Owner) : Owner := { o with obtained := o.next :: o.obtained, next := o.next + 1 }

/-- `hw_release` of what `hw_ctx` points to, if anything. -/
def release (o : Owner) : Owner := { o with obtained := o.obtained.filter (fun hw => some hw ≠ o.hwCtx) }

def drop (o : Owner) : Owner := { o with hwCtx := none }

/-- The labels `free_hw` of the two acquires: the device path asks `hw_acquired` first. -/
def freeHwInAvailable (o : Owner) (hwAcquired : Bool) : Owner :=
  if hwAcquired then o.release.drop else o.drop

def freeHwInAcquired (o : Owner) : Owner := o.release.drop

def acquireDevHandle (o : Owner) (cmd : AcquireCmd) (hwAcquired : Bool) : Owner :=
  if cmd.devHdl ≤ 0 then o.freeHwInAvailable hwAcquired else o

def acquireDevInAvailable (o : Owner) (cmd : AcquireCmd) : Owner :=
  if cmd.splitAcquire then o.acquireDevHandle cmd o.ctx.hwAcquired
  else if cmd.argsRc ≠ 0 then o
  else if cmd.hwAcquireRc ≠ 0 then o
  else if cmd.hwCmdRc ≠ 0 then o.obtain.freeHwInAvailable o.ctx.hwAcquired
  else { o.obtain with hwCtx := some o.next }.acquireDevHandle cmd true

def acquireHwInAcquired (o : Owner) (cmd : AcquireCmd) : Owner :=
  if cmd.argsRc ≠ 0 then o
  else if cmd.hwAcquireRc ≠ 0 then o
  else if cmd.hwCmdRc ≠ 0 then o.obtain.freeHwInAcquired
  else { o.obtain with hwCtx := some o.next }

def releaseHwInTopState (o : Owner) : Owner := if o.hwCtx.isSome then o.release.drop else o

/-- What a call does to the ownership; the ISP model does the rest. -/
def account (o : Owner) : Op → Owner
  | .acquireDev cmd => if o.ctx.state = .available then o.acquireDevInAvailable cmd else o
  | .acquireHw cmd => if o.ctx.state = .acquired then o.acquireHwInAcquired cmd else o
  | .releaseHw => if o.ctx.state = .available then o else o.releaseHwInTopState
  | .releaseDev => if o.ctx.state = .available then o else o.releaseHwInTopState
  | _ => o

/-- As in the ISP model, nothing but an event goes on during a config_dev. -/
def step (o : Owner) (op : Op) : Owner :=
  { (if o.ctx.held.isNone then o.account op else o) with ctx := Isp.step o.ctx op }

end Owner

/-- The owned hardware contexts are exactly the one `hw_ctx` points to. -/
structure HwExact (o : Owner) : Prop where
  obtained : o.obtained = o.hwCtx.toList
  hwCtx : o.ctx.hwCtx = o.hwCtx.isSome

/-- What an acquire may not meet: a failing query of the context type once the hardware has been
acquired, or, for acquire_hw, a context that has hardware already. -/
def ownerSafe (o : Owner) : Op → Bool
  | .acquireDev cmd => cmd.splitAcquire || cmd.argsRc ≠ 0 || cmd.hwAcquireRc ≠ 0 || cmd.hwCmdRc = 0
  | .acquireHw cmd => cmd.argsRc ≠ 0 || cmd.hwAcquireRc ≠ 0 || (cmd.hwCmdRc = 0 && o.hwCtx.isNone)
  | _ => true

structure HwFrame (c d : Ctx) : Prop where
  hwCtx : d.hwCtx = c.hwCtx
  hwAcquired : d.hwAcquired = c.hwAcquired
  available : d.state = .available → c.state = .available

lemma HwFrame.refl (c : Ctx) : HwFrame c c := ⟨rfl, rfl, id⟩

lemma HwFrame.of_top {c d : Ctx} (h : d.top = c.top) : HwFrame c d where
  hwCtx := congrArg Top.hwCtx h
  hwAcquired := congrArg Top.hwAcquired h
  available hd := (congrArg Top.state h).symm.trans hd

lemma HwFrame.trans {c d e : Ctx} (h : HwFrame c d) (h' : HwFrame d e) : HwFrame c e where
  hwCtx := h'.hwCtx.trans h.hwCtx
  hwAcquired := h'.hwAcquired.trans h.hwAcquired
  available hd := h.available (h'.available hd)

lemma HwFrame.substate {c d : Ctx} (h : HwFrame c d) (substate : Substate) :
    HwFrame c { d with substate := substate } :=
  h.trans ⟨rfl, rfl, id⟩

lemma irq_hwFrame (c : Ctx) (e : Event) :
    HwFrame c (if c.state = .activated then handleIrqInActivated c e else c) := by
  split
  · exact .of_top (handled_top (handleIrqInActivated_handled _ _))
  · exact .refl _

lemma takeFreeReq_hwFrame (c : Ctx) : HwFrame c (takeFreeReq c).2 := by
  unfold takeFreeReq
  split
  · exact .refl c
  · exact ⟨rfl, rfl, id⟩

lemma beginConfigDev_hwFrame (c : Ctx) : HwFrame c (beginConfigDev c).2 := by
  unfold beginConfigDev
  split
  · exact .refl c
  · split
    · exact .refl c
    · exact takeFreeReq_hwFrame c
  · exact takeFreeReq_hwFrame c
  · exact takeFreeReq_hwFrame c

lemma configured_hwFrame {c d : Ctx} {i : ℕ} {p : Packet} (h : Configured c i p d) : HwFrame c d := by
  obtain ⟨free, pending, req, initReceived, rfl⟩ := configured_eq h
  exact ⟨rfl, rfl, id⟩

lemma configDev_hwFrame (c : Ctx) (i : ℕ) (p : Packet) : HwFrame c (configDev c i p).2 := by
  have hconf := configured_hwFrame (configDevInTopState_configured c i p)
  unfold configDev
  dsimp only
  split
  · exact ⟨hconf.hwCtx, hconf.hwAcquired, fun h => by simp at h⟩
  · exact hconf

lemma applyReq_hwFrame (c : Ctx) (a : ApplyReq) : HwFrame c (applyReq c a).2 := by
  have happly : ∀ next, HwFrame c (applyReqInActivatedState c a next).2 := by
    intro next
    unfold applyReqInActivatedState
    split
    · exact .refl c
    · dsimp only
      split_ifs <;> exact ⟨rfl, rfl, id⟩
  unfold applyReq
  split
  · exact happly _
  · exact happly _
  · exact happly _
  · exact happly _
  · exact .refl c

lemma flushPending_hwFrame (c : Ctx) (f : FlushReq) : HwFrame c (flushPending c f) := ⟨rfl, rfl, id⟩

lemma recordFlush_hwFrame (c : Ctx) (f : FlushReq) : HwFrame c (recordFlush c f) := ⟨rfl, rfl, id⟩

lemma flushApplied_hwFrame (c : Ctx) (f : FlushReq) : HwFrame c (flushApplied c f) := ⟨rfl, rfl, id⟩

lemma flushReqInTopState_hwFrame (c : Ctx) (f : FlushReq) : HwFrame c (flushReqInTopState c f).2 := by
  have hflushed : HwFrame c { flushPending (recordFlush c f) f with processBubble := false } :=
    ((recordFlush_hwFrame c f).trans (flushPending_hwFrame _ f)).trans ⟨rfl, rfl, id⟩
  rw [flushReqInTopState]
  generalize ({ flushPending (recordFlush c f) f with processBubble := false } : Ctx) = d at hflushed ⊢
  dsimp only
  split_ifs
  · exact hflushed.substate .sof
  · exact hflushed.substate .sof
  · exact (hflushed.trans (flushApplied_hwFrame d f)).substate .sof

lemma flushReq_hwFrame (c : Ctx) (f : FlushReq) : HwFrame c (flushReq c f).2 := by
  unfold flushReq
  split
  · exact .refl c
  · refine ⟨rfl, rfl, fun h => ?_⟩
    dsimp only [flushReqInReady] at h
    split at h
    · simp at h
    · exact h
  · exact flushReqInTopState_hwFrame c f
  · exact flushReqInTopState_hwFrame c f

lemma startDevInReady_hwFrame (c : Ctx) (cmd : StartCmd) : HwFrame c (startDevInReady c cmd).2 := by
  unfold startDevInReady
  split
  · exact .refl c
  · split
    · exact .refl c
    · dsimp only
      split_ifs
      · exact .refl c
      · exact ⟨rfl, rfl, id⟩
      · exact ⟨rfl, rfl, fun h => by simp at h⟩
      · exact ⟨rfl, rfl, fun h => by simp at h⟩

/-- The ISP model and the ownership agree, and an available context has no hardware. -/
structure OwnerInv (o : Owner) : Prop where
  exact : HwExact o
  hwAcquired : o.ctx.hwAcquired = o.hwCtx.isSome
  available : o.ctx.state = .available → o.hwCtx = none

lemma OwnerInv.frame {o : Owner} {d : Ctx} (h : OwnerInv o) (hd : HwFrame o.ctx d) :
    OwnerInv { o with ctx := d } :=
  ⟨⟨h.exact.obtained, hd.hwCtx.trans h.exact.hwCtx⟩, hd.hwAcquired.trans h.hwAcquired,
    fun ha => h.available (hd.available ha)⟩

lemma Owner.release_drop {o : Owner} (h : o.obtained = o.hwCtx.toList) :
    o.release.drop.obtained = [] := by
  cases hw : o.hwCtx <;> simp [Owner.release, Owner.drop, h, hw]

lemma ownerInv_of_none {o : Owner} (hobtained : o.obtained = []) (hnone : o.hwCtx = none)
    (hctx : o.ctx.hwCtx = false) (hacquired : o.ctx.hwAcquired = false) : OwnerInv o :=
  ⟨⟨by simp [hobtained, hnone], by simp [hctx, hnone]⟩, by simp [hacquired, hnone], fun _ => hnone⟩

lemma ownerInv_of_some {o : Owner} {w : ℕ} (hobtained : o.obtained = [w]) (hsome : o.hwCtx = some w)
    (hctx : o.ctx.hwCtx = true) (hacquired : o.ctx.hwAcquired = true) (hstate : o.ctx.state ≠ .available) :
    OwnerInv o :=
  ⟨⟨by simp [hobtained, hsome], by simp [hctx, hsome]⟩, by simp [hacquired, hsome], fun h => absurd h hstate⟩

lemma acquireDevHandle_ownerInv {o : Owner} (cmd : AcquireCmd) {d : Ctx} {b : Bool}
    (hobtained : o.obtained = o.hwCtx.toList) (hb : b = o.hwCtx.isSome) (hctx : d.hwCtx = b)
    (hacquired : d.hwAcquired = b) (l : List ℕ) :
    OwnerInv { o.acquireDevHandle cmd b with
      ctx := { (acquireDevHandle d cmd).2 with free := l, pending := [], wait := [], active := [] } } := by
  unfold Owner.acquireDevHandle acquireDevHandle
  by_cases hdl : cmd.devHdl ≤ 0
  · simp only [if_pos hdl]
    refine ownerInv_of_none ?_ ?_ rfl rfl
    · unfold Owner.freeHwInAvailable
      split
      · exact Owner.release_drop hobtained
      · next hnone =>
        rw [Bool.not_eq_true, hb, Option.isSome_eq_false_iff, Option.isNone_iff_eq_none] at hnone
        simp [Owner.drop, hobtained, hnone]
    · unfold Owner.freeHwInAvailable
      split <;> rfl
  · simp only [if_neg hdl]
    exact ⟨⟨hobtained, hctx.trans hb⟩, hacquired.trans hb, fun h => by simp at h⟩

lemma acquireDev_ownerInv {o : Owner} (h : OwnerInv o) (cmd : AcquireCmd)
    (hsafe : ownerSafe o (.acquireDev cmd) = true) :
    OwnerInv { o.account (.acquireDev cmd) with ctx := (acquireDev o.ctx cmd).2 } := by
  unfold Owner.account acquireDev
  cases hs : o.ctx.state with
  | available =>
    have hnone := h.available hs
    have hobtained : o.obtained = [] := by rw [h.exact.obtained, hnone]; rfl
    have hctx : o.ctx.hwCtx = false := by rw [h.exact.hwCtx, hnone]; rfl
    have hacquired : o.ctx.hwAcquired = false := by rw [h.hwAcquired, hnone]; rfl
    simp only [if_true]
    unfold Owner.acquireDevInAvailable acquireDevInAvailable
    by_cases hsplit : cmd.splitAcquire = true
    · simp only [if_pos hsplit, hacquired]
      refine acquireDevHandle_ownerInv cmd h.exact.obtained (by simp [hnone]) hctx hacquired _
    by_cases hargs : cmd.argsRc ≠ 0
    · simp only [if_neg hsplit, if_pos hargs]
      exact ownerInv_of_none hobtained hnone hctx hacquired
    by_cases hacq : cmd.hwAcquireRc ≠ 0
    · simp only [if_neg hsplit, if_neg hargs, if_pos hacq]
      exact ownerInv_of_none hobtained hnone hctx hacquired
    have hcmd : ¬ cmd.hwCmdRc ≠ 0 := by
      simpa [ownerSafe, hsplit, not_not.mp hargs, not_not.mp hacq] using hsafe
    simp only [if_neg hsplit, if_neg hargs, if_neg hacq, if_neg hcmd]
    exact acquireDevHandle_ownerInv cmd (by simp [Owner.obtain, hobtained]) rfl rfl rfl _
  | acquired | ready | activated =>
    simp only [reduceCtorEq, if_false]
    exact h

lemma acquireHwInAcquired_ownerInv {o : Owner} (h : OwnerInv o) (cmd : AcquireCmd)
    (hstate : o.ctx.state = .acquired) (hsafe : ownerSafe o (.acquireHw cmd) = true) :
    OwnerInv { o.acquireHwInAcquired cmd with ctx := (acquireHwInAcquired o.ctx cmd).2 } := by
  unfold Owner.acquireHwInAcquired acquireHwInAcquired
  by_cases hargs : cmd.argsRc ≠ 0
  · simp only [if_pos hargs]
    exact h
  by_cases hacq : cmd.hwAcquireRc ≠ 0
  · simp only [if_neg hargs, if_pos hacq]
    exact h
  obtain ⟨hcmd, hnone⟩ : cmd.hwCmdRc = 0 ∧ o.hwCtx = none := by
    simpa [ownerSafe, not_not.mp hargs, not_not.mp hacq] using hsafe
  simp only [if_neg hargs, if_neg hacq, hcmd, ne_eq, not_true_eq_false, if_false]
  refine ownerInv_of_some (w := o.next) ?_ rfl rfl rfl ?_
  · simp [Owner.obtain, h.exact.obtained, hnone]
  · simp [acquireHw, hstate]

lemma Owner.releaseHwInTopState_obtained {o : Owner} (h : o.obtained = o.hwCtx.toList) :
    o.releaseHwInTopState.obtained = [] ∧ o.releaseHwInTopState.hwCtx = none := by
  unfold Owner.releaseHwInTopState
  cases hw : o.hwCtx with
  | none => simp [h, hw]
  | some x => exact ⟨Owner.release_drop h, rfl⟩

lemma releaseDevInTopState_hw (c : Ctx) :
    (releaseDevInTopState c).hwCtx = false ∧ (releaseDevInTopState c).hwAcquired = false := by
  unfold releaseDevInTopState
  cases hw : c.hwCtx with
  | true => exact ⟨rfl, rfl⟩
  | false => exact ⟨hw, rfl⟩

lemma call_ownerInv {o : Owner} (h : OwnerInv o) (op : Op) (hsafe : ownerSafe o op = true) :
    OwnerInv { o.account op with ctx := call o.ctx op } := by
  obtain ⟨hobtained, hnone⟩ := Owner.releaseHwInTopState_obtained h.exact.obtained
  cases op with
  | acquireDev cmd => exact acquireDev_ownerInv h cmd hsafe
  | acquireHw cmd =>
    unfold Owner.account call
    by_cases hs : o.ctx.state = .acquired
    · simp only [if_pos hs]
      exact acquireHwInAcquired_ownerInv h cmd hs hsafe
    · simp only [if_neg hs]
      exact h
  | releaseHw =>
    unfold Owner.account call
    cases hs : o.ctx.state with
    | available => exact h
    | acquired | ready | activated =>
      simp only [reduceCtorEq, if_false]
      exact ownerInv_of_none hobtained hnone rfl rfl
  | releaseDev =>
    unfold Owner.account call
    cases hs : o.ctx.state with
    | available => exact h
    | acquired | ready | activated =>
      simp only [reduceCtorEq, if_false]
      exact ownerInv_of_none hobtained hnone (releaseDevInTopState_hw _).1 (releaseDevInTopState_hw _).2
  | link linkHdl =>
    refine h.frame ?_
    dsimp only [call]
    split
    · refine ⟨rfl, rfl, fun ha => ?_⟩
      dsimp only at ha
      split at ha <;> simp at ha
    · exact .refl _
  | unlink =>
    refine h.frame ?_
    dsimp only [call]
    cases hs : o.ctx.state with
    | available => exact .refl _
    | acquired => exact ⟨rfl, rfl, fun ha => by simp at ha⟩
    | ready | activated => exact ⟨rfl, rfl, fun ha => by simp [unlinkInReady] at ha⟩
  | beginConfig => exact h.frame (beginConfigDev_hwFrame _)
  | config p => exact h
  | startDev cmd =>
    refine h.frame ?_
    dsimp only [call]
    split
    · exact startDevInReady_hwFrame _ _
    · exact .refl _
  | stopDev =>
    refine h.frame ?_
    dsimp only [call]
    split
    · exact ⟨rfl, rfl, fun ha => by simp [stopDevInActivated] at ha⟩
    · exact .refl _
  | apply a =>
    refine h.frame ?_
    dsimp only [call]
    split
    · exact applyReq_hwFrame _ _
    · exact .refl _
  | flush f => exact h.frame (flushReq_hwFrame _ _)
  | irq e => exact h

lemma step_ownerInv {o : Owner} (h : OwnerInv o) (op : Op) (hsafe : ownerSafe o op = true) :
    OwnerInv (o.step op) := by
  unfold Owner.step step
  cases hheld : o.ctx.held with
  | none =>
    simp only [Option.isNone_none, if_true]
    cases op with
    | irq e => exact h.frame (irq_hwFrame _ e)
    | config p => exact h
    | _ => exact call_ownerInv h _ hsafe
  | some i =>
    simp only [Option.isNone_some, Bool.false_eq_true, if_false]
    cases op with
    | irq e => exact h.frame (irq_hwFrame _ e)
    | config p => exact h.frame (configDev_hwFrame _ _ _)
    | _ => exact h

/-- A context owns exactly the hardware its pointer names, along every run in which no acquire
meets what `ownerSafe` excludes. -/
theorem run_hwExact (ops : List Op)
    (hsafe : Transition.Guarded Owner.step (fun o op => ownerSafe o op = true) Owner.init ops) :
    HwExact (Transition.run Owner.step Owner.init ops) := by
  have hinit : OwnerInv Owner.init := ownerInv_of_none rfl rfl rfl rfl
  have h := Transition.run_invariant (fun o op (h : OwnerInv o) hop => step_ownerInv h op hop) hinit hsafe
  exact h.exact

theorem bothAcquires_hwExact :
    HwExact (Transition.run Owner.step Owner.init
      (startUp .pix ++ [Op.stopDev, .releaseDev, .acquireDev ⟨1, true, 0, 0, 0, .pix, 7⟩,
        .acquireHw ⟨1, false, 0, 0, 0, .rdi, 0⟩, .releaseHw, .releaseDev,
        .acquireDev ⟨1, false, 0, 0, 0, .pix, 0⟩])) :=
  run_hwExact _ (by decide +kernel)

/-- The hardware is acquired, but its context type cannot be queried: nothing releases it. -/
theorem failedQuery_hwLost :
    ¬ HwExact (Transition.run Owner.step Owner.init [.acquireDev ⟨1, false, 0, 0, -22, .pix, 7⟩]) := by
  intro h
  exact absurd h.obtained (by decide +kernel)

end CameraKernel.Isp
