import CameraKernel.Errno
import CameraKernel.Transition

/-! Start and stop of IFE contexts, which share the count of active contexts, the SAFE LUT and
the hardware manager's mutex. -/
namespace CameraKernel.IfeStart

/-- A resource and the nodes it has on the left and on the right core. -/
structure HwRes where
  left : Option ℕ
  right : Option ℕ
  deriving DecidableEq, Repr

/-- What was acquired for a context. -/
structure Resources where
  ctxInUse : Bool
  numBase : ℕ
  cid : List HwRes
  csid : List HwRes
  src : List HwRes
  inRd : List HwRes
  out : List HwRes
  deriving DecidableEq, Repr

def nodes (l : List HwRes) : List ℕ := l.flatMap fun r => r.left.toList ++ r.right.toList

/-- The nodes in the order in which they are started: the slave first. -/
def slaveFirst (l : List HwRes) : List ℕ := l.flatMap fun r => r.right.toList ++ r.left.toList

/-- `inited` lists the nodes whose init was not undone; `started` tells whether the last start
of the context succeeded and no full stop came after it. -/
structure Ctx where
  initDone : Bool
  inited : List ℕ
  cdmOn : Bool
  taskletActive : Bool
  started : Bool
  deriving DecidableEq, Repr

structure Glob where
  activeCtxCnt : ℤ
  safeOn : Bool
  mutexHeld : Bool
  deriving DecidableEq, Repr

/-- Return codes of what a call asks for; `safeDisableRc` is that of the SAFE disable. -/
structure Answers where
  initRc : ℕ → ℤ
  startRc : ℕ → ℤ
  safeEnableRc : ℤ
  safeDisableRc : ℤ
  streamOnRc : ℤ
  streamOffRc : ℤ
  configRc : ℤ

def initHwRes (rc : ℕ → ℤ) : List ℕ → List ℕ → List ℕ × ℤ
  | [], inited => (inited, 0)
  | n :: ns, inited => if rc n = 0 then initHwRes rc ns (inited ++ [n]) else (inited, rc n)

def Resources.all (res : Resources) : List ℕ :=
  nodes (res.cid ++ res.csid ++ res.src ++ res.inRd ++ res.out)

def deinitHw (res : Resources) (ctx : Ctx) : Ctx :=
  if ctx.initDone then { ctx with inited := ctx.inited.diff res.all, initDone := false } else ctx

def initHw (res : Resources) (a : Answers) (ctx : Ctx) : Ctx × ℤ :=
  let deinit := fun inited : List ℕ => deinitHw res { ctx with inited, initDone := true }
  match initHwRes a.initRc (nodes (res.cid ++ res.csid ++ res.src)) ctx.inited with
  | (inited, rc) =>
    if rc ≠ 0 then (deinit inited, rc)
    else
      match initHwRes a.initRc (nodes res.inRd) inited with
      | (inited, rc) =>
        -- the bus read path returns without the deinit of the others
        if rc ≠ 0 then ({ ctx with inited }, rc)
        else
          match initHwRes a.initRc (nodes res.out) inited with
          | (inited, rc) =>
            if rc ≠ 0 then (deinit inited, rc) else ({ ctx with inited }, 0)

def Glob.safe (g : Glob) (trigger : Bool) (rc : ℤ) : Glob :=
  if rc = 0 then { g with safeOn := trigger } else g

/-- A stop. The result is missing when the call waits for the mutex for ever. -/
def stopHw (res : Resources) (immediately stopOnly : Bool) (a : Answers) (ctx : Ctx) (g : Glob) :
    Ctx × Glob × Option ℤ :=
  if !res.ctxInUse then (ctx, g, some (-Errno.EPERM))
  else if immediately && stopOnly then (ctx, g, some (-Errno.EPERM))
  else if res.numBase = 0 then (ctx, g, some (-Errno.EINVAL))
  else
    let ctx := { ctx with taskletActive := false }
    if stopOnly then (ctx, g, some 0)
    else
      let ctx := if a.streamOffRc = 0 then { ctx with cdmOn := false } else ctx
      let ctx := deinitHw res ctx
      if g.mutexHeld then (ctx, g, none)
      else
        let g := { g with activeCtxCnt := g.activeCtxCnt - 1 }
        let g := if g.activeCtxCnt = 0 then g.safe false a.safeDisableRc else g
        ({ ctx with started := false }, g, some 0)

/-- The return code of the first start that fails. -/
def startHwRes (rc : ℕ → ℤ) : List ℕ → ℤ
  | [] => 0
  | n :: ns => if rc n = 0 then startHwRes rc ns else rc n

/-- From the label `start_only` on. -/
def startOut (res : Resources) (a : Answers) (ctx : Ctx) (g : Glob) : Ctx × Glob × Option ℤ :=
  let rc := startHwRes a.startRc
    (slaveFirst (res.out ++ res.inRd ++ res.src ++ res.csid ++ res.cid))
  if rc ≠ 0 then
    match stopHw res true false a ctx g with
    | (ctx, g, stopped) => ({ ctx with started := false }, g, stopped.map fun _ => rc)
  else ({ ctx with started := true }, g, some 0)

def taskletStop (ctx : Ctx) (g : Glob) (rc : ℤ) : Ctx × Glob × Option ℤ :=
  ({ ctx with taskletActive := false, started := false }, g, some rc)

/-- The labels `safe_disable`, `deinit_hw` and `tasklet_stop`. -/
def safeDisable (res : Resources) (a : Answers) (ctx : Ctx) (g : Glob) (rc : ℤ) :
    Ctx × Glob × Option ℤ :=
  taskletStop (deinitHw res ctx) (g.safe false a.safeDisableRc) rc

def startCdm (res : Resources) (a : Answers) (ctx : Ctx) (g : Glob) : Ctx × Glob × Option ℤ :=
  if a.streamOnRc ≠ 0 then safeDisable res a ctx g a.streamOnRc
  else if a.configRc ≠ 0 then
    safeDisable res a { ctx with cdmOn := decide (a.streamOffRc ≠ 0) } g a.configRc
  else startOut res a { ctx with cdmOn := true } g

def startHw (res : Resources) (startOnly : Bool) (a : Answers) (ctx : Ctx) (g : Glob) :
    Ctx × Glob × Option ℤ :=
  if !res.ctxInUse then (ctx, g, some (-Errno.EPERM))
  else if !ctx.initDone && startOnly then (ctx, g, some (-Errno.EINVAL))
  else
    let ctx := { ctx with taskletActive := true }
    if ctx.initDone && startOnly then startOut res a ctx g
    else
      match initHw res a ctx with
      | (ctx, rc) =>
        if rc ≠ 0 then taskletStop ctx g rc
        else
          let ctx := { ctx with initDone := true }
          if g.mutexHeld then (ctx, g, none)
          else
            let first := g.activeCtxCnt = 0
            let g := { g with activeCtxCnt := g.activeCtxCnt + 1 }
            if first ∧ a.safeEnableRc ≠ 0 then
              -- `deinit_hw` is reached with the mutex held and the count raised
              taskletStop (deinitHw res ctx) { g with mutexHeld := true } (-Errno.EFAULT)
            else startCdm res a ctx (if first then { g with safeOn := true } else g)

inductive Op (ι : Type*)
  | start (i : ι) (startOnly : Bool) (a : Answers)
  | stop (i : ι) (immediately stopOnly : Bool) (a : Answers)

structure State (ι : Type*) where
  ctx : ι → Ctx
  glob : Glob

def init (ι : Type*) : State ι := ⟨fun _ => ⟨false, [], false, false, false⟩, ⟨0, false, false⟩⟩

variable {ι : Type*} [DecidableEq ι]

def State.put (s : State ι) (i : ι) (r : Ctx × Glob × Option ℤ) : State ι × Option ℤ :=
  (⟨Function.update s.ctx i r.1, r.2.1⟩, r.2.2)

def call (res : ι → Resources) (s : State ι) : Op ι → State ι × Option ℤ
  | .start i startOnly a => s.put i (startHw (res i) startOnly a (s.ctx i) s.glob)
  | .stop i immediately stopOnly a =>
    s.put i (stopHw (res i) immediately stopOnly a (s.ctx i) s.glob)

def step (res : ι → Resources) (s : State ι) (op : Op ι) : State ι := (call res s op).1

end CameraKernel.IfeStart
