import CameraKernel.Errno
import CameraKernel.Transition

/-! Frame events of an IFE context whose CAMIF source runs on two cores. An interrupt of a
core says which of the sources it is an event of. -/
namespace CameraKernel.IfeDual

inductive Event
  | sof | epoch | eof
  deriving DecidableEq, Repr

inductive ResId
  | camif | testgen | rd | rdi0 | rdi1 | rdi2 | rdi3 | camifLite
  deriving DecidableEq, Repr

/-- `left` and `right` are the cores of `hw_res`. -/
structure Source where
  uninit : Bool
  resId : ResId
  isDualVfe : Bool
  left : Option ℕ
  right : Option ℕ
  deriving DecidableEq, Repr

structure Config where
  resListIfeSrc : List Source
  isFeEnable : Bool
  isRdiOnlyContext : Bool
  deriving DecidableEq, Repr

/-- `own k e` says that the interrupt is the event `e` of the `k`-th source. -/
structure Irq where
  coreIndex : ℕ
  own : ℕ → Event → Bool

/-- `calls` counts the callbacks of the ISP context. -/
structure Ctx where
  cnt : Event → ℕ → UInt32
  dualIfeIrqMismatchCnt : UInt32
  overflowPending : Bool
  calls : Event → ℕ

/-- The bottom half of a source on a core answers 0 for its own event only. -/
def bottomHalf (irq : Irq) (k core : ℕ) (e : Event) : ℤ :=
  if core = irq.coreIndex ∧ irq.own k e = true then 0 else -1

def Ctx.setCnt (s : Ctx) (e : Event) (core : ℕ) (n : UInt32) : Ctx :=
  { s with cnt := Function.update s.cnt e (Function.update (s.cnt e) core n) }

def Ctx.call (s : Ctx) (e : Event) : Ctx :=
  { s with calls := Function.update s.calls e (s.calls e + 1) }

/-- One count too many is taken back. -/
def takeBack (s : Ctx) (e : Event) (core : ℕ) : Ctx :=
  if 2 ≤ s.cnt e core then
    { s.setCnt e core (s.cnt e core - 1) with
      dualIfeIrqMismatchCnt := s.dualIfeIrqMismatchCnt + 1 }
  else s

/-- The differences are unsigned. -/
def checkIrqForDualVfe (s : Ctx) (core0 core1 : ℕ) (e : Event) : ℤ × Ctx :=
  let n0 := s.cnt e core0
  let n1 := s.cnt e core1
  if n0 = n1 then (0, (s.setCnt e core0 0).setCnt e core1 0)
  else if (n0 ≠ 0 ∧ 1 < n0 - n1) ∨ (n1 ≠ 0 ∧ 1 < n1 - n0) then
    if 10 < s.dualIfeIrqMismatchCnt then (-1, s)
    else (0, takeBack (takeBack s e core0) e core1)
  else (-1, s)

/-- Counts the event of a core; `none` when the interrupt is none of the source's events. -/
def countSide (irq : Irq) (k core : ℕ) (e : Event) (s : Ctx) : Option Ctx :=
  if irq.coreIndex = core then
    if bottomHalf irq k core e = 0 then some (s.setCnt e irq.coreIndex (s.cnt e irq.coreIndex + 1))
    else none
  else some s

def processCamifSof (irq : Irq) (k : ℕ) (src : Source) (s : Ctx) : ℤ × Ctx :=
  match src.isDualVfe with
  | false =>
    match src.left with
    | none => (-Errno.EINVAL, s)
    | some core =>
      if irq.coreIndex = core then
        if s.overflowPending then (-Errno.EINVAL, s)
        else if bottomHalf irq k core .sof = 0 then (0, s) else (-Errno.EINVAL, s)
      else (-Errno.EINVAL, s)
  | true =>
    match src.left with
    | none => (-Errno.EINVAL, s)
    | some core0 =>
      match countSide irq k core0 .sof s with
      | none => (-Errno.EINVAL, s)
      | some s =>
        match src.right with
        | none => (-Errno.EINVAL, s)
        | some core1 =>
          match countSide irq k core1 .sof s with
          | none => (-Errno.EINVAL, s)
          | some s =>
            if s.overflowPending then (-Errno.EINVAL, s) else checkIrqForDualVfe s core0 core1 .sof

def rdiStatus (irq : Irq) (k : ℕ) (src : Source) : ℤ :=
  match src.left with
  | some core => bottomHalf irq k core .sof
  | none => -1

/-- The loop body; the flag is `sof_sent`. -/
def visitSof (cfg : Config) (irq : Irq) (r : Ctx × Bool) (k : ℕ) (src : Source) : Ctx × Bool :=
  let (s, sent) := r
  if src.uninit then (s, sent)
  else
    match src.resId with
    | .rdi0 | .rdi1 | .rdi2 | .rdi3 =>
      if (cfg.isFeEnable || cfg.isRdiOnlyContext) && (rdiStatus irq k src = 0 && !sent) then
        (s.call .sof, true)
      else (s, sent)
    | .camif | .rd =>
      let (rc, s) := processCamifSof irq k src s
      if rc = 0 ∧ sent = false then (s.call .sof, true) else (s, sent)
    | .testgen | .camifLite => (s, sent)

def handleSof (cfg : Config) (irq : Irq) (s : Ctx) : Ctx :=
  (cfg.resListIfeSrc.zipIdx.foldl (fun r e => visitSof cfg irq r e.2 e.1) (s, false)).1

/-- The loop body of the two handlers; they differ in the sources they look at. -/
def visitCamif (e : Event) (skips : ResId → Bool) (irq : Irq) (s : Ctx) (k : ℕ) (src : Source) : Ctx :=
  if src.uninit || skips src.resId then s
  else
    match src.isDualVfe with
    | false =>
      match src.left with
      | none => s
      | some core =>
        if irq.coreIndex = core then
          if s.overflowPending then s
          else if bottomHalf irq k core e = 0 then s.call e else s
        else s
    | true =>
      match src.left, src.right with
      | some core0, some core1 =>
        match countSide irq k core0 e s with
        | none => s
        | some s =>
          match countSide irq k core1 e s with
          | none => s
          | some s =>
            let (rc, s) := checkIrqForDualVfe s core0 core1 e
            if s.overflowPending then s
            else if rc = 0 then s.call e else s
      | _, _ => s

def epochSkips : ResId → Bool
  | .camif | .testgen | .rd => false
  | _ => true

def eofSkips : ResId → Bool
  | .camif => false
  | _ => true

def handleEpochForCamifHwRes (cfg : Config) (irq : Irq) (s : Ctx) : Ctx :=
  cfg.resListIfeSrc.zipIdx.foldl (fun s e => visitCamif .epoch epochSkips irq s e.2 e.1) s

def handleEofForCamifHwRes (cfg : Config) (irq : Irq) (s : Ctx) : Ctx :=
  cfg.resListIfeSrc.zipIdx.foldl (fun s e => visitCamif .eof eofSkips irq s e.2 e.1) s

/-- The bottom half of an interrupt without an error. -/
def doTasklet (cfg : Config) (irq : Irq) (s : Ctx) : Ctx :=
  handleEpochForCamifHwRes cfg irq (handleSof cfg irq (handleEofForCamifHwRes cfg irq s))

/-- Errors raise `overflow_pending`, a recovery clears it. -/
inductive Op
  | irq (irq : Irq)
  | overflow (pending : Bool)

/-- With the events the `d`-th source has had on each core. -/
structure State where
  ctx : Ctx
  seen : Event → ℕ → ℕ

def see (d : ℕ) (irq : Irq) (seen : Event → ℕ → ℕ) (e : Event) (core : ℕ) : ℕ :=
  if irq.coreIndex = core ∧ irq.own d e = true then seen e core + 1 else seen e core

def step (cfg : Config) (d : ℕ) (s : State) : Op → State
  | .irq irq => ⟨doTasklet cfg irq s.ctx, see d irq s.seen⟩
  | .overflow pending => { s with ctx := { s.ctx with overflowPending := pending } }

def init : State := ⟨⟨fun _ _ => 0, 0, false, fun _ => 0⟩, fun _ _ => 0⟩

end CameraKernel.IfeDual
