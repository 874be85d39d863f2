import CameraKernel.MachineInt
import CameraKernel.Transition

/-! Buffer-done payloads of the VFE buses and the loop of the hardware manager that handles
them. A bus is named by the index of its core. -/
namespace CameraKernel.BufDone
open MachineInt

/-- `irq_reg_val` by its names, with the fields that the handlers read. -/
structure Payload where
  coreIndex : ℕ
  timeUsecs : ℕ
  status0 : BitVec 32
  status1 : BitVec 32
  status2 : BitVec 32
  compErr : BitVec 32
  compOwrt : BitVec 32
  dualCompErr : BitVec 32
  dualCompOwrt : BitVec 32
  deriving DecidableEq, Repr

/-- What an interrupt is subscribed for; the groups `0` to `5` are single ones and `6` to `11`
dual ones. -/
inductive Subscriber
  | compGrp (g : Fin 12)
  | wm (index : ℕ)
  deriving DecidableEq, Repr

structure CompGrp where
  compositeMask : BitVec 32
  acquireDevCnt : ℕ
  irqTriggerCnt : ℕ
  deriving DecidableEq, Repr

/-- `hw_res[0]` of an output: its core, and its group or else its first write master. -/
structure HwRes where
  hwIdx : ℕ
  done : Subscriber
  deriving DecidableEq, Repr

structure IfeOutRes where
  uninit : Bool
  resId : ℕ
  hwRes : Option HwRes
  deriving DecidableEq, Repr

def camIfeHwOutResMax : ℕ := 24

/-- `doneCb` tells whether the context has a handler of done events, and `isAffected` whether an
error on the core affects it. -/
structure IfeHwMgrCtx where
  resListIfeOut : List IfeOutRes
  size : resListIfeOut.length = camIfeHwOutResMax
  doneCb : Bool
  isAffected : Bool

/-- What a handler does with the payload, and the events that it reports. -/
inductive Access
  | read
  | returned
  | report (resId timeUsecs : ℕ)
  | error
  deriving DecidableEq, Repr

inductive IrqStatus
  | errComp | compOwrt | err | success
  deriving DecidableEq, Repr

structure Handling where
  payload : Payload
  compGrp : ℕ → Fin 12 → CompGrp
  overflowPending : Bool
  trace : List Access

namespace Handling
variable (h : Handling)

def log (a : Access) : Handling := { h with trace := h.trace ++ [a] }

def setTrigger (core : ℕ) (g : Fin 12) (n : ℕ) : Handling :=
  let d := { h.compGrp core g with irqTriggerCnt := n }
  { h with compGrp := Function.update h.compGrp core (Function.update (h.compGrp core) g d) }

end Handling

section
-- What the next interrupt writes into the payload once it is back on the list.
variable (refill : Option Payload)

/-- A payload with a status left is not put back. -/
def camVfeBusPutEvtPayload (h : Handling) : Handling :=
  let h := h.log .read
  if h.payload.status0 ≠ 0 ∨ h.payload.status1 ≠ 0 ∨ h.payload.status2 ≠ 0 then h
  else
    let h := h.log .returned
    { h with payload := refill.getD h.payload }

/-- The done handler of a group: the status word, its error, overwrite and done bits, the words
of the error and the overwrite, and the payload without the done bit. -/
def compDone (core : ℕ) (g : Fin 12) (h : Handling) (status : BitVec 32)
    (errBit owrtBit doneBit : ℕ) (err owrt : BitVec 32) (cleared : Payload) : IrqStatus × Handling :=
  let d := h.compGrp core g
  if status.getLsbD errBit ∧ err &&& d.compositeMask ≠ 0 then (.errComp, h)
  else if status.getLsbD owrtBit ∧ owrt &&& d.compositeMask ≠ 0 then (.compOwrt, h)
  else if status.getLsbD doneBit then
    let n := u32Inc d.irqTriggerCnt
    (.success, camVfeBusPutEvtPayload refill (if n = d.acquireDevCnt then
        let h := h.setTrigger core g 0
        { h with payload := cleared }
      else h.setTrigger core g n))
  else (.err, h)

def clearBit (x : BitVec 32) (k : ℕ) : BitVec 32 := x &&& ~~~(1#32 <<< k)

def camVfeBusHandleCompDoneBottomHalf (core : ℕ) (g : Fin 12) (h : Handling) : IrqStatus × Handling :=
  let h := h.log .read
  let p := h.payload
  if g.val < 6 then
    compDone refill core g h p.status0 11 12 (g.val + 5) p.compErr p.compOwrt
      { p with status0 := clearBit p.status0 (g.val + 5) }
  else
    compDone refill core g h p.status2 6 7 (g.val - 6) p.dualCompErr p.dualCompOwrt
      { p with status2 := clearBit p.status2 (g.val - 6) }

def camVfeBusHandleWmDoneBottomHalf (index : ℕ) (h : Handling) : IrqStatus × Handling :=
  let h := h.log .read
  if h.payload.status1.getLsbD index then
    (.success, camVfeBusPutEvtPayload refill
      { h with payload := { h.payload with status1 := clearBit h.payload.status1 index } })
  else (.err, h)

def camVfeBusHandleVfeOutDoneBottomHalf (hw : HwRes) (h : Handling) : IrqStatus × Handling :=
  match hw.done with
  | .compGrp g => camVfeBusHandleCompDoneBottomHalf refill hw.hwIdx g h
  | .wm index => camVfeBusHandleWmDoneBottomHalf refill index h

variable (ctx : IfeHwMgrCtx)

def camIfeHwMgrFindAffectedCtx (h : Handling) : Handling :=
  -- The core is read from the payload.
  let h := h.log .read
  if ctx.isAffected then
    let h := h.log .error
    { h with overflowPending := true }
  else h

/-- A success is reported with the time of the payload, which may be back on the list. -/
def reportDone (resId : ℕ) (h : Handling) : Handling :=
  if h.overflowPending then h
  else
    let h := h.log .read
    if ctx.doneCb then h.log (.report resId h.payload.timeUsecs) else h

/-- The loop over the outputs; an error ends it. -/
def handleOuts : List IfeOutRes → Handling → Handling
  | [], h => h
  | r :: rs, h =>
    match if r.uninit then none else r.hwRes with
    | none => handleOuts rs h
    | some hw =>
      let h := h.log .read
      if h.payload.coreIndex ≠ hw.hwIdx then handleOuts rs h
      else match camVfeBusHandleVfeOutDoneBottomHalf refill hw h with
        | (.errComp, h) => camIfeHwMgrFindAffectedCtx ctx h
        | (.compOwrt, h) => camIfeHwMgrFindAffectedCtx ctx h
        | (.err, h) => handleOuts rs h
        | (.success, h) => handleOuts rs (reportDone ctx r.resId h)

end

/-- What is left between two payloads. -/
structure State where
  compGrp : ℕ → Fin 12 → CompGrp
  overflowPending : Bool

/-- An interrupt: its subscriber, its payload, and what is written into the payload when it is
back on the list. -/
structure Irq where
  sub : Subscriber
  payload : Payload
  refill : Option Payload
  deriving DecidableEq, Repr

/-- The context is read from the payload. -/
def begin (s : State) (irq : Irq) : Handling where
  payload := irq.payload
  compGrp := s.compGrp
  overflowPending := s.overflowPending
  trace := [.read]

def camIfeHwMgrHandleBufDoneForHwRes (ctx : IfeHwMgrCtx) (s : State) (irq : Irq) : Handling :=
  handleOuts irq.refill ctx ctx.resListIfeOut (begin s irq)

def step (ctx : IfeHwMgrCtx) (s : State) (irq : Irq) : State :=
  let h := camIfeHwMgrHandleBufDoneForHwRes ctx s irq
  ⟨h.compGrp, h.overflowPending⟩

/-- The outputs of a subscriber on a core. -/
def isOut (core : ℕ) (sub : Subscriber) (r : IfeOutRes) : Bool :=
  !r.uninit && r.hwRes == some ⟨core, sub⟩

def outs (core : ℕ) (sub : Subscriber) (rs : List IfeOutRes) : List ℕ :=
  (rs.filter (isOut core sub)).map IfeOutRes.resId

def reported (trace : List Access) : List ℕ :=
  trace.filterMap fun
    | .report resId _ => some resId
    | _ => none

/-- The done bit of the subscriber. -/
def doneBit (sub : Subscriber) (p : Payload) : Bool :=
  match sub with
  | .compGrp g => if g.val < 6 then p.status0.getLsbD (g.val + 5) else p.status2.getLsbD (g.val - 6)
  | .wm index => p.status1.getLsbD index

/-- The words of the composite errors concern the group. -/
def errorBit (mask : BitVec 32) (sub : Subscriber) (p : Payload) : Bool :=
  match sub with
  | .compGrp g =>
    if g.val < 6 then
      (p.status0.getLsbD 11 && p.compErr &&& mask != 0) ||
        (p.status0.getLsbD 12 && p.compOwrt &&& mask != 0)
    else
      (p.status2.getLsbD 6 && p.dualCompErr &&& mask != 0) ||
        (p.status2.getLsbD 7 && p.dualCompOwrt &&& mask != 0)
  | .wm _ => false

def maskOf (s : State) (core : ℕ) : Subscriber → BitVec 32
  | .compGrp g => (s.compGrp core g).compositeMask
  | .wm _ => 0

/-- The payload has no status bits but those of its subscriber. -/
def OwnBits (sub : Subscriber) (p : Payload) : Prop :=
  match sub with
  | .compGrp g =>
    if g.val < 6 then p.status1 = 0 ∧ p.status2 = 0 ∧
      ∀ k, p.status0.getLsbD k = true → k = g.val + 5 ∨ k = 11 ∨ k = 12
    else p.status0 = 0 ∧ p.status1 = 0 ∧
      ∀ k, p.status2.getLsbD k = true → k = g.val - 6 ∨ k = 6 ∨ k = 7
  | .wm index => p.status0 = 0 ∧ p.status2 = 0 ∧ ∀ k, p.status1.getLsbD k = true → k = index

/-- Its error words concern no other group. -/
def OwnErrors (mask : BitVec 32) (sub : Subscriber) (p : Payload) : Prop :=
  match sub with
  | .compGrp g =>
    if g.val < 6 then p.compErr &&& ~~~mask = 0 ∧ p.compOwrt &&& ~~~mask = 0
    else p.dualCompErr &&& ~~~mask = 0 ∧ p.dualCompOwrt &&& ~~~mask = 0
  | .wm _ => True

structure Carries (s : State) (irq : Irq) : Prop where
  bits : OwnBits irq.sub irq.payload
  errors : OwnErrors (maskOf s irq.payload.coreIndex irq.sub) irq.sub irq.payload

/-- What is asked of the handling of a payload, but for the reads. -/
structure HandledButReads (ctx : IfeHwMgrCtx) (s : State) (irq : Irq) : Prop where
  reports : doneBit irq.sub irq.payload = true →
    (reported (camIfeHwMgrHandleBufDoneForHwRes ctx s irq).trace).Perm
      (outs irq.payload.coreIndex irq.sub ctx.resListIfeOut)
  noOther : ∀ resId ∈ reported (camIfeHwMgrHandleBufDoneForHwRes ctx s irq).trace,
    resId ∈ outs irq.payload.coreIndex irq.sub ctx.resListIfeOut
  returned : (camIfeHwMgrHandleBufDoneForHwRes ctx s irq).trace.count .returned = 1
  counts : ∀ core g, ((camIfeHwMgrHandleBufDoneForHwRes ctx s irq).compGrp core g).irqTriggerCnt = 0

structure HandledOnce (ctx : IfeHwMgrCtx) (s : State) (irq : Irq) : Prop
    extends HandledButReads ctx s irq where
  reads : ∀ before after, (camIfeHwMgrHandleBufDoneForHwRes ctx s irq).trace =
    before ++ Access.returned :: after → .read ∉ after

end CameraKernel.BufDone
