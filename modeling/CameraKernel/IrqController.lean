import CameraKernel.Errno
import CameraKernel.Transition

/-! The interrupt controller: handlers subscribe for bits of the status registers,
and the mask registers are kept by setting and clearing the bits of one handler at a time. -/
namespace CameraKernel.IrqController
variable {n : ℕ}

/-- `CAM_IRQ_PRIORITY_MAX`. -/
def priorityMax : ℕ := 5

/-- `enabled` is not a field of the source. It records whether the last call that named
this handler left it enabled, which is what the mask registers have to agree with. -/
structure EvtHandler (n : ℕ) where
  index : ℕ
  priority : Fin priorityMax
  evtBitMaskArr : Fin n → BitVec 32
  enabled : Bool

/-- The mask register of the hardware, and the bits enabled at each priority. -/
structure IrqRegister where
  irqMask : BitVec 32
  topHalfEnableMask : Fin priorityMax → BitVec 32

structure Controller (n : ℕ) where
  irqRegisterArr : Fin n → IrqRegister
  evtHandlerList : List (EvtHandler n)
  hdlIdx : ℕ

/-- `cam_irq_controller_init`, on registers as they come out of reset. -/
def init (n : ℕ) : Controller n := ⟨fun _ => ⟨0, fun _ => 0⟩, [], 1⟩

/-- `struct cam_irq_bh_api`: which of the three functions are set. -/
structure BhApi where
  bottomHalfEnqueueFunc : Bool
  getBhPayloadFunc : Bool
  putBhPayloadFunc : Bool
  deriving DecidableEq, Repr

/-- The arguments of a subscription; a pointer is given by whether it is set. -/
structure SubscribeArgs (n : ℕ) where
  priority : ℕ
  evtBitMaskArr : Fin n → BitVec 32
  handlerPriv : Bool
  topHalfHandler : Bool
  bottomHalfHandler : Bool
  bottomHalf : Bool
  irqBhApi : Option BhApi

def SubscribeArgs.valid (args : SubscribeArgs n) : Bool :=
  args.handlerPriv && args.topHalfHandler &&
    (!args.bottomHalfHandler || (args.bottomHalf && args.irqBhApi.isSome)) &&
    args.irqBhApi.all fun api =>
      api.bottomHalfEnqueueFunc && api.getBhPayloadFunc && api.putBhPayloadFunc

/-- The loop over the registers that sets the bits of a handler. -/
def setBits (arr : Fin n → IrqRegister) (priority : Fin priorityMax) (bits : Fin n → BitVec 32) :
    Fin n → IrqRegister := fun i =>
  { irqMask := (arr i).irqMask ||| bits i
    topHalfEnableMask := Function.update (arr i).topHalfEnableMask priority
      ((arr i).topHalfEnableMask priority ||| bits i) }

/-- The loop over the registers that clears the bits of a handler. -/
def clearBits (arr : Fin n → IrqRegister) (priority : Fin priorityMax) (bits : Fin n → BitVec 32) :
    Fin n → IrqRegister := fun i =>
  { irqMask := (arr i).irqMask &&& ~~~ bits i
    topHalfEnableMask := Function.update (arr i).topHalfEnableMask priority
      ((arr i).topHalfEnableMask priority &&& ~~~ bits i) }

/-- The handle after this one; it never rolls over to a negative value. -/
def nextIdx (hdlIdx : ℕ) : ℕ := if hdlIdx + 1 > 0x3FFFFFFF then 1 else hdlIdx + 1

/-- `allocated` says whether the two allocations succeed. -/
def subscribeIrq (c : Controller n) (args : SubscribeArgs n) (allocated : Bool) :
    ℤ × Controller n :=
  if args.valid = false then (-Errno.EINVAL, c)
  else if h : args.priority < priorityMax then
    if allocated = false then (-Errno.ENOMEM, c)
    else
      (c.hdlIdx,
        { irqRegisterArr := setBits c.irqRegisterArr ⟨args.priority, h⟩ args.evtBitMaskArr
          evtHandlerList := c.evtHandlerList ++
            [⟨c.hdlIdx, ⟨args.priority, h⟩, args.evtBitMaskArr, true⟩]
          hdlIdx := nextIdx c.hdlIdx })
  else (-Errno.EINVAL, c)

/-- The list walk of the other three calls: the first handler with this handle. -/
def findHandler (c : Controller n) (handle : ℕ) : Option (EvtHandler n) :=
  c.evtHandlerList.find? (·.index = handle)

def mark (handle : ℕ) (enabled : Bool) : List (EvtHandler n) → List (EvtHandler n)
  | [] => []
  | g :: rest =>
    if g.index = handle then { g with enabled := enabled } :: rest
    else g :: mark handle enabled rest

def enableIrq (c : Controller n) (handle : ℕ) : ℤ × Controller n :=
  match findHandler c handle with
  | none => (-Errno.EINVAL, c)
  | some evtHandler =>
    (0, { c with
          irqRegisterArr := setBits c.irqRegisterArr evtHandler.priority evtHandler.evtBitMaskArr
          evtHandlerList := mark handle true c.evtHandlerList })

def disableIrq (c : Controller n) (handle : ℕ) : ℤ × Controller n :=
  match findHandler c handle with
  | none => (-Errno.EINVAL, c)
  | some evtHandler =>
    (0, { c with
          irqRegisterArr := clearBits c.irqRegisterArr evtHandler.priority evtHandler.evtBitMaskArr
          evtHandlerList := mark handle false c.evtHandlerList })

def unsubscribeIrq (c : Controller n) (handle : ℕ) : ℤ × Controller n :=
  match findHandler c handle with
  | none => (-Errno.EINVAL, c)
  | some evtHandler =>
    (0, { c with
          irqRegisterArr := clearBits c.irqRegisterArr evtHandler.priority evtHandler.evtBitMaskArr
          evtHandlerList := c.evtHandlerList.eraseP (·.index = handle) })

inductive Op (n : ℕ)
  | subscribe (args : SubscribeArgs n) (allocated : Bool)
  | enable (handle : ℕ)
  | disable (handle : ℕ)
  | unsubscribe (handle : ℕ)

def step (c : Controller n) : Op n → Controller n
  | .subscribe args allocated => (subscribeIrq c args allocated).2
  | .enable handle => (enableIrq c handle).2
  | .disable handle => (disableIrq c handle).2
  | .unsubscribe handle => (unsubscribeIrq c handle).2

/-- The bits of register `i` that the handlers chosen by `live` ask for. -/
def unionOf (live : EvtHandler n → Bool) (hs : List (EvtHandler n)) (i : Fin n) : BitVec 32 :=
  ((hs.filter live).map (·.evtBitMaskArr i)).foldr (· ||| ·) 0

def liveAt (p : Fin priorityMax) (h : EvtHandler n) : Bool := h.enabled && h.priority = p

def MasksExact (c : Controller n) : Prop :=
  ∀ i, (c.irqRegisterArr i).irqMask = unionOf (·.enabled) c.evtHandlerList i ∧
    ∀ p, (c.irqRegisterArr i).topHalfEnableMask p = unionOf (liveAt p) c.evtHandlerList i

/-- No other enabled handler asks for a bit of the one that `handle` names. -/
def apart (c : Controller n) (handle : ℕ) : Bool :=
  match findHandler c handle with
  | none => true
  | some evtHandler =>
    (c.evtHandlerList.eraseP (·.index = handle)).all fun g =>
      !g.enabled || decide (∀ i, g.evtBitMaskArr i &&& evtHandler.evtBitMaskArr i = 0)

/-- What a call may not do: clear a bit that another enabled handler asks for. -/
def clearSafe (c : Controller n) : Op n → Bool
  | .disable handle => apart c handle
  | .unsubscribe handle => apart c handle
  | _ => true

/-! The mask register and the masks of the priorities obey one law: `none` stands for the
register, `some p` for the mask of priority `p`. -/

def maskFor (r : IrqRegister) : Option (Fin priorityMax) → BitVec 32
  | none => r.irqMask
  | some p => r.topHalfEnableMask p

def liveFor : Option (Fin priorityMax) → EvtHandler n → Bool
  | none => (·.enabled)
  | some p => liveAt p

def Exact (arr : Fin n → IrqRegister) (hs : List (EvtHandler n)) : Prop :=
  ∀ i q, maskFor (arr i) q = unionOf (liveFor q) hs i

lemma masksExact_iff (c : Controller n) :
    MasksExact c ↔ Exact c.irqRegisterArr c.evtHandlerList := by
  constructor
  · intro h i q
    cases q with
    | none => exact (h i).1
    | some p => exact (h i).2 p
  · intro h i
    exact ⟨h i none, fun p => h i (some p)⟩

/-- Whether the bits of a handler of priority `p` belong to the mask. -/
def covers (p : Fin priorityMax) : Option (Fin priorityMax) → Bool
  | none => true
  | some q => p = q

lemma liveFor_eq (q : Option (Fin priorityMax)) (h : EvtHandler n) :
    liveFor q h = (h.enabled && covers h.priority q) := by
  cases q <;> simp [liveFor, liveAt, covers]

lemma maskFor_setBits (arr : Fin n → IrqRegister) (p : Fin priorityMax) (bits : Fin n → BitVec 32)
    (i : Fin n) (q : Option (Fin priorityMax)) :
    maskFor (setBits arr p bits i) q =
      if covers p q then maskFor (arr i) q ||| bits i else maskFor (arr i) q := by
  cases q with
  | none => simp [maskFor, setBits, covers]
  | some q =>
    by_cases h : p = q
    · subst h
      simp [maskFor, setBits, covers]
    · simp [maskFor, setBits, covers, h, Function.update_of_ne (Ne.symm h)]

lemma maskFor_clearBits (arr : Fin n → IrqRegister) (p : Fin priorityMax)
    (bits : Fin n → BitVec 32) (i : Fin n) (q : Option (Fin priorityMax)) :
    maskFor (clearBits arr p bits i) q =
      if covers p q then maskFor (arr i) q &&& ~~~ bits i else maskFor (arr i) q := by
  cases q with
  | none => simp [maskFor, clearBits, covers]
  | some q =>
    by_cases h : p = q
    · subst h
      simp [maskFor, clearBits, covers]
    · simp [maskFor, clearBits, covers, h, Function.update_of_ne (Ne.symm h)]

@[simp] lemma unionOf_nil (live : EvtHandler n → Bool) (i : Fin n) : unionOf live [] i = 0 := rfl

lemma unionOf_cons (live : EvtHandler n → Bool) (h : EvtHandler n) (hs : List (EvtHandler n))
    (i : Fin n) :
    unionOf live (h :: hs) i =
      (if live h then h.evtBitMaskArr i else 0) ||| unionOf live hs i := by
  cases hl : live h <;> simp [unionOf, hl]

lemma unionOf_append (live : EvtHandler n → Bool) (hs gs : List (EvtHandler n)) (i : Fin n) :
    unionOf live (hs ++ gs) i = unionOf live hs i ||| unionOf live gs i := by
  induction hs with
  | nil => simp
  | cons h hs ih => simp only [List.cons_append, unionOf_cons, ih, BitVec.or_assoc]

lemma unionOf_middle (live : EvtHandler n → Bool) (l₁ l₂ : List (EvtHandler n)) (h : EvtHandler n)
    (i : Fin n) :
    unionOf live (l₁ ++ h :: l₂) i =
      (if live h then h.evtBitMaskArr i else 0) ||| unionOf live (l₁ ++ l₂) i := by
  rw [unionOf_append, unionOf_cons, unionOf_append, ← BitVec.or_assoc, ← BitVec.or_assoc,
    BitVec.or_comm (unionOf live l₁ i)]

lemma mark_middle {handle : ℕ} {l₁ l₂ : List (EvtHandler n)} {h : EvtHandler n} (b : Bool)
    (hh : h.index = handle) (hl : ∀ g ∈ l₁, g.index ≠ handle) :
    mark handle b (l₁ ++ h :: l₂) = l₁ ++ { h with enabled := b } :: l₂ := by
  induction l₁ with
  | nil => simp [mark, hh]
  | cons g l₁ ih =>
    have hg : g.index ≠ handle := hl g List.mem_cons_self
    have hrest := ih fun x hx => hl x (List.mem_cons_of_mem _ hx)
    simp [mark, hg, hrest]

lemma findHandler_split {c : Controller n} {handle : ℕ} {h : EvtHandler n}
    (hf : findHandler c handle = some h) :
    ∃ l₁ l₂, c.evtHandlerList = l₁ ++ h :: l₂ ∧
      (∀ b, mark handle b c.evtHandlerList = l₁ ++ { h with enabled := b } :: l₂) ∧
      c.evtHandlerList.eraseP (·.index = handle) = l₁ ++ l₂ := by
  obtain ⟨hh, l₁, l₂, hsplit, hl⟩ := List.find?_eq_some_iff_append.mp hf
  simp only [decide_eq_true_eq] at hh
  have hne : ∀ g ∈ l₁, g.index ≠ handle := fun g hg => by simpa using hl g hg
  refine ⟨l₁, l₂, hsplit, fun b => ?_, ?_⟩
  · rw [hsplit]
    exact mark_middle b hh hne
  · rw [hsplit, List.eraseP_append_right _ fun g hg => by simpa using hne g hg]
    simp [hh]

lemma unionOf_disjoint {live : EvtHandler n → Bool} {hs : List (EvtHandler n)} {i : Fin n}
    {bits : BitVec 32} (h : ∀ g ∈ hs, live g → g.evtBitMaskArr i &&& bits = 0) :
    unionOf live hs i &&& bits = 0 := by
  induction hs with
  | nil => simp
  | cons g hs ih =>
    have hrest := ih fun x hx => h x (List.mem_cons_of_mem _ hx)
    have hg := h g List.mem_cons_self
    rw [unionOf_cons]
    cases hl : live g with
    | false => simpa using hrest
    | true =>
      simp only [if_true]
      have hdist : ∀ a b c : BitVec 32, (a ||| b) &&& c = (a &&& c) ||| (b &&& c) := by
        intro a b c
        ext k hk
        simp [Bool.and_or_distrib_right]
      rw [hdist, hg hl, hrest]
      rfl

lemma or_union (b : Bool) (bits rest : BitVec 32) :
    ((if b then bits else 0) ||| rest) ||| bits = bits ||| rest := by
  cases b
  · simp [BitVec.or_comm]
  · ext k hk
    simp only [if_true, BitVec.getElem_or]
    cases bits[k] <;> cases rest[k] <;> rfl

lemma andNot_union (b : Bool) {bits rest : BitVec 32} (h : rest &&& bits = 0) :
    ((if b then bits else 0) ||| rest) &&& ~~~ bits = rest := by
  ext k hk
  have hk' : (rest &&& bits)[k] = false := by simp [h]
  rw [BitVec.getElem_and] at hk'
  cases b <;> simp only [if_true, BitVec.getElem_and, BitVec.getElem_or, BitVec.getElem_not] <;>
    cases hb : bits[k] <;> cases hr : rest[k] <;> simp_all

lemma Exact.subscribe {arr : Fin n → IrqRegister} {hs : List (EvtHandler n)} (h : Exact arr hs)
    (g : EvtHandler n) (hg : g.enabled = true) :
    Exact (setBits arr g.priority g.evtBitMaskArr) (hs ++ [g]) := by
  intro i q
  have hlive : liveFor q g = covers g.priority q := by rw [liveFor_eq, hg, Bool.true_and]
  rw [maskFor_setBits, h i q, unionOf_append, unionOf_cons, hlive]
  cases covers g.priority q <;> simp

lemma Exact.enable {arr : Fin n → IrqRegister} {l₁ l₂ : List (EvtHandler n)} {g : EvtHandler n}
    (h : Exact arr (l₁ ++ g :: l₂)) :
    Exact (setBits arr g.priority g.evtBitMaskArr) (l₁ ++ { g with enabled := true } :: l₂) := by
  intro i q
  rw [maskFor_setBits, h i q, unionOf_middle, unionOf_middle, liveFor_eq, liveFor_eq]
  cases hq : covers g.priority q with
  | true => simpa using or_union g.enabled (g.evtBitMaskArr i) (unionOf (liveFor q) (l₁ ++ l₂) i)
  | false => simp

lemma Exact.clear {arr : Fin n → IrqRegister} {l₁ l₂ : List (EvtHandler n)} {g : EvtHandler n}
    (h : Exact arr (l₁ ++ g :: l₂))
    (hapart : ∀ x ∈ l₁ ++ l₂, x.enabled → ∀ i, x.evtBitMaskArr i &&& g.evtBitMaskArr i = 0) :
    Exact (clearBits arr g.priority g.evtBitMaskArr) (l₁ ++ l₂) := by
  intro i q
  have hrest : unionOf (liveFor q) (l₁ ++ l₂) i &&& g.evtBitMaskArr i = 0 := by
    refine unionOf_disjoint fun x hx hlive => hapart x hx ?_ i
    rw [liveFor_eq, Bool.and_eq_true] at hlive
    exact hlive.1
  rw [maskFor_clearBits, h i q, unionOf_middle, liveFor_eq]
  cases hq : covers g.priority q with
  | true => simpa using andNot_union g.enabled hrest
  | false => simp

lemma Exact.disabled {arr : Fin n → IrqRegister} {l₁ l₂ : List (EvtHandler n)}
    (h : Exact arr (l₁ ++ l₂)) (g : EvtHandler n) :
    Exact arr (l₁ ++ { g with enabled := false } :: l₂) := by
  intro i q
  rw [h i q, unionOf_middle, liveFor_eq]
  simp

lemma apart_iff {c : Controller n} {handle : ℕ} {g : EvtHandler n} {l : List (EvtHandler n)}
    (hf : findHandler c handle = some g) (hl : c.evtHandlerList.eraseP (·.index = handle) = l)
    (h : apart c handle = true) :
    ∀ x ∈ l, x.enabled → ∀ i, x.evtBitMaskArr i &&& g.evtBitMaskArr i = 0 := by
  intro x hx hen
  unfold apart at h
  simp only [hf, hl, List.all_eq_true, Bool.or_eq_true, decide_eq_true_eq] at h
  exact (h x hx).resolve_left (by simp [hen])

lemma subscribeIrq_masksExact {c : Controller n} (h : MasksExact c) (args : SubscribeArgs n)
    (allocated : Bool) : MasksExact (subscribeIrq c args allocated).2 := by
  unfold subscribeIrq
  split_ifs with hvalid hp halloc
  · exact h
  · exact h
  · rw [masksExact_iff] at h ⊢
    exact h.subscribe ⟨c.hdlIdx, ⟨args.priority, hp⟩, args.evtBitMaskArr, true⟩ rfl
  · exact h

lemma enableIrq_masksExact {c : Controller n} (h : MasksExact c) (handle : ℕ) :
    MasksExact (enableIrq c handle).2 := by
  unfold enableIrq
  cases hf : findHandler c handle with
  | none => exact h
  | some g =>
    obtain ⟨l₁, l₂, hsplit, hmark, -⟩ := findHandler_split hf
    rw [masksExact_iff, hsplit] at h
    rw [masksExact_iff]
    simp only [hmark]
    exact h.enable

lemma disableIrq_masksExact {c : Controller n} (h : MasksExact c) {handle : ℕ}
    (hapart : apart c handle = true) : MasksExact (disableIrq c handle).2 := by
  unfold disableIrq
  cases hf : findHandler c handle with
  | none => exact h
  | some g =>
    obtain ⟨l₁, l₂, hsplit, hmark, herase⟩ := findHandler_split hf
    rw [masksExact_iff, hsplit] at h
    rw [masksExact_iff]
    simp only [hmark]
    exact (h.clear (apart_iff hf herase hapart)).disabled g

lemma unsubscribeIrq_masksExact {c : Controller n} (h : MasksExact c) {handle : ℕ}
    (hapart : apart c handle = true) : MasksExact (unsubscribeIrq c handle).2 := by
  unfold unsubscribeIrq
  cases hf : findHandler c handle with
  | none => exact h
  | some g =>
    obtain ⟨l₁, l₂, hsplit, -, herase⟩ := findHandler_split hf
    rw [masksExact_iff, hsplit] at h
    rw [masksExact_iff]
    simp only [herase]
    exact h.clear (apart_iff hf herase hapart)

lemma step_masksExact {c : Controller n} (h : MasksExact c) (op : Op n)
    (hop : clearSafe c op = true) : MasksExact (step c op) := by
  cases op with
  | subscribe args allocated => exact subscribeIrq_masksExact h args allocated
  | enable handle => exact enableIrq_masksExact h handle
  | disable handle => exact disableIrq_masksExact h hop
  | unsubscribe handle => exact unsubscribeIrq_masksExact h hop

/-- The mask registers are the union of the enabled subscriptions along every run in which
no call clears a bit that another enabled handler asks for. -/
theorem run_masksExact (ops : List (Op n))
    (hsafe : Transition.Guarded step (fun c op => clearSafe c op = true) (init n) ops) :
    MasksExact (Transition.run step (init n) ops) := by
  have hinit : MasksExact (init n) := fun i => ⟨rfl, fun p => rfl⟩
  exact Transition.run_invariant (fun c op (h : MasksExact c) hop => step_masksExact h op hop) hinit hsafe

/-- A subscription at the lowest priority with no bottom half. -/
def topHalfOnly (bits : BitVec 32) : SubscribeArgs 1 := ⟨4, fun _ => bits, true, true, false, false, none⟩

theorem disjointPair_masksExact :
    MasksExact (Transition.run step (init 1)
      [.subscribe (topHalfOnly 3) true, .subscribe (topHalfOnly 12) true, .disable 1, .enable 1,
        .unsubscribe 2]) :=
  run_masksExact _ (by decide +kernel)

/-- Disabling the first handler clears the bit it shares with the second. -/
theorem sharedBit_silenced :
    ¬ MasksExact (Transition.run step (init 1)
      [.subscribe (topHalfOnly 3) true, .subscribe (topHalfOnly 1) true, .disable 1]) := by
  intro h
  exact absurd (h 0).1 (by decide +kernel)

end CameraKernel.IrqController
