import CameraKernel.BufDone

/-! What the handling of a buffer-done payload comes to. A success reads the payload after it
was returned, or goes unreported while an overflow is pending; an error never returns it. But
for that, a success is handled once and leaves the counts of the groups at zero. -/
namespace CameraKernel.BufDone
open MachineInt

variable {refill : Option Payload} {ctx : IfeHwMgrCtx} {h : Handling} {sub : Subscriber}

def clearDone (sub : Subscriber) (p : Payload) : Payload :=
  match sub with
  | .compGrp g =>
    if g.val < 6 then { p with status0 := clearBit p.status0 (g.val + 5) }
    else { p with status2 := clearBit p.status2 (g.val - 6) }
  | .wm index => { p with status1 := clearBit p.status1 index }

lemma clearBit_getLsbD (x : BitVec 32) (j k : ℕ) :
    (clearBit x j).getLsbD k = (x.getLsbD k && !decide (k = j)) := by
  rw [clearBit, BitVec.getLsbD_and, BitVec.getLsbD_not, BitVec.getLsbD_shiftLeft,
    BitVec.getLsbD_one]
  by_cases hk : k < 32
  · by_cases hj : k = j
    · subst hj
      simp [hk]
    · simp [hk, hj]
      omega
  · simp [BitVec.getLsbD_of_ge x k (by omega)]

lemma clearDone_coreIndex (p : Payload) : (clearDone sub p).coreIndex = p.coreIndex := by
  cases sub with
  | compGrp g => by_cases hg : g.val < 6 <;> simp [clearDone, hg]
  | wm index => rfl

lemma doneBit_clearDone (p : Payload) : doneBit sub (clearDone sub p) = false := by
  cases sub with
  | compGrp g => by_cases hg : g.val < 6 <;> simp [doneBit, clearDone, hg, clearBit_getLsbD]
  | wm index => simp [doneBit, clearDone, clearBit_getLsbD]

lemma OwnBits.clearDone {p : Payload} (hp : OwnBits sub p) : OwnBits sub (clearDone sub p) := by
  cases sub with
  | compGrp g =>
    unfold OwnBits at hp ⊢
    unfold BufDone.clearDone
    by_cases hg : g.val < 6
    · simp only [hg, if_true] at hp ⊢
      exact ⟨hp.1, hp.2.1, fun k hk => hp.2.2 k (by
        rw [clearBit_getLsbD] at hk
        exact (Bool.and_eq_true_iff.mp hk).1)⟩
    · simp only [hg, if_false] at hp ⊢
      exact ⟨hp.1, hp.2.1, fun k hk => hp.2.2 k (by
        rw [clearBit_getLsbD] at hk
        exact (Bool.and_eq_true_iff.mp hk).1)⟩
  | wm index =>
    refine ⟨hp.1, hp.2.1, fun k hk => hp.2.2 k ?_⟩
    simp only [BufDone.clearDone, clearBit_getLsbD] at hk
    exact (Bool.and_eq_true_iff.mp hk).1

lemma OwnBits.eq_of_doneBit {p : Payload} (hp : OwnBits sub p) {sub' : Subscriber}
    (hdone : doneBit sub' p = true) : sub' = sub := by
  cases sub' with
  | compGrp g' =>
    unfold doneBit at hdone
    by_cases hg' : g'.val < 6
    · simp only [hg', if_true] at hdone
      cases sub with
      | compGrp g =>
        unfold OwnBits at hp
        by_cases hg : g.val < 6
        · simp only [hg, if_true] at hp
          have := hp.2.2 _ hdone
          congr 1
          omega
        · simp only [hg, if_false] at hp
          simp [hp.1] at hdone
      | wm index => simp [hp.1] at hdone
    · simp only [hg', if_false] at hdone
      cases sub with
      | compGrp g =>
        unfold OwnBits at hp
        by_cases hg : g.val < 6
        · simp only [hg, if_true] at hp
          simp [hp.2.1] at hdone
        · simp only [hg, if_false] at hp
          have := hp.2.2 _ hdone
          congr 1
          omega
      | wm index => simp [hp.2.1] at hdone
  | wm index' =>
    unfold doneBit at hdone
    cases sub with
    | compGrp g =>
      unfold OwnBits at hp
      by_cases hg : g.val < 6
      · simp only [hg, if_true] at hp
        simp [hp.1] at hdone
      · simp only [hg, if_false] at hp
        simp [hp.2.1] at hdone
    | wm index => rw [hp.2.2 _ hdone]

/-- The payload after a success: the done bit goes with the last output of a group. -/
def served (core : ℕ) (sub : Subscriber) (h : Handling) : Handling :=
  match sub with
  | .compGrp g =>
    if u32Inc (h.compGrp core g).irqTriggerCnt = (h.compGrp core g).acquireDevCnt then
      { h.setTrigger core g 0 with payload := clearDone sub h.payload }
    else h.setTrigger core g (u32Inc (h.compGrp core g).irqTriggerCnt)
  | .wm _ => { h with payload := clearDone sub h.payload }

def Handling.maskOf (h : Handling) (core : ℕ) (sub : Subscriber) : BitVec 32 :=
  BufDone.maskOf ⟨h.compGrp, h.overflowPending⟩ core sub

lemma compDone_cases (core : ℕ) (g : Fin 12) (h : Handling) (status err owrt : BitVec 32)
    (errBit owrtBit doneBit : ℕ) (cleared : Payload) :
    compDone refill core g h status errBit owrtBit doneBit err owrt cleared =
      if (status.getLsbD errBit && err &&& (h.compGrp core g).compositeMask != 0) = true then (.errComp, h)
      else if (status.getLsbD owrtBit && owrt &&& (h.compGrp core g).compositeMask != 0) = true then
        (.compOwrt, h)
      else if status.getLsbD doneBit = true then
        (.success, camVfeBusPutEvtPayload refill
          (if u32Inc (h.compGrp core g).irqTriggerCnt = (h.compGrp core g).acquireDevCnt then
            { h.setTrigger core g 0 with payload := cleared }
          else h.setTrigger core g (u32Inc (h.compGrp core g).irqTriggerCnt)))
      else (.err, h) := by
  simp [compDone]

lemma bottomHalf_error (refill : Option Payload) {hw : HwRes}
    (herr : errorBit (h.maskOf hw.hwIdx hw.done) hw.done h.payload = true) :
    ∃ st, (st = .errComp ∨ st = .compOwrt) ∧
      camVfeBusHandleVfeOutDoneBottomHalf refill hw h = (st, h.log .read) := by
  obtain ⟨core, sub⟩ := hw
  cases sub with
  | compGrp g =>
    by_cases hg : g.val < 6
    all_goals
      simp only [errorBit, hg, if_true, if_false, Handling.maskOf, maskOf, Bool.or_eq_true] at herr
      simp only [camVfeBusHandleVfeOutDoneBottomHalf, camVfeBusHandleCompDoneBottomHalf, hg, if_true,
        if_false, compDone_cases, Handling.log]
      split
      · exact ⟨.errComp, .inl rfl, rfl⟩
      · rename_i hfirst
        rw [if_pos (herr.resolve_left hfirst)]
        exact ⟨.compOwrt, .inr rfl, rfl⟩
  | wm index => cases herr

lemma bottomHalf_ok (refill : Option Payload) {hw : HwRes}
    (herr : errorBit (h.maskOf hw.hwIdx hw.done) hw.done h.payload = false) :
    camVfeBusHandleVfeOutDoneBottomHalf refill hw h =
      if doneBit hw.done h.payload = true then
        (.success, camVfeBusPutEvtPayload refill (served hw.hwIdx hw.done (h.log .read)))
      else (.err, h.log .read) := by
  obtain ⟨core, sub⟩ := hw
  cases sub with
  | compGrp g =>
    by_cases hg : g.val < 6
    all_goals
      simp only [errorBit, hg, if_true, if_false, Handling.maskOf, maskOf, Bool.or_eq_false_iff] at herr
      simp only [camVfeBusHandleVfeOutDoneBottomHalf, camVfeBusHandleCompDoneBottomHalf, hg, if_true,
        if_false, compDone_cases, Handling.log, herr.1, herr.2, Bool.false_eq_true, doneBit, served,
        clearDone]
  | wm index =>
    simp only [camVfeBusHandleVfeOutDoneBottomHalf, camVfeBusHandleWmDoneBottomHalf, doneBit, served,
      clearDone]
    rfl

lemma putEvtPayload_cases (refill : Option Payload) (h : Handling) :
    (camVfeBusPutEvtPayload refill h).compGrp = h.compGrp ∧
    (camVfeBusPutEvtPayload refill h).overflowPending = h.overflowPending ∧
    (((h.payload.status0 = 0 ∧ h.payload.status1 = 0 ∧ h.payload.status2 = 0) ∧
      (camVfeBusPutEvtPayload refill h).trace = h.trace ++ [Access.read, .returned] ∧
      (camVfeBusPutEvtPayload refill h).payload = refill.getD h.payload) ∨
    (¬ (h.payload.status0 = 0 ∧ h.payload.status1 = 0 ∧ h.payload.status2 = 0) ∧
      (camVfeBusPutEvtPayload refill h).trace = h.trace ++ [Access.read] ∧
      (camVfeBusPutEvtPayload refill h).payload = h.payload)) := by
  unfold camVfeBusPutEvtPayload
  by_cases hz : h.payload.status0 = 0 ∧ h.payload.status1 = 0 ∧ h.payload.status2 = 0
  · simp [Handling.log, hz]
  · have hyes : h.payload.status0 ≠ 0 ∨ h.payload.status1 ≠ 0 ∨ h.payload.status2 ≠ 0 := by
      tauto
    simp only [Handling.log, hyes, if_true]
    exact ⟨trivial, trivial, .inr ⟨hz, trivial, trivial⟩⟩

lemma served_trace (core : ℕ) (sub : Subscriber) (h : Handling) :
    (served core sub h).trace = h.trace ∧ (served core sub h).overflowPending = h.overflowPending := by
  cases sub with
  | compGrp g =>
    unfold served
    simp only
    split <;> exact ⟨rfl, rfl⟩
  | wm index => exact ⟨rfl, rfl⟩

lemma served_payload (core : ℕ) (sub : Subscriber) (h : Handling) :
    (served core sub h).payload = h.payload ∨ (served core sub h).payload = clearDone sub h.payload := by
  cases sub with
  | compGrp g =>
    unfold served
    simp only
    split
    · exact .inr rfl
    · exact .inl rfl
  | wm index => exact .inr rfl

/-- The payload was read, and nothing else happened. -/
def Reads (h h' : Handling) : Prop :=
  ∃ n, h' = { h with trace := h.trace ++ List.replicate n Access.read }

lemma Reads.refl (h : Handling) : Reads h h := ⟨0, by simp⟩

lemma Reads.log (h : Handling) : Reads h (h.log .read) := ⟨1, rfl⟩

lemma Reads.trans {h h' h'' : Handling} (h₁ : Reads h h') (h₂ : Reads h' h'') : Reads h h'' := by
  obtain ⟨n, rfl⟩ := h₁
  obtain ⟨m, rfl⟩ := h₂
  exact ⟨n + m, by simp [List.append_assoc, List.replicate_append_replicate]⟩

lemma isOut_iff {core : ℕ} {r : IfeOutRes} :
    isOut core sub r = true ↔ r.uninit = false ∧ r.hwRes = some ⟨core, sub⟩ := by
  simp [isOut]

theorem handleOuts_cons (refill : Option Payload) (ctx : IfeHwMgrCtx) (r : IfeOutRes)
    (rs : List IfeOutRes) (h : Handling) :
    (∃ h', handleOuts refill ctx (r :: rs) h = handleOuts refill ctx rs h' ∧ Reads h h' ∧
      ∀ sub, isOut h.payload.coreIndex sub r = true → doneBit sub h.payload = false ∧
        errorBit (h.maskOf h.payload.coreIndex sub) sub h.payload = false) ∨
    (∃ h' sub, handleOuts refill ctx (r :: rs) h = camIfeHwMgrFindAffectedCtx ctx h' ∧ Reads h h' ∧
      isOut h.payload.coreIndex sub r = true ∧
      errorBit (h.maskOf h.payload.coreIndex sub) sub h.payload = true) ∨
    ∃ h' sub, Reads h h' ∧ handleOuts refill ctx (r :: rs) h = handleOuts refill ctx rs
        (reportDone ctx r.resId (camVfeBusPutEvtPayload refill (served h.payload.coreIndex sub h'))) ∧
      isOut h.payload.coreIndex sub r = true ∧ doneBit sub h.payload = true ∧
      errorBit (h.maskOf h.payload.coreIndex sub) sub h.payload = false := by
  cases hu : r.uninit with
  | true =>
    refine .inl ⟨h, by simp [handleOuts, hu], .refl h, fun sub hout => ?_⟩
    simp [(isOut_iff.mp hout).1] at hu
  | false =>
    cases hr : r.hwRes with
    | none =>
      refine .inl ⟨h, by simp [handleOuts, hu, hr], .refl h, fun sub hout => ?_⟩
      simp [(isOut_iff.mp hout).2] at hr
    | some hw =>
      have hsub : ∀ sub, isOut h.payload.coreIndex sub r = true → hw = ⟨h.payload.coreIndex, sub⟩ := by
        intro sub hout
        simpa [hr] using (isOut_iff.mp hout).2
      by_cases hcore : h.payload.coreIndex = hw.hwIdx
      case neg =>
        refine .inl ⟨h.log .read, by simp [handleOuts, hu, hr, Handling.log, hcore], .log h,
          fun sub hout => absurd ?_ hcore⟩
        rw [hsub sub hout]
      case pos =>
        have hout : isOut h.payload.coreIndex hw.done r = true := by
          rw [isOut_iff, hcore]
          exact ⟨hu, hr⟩
        have hstep {st : IrqStatus} {h' : Handling}
            (heq : camVfeBusHandleVfeOutDoneBottomHalf refill hw (h.log .read) = (st, h')) :
            (st = .errComp ∨ st = .compOwrt →
              handleOuts refill ctx (r :: rs) h = camIfeHwMgrFindAffectedCtx ctx h') ∧
            (st = .err → handleOuts refill ctx (r :: rs) h = handleOuts refill ctx rs h') ∧
            (st = .success → handleOuts refill ctx (r :: rs) h =
              handleOuts refill ctx rs (reportDone ctx r.resId h')) := by
          rw [handleOuts]
          simp only [hu, hr, Bool.false_eq_true, if_false]
          have hon : ¬ (h.log .read).payload.coreIndex ≠ hw.hwIdx := not_not.mpr hcore
          rw [if_neg hon, heq]
          refine ⟨fun hst => ?_, fun hst => ?_, fun hst => ?_⟩
          · rcases hst with rfl | rfl <;> rfl
          · rw [hst]
          · rw [hst]
        have hreads : Reads h ((h.log .read).log .read) := (Reads.log h).trans (.log _)
        cases herr : errorBit (h.maskOf hw.hwIdx hw.done) hw.done h.payload with
        | true =>
          obtain ⟨st, hst, heq⟩ := bottomHalf_error refill (h := h.log .read) herr
          exact .inr (.inl ⟨_, hw.done, (hstep heq).1 hst, hreads, hout, by rw [hcore]; exact herr⟩)
        | false =>
          have hok := bottomHalf_ok refill (h := h.log .read) herr
          cases hdone : doneBit hw.done h.payload with
          | true =>
            rw [if_pos (by exact hdone)] at hok
            refine .inr (.inr ⟨_, hw.done, hreads, ?_, hout, hdone, by rw [hcore]; exact herr⟩)
            rw [(hstep hok).2.2 rfl, hcore]
          | false =>
            rw [if_neg (by simp [Handling.log, hdone])] at hok
            refine .inl ⟨_, (hstep hok).2.1 rfl, hreads, fun sub hsub' => ?_⟩
            have heq := hsub sub hsub'
            rw [heq] at hdone herr
            exact ⟨hdone, herr⟩

/-! ### No success is handled as asked -/

lemma Reads.reported {h h' : Handling} (hr : Reads h h') : reported h'.trace = reported h.trace := by
  obtain ⟨n, rfl⟩ := hr
  simp [BufDone.reported, List.filterMap_append]

lemma Reads.count {h h' : Handling} (hr : Reads h h') :
    h'.trace.count .returned = h.trace.count .returned := by
  obtain ⟨n, rfl⟩ := hr
  simp [List.count_replicate]

lemma findAffectedCtx_trace (ctx : IfeHwMgrCtx) (h : Handling) : ∃ new,
    (camIfeHwMgrFindAffectedCtx ctx h).trace = h.trace ++ new ∧ reported new = [] ∧
      new.count .returned = 0 := by
  unfold camIfeHwMgrFindAffectedCtx
  split
  · exact ⟨[.read, .error], by simp [Handling.log], rfl, rfl⟩
  · exact ⟨[.read], rfl, rfl, rfl⟩

lemma reportDone_trace (ctx : IfeHwMgrCtx) (resId : ℕ) (h : Handling) :
    ∃ new, (reportDone ctx resId h).trace = h.trace ++ new ∧ new.count .returned = 0 ∧
      reported new = (if h.overflowPending || !ctx.doneCb then [] else [resId]) ∧
      (h.overflowPending = false → ∃ rest, new = .read :: rest) := by
  unfold reportDone
  cases hpend : h.overflowPending with
  | true => exact ⟨[], by simp, rfl, rfl, by simp⟩
  | false =>
    cases hcb : ctx.doneCb with
    | true => exact ⟨[.read, .report resId h.payload.timeUsecs], by simp [Handling.log], rfl, rfl,
        fun _ => ⟨_, rfl⟩⟩
    | false => exact ⟨[.read], by simp [Handling.log], rfl, rfl, fun _ => ⟨_, rfl⟩⟩

lemma reportDone_rest (ctx : IfeHwMgrCtx) (resId : ℕ) (h : Handling) : (reportDone ctx resId h).payload = h.payload ∧
    (reportDone ctx resId h).compGrp = h.compGrp ∧
    (reportDone ctx resId h).overflowPending = h.overflowPending := by
  unfold reportDone
  split
  · exact ⟨rfl, rfl, rfl⟩
  · split <;> exact ⟨rfl, rfl, rfl⟩

def Payload.Quiet (p : Payload) : Prop := p.status0 = 0 ∧ p.status1 = 0 ∧ p.status2 = 0

instance (p : Payload) : Decidable p.Quiet :=
  inferInstanceAs (Decidable (p.status0 = 0 ∧ p.status1 = 0 ∧ p.status2 = 0))

/-- An output that is done: its report, and the payload put back when its last status goes. -/
structure Served (refill : Option Payload) (ctx : IfeHwMgrCtx) (core : ℕ) (sub : Subscriber) (resId : ℕ)
    (h h' : Handling) (new : List Access) : Prop where
  trace : h'.trace = h.trace ++ new
  reported : reported new = if h.overflowPending || !ctx.doneCb then [] else [resId]
  pending : h'.overflowPending = h.overflowPending
  compGrp : h'.compGrp = (served core sub h).compGrp
  quiet : (served core sub h).payload.Quiet → new.count .returned = 1 ∧
    h'.payload = refill.getD (served core sub h).payload ∧ (h.overflowPending = false →
      ∃ before after, new = before ++ Access.returned :: after ∧ .read ∈ after)
  busy : ¬ (served core sub h).payload.Quiet → new.count .returned = 0 ∧
    h'.payload = (served core sub h).payload

lemma served_reads (core : ℕ) (sub : Subscriber) {h h' : Handling} (hr : Reads h h') :
    (served core sub h').compGrp = (served core sub h).compGrp ∧
    (served core sub h').payload = (served core sub h).payload := by
  obtain ⟨n, rfl⟩ := hr
  cases sub with
  | compGrp g =>
    unfold served
    simp only
    split <;> exact ⟨rfl, rfl⟩
  | wm index => exact ⟨rfl, rfl⟩

lemma served_step (refill : Option Payload) (ctx : IfeHwMgrCtx) (core : ℕ) (sub : Subscriber)
    (resId : ℕ) {h h' : Handling} (hr : Reads h h') :
    ∃ new, Served refill ctx core sub resId h
      (reportDone ctx resId (camVfeBusPutEvtPayload refill (served core sub h'))) new := by
  obtain ⟨hgrp, hpay⟩ := served_reads core sub hr
  obtain ⟨htr, hpend⟩ := served_trace core sub h'
  obtain ⟨n, hh'⟩ := hr
  have hpend' : h'.overflowPending = h.overflowPending := by rw [hh']
  have htr' : h'.trace = h.trace ++ List.replicate n Access.read := by rw [hh']
  obtain ⟨hputGrp, hputPend, hput⟩ := putEvtPayload_cases refill (served core sub h')
  obtain ⟨rep, hrep, hrepCnt, hrepRes, hrepRead⟩ := reportDone_trace ctx resId
    (camVfeBusPutEvtPayload refill (served core sub h'))
  obtain ⟨hrestPay, hrestGrp, hrestPend⟩ := reportDone_rest ctx resId
    (camVfeBusPutEvtPayload refill (served core sub h'))
  rw [hputPend, hpend, hpend'] at hrepRes hrepRead
  rw [hpay, htr, htr'] at hput
  rcases hput with ⟨hquiet, hputTr, hputPay⟩ | ⟨hbusy, hputTr, hputPay⟩
  · refine ⟨List.replicate n Access.read ++ [Access.read, .returned] ++ rep, ?_⟩
    constructor
    case trace => rw [hrep, hputTr]; simp
    case reported => rw [← hrepRes]; simp [BufDone.reported, List.filterMap_append]
    case pending => rw [hrestPend, hputPend, hpend, hpend']
    case compGrp => rw [hrestGrp, hputGrp, hgrp]
    case quiet =>
      refine fun _ => ⟨by simp [List.count_append, List.count_replicate, hrepCnt],
        by rw [hrestPay, hputPay], fun hno => ?_⟩
      obtain ⟨rest, hrest⟩ := hrepRead hno
      exact ⟨List.replicate n Access.read ++ [Access.read], rep, by simp, by simp [hrest]⟩
    case busy => exact fun hno => absurd hquiet hno
  · refine ⟨List.replicate n Access.read ++ [Access.read] ++ rep, ?_⟩
    constructor
    case trace => rw [hrep, hputTr]; simp
    case reported => rw [← hrepRes]; simp [BufDone.reported, List.filterMap_append]
    case pending => rw [hrestPend, hputPend, hpend, hpend']
    case compGrp => rw [hrestGrp, hputGrp, hgrp]
    case quiet => exact fun hyes => absurd hyes hbusy
    case busy =>
      exact fun _ => ⟨by simp [List.count_append, List.count_replicate, hrepCnt],
        by rw [hrestPay, hputPay]⟩

theorem handleOuts_cases (refill : Option Payload) (ctx : IfeHwMgrCtx) (r : IfeOutRes)
    (rs : List IfeOutRes) (h : Handling) :
    (∃ h', handleOuts refill ctx (r :: rs) h = handleOuts refill ctx rs h' ∧ Reads h h' ∧
      ∀ sub, isOut h.payload.coreIndex sub r = true → doneBit sub h.payload = false ∧
        errorBit (h.maskOf h.payload.coreIndex sub) sub h.payload = false) ∨
    (∃ h' sub, handleOuts refill ctx (r :: rs) h = camIfeHwMgrFindAffectedCtx ctx h' ∧ Reads h h' ∧
      isOut h.payload.coreIndex sub r = true ∧
      errorBit (h.maskOf h.payload.coreIndex sub) sub h.payload = true) ∨
    ∃ h' sub new, handleOuts refill ctx (r :: rs) h = handleOuts refill ctx rs h' ∧
      Served refill ctx h.payload.coreIndex sub r.resId h h' new ∧
      isOut h.payload.coreIndex sub r = true ∧ doneBit sub h.payload = true ∧
      errorBit (h.maskOf h.payload.coreIndex sub) sub h.payload = false := by
  rcases handleOuts_cons refill ctx r rs h with hskip | herr | ⟨h', sub, hr, heq, hout, hdone, hok⟩
  · exact .inl hskip
  · exact .inr (.inl herr)
  · obtain ⟨new, hserved⟩ := served_step refill ctx h.payload.coreIndex sub r.resId hr
    exact .inr (.inr ⟨_, sub, new, heq, hserved, hout, hdone, hok⟩)

lemma handleOuts_append (refill : Option Payload) (ctx : IfeHwMgrCtx) (rs : List IfeOutRes)
    (h : Handling) :
    ∃ new, (handleOuts refill ctx rs h).trace = h.trace ++ new := by
  induction rs generalizing h with
  | nil => exact ⟨[], (List.append_nil _).symm⟩
  | cons r rs ih =>
    rcases handleOuts_cases refill ctx r rs h with
      ⟨h', heq, ⟨n, hr⟩, -⟩ | ⟨h', sub, heq, ⟨n, hr⟩, -⟩ | ⟨h', sub, first, heq, hs, -⟩
    · obtain ⟨new, hnew⟩ := ih h'
      exact ⟨List.replicate n Access.read ++ new, by rw [heq, hnew, hr, List.append_assoc]⟩
    · obtain ⟨new, hnew, -⟩ := findAffectedCtx_trace ctx h'
      exact ⟨List.replicate n Access.read ++ new, by rw [heq, hnew, hr, List.append_assoc]⟩
    · obtain ⟨new, hnew⟩ := ih h'
      exact ⟨first ++ new, by rw [heq, hnew, hs.trace, List.append_assoc]⟩

lemma reported_append (xs ys : List Access) : reported (xs ++ ys) = reported xs ++ reported ys :=
  List.filterMap_append

lemma handleOuts_pending (rs : List IfeOutRes) (h : Handling) (hpend : h.overflowPending = true) :
    reported (handleOuts refill ctx rs h).trace = reported h.trace := by
  induction rs generalizing h with
  | nil => rfl
  | cons r rs ih =>
    rcases handleOuts_cases refill ctx r rs h with
      ⟨h', heq, hr, -⟩ | ⟨h', sub, heq, hr, -⟩ | ⟨h', sub, first, heq, hs, -⟩
    · have hpend' : h'.overflowPending = true := by
        obtain ⟨n, rfl⟩ := hr
        exact hpend
      rw [heq, ih h' hpend', hr.reported]
    · obtain ⟨new, hnew, hnone, -⟩ := findAffectedCtx_trace ctx h'
      rw [heq, hnew, reported_append, hnone, List.append_nil, hr.reported]
    · have hrep : reported first = [] := by simp [hs.reported, hpend]
      rw [heq, ih h' (by rw [hs.pending, hpend]), hs.trace, reported_append, hrep, List.append_nil]

lemma served_ownBits (core : ℕ) (hown : OwnBits sub h.payload) :
    OwnBits sub (served core sub h).payload ∧
    (served core sub h).payload.coreIndex = h.payload.coreIndex := by
  rcases served_payload core sub h with heq | heq
  · rw [heq]
    exact ⟨hown, rfl⟩
  · rw [heq]
    exact ⟨hown.clearDone, clearDone_coreIndex _⟩

theorem handleOuts_never (refill : Option Payload) (ctx : IfeHwMgrCtx) (rs : List IfeOutRes)
    (h : Handling) (hown : OwnBits sub h.payload)
    (hnot : h.trace.count .returned = 0) :
    (handleOuts refill ctx rs h).trace.count .returned = 0 ∨
    (∃ before after, (handleOuts refill ctx rs h).trace = before ++ Access.returned :: after ∧
      .read ∈ after) ∨
    (h.overflowPending = true ∧ doneBit sub h.payload = true ∧
      ∃ r ∈ rs, isOut h.payload.coreIndex sub r = true) := by
  induction rs generalizing h with
  | nil => exact .inl hnot
  | cons r rs ih =>
    rcases handleOuts_cases refill ctx r rs h with
      ⟨h', heq, hr, -⟩ | ⟨h', sub', heq, hr, -⟩ | ⟨h', sub', first, heq, hs, hout, hdone, -⟩
    · have hpay : h'.payload = h.payload ∧ h'.overflowPending = h.overflowPending := by
        obtain ⟨n, rfl⟩ := hr
        exact ⟨rfl, rfl⟩
      rw [heq]
      have hih := ih h' (by rw [hpay.1]; exact hown) (by rw [hr.count, hnot])
      rw [hpay.1, hpay.2] at hih
      exact hih.imp id (Or.imp id fun ⟨hp, hd, r', hmem, hr'⟩ => ⟨hp, hd, r', List.mem_cons_of_mem r hmem, hr'⟩)
    · obtain ⟨new, hnew, -, hcnt⟩ := findAffectedCtx_trace ctx h'
      refine .inl ?_
      rw [heq, hnew, List.count_append, hcnt, hr.count, hnot]
    · obtain rfl := hown.eq_of_doneBit hdone
      obtain ⟨hown', hcore'⟩ := served_ownBits h.payload.coreIndex hown
      cases hpend : h.overflowPending with
      | true => exact .inr (.inr ⟨rfl, hdone, r, List.mem_cons_self, hout⟩)
      | false =>
        by_cases hq : (served h.payload.coreIndex sub' h).payload.Quiet
        · obtain ⟨-, -, hread⟩ := hs.quiet hq
          obtain ⟨before, after, hfirst, hmem⟩ := hread hpend
          obtain ⟨new, hnew⟩ := handleOuts_append refill ctx rs h'
          refine .inr (.inl ⟨h.trace ++ before, after ++ new, ?_, List.mem_append_left new hmem⟩)
          rw [heq, hnew, hs.trace, hfirst]
          simp
        · obtain ⟨hcnt, hpay⟩ := hs.busy hq
          rw [heq]
          have hih := ih h' (by rw [hpay]; exact hown')
            (by rw [hs.trace, List.count_append, hcnt, hnot])
          refine hih.imp id (Or.imp id fun hp => ?_)
          rw [hs.pending, hpend] at hp
          cases hp.1

theorem not_handledOnce (ctx : IfeHwMgrCtx) (s : State) (irq : Irq) (hown : OwnBits irq.sub irq.payload) :
    ¬ HandledOnce ctx s irq := by
  intro honce
  have hret := honce.returned
  rcases handleOuts_never irq.refill ctx ctx.resListIfeOut
    (begin s irq) hown rfl with hzero | ⟨before, after, htrace, hmem⟩ | ⟨hpend, hdone, r, hr, hout⟩
  · rw [camIfeHwMgrHandleBufDoneForHwRes, hzero] at hret
    cases hret
  · exact honce.reads before after htrace hmem
  · have hperm := honce.reports hdone
    rw [camIfeHwMgrHandleBufDoneForHwRes, handleOuts_pending _ _ hpend] at hperm
    have hnil : outs irq.payload.coreIndex irq.sub ctx.resListIfeOut = [] := hperm.nil_eq.symm
    have hmem : r.resId ∈ outs irq.payload.coreIndex irq.sub ctx.resListIfeOut :=
      List.mem_map_of_mem (List.mem_filter.mpr ⟨hr, hout⟩)
    simp [hnil] at hmem

/-! ### The counts of the groups -/

/-- No more is known of the handling than that nothing came of it. -/
structure Idle (h h' : Handling) : Prop where
  compGrp : h'.compGrp = h.compGrp
  count : h'.trace.count .returned = h.trace.count .returned
  reported : reported h'.trace = reported h.trace

lemma Reads.idle {h h' : Handling} (hr : Reads h h') : Idle h h' := by
  refine ⟨?_, hr.count, hr.reported⟩
  obtain ⟨n, rfl⟩ := hr
  rfl

lemma Idle.trans {h h' h'' : Handling} (h₁ : Idle h h') (h₂ : Idle h' h'') : Idle h h'' :=
  ⟨h₂.compGrp.trans h₁.compGrp, h₂.count.trans h₁.count, h₂.reported.trans h₁.reported⟩

lemma findAffectedCtx_idle (h : Handling) : Idle h (camIfeHwMgrFindAffectedCtx ctx h) := by
  obtain ⟨new, hnew, hrep, hcnt⟩ := findAffectedCtx_trace ctx h
  refine ⟨?_, by rw [hnew, List.count_append, hcnt, Nat.add_zero],
    by rw [hnew, reported_append, hrep, List.append_nil]⟩
  unfold camIfeHwMgrFindAffectedCtx
  split <;> rfl

lemma handleOuts_idle (rs : List IfeOutRes) (h : Handling) (hown : OwnBits sub h.payload)
    (hno : doneBit sub h.payload = true →
      errorBit (h.maskOf h.payload.coreIndex sub) sub h.payload = true) :
    Idle h (handleOuts refill ctx rs h) := by
  induction rs generalizing h with
  | nil => exact ⟨rfl, rfl, rfl⟩
  | cons r rs ih =>
    rcases handleOuts_cases refill ctx r rs h with
      ⟨h', heq, hr, -⟩ | ⟨h', sub', heq, hr, -⟩ | ⟨h', sub', first, heq, hs, hout, hdone, hok⟩
    · rw [heq]
      refine hr.idle.trans ?_
      obtain ⟨n, rfl⟩ := hr
      exact ih _ hown hno
    · rw [heq]
      exact hr.idle.trans (findAffectedCtx_idle h')
    · obtain rfl := hown.eq_of_doneBit hdone
      rw [hno hdone] at hok
      cases hok

lemma handleOuts_no_outs (rs : List IfeOutRes) (h : Handling) (hown : OwnBits sub h.payload)
    (hnone : outs h.payload.coreIndex sub rs = []) : Idle h (handleOuts refill ctx rs h) := by
  induction rs generalizing h with
  | nil => exact ⟨rfl, rfl, rfl⟩
  | cons r rs ih =>
    rcases handleOuts_cases refill ctx r rs h with
      ⟨h', heq, hr, -⟩ | ⟨h', sub', heq, hr, -⟩ | ⟨h', sub', first, heq, hs, hout, hdone, -⟩
    · rw [heq]
      refine hr.idle.trans ?_
      obtain ⟨n, rfl⟩ := hr
      refine ih _ hown ?_
      simp only [outs, List.map_eq_nil_iff, List.filter_eq_nil_iff] at hnone ⊢
      exact fun r' hr' => hnone r' (List.mem_cons_of_mem r hr')
    · rw [heq]
      exact hr.idle.trans (findAffectedCtx_idle h')
    · obtain rfl := hown.eq_of_doneBit hdone
      simp [outs, hout] at hnone

/-- The count of the subscriber's group on the core will come out with `n` more outputs. -/
def Due (core : ℕ) (sub : Subscriber) (n : ℕ) (h : Handling) : Prop :=
  match sub with
  | .compGrp g => (h.compGrp core g).irqTriggerCnt + n = (h.compGrp core g).acquireDevCnt ∧
    (h.compGrp core g).acquireDevCnt ≤ u32Max
  | .wm _ => n ≤ 1

/-- The count of the subscriber's group is back at zero, and no other has changed. -/
def Settled (core : ℕ) (sub : Subscriber) (h h' : Handling) : Prop :=
  ∀ core' g, (h'.compGrp core' g).irqTriggerCnt =
    if core' = core ∧ sub = .compGrp g then 0 else (h.compGrp core' g).irqTriggerCnt

lemma served_last {core : ℕ} (hdue : Due core sub 1 h) :
    (served core sub h).payload = clearDone sub h.payload ∧ Settled core sub h (served core sub h) := by
  cases sub with
  | compGrp g =>
    obtain ⟨hcnt, hle⟩ := hdue
    have hinc : u32Inc (h.compGrp core g).irqTriggerCnt = (h.compGrp core g).acquireDevCnt := by
      rw [u32Inc_of_lt (by omega), hcnt]
    simp only [served, hinc, if_true, true_and]
    intro core' g'
    by_cases hc : core' = core
    · subst hc
      by_cases hg : g = g'
      · subst hg
        simp [Handling.setTrigger]
      · simp [Handling.setTrigger, hg, Ne.symm hg]
    · simp [Handling.setTrigger, hc]
  | wm index => exact ⟨rfl, fun core' g => by simp [served]⟩

lemma served_next {core n : ℕ} (hdue : Due core sub (n + 2) h) :
    (served core sub h).payload = h.payload ∧ Due core sub (n + 1) (served core sub h) ∧
    ∀ core' g, ¬ (core' = core ∧ sub = .compGrp g) →
      ((served core sub h).compGrp core' g).irqTriggerCnt = (h.compGrp core' g).irqTriggerCnt := by
  cases sub with
  | compGrp g =>
    obtain ⟨hcnt, hle⟩ := hdue
    have hinc : u32Inc (h.compGrp core g).irqTriggerCnt = (h.compGrp core g).irqTriggerCnt + 1 :=
      u32Inc_of_lt (by omega)
    have hne : (h.compGrp core g).irqTriggerCnt + 1 ≠ (h.compGrp core g).acquireDevCnt := by omega
    simp only [served, hinc, hne, if_false, Due]
    refine ⟨rfl, ⟨?_, ?_⟩, fun core' g' hother => ?_⟩
    · simp only [Handling.setTrigger, Function.update_self]
      omega
    · simpa [Handling.setTrigger] using hle
    · by_cases hc : core' = core
      · subst hc
        have hg : g' ≠ g := by
          rintro rfl
          exact hother ⟨rfl, rfl⟩
        simp [Handling.setTrigger, hg]
      · simp [Handling.setTrigger, hc]
  | wm index => exact absurd hdue (by unfold Due; omega)

/-- The handling never changes the mask or the device count of a group. -/
def SameGrps (h h' : Handling) : Prop :=
  ∀ core g, (h'.compGrp core g).compositeMask = (h.compGrp core g).compositeMask ∧
    (h'.compGrp core g).acquireDevCnt = (h.compGrp core g).acquireDevCnt

lemma SameGrps.of_eq {h h' : Handling} (heq : h'.compGrp = h.compGrp) : SameGrps h h' :=
  fun core g => by rw [heq]; exact ⟨rfl, rfl⟩

lemma SameGrps.trans {h h' h'' : Handling} (h₁ : SameGrps h h') (h₂ : SameGrps h' h'') :
    SameGrps h h'' :=
  fun core g => ⟨(h₂ core g).1.trans (h₁ core g).1, (h₂ core g).2.trans (h₁ core g).2⟩

lemma SameGrps.maskOf {h h' : Handling} (hs : SameGrps h h') (core : ℕ) (sub : Subscriber) :
    h'.maskOf core sub = h.maskOf core sub := by
  cases sub with
  | compGrp g => exact (hs core g).1
  | wm index => rfl

lemma setTrigger_sameGrps (core : ℕ) (g : Fin 12) (n : ℕ) : SameGrps h (h.setTrigger core g n) := by
  intro core' g'
  by_cases hc : core' = core
  · subst hc
    by_cases hg : g' = g
    · subst hg
      simp [Handling.setTrigger]
    · simp [Handling.setTrigger, hg]
  · simp [Handling.setTrigger, hc]

lemma served_sameGrps (core : ℕ) (sub : Subscriber) (h : Handling) : SameGrps h (served core sub h) := by
  cases sub with
  | compGrp g =>
    unfold served
    simp only
    split
    · exact setTrigger_sameGrps core g 0
    · exact setTrigger_sameGrps core g _
  | wm index => exact .of_eq rfl

lemma handleOuts_sameGrps (rs : List IfeOutRes) (h : Handling) :
    SameGrps h (handleOuts refill ctx rs h) := by
  induction rs generalizing h with
  | nil => exact .of_eq rfl
  | cons r rs ih =>
    rcases handleOuts_cases refill ctx r rs h with
      ⟨h', heq, hr, -⟩ | ⟨h', sub', heq, hr, -⟩ | ⟨h', sub', first, heq, hs, -⟩
    · rw [heq]
      exact (SameGrps.of_eq hr.idle.compGrp).trans (ih h')
    · rw [heq]
      exact .of_eq (hr.idle.trans (findAffectedCtx_idle h')).compGrp
    · rw [heq]
      refine ((served_sameGrps h.payload.coreIndex sub' h).trans (.of_eq hs.compGrp)).trans (ih h')

lemma outs_cons_of_not {core : ℕ} {r : IfeOutRes} {rs : List IfeOutRes} (hr : isOut core sub r = false) :
    outs core sub (r :: rs) = outs core sub rs := by
  simp [outs, hr]

lemma outs_cons_of_out {core : ℕ} {r : IfeOutRes} {rs : List IfeOutRes} (hr : isOut core sub r = true) :
    outs core sub (r :: rs) = r.resId :: outs core sub rs := by
  simp [outs, hr]

lemma Payload.Quiet.doneBit {p : Payload} (hq : p.Quiet) : doneBit sub p = false := by
  obtain ⟨h0, h1, h2⟩ := hq
  cases sub with
  | compGrp g => by_cases hg : g.val < 6 <;> simp [BufDone.doneBit, hg, h0, h2]
  | wm index => simp [BufDone.doneBit, h1]

lemma not_quiet_of_errorBit {p : Payload} {mask : BitVec 32} (herr : errorBit mask sub p = true) :
    ¬ (clearDone sub p).Quiet := by
  rintro ⟨h0, -, h2⟩
  cases sub with
  | compGrp g =>
    have hg12 := g.isLt
    by_cases hg : g.val < 6
    · simp only [errorBit, hg, if_true, Bool.or_eq_true, Bool.and_eq_true] at herr
      simp only [clearDone, hg, if_true] at h0
      have hbit : ∀ k, k = 11 ∨ k = 12 → p.status0.getLsbD k = false := by
        intro k hk
        have hk' := clearBit_getLsbD p.status0 (g.val + 5) k
        rw [h0, decide_eq_false (by omega)] at hk'
        simpa using hk'.symm
      rcases herr with ⟨hb, -⟩ | ⟨hb, -⟩
      · rw [hbit 11 (.inl rfl)] at hb
        cases hb
      · rw [hbit 12 (.inr rfl)] at hb
        cases hb
    · simp only [errorBit, hg, if_false, Bool.or_eq_true, Bool.and_eq_true] at herr
      simp only [clearDone, hg, if_false] at h2
      have hbit : ∀ k, k = 6 ∨ k = 7 → p.status2.getLsbD k = false := by
        intro k hk
        have hk' := clearBit_getLsbD p.status2 (g.val - 6) k
        rw [h2, decide_eq_false (by omega)] at hk'
        simpa using hk'.symm
      rcases herr with ⟨hb, -⟩ | ⟨hb, -⟩
      · rw [hbit 6 (.inl rfl)] at hb
        cases hb
      · rw [hbit 7 (.inr rfl)] at hb
        cases hb
  | wm index => cases herr

theorem handleOuts_success (ctx : IfeHwMgrCtx) (rs : List IfeOutRes) (h : Handling)
    (hown : OwnBits sub h.payload)
    (hdone : doneBit sub h.payload = true)
    (hok : ∀ sub', errorBit (h.maskOf h.payload.coreIndex sub') sub' h.payload = false)
    (hdue : Due h.payload.coreIndex sub (outs h.payload.coreIndex sub rs).length h)
    (hpos : outs h.payload.coreIndex sub rs ≠ []) :
    Settled h.payload.coreIndex sub h (handleOuts none ctx rs h) ∧
    reported (handleOuts none ctx rs h).trace = reported h.trace ++
      (if h.overflowPending || !ctx.doneCb then [] else outs h.payload.coreIndex sub rs) ∧
    (handleOuts none ctx rs h).trace.count .returned = h.trace.count .returned +
      if (clearDone sub h.payload).Quiet then 1 else 0 := by
  induction rs generalizing h with
  | nil => exact absurd rfl hpos
  | cons r rs ih =>
    rcases handleOuts_cases none ctx r rs h with
      ⟨h', heq, hr, hskip⟩ | ⟨h', sub', heq, hr, hout, herr⟩ | ⟨h', sub', new, heq, hs, hout, hdone', -⟩
    · have hnot : isOut h.payload.coreIndex sub r = false := by
        by_contra hyes
        rw [(hskip sub (by simpa using hyes)).1] at hdone
        cases hdone
      rw [outs_cons_of_not hnot] at hdue hpos ⊢
      rw [heq, ← hr.reported, ← hr.count]
      obtain ⟨n, rfl⟩ := hr
      exact ih _ hown hdone hok hdue hpos
    · rw [hok sub'] at herr
      cases herr
    · obtain rfl := hown.eq_of_doneBit hdone'
      rw [outs_cons_of_out hout] at hdue ⊢
      rw [heq]
      cases hlen : outs h.payload.coreIndex sub' rs with
      | nil =>
        rw [hlen] at hdue
        obtain ⟨hpay, hset⟩ := served_last hdue
        -- The bit is gone: the other outputs find nothing.
        have hpay' : h'.payload = clearDone sub' h.payload := by
          by_cases hq : (served h.payload.coreIndex sub' h).payload.Quiet
          · rw [(hs.quiet hq).2.1]
            exact hpay
          · rw [(hs.busy hq).2, hpay]
        have hidle : Idle h' (handleOuts none ctx rs h') :=
          handleOuts_idle rs h' (show OwnBits sub' h'.payload by rw [hpay']; exact hown.clearDone)
            (by rw [hpay', doneBit_clearDone]; exact fun hf => absurd hf Bool.false_ne_true)
        refine ⟨?_, ?_, ?_⟩
        · intro core g
          rw [hidle.compGrp, hs.compGrp]
          exact hset core g
        · rw [hidle.reported, hs.trace, reported_append, hs.reported]
        · rw [hidle.count, hs.trace, List.count_append]
          by_cases hq : (clearDone sub' h.payload).Quiet
          · rw [(hs.quiet (by rw [hpay]; exact hq)).1, if_pos hq]
          · rw [(hs.busy (by rw [hpay]; exact hq)).1, if_neg hq]
      | cons resId rest =>
        rw [hlen] at hdue
        obtain ⟨hpay, hdue', hother⟩ := served_next hdue
        have hbusy : ¬ (served h.payload.coreIndex sub' h).payload.Quiet := by
          rw [hpay]
          intro hq
          rw [hq.doneBit] at hdone
          cases hdone
        obtain ⟨hcnt, hpay'⟩ := hs.busy hbusy
        rw [hpay] at hpay'
        have hsame : SameGrps h h' := (served_sameGrps h.payload.coreIndex sub' h).trans (.of_eq hs.compGrp)
        have hih := ih h' (by rw [hpay']; exact hown) (by rw [hpay']; exact hdone)
          (by
            intro sub''
            rw [hpay', hsame.maskOf]
            exact hok sub'')
          (by
            rw [hpay', hlen]
            unfold Due at hdue' ⊢
            rw [hs.compGrp]
            exact hdue')
          (by rw [hpay', hlen]; exact List.cons_ne_nil _ _)
        rw [hpay', hlen] at hih
        obtain ⟨hset, hrep, hret⟩ := hih
        refine ⟨?_, ?_, ?_⟩
        · intro core g
          rw [hset core g]
          split_ifs with hg
          · rfl
          · rw [hs.compGrp, hother core g hg]
        · rw [hrep, hs.trace, reported_append, hs.reported, hs.pending, List.append_assoc]
          congr 1
          split_ifs <;> rfl
        · rw [hret, hs.trace, List.count_append, hcnt, Nat.add_zero]

/-! ### Runs of interrupts -/

/-- The device count of a group is the number of its outputs, a write master has one output at
most, the groups of a core share no write master, and the counts start at zero. -/
structure Assigned (ctx : IfeHwMgrCtx) (s : State) : Prop where
  cnt : ∀ core g, (s.compGrp core g).acquireDevCnt = (outs core (.compGrp g) ctx.resListIfeOut).length
  wm : ∀ core index, (outs core (.wm index) ctx.resListIfeOut).length ≤ 1
  masks : ∀ core g g', g ≠ g' → (s.compGrp core g).compositeMask &&& (s.compGrp core g').compositeMask = 0
  zero : ∀ core g, (s.compGrp core g).irqTriggerCnt = 0

/-- The payload holds the done bit of its subscriber and nothing else, and its subscriber has
outputs, whose reports nothing holds back. -/
def cleanDone (ctx : IfeHwMgrCtx) (s : State) (irq : Irq) : Bool :=
  doneBit irq.sub irq.payload && decide (clearDone irq.sub irq.payload).Quiet &&
    !s.overflowPending && ctx.doneCb &&
    !(outs irq.payload.coreIndex irq.sub ctx.resListIfeOut).isEmpty

section
variable {s : State} {irq : Irq}

lemma outs_length_le (ctx : IfeHwMgrCtx) (core : ℕ) (sub : Subscriber) :
    (outs core sub ctx.resListIfeOut).length ≤ 24 := by
  rw [outs, List.length_map]
  exact (List.length_filter_le _ _).trans (le_of_eq ctx.size)

lemma and_eq_zero_of_disjoint {x m m' : BitVec 32} (hx : x &&& ~~~m = 0) (hm : m &&& m' = 0) :
    x &&& m' = 0 := by
  refine BitVec.eq_of_getLsbD_eq fun k hk => ?_
  have h₁ := congrArg (BitVec.getLsbD · k) hx
  have h₂ := congrArg (BitVec.getLsbD · k) hm
  simp only [BitVec.getLsbD_and, BitVec.getLsbD_not, hk, decide_true, Bool.true_and] at h₁ h₂ ⊢
  cases hxk : x.getLsbD k
  · simp
  · cases hmk : m.getLsbD k <;> simp [hxk, hmk] at h₁ h₂
    simp [h₂]

lemma Carries.errorBit_eq_false (hc : Carries s irq) (ha : Assigned ctx s)
    (hok : errorBit (maskOf s irq.payload.coreIndex irq.sub) irq.sub irq.payload = false)
    (sub' : Subscriber) :
    errorBit (maskOf s irq.payload.coreIndex sub') sub' irq.payload = false := by
  by_cases heq : sub' = irq.sub
  · rw [heq]
    exact hok
  obtain ⟨hbits, herrs⟩ := hc
  cases sub' with
  | wm index => rfl
  | compGrp g' =>
    cases hsub : irq.sub with
    | wm index =>
      rw [hsub] at hbits
      by_cases hg' : g'.val < 6 <;> simp [errorBit, hg', hbits.1, hbits.2.1]
    | compGrp g =>
      rw [hsub] at hbits herrs
      have hne : g ≠ g' := by
        rintro rfl
        exact heq hsub.symm
      have hmask := ha.masks irq.payload.coreIndex g g' hne
      unfold OwnBits at hbits
      unfold OwnErrors at herrs
      by_cases hg : g.val < 6 <;> by_cases hg' : g'.val < 6
      · simp only [hg, if_true] at herrs
        have h₁ := and_eq_zero_of_disjoint herrs.1 hmask
        have h₂ := and_eq_zero_of_disjoint herrs.2 hmask
        simp [errorBit, hg', maskOf, h₁, h₂]
      · simp only [hg, if_true] at hbits
        simp [errorBit, hg', hbits.2.1]
      · simp only [hg, if_false] at hbits
        simp [errorBit, hg', hbits.1]
      · simp only [hg, if_false] at herrs
        have h₁ := and_eq_zero_of_disjoint herrs.1 hmask
        have h₂ := and_eq_zero_of_disjoint herrs.2 hmask
        simp [errorBit, hg', maskOf, h₁, h₂]

lemma Assigned.due (ha : Assigned ctx s) (irq : Irq) :
    Due irq.payload.coreIndex irq.sub (outs irq.payload.coreIndex irq.sub ctx.resListIfeOut).length
      (begin s irq) := by
  cases hsub : irq.sub with
  | compGrp g =>
    have hcnt := ha.cnt irq.payload.coreIndex g
    have hle := outs_length_le ctx irq.payload.coreIndex (.compGrp g)
    refine ⟨?_, ?_⟩
    · simp only [begin, ha.zero, hcnt, Nat.zero_add]
    · simp only [begin, hcnt, u32Max_eq]
      omega
  | wm index => exact ha.wm irq.payload.coreIndex index

theorem handled_cases (ha : Assigned ctx s) (hc : Carries s irq) (hno : irq.refill = none) :
    (Idle (begin s irq) (camIfeHwMgrHandleBufDoneForHwRes ctx s irq) ∧
      cleanDone ctx s irq = false) ∨
    (doneBit irq.sub irq.payload = true ∧
      outs irq.payload.coreIndex irq.sub ctx.resListIfeOut ≠ [] ∧
      (∀ core g, ((camIfeHwMgrHandleBufDoneForHwRes ctx s irq).compGrp core g).irqTriggerCnt = 0) ∧
      reported (camIfeHwMgrHandleBufDoneForHwRes ctx s irq).trace =
        (if s.overflowPending || !ctx.doneCb then []
          else outs irq.payload.coreIndex irq.sub ctx.resListIfeOut) ∧
      (camIfeHwMgrHandleBufDoneForHwRes ctx s irq).trace.count .returned =
        if (clearDone irq.sub irq.payload).Quiet then 1 else 0) := by
  have hown : OwnBits irq.sub (begin s irq).payload := hc.bits
  cases hdone : doneBit irq.sub irq.payload with
  | false =>
    exact .inl ⟨handleOuts_idle _ _ hown fun hf => absurd (hdone.symm.trans hf) Bool.false_ne_true,
      by simp [cleanDone, hdone]⟩
  | true =>
    cases herr : errorBit (maskOf s irq.payload.coreIndex irq.sub) irq.sub irq.payload with
    | true =>
      exact .inl ⟨handleOuts_idle _ _ hown fun _ => herr,
        by simp [cleanDone, not_quiet_of_errorBit herr]⟩
    | false =>
      by_cases hpos : outs irq.payload.coreIndex irq.sub ctx.resListIfeOut = []
      · exact .inl ⟨handleOuts_no_outs _ _ hown hpos, by simp [cleanDone, hpos]⟩
      · obtain ⟨hset, hrep, hret⟩ := handleOuts_success ctx ctx.resListIfeOut (begin s irq)
          hown hdone (hc.errorBit_eq_false ha herr) (ha.due irq) hpos
        rw [camIfeHwMgrHandleBufDoneForHwRes, hno]
        refine .inr ⟨rfl, hpos, fun core g => ?_, hrep, ?_⟩
        · rw [hset core g]
          split_ifs
          · rfl
          · exact ha.zero core g
        · rw [hret]
          exact Nat.zero_add _

theorem handledButReads_iff (ha : Assigned ctx s) (hc : Carries s irq) (hno : irq.refill = none) :
    HandledButReads ctx s irq ↔ cleanDone ctx s irq = true := by
  rcases handled_cases ha hc hno with ⟨hidle, hclean⟩ | ⟨hdone, hpos, hzero, hrep, hret⟩
  · refine iff_of_false (fun hh => ?_) (by simp [hclean])
    have hcnt := hh.returned
    rw [hidle.count] at hcnt
    cases hcnt
  · constructor
    · intro hh
      have hquiet : (clearDone irq.sub irq.payload).Quiet := by
        by_contra hq
        have hcnt := hh.returned
        rw [hret, if_neg hq] at hcnt
        cases hcnt
      have hperm := hh.reports hdone
      rw [hrep] at hperm
      cases hheld : s.overflowPending || !ctx.doneCb with
      | true =>
        rw [hheld, if_pos rfl] at hperm
        exact absurd hperm.nil_eq.symm hpos
      | false =>
        simp only [Bool.or_eq_false_iff, Bool.not_eq_false'] at hheld
        simp [cleanDone, hdone, hquiet, hheld.1, hheld.2, hpos]
    · intro hclean
      simp only [cleanDone, Bool.and_eq_true, decide_eq_true_eq, Bool.not_eq_true'] at hclean
      obtain ⟨⟨⟨⟨-, hquiet⟩, hpend⟩, hcb⟩, -⟩ := hclean
      have hrep' : reported (camIfeHwMgrHandleBufDoneForHwRes ctx s irq).trace =
          outs irq.payload.coreIndex irq.sub ctx.resListIfeOut := by simp [hrep, hpend, hcb]
      exact ⟨fun _ => by rw [hrep'], fun resId hmem => by rwa [hrep'] at hmem,
        by rw [hret, if_pos hquiet], hzero⟩

lemma Assigned.step (ha : Assigned ctx s) (hc : Carries s irq) (hno : irq.refill = none) :
    Assigned ctx (step ctx s irq) := by
  have hsame : SameGrps (begin s irq) (camIfeHwMgrHandleBufDoneForHwRes ctx s irq) :=
    handleOuts_sameGrps _ _
  constructor
  case cnt =>
    intro core g
    rw [← ha.cnt core g]
    exact (hsame core g).2
  case wm => exact ha.wm
  case masks =>
    intro core g g' hne
    have h := ha.masks core g g' hne
    rw [BufDone.step]
    rw [(hsame core g).1, (hsame core g').1]
    exact h
  case zero =>
    intro core g
    rcases handled_cases ha hc hno with ⟨hidle, -⟩ | ⟨-, -, hzero, -⟩
    · rw [BufDone.step]
      rw [hidle.compGrp]
      exact ha.zero core g
    · exact hzero core g

end

/-- No payload is handled as asked. But for the reads after it was returned, and while no payload
is refilled meanwhile, exactly the clean ones are, after every run; and the counts of the groups
are at zero between any two payloads. -/
theorem buf_done_handled (ctx : IfeHwMgrCtx) :
    (∀ s irq, OwnBits irq.sub irq.payload → ¬ HandledOnce ctx s irq) ∧
    ∀ s irqs, Assigned ctx s →
      Transition.Guarded (step ctx) (fun s irq => Carries s irq ∧ irq.refill = none) s irqs →
      Assigned ctx (Transition.run (step ctx) s irqs) ∧
      ∀ irq, Carries (Transition.run (step ctx) s irqs) irq → irq.refill = none →
        (HandledButReads ctx (Transition.run (step ctx) s irqs) irq ↔
          cleanDone ctx (Transition.run (step ctx) s irqs) irq = true) := by
  refine ⟨fun s irq hown => not_handledOnce ctx s irq hown, fun s irqs ha hg => ?_⟩
  have hrun : Assigned ctx (Transition.run (step ctx) s irqs) :=
    Transition.run_invariant (fun s irq hs hok => hs.step hok.1 hok.2) ha hg
  exact ⟨hrun, fun irq hc hno => handledButReads_iff hrun hc hno⟩

/-- A full output and a DS4 output in one group, and an RDI, on core 0. -/
def someCtx : IfeHwMgrCtx where
  resListIfeOut := [⟨false, 0x3000, some ⟨0, .compGrp 0⟩⟩, ⟨false, 0x3001, some ⟨0, .compGrp 0⟩⟩] ++
    List.replicate 4 ⟨true, 0, none⟩ ++ [⟨false, 0x3006, some ⟨0, .wm 0⟩⟩] ++
    List.replicate 17 ⟨true, 0, none⟩
  size := by decide
  doneCb := true
  isAffected := true

def someState : State where
  compGrp core g := if core = 0 ∧ g = 0 then ⟨0x38, 2, 0⟩ else ⟨0, 0, 0⟩
  overflowPending := false

def groupDone (timeUsecs : ℕ) : Irq := ⟨.compGrp 0, ⟨0, timeUsecs, 0x20, 0, 0, 0, 0, 0, 0⟩, none⟩

lemma assigned_someState : Assigned someCtx someState where
  cnt core g := by
    by_cases hc : core = 0
    · subst hc
      revert g
      decide
    · simp [someState, hc, outs, isOut, someCtx, Ne.symm hc]
  wm core index := by
    by_cases hc : core = 0 ∧ index = 0
    · rw [hc.1, hc.2]
      decide
    · have hne : ¬ (0 = core ∧ 0 = index) := fun h => hc ⟨h.1.symm, h.2.symm⟩
      simp [outs, isOut, someCtx, hne]
  masks core g g' hne := by
    by_cases hg : g = 0
    · have hg' : g' ≠ 0 := fun h => hne (hg.trans h.symm)
      simp [someState, hg']
    · simp [someState, hg]
  zero core g := by
    unfold someState
    dsimp only
    split <;> rfl

lemma ownBits_groupDone (timeUsecs : ℕ) : OwnBits (.compGrp 0) (groupDone timeUsecs).payload := by
  refine ⟨rfl, rfl, fun k hk => .inl ?_⟩
  have hbit : ∀ k < 32, (0x20#32).getLsbD k = true → k = 5 := by decide
  by_cases hk32 : k < 32
  · exact hbit k hk32 hk
  · rw [BitVec.getLsbD_of_ge _ _ (by omega)] at hk
    cases hk

theorem buf_done_handled_group :
    (HandledButReads someCtx (Transition.run (step someCtx) someState [groupDone 7]) (groupDone 8) ↔
      cleanDone someCtx (Transition.run (step someCtx) someState [groupDone 7]) (groupDone 8) = true) ∧
    ¬ HandledOnce someCtx someState (groupDone 7) :=
  ⟨((buf_done_handled someCtx).2 someState [groupDone 7] assigned_someState
    ⟨⟨⟨ownBits_groupDone 7, ⟨rfl, rfl⟩⟩, rfl⟩, trivial⟩).2 (groupDone 8)
      ⟨ownBits_groupDone 8, ⟨rfl, rfl⟩⟩ rfl,
    (buf_done_handled someCtx).1 someState (groupDone 7) (ownBits_groupDone 7)⟩

/-- The time of the second report is read after the payload went back. -/
theorem not_handledOnce_group : ¬ ∀ ctx s irq, Assigned ctx s → Carries s irq → HandledOnce ctx s irq := by
  intro h
  have honce := h someCtx someState (groupDone 7) assigned_someState ⟨ownBits_groupDone 7, ⟨rfl, rfl⟩⟩
  have htrace : (camIfeHwMgrHandleBufDoneForHwRes someCtx someState (groupDone 7)).trace =
      [Access.read, .read, .read, .read, .read, .report 0x3000 7, .read, .read, .read] ++
        Access.returned :: [Access.read, .report 0x3001 7, .read, .read] := by decide
  exact honce.reads _ _ htrace (by decide)

end CameraKernel.BufDone
