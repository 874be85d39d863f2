import CameraKernel.IfeDual

/-! Left and right events are paired, as long as no interrupt of another core finds the
counters even. -/
namespace CameraKernel.IfeDual

/-- The `d`-th source is a dual CAMIF on the cores `l` and `r`. -/
structure DualCamif (cfg : Config) (d l r : ℕ) : Prop where
  source : cfg.resListIfeSrc[d]? = some ⟨false, .camif, true, some l, some r⟩
  ne : l ≠ r

/-- One callback for each pair, counters that tell who is ahead, and no mismatch. -/
structure Paired (l r : ℕ) (s : State) : Prop where
  calls : ∀ e, s.ctx.calls e = min (s.seen e l) (s.seen e r)
  left : ∀ e, (s.ctx.cnt e l).toNat = s.seen e l - s.seen e r
  right : ∀ e, (s.ctx.cnt e r).toNat = s.seen e r - s.seen e l
  close : ∀ e, s.seen e l ≤ s.seen e r + 1 ∧ s.seen e r ≤ s.seen e l + 1
  mismatch : s.ctx.dualIfeIrqMismatchCnt = 0

/-- Neither core gets more than one event ahead. -/
def inStep (d l r : ℕ) (s : State) (irq : Irq) (e : Event) : Bool :=
  !irq.own d e || (irq.coreIndex ≠ l || s.seen e l ≤ s.seen e r) &&
    (irq.coreIndex ≠ r || s.seen e r ≤ s.seen e l)

/-- How a handler treats a source: as one with a frame of its own, or as an RDI. -/
inductive Treat
  | frame | rdi | skip
  deriving DecidableEq, Repr

def treat (e : Event) (src : Source) : Treat :=
  if src.uninit then .skip
  else
    match e, src.resId with
    | .sof, .camif | .sof, .rd => .frame
    | .sof, .rdi0 | .sof, .rdi1 | .sof, .rdi2 | .sof, .rdi3 => .rdi
    | .epoch, .camif | .epoch, .testgen | .epoch, .rd => .frame
    | .eof, .camif => .frame
    | _, _ => .skip

/-- A source that makes no callback. -/
def silent (cfg : Config) (irq : Irq) (pending : Bool) (e : Event) (k : ℕ) (src : Source) : Bool :=
  match treat e src with
  | .frame => !src.isDualVfe && (pending || !(src.left = some irq.coreIndex && irq.own k e))
  | .rdi => !(cfg.isFeEnable || cfg.isRdiOnlyContext) || !(src.left = some irq.coreIndex && irq.own k e)
  | .skip => true

def othersSilent (cfg : Config) (d : ℕ) (irq : Irq) (pending : Bool) (e : Event) : Bool :=
  cfg.resListIfeSrc.zipIdx.all fun src => src.2 = d || silent cfg irq pending e src.2 src.1

/-- No overflow is pending when a pair completes; on an interrupt of another core one is, or
one core is ahead; and the other sources make no callback. -/
def undisturbed (cfg : Config) (d l r : ℕ) (s : State) (irq : Irq) (e : Event) : Bool :=
  othersSilent cfg d irq s.ctx.overflowPending e &&
    if irq.coreIndex = l then !irq.own d e || !s.ctx.overflowPending || s.seen e r ≤ s.seen e l
    else if irq.coreIndex = r then !irq.own d e || !s.ctx.overflowPending || s.seen e l ≤ s.seen e r
    else s.ctx.overflowPending || s.seen e l ≠ s.seen e r

def events : List Event := [.sof, .epoch, .eof]

def regular (cfg : Config) (d l r : ℕ) (s : State) : Op → Bool
  | .irq irq => events.all fun e => inStep d l r s irq e && undisturbed cfg d l r s irq e
  | .overflow _ => true

lemma mem_events (e : Event) : e ∈ events := by cases e <;> decide

lemma foldl_zipIdx_none {σ α : Type*} (f : σ → ℕ → α → σ) {Q : σ → Prop} (l : List α) (n : ℕ)
    (h : ∀ i a, l[i]? = some a → ∀ s, Q s → f s (n + i) a = s) (s : σ) (hs : Q s) :
    (l.zipIdx n).foldl (fun s e => f s e.2 e.1) s = s := by
  induction l generalizing n with
  | nil => rfl
  | cons a l ih =>
    rw [List.zipIdx_cons, List.foldl_cons]
    have ha : f s n a = s := h 0 a rfl s hs
    rw [ha]
    refine ih (n + 1) fun i b hb s hs => ?_
    rw [Nat.add_assoc, Nat.add_comm 1 i]
    exact h (i + 1) b hb s hs

lemma foldl_zipIdx_single {σ α : Type*} (f : σ → ℕ → α → σ) {Q : σ → Prop} (l : List α) (n d : ℕ)
    {a : α} (hd : l[d]? = some a)
    (h : ∀ i b, i ≠ d → l[i]? = some b → ∀ s, Q s → f s (n + i) b = s)
    (hQ : ∀ s, Q s → Q (f s (n + d) a)) (s : σ) (hs : Q s) :
    (l.zipIdx n).foldl (fun s e => f s e.2 e.1) s = f s (n + d) a := by
  induction l generalizing n d with
  | nil => simp at hd
  | cons b l ih =>
    rw [List.zipIdx_cons, List.foldl_cons]
    cases d with
    | zero =>
      rw [List.getElem?_cons_zero] at hd
      cases hd
      refine foldl_zipIdx_none f l (n + 1) (fun i b hb s hs => ?_) _ (hQ s hs)
      rw [Nat.add_assoc, Nat.add_comm 1 i]
      exact h (i + 1) b (by omega) hb s hs
    | succ d =>
      have hb : f s n b = s := h 0 b (by omega) rfl s hs
      rw [List.getElem?_cons_succ] at hd
      rw [hb, ← Nat.add_assoc, Nat.add_right_comm]
      refine ih (n + 1) d hd (fun i c hi hc s hs => ?_) (fun s hs => ?_)
      · rw [Nat.add_assoc, Nat.add_comm 1 i]
        exact h (i + 1) c (by omega) hc s hs
      · rw [Nat.add_assoc, Nat.add_comm 1 d]
        exact hQ s hs

/-! ### The dual source -/

/-- Who is ahead of whom, and the callbacks so far. -/
structure Phase (l r : ℕ) (e : Event) (s : Ctx) (nl nr : ℕ) : Prop where
  calls : s.calls e = min nl nr
  cnt : nl = nr ∧ s.cnt e l = 0 ∧ s.cnt e r = 0 ∨ nl = nr + 1 ∧ s.cnt e l = 1 ∧ s.cnt e r = 0 ∨
    nr = nl + 1 ∧ s.cnt e l = 0 ∧ s.cnt e r = 1

/-- A handler of the event `e` leaves the other events alone. -/
structure Only (e : Event) (s s' : Ctx) : Prop where
  cnt : ∀ e', e' ≠ e → s'.cnt e' = s.cnt e'
  calls : ∀ e', e' ≠ e → s'.calls e' = s.calls e'
  overflowPending : s'.overflowPending = s.overflowPending
  mismatch : s'.dualIfeIrqMismatchCnt = s.dualIfeIrqMismatchCnt

variable {cfg : Config} {irq : Irq} {d l r nl nr : ℕ} {e : Event} {s s' s'' : Ctx}

lemma Only.refl (e : Event) (s : Ctx) : Only e s s := ⟨fun _ _ => rfl, fun _ _ => rfl, rfl, rfl⟩

lemma Only.trans (h : Only e s s') (h' : Only e s' s'') : Only e s s'' :=
  ⟨fun e' he => (h'.cnt e' he).trans (h.cnt e' he), fun e' he => (h'.calls e' he).trans (h.calls e' he),
    h'.overflowPending.trans h.overflowPending, h'.mismatch.trans h.mismatch⟩

lemma setCnt_only (s : Ctx) (e : Event) (core : ℕ) (n : UInt32) : Only e s (s.setCnt e core n) :=
  ⟨fun _ he => Function.update_of_ne he _ _, fun _ _ => rfl, rfl, rfl⟩

lemma call_only (s : Ctx) (e : Event) : Only e s (s.call e) :=
  ⟨fun _ _ => rfl, fun _ he => Function.update_of_ne he _ _, rfl, rfl⟩

@[simp] lemma setCnt_cnt (s : Ctx) (e : Event) (core : ℕ) (n : UInt32) :
    (s.setCnt e core n).cnt e = Function.update (s.cnt e) core n := Function.update_self _ _ _

@[simp] lemma setCnt_calls (s : Ctx) (e : Event) (core : ℕ) (n : UInt32) :
    (s.setCnt e core n).calls = s.calls := rfl

@[simp] lemma setCnt_overflowPending (s : Ctx) (e : Event) (core : ℕ) (n : UInt32) :
    (s.setCnt e core n).overflowPending = s.overflowPending := rfl

@[simp] lemma call_cnt (s : Ctx) (e : Event) : (s.call e).cnt = s.cnt := rfl

@[simp] lemma call_calls (s : Ctx) (e : Event) : (s.call e).calls e = s.calls e + 1 :=
  Function.update_self _ _ _

@[simp] lemma call_overflowPending (s : Ctx) (e : Event) :
    (s.call e).overflowPending = s.overflowPending := rfl

lemma check_even (h : s.cnt e l = s.cnt e r) :
    checkIrqForDualVfe s l r e = (0, (s.setCnt e l 0).setCnt e r 0) := if_pos h

lemma check_ahead (h : s.cnt e l = 1 ∧ s.cnt e r = 0 ∨ s.cnt e l = 0 ∧ s.cnt e r = 1) :
    checkIrqForDualVfe s l r e = (-1, s) := by
  rw [checkIrqForDualVfe]
  rcases h with ⟨hl, hr⟩ | ⟨hl, hr⟩
  · rw [hl, hr, if_neg (by decide), if_neg (by decide)]
  · rw [hl, hr, if_neg (by decide), if_neg (by decide)]

/-- What the handlers do with the counted events: the check, and a callback when it passes
and no overflow is pending. -/
structure Settles (l r : ℕ) (e : Event) (s s' : Ctx) : Prop where
  even : s.cnt e l = s.cnt e r → s.overflowPending = false →
    Only e s s' ∧ s'.calls e = s.calls e + 1 ∧ s'.cnt e l = 0 ∧ s'.cnt e r = 0
  pending : s.overflowPending = true → s.cnt e l = s.cnt e r → s.cnt e l = 0 →
    Only e s s' ∧ s'.calls e = s.calls e ∧ s'.cnt e l = 0 ∧ s'.cnt e r = 0
  ahead : s.cnt e l = 1 ∧ s.cnt e r = 0 ∨ s.cnt e l = 0 ∧ s.cnt e r = 1 →
    Only e s s' ∧ s'.calls e = s.calls e ∧ s'.cnt e l = s.cnt e l ∧ s'.cnt e r = s.cnt e r

/-- The events of one interrupt that count for the source. -/
def countSides (irq : Irq) (d l r : ℕ) (e : Event) (s : Ctx) : Option Ctx :=
  (countSide irq d l e s).bind (countSide irq d r e)

lemma countSide_off {core : ℕ} (h : irq.coreIndex ≠ core) : countSide irq d core e s = some s := if_neg h

lemma countSide_on {core : ℕ} (h : irq.coreIndex = core) : countSide irq d core e s =
    if irq.own d e then some (s.setCnt e core (s.cnt e core + 1)) else none := by
  rw [countSide, if_pos h, bottomHalf]
  subst h
  cases irq.own d e <;> simp

lemma Phase.step (hne : l ≠ r) (h : Phase l r e s nl nr)
    (hl : irq.coreIndex = l → irq.own d e = true → nl ≤ nr ∧ (s.overflowPending = false ∨ nr ≤ nl))
    (hr : irq.coreIndex = r → irq.own d e = true → nr ≤ nl ∧ (s.overflowPending = false ∨ nl ≤ nr))
    (hother : irq.coreIndex ≠ l → irq.coreIndex ≠ r → s.overflowPending = true ∨ nl ≠ nr)
    (hnone : countSides irq d l r e s = none → s' = s)
    (hsome : ∀ t, countSides irq d l r e s = some t → Settles l r e t s') :
    Only e s s' ∧ Phase l r e s' (if irq.coreIndex = l ∧ irq.own d e = true then nl + 1 else nl)
      (if irq.coreIndex = r ∧ irq.own d e = true then nr + 1 else nr) := by
  rw [countSides] at hnone hsome
  by_cases hcl : irq.coreIndex = l
  · have hcr : irq.coreIndex ≠ r := fun hcr => hne (hcl.symm.trans hcr)
    rw [countSide_on hcl] at hnone hsome
    cases hown : irq.own d e with
    | false =>
      rw [hnone (by simp [hown])]
      simpa using ⟨Only.refl e s, h⟩
    | true =>
      obtain ⟨hle, hov⟩ := hl hcl hown
      have hset := hsome (s.setCnt e l (s.cnt e l + 1)) (by simp [hown, countSide_off hcr])
      simp only [hcl, hne, and_self, if_true, false_and, if_false]
      rcases h.cnt with ⟨hn, h0, h1⟩ | ⟨hn, h0, h1⟩ | ⟨hn, h0, h1⟩
      · obtain ⟨honly, hc, ha, hb⟩ := hset.ahead (by simp [h0, h1, hne.symm])
        refine ⟨(setCnt_only _ _ _ _).trans honly, ?_, .inr (.inl ⟨by omega, ?_, ?_⟩)⟩
        · rw [hc, setCnt_calls, h.calls]
          omega
        · simp [ha, h0]
        · simp [hb, h1, hne.symm]
      · omega
      · obtain ⟨honly, hc, ha, hb⟩ := hset.even (by simp [h0, h1, hne.symm]) (by simpa using hov.resolve_right (by omega))
        refine ⟨(setCnt_only _ _ _ _).trans honly, ?_, .inl ⟨by omega, ha, hb⟩⟩
        rw [hc, setCnt_calls, h.calls]
        omega
  by_cases hcr : irq.coreIndex = r
  · rw [countSide_off hcl, Option.bind_some, countSide_on hcr] at hnone hsome
    cases hown : irq.own d e with
    | false =>
      rw [hnone (by simp [hown])]
      simpa using ⟨Only.refl e s, h⟩
    | true =>
      obtain ⟨hle, hov⟩ := hr hcr hown
      have hset := hsome (s.setCnt e r (s.cnt e r + 1)) (by simp [hown])
      simp only [hcr, hne.symm, and_self, if_true, false_and, if_false]
      rcases h.cnt with ⟨hn, h0, h1⟩ | ⟨hn, h0, h1⟩ | ⟨hn, h0, h1⟩
      · obtain ⟨honly, hc, ha, hb⟩ := hset.ahead (by simp [h0, h1, hne])
        refine ⟨(setCnt_only _ _ _ _).trans honly, ?_, .inr (.inr ⟨by omega, ?_, ?_⟩)⟩
        · rw [hc, setCnt_calls, h.calls]
          omega
        · simp [ha, h0, hne]
        · simp [hb, h1]
      · obtain ⟨honly, hc, ha, hb⟩ := hset.even (by simp [h0, h1, hne]) (by simpa using hov.resolve_right (by omega))
        refine ⟨(setCnt_only _ _ _ _).trans honly, ?_, .inl ⟨by omega, ha, hb⟩⟩
        rw [hc, setCnt_calls, h.calls]
        omega
      · omega
  · have hset := hsome s (by simp [countSide_off hcl, countSide_off hcr])
    simp only [hcl, hcr, false_and, if_false]
    rcases h.cnt with ⟨hn, h0, h1⟩ | ⟨hn, h0, h1⟩ | ⟨hn, h0, h1⟩
    · obtain ⟨honly, hc, ha, hb⟩ := hset.pending ((hother hcl hcr).resolve_right (by simp [hn])) (by rw [h0, h1]) h0
      exact ⟨honly, hc.trans h.calls, .inl ⟨hn, ha, hb⟩⟩
    · obtain ⟨honly, hc, ha, hb⟩ := hset.ahead (.inl ⟨h0, h1⟩)
      exact ⟨honly, hc.trans h.calls, .inr (.inl ⟨hn, ha.trans h0, hb.trans h1⟩)⟩
    · obtain ⟨honly, hc, ha, hb⟩ := hset.ahead (.inr ⟨h0, h1⟩)
      exact ⟨honly, hc.trans h.calls, .inr (.inr ⟨hn, ha.trans h0, hb.trans h1⟩)⟩

/-- The branch behind the check, as EPOCH and EOF take it. -/
def settleCamif (l r : ℕ) (e : Event) (s : Ctx) : Ctx :=
  let (rc, s) := checkIrqForDualVfe s l r e
  if s.overflowPending then s else if rc = 0 then s.call e else s

lemma settleCamif_settles (hne : l ≠ r) (e : Event) (s : Ctx) : Settles l r e s (settleCamif l r e s) := by
  refine ⟨fun heq hov => ?_, fun hov heq h0 => ?_, fun h => ?_⟩
  · have hres : settleCamif l r e s = ((s.setCnt e l 0).setCnt e r 0).call e := by
      simp [settleCamif, check_even heq, hov]
    rw [hres]
    exact ⟨((setCnt_only _ _ _ _).trans (setCnt_only _ _ _ _)).trans (call_only _ _), by simp,
      by simp [hne], by simp⟩
  · have hres : settleCamif l r e s = (s.setCnt e l 0).setCnt e r 0 := by
      simp [settleCamif, check_even heq, hov]
    rw [hres]
    exact ⟨(setCnt_only _ _ _ _).trans (setCnt_only _ _ _ _), rfl, by simp [hne], by simp⟩
  · have hres : settleCamif l r e s = s := by simp [settleCamif, check_ahead h]
    rw [hres]
    exact ⟨.refl e s, rfl, rfl, rfl⟩

lemma countSides_none {t : Ctx} (hne : l ≠ r) (h : countSide irq d l e s = some t)
    (h' : countSide irq d r e t = none) : t = s := by
  by_cases hcr : irq.coreIndex = r
  · rw [countSide_off (by rw [hcr]; exact hne.symm)] at h
    exact (Option.some.inj h).symm
  · rw [countSide_off hcr] at h'
    cases h'

lemma visitCamif_dual {skips : ResId → Bool} (hskip : skips .camif = false) (hne : l ≠ r) (s : Ctx) :
    (countSides irq d l r e s = none → visitCamif e skips irq s d ⟨false, .camif, true, some l, some r⟩ = s) ∧
    ∀ t, countSides irq d l r e s = some t →
      Settles l r e t (visitCamif e skips irq s d ⟨false, .camif, true, some l, some r⟩) := by
  simp only [visitCamif, hskip, Bool.or_self, Bool.false_eq_true, if_false, countSides]
  cases h : countSide irq d l e s with
  | none => simp
  | some t =>
    simp only [Option.bind_some]
    cases h' : countSide irq d r e t with
    | none => simpa using countSides_none hne h h'
    | some u =>
      refine ⟨by simp, ?_⟩
      rintro _ ⟨⟩
      exact settleCamif_settles hne e u

/-- A SOF is sent once in the loop, and nothing has been sent before. -/
def settleSof (l r : ℕ) (s : Ctx) : Ctx :=
  if s.overflowPending then s
  else
    let (rc, s) := checkIrqForDualVfe s l r .sof
    if rc = 0 then s.call .sof else s

lemma settleSof_settles (hne : l ≠ r) (s : Ctx) : Settles l r .sof s (settleSof l r s) := by
  refine ⟨fun heq hov => ?_, fun hov heq h0 => ?_, fun h => ?_⟩
  · have hres : settleSof l r s = ((s.setCnt .sof l 0).setCnt .sof r 0).call .sof := by
      simp [settleSof, check_even heq, hov]
    rw [hres]
    exact ⟨((setCnt_only _ _ _ _).trans (setCnt_only _ _ _ _)).trans (call_only _ _), by simp,
      by simp [hne], by simp⟩
  · rw [settleSof, if_pos hov]
    exact ⟨.refl _ s, rfl, h0, by rw [← heq, h0]⟩
  · have hres : settleSof l r s = s := by simp [settleSof, check_ahead h]
    rw [hres]
    exact ⟨.refl _ s, rfl, rfl, rfl⟩

lemma visitSof_dual (cfg : Config) (hne : l ≠ r) (s : Ctx) :
    (countSides irq d l r .sof s = none →
      (visitSof cfg irq (s, false) d ⟨false, .camif, true, some l, some r⟩).1 = s) ∧
    ∀ t, countSides irq d l r .sof s = some t →
      Settles l r .sof t (visitSof cfg irq (s, false) d ⟨false, .camif, true, some l, some r⟩).1 := by
  simp only [visitSof, processCamifSof, countSides]
  cases h : countSide irq d l .sof s with
  | none => simp [Errno.EINVAL]
  | some t =>
    simp only [Option.bind_some]
    cases h' : countSide irq d r .sof t with
    | none => simpa [Errno.EINVAL] using countSides_none hne h h'
    | some u =>
      refine ⟨by simp, ?_⟩
      rintro _ ⟨⟩
      have hset := settleSof_settles hne u
      rw [settleSof] at hset
      cases hov : u.overflowPending with
      | true => simpa [hov, Errno.EINVAL] using hset
      | false =>
        simp only [hov, Bool.false_eq_true, if_false] at hset ⊢
        revert hset
        obtain ⟨rc, v⟩ := checkIrqForDualVfe u l r .sof
        simp only [and_true]
        intro hset
        split_ifs at hset ⊢ with hrc
        · exact hset
        · exact hset

/-! ### The other sources -/

lemma takeBack_overflowPending (s : Ctx) (e : Event) (core : ℕ) :
    (takeBack s e core).overflowPending = s.overflowPending := by
  rw [takeBack]
  split_ifs <;> rfl

lemma check_overflowPending (s : Ctx) (core0 core1 : ℕ) (e : Event) :
    (checkIrqForDualVfe s core0 core1 e).2.overflowPending = s.overflowPending := by
  rw [checkIrqForDualVfe]
  split_ifs
  · rfl
  · rfl
  · rw [takeBack_overflowPending, takeBack_overflowPending]
  · rfl

lemma countSide_overflowPending {core : ℕ} {t : Ctx} (h : countSide irq d core e s = some t) :
    t.overflowPending = s.overflowPending := by
  rw [countSide] at h
  split_ifs at h
  · cases h
    rfl
  · cases h
    rfl

lemma visitCamif_overflowPending {skips : ResId → Bool} (s : Ctx) (k : ℕ) (src : Source) :
    (visitCamif e skips irq s k src).overflowPending = s.overflowPending := by
  rw [visitCamif]
  by_cases hskip : (src.uninit || skips src.resId) = true
  · rw [if_pos hskip]
  rw [if_neg hskip]
  cases src.isDualVfe with
  | false =>
    cases src.left with
    | none => rfl
    | some core =>
      simp only
      split_ifs <;> rfl
  | true =>
    cases src.left with
    | none => rfl
    | some core0 =>
      cases src.right with
      | none => rfl
      | some core1 =>
        simp only
        cases h : countSide irq k core0 e s with
        | none => rfl
        | some t =>
          simp only
          cases h' : countSide irq k core1 e t with
          | none => exact countSide_overflowPending h
          | some u =>
            have hu := (countSide_overflowPending h').trans (countSide_overflowPending h)
            have hcheck := check_overflowPending u core0 core1 e
            simp only
            split_ifs
            · exact hcheck.trans hu
            · exact hcheck.trans hu
            · exact hcheck.trans hu

lemma processCamifSof_overflowPending (s : Ctx) (k : ℕ) (src : Source) :
    (processCamifSof irq k src s).2.overflowPending = s.overflowPending := by
  rw [processCamifSof]
  cases src.isDualVfe with
  | false =>
    cases src.left with
    | none => rfl
    | some core =>
      simp only
      split_ifs <;> rfl
  | true =>
    cases src.left with
    | none => rfl
    | some core0 =>
      simp only
      cases h : countSide irq k core0 .sof s with
      | none => rfl
      | some t =>
        cases src.right with
        | none => exact countSide_overflowPending h
        | some core1 =>
          simp only
          cases h' : countSide irq k core1 .sof t with
          | none => exact countSide_overflowPending h
          | some u =>
            have hu := (countSide_overflowPending h').trans (countSide_overflowPending h)
            simp only
            split_ifs
            · exact hu
            · exact (check_overflowPending u core0 core1 .sof).trans hu

lemma visitSof_overflowPending (cfg : Config) (s : Ctx) (sent : Bool) (k : ℕ) (src : Source) :
    (visitSof cfg irq (s, sent) k src).1.overflowPending = s.overflowPending := by
  have hsof := @processCamifSof_overflowPending irq s k src
  simp only [visitSof]
  cases src.uninit
  · cases src.resId <;> simp only <;> split_ifs <;> first | rfl | exact hsof
  · rfl

lemma bottomHalf_eq_zero {k core : ℕ} :
    bottomHalf irq k core e = 0 ↔ core = irq.coreIndex ∧ irq.own k e = true := by
  rw [bottomHalf]
  split_ifs with h
  · exact iff_of_true rfl h
  · exact iff_of_false (by decide) h

/-- A source of its own that has an event now. -/
def answers (irq : Irq) (e : Event) (k : ℕ) (src : Source) : Bool :=
  src.left = some irq.coreIndex && irq.own k e

lemma visitCamif_silent {skips : ResId → Bool} {k : ℕ} {src : Source} (hdual : src.isDualVfe = false)
    (h : s.overflowPending = true ∨ answers irq e k src = false) :
    visitCamif e skips irq s k src = s := by
  rw [visitCamif, hdual]
  by_cases hskip : (src.uninit || skips src.resId) = true
  · rw [if_pos hskip]
  rw [if_neg hskip]
  cases hl : src.left with
  | none => rfl
  | some core =>
    simp only [answers, hl] at h ⊢
    split_ifs with hcore hov hzero
    · rfl
    · rw [bottomHalf_eq_zero] at hzero
      simp [hov, hcore, hzero.2] at h
    · rfl
    · rfl

lemma processCamifSof_silent {k : ℕ} {src : Source} (hdual : src.isDualVfe = false)
    (h : s.overflowPending = true ∨ answers irq .sof k src = false) :
    processCamifSof irq k src s = (-Errno.EINVAL, s) := by
  rw [processCamifSof, hdual]
  cases hl : src.left with
  | none => rfl
  | some core =>
    simp only [answers, hl] at h ⊢
    split_ifs with hcore hov hzero
    · rfl
    · rw [bottomHalf_eq_zero] at hzero
      simp [hov, hcore, hzero.2] at h
    · rfl
    · rfl

lemma rdiStatus_eq_zero {k : ℕ} {src : Source} :
    rdiStatus irq k src = 0 ↔ answers irq .sof k src = true := by
  rw [rdiStatus, answers]
  cases src.left with
  | none => simp
  | some core => simp [bottomHalf_eq_zero]

lemma visitSof_silent {sent : Bool} {k : ℕ} {src : Source}
    (h : silent cfg irq s.overflowPending .sof k src = true) :
    visitSof cfg irq (s, sent) k src = (s, sent) := by
  rw [silent, ← answers] at h
  simp only [visitSof]
  cases hu : src.uninit with
  | true => rfl
  | false =>
    have hframe : src.isDualVfe = false ∧ (s.overflowPending = true ∨ answers irq .sof k src = false) →
        processCamifSof irq k src s = (-Errno.EINVAL, s) := fun h => processCamifSof_silent h.1 h.2
    have hrdi : (cfg.isFeEnable || cfg.isRdiOnlyContext) = false ∨ answers irq .sof k src = false →
        ((cfg.isFeEnable || cfg.isRdiOnlyContext) && (rdiStatus irq k src = 0 && !sent)) = false := by
      simp only [rdiStatus_eq_zero]
      rintro (h | h) <;> simp [h]
    cases hid : src.resId with
    | camif | rd =>
      simp only [treat, hu, hid, Bool.false_eq_true, if_false, Bool.and_eq_true, Bool.or_eq_true,
        Bool.not_eq_true'] at h ⊢
      simp [hframe h, Errno.EINVAL]
    | rdi0 | rdi1 | rdi2 | rdi3 =>
      simp only [treat, hu, hid, Bool.false_eq_true, if_false, Bool.or_eq_true, Bool.not_eq_true'] at h ⊢
      rw [if_neg (by rw [hrdi h]; simp)]
    | testgen | camifLite => simp

lemma othersSilent_iff {pending : Bool} : othersSilent cfg d irq pending e = true ↔
    ∀ k src, k ≠ d → cfg.resListIfeSrc[k]? = some src → silent cfg irq pending e k src = true := by
  simp only [othersSilent, List.all_eq_true, Bool.or_eq_true, decide_eq_true_eq, Prod.forall,
    List.mem_zipIdx_iff_getElem?]
  exact ⟨fun h k src hk hsrc => (h src k hsrc).resolve_left hk, fun h src k hsrc =>
    or_iff_not_imp_left.mpr fun hk => h k src hk hsrc⟩

lemma handleSof_eq (hd : cfg.resListIfeSrc[d]? = some ⟨false, .camif, true, some l, some r⟩)
    (h : othersSilent cfg d irq s.overflowPending .sof = true) :
    handleSof cfg irq s = (visitSof cfg irq (s, false) d ⟨false, .camif, true, some l, some r⟩).1 := by
  rw [othersSilent_iff] at h
  have hsingle := foldl_zipIdx_single (fun t k src => visitSof cfg irq t k src)
    (Q := fun t => t.1.overflowPending = s.overflowPending) cfg.resListIfeSrc 0 d hd
    (fun k src hk hsrc t ht => by
      obtain ⟨t, sent⟩ := t
      simp only at ht
      rw [Nat.zero_add]
      exact visitSof_silent (ht ▸ h k src hk hsrc))
    (fun t ht => (visitSof_overflowPending cfg t.1 t.2 _ _).trans ht) (s, false) rfl
  rw [handleSof, hsingle, Nat.zero_add]

lemma handleCamif_eq {skips : ResId → Bool}
    (htreat : ∀ src, src.uninit = false → skips src.resId = false → treat e src = .frame)
    (hd : cfg.resListIfeSrc[d]? = some ⟨false, .camif, true, some l, some r⟩)
    (h : othersSilent cfg d irq s.overflowPending e = true) :
    cfg.resListIfeSrc.zipIdx.foldl (fun s src => visitCamif e skips irq s src.2 src.1) s =
      visitCamif e skips irq s d ⟨false, .camif, true, some l, some r⟩ := by
  rw [othersSilent_iff] at h
  have hsingle := foldl_zipIdx_single (visitCamif e skips irq)
    (Q := fun t => t.overflowPending = s.overflowPending) cfg.resListIfeSrc 0 d hd
    (fun k src hk hsrc t ht => by
      rw [Nat.zero_add]
      have hsilent := h k src hk hsrc
      by_cases hskip : (src.uninit || skips src.resId) = true
      · rw [visitCamif, if_pos hskip]
      · simp only [Bool.or_eq_true, not_or, Bool.not_eq_true] at hskip
        rw [silent, htreat src hskip.1 hskip.2, ← answers] at hsilent
        simp only [Bool.and_eq_true, Bool.or_eq_true, Bool.not_eq_true'] at hsilent
        exact visitCamif_silent hsilent.1 (ht ▸ hsilent.2))
    (fun t ht => (visitCamif_overflowPending t _ _).trans ht) s rfl
  rw [hsingle, Nat.zero_add]

lemma treat_epoch (src : Source) (hu : src.uninit = false) (hs : epochSkips src.resId = false) :
    treat .epoch src = .frame := by
  obtain ⟨uninit, resId, dual, left, right⟩ := src
  cases resId <;> simp_all [treat, epochSkips]

lemma treat_eof (src : Source) (hu : src.uninit = false) (hs : eofSkips src.resId = false) :
    treat .eof src = .frame := by
  obtain ⟨uninit, resId, dual, left, right⟩ := src
  cases resId <;> simp_all [treat, eofSkips]

lemma Phase.of_only {e' : Event} (h : Phase l r e s nl nr) (ho : Only e' s s') (hne : e ≠ e') :
    Phase l r e s' nl nr := by
  refine ⟨(ho.calls e hne).trans h.calls, ?_⟩
  rw [ho.cnt e hne]
  exact h.cnt

structure Inv (l r : ℕ) (s : State) : Prop where
  phase : ∀ e, Phase l r e s.ctx (s.seen e l) (s.seen e r)
  mismatch : s.ctx.dualIfeIrqMismatchCnt = 0

lemma Inv.paired {s : State} (h : Inv l r s) : Paired l r s := by
  refine ⟨fun e => (h.phase e).calls, fun e => ?_, fun e => ?_, fun e => ?_, h.mismatch⟩
  · rcases (h.phase e).cnt with ⟨hn, h0, -⟩ | ⟨hn, h0, -⟩ | ⟨hn, h0, -⟩ <;> rw [h0]
    · simp [hn]
    · simp [hn]
    · simp [hn]
  · rcases (h.phase e).cnt with ⟨hn, -, h1⟩ | ⟨hn, -, h1⟩ | ⟨hn, -, h1⟩ <;> rw [h1]
    · simp [hn]
    · simp [hn]
    · simp [hn]
  · rcases (h.phase e).cnt with ⟨hn, -, -⟩ | ⟨hn, -, -⟩ | ⟨hn, -, -⟩ <;> omega

lemma handle_step {st : State} (hc : DualCamif cfg d l r) (hp : Phase l r e s (st.seen e l) (st.seen e r))
    (hov : s.overflowPending = st.ctx.overflowPending) (hin : inStep d l r st irq e = true)
    (hun : undisturbed cfg d l r st irq e = true)
    (hnone : countSides irq d l r e s = none → s' = s)
    (hsome : ∀ t, countSides irq d l r e s = some t → Settles l r e t s') :
    Only e s s' ∧ Phase l r e s' (see d irq st.seen e l) (see d irq st.seen e r) := by
  simp only [undisturbed, Bool.and_eq_true] at hun
  refine hp.step hc.ne (fun hcl hown => ?_) (fun hcr hown => ?_) (fun hcl hcr => ?_) hnone hsome
  · have hle : st.seen e l ≤ st.seen e r := by
      simp only [inStep, hown, hcl, Bool.not_true, Bool.false_or, Bool.and_eq_true, Bool.or_eq_true] at hin
      simpa using hin.1
    rw [hov]
    exact ⟨hle, by simpa [hcl, hown] using hun.2⟩
  · have hcl : irq.coreIndex ≠ l := fun hcl => hc.ne (hcl.symm.trans hcr)
    have hle : st.seen e r ≤ st.seen e l := by
      simp only [inStep, hown, hcr, Bool.not_true, Bool.false_or, Bool.and_eq_true, Bool.or_eq_true] at hin
      simpa using hin.2
    rw [hov]
    exact ⟨hle, by simpa [hcr, hc.ne.symm, hown] using hun.2⟩
  · rw [hov]
    simpa [hcl, hcr] using hun.2

lemma doTasklet_inv {st : State} (hc : DualCamif cfg d l r) (h : Inv l r st)
    (hok : regular cfg d l r st (.irq irq) = true) :
    Inv l r ⟨doTasklet cfg irq st.ctx, see d irq st.seen⟩ := by
  simp only [regular, List.all_eq_true, Bool.and_eq_true] at hok
  have hin := fun e => (hok e (mem_events e)).1
  have hun := fun e => (hok e (mem_events e)).2
  have hsilent : ∀ e, othersSilent cfg d irq st.ctx.overflowPending e = true := fun e =>
    (Bool.and_eq_true _ _ ▸ hun e).1
  -- Each handler finds the phase of its own event as the interrupt found it.
  have hfirst : ∀ t, t = handleEofForCamifHwRes cfg irq st.ctx → Only .eof st.ctx t ∧
      Phase l r .eof t (see d irq st.seen .eof l) (see d irq st.seen .eof r) := by
    rintro _ rfl
    obtain ⟨hnone, hsome⟩ := @visitCamif_dual irq d l r .eof eofSkips rfl hc.ne st.ctx
    rw [← handleCamif_eq treat_eof hc.source (hsilent .eof)] at hnone hsome
    exact handle_step hc (h.phase .eof) rfl (hin .eof) (hun .eof) hnone hsome
  obtain ⟨ho₁, hp₁⟩ := hfirst _ rfl
  rw [doTasklet]
  generalize handleEofForCamifHwRes cfg irq st.ctx = s₁ at ho₁ hp₁ ⊢
  have hsecond : ∀ t, t = handleSof cfg irq s₁ → Only .sof s₁ t ∧
      Phase l r .sof t (see d irq st.seen .sof l) (see d irq st.seen .sof r) := by
    rintro _ rfl
    obtain ⟨hnone, hsome⟩ := @visitSof_dual irq d l r cfg hc.ne s₁
    rw [← handleSof_eq hc.source (ho₁.overflowPending ▸ hsilent .sof)] at hnone hsome
    exact handle_step hc ((h.phase .sof).of_only ho₁ (by decide)) ho₁.overflowPending (hin .sof)
      (hun .sof) hnone hsome
  obtain ⟨ho₂, hp₂⟩ := hsecond _ rfl
  generalize handleSof cfg irq s₁ = s₂ at ho₂ hp₂ ⊢
  have hov₂ := ho₂.overflowPending.trans ho₁.overflowPending
  have hthird : ∀ t, t = handleEpochForCamifHwRes cfg irq s₂ → Only .epoch s₂ t ∧
      Phase l r .epoch t (see d irq st.seen .epoch l) (see d irq st.seen .epoch r) := by
    rintro _ rfl
    obtain ⟨hnone, hsome⟩ := @visitCamif_dual irq d l r .epoch epochSkips rfl hc.ne s₂
    rw [← handleCamif_eq treat_epoch hc.source (hov₂ ▸ hsilent .epoch)] at hnone hsome
    exact handle_step hc (((h.phase .epoch).of_only ho₁ (by decide)).of_only ho₂ (by decide)) hov₂
      (hin .epoch) (hun .epoch) hnone hsome
  obtain ⟨ho₃, hp₃⟩ := hthird _ rfl
  refine ⟨fun e => ?_, ho₃.mismatch.trans (ho₂.mismatch.trans (ho₁.mismatch.trans h.mismatch))⟩
  cases e with
  | sof => exact hp₂.of_only ho₃ (by decide)
  | epoch => exact hp₃
  | eof => exact (hp₁.of_only ho₂ (by decide)).of_only ho₃ (by decide)

lemma step_inv {st : State} (hc : DualCamif cfg d l r) (h : Inv l r st) (op : Op)
    (hok : regular cfg d l r st op = true) : Inv l r (step cfg d st op) := by
  cases op with
  | irq irq => exact doTasklet_inv hc h hok
  | overflow pending => exact ⟨fun e => ⟨(h.phase e).calls, (h.phase e).cnt⟩, h.mismatch⟩

lemma init_inv (l r : ℕ) : Inv l r init := ⟨fun _ => ⟨rfl, .inl ⟨rfl, rfl, rfl⟩⟩, rfl⟩

theorem run_paired (hc : DualCamif cfg d l r) (ops : List Op)
    (h : Transition.Guarded (step cfg d) (fun s op => regular cfg d l r s op = true) init ops) :
    Paired l r (Transition.run (step cfg d) init ops) := by
  have hstep : ∀ s op, Inv l r s → regular cfg d l r s op = true → Inv l r (step cfg d s op) :=
    fun _ op hs hok => step_inv hc hs op hok
  exact (Transition.run_invariant hstep (init_inv l r) h).paired

/-- The CAMIF on cores 0 and 1, and an RDI on core 2. -/
def withRdi : Config :=
  ⟨[⟨false, .rdi0, false, some 2, none⟩, ⟨false, .camif, true, some 0, some 1⟩], false, false⟩

lemma withRdi_dualCamif : DualCamif withRdi 1 0 1 := ⟨rfl, by decide⟩

/-- An event of the source on a core. -/
def event (core k : ℕ) (e : Event) : Op := .irq ⟨core, fun k' e' => k' = k && e' = e⟩

/-- The right core is first once; the RDI's frame starts while an overflow is pending. -/
def oneFrame : List Op :=
  [event 0 1 .sof, event 1 1 .sof, event 1 1 .epoch, event 0 1 .epoch, .overflow true,
    event 2 0 .sof, event 0 1 .eof, .overflow false, event 1 1 .eof]

theorem run_paired_oneFrame :
    Paired 0 1 (Transition.run (step withRdi 1) init oneFrame) :=
  run_paired withRdi_dualCamif oneFrame (by decide +kernel)

/-- A frame of the RDI, before any of the CAMIF. -/
theorem rdiFrame_not_paired :
    ¬Paired 0 1 (Transition.run (step withRdi 1) init [event 2 0 .sof]) :=
  fun h => absurd (h.calls .sof) (by decide +kernel)

end CameraKernel.IfeDual
