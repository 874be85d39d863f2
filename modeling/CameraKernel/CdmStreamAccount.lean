import CameraKernel.CdmStream
import CameraKernel.HolderCount

/-! The stream accounting is exact as long as nothing that switches off fails, and no client
is released that streams or has a submission under way. -/
namespace CameraKernel.CdmStream
variable {cdm : Cdm} {a : Answers} {s : State} {i : Slot}

def streams (o : Option Client) : Bool := o.any (·.streamOn)

/-- The registered clients that stream. -/
def streaming (t : Slot → Option Client) : ℕ := HolderCount.holders streams t

structure Exact (cdm : Cdm) (s : State) : Prop where
  openCount : s.hw.openCount = streaming s.clients
  cpas : s.hw.cpasOn = decide (0 < s.hw.openCount)
  platform : s.hw.platformOn = (!cdm.isVirtual && decide (0 < s.hw.openCount))
  freed : ∀ n ∈ s.freed, n = 0

/-- The references to a client other than those of submissions under way. -/
def State.own (s : State) (i : Slot) : Option ℤ :=
  (s.clients i).map fun c => (c.refcount : ℤ) - s.held i

structure Unchanged (s s' : State) : Prop where
  openCount : s'.hw.openCount = s.hw.openCount
  streamOn : ∀ i, (s'.clients i).map (·.streamOn) = (s.clients i).map (·.streamOn)
  refcount : ∀ i, s'.own i = s.own i

/-- A stream call that gets past its checks. -/
def proceeds (s : State) (hdl : UInt32) (operation : Bool) : Bool :=
  (s.clients (clientIdx hdl)).any fun c => c.handle = hdl && c.streamOn != operation

/-- A first stream-on whose hardware does not come up after CPAS was started. -/
def initFails (cdm : Cdm) (a : Answers) : Bool :=
  !cdm.isVirtual && a.enableRc = 0 && a.cpasStartRc = 0 &&
    (a.irqMaskFails || a.resetFails || a.timeLeft ≤ 0 || a.genIrqRc ≠ 0)

/-- CPAS goes off when a stream-on is undone, the last stream-off does not fail, and a client
is released with its stream off and no submission under way. -/
def switchesOff (cdm : Cdm) (s : State) : Op → Bool
  | .streamOn hdl a =>
    !(proceeds s hdl true && s.hw.openCount = 0 && initFails cdm a) ||
      a.cpasStop.rc = 0 || !a.cpasStop.on
  | .streamOff hdl a =>
    !(proceeds s hdl false && s.hw.openCount = 1) ||
      (cdm.isVirtual || a.disableRc = 0) && a.cpasStop.rc = 0
  | .release hdl =>
    (s.clients (clientIdx hdl)).all fun c =>
      c.handle != hdl || !c.streamOn && s.held (clientIdx hdl) = 0
  | _ => true

lemma modify_modify (t : Slot → Option Client) (i : Slot) (f g : Client → Client) :
    modify (modify t i f) i g = modify t i (g ∘ f) := by
  unfold modify
  rw [Function.update_self, Function.update_idem, Option.map_map]

lemma modify_eq_self {t : Slot → Option Client} {f : Client → Client} (hf : ∀ c, f c = c) :
    modify t i f = t := by
  rw [modify, show f = id from funext hf, Option.map_id, id, Function.update_eq_self]

lemma Client.put_get (c : Client) : c.get.put = c := rfl

lemma put_getClientRefcount (s : State) (i : Slot) :
    (s.getClientRefcount i).putClientRefcount i = s := by
  simp only [State.getClientRefcount, State.putClientRefcount, modify_modify]
  rw [modify_eq_self (f := Client.put ∘ Client.get) Client.put_get]

lemma streaming_update (t : Slot → Option Client) (i : Slot) (v : Option Client) :
    streaming (Function.update t i v) + (streams (t i)).toNat =
      streaming t + (streams v).toNat := HolderCount.holders_update streams t i v

structure Powered (cdm : Cdm) (hw : Hw) : Prop where
  cpas : hw.cpasOn = decide (0 < hw.openCount)
  platform : hw.platformOn = (!cdm.isVirtual && decide (0 < hw.openCount))

/-- A switch either does what it is for and succeeds, or fails and leaves the count alone. -/
structure Switched (cdm : Cdm) (hw : Hw) (count : ℕ) (r : Hw × Bool × Int) : Prop where
  powered : Powered cdm r.1
  done : r.2.1 = true → r.2.2 = 0 ∧ r.1.openCount = count
  failed : r.2.1 = false → r.2.2 ≠ 0 ∧ r.1.openCount = hw.openCount

lemma firstInit_spec (cdm : Cdm) (a : Answers) (hw : Hw) :
    (firstInit cdm a hw).1 = hw ∧ (firstInit cdm a hw).2 = 0 ∨
      (firstInit cdm a hw).1 = { hw with platformOn := false } ∧ (firstInit cdm a hw).2 ≠ 0 ∧
        cdm.isVirtual = false ∧
        (a.irqMaskFails || a.resetFails || a.timeLeft ≤ 0 || a.genIrqRc ≠ 0) = true := by
  unfold firstInit
  cases hv : cdm.isVirtual with
  | true => exact Or.inl ⟨rfl, rfl⟩
  | false =>
    simp only [Bool.false_eq_true, if_false, hwCdmInit]
    by_cases hinit : (a.irqMaskFails || a.resetFails || decide (a.timeLeft ≤ 0)) = true
    · have hio : ¬ -Errno.EIO = 0 := by decide
      simp [hinit, hio, Hw.disablePlatform]
    · by_cases hgen : a.genIrqRc = 0
      · simp [hinit, hgen]
      · simp [hinit, hgen, hwCdmDeinit, Hw.disablePlatform]

lemma switchOn_spec {hw : Hw} (h : Powered cdm hw)
    (hoff : hw.openCount = 0 → initFails cdm a = true → a.cpasStop.rc = 0 ∨ a.cpasStop.on = false) :
    Switched cdm hw (hw.openCount + 1) (switchOn cdm a hw) := by
  have hcpas := h.cpas
  have hplatform := h.platform
  unfold switchOn
  by_cases hcount : hw.openCount = 0
  · have hcpasOff : hw.cpasOn = false := by simp [hcpas, hcount]
    have hplatformOff : hw.platformOn = false := by simp [hplatform, hcount]
    rw [if_pos hcount]
    by_cases henable : (!cdm.isVirtual && decide (a.enableRc ≠ 0)) = true
    · rw [if_pos henable]
      refine ⟨h, fun hd => absurd hd Bool.false_ne_true, fun _ => ⟨?_, rfl⟩⟩
      exact of_decide_eq_true (Bool.and_eq_true_iff.1 henable).2
    · rw [if_neg henable]
      obtain ⟨on, hon⟩ : ∃ on, on = if cdm.isVirtual then hw else { hw with platformOn := true } :=
        ⟨_, rfl⟩
      have honCount : on.openCount = hw.openCount := by rw [hon]; split <;> rfl
      have honCpas : on.cpasOn = false := by rw [hon]; split <;> exact hcpasOff
      have honPlatform : on.platformOn = !cdm.isVirtual := by
        rw [hon]
        cases cdm.isVirtual <;> simp [hplatformOff]
      simp only [← hon]
      by_cases hstart : a.cpasStartRc = 0
      · rw [if_neg (not_not_intro hstart)]
        have hinit := firstInit_spec cdm a { on with cpasOn := true }
        revert hinit
        generalize firstInit cdm a { on with cpasOn := true } = m
        obtain ⟨hw', rc⟩ := m
        rintro (⟨hhw, hrc⟩ | ⟨hhw, hrc, hv, hfail⟩)
        · simp only at hhw hrc
          subst hhw hrc
          simp only [if_true]
          refine ⟨⟨?_, ?_⟩, fun _ => ⟨rfl, by rw [honCount]⟩, fun hf => by cases hf⟩
          · simp
          · simp [honPlatform]
        · simp only at hhw hrc
          subst hhw
          simp only [hrc, if_false]
          have hundone : a.cpasStop.rc = 0 ∨ a.cpasStop.on = false := by
            refine hoff hcount ?_
            simp only [hv, Bool.not_false, Bool.true_and, decide_eq_true_eq,
              not_not, ne_eq] at henable
            simp only [initFails, hv, hstart, Bool.not_false, Bool.true_and, decide_true,
              Bool.and_true]
            simp only [hfail, Bool.and_true, decide_eq_true_eq]
            exact henable
          refine ⟨⟨?_, ?_⟩, fun hd => absurd hd Bool.false_ne_true, fun _ => ⟨hrc, honCount⟩⟩
          · have hzero : on.openCount = 0 := honCount.trans hcount
            rcases hundone with hr | hr <;> simp [Hw.stopCpas, hr, hzero]
          · have hzero : on.openCount = 0 := honCount.trans hcount
            simp [Hw.stopCpas, hzero]
      · rw [if_pos hstart]
        refine ⟨?_, fun hd => absurd hd Bool.false_ne_true, fun _ => ⟨hstart, ?_⟩⟩
        · cases hv : cdm.isVirtual with
          | true =>
            rw [hon, hv]
            exact h
          | false =>
            have hzero : on.openCount = 0 := honCount.trans hcount
            exact ⟨by simp [Hw.disablePlatform, honCpas, hzero],
              by simp [Hw.disablePlatform, hzero]⟩
        · rw [← honCount]
          cases cdm.isVirtual <;> rfl
  · rw [if_neg hcount]
    have hpos : 0 < hw.openCount := Nat.pos_of_ne_zero hcount
    refine ⟨⟨?_, ?_⟩, fun _ => ⟨rfl, rfl⟩, fun hf => by cases hf⟩
    · simp [hcpas, hpos]
    · simp [hplatform, hpos]

lemma switchOff_spec {hw : Hw} (h : Powered cdm hw) (hpos : 0 < hw.openCount)
    (hlast : hw.openCount = 1 →
      (cdm.isVirtual = true ∨ a.disableRc = 0) ∧ a.cpasStop.rc = 0) :
    Switched cdm hw (hw.openCount - 1) (switchOff cdm a hw) := by
  have hcpas := h.cpas
  have hplatform := h.platform
  unfold switchOff
  rw [if_pos hpos.ne']
  by_cases hone : hw.openCount - 1 = 0
  · obtain ⟨hdisable, hstop⟩ := hlast (by omega)
    simp only [hone, if_true]
    cases hv : cdm.isVirtual with
    | true =>
      simp only [if_true, ne_eq, not_true_eq_false, if_false]
      refine ⟨⟨?_, ?_⟩, fun _ => ⟨hstop, rfl⟩, fun hf => by cases hf⟩
      · simp [Hw.stopCpas, hstop]
      · simp [Hw.stopCpas, hplatform, hv]
    | false =>
      have hrc : a.disableRc = 0 := hdisable.resolve_left (by simp [hv])
      simp only [Bool.false_eq_true, if_false, hwCdmDeinit, hrc, ne_eq, not_true_eq_false]
      refine ⟨⟨?_, ?_⟩, fun _ => ⟨hstop, rfl⟩, fun hf => by cases hf⟩
      · simp [Hw.stopCpas, Hw.disablePlatform, hstop]
      · simp [Hw.stopCpas, Hw.disablePlatform]
  · simp only [hone, if_false]
    have hleft : 0 < hw.openCount - 1 := Nat.pos_of_ne_zero hone
    refine ⟨⟨?_, ?_⟩, fun _ => ⟨rfl, rfl⟩, fun hf => by cases hf⟩
    · simp [hcpas, hpos, hleft]
    · simp [hplatform, hpos, hleft]

structure Inv (cdm : Cdm) (s : State) : Prop where
  exact : Exact cdm s
  refs : ∀ i c, s.clients i = some c → c.refcount = 1 + s.held i
  alive : ∀ r ∈ s.inFlight, (s.clients r.1).map (·.id) = some r.2

/-- A call keeps the accounts, and changes nothing when it fails. -/
structure Kept (cdm : Cdm) (s : State) (r : State × Int) : Prop where
  inv : Inv cdm r.1
  error : r.2 ≠ 0 → Unchanged s r.1

lemma Unchanged.refl (s : State) : Unchanged s s := ⟨rfl, fun _ => rfl, fun _ => rfl⟩

lemma Kept.refused (h : Inv cdm s) (rc : Int) : Kept cdm s (s, rc) :=
  ⟨h, fun _ => Unchanged.refl s⟩

/-- What a stream call that gets past its checks comes to. -/
def switched (cdm : Cdm) (a : Answers) (operation : Bool) (s : State) : Hw × Bool × Int :=
  if operation then switchOn cdm a s.hw else switchOff cdm a s.hw

lemma streamOps_accepted {hdl : UInt32} {operation : Bool} {c : Client}
    (hc : s.clients (clientIdx hdl) = some c) (hhdl : c.handle = hdl)
    (hon : ¬c.streamOn = operation) :
    streamOps cdm a hdl operation s =
      ({ s with hw := (switched cdm a operation s).1,
                clients := if (switched cdm a operation s).2.1 then
                  modify s.clients (clientIdx hdl) fun c => { c with streamOn := operation }
                else s.clients },
        (switched cdm a operation s).2.2) := by
  obtain ⟨⟨hw, done, rc⟩, hm⟩ : ∃ m, m = switched cdm a operation s := ⟨_, rfl⟩
  have hlocked : (if operation = true then switchOn cdm a (s.getClientRefcount (clientIdx hdl)).hw
      else switchOff cdm a (s.getClientRefcount (clientIdx hdl)).hw) = (hw, done, rc) := hm.symm
  rw [← hm]
  simp only [streamOps, hc, hhdl, ne_eq, not_true_eq_false, if_false, hon, hlocked]
  cases done with
  | true =>
    simp only [if_true, State.getClientRefcount, State.putClientRefcount, modify_modify]
    rfl
  | false =>
    simp only [Bool.false_eq_true, if_false, State.getClientRefcount, State.putClientRefcount,
      modify_modify]
    rw [modify_eq_self (f := Client.put ∘ Client.get) Client.put_get]

lemma streamOps_cases (cdm : Cdm) (a : Answers) (hdl : UInt32) (operation : Bool) (s : State) :
    (∃ rc, rc ≠ 0 ∧ streamOps cdm a hdl operation s = (s, rc)) ∨
      ∃ c, s.clients (clientIdx hdl) = some c ∧ c.handle = hdl ∧ ¬c.streamOn = operation := by
  by_cases hcond : ∃ c, s.clients (clientIdx hdl) = some c ∧ c.handle = hdl ∧
      ¬c.streamOn = operation
  · exact Or.inr hcond
  · left
    cases hc : s.clients (clientIdx hdl) with
    | none => exact ⟨-Errno.EINVAL, by decide, by simp only [streamOps, hc]⟩
    | some c =>
      by_cases hhdl : hdl = c.handle
      · have hon : c.streamOn = operation :=
          not_not.1 fun hon => hcond ⟨c, hc, hhdl.symm, hon⟩
        refine ⟨-Errno.EPERM, by decide, ?_⟩
        simp only [streamOps, hc, hhdl.symm, ne_eq, not_true_eq_false, if_false, hon, if_true,
          put_getClientRefcount]
      · refine ⟨-Errno.EINVAL, by decide, ?_⟩
        simp only [streamOps, hc, ne_eq, hhdl, not_false_eq_true, if_true, put_getClientRefcount]

lemma Inv.update (h : Inv cdm s) {t : State} {v : Option Client}
    (hclients : t.clients = Function.update s.clients i v) (hpowered : Powered cdm t.hw)
    (hcount : t.hw.openCount + (streams (s.clients i)).toNat =
      s.hw.openCount + (streams v).toNat)
    (hfreed : ∀ n ∈ t.freed, n = 0) (hheld : ∀ j, j ≠ i → t.held j = s.held j)
    (hrefs : ∀ c, v = some c → c.refcount = 1 + t.held i)
    (hother : ∀ r ∈ t.inFlight, r.1 ≠ i → r ∈ s.inFlight)
    (hown : ∀ r ∈ t.inFlight, r.1 = i → v.map (·.id) = some r.2) : Inv cdm t := by
  have hsum := streaming_update s.clients i v
  have hopen := h.exact.openCount
  refine ⟨⟨?_, hpowered.cpas, hpowered.platform, hfreed⟩, fun j c hc => ?_, fun r hr => ?_⟩
  · rw [hclients]
    omega
  · rw [hclients] at hc
    by_cases hj : j = i
    · subst hj
      rw [Function.update_self] at hc
      exact hrefs c hc
    · rw [Function.update_of_ne hj] at hc
      rw [hheld j hj]
      exact h.refs j c hc
  · rw [hclients]
    by_cases hj : r.1 = i
    · rw [hj, Function.update_self]
      exact hown r hr hj
    · rw [Function.update_of_ne hj]
      exact h.alive r (hother r hr hj)

lemma Exact.powered (h : Exact cdm s) : Powered cdm s.hw := ⟨h.cpas, h.platform⟩

lemma Inv.setStream (h : Inv cdm s) {c : Client} (hc : s.clients i = some c) (operation : Bool)
    {hw : Hw} (hpowered : Powered cdm hw)
    (hcount : hw.openCount + c.streamOn.toNat = s.hw.openCount + operation.toNat) :
    Inv cdm { s with hw,
                     clients := modify s.clients i fun c => { c with streamOn := operation } } := by
  refine h.update (i := i) (v := some { c with streamOn := operation }) ?_ hpowered ?_
    h.exact.freed (fun _ _ => rfl) ?_ (fun r hr _ => hr) fun r hr hi => ?_
  · rw [modify, hc, Option.map_some]
  · rw [hc]
    exact hcount
  · rintro d ⟨⟩
    exact h.refs i c hc
  · have halive := h.alive r hr
    rw [hi, hc] at halive
    exact halive

lemma streaming_pos (h : Inv cdm s) {hdl : UInt32} (hproceeds : proceeds s hdl false = true) :
    0 < s.hw.openCount := by
  obtain ⟨c, hc, hcond⟩ := (Option.any_eq_true _ _).1 hproceeds
  have hflag : c.streamOn = true := by simpa using (Bool.and_eq_true_iff.1 hcond).2
  rw [h.exact.openCount]
  exact HolderCount.holders_pos (i := clientIdx hdl) (by simp [hc, streams, hflag])

lemma streamOps_kept (h : Inv cdm s) {hdl : UInt32} {operation : Bool}
    (hswitched : proceeds s hdl operation = true →
      Switched cdm s.hw (if operation then s.hw.openCount + 1 else s.hw.openCount - 1)
        (switched cdm a operation s)) :
    Kept cdm s (streamOps cdm a hdl operation s) := by
  rcases streamOps_cases cdm a hdl operation s with ⟨rc, -, heq⟩ | ⟨c, hc, hhdl, hon⟩
  · rw [heq]
    exact .refused h rc
  · rw [streamOps_accepted hc hhdl hon]
    have hspec := hswitched (by simp [proceeds, hc, hhdl, hon])
    revert hspec
    generalize switched cdm a operation s = m
    obtain ⟨hw, done, rc⟩ := m
    intro hspec
    cases done with
    | true =>
      obtain ⟨hrc, hcount⟩ := hspec.done rfl
      refine ⟨h.setStream hc operation hspec.powered ?_, fun he => absurd hrc he⟩
      simp only at hcount
      rw [hcount]
      cases operation with
      | true =>
        have hflag : c.streamOn = false := Bool.eq_false_of_not_eq_true hon
        simp [hflag]
      | false =>
        have hflag : c.streamOn = true := Bool.eq_true_of_not_eq_false hon
        have hproceeds : proceeds s hdl false = true := by simp [proceeds, hc, hhdl, hflag]
        have hpos := streaming_pos h hproceeds
        simp only [hflag, Bool.toNat_true, Bool.toNat_false, Bool.false_eq_true, if_false]
        omega
    | false =>
      obtain ⟨hrc, hcount⟩ := hspec.failed rfl
      simp only [Bool.false_eq_true, if_false]
      simp only at hcount
      have hpowered := hspec.powered
      exact ⟨⟨⟨hcount.trans h.exact.openCount, hpowered.cpas, hpowered.platform, h.exact.freed⟩,
        h.refs, h.alive⟩, fun _ => ⟨hcount, fun _ => rfl, fun _ => rfl⟩⟩

lemma Inv.setRefs (h : Inv cdm s) {c : Client} (hc : s.clients i = some c) {t : State} {n : ℕ}
    (hclients : t.clients = Function.update s.clients i (some { c with refcount := n }))
    (hhw : t.hw = s.hw) (hfreed : t.freed = s.freed) (hn : n = 1 + t.held i)
    (hheld : ∀ j, j ≠ i → t.held j = s.held j)
    (hflight : ∀ r ∈ t.inFlight, r ∈ s.inFlight ∨ r = (i, c.id)) : Inv cdm t := by
  refine h.update hclients (hhw ▸ h.exact.powered) ?_ (hfreed ▸ h.exact.freed) hheld ?_ ?_ ?_
  · rw [hc, hhw]
    rfl
  · rintro d ⟨⟩
    exact hn
  · intro r hr hne
    exact (hflight r hr).resolve_right fun heq => hne (heq ▸ rfl)
  · intro r hr hi
    rcases hflight r hr with hold | rfl
    · have halive := h.alive r hold
      rw [hi, hc] at halive
      exact halive
    · rfl

lemma acquire_kept (h : Inv cdm s) (noMem noOps callback : Bool) :
    Kept cdm s (acquire cdm noMem noOps callback s) := by
  unfold acquire
  split
  case h_1 => exact .refused h _
  case h_2 i hi =>
    have hfree : s.clients i = none := by
      simpa using List.find?_some (p := fun i => (s.clients i).isNone) hi
    have hnone : ∀ r ∈ s.inFlight, r.1 ≠ i := fun r hr heq => by
      have halive := h.alive r hr
      rw [heq, hfree] at halive
      cases halive
    have hheld : s.held i = 0 := by
      refine List.countP_eq_zero.2 fun r hr => ?_
      simpa using hnone r hr
    split
    · exact .refused h _
    · split
      · exact .refused h _
      · refine ⟨h.update rfl h.exact.powered ?_ h.exact.freed (fun _ _ => rfl) ?_
          (fun r hr _ => hr) fun r hr heq => absurd heq (hnone r hr), fun hrc => absurd rfl hrc⟩
        · rw [hfree]
          rfl
        · rintro c ⟨⟩
          exact congrArg (1 + ·) hheld.symm

lemma submitBegin_kept (h : Inv cdm s) (hdl : UInt32) (typeOk : Bool) (flag : Int) :
    Kept cdm s (submitBegin hdl typeOk flag s) := by
  cases typeOk with
  | false => exact .refused h _
  | true =>
    cases hc : s.clients (clientIdx hdl) with
    | none =>
      simp only [submitBegin, hc]
      exact .refused h _
    | some c =>
      simp only [submitBegin, hc, put_getClientRefcount, Bool.not_true, Bool.false_eq_true, if_false]
      split
      · exact .refused h _
      · split
        · exact .refused h _
        · split
          · exact .refused h _
          · refine ⟨h.setRefs hc (n := c.refcount + 1) ?_ rfl rfl ?_ ?_ ?_,
              fun hrc => absurd rfl hrc⟩
            · simp only [State.getClientRefcount, modify, hc, Option.map_some]
              rfl
            · have hrefs := h.refs _ c hc
              simp only [State.held, List.countP_append, List.countP_singleton, decide_true,
                if_true, State.getClientRefcount] at hrefs ⊢
              omega
            · intro j hj
              simp [State.held, State.getClientRefcount, Ne.symm hj]
            · intro r hr
              exact (List.mem_append.1 hr).imp id List.mem_singleton.1

lemma submitEnd_kept (h : Inv cdm s) (k : ℕ) (rc : Int) : Kept cdm s (submitEnd k rc s) := by
  unfold submitEnd
  cases hk : s.inFlight[k]? with
  | none => exact .refused h _
  | some r =>
    obtain ⟨i, id⟩ := r
    obtain ⟨hlt, hget⟩ := List.getElem?_eq_some_iff.1 hk
    have hperm : ((i, id) :: s.inFlight.eraseIdx k).Perm s.inFlight := by
      rw [← hget]
      exact List.getElem_cons_eraseIdx_perm hlt
    have halive : (s.clients i).map (·.id) = some id := h.alive (i, id) (hperm.subset List.mem_cons_self)
    obtain ⟨c, hc, hid⟩ := Option.map_eq_some_iff.1 halive
    have hcount : ∀ j, s.held j =
        (if i = j then 1 else 0) + (s.inFlight.eraseIdx k).countP fun r => r.1 = j := fun j => by
      rw [State.held, ← hperm.countP_eq, List.countP_cons, Nat.add_comm]
      simp
    have hput : (State.putClientRefcount { s with inFlight := s.inFlight.eraseIdx k } i).clients =
        Function.update s.clients i (some { c with refcount := c.refcount - 1 }) := by
      simp only [State.putClientRefcount, modify, hc, Option.map_some]
      rfl
    simp only [halive, if_true]
    have hrefs := h.refs i c hc
    have hi := hcount i
    simp only [if_true] at hi
    refine ⟨h.setRefs hc hput rfl rfl ?_ ?_ ?_, fun _ => ⟨rfl, fun j => ?_, fun j => ?_⟩⟩
    · simp only [State.held, State.putClientRefcount] at hi hrefs ⊢
      omega
    · intro j hj
      have hj' := hcount j
      rw [if_neg (Ne.symm hj), Nat.zero_add] at hj'
      exact hj'.symm
    · exact fun r hr => Or.inl (hperm.subset (List.mem_cons_of_mem _ hr))
    · rw [hput]
      by_cases hj : j = i
      · subst hj
        rw [Function.update_self, hc]
        rfl
      · rw [Function.update_of_ne hj]
    · unfold State.own
      rw [hput]
      by_cases hj : j = i
      · subst hj
        rw [Function.update_self, hc]
        simp only [Option.map_some, Option.some.injEq, State.held, State.putClientRefcount]
          at hi hrefs ⊢
        omega
      · have hj' := hcount j
        rw [if_neg (Ne.symm hj), Nat.zero_add] at hj'
        rw [Function.update_of_ne hj, hj']
        rfl

lemma release_kept (h : Inv cdm s) {hdl : UInt32}
    (hfree : switchesOff cdm s (.release hdl) = true) : Kept cdm s (release hdl s) := by
  cases hc : s.clients (clientIdx hdl) with
  | none =>
    simp only [release, hc]
    exact .refused h _
  | some c =>
    simp only [release, hc]
    by_cases hhdl : hdl = c.handle
    · subst hhdl
      simp only [switchesOff, hc, Option.all_some, bne_self_eq_false, Bool.false_or,
        Bool.and_eq_true, Bool.not_eq_true', decide_eq_true_eq] at hfree
      obtain ⟨hoff, hheld⟩ := hfree
      have hrefs := h.refs _ c hc
      have hput : c.put.refcount = 0 := by
        simp only [Client.put]
        omega
      have hnone : ∀ r ∈ s.inFlight, r.1 ≠ clientIdx c.handle := fun r hr heq =>
        absurd (decide_eq_true heq) (List.countP_eq_zero.1 hheld r hr)
      simp only [ne_eq, not_true_eq_false, if_false, hput]
      refine ⟨h.update (i := clientIdx c.handle) (v := none) ?_ h.exact.powered ?_ ?_
        (fun _ _ => rfl) (by simp) (fun r hr _ => hr) fun r hr heq => absurd heq (hnone r hr),
        fun hrc => absurd rfl hrc⟩
      · simp only [State.putClientRefcount, modify, Function.update_idem]
      · rw [hc]
        simp [streams, hoff, State.putClientRefcount]
      · intro n hn
        rcases List.mem_append.1 hn with hn | hn
        · exact h.exact.freed n hn
        · rw [List.mem_singleton.1 hn]
          refine List.countP_eq_zero.2 fun r hr hcond => ?_
          rw [decide_eq_true_eq] at hcond
          exact hnone r hr (congrArg Prod.fst hcond)
    · simp only [ne_eq, hhdl, not_false_eq_true, if_true]
      exact .refused h _

lemma streamOn_kept (h : Inv cdm s) {hdl : UInt32}
    (hok : switchesOff cdm s (.streamOn hdl a) = true) : Kept cdm s (streamOps cdm a hdl true s) := by
  refine streamOps_kept h fun hproceeds => switchOn_spec h.exact.powered fun hzero hfails => ?_
  simpa [switchesOff, hproceeds, hzero, hfails] using hok

lemma streamOff_kept (h : Inv cdm s) {hdl : UInt32}
    (hok : switchesOff cdm s (.streamOff hdl a) = true) :
    Kept cdm s (streamOps cdm a hdl false s) := by
  refine streamOps_kept h fun hproceeds =>
    switchOff_spec h.exact.powered (streaming_pos h hproceeds) fun hone => ?_
  simpa [switchesOff, hproceeds, hone] using hok

lemma call_kept (h : Inv cdm s) {op : Op} (hop : switchesOff cdm s op = true) :
    Kept cdm s (call cdm s op) := by
  cases op with
  | acquire noMem noOps callback => exact acquire_kept h noMem noOps callback
  | streamOn hdl a => exact streamOn_kept h hop
  | streamOff hdl a => exact streamOff_kept h hop
  | submitBegin hdl typeOk flag => exact submitBegin_kept h hdl typeOk flag
  | submitEnd k rc => exact submitEnd_kept h k rc
  | release hdl => exact release_kept h hop

lemma init_inv (cdm : Cdm) : Inv cdm init := by
  refine ⟨⟨?_, rfl, ?_, by simp [init]⟩, by simp [init], by simp [init]⟩
  · exact (HolderCount.holders_eq_zero fun _ => rfl).symm
  · simp [init]

/-- After each call of a run the accounts are exact, and a call that fails changed nothing. -/
theorem stream_accounting_exact {ops : List Op} {op : Op}
    (h : Transition.Guarded (step cdm) (fun s op => switchesOff cdm s op = true) init
      (ops ++ [op])) :
    Exact cdm (call cdm (Transition.run (step cdm) init ops) op).1 ∧
      ((call cdm (Transition.run (step cdm) init ops) op).2 ≠ 0 →
        Unchanged (Transition.run (step cdm) init ops)
          (call cdm (Transition.run (step cdm) init ops) op).1) := by
  obtain ⟨hops, hop, -⟩ := Transition.guarded_append.1 h
  have hstep : ∀ s op, Inv cdm s → switchesOff cdm s op = true → Inv cdm (step cdm s op) :=
    fun s op hs hok => (call_kept hs hok).inv
  have hinv := Transition.run_invariant hstep (init_inv cdm) hops
  have hkept := call_kept hinv hop
  exact ⟨hkept.inv.exact, hkept.error⟩

def allGood : Answers := ⟨0, 0, false, false, 1, 0, 0, ⟨0, false⟩⟩

theorem stream_accounting_exact_one_client :
    Exact ⟨1, false⟩ (call ⟨1, false⟩ (Transition.run (step ⟨1, false⟩) init
      [.acquire false false true, .streamOn 32 allGood, .submitBegin 32 true 1, .submitEnd 0 0])
        (.streamOff 32 allGood)).1 :=
  (stream_accounting_exact (by decide +kernel)).1

/-- The last stream-off fails to disable the platform: the count is gone, the flag is not. -/
theorem failed_stream_off_counted :
    ¬ ∀ (cdm : Cdm) (ops : List Op) (op : Op),
      Exact cdm (call cdm (Transition.run (step cdm) init ops) op).1 ∧
        ((call cdm (Transition.run (step cdm) init ops) op).2 ≠ 0 →
          Unchanged (Transition.run (step cdm) init ops)
            (call cdm (Transition.run (step cdm) init ops) op).1) := by
  intro h
  have hcount := ((h ⟨1, false⟩ [.acquire false false true, .streamOn 32 allGood]
    (.streamOff 32 { allGood with disableRc := -22 })).2 (by decide +kernel)).openCount
  exact absurd hcount (by decide +kernel)

end CameraKernel.CdmStream
