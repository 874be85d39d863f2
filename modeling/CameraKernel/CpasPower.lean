import CameraKernel.CpasVotes

/-! The power state of CPAS over its calls. A call reports its code, the level it enables the
clocks at and whether it reads the record of a client that is not there. -/
namespace CameraKernel.Cpas
open Finset

variable (soc : Soc)

inductive HwState
  | powerDown
  | powerUp
  deriving DecidableEq, Repr

structure Hw where
  core : Core
  hwState : HwState

/-- `enabledAt` is the level that `cam_cpas_soc_enable_resources` is asked for. -/
structure Outcome where
  rc : ℤ
  hw : Hw
  enabledAt : Option ℕ := none
  absentRead : Bool := false

/-- A level that no AHB vote sets is SVS. -/
def hwStart (s : Hw) (i : ℕ) (ahb : AhbVote) (axi : AxiVote) (f : Codes) : Outcome :=
  if ahb.level = 0 ∨ (axi.compressedBw = 0 ∧ axi.uncompressedBw = 0) then { rc := -Errno.EINVAL, hw := s }
  else if maxClients ≤ i then { rc := -Errno.EINVAL, hw := s }
  else
    match s.core.client i with
    | none => { rc := -Errno.EPERM, hw := s }
    | some c =>
      if c.started then { rc := -Errno.EPERM, hw := s }
      else
        match applyClientAhbVote soc s.core i c ahb f with
        | (rc, applied, core) =>
          let level := applied.getD svsVote
          if rc ≠ 0 then { rc := rc, hw := { s with core := core } }
          else
            match core.client i with
            | none => { rc := -Errno.EPERM, hw := { s with core := core } }
            | some c =>
              match applyClientAxiVote soc core i c axi f with
              | (rc, core) =>
                if rc ≠ 0 then { rc := rc, hw := { s with core := core } }
                else
                  match core.client i with
                  | none => { rc := -Errno.EPERM, hw := { s with core := core } }
                  | some c =>
                    if core.streamonClients = 0 then
                      if f.enable ≠ 0 then
                        { rc := f.enable, hw := { s with core := core }, enabledAt := some level }
                      else if f.powerOn ≠ 0 then
                        { rc := f.powerOn, hw := { s with core := core }, enabledAt := some level }
                      else
                        { rc := 0, hw := ⟨core.markStarted i c, .powerUp⟩, enabledAt := some level }
                    else { rc := 0, hw := { s with core := core.markStarted i c } }

/-- The two votes at the end of a stop. -/
def withdrawVotes (core : Core) (i : ℕ) (c : Client) (f : Codes) : ℤ × Core :=
  match applyClientAhbVote soc core i c ⟨false, UInt64.ofNat suspendVote⟩ f with
  | (rc, _, core) =>
    if rc ≠ 0 then (rc, core)
    else
      match core.client i with
      | none => (-Errno.EPERM, core)
      | some c => applyClientAxiVote soc core i c ⟨0, 0, 0⟩ f

/-- The record is logged before it is looked at. -/
def hwStop (s : Hw) (i : ℕ) (f : Codes) : Outcome :=
  if maxClients ≤ i then { rc := -Errno.EINVAL, hw := s }
  else
    match s.core.client i with
    | none => { rc := -Errno.EPERM, hw := s, absentRead := true }
    | some c =>
      if c.started then
        let core := s.core.markStopped i c
        if core.streamonClients = 0 then
          if f.disableIrq ≠ 0 then { rc := f.disableIrq, hw := { s with core := core } }
          else if f.disable ≠ 0 then { rc := f.disable, hw := { s with core := core } }
          else
            let out := withdrawVotes soc core i { c with started := false } f
            { rc := out.1, hw := ⟨out.2, .powerDown⟩ }
        else
          let out := withdrawVotes soc core i { c with started := false } f
          { rc := out.1, hw := { s with core := out.2 } }
      else { rc := -Errno.EPERM, hw := s }

/-- A call that logs the client's record when it refuses it. -/
def logged (s : Hw) (i : ℕ) (out : ℤ × Core) : Outcome :=
  if maxClients ≤ i then { rc := -Errno.EINVAL, hw := s }
  else { rc := out.1, hw := { s with core := out.2 }, absentRead := (s.core.client i).isNone }

/-- `cam_cpas_hw_reg_write` and `cam_cpas_hw_reg_read`: both look at the client only once the register
base is found. -/
def hwRegAccess (s : Hw) (i : ℕ) (base : Bool) : Outcome :=
  if base = false then { rc := -Errno.EINVAL, hw := s }
  else
    logged s i (match s.core.client i with
      | none => (-Errno.EPERM, s.core)
      | some c => if c.started then (0, s.core) else (-Errno.EPERM, s.core))

inductive HwOp
  | call (op : Op)
  | regAccess (i : ℕ) (base : Bool)
  deriving DecidableEq, Repr

def hwCall (s : Hw) : HwOp → Outcome
  | .call (.register i alloc) =>
    let out := registerClient soc s.core i alloc
    { rc := out.1, hw := { s with core := out.2 } }
  | .call (.unregister i) => logged s i (unregisterClient s.core i)
  | .call (.start i ahb axi f) => hwStart soc s i ahb axi f
  | .call (.updateAhb i v f) => logged s i (updateAhbVote soc s.core i v f)
  | .call (.updateAxi i v f) => logged s i (updateAxiVote soc s.core i v f)
  | .call (.stop i f) => hwStop soc s i f
  | .regAccess i base => hwRegAccess s i base

def hwStep (s : Hw) (op : HwOp) : Hw := (hwCall soc s op).hw

def hwInit : Hw := ⟨init, .powerDown⟩

/-- The client that a call names by its handle. -/
def HwOp.handle : HwOp → Option ℕ
  | .call (.register _ _) => none
  | .call (.unregister i) | .call (.start i _ _ _) | .call (.updateAhb i _ _) | .call (.updateAxi i _ _)
  | .call (.stop i _) => some i
  | .regAccess i _ => some i

def isStarted (s : Core) (i : ℕ) : Bool := (s.client i).any Client.started

def startedClients (s : Core) : ℕ := ((range maxClients).filter fun i => isStarted s i = true).card

structure PowerSound (s : Hw) : Prop where
  count : s.core.streamonClients = startedClients s.core
  power : s.hwState = .powerUp ↔ 0 < startedClients s.core

def recorded (s : Core) (i : ℕ) : Option (ℕ × AxiVote) := (s.client i).map fun c => (c.ahbLevel, c.axiVote)

/-- A start that fails leaves the votes and the count, and one that enables the clocks asks for the
level of its vote. -/
structure StartSound (s : Hw) (i : ℕ) (ahb : AhbVote) (o : Outcome) : Prop where
  failed : o.rc ≠ 0 → recorded o.hw.core i = recorded s.core i ∧
    o.hw.core.streamonClients = s.core.streamonClients
  enabled : o.rc = 0 → s.core.streamonClients = 0 → o.enabledAt = requiredLevel soc i ahb

structure CallSound (s : Hw) (op : HwOp) : Prop where
  power : PowerSound (hwStep soc s op)
  start : ∀ i ahb axi f, op = .call (.start i ahb axi f) → StartSound soc s i ahb (hwCall soc s op)
  absent : ∀ i, op.handle = some i → s.core.client i = none →
    (hwCall soc s op).rc ≠ 0 ∧ (hwCall soc s op).absentRead = false

def ahbPasses (s : Core) (i : ℕ) (c : Client) (required : ℕ) (f : Codes) : Bool :=
  ahbAccepted soc s i c required f && clkFollows s c required f

def axiPasses (c : Client) (v : AxiVote) (f : Codes) : Bool :=
  c.axiPort.isSome && (c.axiVote = normalise v || (axiAccepted soc c v f && setCamnocAxiClkRate soc f = 0))

/-- Every primitive of the start succeeds. -/
def startPasses (s : Core) (i : ℕ) (c : Client) (required : ℕ) (axi : AxiVote) (f : Codes) : Bool :=
  ahbPasses soc s i c required f && axiPasses soc c axi f && powerUp s f = 0

/-- A level that is on record or on the bus already is not applied again, and only SVS needs no
applying. Otherwise no other client may ask for more. -/
def levelReached (s : Core) (i : ℕ) (c : Client) (required : ℕ) : Bool :=
  if c.ahbLevel = required ∨ required = s.ahbLevel then required = svsVote
  else (List.range soc.numClients).all fun j => j = i || level s j ≤ required

/-- The votes are on record already, as far as the start comes to record them. -/
def recordsNothing (c : Client) (required : ℕ) (axi : AxiVote) : Bool :=
  c.ahbLevel = required && (c.axiPort.isNone || c.axiVote = normalise axi)

/-- The start does not come to its votes. -/
def startRefused (s : Core) (i : ℕ) (ahb : AhbVote) (axi : AxiVote) : Bool :=
  ahb.level = 0 || (axi.compressedBw = 0 && axi.uncompressedBw = 0) || maxClients ≤ i ||
    !(s.client i).any (fun c => !c.started) || (requiredLevel soc i ahb).isNone

/-- A start that has recorded a vote goes through, and one that turns the power on applies its
level; the last stop turns the power off; and only a start names a client that is not there. -/
def callSafe (s : Core) : HwOp → Bool
  | .call (.register _ _) => true
  | .call (.start i ahb axi f) =>
    match s.client i, requiredLevel soc i ahb with
    | some c, some required =>
      startRefused soc s i ahb axi ||
        if startPasses soc s i c required axi f then s.streamonClients ≠ 0 || levelReached soc s i c required
        else recordsNothing c required axi
    | _, _ => true
  | .call (.stop i f) =>
    maxClients ≤ i || match s.client i with
      | none => false
      | some c => !c.started || s.streamonClients ≠ 1 || (f.disableIrq = 0 && f.disable = 0)
  | .call (.unregister i) | .call (.updateAhb i _ _) | .call (.updateAxi i _ _) =>
    maxClients ≤ i || (s.client i).isSome
  | .regAccess i base => !base || maxClients ≤ i || (s.client i).isSome

variable {soc : Soc} {s t : Core} {i j : ℕ} {c c' : Client} {f : Codes}

variable (soc) in
lemma highestLevel_le_iff (s : Core) (i : ℕ) (c : Client) (required : ℕ) :
    highestLevel soc (s.setClient i (some { c with ahbLevel := required })) required = required ↔
      ((List.range soc.numClients).all fun j => j = i || level s j ≤ required) = true := by
  rw [highestLevel_eq, max_eq_left_iff, Finset.sup_le_iff, List.all_eq_true]
  simp only [List.mem_range, Finset.mem_range, level_update]
  refine forall₂_congr fun j _ => ?_
  by_cases hj : j = i
  · simp [hj]
  · simp [hj]

variable (soc) in
lemma voteBusClientLevel_frame (s : Core) (level : ℕ) (rc : ℤ) :
    (voteBusClientLevel soc s level rc).2.client = s.client ∧
      (voteBusClientLevel soc s level rc).2.streamonClients = s.streamonClients ∧
      ((voteBusClientLevel soc s level rc).1 = 0 ↔
        soc.ahbDynVote = false ∧ level < soc.ahbNumUsecases ∧ (level = s.ahbLevel ∨ rc = 0)) := by
  have hE : -Errno.EINVAL ≠ 0 := by decide
  unfold voteBusClientLevel
  split_ifs with hdyn hrange hsame hrc
  · exact ⟨rfl, rfl, by simp [hE, hdyn]⟩
  · exact ⟨rfl, rfl, by simp [hE, Nat.not_lt.mpr hrange]⟩
  · exact ⟨rfl, rfl, fun _ => ⟨by simpa using hdyn, Nat.lt_of_not_le hrange, .inl hsame⟩, fun _ => rfl⟩
  · exact ⟨rfl, rfl, by simp [hsame, hrc]⟩
  · rw [not_not] at hrc
    exact ⟨rfl, rfl, by simp [hdyn, Nat.lt_of_not_le hrange, hrc]⟩

lemma applyClientAhbVote_recorded (hc : s.client i = some c) {v : AhbVote} {required : ℕ}
    (hreq : requiredLevel soc i v = some required) :
    (applyClientAhbVote soc s i c v f).2.2.client =
        Function.update s.client i (some { c with ahbLevel := required }) ∧
      (applyClientAhbVote soc s i c v f).2.2.streamonClients = s.streamonClients ∧
      ((applyClientAhbVote soc s i c v f).1 = 0 ↔ ahbPasses soc s i c required f = true) ∧
      ((applyClientAhbVote soc s i c v f).1 = 0 →
        ((applyClientAhbVote soc s i c v f).2.1.getD svsVote = required ↔
          levelReached soc s i c required = true)) := by
  simp only [applyClientAhbVote, hreq]
  by_cases hsame : c.ahbLevel = required
  · rw [if_pos hsame]
    subst hsame
    refine ⟨by rw [← hc, Function.update_eq_self], rfl, by simp [ahbPasses, ahbAccepted, clkFollows], ?_⟩
    simp [levelReached, eq_comm]
  rw [if_neg hsame]
  by_cases hcurr : required = s.ahbLevel
  · rw [if_pos (show required = (s.setClient i (some { c with ahbLevel := required })).ahbLevel from hcurr)]
    refine ⟨rfl, rfl, by simp [ahbPasses, ahbAccepted, clkFollows, hcurr], ?_⟩
    simp [levelReached, hcurr, eq_comm]
  rw [if_neg (show ¬required = (s.setClient i (some { c with ahbLevel := required })).ahbLevel from hcurr)]
  have hlevel := highestLevel_le_iff soc s i c required
  obtain ⟨hclient, hstream, hcode⟩ := voteBusClientLevel_frame soc
    (s.setClient i (some { c with ahbLevel := required }))
    (highestLevel soc (s.setClient i (some { c with ahbLevel := required })) required) f.ahbBus
  have hpass : ahbPasses soc s i c required f = true ↔
      (voteBusClientLevel soc (s.setClient i (some { c with ahbLevel := required }))
        (highestLevel soc (s.setClient i (some { c with ahbLevel := required })) required) f.ahbBus).1 = 0 ∧
      f.clkRate = 0 := by
    rw [hcode]
    simp [ahbPasses, ahbAccepted, clkFollows, hsame, hcurr, and_assoc]
  rw [hpass]
  revert hclient hstream
  generalize hout : voteBusClientLevel soc (s.setClient i (some { c with ahbLevel := required }))
    (highestLevel soc (s.setClient i (some { c with ahbLevel := required })) required) f.ahbBus = out
  obtain ⟨rc, core⟩ := out
  intro hclient hstream
  dsimp only at hclient hstream ⊢
  split_ifs with hrc hclk
  · exact ⟨hclient, hstream, by simp [hrc], fun h => absurd h hrc⟩
  · exact ⟨hclient, hstream, by simp [hclk], fun h => absurd h hclk⟩
  · rw [not_not] at hrc hclk
    refine ⟨hclient, hstream, by simp [hrc, hclk], fun _ => ?_⟩
    rw [levelReached, if_neg (not_or.mpr ⟨hsame, hcurr⟩)]
    exact hlevel

variable (soc) in
lemma applyClientAxiVote_recorded (hc : s.client i = some c) (v : AxiVote) :
    (∃ v', (applyClientAxiVote soc s i c v f).2.client = Function.update s.client i (some { c with axiVote := v' }) ∧
        (v' = c.axiVote ↔ c.axiPort = none ∨ c.axiVote = normalise v)) ∧
      (applyClientAxiVote soc s i c v f).2.streamonClients = s.streamonClients ∧
      ((applyClientAxiVote soc s i c v f).1 = 0 ↔ axiPasses soc c v f = true) := by
  have hE : -Errno.EINVAL ≠ 0 := by decide
  unfold applyClientAxiVote
  split
  · next hport => exact ⟨⟨c.axiVote, by rw [← hc, Function.update_eq_self], by simp [hport]⟩, rfl, by
      simp [axiPasses, hport, hE]⟩
  · next p hport =>
    dsimp only
    by_cases hsame : c.axiVote = normalise v
    · rw [if_pos hsame]
      exact ⟨⟨c.axiVote, by rw [← hc, Function.update_eq_self], by simp [hsame]⟩, rfl, by
        simp [axiPasses, hport, hsame]⟩
    · rw [if_neg hsame]
      have hvote : normalise v = c.axiVote ↔ c.axiPort = none ∨ c.axiVote = normalise v := by
        simp [hport, eq_comm]
      have hpass : axiPasses soc c v f = true ↔ f.mnocBus = 0 ∧
          (soc.axiCamnocBased = false ∨ f.camnocBus = 0) ∧ setCamnocAxiClkRate soc f = 0 := by
        simp [axiPasses, axiAccepted, hport, hsame, and_assoc]
      rw [hpass]
      split_ifs with hmnoc hbased hcamnoc
      · exact ⟨⟨normalise v, rfl, hvote⟩, rfl, by simp [hmnoc]⟩
      · exact ⟨⟨normalise v, rfl, hvote⟩, rfl, by simp [hbased, hcamnoc]⟩
      · exact ⟨⟨normalise v, rfl, hvote⟩, rfl, by simp_all⟩
      · exact ⟨⟨normalise v, rfl, hvote⟩, rfl, by simp_all⟩

/-- Only votes, and records that are not started, differ. -/
structure SameStarted (s t : Core) : Prop where
  started : ∀ j, isStarted t j = isStarted s j
  count : t.streamonClients = s.streamonClients

lemma SameStarted.refl (s : Core) : SameStarted s s := ⟨fun _ => rfl, rfl⟩

lemma SameStarted.trans {u : Core} (h : SameStarted s t) (g : SameStarted t u) : SameStarted s u :=
  ⟨fun j => (g.started j).trans (h.started j), g.count.trans h.count⟩

lemma SameStarted.of_update (hc : s.client i = some c)
    (hclient : t.client = Function.update s.client i (some c')) (hstarted : c'.started = c.started)
    (hcount : t.streamonClients = s.streamonClients) : SameStarted s t := by
  refine ⟨fun j => ?_, hcount⟩
  unfold isStarted
  rw [hclient]
  by_cases hj : j = i
  · rw [hj, Function.update_self, hc]
    exact hstarted
  · rw [Function.update_of_ne hj]

lemma SameStarted.startedClients (h : SameStarted s t) : startedClients t = startedClients s := by
  unfold Cpas.startedClients
  simp only [h.started]

lemma SameStarted.powerSound (h : SameStarted s t) {st : HwState} (hs : PowerSound ⟨s, st⟩) :
    PowerSound ⟨t, st⟩ := by
  refine ⟨?_, ?_⟩
  · rw [h.startedClients]
    exact h.count.trans hs.count
  · rw [h.startedClients]
    exact hs.power

lemma startedClients_markStarted (hi : i < maxClients) (hc : s.client i = some c)
    (hidle : c.started = false) : startedClients (s.markStarted i c) = startedClients s + 1 := by
  have hfilter : ((range maxClients).filter fun j => isStarted (s.markStarted i c) j = true) =
      insert i ((range maxClients).filter fun j => isStarted s j = true) := by
    ext j
    rw [Finset.mem_filter, Finset.mem_insert, Finset.mem_filter]
    simp only [isStarted, Core.markStarted, setClient_client]
    by_cases hj : j = i
    · simp [hj, hi]
    · simp [hj]
  unfold startedClients
  rw [hfilter, Finset.card_insert_of_notMem]
  rw [Finset.mem_filter]
  simp [isStarted, hc, hidle]

lemma startedClients_markStopped (hi : i < maxClients) (hc : s.client i = some c)
    (hrun : c.started = true) : startedClients (s.markStopped i c) + 1 = startedClients s := by
  have hmem : i ∈ (range maxClients).filter fun j => isStarted s j = true := by
    rw [Finset.mem_filter]
    simp [isStarted, hc, hrun, hi]
  have hfilter : ((range maxClients).filter fun j => isStarted (s.markStopped i c) j = true) =
      ((range maxClients).filter fun j => isStarted s j = true).erase i := by
    ext j
    rw [Finset.mem_filter, Finset.mem_erase, Finset.mem_filter]
    simp only [isStarted, Core.markStopped, setClient_client]
    by_cases hj : j = i
    · simp [hj]
    · simp [hj]
  unfold startedClients
  rw [hfilter, Finset.card_erase_add_one hmem]

lemma startedClients_le (s : Core) : startedClients s ≤ maxClients := by
  refine (card_filter_le _ _).trans ?_
  rw [card_range]

lemma hwStart_refused {s : Hw} {ahb : AhbVote} {axi : AxiVote}
    (h : startRefused soc s.core i ahb axi = true) :
    (hwStart soc s i ahb axi f).rc ≠ 0 ∧ (hwStart soc s i ahb axi f).hw = s ∧
      (hwStart soc s i ahb axi f).absentRead = false := by
  have hI : -Errno.EINVAL ≠ 0 := by decide
  have hP : -Errno.EPERM ≠ 0 := by decide
  unfold hwStart
  by_cases hvote : ahb.level = 0 ∨ (axi.compressedBw = 0 ∧ axi.uncompressedBw = 0)
  · rw [if_pos hvote]
    exact ⟨hI, rfl, rfl⟩
  rw [if_neg hvote]
  by_cases hvalid : maxClients ≤ i
  · rw [if_pos hvalid]
    exact ⟨hI, rfl, rfl⟩
  rw [if_neg hvalid]
  cases hc : s.core.client i with
  | none => exact ⟨hP, rfl, rfl⟩
  | some c =>
    dsimp only
    by_cases hrun : c.started = true
    · rw [if_pos hrun]
      exact ⟨hP, rfl, rfl⟩
    · rw [if_neg hrun]
      have hreq : requiredLevel soc i ahb = none := by
        obtain ⟨hlevel, hbw⟩ := not_or.mp hvote
        have hbw' : ¬(decide (axi.compressedBw = 0) && decide (axi.uncompressedBw = 0)) = true := by
          simpa using hbw
        simpa [startRefused, hlevel, Bool.eq_false_iff.mpr hbw', hvalid, hc, hrun] using h
      simp [applyClientAhbVote, hreq, hI]

/-- What a start that comes to its votes does. -/
structure StartVoted (soc : Soc) (s : Hw) (i : ℕ) (c : Client) (required : ℕ) (axi : AxiVote) (f : Codes)
    (o : Outcome) : Prop where
  present : o.absentRead = false
  passed : startPasses soc s.core i c required axi f = true → o.rc = 0 ∧
    (∃ core d, SameStarted s.core core ∧ core.client i = some d ∧ o.hw =
      ⟨core.markStarted i d, if s.core.streamonClients = 0 then .powerUp else s.hwState⟩) ∧
    (s.core.streamonClients = 0 → (o.enabledAt = some required ↔ levelReached soc s.core i c required = true))
  failed : ¬startPasses soc s.core i c required axi f = true → o.rc ≠ 0 ∧ SameStarted s.core o.hw.core ∧
    o.hw.hwState = s.hwState ∧
    (recorded o.hw.core i = recorded s.core i ↔ recordsNothing c required axi = true)

lemma hwStart_voted {s : Hw} {ahb : AhbVote} {axi : AxiVote} {required : ℕ}
    (h : startRefused soc s.core i ahb axi = false) (hc : s.core.client i = some c)
    (hreq : requiredLevel soc i ahb = some required) :
    StartVoted soc s i c required axi f (hwStart soc s i ahb axi f) := by
  simp only [startRefused, hc, hreq, Option.any_some, Option.isNone_some, Bool.or_false, Bool.or_eq_false_iff,
    decide_eq_false_iff_not, Bool.not_not] at h
  obtain ⟨⟨⟨hlevel, hbw⟩, hvalid⟩, hidle⟩ := h
  have hvote : ¬(ahb.level = 0 ∨ (axi.compressedBw = 0 ∧ axi.uncompressedBw = 0)) := by
    simp_all
  obtain ⟨hclient, hcount, hcode, happlied⟩ := applyClientAhbVote_recorded (f := f) hc hreq
  unfold hwStart
  rw [if_neg hvote, if_neg hvalid, hc]
  dsimp only
  rw [if_neg (by simp [hidle])]
  revert hclient hcount hcode happlied
  generalize applyClientAhbVote soc s.core i c ahb f = out
  obtain ⟨rc, applied, core⟩ := out
  intro hclient hcount hcode happlied
  dsimp only at hclient hcount hcode happlied ⊢
  have hsame : SameStarted s.core core := .of_update hc hclient rfl hcount
  by_cases hrc : rc = 0
  · rw [if_neg (not_not.mpr hrc)]
    have hc' : core.client i = some { c with ahbLevel := required } := by
      rw [hclient, Function.update_self]
    rw [hc']
    obtain ⟨⟨v, hclient', hv⟩, hcount', hcode'⟩ := applyClientAxiVote_recorded soc (f := f) hc' axi
    have hahb : ahbPasses soc s.core i c required f = true := hcode.mp hrc
    dsimp only
    revert hclient' hcount' hcode'
    generalize applyClientAxiVote soc core i { c with ahbLevel := required } axi f = out'
    obtain ⟨rc', core'⟩ := out'
    intro hclient' hcount' hcode'
    dsimp only at hclient' hcount' hcode' ⊢
    have hsame' : SameStarted s.core core' := hsame.trans (.of_update hc' hclient' rfl hcount')
    have hpass : startPasses soc s.core i c required axi f = true ↔ rc' = 0 ∧ powerUp s.core f = 0 := by
      have haxi : axiPasses soc { c with ahbLevel := required } axi f = axiPasses soc c axi f := rfl
      rw [hcode', haxi, startPasses, hahb, Bool.true_and, Bool.and_eq_true, decide_eq_true_iff]
    have hc'' : core'.client i = some { c with ahbLevel := required, axiVote := v } := by
      rw [hclient', Function.update_self]
    have hrec : recorded core' i = recorded s.core i ↔ recordsNothing c required axi = true := by
      rw [recorded, recorded, hc'', hc]
      have hiff : v = c.axiVote ↔ c.axiPort = none ∨ c.axiVote = normalise axi := hv
      simp [recordsNothing, hiff, eq_comm (a := required)]
    have hcnt : core'.streamonClients = s.core.streamonClients := hcount'.trans hcount
    have hlevel' := happlied hrc
    by_cases hrc' : rc' = 0
    · rw [if_neg (not_not.mpr hrc'), hc'']
      dsimp only
      rw [hcnt]
      by_cases hzero : s.core.streamonClients = 0
      · rw [if_pos hzero]
        by_cases henable : f.enable = 0
        · rw [if_neg (not_not.mpr henable)]
          by_cases hpower : f.powerOn = 0
          · rw [if_neg (not_not.mpr hpower)]
            refine ⟨rfl, fun _ => ⟨rfl, ⟨core', _, hsame', hc'', by rw [if_pos hzero]⟩, fun _ => ?_⟩, fun hp => ?_⟩
            · rw [Option.some_inj]
              exact hlevel'
            · exact absurd (hpass.mpr ⟨hrc', by simp [powerUp, hzero, henable, hpower]⟩) hp
          · rw [if_pos hpower]
            refine ⟨rfl, fun hp => absurd (hpass.mp hp).2 ?_, fun _ => ⟨hpower, hsame', rfl, hrec⟩⟩
            simp [powerUp, hzero, henable, hpower]
        · rw [if_pos henable]
          refine ⟨rfl, fun hp => absurd (hpass.mp hp).2 ?_, fun _ => ⟨henable, hsame', rfl, hrec⟩⟩
          simp [powerUp, hzero, henable]
      · rw [if_neg hzero]
        refine ⟨rfl, fun _ => ⟨rfl, ⟨core', _, hsame', hc'', by rw [if_neg hzero]⟩, fun h => absurd h hzero⟩,
          fun hp => ?_⟩
        exact absurd (hpass.mpr ⟨hrc', by simp [powerUp, hzero]⟩) hp
    · rw [if_pos hrc']
      exact ⟨rfl, fun hp => absurd (hpass.mp hp).1 hrc', fun _ => ⟨hrc', hsame', rfl, hrec⟩⟩
  · rw [if_pos hrc]
    have hpass : ¬ahbPasses soc s.core i c required f = true := fun hp => hrc (hcode.mpr hp)
    have hrec : recorded core i = some (required, c.axiVote) := by
      rw [recorded, hclient, Function.update_self]
      rfl
    refine ⟨rfl, fun hp => ?_, fun _ => ⟨hrc, hsame, rfl, ?_⟩⟩
    · simp [startPasses, hpass] at hp
    · rw [hrec, recorded, hc]
      have hdiff : c.ahbLevel ≠ required := by
        intro heq
        simp [ahbPasses, ahbAccepted, clkFollows, heq] at hpass
      simp [recordsNothing, hdiff, hdiff.symm]

/-! ### The other calls -/

variable (soc) in
lemma applyClientAhbVote_sameStarted (hc : s.client i = some c) (v : AhbVote) :
    SameStarted s (applyClientAhbVote soc s i c v f).2.2 := by
  cases hreq : requiredLevel soc i v with
  | none =>
    simp only [applyClientAhbVote, hreq]
    exact .refl s
  | some required =>
    obtain ⟨hclient, hcount, -, -⟩ := applyClientAhbVote_recorded (f := f) hc hreq
    exact .of_update hc hclient rfl hcount

lemma applyClientAxiVote_sameStarted (hc : s.client i = some c) (v : AxiVote) :
    SameStarted s (applyClientAxiVote soc s i c v f).2 := by
  obtain ⟨⟨v', hclient, -⟩, hcount, -⟩ := applyClientAxiVote_recorded soc (f := f) hc v
  exact .of_update hc hclient rfl hcount

lemma withdrawVotes_sameStarted (hc : s.client i = some c) : SameStarted s (withdrawVotes soc s i c f).2 := by
  have hahb := applyClientAhbVote_sameStarted soc (f := f) hc ⟨false, UInt64.ofNat suspendVote⟩
  unfold withdrawVotes
  generalize applyClientAhbVote soc s i c ⟨false, UInt64.ofNat suspendVote⟩ f = out at hahb ⊢
  obtain ⟨rc, applied, core⟩ := out
  dsimp only
  split
  · exact hahb
  · cases hd : core.client i with
    | none => exact hahb
    | some d => exact hahb.trans (applyClientAxiVote_sameStarted hd _)

variable (soc) in
lemma registerClient_sameStarted (s : Core) (i : ℕ) (alloc : Bool) :
    SameStarted s (registerClient soc s i alloc).2 := by
  unfold registerClient
  split
  · exact .refl s
  · split
    · exact .refl s
    · next hnone =>
      have hclient : s.client i = none := by simpa using hnone
      have hadded (t : Core) (ht : t.client = Function.update s.client i (some ⟨false, 0, ⟨0, 0, 0⟩, soc.clientPort i⟩))
          (hcount : t.streamonClients = s.streamonClients) : SameStarted s t := by
        refine ⟨fun j => ?_, hcount⟩
        unfold isStarted
        rw [ht]
        by_cases hj : j = i
        · rw [hj, Function.update_self, hclient]
          rfl
        · rw [Function.update_of_ne hj]
      split
      · exact .refl s
      · dsimp only
        split
        · exact hadded _ rfl rfl
        · exact hadded _ rfl rfl

lemma unregisterClient_sameStarted (s : Core) (i : ℕ) : SameStarted s (unregisterClient s i).2 := by
  unfold unregisterClient
  cases hc : s.client i with
  | none => exact .refl s
  | some c =>
    dsimp only
    split
    · exact .refl s
    · next hidle =>
      have hremoved (t : Core) (ht : t.client = Function.update s.client i none)
          (hcount : t.streamonClients = s.streamonClients) : SameStarted s t := by
        refine ⟨fun j => ?_, hcount⟩
        unfold isStarted
        rw [ht]
        by_cases hj : j = i
        · rw [hj, Function.update_self, hc]
          simpa using hidle
        · rw [Function.update_of_ne hj]
      split
      · exact hremoved _ rfl rfl
      · exact hremoved _ rfl rfl

lemma updateAhbVote_sameStarted (s : Core) (i : ℕ) (v : AhbVote) (f : Codes) :
    SameStarted s (updateAhbVote soc s i v f).2 := by
  unfold updateAhbVote
  cases hc : s.client i with
  | none => exact .refl s
  | some c =>
    dsimp only
    split
    · exact applyClientAhbVote_sameStarted _ hc _
    · exact .refl s

lemma updateAxiVote_sameStarted (s : Core) (i : ℕ) (v : AxiVote) (f : Codes) :
    SameStarted s (updateAxiVote soc s i v f).2 := by
  unfold updateAxiVote
  cases hc : s.client i with
  | none => exact .refl s
  | some c =>
    dsimp only
    split
    · exact applyClientAxiVote_sameStarted hc _
    · exact .refl s

lemma logged_sound_iff {s : Hw} (h : PowerSound s) {out : ℤ × Core} (hsame : SameStarted s.core out.2) :
    (PowerSound (logged s i out).hw ∧
      (s.core.client i = none → (logged s i out).rc ≠ 0 ∧ (logged s i out).absentRead = false)) ↔
      (decide (maxClients ≤ i) || (s.core.client i).isSome) = true := by
  have hI : -Errno.EINVAL ≠ 0 := by decide
  unfold logged
  by_cases hvalid : maxClients ≤ i
  · rw [if_pos hvalid]
    simp [hvalid, h, hI]
  · rw [if_neg hvalid]
    have hpower : PowerSound { s with core := out.2 } := hsame.powerSound h
    cases hc : s.core.client i with
    | none => simp [hvalid]
    | some c => simp [hpower]

lemma hwStop_sound_iff {s : Hw} (h : PowerSound s) :
    (PowerSound (hwStop soc s i f).hw ∧
      (s.core.client i = none → (hwStop soc s i f).rc ≠ 0 ∧ (hwStop soc s i f).absentRead = false)) ↔
      callSafe soc s.core (.call (.stop i f)) = true := by
  have hI : -Errno.EINVAL ≠ 0 := by decide
  unfold hwStop callSafe
  by_cases hvalid : maxClients ≤ i
  · rw [if_pos hvalid]
    simp [hvalid, h, hI]
  rw [if_neg hvalid]
  cases hc : s.core.client i with
  | none => simp [hvalid, hc]
  | some c =>
    dsimp only
    cases hrun : c.started with
    | false => simp [h, hc, hrun]
    | true =>
      have hi : i < maxClients := Nat.lt_of_not_le hvalid
      have hcount := startedClients_markStopped hi hc hrun
      have hle := startedClients_le s.core
      have hmax : maxClients = 34 := rfl
      have hstream : (s.core.markStopped i c).streamonClients = startedClients (s.core.markStopped i c) := by
        have hold := h.count
        simp only [Core.markStopped] at hcount ⊢
        omega
      have hlast : (s.core.markStopped i c).streamonClients = 0 ↔ s.core.streamonClients = 1 := by
        rw [hstream, h.count]
        omega
      have hout : SameStarted (s.core.markStopped i c)
          (withdrawVotes soc (s.core.markStopped i c) i { c with started := false } f).2 :=
        withdrawVotes_sameStarted (by simp [Core.markStopped])
      have hup : s.hwState = .powerUp := h.power.mpr (by omega)
      have hkept (core : Core) (st : HwState) (hs : SameStarted (s.core.markStopped i c) core) :
          PowerSound ⟨core, st⟩ ↔ (st = .powerUp ↔ s.core.streamonClients ≠ 1) := by
        constructor
        · intro hsound
          rw [hsound.power, hs.startedClients, ← hstream, Nat.pos_iff_ne_zero, ne_eq, hlast]
        · intro hst
          refine ⟨?_, ?_⟩
          · rw [hs.startedClients, ← hstream]
            exact hs.count
          · rw [hst, hs.startedClients, ← hstream, Nat.pos_iff_ne_zero]
            exact not_congr hlast.symm
      by_cases hone : s.core.streamonClients = 1
      · rw [if_pos rfl, if_pos (hlast.mpr hone)]
        by_cases hirq : f.disableIrq = 0
        · by_cases hdis : f.disable = 0
          · simp [hirq, hdis, hkept _ _ hout, hone, hc]
          · simp [hirq, hdis, hkept _ _ (.refl _), hone, hup, hvalid, hc, hrun]
        · simp [hirq, hkept _ _ (.refl _), hone, hup, hvalid, hc, hrun]
      · rw [if_pos rfl, if_neg (mt hlast.mp hone)]
        simp [hkept _ _ hout, hone, hup, hc]

lemma hwStart_sound_iff {s : Hw} (h : PowerSound s) (ahb : AhbVote) (axi : AxiVote) :
    (PowerSound (hwStart soc s i ahb axi f).hw ∧
      StartSound soc s i ahb (hwStart soc s i ahb axi f) ∧
      (s.core.client i = none →
        (hwStart soc s i ahb axi f).rc ≠ 0 ∧ (hwStart soc s i ahb axi f).absentRead = false)) ↔
      callSafe soc s.core (.call (.start i ahb axi f)) = true := by
  by_cases hrefused : startRefused soc s.core i ahb axi = true
  · obtain ⟨hrc, hhw, hread⟩ := hwStart_refused (f := f) hrefused
    have hsafe : callSafe soc s.core (.call (.start i ahb axi f)) = true := by
      simp only [callSafe]
      split
      · rw [hrefused, Bool.true_or]
      · rfl
    rw [iff_true_right hsafe, hhw]
    exact ⟨h, ⟨fun _ => by rw [hhw]; exact ⟨rfl, rfl⟩, fun hz => absurd hz hrc⟩, fun _ => ⟨hrc, hread⟩⟩
  · have hgo : startRefused soc s.core i ahb axi = false := by simpa using hrefused
    have hparts := hgo
    simp only [startRefused, Bool.or_eq_false_iff, decide_eq_false_iff_not, Bool.not_eq_false'] at hparts
    obtain ⟨⟨⟨-, hvalid⟩, hany⟩, hsome⟩ := hparts
    have hi : i < maxClients := Nat.lt_of_not_le hvalid
    obtain ⟨c, hc, hidle⟩ : ∃ c, s.core.client i = some c ∧ c.started = false := by
      cases hc : s.core.client i with
      | none => simp [hc] at hany
      | some c => exact ⟨c, rfl, by simpa [hc] using hany⟩
    obtain ⟨required, hreq⟩ : ∃ required, requiredLevel soc i ahb = some required := by
      cases hreq : requiredLevel soc i ahb with
      | none => simp [hreq] at hsome
      | some required => exact ⟨required, rfl⟩
    have hsafe : callSafe soc s.core (.call (.start i ahb axi f)) =
        if startPasses soc s.core i c required axi f then
          s.core.streamonClients ≠ 0 || levelReached soc s.core i c required
        else recordsNothing c required axi := by
      simp only [callSafe, hc, hreq, hgo, Bool.false_or]
    have hvoted := hwStart_voted (f := f) hgo hc hreq
    rw [hsafe]
    by_cases hpass : startPasses soc s.core i c required axi f = true
    · obtain ⟨hrc, ⟨core, d, hsame, hd, hhw⟩, hlevel⟩ := hvoted.passed hpass
      rw [if_pos hpass]
      have hle := startedClients_le s.core
      have hmax : maxClients = 34 := rfl
      have hidle' : d.started = false := by
        have hsame' := hsame.started i
        rw [isStarted, isStarted, hd, hc] at hsame'
        exact hsame'.trans hidle
      have hcount := startedClients_markStarted hi hd hidle'
      rw [hsame.startedClients] at hcount
      have hpower : PowerSound (hwStart soc s i ahb axi f).hw := by
        rw [hhw]
        refine ⟨?_, ?_⟩
        · rw [hcount, ← h.count, ← hsame.count]
          have hsmall : core.streamonClients = startedClients s.core := hsame.count.trans h.count
          simp only [Core.markStarted]
          omega
        · rw [hcount]
          by_cases hzero : s.core.streamonClients = 0
          · simp [hzero]
          · have hup : s.hwState = .powerUp := h.power.mpr (h.count ▸ Nat.pos_of_ne_zero hzero)
            simp [hzero, hup]
      constructor
      · intro hsound
        by_cases hzero : s.core.streamonClients = 0
        · have henabled := hsound.2.1.enabled hrc hzero
          rw [hreq] at henabled
          simp [(hlevel hzero).mp henabled]
        · simp [hzero]
      · intro hok
        refine ⟨hpower, ⟨fun hne => absurd hrc hne, fun _ hzero => ?_⟩, fun hnone => absurd hnone (by simp [hc])⟩
        rw [hreq]
        exact (hlevel hzero).mpr (by simpa [hzero] using hok)
    · obtain ⟨hrc, hsame, hstate, hrec⟩ := hvoted.failed hpass
      rw [if_neg hpass]
      have hpower : PowerSound (hwStart soc s i ahb axi f).hw := by
        have : PowerSound ⟨_, s.hwState⟩ := hsame.powerSound h
        rwa [← hstate] at this
      constructor
      · intro hsound
        exact hrec.mp (hsound.2.1.failed hrc).1
      · intro hquiet
        exact ⟨hpower, ⟨fun _ => ⟨hrec.mpr hquiet, hsame.count⟩, fun hz => absurd hz hrc⟩,
          fun hnone => absurd hnone (by simp [hc])⟩

lemma logged_call {s : Hw} (hi : i < maxClients) (out : ℤ × Core) :
    ((logged s i out).rc, (logged s i out).hw.core) = out := by
  rw [logged, if_neg (Nat.not_le.mpr hi)]

lemma hwStart_call {s : Hw} (hi : i < maxClients) (ahb : AhbVote) (axi : AxiVote) :
    ((hwStart soc s i ahb axi f).rc, (hwStart soc s i ahb axi f).hw.core) = start soc s.core i ahb axi f := by
  unfold hwStart start
  by_cases hvote : ahb.level = 0 ∨ (axi.compressedBw = 0 ∧ axi.uncompressedBw = 0)
  · rw [if_pos hvote, if_pos hvote]
  rw [if_neg hvote, if_neg hvote, if_neg (Nat.not_le.mpr hi)]
  cases s.core.client i with
  | none => rfl
  | some c =>
    dsimp only
    by_cases hrun : c.started = true
    · rw [if_pos hrun, if_pos hrun]
    rw [if_neg hrun, if_neg hrun]
    generalize applyClientAhbVote soc s.core i c ahb f = out
    obtain ⟨rc, applied, core⟩ := out
    dsimp only
    by_cases hrc : rc = 0
    · rw [if_neg (not_not.mpr hrc), if_neg (not_not.mpr hrc)]
      cases hd : core.client i with
      | none => rfl
      | some d =>
        obtain ⟨⟨v, hclient, -⟩, -, -⟩ := applyClientAxiVote_recorded soc (f := f) hd axi
        dsimp only
        generalize applyClientAxiVote soc core i d axi f = out at hclient ⊢
        obtain ⟨rc', core'⟩ := out
        dsimp only at hclient ⊢
        by_cases hrc' : rc' = 0
        · rw [if_neg (not_not.mpr hrc'), if_neg (not_not.mpr hrc'), hclient, Function.update_self]
          unfold powerUp
          dsimp only
          split_ifs <;> simp_all
        · rw [if_pos hrc', if_pos hrc']
    · rw [if_pos hrc, if_pos hrc]

lemma hwStop_call {s : Hw} (hi : i < maxClients) :
    ((hwStop soc s i f).rc, (hwStop soc s i f).hw.core) = stop soc s.core i f := by
  unfold hwStop stop
  rw [if_neg (Nat.not_le.mpr hi)]
  cases s.core.client i with
  | none => rfl
  | some c =>
    dsimp only
    by_cases hrun : c.started = true
    · rw [if_pos hrun, if_pos hrun]
      change _ = if powerDown (s.core.markStopped i c) f ≠ 0 then
        (powerDown (s.core.markStopped i c) f, s.core.markStopped i c)
        else withdrawVotes soc (s.core.markStopped i c) i { c with started := false } f
      unfold powerDown
      by_cases hzero : (s.core.markStopped i c).streamonClients = 0
      · rw [if_pos hzero, if_pos hzero]
        by_cases hirq : f.disableIrq = 0
        · by_cases hdis : f.disable = 0
          · simp [hirq, hdis]
          · simp [hirq, hdis]
        · simp [hirq]
      · rw [if_neg hzero, if_neg hzero]
        simp
    · rw [if_neg hrun, if_neg hrun]

lemma hwCall_call {s : Hw} (op : Op) (hop : ∀ i, (HwOp.call op).handle = some i → i < maxClients) :
    ((hwCall soc s (.call op)).rc, (hwCall soc s (.call op)).hw.core) = call soc s.core op := by
  cases op with
  | register i alloc => rfl
  | unregister i => exact logged_call (hop i rfl) _
  | start i ahb axi f => exact hwStart_call (hop i rfl) ahb axi
  | updateAhb i v f => exact logged_call (hop i rfl) _
  | updateAxi i v f => exact logged_call (hop i rfl) _
  | stop i f => exact hwStop_call (hop i rfl)

lemma callSound_iff {s : Hw} (h : PowerSound s) (op : HwOp) :
    CallSound soc s op ↔ callSafe soc s.core op = true := by
  have hother (hstart : ∀ i ahb axi f, op ≠ .call (.start i ahb axi f)) :
      CallSound soc s op ↔ PowerSound (hwCall soc s op).hw ∧
        ∀ i, op.handle = some i → s.core.client i = none →
          (hwCall soc s op).rc ≠ 0 ∧ (hwCall soc s op).absentRead = false :=
    ⟨fun g => ⟨g.power, g.absent⟩, fun g => ⟨g.1, fun i ahb axi f hop => absurd hop (hstart i ahb axi f), g.2⟩⟩
  have hlogged (i : ℕ) (out : ℤ × Core) (hop : hwCall soc s op = logged s i out) (hh : op.handle = some i)
      (hstart : ∀ i ahb axi f, op ≠ .call (.start i ahb axi f)) (hsame : SameStarted s.core out.2) :
      CallSound soc s op ↔ (decide (maxClients ≤ i) || (s.core.client i).isSome) = true := by
    rw [hother hstart, hop, hh, ← logged_sound_iff h hsame]
    refine and_congr_right fun _ => ⟨fun g => g i rfl, fun g j hj => ?_⟩
    obtain rfl := Option.some.inj hj
    exact g
  cases op with
  | call op =>
    cases op with
    | register i alloc =>
      rw [hother (by simp)]
      have hpower := (registerClient_sameStarted soc s.core i alloc).powerSound h
      exact iff_of_true ⟨hpower, fun _ hno => by cases hno⟩ rfl
    | unregister i => exact hlogged i _ rfl rfl (by simp) (unregisterClient_sameStarted s.core i)
    | updateAhb i v f => exact hlogged i _ rfl rfl (by simp) (updateAhbVote_sameStarted s.core i v f)
    | updateAxi i v f => exact hlogged i _ rfl rfl (by simp) (updateAxiVote_sameStarted s.core i v f)
    | start i ahb axi f =>
      rw [← hwStart_sound_iff h]
      constructor
      · intro g
        exact ⟨g.power, g.start i ahb axi f rfl, g.absent i rfl⟩
      · rintro ⟨hpower, hstart, habsent⟩
        refine ⟨hpower, fun i' ahb' axi' f' hop => ?_, fun j hj => ?_⟩
        · cases hop
          exact hstart
        · obtain rfl := Option.some.inj hj
          exact habsent
    | stop i f =>
      rw [hother (by simp), ← hwStop_sound_iff h]
      refine and_congr_right fun _ => ⟨fun g => g i rfl, fun g j hj => ?_⟩
      obtain rfl := Option.some.inj hj
      exact g
  | regAccess i base =>
    cases base with
    | false =>
      rw [hother (by simp)]
      exact iff_of_true ⟨h, fun _ _ _ => ⟨by show -Errno.EINVAL ≠ 0; decide, rfl⟩⟩ rfl
    | true =>
      refine hlogged i _ rfl rfl (by simp) ?_
      cases s.core.client i with
      | none => exact .refl _
      | some c =>
        dsimp only
        split
        · exact .refl _
        · exact .refl _

lemma hwInit_powerSound : PowerSound hwInit := by
  have hnone : startedClients hwInit.core = 0 := by
    rw [startedClients, Finset.card_eq_zero, Finset.filter_eq_empty_iff]
    intro i _
    simp [isStarted, hwInit, init]
  refine ⟨hnone.symm, ?_⟩
  rw [hnone]
  simp [hwInit]

/-- Over a run every call is atomic, keeps the power state and reads no absent client just when the
calls meet the condition one by one. -/
theorem run_callSound_iff (soc : Soc) (ops : List HwOp) :
    Transition.Guarded (hwStep soc) (CallSound soc) hwInit ops ↔
      Transition.Guarded (hwStep soc) (fun s op => callSafe soc s.core op = true) hwInit ops := by
  have hstep (s : Hw) (op : HwOp) (h : PowerSound s) (hok : callSafe soc s.core op = true) :
      PowerSound (hwStep soc s op) := ((callSound_iff h op).mpr hok).power
  exact Transition.guarded_iff (fun s op h => callSound_iff h op) hstep hwInit_powerSound

/-- The lone client is refused once, starts, stops and leaves. -/
def failedThenStarted : List HwOp :=
  [.call (.register 0 true), .call (.start 0 ⟨true, 3⟩ ⟨0, 0, 0⟩ noFailure),
    .call (.start 0 ⟨false, 5⟩ ⟨2048, 2048, 2048⟩ noFailure), .call (.updateAhb 0 ⟨false, 7⟩ noFailure),
    .call (.stop 0 noFailure), .call (.unregister 0), .call (.start 0 ⟨false, 5⟩ ⟨2048, 2048, 2048⟩ noFailure)]

example : Transition.Guarded (hwStep plainSoc) (fun s op => callSafe plainSoc s.core op = true) hwInit
    failedThenStarted := by decide +kernel

/-- The AXI bus refuses the vote of a start, and its AHB level stays on record. The retry finds the
level there, applies none and enables the clocks for SVS. -/
def refusedStart : List HwOp :=
  [.call (.register 0 true), .call (.start 0 ⟨false, 5⟩ ⟨2048, 2048, 2048⟩ { noFailure with mnocBus := -Errno.EINVAL }),
    .call (.start 0 ⟨false, 5⟩ ⟨2048, 2048, 2048⟩ noFailure)]

/-- The power stays up behind the last stop. -/
def powerKept : List HwOp :=
  [.call (.register 0 true), .call (.start 0 ⟨false, 5⟩ ⟨2048, 2048, 2048⟩ noFailure),
    .call (.stop 0 { noFailure with disableIrq := -Errno.EINVAL })]

theorem calls_not_sound :
    ¬Transition.Guarded (hwStep plainSoc) (CallSound plainSoc) hwInit refusedStart ∧
      (hwCall plainSoc (Transition.run (hwStep plainSoc) hwInit refusedStart.dropLast)
        (.call (.start 0 ⟨false, 5⟩ ⟨2048, 2048, 2048⟩ noFailure))).enabledAt = some svsVote ∧
      ¬Transition.Guarded (hwStep plainSoc) (CallSound plainSoc) hwInit powerKept ∧
      (Transition.run (hwStep plainSoc) hwInit powerKept).hwState = .powerUp ∧
      (hwCall plainSoc hwInit (.call (.stop 0 noFailure))).absentRead = true := by
  refine ⟨fun h => ?_, by decide +kernel, fun h => ?_, by decide +kernel, by decide +kernel⟩
  · obtain ⟨-, hrefused, -⟩ := h
    have hkept := ((hrefused.start 0 _ _ _ rfl).failed (by decide +kernel)).1
    exact absurd hkept (by decide +kernel)
  · obtain ⟨-, -, hstop, -⟩ := h
    have hup := hstop.power.power.mp (by decide +kernel)
    exact absurd hup (by decide +kernel)

end CameraKernel.Cpas
