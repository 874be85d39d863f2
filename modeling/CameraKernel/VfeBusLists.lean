import CameraKernel.VfeBusUpdate

/-! What an update of a VFE output stores stays in its array and is the command that it writes, with
an address for every frame of a master in batch mode. An IFE lite has a fourth RDI, whose number of
frames nothing bounds. -/
namespace CameraKernel.VfeBusUpdate
open CdmUtil (Memory HoldsAt Cmd cdmWriteRegrandom cdmRequiredSizeRegRandom)
open VfeBus (VfeOutType camVfeBusGetNumWm camVfeBusGetWmIdx wmFormatOk)
open VfeBus.CamFormat

section
variable (o : OutData) (c : CmdBuf) (l : List WmData × RegList × ℤ)

lemma writeCmd_eq : writeCmd o c l =
    if l.2.2 ≠ 0 then ⟨l.2.2, { o with wms := l.1 }, l.2.1.stored, c.mem, 0⟩
    else if cdmRequiredSizeRegRandom (l.2.1.j / 2) * 4 > c.size then
      ⟨-Errno.ENOMEM, { o with wms := l.1 }, l.2.1.stored, c.mem, 0⟩
    else ⟨0, { o with wms := l.1 }, l.2.1.stored,
      (cdmWriteRegrandom c.mem c.addr l.2.1.pairs).1,
      cdmRequiredSizeRegRandom (l.2.1.j / 2) * 4⟩ := rfl

lemma writeCmd_stored : (writeCmd o c l).stored = l.2.1.stored := by
  rw [writeCmd_eq]
  split_ifs <;> rfl

lemma writeCmd_wms : (writeCmd o c l).out.wms = l.1 := by
  rw [writeCmd_eq]
  split_ifs <;> rfl

lemma writeCmd_rc :
    (writeCmd o c l).rc = 0 ↔ l.2.2 = 0 ∧ cdmRequiredSizeRegRandom (l.2.1.j / 2) * 4 ≤ c.size := by
  rw [writeCmd_eq]
  split_ifs with hrc hsize
  · exact ⟨fun h => absurd h hrc, fun h => absurd h.1 hrc⟩
  · have hne : (-Errno.ENOMEM : ℤ) ≠ 0 := by decide
    exact ⟨fun h => absurd h hne, fun h => absurd h.2 (Nat.not_le.2 hsize)⟩
  · exact ⟨fun _ => ⟨not_ne_iff.1 hrc, Nat.not_lt.1 hsize⟩, fun _ => rfl⟩

lemma writeCmd_command (hl : l.2.1.Laid) (h : (writeCmd o c l).rc = 0) :
    HoldsAt (writeCmd o c l).mem c.addr (Cmd.regRandom ((writeCmd o c l).stored.map (·.pair))).words ∧
      (writeCmd o c l).usedBytes ≤ c.size := by
  obtain ⟨hrc, hsize⟩ := (writeCmd_rc o c l).1 h
  rw [writeCmd_eq, if_neg (not_ne_iff.2 hrc), if_neg hsize.not_gt]
  refine ⟨?_, hsize⟩
  have := Cmd.write_eq c.mem c.addr (.regRandom l.2.1.pairs)
  rw [Cmd.write] at this
  rw [this, ← hl.pairs]
  exact CdmUtil.writeWords_holdsAt ..

end

/-- The image address of every frame that a master takes before it interrupts. -/
def frameAddrs (w : WmData) (p : Plane) (imageBuf : UInt64) : List (UInt32 × UInt32) :=
  (List.range (w.irqSubsamplePeriod.toNat + 1)).map fun k =>
    (w.hwRegs.imageAddr, UInt32.ofNat ((planeBase w p imageBuf).toNat + k * (frameInc w p).toNat))

def FramesAddressed (o : OutData) (r : Result) : RegUpdate → Prop
  | .wm u => ∀ i w, o.wms[i]? = some w → w.batched = true →
      frameAddrs w (u.planes i) (u.imageBuf i) <:+: r.stored.map (·.pair)
  | .hfr .. => True

structure SoundAt (o : OutData) (u : RegUpdate) : Prop where
  inArray : ∀ s ∈ (u.run o).stored, s.idx + 1 < MAX_REG_VAL_PAIR_SIZE
  command : (u.run o).rc = 0 →
    HoldsAt (u.run o).mem u.cmd.addr (Cmd.regRandom ((u.run o).stored.map (·.pair))).words ∧
      (u.run o).usedBytes ≤ u.cmd.size
  frames : (u.run o).rc = 0 → FramesAddressed o (u.run o) u

/-- The pairs of a master in batch mode beside its addresses. -/
def fixedPairs (w : WmData) : ℕ := if w.enCfg = 1 then 4 else 3

/-- The addresses of RDI 3 of an IFE lite have room, and their number is not lost in its counter. -/
def RegUpdate.Good (o : OutData) : RegUpdate → Prop
  | .wm u => o.cdmUtilOps = true → u.numBuf = o.wms.length →
      ∀ w ∈ o.wms, w.isLite = true → w.index = 3 →
        fixedPairs w + (w.irqSubsamplePeriod + 1).toNat ≤ MAX_REG_VAL_PAIR_SIZE / 2 ∧
          (w.irqSubsamplePeriod.toNat + 1 < 2 ^ 32 ∨
            u.cmd.size < cdmRequiredSizeRegRandom (fixedPairs w) * 4)
  | .hfr .. => True

/-- A single master in batch mode, or masters without. -/
inductive Shape : List WmData → Prop
  | batched {w : WmData} (hb : w.batched = true) (hu : w.enUbwc = false)
      (hp : w.index ≤ 2 → w.irqSubsamplePeriod ≤ 3) : Shape [w]
  | plain {ws : List WmData} (hlen : ws.length ≤ 2) (hb : ∀ w ∈ ws, w.batched = false) : Shape ws

lemma Shape.kept {ws ws' : List WmData} (h : Shape ws) (hk : List.Forall₂ WmKept ws ws') :
    Shape ws' := by
  cases h with
  | batched hb hu hp =>
    obtain ⟨w', hw, rfl⟩ : ∃ w', WmKept _ w' ∧ ws' = [w'] := by
      cases hk with
      | cons hw hnil => cases hnil; exact ⟨_, hw, rfl⟩
    exact .batched (hw.batched.trans hb) (hw.enUbwc.trans hu)
      fun h => hw.period (hw.index ▸ h) (hp (hw.index ▸ h))
  | plain hlen hb =>
    refine .plain (hk.length_eq ▸ hlen) fun w' hw' => ?_
    obtain ⟨i, hi, rfl⟩ := List.mem_iff_getElem.1 hw'
    have hi' : i < ws.length := hk.length_eq ▸ hi
    have := hk.get hi' hi
    rw [List.get_eq_getElem, List.get_eq_getElem] at this
    exact this.batched.trans (hb _ (List.getElem_mem hi'))

lemma updateHfrStep_kept (h : HfrConfig) (i : ℕ) (w : WmData) : WmKept w (updateHfrStep h i w).1 := by
  rw [updateHfrStep]
  split_ifs with hp
  · exact .refl w
  · exact ⟨rfl, rfl, rfl, fun hi _ => UInt32.not_lt.1 fun hlt => hp ⟨hi, hlt⟩⟩

lemma updateHfrStep_length (h : HfrConfig) (i : ℕ) (w : WmData) :
    (updateHfrStep h i w).2.1.length ≤ 4 := by
  rw [updateHfrStep]
  split_ifs
  · exact Nat.zero_le _
  · exact Nat.le_refl _

lemma updateWmStep_kept (u : WmUpdate) (i : ℕ) (w : WmData) : WmKept w (updateWmStep u i w).1 := by
  have hw : WmKept w (if w.enCfg = 1 then { w with stride := alignUp (u.planes i).planeStride 16 }
      else w) := by
    split_ifs
    · exact ⟨rfl, rfl, rfl, fun _ h => h⟩
    · exact .refl w
  simp only [updateWmStep]
  generalize (if w.enCfg = 1 then { w with stride := alignUp (u.planes i).planeStride 16 } else w) = w'
    at hw ⊢
  split_ifs
  · cases w'.hwRegs.ubwcRegs <;> exact hw
  · exact hw

lemma length_ubwcBwLimit_le (w : WmData) (regs : RegOffsetUbwcClient) (a b : UInt32) :
    (ubwcBwLimit w regs a b).length ≤ 1 := by
  rw [ubwcBwLimit]
  split_ifs <;> simp

lemma length_updateUbwcRegs_le (w : WmData) (regs : RegOffsetUbwcClient) (c : CommonData) :
    (camVfeBusUpdateUbwcRegs w regs c).1.length ≤ 11 := by
  have h3 := length_ubwcBwLimit_le w regs ((0x8 : UInt32) <<< 1 ||| 1) ((0xB : UInt32) <<< 1 ||| 1)
  have h2 := length_ubwcBwLimit_le w regs (0x8 ||| 1) (0xB ||| 1)
  have hold (v : ℕ) : (camVfeBusUpdateUbwcLegacyRegs w regs v).length ≤ 11 := by
    rw [camVfeBusUpdateUbwcLegacyRegs]
    split_ifs <;> simp only [ubwcGeometry, List.length_append, List.length_cons, List.length_nil] <;>
      omega
  have hnew : (camVfeBusUpdateUbwc3Regs w regs c).length ≤ 11 := by
    rw [camVfeBusUpdateUbwc3Regs]
    split_ifs <;> simp only [ubwcGeometry, List.length_append, List.length_cons, List.length_nil] <;>
      omega
  rw [camVfeBusUpdateUbwcRegs]
  cases c.cpasHwVersion with
  | error rc => exact Nat.zero_le _
  | ok v =>
    dsimp only
    split_ifs
    · exact Nat.zero_le _
    · exact hold v
    · exact hnew
    · exact Nat.zero_le _

lemma length_updateUbwcMetaAddr_le (regs : RegOffsetUbwcClient) (imageBuf : UInt64) (v : ℕ) :
    (camVfeBusUpdateUbwcMetaAddr regs imageBuf v).length ≤ 1 := by
  rw [camVfeBusUpdateUbwcMetaAddr]
  split_ifs <;> simp

lemma length_geometryPairs (w : WmData) (p : Plane) : (geometryPairs w p).length + 2 = fixedPairs w := by
  rw [geometryPairs, fixedPairs]
  split_ifs <;> rfl

lemma length_imageAddrs (w : WmData) (p : Plane) (imageBuf : UInt64) :
    (imageAddrs w p imageBuf).length = (loopSize w).toNat := by
  rw [imageAddrs, List.length_map, List.length_range]

lemma length_addressPairs (w : WmData) (p : Plane) (imageBuf : UInt64) :
    (addressPairs w p imageBuf).length = (loopSize w).toNat + 2 := by
  rw [addressPairs, List.length_append, length_imageAddrs]
  rfl

lemma updateWmStep_length {w : WmData} (hb : w.batched = false) (u : WmUpdate) (i : ℕ) :
    (updateWmStep u i w).2.1.length ≤ 17 := by
  have hgeo : (geometryPairs w (u.planes i)).length ≤ 2 := by
    have := length_geometryPairs w (u.planes i)
    have : fixedPairs w ≤ 4 := by
      rw [fixedPairs]
      split_ifs <;> decide
    omega
  simp only [updateWmStep]
  have hb' : (if w.enCfg = 1 then { w with stride := alignUp (u.planes i).planeStride 16 }
      else w).batched = false := by
    split_ifs
    · exact hb
    · exact hb
  generalize (if w.enCfg = 1 then { w with stride := alignUp (u.planes i).planeStride 16 } else w) = w'
    at hb' ⊢
  have haddr : (addressPairs w' (u.planes i) (u.imageBuf i)).length = 3 := by
    rw [length_addressPairs, loopSize, hb', if_neg Bool.false_ne_true]
    rfl
  split_ifs
  · cases w'.hwRegs.ubwcRegs with
    | none => exact hgeo.trans (by decide)
    | some regs =>
      have hregs := length_updateUbwcRegs_le w' regs u.common
      have hmeta := length_updateUbwcMetaAddr_le regs (u.imageBuf i) u.common.cameraHwVersion
      simp only [List.length_append]
      omega
  · simp only [List.length_append]
    omega

section
variable {o : OutData} {c : CmdBuf} {step : WmStep}

def listOf (o : OutData) (c : CmdBuf) (step : WmStep) : List WmData × RegList × ℤ :=
  eachWm step 0 o.wms ⟨c.ioBufUpdate, .bus, 0, []⟩

lemma update_inArray_iff (hl : (listOf o c step).2.1.Laid) :
    (∀ s ∈ (update o c step).stored, s.idx + 1 < MAX_REG_VAL_PAIR_SIZE) ↔
      (listOf o c step).2.1.j ≤ MAX_REG_VAL_PAIR_SIZE := by
  rw [update, writeCmd_stored]
  exact hl.inArray_iff _

lemma update_kept (hstep : ∀ i w, WmKept w (step i w).1) :
    List.Forall₂ WmKept o.wms (update o c step).out.wms := by
  rw [update, writeCmd_wms]
  exact eachWm_kept hstep ..

lemma listOf_laid {n : ℕ} (hn : n ≤ 42) (hs : Shape o.wms)
    (hstep : ∀ i, ∀ w ∈ o.wms, (step i w).2.1.length ≤ n) :
    (listOf o c step).2.1.Laid ∧ (listOf o c step).2.1.j ≤ MAX_REG_VAL_PAIR_SIZE := by
  have hmax : MAX_REG_VAL_PAIR_SIZE = 168 := rfl
  rw [listOf]
  cases hws : o.wms with
  | nil => exact ⟨laid_nil .., Nat.zero_le _⟩
  | cons w ws =>
    rw [hws] at hs hstep
    cases hs with
    | batched =>
      have := hstep 0 w (List.mem_cons_self ..)
      rw [eachWm_one]
      exact ⟨oneList_laid .., by dsimp only; rw [oneList_j]; omega⟩
    | plain hlen hb =>
      obtain ⟨hl, hj⟩ := eachWm_laid hb hstep 0 (laid_nil c.ioBufUpdate .bus)
      refine ⟨hl, hj.trans ?_⟩
      calc 0 + 2 * n * (w :: ws).length ≤ 0 + 2 * n * 2 := by gcongr
        _ ≤ MAX_REG_VAL_PAIR_SIZE := by omega

end

lemma hfr_sound {o : OutData} (hs : Shape o.wms) (h : HfrConfig) (c : CmdBuf) :
    SoundAt o (.hfr h c) := by
  obtain ⟨hl, hj⟩ := listOf_laid (c := c) (n := 4) (by decide) hs
    fun i w _ => updateHfrStep_length h i w
  by_cases hops : o.cdmUtilOps = true
  · have hrun : RegUpdate.run o (.hfr h c) = update o c (updateHfrStep h) := by
      rw [RegUpdate.run, camVfeBusUpdateHfr, hops]
      rfl
    refine ⟨?_, ?_, fun _ => trivial⟩
    · rw [hrun]
      exact (update_inArray_iff hl).2 hj
    · rw [hrun]
      exact writeCmd_command o c _ hl
  · have hrun : RegUpdate.run o (.hfr h c) = ⟨-Errno.EINVAL, o, [], c.mem, 0⟩ := by
      rw [RegUpdate.run, camVfeBusUpdateHfr, Bool.eq_false_of_not_eq_true hops]
      rfl
    have hne : (-Errno.EINVAL : ℤ) ≠ 0 := by decide
    refine ⟨?_, ?_, fun _ => trivial⟩
    · rw [hrun]
      exact fun s hs => (List.not_mem_nil hs).elim
    · rw [hrun]
      exact fun h => absurd h hne

/-- An update of the addresses goes past its checks. -/
def WmUpdate.Admitted (o : OutData) (u : WmUpdate) : Prop :=
  o.cdmUtilOps = true ∧ u.numBuf = o.wms.length

lemma run_of_admitted {o : OutData} {u : WmUpdate} (h : u.Admitted o) :
    RegUpdate.run o (.wm u) = update o u.cmd (updateWmStep u) := by
  rw [RegUpdate.run, camVfeBusUpdateWm, h.1, if_neg (by decide), if_neg (not_ne_iff.2 h.2)]

lemma sound_of_not_admitted {o : OutData} {u : WmUpdate} (h : ¬ u.Admitted o) :
    SoundAt o (.wm u) := by
  have hrun : RegUpdate.run o (.wm u) = ⟨-Errno.EINVAL, o, [], u.cmd.mem, 0⟩ := by
    rw [RegUpdate.run, camVfeBusUpdateWm]
    by_cases hops : o.cdmUtilOps = true
    · rw [hops, if_neg (by decide), if_pos fun hn => h ⟨hops, hn⟩]
    · rw [Bool.eq_false_of_not_eq_true hops, if_pos (by decide)]
  have hne : (-Errno.EINVAL : ℤ) ≠ 0 := by decide
  constructor
  · rw [hrun]
    exact fun s hs => (List.not_mem_nil hs).elim
  · rw [hrun]
    exact fun h => absurd h hne
  · rw [hrun]
    exact fun h => absurd h hne

lemma wm_sound_of_plain {o : OutData} (hlen : o.wms.length ≤ 2) (hb : ∀ w ∈ o.wms, w.batched = false)
    (u : WmUpdate) : SoundAt o (.wm u) := by
  by_cases h : u.Admitted o
  · obtain ⟨hl, hj⟩ := listOf_laid (c := u.cmd) (n := 17) (by decide) (.plain hlen hb)
      fun i w hw => updateWmStep_length (hb w hw) u i
    constructor
    · rw [run_of_admitted h]
      exact (update_inArray_iff hl).2 hj
    · rw [run_of_admitted h]
      exact writeCmd_command o u.cmd _ hl
    · intro _ i w hw hbw
      have := hb w (List.mem_of_getElem? hw)
      exact absurd hbw (by rw [this]; decide)
  · exact sound_of_not_admitted h

lemma updateWmStep_of_not_ubwc {w : WmData} (hu : w.enUbwc = false) (u : WmUpdate) (i : ℕ) :
    (updateWmStep u i w).2 =
      (geometryPairs w (u.planes i) ++ addressPairs w (u.planes i) (u.imageBuf i), 0) := by
  simp only [updateWmStep]
  by_cases hcfg : w.enCfg = 1
  · rw [if_pos hcfg, if_neg (by simp [hu])]
    rfl
  · rw [if_neg hcfg, if_neg (by simp [hu])]

/-- The addresses fit, and their number is not lost in its counter, or the command does not fit. -/
def Roomy (w : WmData) (size : ℕ) : Prop :=
  fixedPairs w + (w.irqSubsamplePeriod + 1).toNat ≤ MAX_REG_VAL_PAIR_SIZE / 2 ∧
    (w.irqSubsamplePeriod.toNat + 1 < 2 ^ 32 ∨ size < cdmRequiredSizeRegRandom (fixedPairs w) * 4)

lemma toNat_period_add_one (p : UInt32) : (p + 1).toNat = (p.toNat + 1) % 2 ^ 32 := by
  rw [UInt32.toNat_add]
  rfl

lemma roomy_of_period_le {w : WmData} (h : w.irqSubsamplePeriod ≤ 3) (size : ℕ) : Roomy w size := by
  have hp : w.irqSubsamplePeriod.toNat ≤ 3 := UInt32.le_iff_toNat_le.1 h
  have hfixed : fixedPairs w ≤ 4 := by
    rw [fixedPairs]
    split_ifs <;> decide
  have hmax : MAX_REG_VAL_PAIR_SIZE / 2 = 84 := rfl
  refine ⟨?_, Or.inl (by omega)⟩
  rw [toNat_period_add_one, Nat.mod_eq_of_lt (by omega)]
  omega

lemma imageAddrs_eq_frameAddrs {w : WmData} (hb : w.batched = true)
    (h : w.irqSubsamplePeriod.toNat + 1 < 2 ^ 32) (p : Plane) (imageBuf : UInt64) :
    imageAddrs w p imageBuf = frameAddrs w p imageBuf := by
  rw [imageAddrs, frameAddrs, loopSize, if_pos hb, toNat_period_add_one, Nat.mod_eq_of_lt h]
  refine List.map_congr_left fun k _ => ?_
  congr 1
  apply UInt32.toNat_inj.1
  rw [UInt64.toNat_toUInt32, UInt64.toNat_add, UInt32.toNat_toUInt64, UInt32.toNat_mul,
    UInt32.toNat_ofNat', UInt32.toNat_ofNat']
  have hmul : (k % 2 ^ 32 * (frameInc w p).toNat) % 2 ^ 32 = (k * (frameInc w p).toNat) % 2 ^ 32 := by
    rw [Nat.mul_mod, Nat.mod_mod, ← Nat.mul_mod]
  rw [hmul]
  omega

lemma wm_sound_iff_roomy {o : OutData} {w : WmData} (hws : o.wms = [w]) (hb : w.batched = true)
    (hu : w.enUbwc = false) {u : WmUpdate} (h : u.Admitted o) :
    SoundAt o (.wm u) ↔ Roomy w u.cmd.size := by
  have hstep := updateWmStep_of_not_ubwc hu u 0
  have hlist : listOf o u.cmd (updateWmStep u) =
      ([(updateWmStep u 0 w).1], oneList (updateWmStep u) w u.cmd.ioBufUpdate, 0) := by
    rw [listOf, hws, eachWm_one, hstep]
  have hl : (listOf o u.cmd (updateWmStep u)).2.1.Laid := by
    rw [hlist]
    exact oneList_laid ..
  have hpairs : (listOf o u.cmd (updateWmStep u)).2.1.stored.map (·.pair) =
      geometryPairs w (u.planes 0) ++ addressPairs w (u.planes 0) (u.imageBuf 0) := by
    rw [hlist, oneList_stored, hstep]
  have hj : (listOf o u.cmd (updateWmStep u)).2.1.j =
      2 * (fixedPairs w + (w.irqSubsamplePeriod + 1).toNat) := by
    rw [hlist]
    dsimp only
    rw [oneList_j, hstep]
    dsimp only
    rw [List.length_append, length_addressPairs, loopSize, if_pos hb,
      ← length_geometryPairs w (u.planes 0)]
    omega
  have hstored : (RegUpdate.run o (.wm u)).stored = (listOf o u.cmd (updateWmStep u)).2.1.stored := by
    rw [run_of_admitted h, update, writeCmd_stored]
    rfl
  have hrc : (RegUpdate.run o (.wm u)).rc = 0 ↔
      cdmRequiredSizeRegRandom (fixedPairs w + (w.irqSubsamplePeriod + 1).toNat) * 4 ≤ u.cmd.size := by
    rw [run_of_admitted h, update, writeCmd_rc, ← listOf, hj, hlist,
      Nat.mul_div_cancel_left _ (by decide)]
    exact and_iff_right rfl
  have hmax : MAX_REG_VAL_PAIR_SIZE = 168 := rfl
  have hin : (∀ s ∈ (RegUpdate.run o (.wm u)).stored, s.idx + 1 < MAX_REG_VAL_PAIR_SIZE) ↔
      fixedPairs w + (w.irqSubsamplePeriod + 1).toNat ≤ MAX_REG_VAL_PAIR_SIZE / 2 := by
    rw [hstored, hl.inArray_iff, hj]
    omega
  constructor
  · rintro ⟨harr, -, hframes⟩
    refine ⟨hin.1 harr, ?_⟩
    by_contra hcon
    obtain ⟨hwrap, hsize⟩ := not_or.1 hcon
    have hperiod := w.irqSubsamplePeriod.toNat_lt
    -- With the largest period the counter of the frames is zero, and no address is stored.
    have hzero : (w.irqSubsamplePeriod + 1).toNat = 0 := by
      rw [toNat_period_add_one]
      omega
    have := hframes (hrc.2 (by rw [hzero, Nat.add_zero]; omega)) 0 w (by rw [hws]; rfl) hb
    rw [hstored, hpairs] at this
    have hlen := this.length_le
    rw [frameAddrs, List.length_map, List.length_range, List.length_append, length_addressPairs,
      loopSize, if_pos hb, hzero] at hlen
    have := length_geometryPairs w (u.planes 0)
    have : fixedPairs w ≤ 4 := by
      rw [fixedPairs]
      split_ifs <;> decide
    omega
  · rintro ⟨hfit, hcount⟩
    refine ⟨hin.2 hfit, ?_, ?_⟩
    · rw [run_of_admitted h]
      exact writeCmd_command o u.cmd _ hl
    · intro hok i w' hw' _
      obtain ⟨rfl, rfl⟩ : i = 0 ∧ w = w' := by
        rw [hws] at hw'
        cases i with
        | zero => exact ⟨rfl, Option.some.inj hw'⟩
        | succ i => cases hw'
      have hlt : w.irqSubsamplePeriod.toNat + 1 < 2 ^ 32 := by
        refine hcount.resolve_right fun hsmall => ?_
        have := hrc.1 hok
        rw [cdmRequiredSizeRegRandom] at this hsmall
        omega
      rw [hstored, hpairs, addressPairs, imageAddrs_eq_frameAddrs hb hlt]
      exact ⟨geometryPairs w (u.planes 0), _, by rw [List.append_assoc]⟩

lemma sound_iff_good {o : OutData} (hs : Shape o.wms) (u : RegUpdate) :
    SoundAt o u ↔ u.Good o := by
  cases u with
  | hfr h c => exact iff_of_true (hfr_sound hs h c) trivial
  | wm u =>
    by_cases hadm : u.Admitted o
    · cases hws : o.wms with
      | nil =>
        refine iff_of_true (wm_sound_of_plain (by rw [hws]; decide) (by rw [hws]; simp) u) ?_
        intro _ _ w hw
        rw [hws] at hw
        exact (List.not_mem_nil hw).elim
      | cons w ws =>
        rw [hws] at hs
        cases hs with
        | plain hlen hb =>
          rw [← hws] at hlen hb
          refine iff_of_true (wm_sound_of_plain hlen hb u) ?_
          intro _ _ w hw hlite hidx
          have := hb w hw
          simp [WmData.batched, hlite, hidx] at this
        | batched hb hu hp =>
          rw [wm_sound_iff_roomy hws hb hu hadm]
          constructor
          · intro hr _ _ w' hw' _ _
            rw [hws] at hw'
            rw [List.mem_singleton.1 hw']
            exact hr
          · intro hg
            by_cases hidx : w.index ≤ 2
            · exact roomy_of_period_le (hp hidx) _
            · have hrdi3 : w.isLite = true ∧ w.index = 3 := by
                simp only [WmData.batched, Bool.or_eq_true, decide_eq_true_eq, Bool.and_eq_true,
                  beq_iff_eq] at hb
                exact hb.resolve_left (by omega)
              exact hg hadm.1 hadm.2 w (by rw [hws]; exact List.mem_cons_self ..) hrdi3.1 hrdi3.2
    · exact iff_of_true (sound_of_not_admitted hadm) fun h1 h2 => absurd ⟨h1, h2⟩ hadm

lemma acquireWm_spec {isLite isDual : Bool} {info : OutPortInfo} {plane : ℕ} {w w' : WmData}
    (h : camVfeBusAcquireWm isLite isDual info plane w = some w') :
    w'.index = w.index ∧ w'.isLite = isLite ∧ w'.irqSubsamplePeriod = w.irqSubsamplePeriod ∧
      (w'.batched = true → w'.enUbwc = w.enUbwc) := by
  simp only [camVfeBusAcquireWm] at h
  split_ifs at h with hb
  any_goals (cases h; exact ⟨rfl, rfl, rfl, fun _ => rfl⟩)
  all_goals
    cases hp : planarWm info.format info.width with
    | none =>
      rw [hp] at h
      cases h
    | some r =>
      rw [hp] at h
      cases h <;> exact ⟨rfl, rfl, rfl, fun hb' => absurd hb' hb⟩

lemma acquireWm_isSome (isLite isDual : Bool) (info : OutPortInfo) (plane : ℕ) (w : WmData) :
    (camVfeBusAcquireWm isLite isDual info plane w).isSome =
      wmFormatOk isLite w.index info.format plane := by
  have hplanar : (planarWm info.format info.width).isSome =
      [ubwcNv12_4r, ubwcNv12, nv21, nv12, yOnly, ubwcTp10, tp10, plain16_10].contains info.format := by
    rw [planarWm]
    split_ifs with h1 h2 h3 h4 h5 h6
    · rw [h1]; rfl
    · rw [h2]; rfl
    · simp only [List.mem_cons, List.not_mem_nil, or_false] at h3
      rcases h3 with h3 | h3 | h3 <;> rw [h3] <;> rfl
    · rw [h4]; rfl
    · rw [h5]; rfl
    · rw [h6]; rfl
    · simp only [List.mem_cons, List.not_mem_nil, or_false, not_or] at h3
      simp [h1, h2, h3, h4, h5, h6]
  simp only [camVfeBusAcquireWm, wmFormatOk, WmData.batched]
  by_cases hb : (decide (w.index < 3) || isLite && w.index == 3) = true
  · rw [if_pos hb, if_pos hb]
    change _ = rdiFormats.contains info.format
    cases rdiFormats.contains info.format <;> rfl
  · have hcond : (decide (w.index < 5) || w.index == 7 || w.index == 8 || w.index == 20 ||
        w.index == 21) = true ↔
        (w.index < 5 ∨ w.index = 7 ∨ w.index = 8 ∨ w.index = 20 ∨ w.index = 21) := by
      simp [or_assoc]
    rw [if_neg hb, if_neg hb]
    by_cases hidx : w.index < 5 ∨ w.index = 7 ∨ w.index = 8 ∨ w.index = 20 ∨ w.index = 21
    · rw [if_pos hidx, if_pos (hcond.2 hidx), ← hplanar]
      cases planarWm info.format info.width with
      | none => rfl
      | some r =>
        by_cases hlt : plane < 2
        · simp [hlt]
        · simp [hlt]
    · rw [if_neg hidx, if_neg fun h => hidx (hcond.1 h)]
      split_ifs <;> rfl

lemma getWmIdx_of_second {o : VfeOutType} {j k : ℕ} (hj : camVfeBusGetWmIdx o 0 = some j)
    (hk : camVfeBusGetWmIdx o 1 = some k) : 3 ≤ j ∧ 4 ≤ k := by
  cases o
  case full | fd | fullDisp =>
    cases hj
    cases hk
    decide
  all_goals cases hk

section
variable {hw : BusHw} {o : VfeOutType} {isDual cdmUtilOps : Bool} {info : OutPortInfo}

lemma acquirePlane_spec {plane : ℕ} {w : WmData} (h : acquirePlane hw o isDual info plane = some w) :
    camVfeBusGetWmIdx o plane = some w.index ∧ w.index < hw.numClient ∧ w.isLite = hw.isLite ∧
      w.irqSubsamplePeriod = 0 ∧ (w.batched = true → w.enUbwc = false) := by
  obtain ⟨index, hidx, h⟩ := Option.bind_eq_some_iff.1 h
  split_ifs at h with hlt
  obtain ⟨hi, hlite, hper, hu⟩ := acquireWm_spec h
  exact ⟨hi ▸ hidx, hi ▸ Nat.not_le.1 hlt, hlite, hper, hu⟩

lemma acquire_shape {out : OutData}
    (h : camVfeBusAcquireVfeOut hw o isDual cdmUtilOps info = some out) : Shape out.wms := by
  rw [camVfeBusAcquireVfeOut] at h
  split_ifs at h with hnum
  obtain ⟨wms, hwms, rfl⟩ := Option.map_eq_some_iff.1 h
  have hle := VfeBus.getNumWm_le o info.format
  obtain hone | htwo : (camVfeBusGetNumWm o info.format).toNat = 1 ∨
      (camVfeBusGetNumWm o info.format).toNat = 2 := by omega
  · rw [hone, List.range_one] at hwms
    simp only [List.mapM_cons, List.mapM_nil, Option.bind_eq_bind, Option.bind_eq_some_iff,
      Option.pure_def, Option.some.injEq] at hwms
    obtain ⟨w, hw', _, rfl, rfl⟩ := hwms
    obtain ⟨-, -, -, hper, hu⟩ := acquirePlane_spec hw'
    by_cases hb : w.batched = true
    · exact .batched hb (hu hb) fun _ => by rw [hper]; decide
    · exact .plain (Nat.le_succ 1) fun w' hw' =>
        (List.mem_singleton.1 hw') ▸ Bool.eq_false_of_not_eq_true hb
  · rw [htwo, List.range_succ, List.range_one] at hwms
    simp only [List.cons_append, List.nil_append, List.mapM_cons, List.mapM_nil,
      Option.bind_eq_bind, Option.bind_eq_some_iff, Option.pure_def, Option.some.injEq] at hwms
    obtain ⟨w, h0, _, ⟨w', h1, _, rfl, rfl⟩, rfl⟩ := hwms
    obtain ⟨hi, -, hlite, -, -⟩ := acquirePlane_spec h0
    obtain ⟨hi', hlt', hlite', -, -⟩ := acquirePlane_spec h1
    obtain ⟨h3, h4⟩ := getWmIdx_of_second hi hi'
    -- The tables of an IFE lite have no client for a second plane.
    have hfull : hw.isLite = false := by
      by_contra hne
      have := hw.lite (Bool.eq_true_of_not_eq_false hne)
      omega
    refine .plain (Nat.le_refl _) fun v hv => ?_
    have hv' : 3 ≤ v.index ∧ v.isLite = false := by
      rcases List.mem_cons.1 hv with rfl | hv
      · exact ⟨h3, hlite.trans hfull⟩
      · rw [List.mem_singleton.1 hv]
        exact ⟨by omega, hlite'.trans hfull⟩
    rw [WmData.batched, hv'.2]
    simpa using hv'.1

end

lemma updateUbwcWms_kept (cfg : ℕ → UbwcPlaneCfg) (i : ℕ) (ws : List WmData) :
    List.Forall₂ WmKept ws (updateUbwcWms cfg i ws).1 := by
  induction ws generalizing i with
  | nil => exact .nil
  | cons w ws ih =>
    simp only [updateUbwcWms]
    split_ifs
    · exact wmsKept_refl _
    · exact wmsKept_refl _
    · exact .cons ⟨rfl, rfl, rfl, fun _ h => h⟩ (ih (i + 1))

lemma mapIdx_kept {f : ℕ → WmData → WmData} (hf : ∀ i w, WmKept w (f i w)) (ws : List WmData) :
    List.Forall₂ WmKept ws (ws.mapIdx f) := by
  induction ws generalizing f with
  | nil => exact .nil
  | cons w ws ih =>
    rw [List.mapIdx_cons]
    exact .cons (hf 0 w) (ih fun i w => hf (i + 1) w)

lemma run_kept (o : OutData) (call : Call) : List.Forall₂ WmKept o.wms (call.run o).wms := by
  cases call with
  | regs u =>
    cases u with
    | wm u =>
      simp only [Call.run, RegUpdate.run, camVfeBusUpdateWm]
      split_ifs
      · exact wmsKept_refl _
      · exact wmsKept_refl _
      · exact update_kept (updateWmStep_kept u)
    | hfr h c =>
      simp only [Call.run, RegUpdate.run, camVfeBusUpdateHfr]
      split_ifs
      · exact wmsKept_refl _
      · exact update_kept (updateHfrStep_kept h)
  | ubwc cfg =>
    simp only [Call.run, camVfeBusUpdateUbwcConfig]
    split_ifs
    · exact wmsKept_refl _
    · exact updateUbwcWms_kept cfg 0 o.wms
  | stripe inRange stripes =>
    simp only [Call.run, camVfeBusUpdateStripeCfg]
    split_ifs
    · exact wmsKept_refl _
    · apply mapIdx_kept
      exact fun _ _ => ⟨rfl, rfl, rfl, fun _ h => h⟩

lemma run_shape {o : OutData} (h : Shape o.wms) (cs : List Call) : Shape (run o cs).wms := by
  induction cs generalizing o with
  | nil => exact h
  | cons call cs ih => exact ih (h.kept (run_kept o call))

/-- After any calls on an acquired output, the next update of registers stays in its array, and its
command is what it stored with an address for every frame, just when RDI 3 of an IFE lite does not
take more frames than there is room for. -/
theorem registerList_sound_iff_good {hw : BusHw} {o : VfeOutType} {isDual cdmUtilOps : Bool}
    {info : OutPortInfo} {out : OutData}
    (h : camVfeBusAcquireVfeOut hw o isDual cdmUtilOps info = some out) (calls : List Call)
    (u : RegUpdate) : SoundAt (run out calls) u ↔ u.Good (run out calls) :=
  sound_iff_good (run_shape (acquire_shape h) calls) u

/-- Offsets of a client without UBWC. -/
def liteRegs : RegOffsetBusClient :=
  ⟨0x2200, 0x2210, 0x2218, 0x2220, 0x2224, 0x2230, 0x2234, 0x2238, 0x223C, 0x2240, none⟩

def liteHw : BusHw := ⟨4, true, fun _ => liteRegs, fun _ => rfl⟩

def rawPort : OutPortInfo := ⟨mipiRaw8, 640, 0⟩

def kmdBuf (size : ℕ) : CmdBuf := ⟨fun _ => 0, 0, size, fun _ _ => 0⟩

/-- An interrupt for every `period + 1` frames. -/
def everyFrames (period : UInt32) : HfrConfig := ⟨1, period, 1, 0⟩

def oneBuffer : WmUpdate where
  common := ⟨.ok CAM_CPAS_TITAN_170_V110, CAM_CPAS_TITAN_170_V110, (0, 0), (0, 0)⟩
  numBuf := 1
  imageBuf _ := 0x10000000
  planes _ := ⟨640, 480, 0⟩
  cmd := kmdBuf 4096

def rdi3Out : OutData :=
  (camVfeBusAcquireVfeOut liteHw .rdi3 false true rawPort).getD ⟨[], false⟩

lemma rdi3Out_acquired :
    camVfeBusAcquireVfeOut liteHw .rdi3 false true rawPort = some rdi3Out := by decide +kernel

theorem registerList_sound_fourFrames :
    SoundAt (run rdi3Out [.regs (.hfr (everyFrames 3) (kmdBuf 4096))]) (.wm oneBuffer) :=
  (registerList_sound_iff_good rdi3Out_acquired [.regs (.hfr (everyFrames 3) (kmdBuf 4096))]
    (.wm oneBuffer)).2 (by
      have hrun : (run rdi3Out [.regs (.hfr (everyFrames 3) (kmdBuf 4096))]).wms =
          [{ camVfeBusReleaseWm true 3 liteRegs with
            format := mipiRaw8, width := 640, enCfg := 1, framedropPattern := 1
            irqSubsamplePeriod := 3, irqSubsamplePattern := 1 }] := by decide +kernel
      intro _ _ w hw _ _
      rw [hrun, List.mem_singleton] at hw
      rw [hw]
      decide)

/-- A frame drop with 101 frames an interrupt is accepted, and the addresses of the next update run
past the array. -/
theorem registerList_not_sound :
    (RegUpdate.run rdi3Out (.hfr (everyFrames 100) (kmdBuf 4096))).rc = 0 ∧
      ¬ SoundAt (run rdi3Out [.regs (.hfr (everyFrames 100) (kmdBuf 4096))]) (.wm oneBuffer) := by
  refine ⟨by decide +kernel, fun h => ?_⟩
  have hidx : ¬ ∀ s ∈ (RegUpdate.run (run rdi3Out [.regs (.hfr (everyFrames 100) (kmdBuf 4096))])
      (.wm oneBuffer)).stored, s.idx + 1 < MAX_REG_VAL_PAIR_SIZE := by decide +kernel
  exact hidx h.inArray

end CameraKernel.VfeBusUpdate
