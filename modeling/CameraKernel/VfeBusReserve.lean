import CameraKernel.VfeBusAccount

/-! The calls on a VFE bus against its books. An acquire that keeps them takes all that the
output needs or, for an output outside the secure count, nothing; a release gives all back. -/
namespace CameraKernel.VfeBus
open MachineInt

section
variable {b b' : BusVer2} {o : VfeOutType}

lemma releaseCompGrp_last {g : Fin 12} (hstate : (b.compGrp g).resState = .reserved)
    (hused : g ∈ b.usedCompGrp) (hone : (b.compGrp g).acquireDevCnt = 1) :
    camVfeBusReleaseCompGrp b (some g) = (0, { b with
      compGrp := Function.update b.compGrp g ⟨.available, camVfeBusCompGroupNone, 0, 0, 0⟩
      freeCompGrp := if 6 ≤ g.val then b.freeCompGrp else b.freeCompGrp ++ [g]
      freeDualCompGrp := if 6 ≤ g.val then b.freeDualCompGrp ++ [g] else b.freeDualCompGrp
      usedCompGrp := b.usedCompGrp.erase g }) := by
  have hdec : u32Dec 1 = 0 := by decide
  by_cases hg : 6 ≤ g.val <;>
    simp [camVfeBusReleaseCompGrp, hstate, hused, hone, hdec, BusVer2.setGrp, hg]

lemma releaseCompGrp_shared {g : Fin 12} {n : ℕ} (hstate : (b.compGrp g).resState = .reserved)
    (hused : g ∈ b.usedCompGrp) (hcnt : (b.compGrp g).acquireDevCnt = n + 2) :
    camVfeBusReleaseCompGrp b (some g) =
      (0, b.setGrp g fun d => { d with acquireDevCnt := n + 1 }) := by
  simp [camVfeBusReleaseCompGrp, hstate, hused, hcnt, u32Dec, BusVer2.setGrp]

lemma releaseSecure_of_secure (hs : camVfeBusCanBeSecure o = true)
    (hmode : (b.vfeOut o).secureMode = b.secureMode) :
    (releaseSecure b o).numSecOut = u32Dec b.numSecOut ∧
    ((releaseSecure b o).numSecOut ≠ 0 → (releaseSecure b o).secureMode = b.secureMode) := by
  by_cases hz : u32Dec b.numSecOut = 0 <;> simp [releaseSecure, hs, hmode, hz]

lemma releaseSecure_of_not (hs : camVfeBusCanBeSecure o = false) : releaseSecure b o = b := by
  simp [releaseSecure, hs]

lemma releaseSecure_rest : (releaseSecure b o).busClient = b.busClient ∧
    (releaseSecure b o).compGrp = b.compGrp ∧ (releaseSecure b o).freeCompGrp = b.freeCompGrp ∧
    (releaseSecure b o).freeDualCompGrp = b.freeDualCompGrp ∧
    (releaseSecure b o).usedCompGrp = b.usedCompGrp ∧
    (∀ o' ≠ o, (releaseSecure b o).vfeOut o' = b.vfeOut o') ∧
    ((releaseSecure b o).vfeOut o).resState = (b.vfeOut o).resState := by
  unfold releaseSecure
  split
  · by_cases hmode : (b.vfeOut o).secureMode = b.secureMode <;> simp only [hmode, if_true, if_false]
    · split <;> simp +contextual
    · split <;> simp
  · simp

/-- What an acquired output, alone in its group, gives back before the count. -/
structure GivesBack (o : VfeOutType) (b b' : BusVer2) : Prop where
  out : b'.vfeOut = Function.update b.vfeOut o { b.vfeOut o with numWm := 0, compGrp := none }
  given : ∀ k ∈ (b.vfeOut o).wms, b'.busClient k = .available
  kept : ∀ k ∉ (b.vfeOut o).wms, b'.busClient k = b.busClient k
  grpOther : ∀ g, (b.vfeOut o).compGrp ≠ some g → b'.compGrp g = b.compGrp g
  grp : ∀ g, (b.vfeOut o).compGrp = some g → (b'.compGrp g).acquireDevCnt = 0 ∧
    (b'.compGrp g).resState = .available ∧ (b'.compGrp g).compositeMask = 0
  once : ∀ g, b'.freeCompGrp.count g + b'.freeDualCompGrp.count g + b'.usedCompGrp.count g =
    b.freeCompGrp.count g + b.freeDualCompGrp.count g + b.usedCompGrp.count g
  used : ∀ g, g ∈ b'.usedCompGrp ↔ g ∈ b.usedCompGrp ∧ (b.vfeOut o).compGrp ≠ some g
  single : ∀ g ∈ b'.freeCompGrp, g ∈ b.freeCompGrp ∨ ¬ 6 ≤ g.val
  dual : ∀ g ∈ b'.freeDualCompGrp, g ∈ b.freeDualCompGrp ∨ 6 ≤ g.val
  secureMode : b'.secureMode = b.secureMode
  numSecOut : b'.numSecOut = b.numSecOut

lemma Inv.used_of_sharer (hb : Inv b) (hacq : (b.vfeOut o).acquired = true) {g : Fin 12}
    (hg : (b.vfeOut o).compGrp = some g) : g ∈ b.usedCompGrp := by
  rw [hb.grpUsed g, hb.grpCnt g]
  exact Finset.card_pos.mpr ⟨o, mem_sharers.mpr ⟨hacq, hg⟩⟩

lemma Inv.count_used (hb : Inv b) (g : Fin 12) : b.usedCompGrp.count g ≤ 1 := by
  have := hb.grpOnce g
  omega

lemma releaseHeld_givesBack (hb : Inv b) (hacq : (b.vfeOut o).acquired = true)
    (halone : ∀ g, (b.vfeOut o).compGrp = some g → (b.compGrp g).acquireDevCnt = 1) :
    GivesBack o b (releaseHeld b o) := by
  have hwm : ∀ k, some k ∈ (List.range (b.vfeOut o).numWm).map (b.vfeOut o).wmRes ↔
      k ∈ (b.vfeOut o).wms := by simp [VfeOut.wms]
  cases hg : (b.vfeOut o).compGrp with
  | none =>
    have heq : releaseHeld b o = { b with
        busClient := fun k => if k ∈ (b.vfeOut o).wms then .available else b.busClient k
        vfeOut := Function.update b.vfeOut o { b.vfeOut o with numWm := 0, compGrp := none } } := by
      simp [releaseHeld, releaseWms_eq, hg, BusVer2.setOut, hwm]
    rw [heq]
    constructor <;> simp +contextual [hg]
  | some g =>
    have hused := hb.used_of_sharer hacq hg
    have heq : releaseHeld b o = { b with
        busClient := fun k => if k ∈ (b.vfeOut o).wms then .available else b.busClient k
        vfeOut := Function.update b.vfeOut o { b.vfeOut o with numWm := 0, compGrp := none }
        compGrp := Function.update b.compGrp g ⟨.available, camVfeBusCompGroupNone, 0, 0, 0⟩
        freeCompGrp := if 6 ≤ g.val then b.freeCompGrp else b.freeCompGrp ++ [g]
        freeDualCompGrp := if 6 ≤ g.val then b.freeDualCompGrp ++ [g] else b.freeDualCompGrp
        usedCompGrp := b.usedCompGrp.erase g } := by
      simp only [releaseHeld, releaseWms_eq, hg, Option.isSome_some, if_true]
      rw [releaseCompGrp_last (by exact hb.used g hused) (by exact hused) (by exact halone g hg)]
      simp [BusVer2.setOut, hwm, hg]
    rw [heq]
    have hcount := hb.count_used g
    have hpos := List.count_pos_iff.mpr hused
    constructor
    case out => rfl
    case once =>
      intro g'
      by_cases hgg : g' = g
      · subst hgg
        by_cases h6 : 6 ≤ g'.val <;> simp [h6] <;> omega
      · by_cases h6 : 6 ≤ g.val <;> simp [h6, List.count_erase_of_ne hgg, Ne.symm hgg]
    case used =>
      intro g'
      by_cases hgg : g' = g
      · subst hgg
        have hzero : (b.usedCompGrp.erase g').count g' = 0 := by
          rw [List.count_erase_self]
          omega
        simp [hg, List.count_eq_zero.mp hzero]
      · simp [hg, Ne.symm hgg, List.mem_erase_of_ne hgg]
    case single =>
      intro g' hg'
      by_cases h6 : 6 ≤ g.val
      · exact .inl (by simpa [h6] using hg')
      · have hor : g' ∈ b.freeCompGrp ∨ g' = g := by simpa [h6] using hg'
        exact hor.imp id (by rintro rfl; exact h6)
    all_goals
      by_cases h6 : 6 ≤ g.val <;> simp +contextual [h6, hg, eq_comm, or_imp]

theorem releaseVfeOut_frees (hb : Inv b) (hacq : (b.vfeOut o).acquired = true)
    (halone : ∀ g, (b.vfeOut o).compGrp = some g → (b.compGrp g).acquireDevCnt = 1) :
    Frees o b (camVfeBusReleaseVfeOut b o) := by
  have h := releaseHeld_givesBack hb hacq halone
  have hself : (releaseHeld b o).vfeOut o =
      { b.vfeOut o with numWm := 0, compGrp := none } := by rw [h.out, Function.update_self]
  obtain ⟨hclient, hgrp, hfree, hdual, hused, hrest, hstate⟩ :=
    releaseSecure_rest (b := releaseHeld b o) (o := o)
  have hres : ((releaseSecure (releaseHeld b o) o).vfeOut o).resState = .reserved := by
    rw [hstate, hself]
    exact (hb.planes o hacq).1
  have heq : camVfeBusReleaseVfeOut b o =
      (releaseSecure (releaseHeld b o) o).setOut o fun v => { v with resState := .available } := by
    simp only [camVfeBusReleaseVfeOut, hres, if_true]
  rw [heq]
  constructor
  case state => simp [VfeOut.acquired]
  case rest =>
    intro o' ho'
    simp [ho', hrest o' ho', h.out]
  case given => simpa [hclient] using h.given
  case kept => simpa [hclient] using h.kept
  case grpOther => simpa [hgrp] using h.grpOther
  case grp => simpa [hgrp] using h.grp
  case once => simpa [hfree, hdual, hused] using h.once
  case used => simpa [hused] using h.used
  case single => simpa [hfree] using h.single
  case dual => simpa [hdual] using h.dual
  case counted =>
    intro hs
    have hmode : ((releaseHeld b o).vfeOut o).secureMode = (releaseHeld b o).secureMode := by
      rw [hself, h.secureMode]
      exact hb.secMode o (mem_secureOuts.mpr ⟨hacq, hs⟩)
    simpa [h.numSecOut, h.secureMode] using releaseSecure_of_secure hs hmode
  case uncounted =>
    intro hs
    simp [releaseSecure_of_not hs, h.numSecOut, h.secureMode]

/-! ### Masters of an output, plane after plane -/

lemma acquireWm_served {cfg : BusCfg} {format p : ℕ} (hfree : wmFree cfg b o p = true)
    (htakes : wmTakes cfg o format p = true) :
    ∃ k, camVfeBusGetWmIdx o p = some k ∧ b.busClient k = .available ∧
      camVfeBusAcquireWm cfg b o format p = (0, 1#32 <<< k, (b.setWm k .reserved).setOut o
        fun v => { v with wmRes := Function.update v.wmRes p (some k) }) := by
  unfold wmFree at hfree
  unfold wmTakes at htakes
  cases hidx : camVfeBusGetWmIdx o p with
  | none => simp [hidx] at hfree
  | some k =>
    simp only [hidx, Bool.and_eq_true, decide_eq_true_eq, beq_iff_eq] at hfree htakes
    refine ⟨k, rfl, hfree.2, ?_⟩
    simp [camVfeBusAcquireWm, hidx, hfree.1, hfree.2, htakes, BusVer2.setOut, BusVer2.setWm]

lemma acquireWm_refused {cfg : BusCfg} (format : ℕ) {p : ℕ} (hfree : wmFree cfg b o p = false) :
    ∃ rc, rc ≠ 0 ∧ camVfeBusAcquireWm cfg b o format p =
      (rc, 0, b.setOut o fun v => { v with wmRes := Function.update v.wmRes p none }) := by
  unfold wmFree at hfree
  cases hidx : camVfeBusGetWmIdx o p with
  | none => exact ⟨-Errno.EINVAL, by decide, by simp [camVfeBusAcquireWm, hidx]⟩
  | some k =>
    by_cases hlt : cfg.numClient ≤ k
    · exact ⟨-Errno.EINVAL, by decide, by simp [camVfeBusAcquireWm, hidx, hlt]⟩
    · have hav : b.busClient k ≠ .available := by
        simpa [hidx, Nat.lt_of_not_le hlt] using hfree
      exact ⟨-Errno.EALREADY, by decide, by simp [camVfeBusAcquireWm, hidx, hlt, hav]⟩

/-- The output takes the masters of the planes from `i` on, and adds them to its group. -/
structure TakesWms (o : VfeOutType) (i n : ℕ) (b b' : BusVer2) : Prop where
  rest : ∀ o' ≠ o, b'.vfeOut o' = b.vfeOut o'
  out : b'.vfeOut o = { b.vfeOut o with wmRes := (b'.vfeOut o).wmRes }
  wmRes : ∀ p, (b'.vfeOut o).wmRes p =
    if i ≤ p ∧ p < i + n then camVfeBusGetWmIdx o p else (b.vfeOut o).wmRes p
  isSome : ∀ p, i ≤ p → p < i + n → (camVfeBusGetWmIdx o p).isSome = true
  taken : ∀ p k, i ≤ p → p < i + n → camVfeBusGetWmIdx o p = some k →
    b.busClient k = .available ∧ b'.busClient k = .reserved
  kept : ∀ k, (∀ p, i ≤ p → p < i + n → camVfeBusGetWmIdx o p ≠ some k) →
    b'.busClient k = b.busClient k
  grp : ∀ g, b'.compGrp g = { b.compGrp g with compositeMask := (b'.compGrp g).compositeMask }
  mask : ∀ g k, (b'.compGrp g).compositeMask.getLsbD k = true ↔
    (b.compGrp g).compositeMask.getLsbD k = true ∨ ((b.vfeOut o).compGrp = some g ∧
      ∃ p, i ≤ p ∧ p < i + n ∧ camVfeBusGetWmIdx o p = some k)
  free : b'.freeCompGrp = b.freeCompGrp
  dual : b'.freeDualCompGrp = b.freeDualCompGrp
  used : b'.usedCompGrp = b.usedCompGrp
  secureMode : b'.secureMode = b.secureMode
  numSecOut : b'.numSecOut = b.numSecOut

lemma getLsbD_shift {k j : ℕ} (hk : k < 24) : (1#32 <<< k).getLsbD j = decide (j = k) := by
  rw [BitVec.getLsbD_shiftLeft, BitVec.getLsbD_one]
  by_cases hj : j = k
  · subst hj
    simp
    omega
  · simp [hj]
    omega

theorem takesWms_one {cfg : BusCfg} {format i : ℕ} (hfree : wmFree cfg b o i = true)
    (htakes : wmTakes cfg o format i = true) :
    ∃ mask b₁, camVfeBusAcquireWm cfg b o format i = (0, mask, b₁) ∧ TakesWms o i 1 b
      (addToCompGrp b₁ o mask) := by
  obtain ⟨k, hidx, hav, heq⟩ := acquireWm_served hfree htakes
  have hone : ∀ p, i ≤ p ∧ p < i + 1 ↔ p = i := by omega
  refine ⟨_, _, heq, ?_⟩
  have hk := getWmIdx_lt hidx
  cases hg : (b.vfeOut o).compGrp with
  | none =>
    simp only [addToCompGrp, BusVer2.setOut_vfeOut, Function.update_self, BusVer2.setWm_vfeOut, hg]
    constructor
    case rest => simp +contextual
    case wmRes =>
      intro p
      by_cases hp : p = i
      · simp [hp, hidx]
      · rw [if_neg (mt (hone p).mp hp)]
        simp [hp]
    case isSome =>
      intro p h₁ h₂
      simp [(hone p).mp ⟨h₁, h₂⟩, hidx]
    case taken =>
      intro p k' h₁ h₂ hk'
      obtain rfl : k = k' := by simpa [(hone p).mp ⟨h₁, h₂⟩, hidx] using hk'
      simp [hav]
    case kept =>
      intro k' hk'
      have hne : k ≠ k' := fun heq => hk' i le_rfl (Nat.lt_succ_self i) (heq ▸ hidx)
      simp [hne.symm]
    case mask => simp [hg]
    all_goals simp [hg, BusVer2.setOut, BusVer2.setWm]
  | some g =>
    simp only [addToCompGrp, BusVer2.setOut_vfeOut, Function.update_self, BusVer2.setWm_vfeOut, hg]
    constructor
    case rest => simp +contextual [camVfeBusAddWmToCompGrp]
    case wmRes =>
      intro p
      by_cases hp : p = i
      · simp [camVfeBusAddWmToCompGrp, hp, hidx]
      · rw [if_neg (mt (hone p).mp hp)]
        simp [camVfeBusAddWmToCompGrp, hp]
    case isSome =>
      intro p h₁ h₂
      simp [(hone p).mp ⟨h₁, h₂⟩, hidx]
    case taken =>
      intro p k' h₁ h₂ hk'
      obtain rfl : k = k' := by simpa [(hone p).mp ⟨h₁, h₂⟩, hidx] using hk'
      simp [camVfeBusAddWmToCompGrp, hav]
    case kept =>
      intro k' hk'
      have hne : k ≠ k' := fun heq => hk' i le_rfl (Nat.lt_succ_self i) (heq ▸ hidx)
      simp [camVfeBusAddWmToCompGrp, hne.symm]
    case mask =>
      intro g' j
      have hex : (∃ p, i ≤ p ∧ p < i + 1 ∧ camVfeBusGetWmIdx o p = some j) ↔ k = j := by
        constructor
        · rintro ⟨p, h₁, h₂, hp⟩
          simpa [(hone p).mp ⟨h₁, h₂⟩, hidx] using hp
        · rintro rfl
          exact ⟨i, le_rfl, Nat.lt_succ_self i, hidx⟩
      rw [hex]
      by_cases hgg : g' = g
      · subst hgg
        simp [camVfeBusAddWmToCompGrp, getLsbD_shift hk, hg, eq_comm (a := j)]
      · simp [camVfeBusAddWmToCompGrp, hgg, hg, Ne.symm hgg]
    case grp =>
      intro g'
      by_cases hgg : g' = g
      · subst hgg
        simp [camVfeBusAddWmToCompGrp]
      · simp [camVfeBusAddWmToCompGrp, hgg]
    all_goals simp [camVfeBusAddWmToCompGrp, BusVer2.setOut, BusVer2.setWm, BusVer2.setGrp]

lemma TakesWms.append {b'' : BusVer2} {i n m : ℕ} (h : TakesWms o i n b b')
    (h' : TakesWms o (i + n) m b' b'') : TakesWms o i (n + m) b b'' := by
  have hsplit : ∀ p, i ≤ p ∧ p < i + (n + m) ↔ (i ≤ p ∧ p < i + n) ∨ (i + n ≤ p ∧ p < i + n + m) := by
    omega
  have hgrp : (b'.vfeOut o).compGrp = (b.vfeOut o).compGrp := by rw [h.out]
  constructor
  case rest =>
    intro o' ho'
    rw [h'.rest o' ho', h.rest o' ho']
  case out =>
    rw [h'.out, h.out]
  case wmRes =>
    intro p
    rw [h'.wmRes p, h.wmRes p]
    split_ifs <;> first | rfl | omega
  case isSome =>
    intro p h₁ h₂
    rcases (hsplit p).mp ⟨h₁, h₂⟩ with hp | hp
    · exact h.isSome p hp.1 hp.2
    · exact h'.isSome p hp.1 hp.2
  case taken =>
    intro p k h₁ h₂ hk
    rcases (hsplit p).mp ⟨h₁, h₂⟩ with hp | hp
    · obtain ⟨hav, hres⟩ := h.taken p k hp.1 hp.2 hk
      refine ⟨hav, ?_⟩
      rw [h'.kept k fun q hq₁ hq₂ hq => ?_, hres]
      have := getWmIdx_inj hk hq
      omega
    · obtain ⟨hav, hres⟩ := h'.taken p k hp.1 hp.2 hk
      refine ⟨?_, hres⟩
      rwa [h.kept k fun q hq₁ hq₂ hq => ?_] at hav
      have := getWmIdx_inj hk hq
      omega
  case kept =>
    intro k hk
    rw [h'.kept k fun p hp₁ hp₂ => hk p (by omega) (by omega),
      h.kept k fun p hp₁ hp₂ => hk p (by omega) (by omega)]
  case grp =>
    intro g
    rw [h'.grp g, h.grp g]
  case mask =>
    intro g k
    rw [h'.mask g k, h.mask g k, hgrp, or_assoc, ← and_or_left]
    refine or_congr_right (and_congr_right fun _ => ?_)
    constructor
    · rintro (⟨p, hp₁, hp₂, hp⟩ | ⟨p, hp₁, hp₂, hp⟩)
      · exact ⟨p, hp₁, by omega, hp⟩
      · exact ⟨p, by omega, by omega, hp⟩
    · rintro ⟨p, hp₁, hp₂, hp⟩
      exact ((hsplit p).mp ⟨hp₁, hp₂⟩).imp (fun hs => ⟨p, hs.1, hs.2, hp⟩) fun hs => ⟨p, hs.1, hs.2, hp⟩
  case free => rw [h'.free, h.free]
  case dual => rw [h'.dual, h.dual]
  case used => rw [h'.used, h.used]
  case secureMode => rw [h'.secureMode, h.secureMode]
  case numSecOut => rw [h'.numSecOut, h.numSecOut]

lemma TakesWms.wmFree {cfg : BusCfg} {i n p : ℕ} (h : TakesWms o i n b b') (hp : i + n ≤ p)
    (hfree : wmFree cfg b o p = true) : wmFree cfg b' o p = true := by
  unfold VfeBus.wmFree at hfree ⊢
  cases hidx : camVfeBusGetWmIdx o p with
  | none => simp [hidx] at hfree
  | some k =>
    simp only [hidx] at hfree ⊢
    rw [h.kept k fun q hq₁ hq₂ hq => ?_]
    · exact hfree
    · have := getWmIdx_inj hidx hq
      omega

theorem acquireWms_served (cfg : BusCfg) (format n i : ℕ) (b : BusVer2)
    (hserved : ∀ p, i ≤ p → p < i + n → wmFree cfg b o p = true ∧ wmTakes cfg o format p = true) :
    ∃ b', acquireWms cfg o format n i b = (0, i + n, b') ∧ TakesWms o i n b b' := by
  induction n generalizing i b with
  | zero => exact ⟨b, rfl, by constructor <;> simp <;> omega⟩
  | succ n ih =>
    obtain ⟨hfree, htakes⟩ := hserved i le_rfl (by omega)
    obtain ⟨mask, b₁, hacq, hone⟩ := takesWms_one hfree htakes
    obtain ⟨b', hrest, htaken⟩ := ih (i + 1) _ fun p hp₁ hp₂ =>
      ⟨hone.wmFree hp₁ (hserved p (by omega) (by omega)).1, (hserved p (by omega) (by omega)).2⟩
    refine ⟨b', ?_, ?_⟩
    · simp only [acquireWms, hacq, ne_eq, not_true_eq_false, if_false]
      rw [hrest, Nat.add_assoc, Nat.add_comm 1 n]
    · rw [Nat.add_comm n 1]
      exact hone.append htaken

/-! ### The group of an output -/

/-- The groups alone: a used group is reserved and counted, an unused one is as good as new. -/
structure GrpsInv (b : BusVer2) : Prop where
  once : ∀ g, b.freeCompGrp.count g + b.freeDualCompGrp.count g + b.usedCompGrp.count g = 1
  used : ∀ g ∈ b.usedCompGrp, (b.compGrp g).resState = .reserved ∧
    0 < (b.compGrp g).acquireDevCnt ∧ (b.compGrp g).acquireDevCnt ≤ 23
  free : ∀ g, g ∉ b.usedCompGrp → (b.compGrp g).resState = .available ∧
    (b.compGrp g).acquireDevCnt = 0 ∧ (b.compGrp g).compositeMask = 0
  single : ∀ g ∈ b.freeCompGrp, ¬ 6 ≤ g.val
  dual : ∀ g ∈ b.freeDualCompGrp, 6 ≤ g.val

lemma Inv.grps (hb : Inv b) : GrpsInv b where
  once := hb.grpOnce
  used g hg := ⟨hb.used g hg, (hb.grpUsed g).mp hg, by rw [hb.grpCnt g]; exact card_le _⟩
  free g hg := by
    have hzero : (b.compGrp g).acquireDevCnt = 0 :=
      Nat.eq_zero_of_not_pos (mt (hb.grpUsed g).mpr hg)
    have hempty : b.sharers g = ∅ := by
      rw [hb.grpCnt g] at hzero
      exact Finset.card_eq_zero.mp hzero
    refine ⟨hb.free g hg, hzero, BitVec.eq_of_getLsbD_eq fun k hk => ?_⟩
    have hmask := hb.grpMask g k
    simpa [hempty] using hmask
  single := hb.single
  dual := hb.dual

section
variable {cfg : BusCfg} {a : AcquireArgs} {g : Fin 12}

lemma findCompGrp_inl (h : findCompGrp cfg b a = .ok (.inl g)) : g ∈ b.usedCompGrp := by
  unfold findCompGrp at h
  split at h
  case h_1 g' hmatch =>
    split at h
    · cases h
    · cases h
      split at hmatch
      · exact List.mem_of_find?_eq_some hmatch
      · cases hmatch
  case h_2 =>
    split at h
    · split at h
      · cases h
      · split at h <;> cases h
    · split at h <;> cases h

lemma findCompGrp_inr (h : findCompGrp cfg b a = .ok (.inr g)) :
    g ∈ b.freeCompGrp ∨ g ∈ b.freeDualCompGrp := by
  unfold findCompGrp at h
  split at h
  case h_1 => split at h <;> cases h
  case h_2 =>
    split at h
    · split at h
      · cases h
      · rename_i g' hhead
        split at h
        · cases h
        · cases h
          exact .inr (List.mem_of_mem_head? hhead)
    · split at h
      · cases h
      · rename_i g' hhead
        cases h
        exact .inl (List.mem_of_mem_head? hhead)

lemma GrpsInv.not_used (hb : GrpsInv b) (hg : g ∈ b.freeCompGrp ∨ g ∈ b.freeDualCompGrp) :
    g ∉ b.usedCompGrp := by
  intro hmem
  have h₁ := hb.once g
  have h₂ := List.count_pos_iff.mpr hmem
  rcases hg with hg | hg
  · have := List.count_pos_iff.mpr hg
    omega
  · have := List.count_pos_iff.mpr hg
    omega

/-- The output joins group `q`, if any. -/
structure Joins (o : VfeOutType) (q : Option (Fin 12)) (b b' : BusVer2) : Prop where
  out : b'.vfeOut = Function.update b.vfeOut o { b.vfeOut o with compGrp := q }
  busClient : b'.busClient = b.busClient
  grpOther : ∀ g, q ≠ some g → b'.compGrp g = b.compGrp g
  grp : ∀ g, q = some g →
    (b'.compGrp g).acquireDevCnt = u32Inc (b.compGrp g).acquireDevCnt ∧
    (b'.compGrp g).resState = .reserved ∧
    (b'.compGrp g).compositeMask = (b.compGrp g).compositeMask
  once : ∀ g, b'.freeCompGrp.count g + b'.freeDualCompGrp.count g + b'.usedCompGrp.count g =
    b.freeCompGrp.count g + b.freeDualCompGrp.count g + b.usedCompGrp.count g
  used : ∀ g, g ∈ b'.usedCompGrp ↔ g ∈ b.usedCompGrp ∨ q = some g
  single : ∀ g ∈ b'.freeCompGrp, g ∈ b.freeCompGrp
  dual : ∀ g ∈ b'.freeDualCompGrp, g ∈ b.freeDualCompGrp
  secureMode : b'.secureMode = b.secureMode
  numSecOut : b'.numSecOut = b.numSecOut

lemma joins_none (hg : (b.vfeOut o).compGrp = none) : Joins o none b b := by
  constructor
  case out =>
    rw [← hg]
    exact (Function.update_eq_self o b.vfeOut).symm
  all_goals simp

lemma GrpsInv.joins_used (hb : GrpsInv b) (hg : g ∈ b.usedCompGrp) :
    Joins o (some g) b ((b.setGrp g fun d => { d with acquireDevCnt := u32Inc d.acquireDevCnt }).setOut o
      fun v => { v with compGrp := some g }) := by
  constructor
  case grp =>
    intro g' h
    cases h
    simp [(hb.used g hg).1]
  case grpOther =>
    intro g' hne
    simp [Ne.symm (fun h : g = g' => hne (h ▸ rfl))]
  case used =>
    intro g'
    constructor
    · exact .inl
    · rintro (h | h)
      · exact h
      · cases h
        exact hg
  all_goals simp [BusVer2.setOut, BusVer2.setGrp]

lemma GrpsInv.joins_free (hb : GrpsInv b) (hg : g ∈ b.freeCompGrp ∨ g ∈ b.freeDualCompGrp) :
    Joins o (some g) b (((takeFreeGrp b g a).setGrp g fun d =>
      { d with acquireDevCnt := u32Inc d.acquireDevCnt }).setOut o
        fun v => { v with compGrp := some g }) := by
  have hnot := hb.not_used hg
  have hone := hb.once g
  constructor
  case grp =>
    intro g' h
    cases h
    simp [takeFreeGrp, (hb.free g hnot).2.2]
  case grpOther =>
    intro g' hne
    simp [takeFreeGrp, Ne.symm (fun h : g = g' => hne (h ▸ rfl))]
  case once =>
    intro g'
    by_cases hgg : g' = g
    · subst hgg
      have hzero := List.count_eq_zero.mpr hnot
      simp only [takeFreeGrp, BusVer2.setOut_free, BusVer2.setOut_dual, BusVer2.setOut_used,
        BusVer2.setGrp_free, BusVer2.setGrp_dual, BusVer2.setGrp_used, List.count_erase_self,
        List.count_append, List.count_singleton_self]
      omega
    · simp [takeFreeGrp, List.count_erase_of_ne hgg, Ne.symm hgg]
  case used => simp [takeFreeGrp, eq_comm]
  case single =>
    intro g' hg'
    exact List.mem_of_mem_erase hg'
  case dual =>
    intro g' hg'
    exact List.mem_of_mem_erase hg'
  all_goals simp [takeFreeGrp, BusVer2.setOut, BusVer2.setGrp]

lemma GrpsInv.undo_used (hb : GrpsInv b) (hg : g ∈ b.usedCompGrp) (V : VfeOutType → VfeOut) :
    (camVfeBusReleaseCompGrp { b.setGrp g fun d => { d with
      acquireDevCnt := u32Inc d.acquireDevCnt } with vfeOut := V } (some g)).2 =
      { b with vfeOut := V } := by
  obtain ⟨hstate, hpos, hle⟩ := hb.used g hg
  obtain ⟨n, hn⟩ := Nat.exists_eq_add_of_lt hpos
  have hinc : u32Inc (b.compGrp g).acquireDevCnt = n + 2 := by
    rw [u32Inc_of_lt (by rw [u32Max_eq]; omega)]
    omega
  rw [releaseCompGrp_shared (n := n) (by simpa using hstate) (by simpa using hg) (by simpa using hinc)]
  have hself : { b.compGrp g with acquireDevCnt := n + 1 } = b.compGrp g := by
    rw [show n + 1 = (b.compGrp g).acquireDevCnt by omega]
  simp [BusVer2.setGrp, hself]

lemma GrpsInv.undo_free (hb : GrpsInv b) (hg : g ∈ b.freeCompGrp ∨ g ∈ b.freeDualCompGrp)
    (V : VfeOutType → VfeOut) :
    (camVfeBusReleaseCompGrp { (takeFreeGrp b g a).setGrp g fun d => { d with
      acquireDevCnt := u32Inc d.acquireDevCnt } with vfeOut := V } (some g)).2 = { b with
        vfeOut := V
        compGrp := Function.update b.compGrp g ⟨.available, camVfeBusCompGroupNone, 0, 0, 0⟩
        freeCompGrp := if 6 ≤ g.val then b.freeCompGrp.erase g else b.freeCompGrp.erase g ++ [g]
        freeDualCompGrp :=
          if 6 ≤ g.val then b.freeDualCompGrp.erase g ++ [g] else b.freeDualCompGrp.erase g
        usedCompGrp := b.usedCompGrp } := by
  have hnot := hb.not_used hg
  have hinc : u32Inc 0 = 1 := by decide
  rw [releaseCompGrp_last (by simp [takeFreeGrp]) (by simp [takeFreeGrp])
    (by simp [takeFreeGrp, (hb.free g hnot).2.1, hinc])]
  simp [takeFreeGrp, BusVer2.setGrp, List.erase_append_right _ hnot]

/-- The output gains its masters and its group, and the count stays. -/
structure Gains (o : VfeOutType) (b b' : BusVer2) : Prop extends Holds o b b' where
  secureMode : b'.secureMode = b.secureMode
  numSecOut : b'.numSecOut = b.numSecOut
  mode : (b'.vfeOut o).secureMode = (b.vfeOut o).secureMode

lemma Joins.gains {q : Option (Fin 12)} {n : ℕ} {b₁ b₂ : BusVer2} (hj : Joins o q b b₁)
    (hav : (b.vfeOut o).acquired = false) (hn : (b.vfeOut o).numWm = n) (hpos : 0 < n)
    (ht : TakesWms o 0 n b₁ b₂) :
    Gains o b (b₂.setOut o fun v => { v with resState := .reserved }) := by
  have hself : b₁.vfeOut o = { b.vfeOut o with compGrp := q } := by
    rw [hj.out, Function.update_self]
  have hnum : (b₂.vfeOut o).numWm = n := by
    rw [ht.out, hself]
    exact hn
  have hq : (b₂.vfeOut o).compGrp = q := by rw [ht.out, hself]
  have hres : ∀ p < n, (b₂.vfeOut o).wmRes p = camVfeBusGetWmIdx o p := by
    intro p hp
    rw [ht.wmRes p, if_pos ⟨Nat.zero_le p, by omega⟩]
  have hwms : ∀ k, k ∈ ((b₂.setOut o fun v => { v with resState := .reserved }).vfeOut o).wms ↔
      ∃ p, 0 ≤ p ∧ p < 0 + n ∧ camVfeBusGetWmIdx o p = some k := by
    intro k
    simp only [mem_wms, BusVer2.setOut_vfeOut, Function.update_self, hnum, Nat.zero_add, Nat.zero_le,
      true_and]
    exact exists_congr fun p => and_congr_right fun hp => by rw [hres p hp]
  constructor
  case toHolds =>
    constructor
    case avail => exact hav
    case state => simp
    case planes =>
      simp only [BusVer2.setOut_vfeOut, Function.update_self, hnum]
      exact ⟨hpos, fun p hp => ⟨by rw [hres p hp]; exact ht.isSome p (Nat.zero_le p) (by omega),
        hres p hp⟩⟩
    case rest =>
      intro o' ho'
      simp [ho', ht.rest o' ho', hj.out]
    case taken =>
      intro k hk
      obtain ⟨p, hp₁, hp₂, hidx⟩ := (hwms k).mp hk
      obtain ⟨hfree, htaken⟩ := ht.taken p k hp₁ hp₂ hidx
      exact ⟨by rwa [hj.busClient] at hfree, htaken⟩
    case kept =>
      intro k hk
      rw [BusVer2.setOut_busClient, ht.kept k fun p hp₁ hp₂ hidx => hk ((hwms k).mpr ⟨p, hp₁, hp₂, hidx⟩),
        hj.busClient]
    case grpOther =>
      intro g hg
      have hne : q ≠ some g := by simpa [hq] using hg
      rw [← hj.grpOther g hne]
      have hmask : (b₂.compGrp g).compositeMask = (b₁.compGrp g).compositeMask :=
        BitVec.eq_of_getLsbD_eq fun k _ => by
          have := ht.mask g k
          rw [hself] at this
          simp only [hne, false_and, or_false] at this
          exact Bool.eq_iff_iff.mpr this
      rw [BusVer2.setOut_compGrp, ht.grp g, hmask]
    case grp =>
      intro g hg
      have hqg : q = some g := by simpa [hq] using hg
      obtain ⟨hcnt, hstate, hmask⟩ := hj.grp g hqg
      rw [BusVer2.setOut_compGrp]
      refine ⟨by rw [ht.grp g]; exact hcnt, by rw [ht.grp g]; exact hstate, fun k => ?_⟩
      rw [ht.mask g k, hmask, hself, hwms k]
      simp [hqg]
    case once => simpa [ht.free, ht.dual, ht.used] using hj.once
    case used => simpa [ht.used, hq] using hj.used
    case single => simpa [ht.free] using hj.single
    case dual => simpa [ht.dual] using hj.dual
  case secureMode => simp [ht.secureMode, hj.secureMode]
  case numSecOut => simp [ht.numSecOut, hj.numSecOut]
  case mode =>
    rw [BusVer2.setOut_vfeOut, Function.update_self, ht.out, hself]

lemma wmFree_congr (h : b'.busClient = b.busClient) (p : ℕ) :
    wmFree cfg b' o p = wmFree cfg b o p := by
  simp [wmFree, h]

lemma reserveWms_served (cfg : BusCfg) {n : ℕ}
    (hserved : (List.range n).all (fun p => wmFree cfg b o p && wmTakes cfg o a.format p) = true) :
    ∃ b', TakesWms o 0 n b b' ∧ reserveWms cfg b o n a =
      (0, b'.setOut o fun v => { v with resState := .reserved }) := by
  obtain ⟨b', heq, htakes⟩ := acquireWms_served cfg a.format n 0 b fun p _ hp => by
    simpa using List.all_eq_true.mp hserved p (List.mem_range.mpr (by omega))
  exact ⟨b', htakes, by simp [reserveWms, heq]⟩

lemma reserveWms_refused (cfg : BusCfg) (hfree : wmFree cfg b o 0 = false) :
    ∃ rc, rc ≠ 0 ∧ reserveWms cfg b o 1 a = (rc, (camVfeBusReleaseCompGrp (b.setOut o
      fun v => { v with wmRes := Function.update v.wmRes 0 none }) (b.vfeOut o).compGrp).2) := by
  obtain ⟨rc, hrc, heq⟩ := acquireWm_refused a.format hfree
  exact ⟨rc, hrc, by simp [reserveWms, acquireWms, heq, hrc, releaseWms]⟩

/-! ### A reservation as a whole -/

lemma findCompGrp_error {rc : ℤ} (h : findCompGrp cfg b a = .error rc) : rc ≠ 0 := by
  unfold findCompGrp at h
  split at h
  case h_1 => split at h <;> cases h; decide
  case h_2 =>
    split at h
    · split at h
      · cases h; decide
      · split at h <;> cases h; decide
    · split at h <;> cases h; decide

lemma unmoved_of_out {V : VfeOutType → VfeOut} (hav : (b.vfeOut o).acquired = false)
    (hnew : (V o).acquired = false) (hrest : ∀ o' ≠ o, V o' = b.vfeOut o') :
    Unmoved b { b with vfeOut := V } := by
  have hacq : ∀ o', (V o').acquired = (b.vfeOut o').acquired := by
    intro o'
    by_cases ho : o' = o
    · rw [ho, hav, hnew]
    · rw [hrest o' ho]
  have hout : ∀ o', (b.vfeOut o').acquired = true → V o' = b.vfeOut o' := by
    intro o' ho'
    refine hrest o' fun heq => ?_
    rw [heq, hav] at ho'
    cases ho'
  constructor
  case acquired => exact hacq
  case out => exact hout
  all_goals simp

lemma Unmoved.trans {b'' : BusVer2} (h : Unmoved b b') (h' : Unmoved b' b'') : Unmoved b b'' where
  wm := h'.wm.trans h.wm
  acquired o := (h'.acquired o).trans (h.acquired o)
  out o ho := by rw [h'.out o (by rwa [h.acquired o]), h.out o ho]
  free := h'.free.trans h.free
  dual := h'.dual.trans h.dual
  used := h'.used.trans h.used
  cnt g := (h'.cnt g).trans (h.cnt g)
  mask g := (h'.mask g).trans (h.mask g)
  state g := (h'.state g).trans (h.state g)
  secureMode := h'.secureMode.trans h.secureMode
  numSecOut := h'.numSecOut.trans h.numSecOut

lemma GrpsInv.unmoved_free (hb : GrpsInv b) (hg : g ∈ b.freeCompGrp ∨ g ∈ b.freeDualCompGrp) :
    Unmoved b { b with
      compGrp := Function.update b.compGrp g ⟨.available, camVfeBusCompGroupNone, 0, 0, 0⟩
      freeCompGrp := if 6 ≤ g.val then b.freeCompGrp.erase g else b.freeCompGrp.erase g ++ [g]
      freeDualCompGrp :=
        if 6 ≤ g.val then b.freeDualCompGrp.erase g ++ [g] else b.freeDualCompGrp.erase g } := by
  obtain ⟨hstate, hcnt, hmask⟩ := hb.free g (hb.not_used hg)
  have hback : ∀ l : List (Fin 12), g ∈ l → (l.erase g ++ [g]).Perm l := fun l hmem =>
    (List.perm_append_singleton g (l.erase g)).trans (List.perm_cons_erase hmem).symm
  have hgrp : ∀ g', (Function.update b.compGrp g ⟨.available, camVfeBusCompGroupNone, 0, 0, 0⟩ g').acquireDevCnt =
      (b.compGrp g').acquireDevCnt ∧
      (Function.update b.compGrp g ⟨.available, camVfeBusCompGroupNone, 0, 0, 0⟩ g').compositeMask =
      (b.compGrp g').compositeMask ∧
      (Function.update b.compGrp g ⟨.available, camVfeBusCompGroupNone, 0, 0, 0⟩ g').resState =
      (b.compGrp g').resState := by
    intro g'
    by_cases hgg : g' = g
    · subst hgg
      simp [hstate, hcnt, hmask]
    · simp [hgg]
  have hfree : 6 ≤ g.val → g ∉ b.freeCompGrp := fun h6 hmem => hb.single g hmem h6
  have hdual : ¬ 6 ≤ g.val → g ∉ b.freeDualCompGrp := fun h6 hmem => h6 (hb.dual g hmem)
  constructor
  case free =>
    dsimp only
    by_cases h6 : 6 ≤ g.val
    · rw [if_pos h6, List.erase_of_not_mem (hfree h6)]
    · rw [if_neg h6]
      exact hback _ (hg.resolve_right (hdual h6))
  case dual =>
    dsimp only
    by_cases h6 : 6 ≤ g.val
    · rw [if_pos h6]
      exact hback _ (hg.resolve_left (hfree h6))
    · rw [if_neg h6, List.erase_of_not_mem (hdual h6)]
  case cnt => exact fun g' => (hgrp g').1
  case mask => exact fun g' => (hgrp g').2.1
  case state => exact fun g' => (hgrp g').2.2
  all_goals simp

lemma acquireCompGrp_ok {r : Fin 12 ⊕ Fin 12} (hb : GrpsInv b)
    (hav : (b.vfeOut o).resState = .available) (h : findCompGrp cfg b a = .ok r) :
    ∃ g b₁, camVfeBusAcquireCompGrp cfg b o a = (0, b₁) ∧ Joins o (some g) b b₁ ∧
      Unmoved b (camVfeBusReleaseCompGrp (b₁.setOut o
        fun v => { v with wmRes := Function.update v.wmRes 0 none }) (some g)).2 := by
  have hacq : (b.vfeOut o).acquired = false := by simp [VfeOut.acquired, hav]
  cases r with
  | inl g =>
    have hg := findCompGrp_inl h
    refine ⟨g, _, by simp only [camVfeBusAcquireCompGrp, h], hb.joins_used hg, ?_⟩
    change Unmoved b (camVfeBusReleaseCompGrp { b.setGrp g fun d => { d with
      acquireDevCnt := u32Inc d.acquireDevCnt } with vfeOut := _ } (some g)).2
    rw [hb.undo_used hg]
    exact unmoved_of_out (o := o) hacq (by simp [VfeOut.acquired, hav])
      fun o' ho' => by simp [ho']
  | inr g =>
    have hg := findCompGrp_inr h
    refine ⟨g, _, by simp only [camVfeBusAcquireCompGrp, h], hb.joins_free (a := a) hg, ?_⟩
    change Unmoved b (camVfeBusReleaseCompGrp { (takeFreeGrp b g a).setGrp g fun d => { d with
      acquireDevCnt := u32Inc d.acquireDevCnt } with vfeOut := _ } (some g)).2
    rw [hb.undo_free hg]
    refine (hb.unmoved_free hg).trans ?_
    exact unmoved_of_out (o := o) hacq (by simp [takeFreeGrp, VfeOut.acquired, hav])
      fun o' ho' => by simp [takeFreeGrp, ho']

/-- When the books are kept, an output gains all that it asked for, or it is not one that is
counted and nothing has moved. -/
theorem reserveOut_gains_or_unmoved {n : ℕ} (hb : GrpsInv b)
    (hav : (b.vfeOut o).resState = .available) (hn : (b.vfeOut o).numWm = n) (hpos : 0 < n)
    (hone : camVfeBusCanBeSecure o = false → n = 1) (hkept : reserveKept cfg b o n a = true) :
    (∃ b', reserveOut cfg b o n a = (0, b') ∧ Gains o b b') ∨
    (camVfeBusCanBeSecure o = false ∧ ∃ rc b', rc ≠ 0 ∧ reserveOut cfg b o n a = (rc, b') ∧
      Unmoved b b') := by
  have hacq : (b.vfeOut o).acquired = false := by simp [VfeOut.acquired, hav]
  have hnew : ∀ (q : Option (Fin 12)) (f : ℕ → Option ℕ),
      VfeOut.acquired { b.vfeOut o with compGrp := q, wmRes := f } = false := by
    intro q f
    simp [VfeOut.acquired, hav]
  unfold reserveKept at hkept
  cases hwants : wantsCompGrp n a with
  | true =>
    rw [hwants, if_pos rfl] at hkept
    cases hfind : findCompGrp cfg b a with
    | error rc =>
      simp only [hfind, Bool.not_eq_true'] at hkept
      have hrc := findCompGrp_error hfind
      exact .inr ⟨hkept, rc, b, hrc, by simp [reserveOut, hwants, camVfeBusAcquireCompGrp, hfind, hrc],
        .refl b⟩
    | ok r =>
      obtain ⟨g, b₁, hgrp, hj, hundo⟩ := acquireCompGrp_ok hb hav hfind
      have hout : reserveOut cfg b o n a = reserveWms cfg b₁ o n a := by
        simp [reserveOut, hwants, hgrp]
      have hq : (b₁.vfeOut o).compGrp = some g := by rw [hj.out, Function.update_self]
      rw [hout]
      rcases Bool.or_eq_true_iff.mp (show wmsKept cfg b o n a.format = true by simpa [hfind] using hkept)
        with hserved | hrefused
      · obtain ⟨b', htakes, heq⟩ := reserveWms_served cfg (b := b₁) (a := a)
          (by simpa only [wmFree_congr hj.busClient] using hserved)
        exact .inl ⟨_, heq, hj.gains hacq hn hpos htakes⟩
      · simp only [Bool.and_eq_true, Bool.not_eq_true'] at hrefused
        obtain rfl := hone hrefused.1
        obtain ⟨rc, hrc, heq⟩ := reserveWms_refused cfg (b := b₁) (o := o) (a := a)
          (by rw [wmFree_congr hj.busClient, hrefused.2])
        rw [hq] at heq
        exact .inr ⟨hrefused.1, rc, _, hrc, heq, hundo⟩
  | false =>
    have hout : reserveOut cfg b o n a = reserveWms cfg b o n a := by simp [reserveOut, hwants]
    rw [hwants] at hkept
    rw [hout]
    -- Whatever the output points at, a refusal leaves the bus but for its first pointer.
    have hrefused : camVfeBusCanBeSecure o = false → wmFree cfg b o 0 = false →
        (∀ g, (b.vfeOut o).compGrp = some g → (b.compGrp g).resState = .available) →
        ∃ rc b', rc ≠ 0 ∧ reserveWms cfg b o n a = (rc, b') ∧ Unmoved b b' := by
      intro hsec hfree hgrp
      obtain rfl := hone hsec
      obtain ⟨rc, hrc, heq⟩ := reserveWms_refused cfg (a := a) hfree
      refine ⟨rc, _, hrc, heq, ?_⟩
      have hrel : (camVfeBusReleaseCompGrp (b.setOut o fun v =>
          { v with wmRes := Function.update v.wmRes 0 none }) (b.vfeOut o).compGrp).2 =
          b.setOut o fun v => { v with wmRes := Function.update v.wmRes 0 none } := by
        cases hc : (b.vfeOut o).compGrp with
        | none => rfl
        | some g => simp [camVfeBusReleaseCompGrp, hgrp g hc]
      rw [hrel]
      exact unmoved_of_out (o := o) hacq (by simp [VfeOut.acquired, hav])
        fun o' ho' => by simp [ho']
    cases hgrp : (b.vfeOut o).compGrp with
    | none =>
      rcases Bool.or_eq_true_iff.mp (show wmsKept cfg b o n a.format = true by simpa [hgrp] using hkept)
        with hserved | hno
      · obtain ⟨b', htakes, heq⟩ := reserveWms_served cfg (a := a) hserved
        exact .inl ⟨_, heq, (joins_none hgrp).gains hacq hn hpos htakes⟩
      · simp only [Bool.and_eq_true, Bool.not_eq_true'] at hno
        exact .inr ⟨hno.1, hrefused hno.1 hno.2 (by simp [hgrp])⟩
    | some g =>
      simp only [Bool.false_eq_true, if_false, hgrp, Bool.and_eq_true, Bool.not_eq_true',
        beq_iff_eq] at hkept
      refine .inr ⟨hkept.1.1, hrefused hkept.1.1 hkept.1.2 fun g' hg' => ?_⟩
      obtain rfl : g = g' := by simpa [hgrp] using hg'
      exact hkept.2

/-! ### Calls and runs -/

lemma acquireSecure_some {mode : ℕ} {b₁ : BusVer2} (h : acquireSecure b o mode = some b₁) :
    ∃ m sm ns, b₁ = { b with
        vfeOut := Function.update b.vfeOut o { b.vfeOut o with secureMode := m }
        secureMode := sm
        numSecOut := ns } ∧
      (camVfeBusCanBeSecure o = true →
        ns = u32Inc b.numSecOut ∧ m = sm ∧ (b.numSecOut ≠ 0 → sm = b.secureMode)) ∧
      (camVfeBusCanBeSecure o = false → ns = b.numSecOut ∧ sm = b.secureMode) := by
  unfold acquireSecure at h
  cases hs : camVfeBusCanBeSecure o with
  | false =>
    rw [hs] at h
    cases h
    exact ⟨(b.vfeOut o).secureMode, b.secureMode, b.numSecOut,
      by simp [Function.update_eq_self], by simp, by simp⟩
  | true =>
    rw [hs, if_pos rfl] at h
    by_cases hz : b.numSecOut = 0
    · rw [if_pos hz] at h
      cases h
      exact ⟨mode, mode, u32Inc b.numSecOut, rfl, by simp [hz], by simp⟩
    · rw [if_neg hz] at h
      by_cases hm : mode = b.secureMode
      · rw [if_pos hm] at h
        cases h
        exact ⟨b.secureMode, b.secureMode, u32Inc b.numSecOut, rfl, by simp, by simp⟩
      · rw [if_neg hm] at h
        cases h

theorem acquireVfeOut_reserves_or_unmoved (hb : Inv b) (hkept : kept cfg b (.acquire a) = true) :
    (∃ o b', camVfeBusAcquireVfeOut cfg b a = (0, b') ∧ Reserves o b b') ∨
    ∃ rc b', rc ≠ 0 ∧ camVfeBusAcquireVfeOut cfg b a = (rc, b') ∧ Unmoved b b' := by
  unfold kept at hkept
  unfold camVfeBusAcquireVfeOut
  cases hid : camVfeBusGetOutResId a.resType with
  | none => exact .inr ⟨_, b, by decide, rfl, .refl b⟩
  | some o =>
    by_cases hnum : camVfeBusGetNumWm o a.format < 1
    · exact .inr ⟨-Errno.EINVAL, b, by decide, by simp [hnum], .refl b⟩
    by_cases hstate : (b.vfeOut o).resState = .available
    case neg => exact .inr ⟨-Errno.EBUSY, b, by decide, by simp [hnum, hstate], .refl b⟩
    cases hsec : acquireSecure b o a.secureMode with
    | none => exact .inr ⟨-Errno.EINVAL, b, by decide, by simp [hnum, hstate, hsec], .refl b⟩
    | some b₁ =>
      simp only [hid, hsec, hnum, hstate, bne_self_eq_false, decide_false, Option.isNone_some,
        Bool.false_or] at hkept
      obtain ⟨m, sm, ns, rfl, hsecure, hnot⟩ := acquireSecure_some hsec
      obtain ⟨n, hn⟩ : ∃ n, n = (camVfeBusGetNumWm o a.format).toNat := ⟨_, rfl⟩
      rw [← hn] at hkept
      obtain ⟨b₂, hb₂⟩ : ∃ b₂ : BusVer2, b₂ = { b with
          vfeOut := Function.update b.vfeOut o { b.vfeOut o with secureMode := m, numWm := n }
          secureMode := sm
          numSecOut := ns } := ⟨_, rfl⟩
      have hself : b₂.vfeOut o = { b.vfeOut o with secureMode := m, numWm := n } := by simp [hb₂]
      have hgrps : GrpsInv b₂ := by
        have h := hb.grps
        rw [hb₂]
        exact ⟨h.once, h.used, h.free, h.single, h.dual⟩
      have hkept₂ : reserveKept cfg b₂ o n a = true := by
        rw [← hkept]
        unfold reserveKept
        rw [hself]
        rw [hb₂]
        rfl
      have hacq : (b.vfeOut o).acquired = false := by simp [VfeOut.acquired, hstate]
      have hrest : ∀ o' ≠ o, b₂.vfeOut o' = b.vfeOut o' := by
        intro o' ho'
        simp [hb₂, ho']
      have hone : camVfeBusCanBeSecure o = false → n = 1 := by
        intro hs
        have := getNumWm_of_not_secure hs a.format
        omega
      have hout : camVfeBusAcquireVfeOut cfg b a = reserveOut cfg b₂ o n a := by
        simp [camVfeBusAcquireVfeOut, hid, hnum, hstate, hsec, BusVer2.setOut, hb₂, hn]
      have hgoal := reserveOut_gains_or_unmoved hgrps (by rw [hself]; exact hstate) (by rw [hself])
        (by omega) hone hkept₂
      rw [← hout] at hgoal
      unfold camVfeBusAcquireVfeOut at hgoal
      rw [hid] at hgoal
      rcases hgoal with ⟨b', heq, hg⟩ | ⟨hs, rc, b', hrc, heq, hun⟩
      · refine .inl ⟨o, b', heq, ?_⟩
        constructor
        case toHolds =>
          constructor
          case avail => exact hacq
          case state => exact hg.state
          case planes => exact hg.planes
          case rest =>
            intro o' ho'
            rw [hg.rest o' ho', hrest o' ho']
          case taken => simpa [hb₂] using hg.taken
          case kept => simpa [hb₂] using hg.kept
          case grpOther => simpa [hb₂] using hg.grpOther
          case grp => simpa [hb₂] using hg.grp
          case once => simpa [hb₂] using hg.once
          case used => simpa [hb₂] using hg.used
          case single => simpa [hb₂] using hg.single
          case dual => simpa [hb₂] using hg.dual
        case counted =>
          intro hs
          obtain ⟨hns, hm, hsm⟩ := hsecure hs
          rw [hg.numSecOut, hg.secureMode, hg.mode, hself, hb₂]
          exact ⟨hns, hm, hsm⟩
        case uncounted =>
          intro hs
          obtain ⟨hns, hsm⟩ := hnot hs
          rw [hg.numSecOut, hg.secureMode, hb₂]
          exact ⟨hns, hsm⟩
      · refine .inr ⟨rc, b', hrc, heq, Unmoved.trans ?_ hun⟩
        obtain ⟨rfl, rfl⟩ := hnot hs
        rw [hb₂]
        exact unmoved_of_out (o := o) hacq (by simp [VfeOut.acquired, hstate])
          fun o' ho' => by simp [ho']

end

theorem Inv.step {cfg : BusCfg} (hb : Inv b) (op : Op) (hkept : kept cfg b op = true) :
    Inv (step cfg b op) := by
  cases op with
  | acquire a =>
    rcases acquireVfeOut_reserves_or_unmoved hb hkept with ⟨o, b', heq, h⟩ | ⟨rc, b', -, heq, h⟩
    · rw [VfeBus.step, heq]
      exact h.inv hb
    · rw [VfeBus.step, heq]
      exact h.inv hb
  | release o =>
    simp only [kept, Bool.and_eq_true] at hkept
    have halone : ∀ g, (b.vfeOut o).compGrp = some g → (b.compGrp g).acquireDevCnt = 1 := by
      intro g hg
      simpa [hg] using hkept.2
    exact (releaseVfeOut_frees hb hkept.1 halone).inv hb hkept.1 halone

end

lemma inv_init (cfg : BusCfg) : Inv (camVfeBusVer2Init cfg) := by
  have hacq : ∀ o, ((camVfeBusVer2Init cfg).vfeOut o).acquired = false := by
    intro o
    cases h : cfg.supported o <;> simp [camVfeBusVer2Init, VfeOut.acquired, h]
  have hsharers : ∀ g, (camVfeBusVer2Init cfg).sharers g = ∅ := by
    intro g
    simp [BusVer2.sharers, hacq]
  have hsec : (camVfeBusVer2Init cfg).secureOuts = ∅ := by simp [BusVer2.secureOuts, hacq]
  constructor
  case held =>
    intro o k ho
    simp [hacq] at ho
  case owner =>
    intro o o' k ho
    simp [hacq] at ho
  case owned =>
    intro k hk
    by_cases hlt : k < cfg.numClient <;> simp [camVfeBusVer2Init, hlt] at hk
  case grpOnce =>
    have hall : ∀ g : Fin 12, [0, 1, 2, 3, 4, 5].count g + [6, 7, 8, 9, 10, 11].count g +
        ([] : List (Fin 12)).count g = 1 := by decide
    exact hall
  case grpCnt =>
    intro g
    rw [hsharers g]
    rfl
  case grpMask =>
    intro g k
    rw [hsharers g]
    simp [camVfeBusVer2Init]
  case secCnt =>
    rw [hsec]
    rfl
  case secMode =>
    intro o ho
    simp [hsec] at ho
  case planes =>
    intro o ho
    simp [hacq] at ho
  case single =>
    have hall : ∀ g ∈ ([0, 1, 2, 3, 4, 5] : List (Fin 12)), ¬ 6 ≤ g.val := by decide
    exact hall
  case dual =>
    have hall : ∀ g ∈ ([6, 7, 8, 9, 10, 11] : List (Fin 12)), 6 ≤ g.val := by decide
    exact hall
  all_goals simp [camVfeBusVer2Init]

/-- While every call keeps the books, they are right in every state, and an acquire that is
refused moves nothing. -/
theorem reserved_exactly (cfg : BusCfg) (ops : List Op)
    (hkept : Transition.Guarded (step cfg) (fun b op => kept cfg b op = true)
      (camVfeBusVer2Init cfg) ops) :
    ReservedExactly (Transition.run (step cfg) (camVfeBusVer2Init cfg) ops) ∧
    ∀ a, kept cfg (Transition.run (step cfg) (camVfeBusVer2Init cfg) ops) (.acquire a) = true →
      (camVfeBusAcquireVfeOut cfg (Transition.run (step cfg) (camVfeBusVer2Init cfg) ops) a).1 ≠ 0 →
      Unmoved (Transition.run (step cfg) (camVfeBusVer2Init cfg) ops)
        (camVfeBusAcquireVfeOut cfg (Transition.run (step cfg) (camVfeBusVer2Init cfg) ops) a).2 := by
  have hinv : Inv (Transition.run (step cfg) (camVfeBusVer2Init cfg) ops) :=
    Transition.run_invariant (fun b op hb hok => hb.step op hok) (inv_init cfg) hkept
  refine ⟨hinv.exact, fun a ha hrc => ?_⟩
  rcases acquireVfeOut_reserves_or_unmoved hinv ha with ⟨o, b', heq, -⟩ | ⟨rc, b', -, heq, h⟩
  · rw [heq] at hrc
    exact absurd rfl hrc
  · rw [heq]
    exact h

/-- A core with every write master and every output. -/
def fullCfg : BusCfg := ⟨24, false, 0, camCpasTitan170V100, fun _ => true⟩

theorem reserved_exactly_full : ReservedExactly (Transition.run (step fullCfg) (camVfeBusVer2Init fullCfg)
    [.acquire ⟨0x3000, CamFormat.nv12, 0, 1, false, 7, 2⟩,
      .acquire ⟨0x3006, CamFormat.mipiRaw10, 0, 1, false, 7, 2⟩,
      .acquire ⟨0x3000, CamFormat.nv12, 0, 1, false, 7, 2⟩, .release .full]) :=
  (reserved_exactly fullCfg _ (by decide +kernel)).1

/-- An RDI is counted as secure and then refused by its write master, which takes no DPCM. -/
theorem not_reserved_exactly : ¬ ∀ (cfg : BusCfg) (ops : List Op),
    ReservedExactly (Transition.run (step cfg) (camVfeBusVer2Init cfg) ops) ∧
    ∀ a, (camVfeBusAcquireVfeOut cfg (Transition.run (step cfg) (camVfeBusVer2Init cfg) ops) a).1 ≠ 0 →
      Unmoved (Transition.run (step cfg) (camVfeBusVer2Init cfg) ops)
        (camVfeBusAcquireVfeOut cfg (Transition.run (step cfg) (camVfeBusVer2Init cfg) ops) a).2 := by
  intro h
  have hcnt := (h fullCfg [.acquire ⟨0x3006, CamFormat.dpcm10_8_10, 0, 1, false, 7, 2⟩]).1.secCnt
  exact absurd hcnt (by decide +kernel)

end CameraKernel.VfeBus
