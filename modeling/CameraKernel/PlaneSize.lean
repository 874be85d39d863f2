import CameraKernel.Errno

/-! The check that a plane of an io config fits its buffer. The kernel computes the plane's size in
32 bits; here it is compared with the size over the natural numbers. -/
namespace CameraKernel.PlaneSize

def camPacketMaxPlanes : ℕ := 3

def camFormatMipiRaw6 : UInt32 := 1
def camFormatMipiRaw8 : UInt32 := 2
def camFormatMipiRaw10 : UInt32 := 3
def camFormatMipiRaw12 : UInt32 := 4
def camFormatMipiRaw14 : UInt32 := 5
def camFormatUbwcNv12 : UInt32 := 37
def camFormatUbwcNv124r : UInt32 := 38
def camFormatUbwcTp10 : UInt32 := 39

/-- The fields of `struct cam_plane_cfg` the check reads. -/
structure PlaneCfg where
  planeStride : UInt32
  sliceHeight : UInt32
  metaSize : UInt32
  deriving DecidableEq, Repr

/-- The fields of `struct cam_buf_io_cfg` the check reads, the arrays as functions of the index. -/
structure BufIoCfg where
  offsets : ℕ → UInt32
  planes : ℕ → PlaneCfg
  format : UInt32

/-- How the formats of the switch compute a plane's size. -/
inductive SizeRule
  | lines (strideAlign : ℕ)
  | packed14
  | ubwc
  | plain
  deriving DecidableEq, Repr

def sizeRule (format : UInt32) : SizeRule :=
  if format = camFormatMipiRaw6 ∨ format = camFormatMipiRaw8 then .lines 1
  else if format = camFormatMipiRaw10 then .lines 4
  else if format = camFormatMipiRaw12 then .lines 2
  else if format = camFormatMipiRaw14 then .packed14
  else if format = camFormatUbwcNv12 ∨ format = camFormatUbwcNv124r ∨
      format = camFormatUbwcTp10 then .ubwc
  else .plain

/-- The stride is one the rule has a size for; otherwise `kmd_plane_size` stays 0. -/
def SizeRule.takes (rule : SizeRule) (plane : PlaneCfg) : Bool :=
  match rule with
  | .lines strideAlign => plane.planeStride.toNat % strideAlign = 0
  | .packed14 => plane.planeStride.toNat % 4 = 0
  | .ubwc => true
  | .plain => true

/-- `kmd_plane_size`, in 32 bits. -/
def SizeRule.kmdPlaneSize (rule : SizeRule) (plane : PlaneCfg) : UInt32 :=
  if rule.takes plane then
    match rule with
    | .lines _ => (plane.planeStride * plane.sliceHeight + 16 - 1) / 16 * 16
    | .packed14 => plane.planeStride * plane.sliceHeight * 7 / 4
    | .ubwc => plane.metaSize +
        ((plane.planeStride * plane.sliceHeight + (4096 - 1)) &&& ~~~(4096 - 1))
    | .plain => plane.planeStride * plane.sliceHeight
  else 0

/-- `cam_packet_validate_plane_size`. -/
def validatePlaneSize (ioCfg : BufIoCfg) (planeIndex : ℕ) (size : UInt64) : ℤ :=
  let plane := ioCfg.planes planeIndex
  -- from `CAM_PACKET_MAX_PLANES` on, stride and height stay 0
  if ¬planeIndex < camPacketMaxPlanes ∨ plane.planeStride = 0 ∨ plane.sliceHeight = 0 then
    -Errno.EINVAL
  else
    let kmdPlaneSize := (sizeRule ioCfg.format).kmdPlaneSize plane
    if kmdPlaneSize = 0 ∨ kmdPlaneSize.toUInt64 > size - (ioCfg.offsets planeIndex).toUInt64 then
      -Errno.EINVAL
    else 0

def roundUp (m n : ℕ) : ℕ := (n + m - 1) / m * m

/-- The size over the natural numbers. -/
def SizeRule.planeSize (rule : SizeRule) (plane : PlaneCfg) : ℕ :=
  let lines := plane.planeStride.toNat * plane.sliceHeight.toNat
  match rule with
  | .lines _ => roundUp 16 lines
  | .packed14 => lines * 7 / 4
  | .ubwc => plane.metaSize.toNat + roundUp 4096 lines
  | .plain => lines

/-- Where the size in the kernel wraps: 14 bit formats lose two more bits. -/
def SizeRule.modulus : SizeRule → ℕ
  | .packed14 => 2 ^ 30
  | _ => 2 ^ 32

/-- An accepted plane fits its buffer. -/
def PlaneFits (ioCfg : BufIoCfg) (planeIndex : ℕ) (size : UInt64) : Prop :=
  validatePlaneSize ioCfg planeIndex size = 0 →
    (ioCfg.offsets planeIndex).toNat +
      (sizeRule ioCfg.format).planeSize (ioCfg.planes planeIndex) ≤ size.toNat

/-- The size of a plane that has one wraps to what is left of the buffer, or the buffer ends before
the plane starts. -/
def wrapsInto (ioCfg : BufIoCfg) (planeIndex : ℕ) (size : UInt64) : Bool :=
  let plane := ioCfg.planes planeIndex
  let rule := sizeRule ioCfg.format
  let offset := (ioCfg.offsets planeIndex).toNat
  planeIndex < camPacketMaxPlanes && plane.planeStride ≠ 0 && plane.sliceHeight ≠ 0 &&
    rule.takes plane && rule.planeSize plane % rule.modulus ≠ 0 &&
    (size.toNat < offset ||
      (rule.modulus ≤ rule.planeSize plane &&
        rule.planeSize plane % rule.modulus ≤ size.toNat - offset &&
        size.toNat - offset < rule.planeSize plane))

variable {ioCfg : BufIoCfg} {planeIndex : ℕ} {size : UInt64} {plane : PlaneCfg}

lemma and_not_4095 (n : UInt32) : (n &&& ~~~(4096 - 1)).toNat = n.toNat / 4096 * 4096 := by
  have hmask : (~~~(4096 - 1) : UInt32).toNat = 2 ^ 32 - ((2 ^ 12 - 1) + 1) := by decide
  have hshift : n.toNat / 4096 * 4096 = n.toNat >>> 12 <<< 12 := by
    rw [Nat.shiftLeft_eq, Nat.shiftRight_eq_div_pow]
  rw [UInt32.toNat_and, hmask, hshift]
  apply Nat.eq_of_testBit_eq
  intro i
  rw [Nat.testBit_and, Nat.testBit_two_pow_sub_succ (by norm_num), Nat.testBit_two_pow_sub_one,
    Nat.testBit_shiftLeft, Nat.testBit_shiftRight]
  rcases lt_or_ge i 12 with hlow | hge
  · simp [hlow]
  · by_cases hi : i < 32
    · simp [hge, hi]
    · have hhigh : n.toNat.testBit i = false :=
        Nat.testBit_lt_two_pow (n.toNat_lt.trans_le (Nat.pow_le_pow_right (by norm_num) (not_lt.mp hi)))
      simp [hge, hhigh]

lemma SizeRule.kmdPlaneSize_toNat {rule : SizeRule} (htakes : rule.takes plane = true) :
    (rule.kmdPlaneSize plane).toNat = rule.planeSize plane % rule.modulus := by
  obtain ⟨lines, hlines⟩ : ∃ lines, lines = plane.planeStride.toNat * plane.sliceHeight.toNat :=
    ⟨_, rfl⟩
  have hmul : (plane.planeStride * plane.sliceHeight).toNat = lines % 2 ^ 32 := by
    rw [UInt32.toNat_mul, hlines]
  unfold kmdPlaneSize
  rw [if_pos htakes]
  cases rule with
  | lines strideAlign =>
    simp only [planeSize, modulus, roundUp, ← hlines, UInt32.toNat_mul, UInt32.toNat_div,
      UInt32.toNat_sub, UInt32.toNat_add, UInt32.reduceToNat] at hmul ⊢
    omega
  | packed14 =>
    simp only [takes, decide_eq_true_eq] at htakes
    have hdvd : 4 ∣ lines := hlines ▸ (Nat.dvd_of_mod_eq_zero htakes).mul_right _
    have hseven : (plane.planeStride * plane.sliceHeight * 7).toNat = lines * 7 % 2 ^ 32 := by
      have hfactor : (7 : UInt32).toNat = 7 := rfl
      rw [UInt32.toNat_mul, hmul, hfactor]
      omega
    simp only [planeSize, modulus, ← hlines, UInt32.toNat_div, UInt32.reduceToNat, hseven]
    omega
  | ubwc =>
    have hsum : (plane.planeStride * plane.sliceHeight + (4096 - 1)).toNat =
        (lines + 4095) % 2 ^ 32 := by
      rw [UInt32.toNat_add, hmul]
      simp
    rw [UInt32.toNat_add, and_not_4095, hsum]
    simp only [planeSize, modulus, roundUp, ← hlines]
    omega
  | plain => simpa only [planeSize, modulus, ← hlines] using hmul

lemma SizeRule.kmdPlaneSize_of_not_takes {rule : SizeRule} (htakes : rule.takes plane = false) :
    rule.kmdPlaneSize plane = 0 := by
  simp [kmdPlaneSize, htakes]

lemma validatePlaneSize_eq_zero : validatePlaneSize ioCfg planeIndex size = 0 ↔
    planeIndex < camPacketMaxPlanes ∧ (ioCfg.planes planeIndex).planeStride ≠ 0 ∧
      (ioCfg.planes planeIndex).sliceHeight ≠ 0 ∧
      (sizeRule ioCfg.format).takes (ioCfg.planes planeIndex) = true ∧
      (sizeRule ioCfg.format).planeSize (ioCfg.planes planeIndex) %
        (sizeRule ioCfg.format).modulus ≠ 0 ∧
      (size.toNat < (ioCfg.offsets planeIndex).toNat ∨
        (sizeRule ioCfg.format).planeSize (ioCfg.planes planeIndex) %
          (sizeRule ioCfg.format).modulus ≤ size.toNat - (ioCfg.offsets planeIndex).toNat) := by
  have hinval : -Errno.EINVAL ≠ 0 := by decide
  obtain ⟨rule, hrule⟩ : ∃ rule, rule = sizeRule ioCfg.format := ⟨_, rfl⟩
  obtain ⟨plane, hplane⟩ : ∃ plane, plane = ioCfg.planes planeIndex := ⟨_, rfl⟩
  rw [validatePlaneSize, ← hrule, ← hplane]
  cases htakes : rule.takes plane with
  | false =>
    rw [SizeRule.kmdPlaneSize_of_not_takes htakes]
    simp [hinval]
  | true =>
    have hk := SizeRule.kmdPlaneSize_toNat htakes
    have hlt : rule.planeSize plane % rule.modulus < 2 ^ 32 := hk ▸ UInt32.toNat_lt _
    have hzero : rule.kmdPlaneSize plane = 0 ↔ rule.planeSize plane % rule.modulus = 0 := by
      rw [← hk, ← UInt32.toNat_inj, UInt32.toNat_zero]
    have hroom : (rule.kmdPlaneSize plane).toUInt64 > size - (ioCfg.offsets planeIndex).toUInt64 ↔
        ¬(size.toNat < (ioCfg.offsets planeIndex).toNat ∨
          rule.planeSize plane % rule.modulus ≤ size.toNat - (ioCfg.offsets planeIndex).toNat) := by
      have hoff := (ioCfg.offsets planeIndex).toNat_lt
      have hsize := size.toNat_lt
      rw [gt_iff_lt, UInt64.lt_iff_toNat_lt, UInt64.toNat_sub, UInt32.toNat_toUInt64,
        UInt32.toNat_toUInt64, hk]
      omega
    simp only [hzero, hroom]
    by_cases hplain : ¬planeIndex < camPacketMaxPlanes ∨ plane.planeStride = 0 ∨ plane.sliceHeight = 0
    · rw [if_pos hplain]
      refine iff_of_false hinval fun h => ?_
      rcases hplain with hindex | hstride | hheight
      · exact hindex h.1
      · exact h.2.1 hstride
      · exact h.2.2.1 hheight
    rw [if_neg hplain]
    push Not at hplain
    by_cases hbad : rule.planeSize plane % rule.modulus = 0 ∨
        ¬(size.toNat < (ioCfg.offsets planeIndex).toNat ∨
          rule.planeSize plane % rule.modulus ≤ size.toNat - (ioCfg.offsets planeIndex).toNat)
    · rw [if_pos hbad]
      refine iff_of_false hinval fun h => ?_
      rcases hbad with hnone | hlarge
      · exact h.2.2.2.2.1 hnone
      · exact hlarge h.2.2.2.2.2
    · rw [if_neg hbad, not_or, not_not] at *
      exact iff_of_true rfl ⟨hplain.1, hplain.2.1, hplain.2.2, trivial, hbad.1, hbad.2⟩

/-- A plane that is accepted fits, unless its size wraps. -/
theorem planeFits_iff (ioCfg : BufIoCfg) (planeIndex : ℕ) (size : UInt64) :
    PlaneFits ioCfg planeIndex size ↔ wrapsInto ioCfg planeIndex size = false := by
  obtain ⟨rule, hrule⟩ : ∃ rule, rule = sizeRule ioCfg.format := ⟨_, rfl⟩
  obtain ⟨plane, hplane⟩ : ∃ plane, plane = ioCfg.planes planeIndex := ⟨_, rfl⟩
  have hmod : rule.planeSize plane < rule.modulus →
      rule.planeSize plane % rule.modulus = rule.planeSize plane := Nat.mod_eq_of_lt
  rw [PlaneFits, validatePlaneSize_eq_zero, ← Bool.not_eq_true, wrapsInto, ← hrule, ← hplane]
  simp only [Bool.and_eq_true, Bool.or_eq_true, decide_eq_true_eq, ne_eq]
  constructor
  · rintro hfits ⟨⟨⟨⟨⟨hidx, hstride⟩, hheight⟩, htakes⟩, hne⟩, hover⟩
    have hle := hfits ⟨hidx, hstride, hheight, htakes, hne, by omega⟩
    omega
  · rintro hnot ⟨hidx, hstride, hheight, htakes, hne, hroom⟩
    by_contra hle
    refine hnot ⟨⟨⟨⟨⟨hidx, hstride⟩, hheight⟩, htakes⟩, hne⟩, ?_⟩
    omega

/-- 70000 lines of 70000 pixels in a buffer of 1 GiB. -/
def wideIoCfg : BufIoCfg := ⟨fun _ => 0, fun _ => ⟨70000, 70000, 0⟩, camFormatMipiRaw8⟩

theorem planeFits_wraps :
    ¬∀ (ioCfg : BufIoCfg) (planeIndex : ℕ) (size : UInt64), planeIndex < camPacketMaxPlanes →
      PlaneFits ioCfg planeIndex size := by
  intro hall
  have hfits := hall wideIoCfg 0 1073741824 (by decide) (by decide)
  revert hfits
  decide

end CameraKernel.PlaneSize
