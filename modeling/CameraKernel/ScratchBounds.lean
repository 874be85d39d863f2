import CameraKernel.ScratchVa

/-! Where the scratch allocations lie. The bitmap is made of whole words, so it can offer more units
than the region has. -/
namespace CameraKernel.ScratchBounds
open BitArea ScratchVa

variable {find : (ℕ → Bool) → ℕ → ℕ → ℕ → ℕ}

/-- One call on the map; a release may name any address and size. -/
def step (find : (ℕ → Bool) → ℕ → ℕ → ℕ → ℕ) (m : ScratchMapping) : Op → ScratchMapping
  | .alloc size =>
    match allocScratchVa find m size with
    | .error _ => m
    | .ok (_, m') => m'
  | .free addr size => (freeScratchVa m addr size).2

def Allowed (m : ScratchMapping) : Op → Prop
  | .alloc size => Defined m size
  | .free _ _ => True

def InRegion (base size iova len : ℕ) : Prop := base ≤ iova ∧ iova + len ≤ base + size

/-- Every allocation of every run on the map of a region lies in the region. -/
def StaysInside (find : (ℕ → Bool) → ℕ → ℕ → ℕ → ℕ) (base size order : ℕ) : Prop :=
  ∀ memory m, initScratchMap memory base size order = .ok m →
    ∀ ops, Transition.Guarded (step find) Allowed m ops →
      ∀ len, Defined (Transition.run (step find) m ops) len →
        ∀ iova m', allocScratchVa find (Transition.run (step find) m ops) len = .ok (iova, m') →
          InRegion base size iova len

/-- What a run keeps of the map. -/
structure SameShape (m m' : ScratchMapping) : Prop where
  bits : m'.bits = m.bits
  order : m'.order = m.order
  base : m'.base = m.base

lemma SameShape.refl (m : ScratchMapping) : SameShape m m := ⟨rfl, rfl, rfl⟩

lemma SameShape.unit {m m' : ScratchMapping} (h : SameShape m m') : m'.unit = m.unit := by
  rw [ScratchMapping.unit, h.order, ScratchMapping.unit]

lemma SameShape.trans {m m' m'' : ScratchMapping} (h : SameShape m m') (h' : SameShape m' m'') :
    SameShape m m'' := ⟨h'.bits.trans h.bits, h'.order.trans h.order, h'.base.trans h.base⟩

lemma allocScratchVa_sameShape {m m' : ScratchMapping} {size iova : ℕ}
    (h : allocScratchVa find m size = .ok (iova, m')) : SameShape m m' := by
  simp only [allocScratchVa] at h
  split_ifs at h
  · cases h
    exact ⟨rfl, rfl, rfl⟩
  · cases h
    exact ⟨rfl, rfl, rfl⟩

lemma step_sameShape (m : ScratchMapping) (op : Op) : SameShape m (step find m op) := by
  cases op with
  | alloc size =>
    cases halloc : allocScratchVa find m size with
    | error rc =>
      simp only [step, halloc]
      exact SameShape.refl m
    | ok got =>
      simp only [step, halloc]
      exact allocScratchVa_sameShape halloc
  | free addr size =>
    unfold step freeScratchVa
    dsimp only
    split_ifs
    · exact SameShape.refl m
    · exact SameShape.refl m
    · exact ⟨rfl, rfl, rfl⟩

lemma run_sameShape (find : (ℕ → Bool) → ℕ → ℕ → ℕ → ℕ) (m : ScratchMapping) (ops : List Op) :
    SameShape m (Transition.run (step find) m ops) :=
  Transition.run_always (fun m' op h => h.trans (step_sameShape m' op)) (SameShape.refl m) ops

lemma initScratchMap_ok {memory : Bool} {base size order : ℕ} {m : ScratchMapping}
    (h : initScratchMap memory base size order = .ok m) :
    (size >>> (pageShift + order)) % 2 ^ 32 ≠ 0 ∧ m.base = base ∧ m.order = order ∧
      m.bitmap = (fun _ => false) ∧ m.bits = ((size >>> (pageShift + order)) % 2 ^ 32 + 63) / 64 * 64 % 2 ^ 32 := by
  simp only [initScratchMap] at h
  split_ifs at h with hzero hmem
  rw [Except.ok.injEq] at h
  subst h
  refine ⟨hzero, rfl, rfl, rfl, ?_⟩
  have hlt := Nat.mod_lt (size >>> (pageShift + order)) (Nat.two_pow_pos 32)
  simp only [bitsToLongs]
  omega

lemma initScratchMap_total {base size order : ℕ}
    (h : (size >>> (pageShift + order)) % 2 ^ 32 ≠ 0) :
    ∃ m, initScratchMap true base size order = .ok m := by
  simp only [initScratchMap]
  rw [if_neg h]
  exact ⟨_, rfl⟩

lemma bits_cases {memory : Bool} {base size order : ℕ} {m : ScratchMapping}
    (h : initScratchMap memory base size order = .ok m)
    (hcond : size >>> (pageShift + order) % 64 = 0 ∨ size >>> (pageShift + order) % 64 = 63 ∨
      2 ^ 30 ≤ size >>> (pageShift + order)) :
    m.bits ≤ size >>> (pageShift + order) + 63 ∧
      (m.bits ≤ size >>> (pageShift + order) + 1 ∨ 2 ^ 30 ≤ size >>> (pageShift + order)) := by
  obtain ⟨-, -, -, -, hbits⟩ := initScratchMap_ok h
  have hround := Nat.mod_le ((size >>> (pageShift + order) % 2 ^ 32 + 63) / 64 * 64) (2 ^ 32)
  have htrunc := Nat.mod_le (size >>> (pageShift + order)) (2 ^ 32)
  rw [← hbits] at hround
  refine ⟨by omega, ?_⟩
  by_cases hlong : 2 ^ 30 ≤ size >>> (pageShift + order)
  · exact .inr hlong
  · left
    omega

lemma short_in_region {m : ScratchMapping} {start n size : ℕ} (hn : n + 2 ^ 20 ≤ size / m.unit)
    {len : ℕ} (hlen : len ≤ n * m.unit) : start * m.unit % 2 ^ 32 + len ≤ size := by
  have hoff : start * m.unit % 2 ^ 32 < 2 ^ 32 := Nat.mod_lt _ (Nat.two_pow_pos 32)
  have hunit : 2 ^ 20 * 4096 ≤ 2 ^ 20 * m.unit := by
    rw [m.unit_eq]
    exact Nat.mul_le_mul_left _ (Nat.le_mul_of_pos_right _ (Nat.two_pow_pos _))
  calc start * m.unit % 2 ^ 32 + len ≤ 2 ^ 20 * m.unit + n * m.unit := by omega
    _ = (n + 2 ^ 20) * m.unit := by rw [Nat.add_mul, Nat.add_comm]
    _ ≤ size / m.unit * m.unit := Nat.mul_le_mul_right _ hn
    _ ≤ size := Nat.div_mul_le_self _ _

/-- In a region of at least `2 ^ 30` units the offset wraps before it can leave the region. -/
lemma offset_in_long_region {m : ScratchMapping} {len size start : ℕ} (hdef : Defined m len)
    (hlong : 2 ^ 30 ≤ size / m.unit) (hdvd : 2 ^ m.excess len ∣ start) :
    start * m.unit % 2 ^ 32 + len ≤ size := by
  by_cases hshort : len ≤ 2 ^ 29 * m.unit
  · exact short_in_region (by omega) hshort
  · -- the largest requests are aligned to `2 ^ 30` units, which 32 bits wrap to zero
    have hexcess : m.excess len = 30 := by
      have hle := hdef.excess_le
      by_contra hne
      refine hshort ?_
      have horder : getOrder len ≤ m.order + 29 := by
        unfold ScratchMapping.excess at hle hne
        omega
      have := (getOrder_le_iff hdef.size_pos hdef.size_lt).mp horder
      rw [ScratchMapping.unit, ← Nat.pow_add]
      refine this.trans (Nat.pow_le_pow_right (by norm_num) (by omega))
    obtain ⟨k, rfl⟩ := hdvd
    have hwrap : 2 ^ m.excess len * k * m.unit % 2 ^ 32 = 0 := by
      rw [hexcess, m.unit_eq]
      refine Nat.mod_eq_zero_of_dvd ⟨2 ^ 10 * k * 2 ^ m.order, ?_⟩
      ring
    rw [hwrap, Nat.zero_add]
    calc len ≤ 2 ^ 30 * m.unit := hdef.size_le
      _ ≤ size / m.unit * m.unit := Nat.mul_le_mul_right _ hlong
      _ ≤ size := Nat.div_mul_le_self _ _

lemma offset_in_region {m : ScratchMapping} {len size : ℕ} (hfind : FindsArea find)
    (hdef : Defined m len) (hbits : m.bits < 2 ^ 32) (hround : m.bits ≤ size / m.unit + 63)
    (hcond : m.bits ≤ size / m.unit + 1 ∨ 2 ^ 30 ≤ size / m.unit)
    (hok : m.found find len % 2 ^ 32 ≤ m.bits) :
    m.found find len % 2 ^ 32 * m.unit % 2 ^ 32 + len ≤ size := by
  have hunits := hdef.units_le
  by_cases hfound : m.found find len ≤ m.bits
  · have hfits := hfind.fits hfound
    have hin : m.found find len + m.units len + 1 ≤ m.bits := hfits.inside
    have hmod : m.found find len % 2 ^ 32 = m.found find len := Nat.mod_eq_of_lt (by omega)
    rw [hmod]
    rcases hcond with hexact | hlong
    · calc m.found find len * m.unit % 2 ^ 32 + len
          ≤ m.found find len * m.unit + m.units len * m.unit :=
            Nat.add_le_add (Nat.mod_le _ _) (m.size_le_units len)
        _ = (m.found find len + m.units len) * m.unit := by rw [Nat.add_mul]
        _ ≤ size / m.unit * m.unit := Nat.mul_le_mul_right _ (by omega)
        _ ≤ size := Nat.div_mul_le_self _ _
    · exact offset_in_long_region hdef hlong hfits.aligned
  · -- the refused area ends past 32 bits, so the region has almost `2 ^ 31` units
    have hmask : 2 ^ m.excess len ≤ 2 ^ 30 :=
      Nat.pow_le_pow_right (by norm_num) hdef.excess_le
    have hbound : m.found find len ≤ m.bits + 2 ^ m.excess len + (m.units len + 1) :=
      hfind.bounded _ _ _ _
    exact short_in_region (n := 2 ^ 30) (by omega) hdef.size_le

lemma shiftRight_unit {m : ScratchMapping} {order : ℕ} (h : m.order = order) (size : ℕ) :
    size >>> (pageShift + order) = size / m.unit := by
  rw [Nat.shiftRight_eq_div_pow, ← h, ScratchMapping.unit]

lemma staysInside_of {base size order : ℕ} (hfind : FindsArea find) (htop : base + size ≤ 2 ^ 64)
    (hcond : size >>> (pageShift + order) % 64 = 0 ∨ size >>> (pageShift + order) % 64 = 63 ∨
      2 ^ 30 ≤ size >>> (pageShift + order)) : StaysInside find base size order := by
  intro memory m₀ hinit ops _ len hdef iova m' halloc
  obtain ⟨-, hbase, horder, -, hbits⟩ := initScratchMap_ok hinit
  obtain ⟨hround, hoffer⟩ := bits_cases hinit hcond
  have hshape := run_sameShape find m₀ ops
  generalize Transition.run (step find) m₀ ops = m at hdef halloc hshape
  rw [shiftRight_unit (hshape.order.trans horder)] at hround hoffer
  rw [← hshape.bits] at hround hoffer hbits
  have hlt : m.bits < 2 ^ 32 := by
    rw [hbits]
    exact Nat.mod_lt _ (Nat.two_pow_pos 32)
  rw [hdef.allocScratchVa_eq] at halloc
  split_ifs at halloc with hfull
  rw [Except.ok.injEq, Prod.mk.injEq] at halloc
  have hin := offset_in_region hfind hdef hlt hround hoffer (Nat.not_lt.mp hfull)
  have hpos := hdef.size_pos
  rw [hshape.base, hbase, Nat.mod_eq_of_lt (by omega)] at halloc
  rw [InRegion, ← halloc.1]
  exact ⟨by omega, by omega⟩

lemma leaves_region {base size order : ℕ} (hfind : FindsArea find) (htop : base + size ≤ 2 ^ 64)
    (horder : order < 20) (hzero : size >>> (pageShift + order) % 64 ≠ 0)
    (hlast : size >>> (pageShift + order) % 64 ≠ 63)
    (hshort : size >>> (pageShift + order) < 2 ^ 30) : ¬ StaysInside find base size order := by
  intro hall
  obtain ⟨m, hinit⟩ := @initScratchMap_total base size order (by omega)
  obtain ⟨-, -, hmorder, hempty, hbits⟩ := initScratchMap_ok hinit
  rw [shiftRight_unit hmorder] at *
  have hunit : m.unit ≤ 2 ^ 31 := by
    rw [ScratchMapping.unit, hmorder]
    exact Nat.pow_le_pow_right (by norm_num) (by unfold pageShift; omega)
  set n := size / m.unit + 1 with hn
  have hmore : size < n * m.unit := (Nat.div_lt_iff_lt_mul m.unit_pos).mp (Nat.lt_succ_self _)
  have hlen : n * m.unit ≤ 2 ^ 30 * m.unit := Nat.mul_le_mul_right _ (by omega)
  have hpos : 0 < n * m.unit := by omega
  have hsize : n * m.unit < 2 ^ 64 := by
    have := Nat.mul_le_mul_left (2 ^ 30) hunit
    omega
  have hdef : Defined m (n * m.unit) := by
    refine ⟨hsize, by rw [hmorder]; unfold pageShift; omega, ?_⟩
    rw [getOrder_le_iff hpos hsize]
    refine hlen.trans (le_of_eq ?_)
    rw [ScratchMapping.unit, ← Nat.pow_add]
    congr 1
    omega
  have hunits : m.units (n * m.unit) = n := by
    refine le_antisymm (m.units_le_iff.mpr le_rfl) ?_
    exact Nat.le_of_mul_le_mul_right (m.size_le_units _) m.unit_pos
  have hfits : Fits m.bitmap m.bits (2 ^ m.excess (n * m.unit)) ⟨0, m.units (n * m.unit) + 1⟩ := by
    refine ⟨?_, dvd_zero _, fun i _ => by rw [hempty]⟩
    rw [hunits]
    simp only
    omega
  obtain ⟨iova, m', halloc⟩ := hdef.alloc_total hfind (by omega) hfits
  obtain ⟨hlow, hhigh⟩ := hall true m hinit [] trivial _ hdef iova m' halloc
  omega

/-- The allocations stay in the region exactly when its units fill the last word of the bitmap, up to
the guard, or when the unit or the region is so large that the shifts of the allocation give out. -/
theorem scratchMap_staysInside_iff {base size order : ℕ} (hfind : FindsArea find)
    (htop : base + size ≤ 2 ^ 64) :
    StaysInside find base size order ↔
      20 ≤ order ∨ size >>> (pageShift + order) % 64 = 0 ∨ size >>> (pageShift + order) % 64 = 63 ∨
        2 ^ 30 ≤ size >>> (pageShift + order) := by
  constructor
  · intro hall
    by_contra hcond
    push Not at hcond
    obtain ⟨horder, hzero, hlast, hshort⟩ := hcond
    exact leaves_region hfind htop horder hzero hlast hshort hall
  · rintro (horder | hcond)
    · -- no allocation is defined on such a map
      intro memory m hinit ops _ len hdef
      have hm := (initScratchMap_ok hinit).2.2.1
      have hlt := hdef.order_lt
      rw [(run_sameShape find m ops).order, hm, pageShift] at hlt
      omega
    · exact staysInside_of hfind htop hcond

theorem staysInside_words :
    StaysInside firstFit 4096 (64 * 4096) 0 ↔
      20 ≤ 0 ∨ (64 * 4096) >>> (pageShift + 0) % 64 = 0 ∨ (64 * 4096) >>> (pageShift + 0) % 64 = 63 ∨
        2 ^ 30 ≤ (64 * 4096) >>> (pageShift + 0) :=
  scratchMap_staysInside_iff firstFit_findsArea (by decide)

/-- Eight pages from a region of one page. -/
theorem not_staysInside_onePage : ¬ ∀ base size order, base + size ≤ 2 ^ 64 →
    StaysInside firstFit base size order := by
  intro hall
  exact leaves_region firstFit_findsArea (by decide) (by decide) (by decide) (by decide) (by decide)
    (hall 4096 4096 0 (by decide))

end CameraKernel.ScratchBounds
