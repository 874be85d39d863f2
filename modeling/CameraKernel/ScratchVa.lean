import CameraKernel.BitArea
import CameraKernel.Errno
import CameraKernel.Transition

/-! The scratch map of a context bank: a bitmap of mapping units from which scratch buffers get their
addresses. A unit is `2 ^ order` pages, and each allocation takes one unit more than it asks for,
as a guard. The search for a clear area is the kernel's. -/
namespace CameraKernel.ScratchVa
open BitArea

def pageShift : ℕ := 12

def pageAlign (size : ℕ) : ℕ := (size + 4095) % 2 ^ 64 / 4096 * 4096

/-- `fls64`: one more than the index of the last set bit. -/
def fls (x : ℕ) : ℕ := if x = 0 then 0 else x.log2 + 1

/-- `get_order`: the least order whose pages hold `size` bytes. -/
def getOrder (size : ℕ) : ℕ := fls (((size + (2 ^ 64 - 1)) % 2 ^ 64) >>> pageShift)

def bitsToLongs (nr : ℕ) : ℕ := (nr + 63) / 64

/-- `struct scratch_mapping`. -/
structure ScratchMapping where
  bitmap : ℕ → Bool
  bits : ℕ
  order : ℕ
  base : ℕ

/-- The bytes of one bit of the map. -/
def ScratchMapping.unit (m : ScratchMapping) : ℕ := 2 ^ (pageShift + m.order)

/-- `cam_smmu_init_scratch_map`, given whether there is memory for the bitmap. -/
def initScratchMap (memory : Bool) (base size order : ℕ) : Except ℤ ScratchMapping :=
  let count := (size >>> (pageShift + order)) % 2 ^ 32
  let bitmapSize := bitsToLongs count * 8 % 2 ^ 32
  if count = 0 then .error (-Errno.EINVAL)
  else if !memory then .error (-Errno.ENOMEM)
  else .ok ⟨fun _ => false, 8 * bitmapSize % 2 ^ 32, order, base⟩

/-- The units that hold so many pages, as a 32-bit count. -/
def ScratchMapping.unitCount (m : ScratchMapping) (pages : ℕ) : ℕ :=
  ((pages + 2 ^ m.order - 1) >>> m.order) % 2 ^ 32

/-- `cam_smmu_alloc_scratch_va`. Start and count are unsigned int, and so is the shifted start. -/
def allocScratchVa (find : (ℕ → Bool) → ℕ → ℕ → ℕ → ℕ) (m : ScratchMapping) (size : ℕ) :
    Except ℤ (ℕ × ScratchMapping) :=
  let order := getOrder size
  -- one guard unit more
  let count := (m.unitCount (pageAlign size >>> pageShift) + 1) % 2 ^ 32
  let align := if m.order < order then 2 ^ (order - m.order) - 1 else 0
  let start := find m.bitmap m.bits count align % 2 ^ 32
  if m.bits < start then .error (-Errno.ENOMEM)
  else .ok ((m.base + (start <<< (m.order + pageShift)) % 2 ^ 32) % 2 ^ 64,
    { m with bitmap := setArea m.bitmap ⟨start, count⟩ })

/-- `cam_smmu_free_scratch_va`. -/
def freeScratchVa (m : ScratchMapping) (addr size : ℕ) : ℤ × ScratchMapping :=
  let start := (((addr + (2 ^ 64 - m.base)) % 2 ^ 64) >>> (m.order + pageShift)) % 2 ^ 32
  let count := m.unitCount (size >>> pageShift)
  if addr = 0 then (-Errno.EINVAL, m)
  else if m.bits < (start + count) % 2 ^ 32 then (-Errno.EINVAL, m)
  else (0, { m with bitmap := clearArea m.bitmap ⟨start, (count + 1) % 2 ^ 32⟩ })

/-- A `size_t` for which the shifts of the allocation are within the width of their operands; beyond
it the allocation has no meaning in C. -/
structure Defined (m : ScratchMapping) (size : ℕ) : Prop where
  size_lt : size < 2 ^ 64
  order_lt : m.order + pageShift < 32
  align_le : getOrder size ≤ m.order + 30

instance (m : ScratchMapping) (size : ℕ) : Decidable (Defined m size) :=
  decidable_of_iff (size < 2 ^ 64 ∧ m.order + pageShift < 32 ∧ getOrder size ≤ m.order + 30)
    ⟨fun ⟨h, h', h''⟩ => ⟨h, h', h''⟩, fun ⟨h, h', h''⟩ => ⟨h, h', h''⟩⟩

/-- The units that hold `size` bytes. -/
def ScratchMapping.units (m : ScratchMapping) (size : ℕ) : ℕ := (size + m.unit - 1) / m.unit

lemma fls_le_iff {x k : ℕ} : fls x ≤ k ↔ x < 2 ^ k := by
  unfold fls
  by_cases hx : x = 0
  · simp [hx]
  · rw [if_neg hx, Nat.succ_le_iff, Nat.log2_lt hx]

lemma getOrder_zero : getOrder 0 = 52 := by decide

theorem getOrder_le_iff {size k : ℕ} (hpos : 0 < size) (hlt : size < 2 ^ 64) :
    getOrder size ≤ k ↔ size ≤ 2 ^ (pageShift + k) := by
  have hpred : (size + (2 ^ 64 - 1)) % 2 ^ 64 = size - 1 := by
    rw [show size + (2 ^ 64 - 1) = size - 1 + 2 ^ 64 by omega, Nat.add_mod_right,
      Nat.mod_eq_of_lt (by omega)]
  rw [getOrder, fls_le_iff, hpred, Nat.shiftRight_eq_div_pow,
    Nat.div_lt_iff_lt_mul (Nat.two_pow_pos _), ← Nat.pow_add, Nat.add_comm k]
  omega

lemma ScratchMapping.unit_pos (m : ScratchMapping) : 0 < m.unit := Nat.two_pow_pos _

lemma ScratchMapping.unit_eq (m : ScratchMapping) : m.unit = 4096 * 2 ^ m.order := by
  rw [unit, pageShift, Nat.pow_add]

lemma Defined.size_pos {m : ScratchMapping} {size : ℕ} (h : Defined m size) : 0 < size := by
  by_contra hzero
  have horder := h.order_lt
  have halign := h.align_le
  obtain rfl : size = 0 := by omega
  rw [getOrder_zero] at halign
  unfold pageShift at horder
  omega

lemma Defined.size_le {m : ScratchMapping} {size : ℕ} (h : Defined m size) :
    size ≤ 2 ^ 30 * m.unit := by
  have hle := (getOrder_le_iff h.size_pos h.size_lt).mp h.align_le
  rw [ScratchMapping.unit, ← Nat.pow_add]
  exact hle.trans (Nat.pow_le_pow_right (by norm_num) (by omega))

lemma Defined.unit_le {m : ScratchMapping} {size : ℕ} (h : Defined m size) : m.unit ≤ 2 ^ 31 := by
  have := h.order_lt
  exact Nat.pow_le_pow_right (by norm_num) (by omega)

lemma ScratchMapping.units_le_iff (m : ScratchMapping) {size n : ℕ} :
    m.units size ≤ n ↔ size ≤ n * m.unit := by
  have hpos := m.unit_pos
  rw [units, ← Nat.lt_succ_iff, Nat.div_lt_iff_lt_mul hpos, Nat.succ_mul]
  omega

lemma ScratchMapping.size_le_units (m : ScratchMapping) (size : ℕ) :
    size ≤ m.units size * m.unit := m.units_le_iff.mp le_rfl

lemma Defined.units_le {m : ScratchMapping} {size : ℕ} (h : Defined m size) :
    m.units size ≤ 2 ^ 30 := m.units_le_iff.mpr h.size_le

lemma ScratchMapping.pages_units (m : ScratchMapping) (size : ℕ) :
    ((size + 4095) / 4096 + 2 ^ m.order - 1) >>> m.order = m.units size := by
  have hpos := Nat.two_pow_pos m.order
  rw [Nat.shiftRight_eq_div_pow, units, unit_eq, ← Nat.div_div_eq_div_mul]
  have hadd : size + 4096 * 2 ^ m.order - 1 = size + 4095 + (2 ^ m.order - 1) * 4096 := by
    rw [Nat.sub_mul]
    omega
  rw [hadd, Nat.add_mul_div_right _ _ (by norm_num)]
  congr 1
  omega

lemma Defined.unitCount_alloc {m : ScratchMapping} {size : ℕ} (h : Defined m size) :
    m.unitCount (pageAlign size >>> pageShift) = m.units size := by
  have hsize := h.size_le
  have hunit := h.unit_le
  have hunits := h.units_le
  have hbound : 2 ^ 30 * m.unit ≤ 2 ^ 30 * 2 ^ 31 := Nat.mul_le_mul_left _ hunit
  have halign : pageAlign size >>> pageShift = (size + 4095) / 4096 := by
    rw [pageAlign, pageShift, Nat.mod_eq_of_lt (by omega), Nat.shiftRight_eq_div_pow]
    omega
  rw [ScratchMapping.unitCount, halign, m.pages_units, Nat.mod_eq_of_lt (by omega)]

section Operations
variable {find : (ℕ → Bool) → ℕ → ℕ → ℕ → ℕ} {m : ScratchMapping} {size : ℕ}

/-- The orders by which the request exceeds the unit. -/
def ScratchMapping.excess (m : ScratchMapping) (size : ℕ) : ℕ := getOrder size - m.order

def ScratchMapping.found (m : ScratchMapping) (find : (ℕ → Bool) → ℕ → ℕ → ℕ → ℕ) (size : ℕ) : ℕ :=
  find m.bitmap m.bits (m.units size + 1) (2 ^ m.excess size - 1)

lemma Defined.excess_le (h : Defined m size) : m.excess size ≤ 30 := by
  have := h.align_le
  unfold ScratchMapping.excess
  omega

theorem Defined.allocScratchVa_eq (h : Defined m size) :
    allocScratchVa find m size =
      if m.bits < m.found find size % 2 ^ 32 then .error (-Errno.ENOMEM)
      else .ok ((m.base + m.found find size % 2 ^ 32 * m.unit % 2 ^ 32) % 2 ^ 64,
        { m with
          bitmap := setArea m.bitmap ⟨m.found find size % 2 ^ 32, m.units size + 1⟩ }) := by
  have hunits := h.units_le
  have hcount : (m.unitCount (pageAlign size >>> pageShift) + 1) % 2 ^ 32 = m.units size + 1 := by
    rw [h.unitCount_alloc]
    exact Nat.mod_eq_of_lt (by omega)
  have halign : (if m.order < getOrder size then 2 ^ (getOrder size - m.order) - 1 else 0) =
      2 ^ m.excess size - 1 := by
    unfold ScratchMapping.excess
    split_ifs with horder
    · rfl
    · rw [Nat.sub_eq_zero_of_le (Nat.not_lt.mp horder), Nat.pow_zero]
  simp only [allocScratchVa, hcount, halign, Nat.shiftLeft_eq, Nat.add_comm m.order,
    ScratchMapping.found, ScratchMapping.unit]
  rfl

theorem Defined.alloc_spec (h : Defined m size) (hfind : FindsArea find) (hbits : m.bits < 2 ^ 30)
    {iova : ℕ} {m' : ScratchMapping} (hok : allocScratchVa find m size = .ok (iova, m')) :
    ∃ start, Fits m.bitmap m.bits (2 ^ m.excess size) ⟨start, m.units size + 1⟩ ∧
      iova = (m.base + start * m.unit % 2 ^ 32) % 2 ^ 64 ∧
      m' = { m with bitmap := setArea m.bitmap ⟨start, m.units size + 1⟩ } := by
  have hunits := h.units_le
  have hmask : 2 ^ m.excess size ≤ 2 ^ 30 := Nat.pow_le_pow_right (by norm_num) h.excess_le
  have hbound : m.found find size ≤ m.bits + 2 ^ m.excess size + (m.units size + 1) :=
    hfind.bounded _ _ _ _
  have hlt : m.found find size < 2 ^ 32 := by omega
  rw [h.allocScratchVa_eq, Nat.mod_eq_of_lt hlt] at hok
  split_ifs at hok with hfull
  rw [Except.ok.injEq, Prod.mk.injEq] at hok
  exact ⟨m.found find size, hfind.fits (Nat.not_lt.mp hfull), hok.1.symm, hok.2.symm⟩

theorem Defined.alloc_total (h : Defined m size) (hfind : FindsArea find) (hbits : m.bits < 2 ^ 32)
    {start : ℕ} (hfits : Fits m.bitmap m.bits (2 ^ m.excess size) ⟨start, m.units size + 1⟩) :
    ∃ iova m', allocScratchVa find m size = .ok (iova, m') := by
  have hle : m.found find size ≤ m.bits := hfind.complete hfits
  rw [h.allocScratchVa_eq, if_neg]
  · exact ⟨_, _, rfl⟩
  · rw [Nat.mod_eq_of_lt (by omega)]
    omega

theorem freeScratchVa_eq (h : Defined m size) (hpage : 4096 ∣ size) {start : ℕ}
    (hbase : 0 < m.base) (hin : start + m.units size + 1 ≤ m.bits) (hbits : m.bits < 2 ^ 30)
    (htop : m.base + m.bits * m.unit ≤ 2 ^ 64) :
    freeScratchVa m (m.base + start * m.unit) size =
      (0, { m with bitmap := clearArea m.bitmap ⟨start, m.units size + 1⟩ }) := by
  have hpos := m.unit_pos
  have hunits := h.units_le
  have hend : (start + 1) * m.unit ≤ m.bits * m.unit := Nat.mul_le_mul_right _ (by omega)
  have hlt : start * m.unit < 2 ^ 64 := by
    rw [Nat.succ_mul] at hend
    omega
  have hoff : (m.base + start * m.unit + (2 ^ 64 - m.base)) % 2 ^ 64 = start * m.unit := by
    rw [show m.base + start * m.unit + (2 ^ 64 - m.base) = start * m.unit + 2 ^ 64 by omega,
      Nat.add_mod_right, Nat.mod_eq_of_lt hlt]
  have hstart : (start * m.unit) >>> (m.order + pageShift) % 2 ^ 32 = start := by
    rw [Nat.shiftRight_eq_div_pow, Nat.add_comm m.order, ← ScratchMapping.unit,
      Nat.mul_div_cancel _ hpos, Nat.mod_eq_of_lt (by omega)]
  have hcount : m.unitCount (size >>> pageShift) = m.units size := by
    have hpages : size >>> pageShift = (size + 4095) / 4096 := by
      rw [pageShift, Nat.shiftRight_eq_div_pow]
      omega
    rw [ScratchMapping.unitCount, hpages, m.pages_units]
    exact Nat.mod_eq_of_lt (by omega)
  rw [freeScratchVa]
  simp only [hoff, hstart, hcount]
  rw [if_neg (by omega), if_neg (by rw [Nat.mod_eq_of_lt (by omega)]; omega),
    Nat.mod_eq_of_lt (by omega)]

end Operations

inductive Op
  | alloc (size : ℕ)
  | free (addr size : ℕ)
  deriving DecidableEq, Repr

/-- A map and the address and size of each allocation not yet freed. -/
structure Scratch where
  map : ScratchMapping
  live : List (ℕ × ℕ)

def Scratch.step (find : (ℕ → Bool) → ℕ → ℕ → ℕ → ℕ) (s : Scratch) : Op → Scratch
  | .alloc size =>
    match allocScratchVa find s.map size with
    | .error _ => s
    | .ok (iova, map) => ⟨map, (iova, size) :: s.live⟩
  | .free addr size =>
    let (rc, map) := freeScratchVa s.map addr size
    if rc = 0 then ⟨map, s.live.erase (addr, size)⟩ else ⟨map, s.live⟩

lemma Scratch.step_alloc {find : (ℕ → Bool) → ℕ → ℕ → ℕ → ℕ} {s : Scratch} {size iova : ℕ}
    {m : ScratchMapping} (h : allocScratchVa find s.map size = .ok (iova, m)) :
    s.step find (.alloc size) = ⟨m, (iova, size) :: s.live⟩ := by
  simp only [step, h]

/-- Sizes are whole pages, and what is freed was allocated. -/
def Lawful (s : Scratch) : Op → Prop
  | .alloc size => Defined s.map size ∧ 4096 ∣ size
  | .free addr size => (addr, size) ∈ s.live

instance (s : Scratch) (op : Op) : Decidable (Lawful s op) :=
  match op with
  | .alloc _ => inferInstanceAs (Decidable (_ ∧ _))
  | .free _ _ => inferInstanceAs (Decidable (_ ∈ _))

/-- The units of an allocation, the guard included. -/
def ScratchMapping.area (m : ScratchMapping) (p : ℕ × ℕ) : Area :=
  ⟨(p.1 - m.base) / m.unit, m.units p.2 + 1⟩

/-- Its addresses, the guard included. -/
def ScratchMapping.range (m : ScratchMapping) (p : ℕ × ℕ) : Area :=
  ⟨p.1, (m.units p.2 + 1) * m.unit⟩

structure Exact (s : Scratch) : Prop where
  disjoint : s.live.Pairwise fun p q => (s.map.range p).Apart (s.map.range q)
  aligned : ∀ p ∈ s.live, s.map.base ≤ p.1 ∧ 2 ^ (pageShift + getOrder p.2) ∣ p.1 - s.map.base
  bitmap : s.map.bitmap = bitsOf (s.live.map s.map.area)
  restores : ∀ p ∈ s.live, freeScratchVa s.map p.1 p.2 =
    (0, { s.map with bitmap := bitsOf ((s.live.erase p).map s.map.area) })

/-- The map is a region that 32-bit offsets reach, off address zero. -/
structure Addressable (m : ScratchMapping) : Prop where
  base_pos : 0 < m.base
  span_le : m.bits * m.unit ≤ 2 ^ 32
  top_le : m.base + m.bits * m.unit ≤ 2 ^ 64

/-- A live allocation holds aligned units of the map. -/
structure Placed (m : ScratchMapping) (p : ℕ × ℕ) : Prop where
  sized : Defined m p.2
  pages : 4096 ∣ p.2
  addr_eq : p.1 = m.base + (m.area p).start * m.unit
  inside : (m.area p).start + (m.area p).len ≤ m.bits
  aligned : 2 ^ m.excess p.2 ∣ (m.area p).start

structure Inv (s : Scratch) : Prop where
  addressable : Addressable s.map
  placed : ∀ p ∈ s.live, Placed s.map p
  tiles : Tiles s.map.bitmap (s.live.map s.map.area)

lemma Addressable.bits_lt {m : ScratchMapping} (h : Addressable m) : m.bits < 2 ^ 30 := by
  have hspan := h.span_le
  have hpos := Nat.two_pow_pos m.order
  rw [m.unit_eq] at hspan
  have : m.bits * 4096 ≤ m.bits * (4096 * 2 ^ m.order) :=
    Nat.mul_le_mul_left _ (Nat.le_mul_of_pos_right _ hpos)
  omega

lemma area_of_start (m : ScratchMapping) (start size : ℕ) :
    m.area (m.base + start * m.unit, size) = ⟨start, m.units size + 1⟩ := by
  simp [ScratchMapping.area, Nat.mul_div_cancel _ m.unit_pos]

lemma Placed.free_eq {m : ScratchMapping} {p : ℕ × ℕ} (h : Placed m p) (hm : Addressable m) :
    freeScratchVa m p.1 p.2 = (0, { m with bitmap := clearArea m.bitmap (m.area p) }) := by
  rw [h.addr_eq]
  exact freeScratchVa_eq h.sized h.pages hm.base_pos h.inside hm.bits_lt hm.top_le

lemma Placed.range_apart {m : ScratchMapping} {p q : ℕ × ℕ} (hp : Placed m p) (hq : Placed m q)
    (h : (m.area p).Apart (m.area q)) : (m.range p).Apart (m.range q) := by
  have hstart := hp.addr_eq
  have hstart' := hq.addr_eq
  rcases h with h | h
  · left
    have := Nat.mul_le_mul_right m.unit h
    simp only [ScratchMapping.range, Nat.add_mul, ScratchMapping.area] at *
    omega
  · right
    have := Nat.mul_le_mul_right m.unit h
    simp only [ScratchMapping.range, Nat.add_mul, ScratchMapping.area] at *
    omega

lemma Placed.order_dvd {m : ScratchMapping} {p : ℕ × ℕ} (h : Placed m p) :
    2 ^ (pageShift + getOrder p.2) ∣ p.1 - m.base := by
  obtain ⟨k, hk⟩ := h.aligned
  have hle : pageShift + getOrder p.2 ≤ m.excess p.2 + (pageShift + m.order) := by
    unfold ScratchMapping.excess
    omega
  rw [h.addr_eq, Nat.add_sub_cancel_left, hk, ScratchMapping.unit, Nat.mul_right_comm,
    ← Nat.pow_add]
  exact Dvd.dvd.mul_right (Nat.pow_dvd_pow 2 hle) k

theorem Inv.exact {s : Scratch} (h : Inv s) : Exact s where
  disjoint := by
    have happart := List.pairwise_map.mp h.tiles.apart
    exact happart.imp_of_mem fun hp hq => (h.placed _ hp).range_apart (h.placed _ hq)
  aligned p hp := by
    have haddr := (h.placed p hp).addr_eq
    exact ⟨by omega, (h.placed p hp).order_dvd⟩
  bitmap := h.tiles.bits_eq
  restores p hp := by
    have hperm := (List.perm_cons_erase hp).map s.map.area
    rw [(h.placed p hp).free_eq h.addressable, (h.tiles.clear hperm).bits_eq]

lemma Placed.of_bitmap {m : ScratchMapping} {bitmap : ℕ → Bool} {p : ℕ × ℕ} (h : Placed m p) :
    Placed { m with bitmap := bitmap } p :=
  ⟨⟨h.sized.1, h.sized.2, h.sized.3⟩, h.pages, h.addr_eq, h.inside, h.aligned⟩

lemma Addressable.of_bitmap {m : ScratchMapping} {bitmap : ℕ → Bool} (h : Addressable m) :
    Addressable { m with bitmap := bitmap } := ⟨h.1, h.2, h.3⟩

lemma Inv.alloc {find : (ℕ → Bool) → ℕ → ℕ → ℕ → ℕ} (hfind : FindsArea find) {s : Scratch}
    (h : Inv s) {size : ℕ} (hsize : Defined s.map size) (hpage : 4096 ∣ size) :
    Inv (s.step find (.alloc size)) := by
  cases halloc : allocScratchVa find s.map size with
  | error rc => simpa only [Scratch.step, halloc] using h
  | ok got =>
    obtain ⟨iova, map⟩ := got
    obtain ⟨start, hfits, hiova, rfl⟩ := hsize.alloc_spec hfind h.addressable.bits_lt halloc
    have hunit := s.map.unit_pos
    have hin : start + s.map.units size + 1 ≤ s.map.bits := hfits.inside
    have hoff : (start + 1) * s.map.unit ≤ s.map.bits * s.map.unit :=
      Nat.mul_le_mul_right _ (by omega)
    have hspan := h.addressable.span_le
    have htop := h.addressable.top_le
    rw [Nat.succ_mul] at hoff
    rw [Nat.mod_eq_of_lt (a := start * s.map.unit) (by omega), Nat.mod_eq_of_lt (by omega)] at hiova
    have harea : s.map.area (iova, size) = ⟨start, s.map.units size + 1⟩ := by
      rw [hiova, area_of_start]
    have hplaced : Placed s.map (iova, size) := by
      refine ⟨hsize, hpage, ?_, ?_, ?_⟩
      · rw [harea, hiova]
      · rw [harea]
        exact hfits.inside
      · rw [harea]
        exact hfits.aligned
    have hset := h.tiles.set (Nat.succ_pos (s.map.units size)) (fun b hb => ?_) hfits.clear
    · rw [Scratch.step_alloc halloc]
      refine ⟨h.addressable.of_bitmap, ?_, ?_⟩
      · rintro p (_ | ⟨_, hp⟩)
        · exact hplaced.of_bitmap
        · exact (h.placed p hp).of_bitmap
      · rw [← harea] at hset ⊢
        exact hset
    · obtain ⟨p, -, rfl⟩ := List.mem_map.mp hb
      exact Nat.succ_pos _

lemma Inv.free {find : (ℕ → Bool) → ℕ → ℕ → ℕ → ℕ} {s : Scratch} (h : Inv s) {addr size : ℕ}
    (hlive : (addr, size) ∈ s.live) : Inv (s.step find (.free addr size)) := by
  have hfree := (h.placed _ hlive).free_eq h.addressable
  have hperm := (List.perm_cons_erase hlive).map s.map.area
  simp only [Scratch.step, hfree, if_pos]
  refine ⟨h.addressable.of_bitmap, fun p hp => ?_, h.tiles.clear hperm⟩
  exact (h.placed p (List.mem_of_mem_erase hp)).of_bitmap

theorem run_exact {find : (ℕ → Bool) → ℕ → ℕ → ℕ → ℕ} (hfind : FindsArea find) {m : ScratchMapping}
    (hempty : m.bitmap = fun _ => false) (hm : Addressable m) {ops : List Op}
    (hops : Transition.Guarded (Scratch.step find) Lawful ⟨m, []⟩ ops) :
    Exact (Transition.run (Scratch.step find) ⟨m, []⟩ ops) := by
  have hinit : Inv ⟨m, []⟩ := ⟨hm, by simp, ⟨hempty, List.Pairwise.nil⟩⟩
  refine (Transition.run_invariant (fun s op h hop => ?_) hinit hops).exact
  cases op with
  | alloc size => exact h.alloc hfind hop.1 hop.2
  | free addr size => exact h.free hop

lemma initScratchMap_built {base size : ℕ} {m : ScratchMapping} (hsize : size < 2 ^ 32)
    (hm : initScratchMap true base size 0 = .ok m) :
    m = ⟨fun _ => false, m.bits, 0, base⟩ ∧ 64 ≤ m.bits ∧ m.bits ≤ 2 ^ 20 := by
  have hpages : size >>> (pageShift + 0) = size / 4096 := Nat.shiftRight_eq_div_pow size 12
  simp only [initScratchMap, hpages, bitsToLongs] at hm
  split_ifs at hm with hzero
  rw [Except.ok.injEq] at hm
  subst hm
  refine ⟨rfl, ?_, ?_⟩
  · dsimp only
    omega
  · dsimp only
    omega

lemma freeScratchVa_zero (m : ScratchMapping) (size : ℕ) : (freeScratchVa m 0 size).1 = -Errno.EINVAL := rfl

lemma alloc_whole {find : (ℕ → Bool) → ℕ → ℕ → ℕ → ℕ} (hfind : FindsArea find) {bits base : ℕ}
    (hlow : 2 ≤ bits) (hhigh : bits ≤ 2 ^ 20) (hbase : base < 2 ^ 64) :
    Defined ⟨fun _ => false, bits, 0, base⟩ ((bits - 1) * 4096) ∧
      ∃ m', allocScratchVa find ⟨fun _ => false, bits, 0, base⟩ ((bits - 1) * 4096) = .ok (base, m') := by
  set m : ScratchMapping := ⟨fun _ => false, bits, 0, base⟩ with hm
  have hunit : m.unit = 4096 := rfl
  have hdef : Defined m ((bits - 1) * 4096) := by
    refine ⟨by omega, show 0 + pageShift < 32 by decide, ?_⟩
    rw [getOrder_le_iff (by omega) (by omega)]
    exact Nat.le_trans (by omega : _ ≤ 2 ^ 32) (Nat.pow_le_pow_right (by norm_num) (by simp [pageShift, hm]))
  have hunits : m.units ((bits - 1) * 4096) = bits - 1 := by
    rw [ScratchMapping.units, hunit]
    omega
  refine ⟨hdef, ?_⟩
  have hfits : Fits m.bitmap m.bits (2 ^ m.excess ((bits - 1) * 4096)) ⟨0, m.units ((bits - 1) * 4096) + 1⟩ := by
    refine ⟨?_, dvd_zero _, fun _ _ => rfl⟩
    change 0 + (m.units ((bits - 1) * 4096) + 1) ≤ bits
    omega
  have hbits : m.bits < 2 ^ 30 := Nat.lt_of_le_of_lt hhigh (by norm_num)
  obtain ⟨iova, m', halloc⟩ := hdef.alloc_total hfind (hbits.trans (by norm_num)) hfits
  obtain ⟨start, hplace, hiova, -⟩ := hdef.alloc_spec hfind hbits halloc
  have hin : start + (m.units ((bits - 1) * 4096) + 1) ≤ bits := hplace.inside
  obtain rfl : start = 0 := by omega
  have hfirst : iova = base := by
    rw [hiova, Nat.zero_mul, Nat.zero_mod, Nat.add_zero]
    exact Nat.mod_eq_of_lt hbase
  exact ⟨m', hfirst ▸ halloc⟩

/-- On the map of a region given by two 32-bit words every run keeps the allocations exact, exactly
when the region does not start at address zero. -/
theorem built_exact_iff {find : (ℕ → Bool) → ℕ → ℕ → ℕ → ℕ} (hfind : FindsArea find) {base size : ℕ}
    (hbase : base < 2 ^ 32) (hsize : size < 2 ^ 32) {m : ScratchMapping}
    (hm : initScratchMap true base size 0 = .ok m) :
    (∀ ops, Transition.Guarded (Scratch.step find) Lawful ⟨m, []⟩ ops →
      Exact (Transition.run (Scratch.step find) ⟨m, []⟩ ops)) ↔ base ≠ 0 := by
  obtain ⟨hbuilt, hlow, hhigh⟩ := initScratchMap_built hsize hm
  generalize m.bits = bits at hbuilt hlow hhigh
  subst hbuilt
  constructor
  · rintro hall rfl
    -- The map taken whole is at address zero, and stays taken.
    obtain ⟨hdef, m', halloc⟩ := alloc_whole hfind (by omega) hhigh (show 0 < 2 ^ 64 by norm_num)
    have hrun := Scratch.step_alloc (s := ⟨_, []⟩) halloc
    have hexact := hall [.alloc ((bits - 1) * 4096)] ⟨⟨hdef, Dvd.intro_left _ rfl⟩, trivial⟩
    rw [Transition.run_cons, hrun] at hexact
    have hfree := congrArg Prod.fst (hexact.restores (0, (bits - 1) * 4096) List.mem_cons_self)
    rw [freeScratchVa_zero] at hfree
    simp [Errno.EINVAL] at hfree
  · intro hne ops hops
    have hunit : (⟨fun _ => false, bits, 0, base⟩ : ScratchMapping).unit = 4096 := rfl
    refine run_exact hfind rfl ⟨Nat.pos_of_ne_zero hne, ?_, ?_⟩ hops
    · rw [hunit]
      dsimp only
      omega
    · rw [hunit]
      dsimp only
      omega

theorem built_exact_small :
    Exact (Transition.run (Scratch.step firstFit) ⟨⟨fun _ => false, 64, 0, 2 ^ 24⟩, []⟩
      [.alloc 8192, .alloc 4096, .free (2 ^ 24) 8192]) :=
  (built_exact_iff firstFit_findsArea (by norm_num) (by norm_num : 2 ^ 18 < 2 ^ 32) rfl).mpr (by norm_num) _
    (by decide +kernel)

/-- The first page of a region at address zero is allocated, and cannot be freed. -/
theorem zeroBase_not_exact :
    initScratchMap true 0 (2 ^ 18) 0 = .ok ⟨fun _ => false, 64, 0, 0⟩ ∧
      Transition.Guarded (Scratch.step firstFit) Lawful ⟨⟨fun _ => false, 64, 0, 0⟩, []⟩ [.alloc 4096] ∧
      (Transition.run (Scratch.step firstFit) ⟨⟨fun _ => false, 64, 0, 0⟩, []⟩ [.alloc 4096]).live = [(0, 4096)] ∧
      ¬ Exact (Transition.run (Scratch.step firstFit) ⟨⟨fun _ => false, 64, 0, 0⟩, []⟩ [.alloc 4096]) := by
  have hlive : (Transition.run (Scratch.step firstFit) ⟨⟨fun _ => false, 64, 0, 0⟩, []⟩ [.alloc 4096]).live =
      [(0, 4096)] := by decide +kernel
  refine ⟨rfl, by decide +kernel, hlive, fun hexact => ?_⟩
  have hmem := hlive.symm ▸ List.mem_singleton_self (0, 4096)
  have hfree := congrArg Prod.fst (hexact.restores (0, 4096) hmem)
  rw [freeScratchVa_zero] at hfree
  simp [Errno.EINVAL] at hfree

end CameraKernel.ScratchVa
