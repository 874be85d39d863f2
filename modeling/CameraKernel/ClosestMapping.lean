import CameraKernel.MarkedMin

/-! Which mapping a page fault is blamed on: the search for the mapping that is closest to the faulting
address. -/
namespace CameraKernel.ClosestMapping
open MarkedMin (markedMin step)

/-- The fields of `struct cam_dma_buff_info` that the search reads. What the IOMMU maps ends far below
the sign bit of an address. -/
structure Mapping where
  paddr : UInt64
  len : UInt64
  ionFd : ℤ
  fits : paddr.toNat + len.toNat < 2 ^ 63

namespace Mapping

def startAddr (m : Mapping) : UInt64 := m.paddr

def endAddr (m : Mapping) : UInt64 := m.paddr + m.len

end Mapping

/-- A faulting address, which the IOMMU also has below the sign bit. -/
structure Address where
  addr : UInt64
  fits : addr.toNat < 2 ^ 63

variable (a : Address) (l : List Mapping)

def Inside (m : Mapping) : Prop := m.startAddr ≤ a.addr ∧ a.addr ≤ m.endAddr

instance (m : Mapping) : Decidable (Inside a m) := inferInstanceAs (Decidable (_ ∧ _))

/-- The `delta` of a mapping, a `long`. -/
def delta (m : Mapping) : ℤ :=
  if m.startAddr > a.addr then (m.startAddr - a.addr).toInt64.toInt
  else (a.addr - m.endAddr - 1).toInt64.toInt

/-- The loop of `cam_smmu_find_closest_mapping` from a lowest delta and its mapping on. -/
def search (s : ℤ × Option Mapping) : List Mapping → Option Mapping
  | [] => s.2
  | m :: l => if Inside a m then some m else search (step (delta a) s m) l

/-- `closest_mapping`, from which the buffer handle is made. -/
def findClosestMapping : Option Mapping := search a (0, none) l

/-- The distance to the start above, or to the end below. -/
def distance (m : Mapping) : ℕ :=
  if m.startAddr > a.addr then m.startAddr.toNat - a.addr.toNat else a.addr.toNat - m.endAddr.toNat

/-- A mapping that contains the address, or one at minimal distance when there is none. -/
def Closest (m : Mapping) : Prop :=
  Inside a m ∨ (∀ x ∈ l, ¬Inside a x) ∧ ∀ x ∈ l, distance a m ≤ distance a x

structure Optimal : Prop where
  found : findClosestMapping a l = none → l = []
  closest : ∀ m, findClosestMapping a l = some m → m ∈ l ∧ Closest a l m

/-- The mappings behind the last that ends right below the address. -/
def behindAdjacent : List Mapping := l.rtakeWhile (delta a · ≠ 0)

/-- The address is in a mapping; or a mapping below is at the least distance, and that is not 1; or,
behind the last mapping that ends right below, there is no mapping or the first with the least distance
as its delta is one above. -/
def Good : Prop :=
  (∃ m ∈ l, Inside a m) ∨ ∀ d : ℕ, IsLeast {n | ∃ m ∈ l, n = distance a m} d →
    (2 ≤ d ∧ ∃ m ∈ l, ¬m.startAddr > a.addr ∧ distance a m = d) ∨ behindAdjacent a l = [] ∨
      ∃ m, (behindAdjacent a l).find? (delta a · = d) = some m ∧ m.startAddr > a.addr

variable {a l} {m : Mapping}

lemma endAddr_toNat (m : Mapping) : m.endAddr.toNat = m.startAddr.toNat + m.len.toNat := by
  have h := m.fits
  rw [Mapping.endAddr, Mapping.startAddr, UInt64.toNat_add, Nat.mod_eq_of_lt (by omega)]

lemma inside_iff :
    Inside a m ↔ m.startAddr.toNat ≤ a.addr.toNat ∧ a.addr.toNat ≤ m.endAddr.toNat := Iff.rfl

lemma toInt_of_lt {w : UInt64} (h : w.toNat < 2 ^ 63) : w.toInt64.toInt = w.toNat :=
  BitVec.toInt_eq_toNat_of_lt (by simpa using by omega)

lemma delta_eq (h : ¬Inside a m) :
    delta a m = if m.startAddr > a.addr then (distance a m : ℤ) else distance a m - 1 := by
  have ha := a.fits
  have hend := endAddr_toNat m
  have hm := m.fits
  rw [delta, distance]
  split_ifs with habove
  · have hlt := UInt64.lt_iff_toNat_lt.mp habove
    have hsub := UInt64.toNat_sub_of_le _ _ (UInt64.le_of_lt habove)
    rw [toInt_of_lt (by rw [hsub]; simp only [Mapping.startAddr] at *; omega), hsub]
  · have hbelow : m.endAddr.toNat < a.addr.toNat := by
      rw [inside_iff] at h
      have := UInt64.le_iff_toNat_le.mp (UInt64.not_lt.mp habove)
      omega
    have hsub := UInt64.toNat_sub_of_le a.addr m.endAddr (UInt64.le_iff_toNat_le.mpr hbelow.le)
    have hone : (1 : UInt64) ≤ a.addr - m.endAddr := by
      rw [UInt64.le_iff_toNat_le, hsub]
      exact Nat.succ_le_of_lt (Nat.sub_pos_of_lt hbelow)
    have hsub' := UInt64.toNat_sub_of_le _ _ hone
    have h1 : (1 : UInt64).toNat = 1 := rfl
    rw [hsub, h1] at hsub'
    rw [toInt_of_lt (by omega), hsub']
    omega

lemma distance_pos (h : ¬Inside a m) : 0 < distance a m := by
  rw [inside_iff] at h
  rw [distance]
  split_ifs with habove
  · have := UInt64.lt_iff_toNat_lt.mp habove
    omega
  · have := UInt64.le_iff_toNat_le.mp (UInt64.not_lt.mp habove)
    omega

lemma search_mem {s : ℤ × Option Mapping} (h : ∃ m ∈ l, Inside a m) :
    ∃ m ∈ l, Inside a m ∧ search a s l = some m := by
  induction l generalizing s with
  | nil => simp at h
  | cons m l ih =>
    rw [search]
    split_ifs with hm
    · exact ⟨m, List.mem_cons_self, hm, rfl⟩
    · obtain ⟨x, hx, hin⟩ := h
      rcases List.mem_cons.mp hx with rfl | hx
      · exact absurd hin hm
      · obtain ⟨y, hy, hin, heq⟩ := ih (s := step (delta a) s m) ⟨x, hx, hin⟩
        exact ⟨y, List.mem_cons_of_mem m hy, hin, heq⟩

lemma search_eq_foldl {s : ℤ × Option Mapping} (h : ∀ m ∈ l, ¬Inside a m) :
    search a s l = (l.foldl (step (delta a)) s).2 := by
  induction l generalizing s with
  | nil => rfl
  | cons m l ih =>
    rw [search, if_neg (h m List.mem_cons_self), List.foldl_cons]
    exact ih fun x hx => h x (List.mem_cons_of_mem m hx)

lemma behindAdjacent_append {before r : List Mapping}
    (hbefore : before = [] ∨ ∃ xs z, before = xs ++ [z] ∧ delta a z = 0)
    (hrest : ∀ m ∈ r, delta a m ≠ 0) : behindAdjacent a (before ++ r) = r := by
  induction r using List.reverseRecOn with
  | nil =>
    rcases hbefore with rfl | ⟨xs, z, rfl, hz⟩
    · rfl
    · rw [List.append_nil, behindAdjacent, List.rtakeWhile_concat_neg _ _ _ (by simp [hz])]
  | append_singleton rest x ih =>
    have hx := hrest x (by simp)
    rw [behindAdjacent, ← List.append_assoc, List.rtakeWhile_concat_pos _ _ _ (by simpa using hx)]
    exact congrArg (· ++ [x]) (ih fun m hm => hrest m (List.mem_append_left _ hm))

lemma delta_nonneg (h : ¬Inside a m) : 0 ≤ delta a m := by
  have hpos := distance_pos h
  rw [delta_eq h]
  split_ifs
  · exact Int.natCast_nonneg _
  · omega

variable {before skipped after : List Mapping}

lemma mem_of_found (h : MarkedMin.Found (delta a) l m before skipped after) : m ∈ l := by
  rw [h.eq]
  simp

/-- The mapping found has delta zero and nothing behind it, or it is the first minimum behind the last
that ends right below. -/
lemma behindAdjacent_of_found (hout : ∀ x ∈ l, ¬Inside a x)
    (h : MarkedMin.Found (delta a) l m before skipped after) :
    behindAdjacent a l = [] ∧ delta a m = 0 ∨
      behindAdjacent a l = skipped ++ m :: after ∧ 0 < delta a m := by
  by_cases hzero : delta a m = 0
  · refine .inl ⟨?_, hzero⟩
    rw [behindAdjacent, h.eq, h.zero hzero, ← List.append_assoc,
      List.rtakeWhile_concat_neg _ _ _ (by simp [hzero])]
  · have hpos : 0 < delta a m := lt_of_le_of_ne (delta_nonneg (hout m (mem_of_found h))) (Ne.symm hzero)
    refine .inr ⟨?_, hpos⟩
    have hbehind := behindAdjacent_append (r := skipped ++ m :: after) h.restart fun x hx => ?_
    · rwa [← h.eq] at hbehind
    · rcases List.mem_append.mp hx with hx | hx
      · exact (hpos.trans (h.above x hx)).ne'
      · rcases List.mem_cons.mp hx with rfl | hx
        · exact hpos.ne'
        · exact (hpos.trans_le (h.least x hx)).ne'

lemma delta_le_of_mem (h : MarkedMin.Found (delta a) l m before skipped after) {x : Mapping}
    (hx : x ∈ skipped ++ m :: after) : delta a m ≤ delta a x := by
  rcases List.mem_append.mp hx with hx | hx
  · exact (h.above x hx).le
  · rcases List.mem_cons.mp hx with rfl | hx
    · exact le_rfl
    · exact h.least x hx

lemma find?_of_found (h : MarkedMin.Found (delta a) l m before skipped after) :
    (skipped ++ m :: after).find? (delta a · = delta a m) = some m := by
  have hskip : skipped.find? (delta a · = delta a m) = none := by
    rw [List.find?_eq_none]
    intro x hx
    simpa using (h.above x hx).ne'
  rw [List.find?_append, hskip, List.find?_cons_of_pos (by simp)]
  rfl

variable {d : ℕ}

lemma distance_of_delta_zero (h : ¬Inside a m) (hzero : delta a m = 0) : distance a m = 1 := by
  have hpos := distance_pos h
  rw [delta_eq h] at hzero
  split_ifs at hzero <;> omega

lemma distance_eq_iff_good (hout : ∀ x ∈ l, ¬Inside a x)
    (h : MarkedMin.Found (delta a) l m before skipped after)
    (hd : IsLeast {n | ∃ m ∈ l, n = distance a m} d) :
    distance a m = d ↔
      (2 ≤ d ∧ ∃ m ∈ l, ¬m.startAddr > a.addr ∧ distance a m = d) ∨ behindAdjacent a l = [] ∨
        ∃ m, (behindAdjacent a l).find? (delta a · = d) = some m ∧ m.startAddr > a.addr := by
  have hmem := mem_of_found h
  have hle : d ≤ distance a m := hd.2 ⟨m, hmem, rfl⟩
  have hdelta := delta_eq (hout m hmem)
  rcases behindAdjacent_of_found hout h with ⟨hbehind, hzero⟩ | ⟨hbehind, hpos⟩
  · have hone := distance_of_delta_zero (hout m hmem) hzero
    obtain ⟨x, hx, hdx⟩ := hd.1
    have hposx := distance_pos (hout x hx)
    exact iff_of_true (by omega) (.inr (.inl hbehind))
  rw [hbehind]
  constructor
  · intro heq
    by_cases habove : m.startAddr > a.addr
    · rw [if_pos habove, heq] at hdelta
      exact .inr (.inr ⟨m, hdelta ▸ find?_of_found h, habove⟩)
    · rw [if_neg habove, heq] at hdelta
      exact .inl ⟨by omega, m, hmem, habove, heq⟩
  · rintro (⟨htwo, y, hy, hbelow, heq⟩ | hnil | ⟨x, hfind, habove⟩)
    · have hdy := delta_eq (hout y hy)
      rw [if_neg hbelow, heq] at hdy
      -- nothing ends right below, so the minimum is over the whole list
      have hbefore : before = [] := by
        refine h.restart.resolve_right ?_
        rintro ⟨xs, z, rfl, hz⟩
        have hzmem : z ∈ l := by
          rw [h.eq]
          simp
        have hone := distance_of_delta_zero (hout z hzmem) hz
        have hlez : d ≤ distance a z := hd.2 ⟨z, hzmem, rfl⟩
        omega
      have hley := delta_le_of_mem h (x := y) (by rwa [h.eq, hbefore, List.nil_append] at hy)
      split_ifs at hdelta <;> omega
    · simp at hnil
    · have hx := List.mem_of_find?_eq_some hfind
      have hdx : delta a x = d := by simpa using List.find?_some hfind
      have hlex := delta_le_of_mem h hx
      by_cases habovem : m.startAddr > a.addr
      · rw [if_pos habovem] at hdelta
        omega
      · rw [if_neg habovem] at hdelta
        have hne : delta a m ≠ d := by
          intro heq
          rw [← heq, find?_of_found h] at hfind
          cases hfind
          exact habovem habove
        omega

/-- The search is optimal exactly when the list is good for the address. -/
theorem optimal_iff_good (a : Address) (l : List Mapping) : Optimal a l ↔ Good a l := by
  by_cases hin : ∃ m ∈ l, Inside a m
  · obtain ⟨m, hm, hinside, hfind⟩ := search_mem (s := (0, none)) hin
    refine iff_of_true ⟨fun h => ?_, fun x hx => ?_⟩ (.inl hin)
    · rw [findClosestMapping, hfind] at h
      cases h
    · rw [findClosestMapping, hfind] at hx
      cases hx
      exact ⟨hm, .inl hinside⟩
  have hout : ∀ x ∈ l, ¬Inside a x := fun x hx h => hin ⟨x, hx, h⟩
  have hsearch : findClosestMapping a l = (markedMin (delta a) l).2 := search_eq_foldl hout
  rcases MarkedMin.markedMin_found (delta a) l with ⟨rfl, hmin⟩ | ⟨m, b, s, r, hmin, hfound⟩
  · refine iff_of_true ⟨fun _ => rfl, fun m hm => nomatch hm⟩ (.inr fun d hd => ?_)
    obtain ⟨x, hx, -⟩ := hd.1
    exact absurd hx List.not_mem_nil
  · have hfind : findClosestMapping a l = some m := hsearch.trans (congrArg Prod.snd hmin)
    have hmem := mem_of_found hfound
    obtain ⟨d, hd⟩ : ∃ d, IsLeast {n | ∃ m ∈ l, n = distance a m} d :=
      ⟨_, Nat.sInf_mem ⟨_, m, hmem, rfl⟩, fun n hn => Nat.sInf_le hn⟩
    have hgood : Good a l ↔ distance a m = d := by
      rw [distance_eq_iff_good hout hfound hd]
      exact ⟨fun hg => hg.resolve_left hin d hd, fun h => .inr fun d' hd' => hd'.unique hd ▸ h⟩
    rw [hgood]
    constructor
    · intro hopt
      obtain hinside | ⟨-, hleast⟩ := (hopt.closest m hfind).2
      · exact absurd hinside (hout m hmem)
      · obtain ⟨x, hx, hdx⟩ := hd.1
        exact le_antisymm (hdx ▸ hleast x hx) (hd.2 ⟨m, hmem, rfl⟩)
    · intro heq
      refine ⟨fun h => (nomatch hfind.symm.trans h), fun x hx => ?_⟩
      cases hfind.symm.trans hx
      exact ⟨hmem, .inr ⟨hout, fun y hy => heq ▸ hd.2 ⟨y, hy, rfl⟩⟩⟩

/-- A mapping that ends right below the address, then one far above. -/
def adjacentFirst : List Mapping := [⟨0x1000, 0x1000, 1, by decide⟩, ⟨0x9000, 0x1000, 2, by decide⟩]

theorem not_optimal : ¬∀ a l, Optimal a l := by
  intro h
  have hclosest := (h ⟨0x2001, by decide⟩ adjacentFirst).closest ⟨0x9000, 0x1000, 2, by decide⟩ rfl
  rcases hclosest.2 with hin | ⟨-, hleast⟩
  · exact absurd hin (by decide)
  · exact absurd (hleast ⟨0x1000, 0x1000, 1, by decide⟩ (by simp [adjacentFirst])) (by decide)

end CameraKernel.ClosestMapping
