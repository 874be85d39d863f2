import Mathlib

/-! Areas of a bitmap: runs of consecutive bits that an allocator sets and clears together. A bitmap
is tiled by a list of areas when its set bits are those of the areas and no two areas share one. -/
namespace CameraKernel.BitArea

structure Area where
  start : ℕ
  len : ℕ
  deriving DecidableEq, Repr

def Area.Covers (a : Area) (i : ℕ) : Prop := a.start ≤ i ∧ i < a.start + a.len

instance (a : Area) (i : ℕ) : Decidable (a.Covers i) := inferInstanceAs (Decidable (_ ∧ _))

def Area.Apart (a b : Area) : Prop := a.start + a.len ≤ b.start ∨ b.start + b.len ≤ a.start

def setArea (bits : ℕ → Bool) (a : Area) : ℕ → Bool := fun i => decide (a.Covers i) || bits i

def clearArea (bits : ℕ → Bool) (a : Area) : ℕ → Bool := fun i => !decide (a.Covers i) && bits i

def Clear (bits : ℕ → Bool) (a : Area) : Prop := ∀ i, a.Covers i → bits i = false

lemma Area.Apart.symm {a b : Area} (h : a.Apart b) : b.Apart a := Or.symm h

lemma Area.Apart.not_covers {a b : Area} (h : a.Apart b) {i : ℕ} (ha : a.Covers i) :
    ¬ b.Covers i := by
  obtain ⟨hlo, hhi⟩ := ha
  rintro ⟨hlo', hhi'⟩
  rcases h with h | h
  · omega
  · omega

lemma Area.apart_of_not_covers {a b : Area} (ha : 0 < a.len) (hb : 0 < b.len)
    (h : ∀ i, a.Covers i → ¬ b.Covers i) : a.Apart b := by
  by_contra hn
  unfold Area.Apart at hn
  push Not at hn
  refine h (max a.start b.start) ⟨le_max_left _ _, ?_⟩ ⟨le_max_right _ _, ?_⟩
  · exact max_lt (by omega) (by omega)
  · exact max_lt (by omega) (by omega)

@[simp] lemma setArea_apply (bits : ℕ → Bool) (a : Area) (i : ℕ) :
    setArea bits a i = true ↔ a.Covers i ∨ bits i = true := by
  simp [setArea]

@[simp] lemma clearArea_apply (bits : ℕ → Bool) (a : Area) (i : ℕ) :
    clearArea bits a i = true ↔ ¬ a.Covers i ∧ bits i = true := by
  simp [clearArea]

theorem clearArea_setArea {bits : ℕ → Bool} {a : Area} (h : Clear bits a) :
    clearArea (setArea bits a) a = bits := by
  funext i
  by_cases hi : a.Covers i
  · simp [clearArea, hi, h i hi]
  · simp [clearArea, setArea, hi]

lemma setArea_eq_self {bits : ℕ → Bool} {a : Area} (h : Clear bits a) :
    setArea bits a = bits ↔ a.len = 0 := by
  constructor
  · intro heq
    by_contra hlen
    have hcov : a.Covers a.start := ⟨le_rfl, by omega⟩
    have hset : setArea bits a a.start = true := (setArea_apply _ _ _).mpr (Or.inl hcov)
    rw [heq, h a.start hcov] at hset
    cases hset
  · intro hlen
    funext i
    have hcov : ¬ a.Covers i := fun hi => by
      obtain ⟨hlo, hhi⟩ := hi
      omega
    simp [setArea, hcov]

theorem clearArea_setArea_eq_iff {bits : ℕ → Bool} {start len len' : ℕ}
    (h : Clear bits ⟨start, len⟩) :
    clearArea (setArea bits ⟨start, len⟩) ⟨start, len'⟩ = bits ↔
      len ≤ len' ∧ Clear bits ⟨start, len'⟩ := by
  constructor
  · intro heq
    have hback (i : ℕ) : clearArea (setArea bits ⟨start, len⟩) ⟨start, len'⟩ i = bits i := by rw [heq]
    constructor
    · by_contra hlt
      have hcov : (⟨start, len⟩ : Area).Covers (start + len') := ⟨by simp, by simp; omega⟩
      have hset : clearArea (setArea bits ⟨start, len⟩) ⟨start, len'⟩ (start + len') = true := by
        rw [clearArea_apply, setArea_apply]
        exact ⟨fun hi => absurd hi.2 (by simp), Or.inl hcov⟩
      rw [hback, h _ hcov] at hset
      cases hset
    · intro i hi
      have hclear : clearArea (setArea bits ⟨start, len⟩) ⟨start, len'⟩ i = false := by
        simp [clearArea, hi]
      rwa [hback] at hclear
  · rintro ⟨hle, hclear⟩
    funext i
    by_cases hi : (⟨start, len'⟩ : Area).Covers i
    · simp [clearArea, hi, hclear i hi]
    · have hi' : ¬ (⟨start, len⟩ : Area).Covers i := fun hc => hi ⟨hc.1, hc.2.trans_le (by simpa using hle)⟩
      simp [clearArea, setArea, hi, hi']

/-- The bits of a list of areas. -/
def bitsOf (areas : List Area) : ℕ → Bool := fun i => areas.any fun a => decide (a.Covers i)

@[simp] lemma bitsOf_apply (areas : List Area) (i : ℕ) :
    bitsOf areas i = true ↔ ∃ a ∈ areas, a.Covers i := by
  simp [bitsOf]

structure Tiles (bits : ℕ → Bool) (areas : List Area) : Prop where
  bits_eq : bits = bitsOf areas
  apart : areas.Pairwise Area.Apart

lemma bitsOf_cons (a : Area) (areas : List Area) :
    bitsOf (a :: areas) = setArea (bitsOf areas) a := rfl

lemma bitsOf_perm {as bs : List Area} (h : as.Perm bs) : bitsOf as = bitsOf bs := by
  funext i
  rw [Bool.eq_iff_iff]
  simp [h.mem_iff]

lemma Tiles.perm {bits : ℕ → Bool} {as bs : List Area} (h : Tiles bits as) (hp : as.Perm bs) :
    Tiles bits bs :=
  ⟨h.bits_eq.trans (bitsOf_perm hp), (hp.pairwise_iff fun h => h.symm).mp h.apart⟩

theorem Tiles.set {bits : ℕ → Bool} {areas : List Area} (h : Tiles bits areas) {a : Area}
    (hpos : 0 < a.len) (hlen : ∀ b ∈ areas, 0 < b.len) (hclear : Clear bits a) :
    Tiles (setArea bits a) (a :: areas) where
  bits_eq := by rw [bitsOf_cons, h.bits_eq]
  apart := by
    refine List.pairwise_cons.mpr ⟨fun b hb => ?_, h.apart⟩
    refine Area.apart_of_not_covers hpos (hlen b hb) fun i hi hbi => ?_
    have hset : bits i = true := by
      rw [h.bits_eq, bitsOf_apply]
      exact ⟨b, hb, hbi⟩
    rw [hclear i hi] at hset
    cases hset

lemma Tiles.clear_rest {bits : ℕ → Bool} {a : Area} {areas : List Area}
    (h : Tiles bits (a :: areas)) : Clear (bitsOf areas) a := by
  intro i hi
  rw [Bool.eq_false_iff, ne_eq, bitsOf_apply]
  rintro ⟨b, hb, hbi⟩
  exact ((List.pairwise_cons.mp h.apart).1 b hb).not_covers hi hbi

theorem Tiles.clear {bits : ℕ → Bool} {as bs : List Area} (h : Tiles bits as) {a : Area}
    (hp : as.Perm (a :: bs)) : Tiles (clearArea bits a) bs := by
  have hcons : Tiles bits (a :: bs) := h.perm hp
  refine ⟨?_, (List.pairwise_cons.mp hcons.apart).2⟩
  rw [hcons.bits_eq, bitsOf_cons, clearArea_setArea hcons.clear_rest]

/-- The area fits into `size` bits, starts at a multiple of `align` and is clear. -/
structure Fits (bits : ℕ → Bool) (size align : ℕ) (a : Area) : Prop where
  inside : a.start + a.len ≤ size
  aligned : align ∣ a.start
  clear : Clear bits a

/-- A search `find bits size len mask` for a clear area answers its first bit, or, when there is
none, a number beyond `size`: the end of the area that did not fit. -/
structure FindsArea (find : (ℕ → Bool) → ℕ → ℕ → ℕ → ℕ) : Prop where
  fits : ∀ {bits size len k}, find bits size len (2 ^ k - 1) ≤ size →
    Fits bits size (2 ^ k) ⟨find bits size len (2 ^ k - 1), len⟩
  complete : ∀ {bits size len k r}, Fits bits size (2 ^ k) ⟨r, len⟩ →
    find bits size len (2 ^ k - 1) ≤ size
  bounded : ∀ bits size len k, find bits size len (2 ^ k - 1) ≤ size + 2 ^ k + len

/-- The bits from `start` on are clear, `len` of them. -/
def clearFrom (bits : ℕ → Bool) (start len : ℕ) : Bool :=
  (List.range len).all fun i => !bits (start + i)

lemma clearFrom_iff (bits : ℕ → Bool) (start len : ℕ) :
    clearFrom bits start len = true ↔ Clear bits ⟨start, len⟩ := by
  simp only [clearFrom, List.all_eq_true, List.mem_range, Bool.not_eq_true', Clear, Area.Covers]
  constructor
  · intro h i ⟨hlo, hhi⟩
    have := h (i - start) (by omega)
    rwa [Nat.add_sub_cancel' hlo] at this
  · intro h i hi
    exact h (start + i) ⟨by omega, by omega⟩

def fitsAt (bits : ℕ → Bool) (size len mask r : ℕ) : Bool :=
  decide (r + len ≤ size ∧ (mask + 1) ∣ r) && clearFrom bits r len

/-- The first aligned start from which the bits are clear. -/
def firstFit (bits : ℕ → Bool) (size len mask : ℕ) : ℕ :=
  ((List.range (size + 1)).find? (fitsAt bits size len mask)).getD (size + 1)

lemma fitsAt_iff {bits : ℕ → Bool} {size len k r : ℕ} :
    fitsAt bits size len (2 ^ k - 1) r = true ↔ Fits bits size (2 ^ k) ⟨r, len⟩ := by
  rw [fitsAt, Nat.sub_add_cancel Nat.one_le_two_pow, Bool.and_eq_true, decide_eq_true_iff,
    clearFrom_iff]
  constructor
  · rintro ⟨⟨hin, hal⟩, hclear⟩
    exact ⟨hin, hal, hclear⟩
  · rintro ⟨hin, hal, hclear⟩
    exact ⟨⟨hin, hal⟩, hclear⟩

lemma firstFit_cases (bits : ℕ → Bool) (size len k : ℕ) :
    (firstFit bits size len (2 ^ k - 1) = size + 1 ∧ ∀ r, ¬ Fits bits size (2 ^ k) ⟨r, len⟩) ∨
      Fits bits size (2 ^ k) ⟨firstFit bits size len (2 ^ k - 1), len⟩ := by
  cases hfind : (List.range (size + 1)).find? (fitsAt bits size len (2 ^ k - 1)) with
  | none =>
    refine .inl ⟨by rw [firstFit, hfind, Option.getD_none], fun r h => ?_⟩
    have hin : r + len ≤ size := h.inside
    exact List.find?_eq_none.mp hfind r (List.mem_range.mpr (by omega)) (fitsAt_iff.mpr h)
  | some r =>
    rw [firstFit, hfind, Option.getD_some]
    have hfits := List.find?_some hfind
    exact .inr (fitsAt_iff.mp hfits)

theorem firstFit_findsArea : FindsArea firstFit where
  fits := by
    intro bits size len k h
    rcases firstFit_cases bits size len k with ⟨heq, -⟩ | hfits
    · omega
    · exact hfits
  complete := by
    intro bits size len k r h
    rcases firstFit_cases bits size len k with ⟨-, hnone⟩ | hfits
    · exact absurd h (hnone r)
    · have hin := hfits.inside
      simp only at hin
      omega
  bounded := by
    intro bits size len k
    have hpos : 0 < 2 ^ k := Nat.two_pow_pos k
    rcases firstFit_cases bits size len k with ⟨heq, -⟩ | hfits
    · omega
    · have hin := hfits.inside
      simp only at hin
      omega

end CameraKernel.BitArea
