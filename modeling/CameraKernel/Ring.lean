import Mathlib

/-! Rings of `q` cells in a flat memory: the window from a read index up to a write
index, which may cross the end, and blocks copied into and out of it. -/
namespace CameraKernel.Ring
variable {α : Type*}

/-- A block copied into memory. -/
def store (mem : ℕ → α) (dst : ℕ) (words : List α) : ℕ → α :=
  fun i => if dst ≤ i then (words[i - dst]?).getD (mem i) else mem i

/-- A block copied out of memory. -/
def load (mem : ℕ → α) (src n : ℕ) : List α := (List.range n).map fun k => mem (src + k)

/-- The `n` words from cell `r` on, around the end of the ring. -/
def window (mem : ℕ → α) (q r n : ℕ) : List α := (List.range n).map fun k => mem ((r + k) % q)

/-- How many cells lie from `r` up to `w`, around the end. -/
def dist (q r w : ℕ) : ℕ := if r ≤ w then w - r else q - (r - w)

/-- A block put into the ring from cell `w` on, around the end. -/
def put (mem : ℕ → α) (q w : ℕ) (words : List α) : ℕ → α :=
  fun i => if i < q then (words[(i + (q - w)) % q]?).getD (mem i) else mem i

lemma mod_of_lt_two_mul {a q : ℕ} (h : a < 2 * q) : a % q = if a < q then a else a - q := by
  split
  · next hlt => exact Nat.mod_eq_of_lt hlt
  · next hge =>
    rw [Nat.mod_eq_sub_mod (by omega), Nat.mod_eq_of_lt (by omega)]

section Distance
variable {q r w : ℕ}

lemma dist_self : dist q r r = 0 := by simp [dist]

lemma dist_lt (hr : r < q) (hw : w < q) : dist q r w < q := by
  unfold dist
  split <;> omega

lemma dist_pos (hr : r < q) (hne : r ≠ w) : 0 < dist q r w := by
  unfold dist
  split <;> omega

lemma add_dist_mod (hr : r < q) (hw : w < q) : (r + dist q r w) % q = w := by
  have hd := dist_lt hr hw
  rw [mod_of_lt_two_mul (by omega)]
  unfold dist
  split_ifs <;> omega

lemma dist_add_right {n : ℕ} (hr : r < q) (hw : w < q) (hn : dist q r w + n < q) :
    dist q r ((w + n) % q) = dist q r w + n := by
  have hlt : w + n < 2 * q := by omega
  rw [mod_of_lt_two_mul hlt]
  unfold dist at hn ⊢
  split_ifs at hn ⊢ <;> omega

lemma dist_add_left {k : ℕ} (hr : r < q) (hw : w < q) (hk : k ≤ dist q r w) :
    dist q ((r + k) % q) w = dist q r w - k := by
  have hd := dist_lt hr hw
  rw [mod_of_lt_two_mul (by omega)]
  unfold dist at hk ⊢
  split_ifs at hk ⊢ <;> omega

end Distance

section Window
variable {mem mem' : ℕ → α} {q r : ℕ}

@[simp] lemma window_length (n : ℕ) : (window mem q r n).length = n := by simp [window]

@[simp] lemma load_length (src n : ℕ) : (load mem src n).length = n := by simp [load]

@[simp] lemma window_zero : window mem q r 0 = [] := rfl

lemma window_congr {n : ℕ} (h : ∀ k < n, mem' ((r + k) % q) = mem ((r + k) % q)) :
    window mem' q r n = window mem q r n := by
  refine List.map_congr_left fun k hk => ?_
  exact h k (List.mem_range.mp hk)

lemma window_add (m n : ℕ) :
    window mem q r (m + n) = window mem q r m ++ window mem q ((r + m) % q) n := by
  simp only [window, List.range_add, List.map_append, List.map_map]
  congr 1
  refine List.map_congr_left fun k _ => ?_
  simp only [Function.comp_apply, Nat.mod_add_mod]
  rw [Nat.add_assoc]

lemma window_drop {k n : ℕ} (hk : k ≤ n) :
    (window mem q r n).drop k = window mem q ((r + k) % q) (n - k) := by
  obtain ⟨m, rfl⟩ := Nat.exists_eq_add_of_le hk
  rw [window_add, List.drop_left' (window_length k), Nat.add_sub_cancel_left]

lemma window_eq_load {n : ℕ} (hn : r + n < q) : window mem q r n = load mem r n := by
  refine List.map_congr_left fun k hk => ?_
  rw [Nat.mod_eq_of_lt (by have := List.mem_range.mp hk; omega)]

lemma window_eq_load_load {n : ℕ} (hr : r < q) (hn : q ≤ r + n) (hle : n ≤ q) :
    window mem q r n = load mem r (q - r) ++ load mem 0 (r + n - q) := by
  obtain ⟨m, rfl⟩ := Nat.exists_eq_add_of_le (show q - r ≤ n by omega)
  rw [window_add]
  congr 1
  · refine List.map_congr_left fun k hk => ?_
    rw [Nat.mod_eq_of_lt (by have := List.mem_range.mp hk; omega)]
  · have hend : (r + (q - r)) % q = 0 := by rw [Nat.add_sub_cancel' hr.le, Nat.mod_self]
    have hrest : r + (q - r + m) - q = m := by omega
    rw [hend, hrest]
    refine List.map_congr_left fun k hk => ?_
    rw [Nat.mod_eq_of_lt (by have := List.mem_range.mp hk; omega)]

end Window

section Put
variable {mem : ℕ → α} {q w : ℕ} {words : List α}

lemma put_apply {j : ℕ} (hw : w < q) (hj : j < q) :
    put mem q w words ((w + j) % q) = (words[j]?).getD (mem ((w + j) % q)) := by
  have hback : ((w + j) % q + (q - w)) % q = j := by
    rw [Nat.mod_add_mod, show w + j + (q - w) = j + q by omega, Nat.add_mod_right, Nat.mod_eq_of_lt hj]
  rw [put, if_pos (Nat.mod_lt _ (by omega)), hback]

lemma window_put (hw : w < q) (hlen : words.length ≤ q) :
    window (put mem q w words) q w words.length = words := by
  refine List.ext_getElem (window_length _) fun k hk hk' => ?_
  simp only [window, List.getElem_map, List.getElem_range]
  rw [put_apply hw (by omega), List.getElem?_eq_getElem hk']
  rfl

lemma put_of_lt {r k : ℕ} (hr : r < q) (hw : w < q) (hk : k < dist q r w)
    (hlen : dist q r w + words.length ≤ q) :
    put mem q w words ((r + k) % q) = mem ((r + k) % q) := by
  have hd := dist_lt hr hw
  -- cell `r + k` lies `q - dist + k` behind `w`
  have hcell : (r + k) % q = (w + (q - dist q r w + k)) % q := by
    have hback : (w + (q - dist q r w + k)) % q = (r + dist q r w + (q - dist q r w + k)) % q := by
      rw [← Nat.mod_add_mod (r + dist q r w), add_dist_mod hr hw]
    rw [hback, show r + dist q r w + (q - dist q r w + k) = r + k + q by omega, Nat.add_mod_right]
  rw [hcell, put_apply hw (by omega), List.getElem?_eq_none (by omega)]
  rfl

lemma window_put_of_le {r n : ℕ} (hr : r < q) (hw : w < q) (hn : n ≤ dist q r w)
    (hlen : dist q r w + words.length ≤ q) :
    window (put mem q w words) q r n = window mem q r n :=
  window_congr fun _ hk => put_of_lt hr hw (hk.trans_le hn) hlen

lemma store_eq_put (hn : w + words.length < q) : store mem w words = put mem q w words := by
  funext i
  simp only [store, put]
  split_ifs with hle hlt hlt
  · rw [show (i + (q - w)) = i - w + q by omega, Nat.add_mod_right, Nat.mod_eq_of_lt (by omega)]
  · rw [List.getElem?_eq_none (by omega)]
    rfl
  · rw [Nat.mod_eq_of_lt (by omega), List.getElem?_eq_none (by omega)]
    rfl
  · rfl

lemma store_store_eq_put (hw : w < q) (hlen : words.length ≤ q) :
    store (store mem w (words.take (q - w))) 0 (words.drop (q - w)) = put mem q w words := by
  funext i
  simp only [store, put, Nat.zero_le, if_true, Nat.sub_zero, List.getElem?_drop, List.getElem?_take]
  by_cases hwrap : i < w
  · rw [if_neg (by omega), if_pos (by omega), Nat.mod_eq_of_lt (by omega), Nat.add_comm i]
  · rw [if_pos (by omega), List.getElem?_eq_none (l := words) (by omega)]
    by_cases hlt : i < q
    · rw [if_pos (by omega), if_pos hlt, show (i + (q - w)) = i - w + q by omega, Nat.add_mod_right,
        Nat.mod_eq_of_lt (by omega)]
      rfl
    · rw [if_neg (by omega), if_neg hlt]
      rfl

end Put

end CameraKernel.Ring
