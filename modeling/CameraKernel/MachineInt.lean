import Mathlib

/-! Unsigned machine integers as natural numbers, with the wrap-around written as a
case split. -/
namespace CameraKernel.MachineInt

def u32Max : ℕ := 2 ^ 32 - 1

def u32Inc (n : ℕ) : ℕ := if n = u32Max then 0 else n + 1

def u32Dec (n : ℕ) : ℕ := if n = 0 then u32Max else n - 1

def u32Sub (a b : ℕ) : ℕ := if b ≤ a then a - b else a + u32Max + 1 - b

def u32Add (a b : ℕ) : ℕ := if a + b ≤ u32Max then a + b else a + b - (u32Max + 1)

def u64Max : ℕ := 2 ^ 64 - 1

def u64Sub (a b : ℕ) : ℕ := if b ≤ a then a - b else a + u64Max + 1 - b

lemma u32Max_eq : u32Max = 4294967295 := by norm_num [u32Max]

lemma u32Inc_of_lt {n : ℕ} (h : n < u32Max) : u32Inc n = n + 1 := by
  simp [u32Inc, h.ne]

lemma u32Dec_of_pos {n : ℕ} (h : 0 < n) : u32Dec n = n - 1 := by
  simp [u32Dec, h.ne']

lemma u32Sub_of_le {a b : ℕ} (h : b ≤ a) : u32Sub a b = a - b := by
  simp [u32Sub, h]

lemma u32Add_of_le {a b : ℕ} (h : a + b ≤ u32Max) : u32Add a b = a + b := by
  simp [u32Add, h]

end CameraKernel.MachineInt
