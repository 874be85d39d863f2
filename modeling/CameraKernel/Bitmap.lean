import Mathlib

/-! The first clear bit of a bitmap. -/
namespace CameraKernel.Bitmap

def findFirstZeroBit (bits : ℕ) (bitmap : ℕ → Bool) : Option ℕ :=
  (List.range bits).find? fun i => !bitmap i

lemma findFirstZeroBit_some {bits idx : ℕ} {bitmap : ℕ → Bool}
    (h : findFirstZeroBit bits bitmap = some idx) : idx < bits ∧ bitmap idx = false := by
  have hm := List.mem_of_find?_eq_some h
  have hp := List.find?_some h
  exact ⟨List.mem_range.mp hm, by simpa using hp⟩

end CameraKernel.Bitmap
