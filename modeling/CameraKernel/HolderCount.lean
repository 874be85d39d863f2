import Mathlib

/-! How many places of a finite family meet a condition, when one place changes. -/
namespace CameraKernel.HolderCount
variable {ι α : Type*} [Fintype ι]

def holders (p : α → Bool) (t : ι → α) : ℕ := (Finset.univ.filter fun i => p (t i)).card

lemma holders_eq_zero {p : α → Bool} {t : ι → α} (h : ∀ i, p (t i) = false) : holders p t = 0 := by
  simp [holders, h]

variable [DecidableEq ι]

lemma holders_split (p : α → Bool) (t : ι → α) (i : ι) :
    holders p t = (p (t i)).toNat + ∑ j ∈ Finset.univ.erase i, (p (t j)).toNat := by
  rw [Finset.add_sum_erase _ (fun j => (p (t j)).toNat) (Finset.mem_univ i), holders,
    Finset.card_filter]
  exact Finset.sum_congr rfl fun j _ => by cases p (t j) <;> rfl

lemma holders_update (p : α → Bool) (t : ι → α) (i : ι) (v : α) :
    holders p (Function.update t i v) + (p (t i)).toNat = holders p t + (p v).toNat := by
  have hrest : ∑ j ∈ Finset.univ.erase i, (p (Function.update t i v j)).toNat =
      ∑ j ∈ Finset.univ.erase i, (p (t j)).toNat :=
    Finset.sum_congr rfl fun j hj => by rw [Function.update_of_ne (Finset.ne_of_mem_erase hj)]
  rw [holders_split p _ i, holders_split p t i, hrest, Function.update_self]
  omega

lemma holders_pos {p : α → Bool} {t : ι → α} {i : ι} (h : p (t i) = true) : 0 < holders p t := by
  rw [holders_split p t i, h]
  exact Nat.lt_add_right _ Nat.zero_lt_one

end CameraKernel.HolderCount
