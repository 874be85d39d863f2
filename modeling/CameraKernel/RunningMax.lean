import Mathlib

/-! A running maximum that also keeps the one before: the scan that finds the largest key of a list
and the largest among those in front of it. -/
namespace CameraKernel.RunningMax
variable {κ : Type*} [LinearOrder κ]

/-- One step; an element without a key is passed over. -/
def step (s : κ × κ) : Option κ → κ × κ
  | some k => if s.1 < k then (k, s.1) else s
  | none => s

/-- The largest key and the one before it, both at least `z`. -/
def runningMax (z : κ) (l : List (Option κ)) : κ × κ := l.foldl step (z, z)

variable {l xs ys : List (Option κ)} {z k : κ} {s : κ × κ}

lemma foldl_of_le (h : ∀ k, some k ∈ l → k ≤ s.1) : l.foldl step s = s := by
  induction l with
  | nil => rfl
  | cons o l ih =>
    have hstep : step s o = s := by
      cases o with
      | none => rfl
      | some k => exact if_neg (not_lt.2 (h k (List.mem_cons_self ..)))
    rw [List.foldl_cons, hstep]
    exact ih fun k hk => h k (List.mem_cons_of_mem _ hk)

lemma le_foldl (s : κ × κ) (l : List (Option κ)) : s.1 ≤ (l.foldl step s).1 := by
  induction l generalizing s with
  | nil => exact le_refl _
  | cons o l ih =>
    refine le_trans ?_ (ih (step s o))
    cases o with
    | none => exact le_refl _
    | some k =>
      rw [step]
      split_ifs with hlt
      · exact hlt.le
      · exact le_refl _

lemma le_foldl_of_mem (s : κ × κ) (hk : some k ∈ l) : k ≤ (l.foldl step s).1 := by
  induction l generalizing s with
  | nil => exact (List.not_mem_nil hk).elim
  | cons o l ih =>
    rcases List.mem_cons.1 hk with rfl | hk
    · refine le_trans ?_ (le_foldl (step s (some k)) l)
      rw [step]
      split_ifs with hlt
      · exact le_refl _
      · exact not_lt.1 hlt
    · exact ih (step s o) hk

lemma foldl_eq_or_mem (s : κ × κ) (l : List (Option κ)) :
    (l.foldl step s).1 = s.1 ∨ some (l.foldl step s).1 ∈ l := by
  induction l generalizing s with
  | nil => exact .inl rfl
  | cons o l ih =>
    rw [List.foldl_cons]
    rcases ih (step s o) with h | h
    · rw [h]
      cases o with
      | none => exact .inl rfl
      | some k =>
        rw [step]
        split_ifs with hlt
        · exact .inr (List.mem_cons_self ..)
        · exact .inl rfl
    · exact .inr (List.mem_cons_of_mem _ h)

lemma le_runningMax (hk : some k ∈ l) : k ≤ (runningMax z l).1 := le_foldl_of_mem _ hk

lemma runningMax_eq_or_mem (z : κ) (l : List (Option κ)) :
    (runningMax z l).1 = z ∨ some (runningMax z l).1 ∈ l := foldl_eq_or_mem _ l

lemma runningMax_lt (hz : z < k) (h : ∀ j, some j ∈ l → j < k) : (runningMax z l).1 < k := by
  rcases runningMax_eq_or_mem z l with heq | hmem
  · rw [heq]
    exact hz
  · exact h _ hmem

lemma runningMax_split (hz : z < k) (hbefore : ∀ j, some j ∈ xs → j < k)
    (hafter : ∀ j, some j ∈ ys → j ≤ k) :
    runningMax z (xs ++ some k :: ys) = (k, (runningMax z xs).1) := by
  have hlt : (runningMax z xs).1 < k := runningMax_lt hz hbefore
  rw [runningMax, List.foldl_append, List.foldl_cons, ← runningMax,
    show step (runningMax z xs) (some k) = (k, (runningMax z xs).1) from if_pos hlt]
  exact foldl_of_le hafter

end CameraKernel.RunningMax
