import Mathlib

/-! A running minimum over a list that starts at zero and takes zero for not set: the first element
counts, and after an element with key zero the search starts again. -/
namespace CameraKernel.MarkedMin
variable {α κ : Type*} [LinearOrder κ] [Zero κ] (key : α → κ)

/-- One step: the lowest key and its element. -/
def step (s : κ × Option α) (x : α) : κ × Option α :=
  if key x < s.1 ∨ s.1 = 0 then (key x, some x) else s

def markedMin (l : List α) : κ × Option α := l.foldl (step key) (0, none)

/-- `m` is found in `l`: behind a part that is empty or ends with a zero key it is the first minimum,
and if its key is zero it is the last element. -/
structure Found (l : List α) (m : α) (before skipped after : List α) : Prop where
  eq : l = before ++ (skipped ++ m :: after)
  restart : before = [] ∨ ∃ xs z, before = xs ++ [z] ∧ key z = 0
  above : ∀ x ∈ skipped, key m < key x
  least : ∀ x ∈ after, key m ≤ key x
  zero : key m = 0 → after = []

variable {key} {l before skipped after : List α} {m x : α}

lemma Found.found (h : Found key l m before skipped after) (hx : key x < key m ∨ key m = 0) :
    ∃ before' skipped' after', Found key (l ++ [x]) x before' skipped' after' := by
  by_cases hzero : key m = 0
  · refine ⟨l, [], [], by simp, .inr ⟨before ++ skipped, m, ?_, hzero⟩, by simp, by simp, by simp⟩
    rw [h.eq, h.zero hzero, List.append_assoc]
  · have hlt := hx.resolve_right hzero
    refine ⟨before, skipped ++ m :: after, [], by simp [h.eq], h.restart, fun y hy => ?_, by simp,
      by simp⟩
    rcases List.mem_append.mp hy with hy | hy
    · exact hlt.trans (h.above y hy)
    · rcases List.mem_cons.mp hy with rfl | hy
      · exact hlt
      · exact hlt.trans_le (h.least y hy)

lemma Found.keep (h : Found key l m before skipped after) (hx : ¬(key x < key m ∨ key m = 0)) :
    Found key (l ++ [x]) m before skipped (after ++ [x]) := by
  obtain ⟨hle, hzero⟩ := not_or.mp hx
  refine ⟨by simp [h.eq], h.restart, h.above, fun y hy => ?_, fun hm => absurd hm hzero⟩
  rcases List.mem_append.mp hy with hy | hy
  · exact h.least y hy
  · rw [List.mem_singleton.mp hy]
    exact not_lt.mp hle

lemma markedMin_found (key : α → κ) (l : List α) :
    l = [] ∧ markedMin key l = (0, none) ∨
      ∃ m before skipped after, markedMin key l = (key m, some m) ∧
        Found key l m before skipped after := by
  induction l using List.reverseRecOn with
  | nil => exact .inl ⟨rfl, rfl⟩
  | append_singleton l x ih =>
    have hstep : markedMin key (l ++ [x]) = step key (markedMin key l) x := by
      rw [markedMin, List.foldl_append]
      rfl
    refine .inr ?_
    rw [hstep]
    rcases ih with ⟨rfl, hmin⟩ | ⟨m, before, skipped, after, hmin, h⟩
    · rw [hmin, step, if_pos (.inr rfl)]
      exact ⟨x, [], [], [], rfl, rfl, .inl rfl, by simp, by simp, by simp⟩
    · rw [hmin, step]
      by_cases hx : key x < key m ∨ key m = 0
      · obtain ⟨before', skipped', after', h'⟩ := h.found hx
        rw [if_pos hx]
        exact ⟨x, before', skipped', after', rfl, h'⟩
      · rw [if_neg hx]
        exact ⟨m, before, skipped, after ++ [x], rfl, h.keep hx⟩

end CameraKernel.MarkedMin
