import Mathlib

/-! Loops whose body either breaks with a result or goes on with a new state. -/
namespace CameraKernel.WhileLoop
variable {σ ρ : Type*}

/-- Run the body at most `n` times. -/
def run (body : σ → ρ ⊕ σ) : ℕ → σ → Option ρ
  | 0, _ => none
  | n + 1, s =>
    match body s with
    | .inl r => some r
    | .inr t => run body n t

/-- The loop started in `s` ends with result `r`. -/
def Returns (body : σ → ρ ⊕ σ) (s : σ) (r : ρ) : Prop := ∃ n, run body n s = some r

/-- The states in which the body is entered. -/
inductive Reaches (body : σ → ρ ⊕ σ) (s : σ) : σ → Prop
  | refl : Reaches body s s
  | step {t u : σ} (h : Reaches body s t) (hb : body t = .inr u) : Reaches body s u

/-- The loop started in `s` goes through the states `ss` and ends with result `r`. -/
inductive Runs (body : σ → ρ ⊕ σ) : σ → List σ → ρ → Prop
  | last {s : σ} {r : ρ} (h : body s = .inl r) : Runs body s [s] r
  | step {s t : σ} {ss : List σ} {r : ρ} (h : body s = .inr t) (ht : Runs body t ss r) :
      Runs body s (s :: ss) r

variable {body : σ → ρ ⊕ σ} {s t : σ} {r : ρ}

lemma returns_of_break (h : body s = .inl r) : Returns body s r := ⟨1, by simp [run, h]⟩

lemma Returns.of_step (h : body s = .inr t) (ht : Returns body t r) : Returns body s r := by
  obtain ⟨n, hn⟩ := ht
  exact ⟨n + 1, by simpa [run, h] using hn⟩

lemma Returns.tail (h : body s = .inr t) (hr : Returns body s r) : Returns body t r := by
  obtain ⟨n, hn⟩ := hr
  cases n with
  | zero => cases hn
  | succ n =>
    rw [run, h] at hn
    exact ⟨n, hn⟩

lemma Reaches.head (h : body s = .inr t) {u : σ} (hu : Reaches body t u) : Reaches body s u := by
  induction hu with
  | refl => exact .step .refl h
  | step _ hb ih => exact .step ih hb

lemma Reaches.cases_head (h : Reaches body s t) :
    s = t ∨ ∃ u, body s = .inr u ∧ Reaches body u t := by
  induction h with
  | refl => exact .inl rfl
  | step _ hb ih =>
    rcases ih with rfl | ⟨u, hu, hut⟩
    · exact .inr ⟨_, hb, .refl⟩
    · exact .inr ⟨u, hu, .step hut hb⟩

lemma Reaches.invariant {inv : σ → Prop} (hstep : ∀ s t, inv s → body s = .inr t → inv t)
    (hs : inv s) (h : Reaches body s t) : inv t := by
  induction h with
  | refl => exact hs
  | step _ hb ih => exact hstep _ _ ih hb

lemma Returns.exists_break (h : Returns body s r) : ∃ t, Reaches body s t ∧ body t = .inl r := by
  obtain ⟨n, hn⟩ := h
  induction n generalizing s with
  | zero => cases hn
  | succ n ih =>
    rw [run] at hn
    cases hb : body s with
    | inl r' =>
      rw [hb] at hn
      cases hn
      exact ⟨s, .refl, hb⟩
    | inr t =>
      rw [hb] at hn
      obtain ⟨u, hu, he⟩ := ih hn
      exact ⟨u, .head hb hu, he⟩

lemma Reaches.returns (h : Reaches body s t) (ht : Returns body t r) : Returns body s r := by
  induction h with
  | refl => exact ht
  | step _ hb ih => exact ih (ht.of_step hb)

lemma Returns.of_reaches (hr : Returns body s r) (h : Reaches body s t) : Returns body t r := by
  induction h with
  | refl => exact hr
  | step _ hb ih => exact ih.tail hb

lemma Reaches.trans {u : σ} (h : Reaches body s t) (hu : Reaches body t u) : Reaches body s u := by
  induction hu with
  | refl => exact h
  | step _ hb ih => exact .step ih hb

lemma Reaches.one (hb : body s = .inr t) : Reaches body s t := .step .refl hb

lemma Returns.unique {q : ρ} (h : Returns body s r) (h' : Returns body s q) : r = q := by
  obtain ⟨n, hn⟩ := h
  obtain ⟨m, hm⟩ := h'
  induction n generalizing s m with
  | zero => cases hn
  | succ n ih =>
    cases m with
    | zero => cases hm
    | succ m =>
      rw [run] at hn hm
      cases hb : body s with
      | inl q' =>
        rw [hb] at hn hm
        exact Option.some.inj (hn.symm.trans hm)
      | inr t =>
        rw [hb] at hn hm
        exact ih hn m hm

lemma Runs.returns {ss : List σ} (h : Runs body s ss r) : Returns body s r := by
  induction h with
  | last h => exact returns_of_break h
  | step h _ ih => exact ih.of_step h

lemma Runs.head {ss : List σ} (h : Runs body s ss r) : ∃ ss', ss = s :: ss' := by
  cases h with
  | last => exact ⟨[], rfl⟩
  | step => exact ⟨_, rfl⟩

lemma run_mono {n m : ℕ} (hn : run body n s = some r) (h : n ≤ m) : run body m s = some r := by
  induction n generalizing s m with
  | zero => cases hn
  | succ n ih =>
    obtain ⟨m, rfl⟩ := Nat.exists_eq_succ_of_ne_zero (Nat.ne_of_gt (Nat.lt_of_lt_of_le n.succ_pos h))
    rw [run] at hn ⊢
    cases hb : body s with
    | inl q =>
      rw [hb] at hn
      exact hn
    | inr t =>
      rw [hb] at hn
      exact ih hn (Nat.le_of_succ_le_succ h)

lemma run_of_step {n : ℕ} (h : body s = .inr t) : run body (n + 1) s = run body n t := by
  rw [run, h]

theorem exists_returns_of_wf {α : Type*} {lt : α → α → Prop} (hwf : WellFounded lt) {inv : σ → Prop}
    (μ : σ → α) (hstep : ∀ s t, inv s → body s = .inr t → inv t ∧ lt (μ t) (μ s)) (hs : inv s) :
    ∃ r, Returns body s r := by
  induction hm : μ s using hwf.induction generalizing s with
  | _ a ih =>
    cases hb : body s with
    | inl r => exact ⟨r, returns_of_break hb⟩
    | inr t =>
      obtain ⟨ht, hlt⟩ := hstep s t hs hb
      obtain ⟨r, hr⟩ := ih (μ t) (hm ▸ hlt) ht rfl
      exact ⟨r, .of_step hb hr⟩

theorem exists_returns {inv : σ → Prop} (μ : σ → ℕ)
    (hstep : ∀ s t, inv s → body s = .inr t → inv t ∧ μ t < μ s) (hs : inv s) :
    ∃ r, Returns body s r :=
  exists_returns_of_wf Nat.lt_wfRel.wf μ hstep hs

end CameraKernel.WhileLoop
