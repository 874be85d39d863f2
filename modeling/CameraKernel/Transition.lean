import Mathlib

/-! Guarded runs of a deterministic transition system. Every outcome that the
environment decides is part of the input, so a run is a list of inputs. -/
namespace CameraKernel.Transition
variable {σ ι : Type*}

def run (step : σ → ι → σ) (s : σ) (is : List ι) : σ := is.foldl step s

/-- Every input of the run meets the side condition in the state it is taken from. -/
def Guarded (step : σ → ι → σ) (ok : σ → ι → Prop) : σ → List ι → Prop
  | _, [] => True
  | s, i :: is => ok s i ∧ Guarded step ok (step s i) is

instance decidableGuarded (step : σ → ι → σ) (ok : σ → ι → Prop) [∀ s i, Decidable (ok s i)] :
    ∀ s is, Decidable (Guarded step ok s is)
  | _, [] => isTrue trivial
  | s, i :: is =>
    have := decidableGuarded step ok (step s i) is
    inferInstanceAs (Decidable (ok s i ∧ Guarded step ok (step s i) is))

@[simp] lemma run_nil (step : σ → ι → σ) (s : σ) : run step s [] = s := rfl

@[simp] lemma run_cons (step : σ → ι → σ) (s : σ) (i : ι) (is : List ι) :
    run step s (i :: is) = run step (step s i) is := rfl

@[simp] lemma run_append (step : σ → ι → σ) (s : σ) (is js : List ι) :
    run step s (is ++ js) = run step (run step s is) js := by
  simp [run, List.foldl_append]

/-- The invariant rule: what holds at the start and is kept by every guarded
step holds after every guarded run. -/
theorem run_invariant {step : σ → ι → σ} {ok : σ → ι → Prop} {inv : σ → Prop}
    (hstep : ∀ s i, inv s → ok s i → inv (step s i)) {s : σ} {is : List ι}
    (hs : inv s) (hg : Guarded step ok s is) : inv (run step s is) := by
  induction is generalizing s with
  | nil => exact hs
  | cons i is ih => exact ih (hstep s i hs hg.1) hg.2

lemma guarded_append {step : σ → ι → σ} {ok : σ → ι → Prop} {s : σ} {is js : List ι} :
    Guarded step ok s (is ++ js) ↔
      Guarded step ok s is ∧ Guarded step ok (run step s is) js := by
  induction is generalizing s with
  | nil => simp [Guarded]
  | cons i is ih => simp [Guarded, ih, and_assoc]

theorem guarded_iff {step : σ → ι → σ} {ok ok' : σ → ι → Prop} {inv : σ → Prop}
    (hiff : ∀ s i, inv s → (ok s i ↔ ok' s i)) (hstep : ∀ s i, inv s → ok' s i → inv (step s i))
    {s : σ} {is : List ι} (hs : inv s) : Guarded step ok s is ↔ Guarded step ok' s is := by
  induction is generalizing s with
  | nil => exact Iff.rfl
  | cons i is ih =>
    refine (and_congr_left fun _ => hiff s i hs).trans (and_congr_right fun hok => ?_)
    exact ih (hstep s i hs hok)

theorem run_always {step : σ → ι → σ} {inv : σ → Prop} (hstep : ∀ s i, inv s → inv (step s i))
    {s : σ} (hs : inv s) (is : List ι) : inv (run step s is) := by
  induction is generalizing s with
  | nil => exact hs
  | cons i is ih => exact ih (hstep s i hs)

end CameraKernel.Transition
