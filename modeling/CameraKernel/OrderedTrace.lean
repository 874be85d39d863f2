import CameraKernel.Transition

/-! The outputs of a run, and when they rise strictly. A mark that the state carries is at
least every output so far, so a step has to put out what lies above it. -/
namespace CameraKernel.Transition
variable {σ ι α : Type*}

/-- What the steps of a run put out, in order. -/
def trace (step : σ → ι → σ) (out : σ → ι → List α) : σ → List ι → List α
  | _, [] => []
  | s, i :: is => out s i ++ trace step out (step s i) is

section
variable [Preorder α]

/-- The outputs rise strictly from the mark `a`, and `b` is a mark after them. -/
structure Climbs (a : α) (l : List α) (b : α) : Prop where
  le : a ≤ b
  rising : l.Pairwise (· < ·)
  between : ∀ x ∈ l, a < x ∧ x ≤ b

lemma Climbs.nil {a b : α} (h : a ≤ b) : Climbs a [] b :=
  ⟨h, List.Pairwise.nil, fun _ hx => absurd hx List.not_mem_nil⟩

lemma Climbs.singleton {a b : α} (h : a < b) : Climbs a [b] b := by
  refine ⟨h.le, List.pairwise_singleton _ b, fun x hx => ?_⟩
  obtain rfl := List.mem_singleton.mp hx
  exact ⟨h, le_rfl⟩

lemma Climbs.append {a b c : α} {l m : List α} (h : Climbs a l b) (g : Climbs b m c) :
    Climbs a (l ++ m) c := by
  refine ⟨h.le.trans g.le, List.pairwise_append.mpr ⟨h.rising, g.rising, ?_⟩, ?_⟩
  · intro x hx y hy
    exact (h.between x hx).2.trans_lt (g.between y hy).1
  · intro x hx
    rcases List.mem_append.mp hx with hx | hx
    · exact ⟨(h.between x hx).1, (h.between x hx).2.trans g.le⟩
    · exact ⟨h.le.trans_lt (g.between x hx).1, (g.between x hx).2⟩

variable {step : σ → ι → σ} {out : σ → ι → List α} {given ok : σ → ι → Prop}

/-- Steps that climb from mark to mark make a run whose outputs rise strictly. -/
theorem trace_climbs {mark : σ → α} {inv : σ → Prop} (hstep : ∀ s i, inv s → given s i → inv (step s i))
    (hclimb : ∀ s i, inv s → given s i → ok s i → Climbs (mark s) (out s i) (mark (step s i)))
    {s : σ} {is : List ι} (hs : inv s) (hgiven : Guarded step given s is) (hok : Guarded step ok s is) :
    Climbs (mark s) (trace step out s is) (mark (run step s is)) := by
  induction is generalizing s with
  | nil => exact .nil le_rfl
  | cons i is ih =>
    exact (hclimb s i hs hgiven.1 hok.1).append (ih (hstep s i hs hgiven.1) hgiven.2 hok.2)

/-- When every step off the condition breaks the order of the outputs so far, a run whose outputs
rise strictly is guarded by the condition. -/
theorem guarded_of_trace_rising {inv : σ → List α → Prop}
    (hstep : ∀ s i l, inv s l → given s i → ok s i → inv (step s i) (l ++ out s i))
    (hbad : ∀ s i l, inv s l → ¬ok s i → ¬(l ++ out s i).Pairwise (· < ·))
    {s : σ} {l : List α} {is : List ι} (hs : inv s l) (hgiven : Guarded step given s is)
    (hrise : (l ++ trace step out s is).Pairwise (· < ·)) : Guarded step ok s is := by
  induction is generalizing s l with
  | nil => trivial
  | cons i is ih =>
    have hsplit : ((l ++ out s i) ++ trace step out (step s i) is).Pairwise (· < ·) := by
      rw [List.append_assoc]
      exact hrise
    have hok : ok s i := by
      by_contra hnot
      exact hbad s i l hs hnot (List.pairwise_append.mp hsplit).1
    exact ⟨hok, ih (hstep s i l hs hgiven.1 hok) hgiven.2 hsplit⟩

end

end CameraKernel.Transition
