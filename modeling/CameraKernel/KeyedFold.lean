import Mathlib

/-! Loops over a list of keys whose body rewrites only the entry of its key and
may append to a log. A state is seen through its table, its log and whatever the
body keeps fixed. -/
namespace CameraKernel.KeyedFold
variable {σ κ α ε : Type*} [DecidableEq κ]

/-- The body rewrites the entry of its key by `f` and logs `e`, and keeps `inv`. -/
structure Local (tbl : σ → κ → α) (log : σ → List ε) (inv : σ → Prop)
    (f : α → α) (e : κ → α → List ε) (body : σ → κ → σ) : Prop where
  keeps : ∀ s k, inv s → inv (body s k)
  table : ∀ s k, inv s → tbl (body s k) = Function.update (tbl s) k (f (tbl s k))
  logged : ∀ s k, inv s → log (body s k) = log s ++ e k (tbl s k)

variable {tbl : σ → κ → α} {log : σ → List ε} {inv : σ → Prop}
  {f : α → α} {e : κ → α → List ε} {body : σ → κ → σ}

lemma Local.foldl_keeps (h : Local tbl log inv f e body) (l : List κ) {s : σ} (hs : inv s) :
    inv (l.foldl body s) := by
  induction l generalizing s with
  | nil => exact hs
  | cons k l ih => exact ih (h.keeps s k hs)

theorem Local.foldl_apply (h : Local tbl log inv f e body) {l : List κ} (hl : l.Nodup) {s : σ}
    (hs : inv s) (x : κ) :
    tbl (l.foldl body s) x = if x ∈ l then f (tbl s x) else tbl s x := by
  induction l generalizing s with
  | nil => simp
  | cons k l ih =>
    have hk := List.nodup_cons.mp hl
    have hi := ih hk.2 (h.keeps s k hs)
    rw [List.foldl_cons, hi, h.table s k hs]
    by_cases hx : x = k
    · subst x
      simp [hk.1]
    · simp [hx]

theorem Local.foldl_log (h : Local tbl log inv f e body) {l : List κ} (hl : l.Nodup) {s : σ}
    (hs : inv s) :
    log (l.foldl body s) = log s ++ l.flatMap fun k => e k (tbl s k) := by
  induction l generalizing s with
  | nil => simp
  | cons k l ih =>
    have hk := List.nodup_cons.mp hl
    rw [List.foldl_cons, ih hk.2 (h.keeps s k hs), h.logged s k hs, List.append_assoc,
      List.flatMap_cons]
    congr 2
    apply List.flatMap_congr
    intro x hx
    have hne : x ≠ k := fun he => hk.1 (he ▸ hx)
    rw [h.table s k hs, Function.update_of_ne hne]

end CameraKernel.KeyedFold
