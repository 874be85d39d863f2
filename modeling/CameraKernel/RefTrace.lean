import Mathlib

/-! Traces of taking references and of giving them back. -/
namespace CameraKernel.RefTrace
variable {α : Type*} [DecidableEq α]

inductive Ref (α : Type*)
  | get (a : α)
  | put (a : α)
  deriving DecidableEq, Repr

/-- What was taken is given back, as often. -/
def Balanced (es : List (Ref α)) : Prop := ∀ a, es.count (.get a) = es.count (.put a)

/-- Nothing is given back that is not held. -/
def Held (es : List (Ref α)) : Prop :=
  ∀ pre, pre <+: es → ∀ a, pre.count (.put a) ≤ pre.count (.get a)

variable {es fs : List (Ref α)} {l m : List α} {a : α}

lemma Balanced.nil : Balanced ([] : List (Ref α)) := fun _ => rfl

lemma Balanced.append_iff (h : Balanced es) : Balanced (es ++ fs) ↔ Balanced fs := by
  refine forall_congr' fun a => ?_
  rw [List.count_append, List.count_append, h a, Nat.add_left_cancel_iff]

lemma Held.nil : Held ([] : List (Ref α)) := by
  intro pre hpre a
  rw [List.prefix_nil.mp hpre]
  exact le_rfl

lemma Held.puts_le (h : Held es) (a : α) : es.count (.put a) ≤ es.count (.get a) :=
  h es List.prefix_rfl a

lemma Held.of_append (h : Held (es ++ fs)) : Held es :=
  fun pre hpre => h pre (hpre.trans (List.prefix_append es fs))

omit [DecidableEq α] in
lemma prefix_append_cases {pre : List (Ref α)} (h : pre <+: es ++ fs) :
    pre <+: es ∨ ∃ qs, qs <+: fs ∧ pre = es ++ qs := by
  obtain ⟨post, hpost⟩ := h
  rcases List.append_eq_append_iff.mp hpost with ⟨qs, rfl, -⟩ | ⟨qs, rfl, rfl⟩
  · exact .inl (List.prefix_append pre qs)
  · exact .inr ⟨qs, List.prefix_append qs post, rfl⟩

lemma Held.append (h : Held es) (h' : Held fs) : Held (es ++ fs) := by
  intro pre hpre a
  rcases prefix_append_cases hpre with hpre | ⟨qs, hqs, rfl⟩
  · exact h pre hpre a
  · rw [List.count_append, List.count_append]
    exact Nat.add_le_add (h.puts_le a) (h' qs hqs a)

@[simp] lemma count_get_gets (l : List α) (a : α) : (l.map Ref.get).count (.get a) = l.count a :=
  List.count_map_of_injective l Ref.get (fun _ _ h => Ref.get.inj h) a

@[simp] lemma count_put_puts (l : List α) (a : α) : (l.map Ref.put).count (.put a) = l.count a :=
  List.count_map_of_injective l Ref.put (fun _ _ h => Ref.put.inj h) a

@[simp] lemma count_put_gets (l : List α) (a : α) : (l.map Ref.get).count (.put a) = 0 := by
  simp [List.count_eq_zero]

@[simp] lemma count_get_puts (l : List α) (a : α) : (l.map Ref.put).count (.get a) = 0 := by
  simp [List.count_eq_zero]

lemma held_gets (l : List α) : Held (l.map Ref.get) := by
  intro pre hpre a
  have hle := hpre.sublist.count_le (.put a)
  rw [count_put_gets] at hle
  exact hle.trans (Nat.zero_le _)

lemma Held.append_puts (h : Held es)
    (hl : ∀ a, es.count (.put a) + l.count a ≤ es.count (.get a)) : Held (es ++ l.map Ref.put) := by
  intro pre hpre a
  rcases prefix_append_cases hpre with hpre | ⟨qs, hqs, rfl⟩
  · exact h pre hpre a
  · have hle := hqs.sublist.count_le (.put a)
    rw [count_put_puts] at hle
    rw [List.count_append, List.count_append]
    exact (Nat.add_le_add_left hle _).trans ((hl a).trans (Nat.le_add_right _ _))

lemma held_around (hes : Held es) (hlm : l.Perm m) :
    Held (l.map Ref.get ++ es ++ m.map Ref.put) := by
  refine ((held_gets l).append hes).append_puts fun a => ?_
  rw [List.count_append, List.count_append, count_put_gets, count_get_gets, hlm.count_eq a]
  have := hes.puts_le a
  omega

lemma balanced_around_iff (hlm : l.Perm m) :
    Balanced (l.map Ref.get ++ es ++ m.map Ref.put) ↔ Balanced es := by
  refine forall_congr' fun a => ?_
  simp only [List.count_append, count_get_gets, count_put_gets, count_get_puts, count_put_puts,
    hlm.count_eq a]
  omega

lemma not_balanced_gets (hes : Held es) (ha : a ∈ l) : ¬Balanced (l.map Ref.get ++ es) := by
  intro h
  have hcount := h a
  have hle := hes.puts_le a
  have hpos := List.count_pos_iff.mpr ha
  rw [List.count_append, List.count_append, count_get_gets, count_put_gets] at hcount
  omega

end CameraKernel.RefTrace
