import Mathlib

/-! Items that are kept in the objects of a pool. An object is free, live or parked; a live object
holds an accepted item, and a log records the items that are settled. -/
namespace CameraKernel.ObjectPool
variable {ω α ε : Type*}

/-- Every object is in one place, and every accepted item is live or settled, once. An object
holds the item `item` under the number `num`; an entry of the log is for the number `key`, and
`about` says what it has to do with the item of that number. -/
structure Ledger (all : List ω) (key : ε → ℕ) (about : ε → α → Prop) (num : ω → ℕ) (item : ω → α)
    (free live parked : List ω) (accepted : List α) (log : List ε) : Prop where
  place : List.Perm (free ++ (live ++ parked)) all
  kept : ∀ o ∈ live, accepted[num o]? = some (item o)
  once : ∀ n, (live.map num).count n + (log.map key).count n = if n < accepted.length then 1 else 0
  owner : ∀ e ∈ log, ∃ a, accepted[key e]? = some a ∧ about e a

variable {all : List ω} {key : ε → ℕ} {about : ε → α → Prop} {num num' : ω → ℕ} {item item' : ω → α}
  {free free' live live' parked parked' : List ω} {accepted : List α} {log : List ε} {o : ω} {a : α}
  {e : ε}

lemma Ledger.init (all : List ω) (key : ε → ℕ) (about : ε → α → Prop) (num : ω → ℕ) (item : ω → α) :
    Ledger all key about num item all [] [] [] [] := by
  constructor <;> simp

theorem Ledger.perm (h : Ledger all key about num item free live parked accepted log)
    (hf : List.Perm free' free) (hl : List.Perm live' live) (hp : List.Perm parked' parked) :
    Ledger all key about num item free' live' parked' accepted log where
  place := (hf.append (hl.append hp)).trans h.place
  kept o ho := h.kept o (hl.subset ho)
  once n := by rw [(hl.map num).count_eq]; exact h.once n
  owner := h.owner

lemma Ledger.nodup (h : Ledger all key about num item free live parked accepted log)
    (hall : all.Nodup) : (free ++ (live ++ parked)).Nodup := h.place.nodup_iff.mpr hall

section
variable (h : Ledger all key about num item (o :: free) live parked accepted log) (hall : all.Nodup)
  (hnum : ∀ x, x ≠ o → num' x = num x) (hitem : ∀ x, x ≠ o → item' x = item x)
include h hall hnum hitem

lemma Ledger.live_agree : ∀ x ∈ live, num' x = num x ∧ item' x = item x := by
  intro x hx
  have hne : x ≠ o := by
    rintro rfl
    have hnd := h.nodup hall
    rw [List.cons_append, List.nodup_cons] at hnd
    exact hnd.1 (by simp [hx])
  exact ⟨hnum x hne, hitem x hne⟩

lemma Ledger.park (hp : List.Perm parked' (o :: parked)) :
    Ledger all key about num' item' free live parked' accepted log := by
  have hagree := h.live_agree hall hnum hitem
  constructor
  case place =>
    refine List.Perm.trans ?_ h.place
    calc List.Perm (free ++ (live ++ parked')) (free ++ (live ++ o :: parked)) :=
          (hp.append_left live).append_left free
      List.Perm _ (free ++ o :: (live ++ parked)) := List.perm_middle.append_left free
      List.Perm _ (o :: (free ++ (live ++ parked))) := List.perm_middle
  case kept =>
    intro x hx
    rw [(hagree x hx).1, (hagree x hx).2]
    exact h.kept x hx
  case once =>
    intro n
    rw [List.map_congr_left fun x hx => (hagree x hx).1]
    exact h.once n
  case owner => exact h.owner

theorem Ledger.accept (hno : num' o = accepted.length) (hio : item' o = a)
    (hl : List.Perm live' (o :: live)) :
    Ledger all key about num' item' free live' parked (accepted ++ [a]) log := by
  have hagree := h.live_agree hall hnum hitem
  constructor
  case place =>
    refine List.Perm.trans ?_ h.place
    calc List.Perm (free ++ (live' ++ parked)) (free ++ (o :: live ++ parked)) :=
          (hl.append_right parked).append_left free
      List.Perm _ (o :: (free ++ (live ++ parked))) := List.perm_middle
  case kept =>
    intro x hx
    rcases List.mem_cons.mp (hl.subset hx) with rfl | hx
    · rw [hno, hio, List.getElem?_concat_length]
    · have hlt := (List.getElem?_eq_some_iff.mp (h.kept x hx)).1
      rw [(hagree x hx).1, (hagree x hx).2, List.getElem?_append_left hlt]
      exact h.kept x hx
  case once =>
    intro n
    have hn := h.once n
    rw [(hl.map num').count_eq, List.map_cons, List.count_cons, hno,
      List.map_congr_left fun x hx => (hagree x hx).1, List.length_append, List.length_singleton]
    by_cases heq : accepted.length = n
    · subst heq
      simp at hn ⊢
      omega
    · simp only [beq_iff_eq, heq, if_false]
      split_ifs at hn ⊢ <;> omega
  case owner =>
    intro e he
    obtain ⟨b, hb, hab⟩ := h.owner e he
    have hlt := (List.getElem?_eq_some_iff.mp hb).1
    exact ⟨b, by rw [List.getElem?_append_left hlt, hb], hab⟩

end

lemma Ledger.unpark (h : Ledger all key about num item free live parked accepted log)
    (hp : List.Perm parked (o :: parked')) (hf : List.Perm free' (o :: free)) :
    Ledger all key about num item free' live parked' accepted log where
  place := by
    refine List.Perm.trans ?_ h.place
    calc List.Perm (free' ++ (live ++ parked')) (o :: (free ++ (live ++ parked'))) :=
          hf.append_right _
      List.Perm _ (free ++ o :: (live ++ parked')) := List.perm_middle.symm
      List.Perm _ (free ++ (live ++ o :: parked')) := (List.perm_middle.symm).append_left free
      List.Perm _ (free ++ (live ++ parked)) := (hp.symm.append_left live).append_left free
  kept := h.kept
  once := h.once
  owner := h.owner

theorem Ledger.settle (h : Ledger all key about num item free live parked accepted log)
    (hl : List.Perm live (o :: live')) (hf : List.Perm free' (o :: free)) (hkey : key e = num o)
    (habout : about e (item o)) :
    Ledger all key about num item free' live' parked accepted (log ++ [e]) where
  place := by
    refine List.Perm.trans ?_ h.place
    calc List.Perm (free' ++ (live' ++ parked)) (o :: (free ++ (live' ++ parked))) :=
          hf.append_right _
      List.Perm _ (free ++ (o :: live' ++ parked)) := List.perm_middle.symm
      List.Perm _ (free ++ (live ++ parked)) := (hl.symm.append_right parked).append_left free
  kept x hx := h.kept x (hl.symm.subset (List.mem_cons_of_mem o hx))
  once n := by
    have hn := h.once n
    rw [(hl.map num).count_eq, List.map_cons, List.count_cons] at hn
    rw [List.map_append, List.count_append, List.map_singleton, hkey, List.count_singleton]
    omega
  owner := by
    intro e' he'
    rcases List.mem_append.mp he' with he' | he'
    · exact h.owner e' he'
    · rw [List.mem_singleton] at he'
      subst he'
      exact ⟨item o, by rw [hkey]; exact h.kept o (hl.symm.subset List.mem_cons_self), habout⟩

end CameraKernel.ObjectPool
