import Mathlib

/-! What one pass over a list reaches from a key: an element joins when it shares a key with
the ones that joined before it. -/
namespace CameraKernel.ListClosure
variable {α κ : Type*} (uses : α → κ → Prop) (taken : α → Prop) (l : List α) (start : κ)

/-- Some chain of shared keys leads to the element. -/
inductive Linked : α → Prop
  | key {a : α} : a ∈ l → uses a start → Linked a
  | share {a b : α} {k : κ} : Linked a → b ∈ l → uses a k → uses b k → Linked b

/-- A chain leads to the place that takes the elements in their order. -/
inductive LinkedInOrder : ℕ → Prop
  | key {i : ℕ} {a : α} : l[i]? = some a → taken a → uses a start → LinkedInOrder i
  | share {i j : ℕ} {a b : α} {k : κ} : LinkedInOrder i → i < j → l[i]? = some a → l[j]? = some b →
      taken b → uses a k → uses b k → LinkedInOrder j

/-- Elements and keys that call for no further ones. -/
structure Closed (K : κ → Prop) (A : α → Prop) : Prop where
  start : K start
  elem : ∀ a ∈ l, ∀ k, uses a k → K k → A a
  keys : ∀ a ∈ l, A a → ∀ k, uses a k → K k

/-- The keys after `n` elements. -/
def PassKey (n : ℕ) (k : κ) : Prop :=
  k = start ∨ ∃ i a, i < n ∧ LinkedInOrder uses taken l start i ∧ l[i]? = some a ∧ uses a k

/-- The elements that joined among the first `n`. -/
def PassElem (n : ℕ) (a : α) : Prop := ∃ i, i < n ∧ LinkedInOrder uses taken l start i ∧ l[i]? = some a

variable {uses taken l start} {n : ℕ} {a : α} {k : κ}

lemma linkedInOrder_iff (h : l[n]? = some a) : LinkedInOrder uses taken l start n ↔
    taken a ∧ ∃ k, uses a k ∧ PassKey uses taken l start n k := by
  constructor
  · intro hn
    cases hn with
    | key ha htaken hkey =>
      rw [h] at ha
      cases ha
      exact ⟨htaken, start, hkey, .inl rfl⟩
    | share hi hlt ha hb htaken hka hkb =>
      rw [h] at hb
      cases hb
      exact ⟨htaken, _, hkb, .inr ⟨_, _, hlt, hi, ha, hka⟩⟩
  · rintro ⟨htaken, k, hk, rfl | ⟨i, b, hlt, hi, hb, hbk⟩⟩
    · exact .key h htaken hk
    · exact .share hi hlt hb h htaken hbk hk

lemma passKey_zero : PassKey uses taken l start 0 k ↔ k = start := by
  simp [PassKey]

lemma passKey_succ (h : l[n]? = some a) : PassKey uses taken l start (n + 1) k ↔
    PassKey uses taken l start n k ∨ LinkedInOrder uses taken l start n ∧ uses a k := by
  constructor
  · rintro (rfl | ⟨i, b, hlt, hi, hb, hbk⟩)
    · exact .inl (.inl rfl)
    · rcases Nat.lt_succ_iff_lt_or_eq.mp hlt with hlt | rfl
      · exact .inl (.inr ⟨i, b, hlt, hi, hb, hbk⟩)
      · rw [h] at hb
        cases hb
        exact .inr ⟨hi, hbk⟩
  · rintro ((rfl | ⟨i, b, hlt, hi, hb, hbk⟩) | ⟨hn, hk⟩)
    · exact .inl rfl
    · exact .inr ⟨i, b, by omega, hi, hb, hbk⟩
    · exact .inr ⟨n, a, by omega, hn, h, hk⟩

lemma passElem_succ (h : l[n]? = some a) {b : α} : PassElem uses taken l start (n + 1) b ↔
    PassElem uses taken l start n b ∨ LinkedInOrder uses taken l start n ∧ b = a := by
  constructor
  · rintro ⟨i, hlt, hi, hb⟩
    rcases Nat.lt_succ_iff_lt_or_eq.mp hlt with hlt | rfl
    · exact .inl ⟨i, hlt, hi, hb⟩
    · rw [h] at hb
      cases hb
      exact .inr ⟨hi, rfl⟩
  · rintro (⟨i, hlt, hi, hb⟩ | ⟨hn, rfl⟩)
    · exact ⟨i, by omega, hi, hb⟩
    · exact ⟨n, by omega, hn, h⟩

lemma Closed.of_linkedInOrder {K : κ → Prop} {A : α → Prop} (hc : Closed uses l start K A)
    (hn : LinkedInOrder uses taken l start n) : ∀ a, l[n]? = some a → A a := by
  induction hn with
  | key ha _ hkey =>
    intro a h
    rw [h] at ha
    cases ha
    exact hc.elem _ (List.mem_of_getElem? h) _ hkey hc.start
  | share _ _ ha hb _ hka hkb ih =>
    intro b h
    rw [h] at hb
    cases hb
    exact hc.elem _ (List.mem_of_getElem? h) _ hkb (hc.keys _ (List.mem_of_getElem? ha) (ih _ ha) _ hka)

lemma Closed.of_passElem {K : κ → Prop} {A : α → Prop} (hc : Closed uses l start K A)
    (h : PassElem uses taken l start n a) : A a := by
  obtain ⟨i, -, hi, ha⟩ := h
  exact hc.of_linkedInOrder hi a ha

lemma Closed.of_passKey {K : κ → Prop} {A : α → Prop} (hc : Closed uses l start K A)
    (h : PassKey uses taken l start n k) : K k := by
  rcases h with rfl | ⟨i, a, -, hi, ha, hk⟩
  · exact hc.start
  · exact hc.keys a (List.mem_of_getElem? ha) (hc.of_linkedInOrder hi a ha) k hk

lemma Linked.of_linkedInOrder (hn : LinkedInOrder uses taken l start n) :
    ∀ a, l[n]? = some a → Linked uses l start a := by
  induction hn with
  | key ha _ hkey =>
    intro a h
    rw [h] at ha
    cases ha
    exact .key (List.mem_of_getElem? h) hkey
  | share _ _ ha hb _ hka hkb ih =>
    intro b h
    rw [h] at hb
    cases hb
    exact .share (ih _ ha) (List.mem_of_getElem? h) hka hkb

theorem closed_pass_iff (hl : l.Nodup) :
    Closed uses l start (PassKey uses taken l start l.length) (PassElem uses taken l start l.length) ↔
      ∀ i a, l[i]? = some a → Linked uses l start a → LinkedInOrder uses taken l start i := by
  constructor
  · intro hc
    have hlinked : ∀ a, Linked uses l start a → PassElem uses taken l start l.length a := by
      intro a ha
      induction ha with
      | key hmem hkey => exact hc.elem _ hmem _ hkey hc.start
      | @share a b k hlink hmem hka hkb ih =>
        obtain ⟨i, hlt, hi, ha⟩ := ih
        exact hc.elem b hmem k hkb (hc.keys a (List.mem_of_getElem? ha) ⟨i, hlt, hi, ha⟩ k hka)
    intro i a ha hlink
    obtain ⟨j, -, hj, hb⟩ := hlinked a hlink
    have hi := (List.getElem?_eq_some_iff.mp ha).1
    rwa [(List.getElem?_inj hi hl).mp (ha.trans hb.symm)]
  · intro h
    refine ⟨.inl rfl, fun a hmem k hk hpass => ?_, fun a _ hpass k hk => ?_⟩
    · obtain ⟨i, hi, rfl⟩ := List.getElem_of_mem hmem
      have hget : l[i]? = some l[i] := List.getElem?_eq_getElem hi
      refine ⟨i, hi, h i _ hget ?_, hget⟩
      rcases hpass with rfl | ⟨j, b, -, hj, hb, hbk⟩
      · exact .key hmem hk
      · exact .share (Linked.of_linkedInOrder hj b hb) hmem hbk hk
    · obtain ⟨i, hlt, hi, ha⟩ := hpass
      exact .inr ⟨i, a, hlt, hi, ha, hk⟩

end CameraKernel.ListClosure
