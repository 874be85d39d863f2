import CameraKernel.WhileLoop

/-! Loops over a buffer of packets that tell their own width. Such a loop is safe when it ends, keeps
to places inside the buffer, and comes to the complete packets in order and at most to the place behind
them. -/
namespace CameraKernel.PacketWalk
open WhileLoop (Runs)
variable {σ ρ : Type*}

/-- The packets of a buffer of `len` words: which places have a complete one, and its width. -/
structure Layout where
  len : ℕ
  complete : ℕ → Bool
  width : ℕ → ℕ
  width_pos : ∀ p, complete p → 0 < width p
  inside : ∀ p, complete p → p + width p ≤ len

namespace Layout
variable (l : Layout)

/-- The complete packets from `p` on. -/
def packets (p : ℕ) : List ℕ :=
  if _h : l.complete p then p :: packets (p + l.width p) else []
termination_by l.len - p
decreasing_by
  have := l.width_pos p _h
  have := l.inside p _h
  omega

/-- The place behind them. -/
def rest (p : ℕ) : ℕ := (l.packets p).foldl (fun _ q => q + l.width q) p

variable {l} {p : ℕ}

lemma packets_of_complete (h : l.complete p) :
    l.packets p = p :: l.packets (p + l.width p) := by
  rw [packets, dif_pos h]

lemma packets_of_not_complete (h : ¬l.complete p) : l.packets p = [] := by
  rw [packets, dif_neg h]

lemma packets_eq_nil_iff : l.packets p = [] ↔ ¬l.complete p := by
  constructor
  · intro h hc
    rw [packets_of_complete hc] at h
    cases h
  · exact packets_of_not_complete

lemma rest_of_not_complete (h : ¬l.complete p) : l.rest p = p := by
  rw [rest, packets_of_not_complete h]
  rfl

lemma rest_of_complete (h : l.complete p) : l.rest p = l.rest (p + l.width p) := by
  rw [rest, packets_of_complete h, List.foldl_cons, ← rest]

lemma le_rest (p : ℕ) : p ≤ l.rest p := by
  induction hm : l.len - p using Nat.strong_induction_on generalizing p with
  | h m ih =>
    by_cases h : l.complete p
    · have hw := l.width_pos p h
      have hl := l.inside p h
      rw [rest_of_complete h]
      exact le_trans (Nat.le_add_right _ _) (ih _ (by omega) _ rfl)
    · exact (rest_of_not_complete h).ge

lemma eq_rest_iff : p = l.rest p ↔ l.packets p = [] := by
  rw [packets_eq_nil_iff]
  constructor
  · intro hp h
    have hw := l.width_pos p h
    have hle := l.le_rest (p + l.width p)
    rw [← rest_of_complete h] at hle
    omega
  · exact fun h => (rest_of_not_complete h).symm

lemma head_packets_rest : ∃ qs, l.packets p ++ [l.rest p] = p :: qs := by
  by_cases h : l.complete p
  · exact ⟨_, by rw [packets_of_complete h, List.cons_append]⟩
  · exact ⟨[], by rw [packets_of_not_complete h, rest_of_not_complete h, List.nil_append]⟩

end Layout

variable (l : Layout) (body : σ → ρ ⊕ σ) (pos : σ → ℕ) (fits : ℕ → Prop)

/-- The loop ends, it comes only to places that fit, to the complete packets in order, and then at
most to the place behind them. -/
def Safe (s : σ) : Prop :=
  ∃ ss r, Runs body s ss r ∧ (∀ t ∈ ss, fits (pos t)) ∧
    (ss.map pos = l.packets (pos s) ∨ ss.map pos = l.packets (pos s) ++ [l.rest (pos s)])

variable {l body pos fits} {s t : σ} {r : ρ}

lemma safe_iff_of_break (h : body s = .inl r) :
    Safe l body pos fits s ↔
      fits (pos s) ∧ (l.complete (pos s) → l.packets (pos s + l.width (pos s)) = []) := by
  constructor
  · rintro ⟨ss, r', hruns, hfits, hmap⟩
    cases hruns with
    | step h' => rw [h] at h'; cases h'
    | last =>
      refine ⟨hfits s (List.mem_singleton_self s), fun hc => ?_⟩
      rw [Layout.packets_of_complete hc] at hmap
      rcases hmap with hmap | hmap
      · exact (List.cons.inj hmap).2.symm
      · simp at hmap
  · rintro ⟨hfits, hc⟩
    refine ⟨[s], r, .last h, by simpa using hfits, ?_⟩
    by_cases h' : l.complete (pos s)
    · exact .inl (by rw [Layout.packets_of_complete h', hc h', List.map_singleton])
    · refine .inr ?_
      rw [Layout.packets_of_not_complete h', Layout.rest_of_not_complete h', List.nil_append,
        List.map_singleton]

lemma eq_of_packets {p q : ℕ} {ps : List ℕ}
    (h : p :: ps = l.packets q ∨ p :: ps = l.packets q ++ [l.rest q]) : p = q := by
  obtain ⟨qs, hqs⟩ := l.head_packets_rest (p := q)
  rcases h with h | h
  · rw [← h, List.cons_append] at hqs
    exact (List.cons.inj hqs).1
  · exact (List.cons.inj (h.trans hqs)).1

lemma safe_iff_of_step (h : body s = .inr t) :
    Safe l body pos fits s ↔
      fits (pos s) ∧ l.complete (pos s) ∧ pos t = pos s + l.width (pos s) ∧ Safe l body pos fits t := by
  constructor
  · rintro ⟨ss, r, hruns, hfits, hmap⟩
    cases hruns with
    | last h' => rw [h] at h'; cases h'
    | step h' hruns =>
      cases h.symm.trans h'
      obtain ⟨ss', rfl⟩ := hruns.head
      rw [List.forall_mem_cons] at hfits
      by_cases hc : l.complete (pos s)
      · rw [Layout.packets_of_complete hc, Layout.rest_of_complete hc] at hmap
        simp only [List.map_cons, List.cons_append, List.cons.injEq, true_and] at hmap
        have hpos := eq_of_packets hmap
        refine ⟨hfits.1, hc, hpos, _, r, hruns, hfits.2, ?_⟩
        rw [hpos, List.map_cons, hpos]
        exact hpos ▸ hmap
      · rw [Layout.packets_of_not_complete hc] at hmap
        simp at hmap
  · rintro ⟨hfits, hc, hpos, ss, r, hruns, hss, hmap⟩
    refine ⟨s :: ss, r, hruns.step h, List.forall_mem_cons.mpr ⟨hfits, hss⟩, ?_⟩
    rw [Layout.packets_of_complete hc, Layout.rest_of_complete hc, List.map_cons, ← hpos]
    rcases hmap with hmap | hmap
    · exact .inl (by rw [hmap])
    · exact .inr (by rw [hmap, List.cons_append])

variable (l fits) (stops : ℕ → Prop) (next : ℕ → ℕ)

/-- The loop steps over the packet by its width; or it stops there and no complete one follows. -/
def Passes (rest p : ℕ) : Prop :=
  fits p ∧ (¬stops p ∧ next p = p + l.width p ∨ stops p ∧ p + l.width p = rest)

/-- Every packet is passed, and the loop stops at the last one or behind it. -/
def Good (p : ℕ) : Prop :=
  (∀ q ∈ l.packets p, Passes l fits stops next (l.rest p) q) ∧
    ((∃ q ∈ l.packets p, stops q) ∨ (fits (l.rest p) ∧ stops (l.rest p)))

variable {l fits stops next} {p : ℕ}

lemma good_of_not_complete (h : ¬l.complete p) : Good l fits stops next p ↔ fits p ∧ stops p := by
  rw [Good, Layout.packets_of_not_complete h, Layout.rest_of_not_complete h]
  simp

lemma good_of_complete (h : l.complete p) :
    Good l fits stops next p ↔ fits p ∧
      (stops p ∧ l.packets (p + l.width p) = [] ∨
        ¬stops p ∧ next p = p + l.width p ∧ Good l fits stops next (p + l.width p)) := by
  rw [Good, Layout.packets_of_complete h, Layout.rest_of_complete h, List.forall_mem_cons, Passes,
    Layout.eq_rest_iff]
  constructor
  · rintro ⟨⟨⟨hfits, hp⟩, hqs⟩, hend⟩
    refine ⟨hfits, ?_⟩
    rcases hp with ⟨hstops, hnext⟩ | hp
    · refine .inr ⟨hstops, hnext, hqs, ?_⟩
      simpa [hstops] using hend
    · exact .inl hp
  · rintro ⟨hfits, ⟨hstops, hnil⟩ | ⟨hstops, hnext, hqs, hend⟩⟩
    · exact ⟨⟨⟨hfits, .inr ⟨hstops, hnil⟩⟩, by simp [hnil]⟩, .inl ⟨p, by simp, hstops⟩⟩
    · refine ⟨⟨⟨hfits, .inl ⟨hstops, hnext⟩⟩, hqs⟩, ?_⟩
      rcases hend with ⟨q, hq, hend⟩ | hend
      · exact .inl ⟨q, List.mem_cons_of_mem p hq, hend⟩
      · exact .inr hend

theorem safe_iff_walk {inv : σ → Prop}
    (hstop : ∀ s, inv s → fits (pos s) → (stops (pos s) ↔ ∃ r, body s = .inl r))
    (hnext : ∀ s t, inv s → body s = .inr t → pos t = next (pos s))
    (hinv : ∀ s t, inv s → body s = .inr t → l.complete (pos s) →
      pos t = pos s + l.width (pos s) → inv t) (hs : inv s) :
    Safe l body pos fits s ↔ Good l fits stops next (pos s) := by
  induction hm : l.len - pos s using Nat.strong_induction_on generalizing s with
  | h m ih =>
    cases hb : body s with
    | inl r =>
      rw [safe_iff_of_break hb]
      by_cases hc : l.complete (pos s)
      · rw [good_of_complete hc]
        refine and_congr_right fun hfits => ?_
        have hstops : stops (pos s) := (hstop s hs hfits).mpr ⟨r, hb⟩
        simp [hc, hstops]
      · rw [good_of_not_complete hc]
        refine and_congr_right fun hfits => ?_
        simp [hc, (hstop s hs hfits).mpr ⟨r, hb⟩]
    | inr t =>
      rw [safe_iff_of_step hb]
      by_cases hc : l.complete (pos s)
      · rw [good_of_complete hc]
        refine and_congr_right fun hfits => ?_
        have hstops : ¬stops (pos s) := fun h => by
          obtain ⟨r, hr⟩ := (hstop s hs hfits).mp h
          rw [hb] at hr
          cases hr
        have hw := l.width_pos (pos s) hc
        have hl := l.inside (pos s) hc
        simp only [hc, hstops, true_and, false_and, false_or, not_false_eq_true,
          ← hnext s t hs hb]
        refine and_congr_right fun hpos => ?_
        rw [← hpos]
        exact ih _ (by omega) (hinv s t hs hb hc hpos) rfl
      · rw [good_of_not_complete hc]
        constructor
        · exact fun h => absurd h.2.1 hc
        · rintro ⟨hfits, hstops⟩
          obtain ⟨r, hr⟩ := (hstop s hs hfits).mp hstops
          rw [hb] at hr
          cases hr

end CameraKernel.PacketWalk
