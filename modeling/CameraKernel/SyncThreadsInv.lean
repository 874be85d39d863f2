import CameraKernel.SyncThreads
import CameraKernel.SyncInvariant

/-! The invariant behind concurrent signals: as long as no index is given back
with a notification in flight, every link and every notification points to the
object it was made for. -/
namespace CameraKernel.SyncThreads
open SyncTable SyncOps SyncSpec SyncInvariant MachineInt

section Abbreviations
variable (s : Sys) (x : ℕ)

abbrev Sys.row : SyncTableRow := s.dev.syncTable x
abbrev Sys.parents : List ℕ := (s.dev.syncTable x).parentsList
abbrev Sys.children : List ℕ := (s.dev.syncTable x).childrenList
abbrev Sys.remaining : ℕ := (s.dev.syncTable x).remaining
abbrev Sys.invalid : Prop := (s.dev.syncTable x).state = .invalid

end Abbreviations

/-- The notifications in flight to row `x`. -/
def flight (calls : List Call) (x : ℕ) : ℕ := (calls.map fun c => c.pending.count x).sum

/-- Nothing points to row `x`. -/
structure Unreferenced (s : Sys) (x : ℕ) : Prop where
  links : ∀ c, x ∉ s.parents c
  pending : ∀ call ∈ s.calls, x ∉ call.pending

def inRange (x : ℕ) : Prop := 0 < x ∧ x < camSyncMaxObjs

/-- A row its call has taken but not yet filled. -/
structure Taken (s : Sys) (x : ℕ) : Prop where
  range : inRange x
  invalid : s.invalid x
  fresh : Unreferenced s x

/-- A group row in the child loop of its merge. -/
structure Building (s : Sys) (x : ℕ) (linked rest : List ℕ) : Prop where
  range : inRange x
  live : ¬ s.invalid x
  parents : s.parents x = []
  nodup : (linked ++ rest).Nodup
  objs : ∀ c ∈ linked ++ rest, c < camSyncMaxObjs
  counter : s.remaining x ≤ linked.length
  links : ∀ c, x ∈ s.parents c → c ∈ linked

/-- An INVALID row whose children are being told to forget it. -/
structure Leaving (s : Sys) (x : ℕ) (rest : List ℕ) : Prop where
  range : inRange x
  invalid : s.invalid x
  links : ∀ c, x ∈ s.parents c → c ∈ rest

/-- What holds while a call stands at each of its points. -/
def Phase (s : Sys) : Call → Prop
  | .create idx _ => Taken s idx
  | .check objs rest _ => objs.Nodup ∧
      ∀ o ∈ objs, o ∉ rest → o.toNat < camSyncMaxObjs ∧ (o.toNat : ℤ) = o
  | .group idx objs _ => Taken s idx ∧ objs.Nodup ∧ ∀ c ∈ objs, c < camSyncMaxObjs
  | .link idx linked rest _ => Building s idx linked rest
  | .unlink idx rest => Leaving s idx rest
  | .notify src st ps => st ≠ .invalid ∧ ∀ p ∈ ps, (src, s.occupant p) ∈ s.merged
  | .destroy idx children _ => Leaving s idx children
  | .done => True

structure Inv (s : Sys) : Prop where
  bitZero : s.dev.bitmap 0 = true
  live : ∀ x, ¬ s.invalid x → inRange x ∧ s.dev.bitmap x = true
  noParents : ∀ c, s.invalid c → s.parents c = []
  nodup : ∀ c, (s.parents c).Nodup
  linked : ∀ c p, p ∈ s.parents c → 0 < p ∧ (s.occupant c, s.occupant p) ∈ s.merged ∧
    (¬ s.invalid p → c ∈ s.children p)
  count : ∀ x, (waiting s.dev x).card + flight s.calls x ≤ s.remaining x
  free : ∀ x, s.dev.bitmap x = false → Unreferenced s x
  owners : (s.calls.filterMap Call.owner).Nodup
  owned : ∀ call ∈ s.calls, ∀ x, call.owner = some x → s.dev.bitmap x = true
  phase : ∀ call ∈ s.calls, Phase s call

/-! ### The frame of a step -/

/-- A step about row `x`: what the other rows and the calls on them may rely on. -/
structure Frame (s s' : Sys) (x : ℕ) : Prop where
  bits : ∀ y, y ≠ x → s'.dev.bitmap y = s.dev.bitmap y
  gen : ∀ y, y ≠ x → s'.gen y = s.gen y
  merged : ∀ m ∈ s.merged, m ∈ s'.merged
  invalid : ∀ y, y ≠ x → (s'.invalid y ↔ s.invalid y)
  links : ∀ c p, p ≠ x → p ∈ s'.parents c → p ∈ s.parents c
  quiet : ∀ y, y ≠ x → s.invalid y ∨ s.locked y → s.parents y = [] → s'.parents y = []
  counter : ∀ y, y ≠ x → s.locked y → s'.remaining y ≤ s.remaining y
  children : ∀ c p, p ≠ x → p ∈ s'.parents c → c ∈ s.children p → c ∈ s'.children p

/-- The calls before and after a step that replaces `old` by `new`. -/
structure Calls (s s' : Sys) (old new rest : List Call) : Prop where
  before : s.calls.Perm (old ++ rest)
  after : s'.calls.Perm (new ++ rest)

section
variable {s s' : Sys} {x y : ℕ} {old new rest : List Call} {call : Call}

lemma Frame.unreferenced (hf : Frame s s' x) (hc : Calls s s' old new rest)
    (hp : ∀ call ∈ new, ∀ p ∈ call.pending, ¬ Unreferenced s p) (hy : y ≠ x)
    (h : Unreferenced s y) : Unreferenced s' y := by
  refine ⟨fun c hm => h.links c (hf.links c y hy hm), fun call hm hyp => ?_⟩
  rcases List.mem_append.mp (hc.after.mem_iff.mp hm) with hm | hm
  · exact hp call hm y hyp h
  · exact h.pending call (hc.before.mem_iff.mpr (List.mem_append_right _ hm)) hyp

lemma locked_of_holds (hm : call ∈ s.calls) (h : call.holds = some x) : s.locked x = true := by
  rw [Sys.locked, List.any_eq_true]
  exact ⟨call, hm, by simp [h]⟩

lemma Frame.occupant (hf : Frame s s' x) (hy : y ≠ x) : s'.occupant y = s.occupant y := by
  rw [Sys.occupant, Sys.occupant, hf.gen y hy]

lemma Phase.frame (h : Phase s call) (hm : call ∈ s.calls) (hf : Frame s s' x)
    (ho : call.owner ≠ some x) (hgen : s'.gen x = s.gen x ∨ Unreferenced s x)
    (hu : ∀ y, y ≠ x → Unreferenced s y → Unreferenced s' y) : Phase s' call := by
  have htaken : ∀ y, y ≠ x → Taken s y → Taken s' y := fun y hy ht =>
    ⟨ht.range, (hf.invalid y hy).mpr ht.invalid, hu y hy ht.fresh⟩
  have hleaving : ∀ y l, y ≠ x → Leaving s y l → Leaving s' y l := fun y l hy hl =>
    ⟨hl.range, (hf.invalid y hy).mpr hl.invalid, fun c hc => hl.links c (hf.links c y hy hc)⟩
  cases call with
  | create idx clientId => exact htaken idx (fun he => ho (he ▸ rfl)) h
  | check objs rest alloc => exact h
  | group idx objs alloc => exact ⟨htaken idx (fun he => ho (he ▸ rfl)) h.1, h.2⟩
  | link idx linked rest alloc =>
    have hy : idx ≠ x := fun he => ho (he ▸ rfl)
    have hl := locked_of_holds hm (x := idx) rfl
    have hb : Building s idx linked rest := h
    exact ⟨hb.range, fun hi => hb.live ((hf.invalid idx hy).mp hi),
      hf.quiet idx hy (Or.inr hl) hb.parents, hb.nodup, hb.objs,
      (hf.counter idx hy hl).trans hb.counter, fun c hc => hb.links c (hf.links c idx hy hc)⟩
  | unlink idx rest => exact hleaving idx rest (fun he => ho (he ▸ rfl)) h
  | notify src st ps =>
    refine ⟨h.1, fun p hp => ?_⟩
    have hg : s'.gen p = s.gen p := by
      by_cases hpx : p = x
      · rw [hpx]
        exact hgen.resolve_right fun hu => hu.pending _ hm (hpx ▸ hp)
      · exact hf.gen p hpx
    rw [Sys.occupant, hg]
    exact hf.merged _ (h.2 p hp)
  | destroy idx children parents => exact hleaving idx children (fun he => ho (he ▸ rfl)) h
  | done => trivial

/-- The part of the invariant that is about row `x`. -/
structure AtRow (s : Sys) (x : ℕ) : Prop where
  live : ¬ s.invalid x → inRange x ∧ s.dev.bitmap x = true
  noParents : s.invalid x → s.parents x = []
  linked : ∀ c, x ∈ s.parents c → 0 < x ∧ (s.occupant c, s.occupant x) ∈ s.merged ∧
    (¬ s.invalid x → c ∈ s.children x)
  own : ∀ p ∈ s.parents x, p ≠ x → (s.occupant x, s.occupant p) ∈ s.merged
  free : s.dev.bitmap x = false → Unreferenced s x

/-- What the calls put in place by a step have to bring along. -/
structure NewCalls (s s' : Sys) (x : ℕ) (old new : List Call) : Prop where
  pending : ∀ call ∈ new, ∀ p ∈ call.pending, ¬ Unreferenced s p
  owners : (new.filterMap Call.owner).Sublist (old.filterMap Call.owner) ∨
    new.filterMap Call.owner = [x]
  owned : ∀ call ∈ new, ∀ y, call.owner = some y → s'.dev.bitmap y = true
  phase : ∀ call ∈ new, Phase s' call

theorem Inv.of_frame (h : Inv s) (hf : Frame s s' x) (hc : Calls s s' old new rest)
    (hrest : ∀ call ∈ rest, call.owner ≠ some x)
    (hgen : s'.gen x = s.gen x ∨ Unreferenced s x) (hn : NewCalls s s' x old new)
    (hrow : AtRow s' x) (hnodup : ∀ c, (s'.parents c).Nodup)
    (hcount : ∀ p, (waiting s'.dev p).card + flight s'.calls p ≤ s'.remaining p)
    (hzero : s'.dev.bitmap 0 = true) : Inv s' := by
  have hmem : ∀ call ∈ rest, call ∈ s.calls :=
    fun call hm => hc.before.mem_iff.mpr (List.mem_append_right _ hm)
  have hu : ∀ y, y ≠ x → Unreferenced s y → Unreferenced s' y :=
    fun y hy => hf.unreferenced hc hn.pending hy
  refine ⟨hzero, ?_, ?_, hnodup, ?_, hcount, ?_, ?_, ?_, ?_⟩
  · intro y hy
    by_cases hyx : y = x
    · subst y
      exact hrow.live hy
    · rw [hf.bits y hyx]
      exact h.live y fun hi => hy ((hf.invalid y hyx).mpr hi)
  · intro c hi
    by_cases hcx : c = x
    · subst c
      exact hrow.noParents hi
    · have hi' := (hf.invalid c hcx).mp hi
      exact hf.quiet c hcx (Or.inl hi') (h.noParents c hi')
  · intro c p hp
    by_cases hpx : p = x
    · subst p
      exact hrow.linked c hp
    · obtain ⟨hpos, hm, hch⟩ := h.linked c p (hf.links c p hpx hp)
      refine ⟨hpos, ?_, fun hi => ?_⟩
      · by_cases hcx : c = x
        · subst c
          exact hrow.own p hp hpx
        · rw [hf.occupant hcx, hf.occupant hpx]
          exact hf.merged _ hm
      · exact hf.children c p hpx hp (hch fun hi' => hi ((hf.invalid p hpx).mpr hi'))
  · intro y hy
    by_cases hyx : y = x
    · subst y
      exact hrow.free hy
    · rw [hf.bits y hyx] at hy
      exact hu y hyx (h.free y hy)
  · have hbefore := (hc.before.filterMap Call.owner).nodup_iff.mp h.owners
    rw [(hc.after.filterMap Call.owner).nodup_iff, List.filterMap_append]
    rw [List.filterMap_append] at hbefore
    rcases hn.owners with hs | hs
    · exact hbefore.sublist (hs.append_right _)
    · rw [hs, List.singleton_append, List.nodup_cons]
      refine ⟨fun hm => ?_, (List.nodup_append.mp hbefore).2.1⟩
      obtain ⟨call, hcall, ho⟩ := List.mem_filterMap.mp hm
      exact hrest call hcall ho
  · intro call hm y ho
    rcases List.mem_append.mp (hc.after.mem_iff.mp hm) with hm | hm
    · exact hn.owned call hm y ho
    · have hyx : y ≠ x := fun he => hrest call hm (he ▸ ho)
      rw [hf.bits y hyx]
      exact h.owned call (hmem call hm) y ho
  · intro call hm
    rcases List.mem_append.mp (hc.after.mem_iff.mp hm) with hm | hm
    · exact hn.phase call hm
    · exact (h.phase call (hmem call hm)).frame (hmem call hm) hf (hrest call hm) hgen hu

lemma Inv.owner_range (h : Inv s) (hm : call ∈ s.calls) (ho : call.owner = some x) : inRange x := by
  have hp := h.phase call hm
  cases call <;> simp only [Call.owner, Option.some.injEq, reduceCtorEq] at ho <;> subst ho
  · exact Taken.range hp
  · exact hp.1.range
  · exact Building.range hp
  · exact Leaving.range hp
  · exact Leaving.range hp

/-- A step in which no row changes hands. -/
structure Neutral (s s' : Sys) : Prop where
  bits : s'.dev.bitmap = s.dev.bitmap
  gen : s'.gen = s.gen
  merged : s'.merged = s.merged
  invalid : ∀ y, s'.invalid y ↔ s.invalid y
  parents : ∀ c, (s'.parents c).Sublist (s.parents c)
  counter : ∀ y, s.locked y → s'.remaining y ≤ s.remaining y
  children : ∀ c p, p ∈ s'.parents c → c ∈ s.children p → c ∈ s'.children p

lemma Neutral.frame (hn : Neutral s s') (x : ℕ) : Frame s s' x where
  bits y _ := by rw [hn.bits]
  gen y _ := by rw [hn.gen]
  merged m hm := by rwa [hn.merged]
  invalid y _ := hn.invalid y
  links c p _ hp := (hn.parents c).subset hp
  quiet y _ _ hy := List.sublist_nil.mp (hy ▸ hn.parents y)
  counter y _ := hn.counter y
  children c p _ := hn.children c p

theorem Inv.of_neutral (h : Inv s) (hn : Neutral s s') (hc : Calls s s' old new rest)
    (hnew : NewCalls s s' 0 old new)
    (hcount : ∀ p, (waiting s'.dev p).card + flight s'.calls p ≤ s'.remaining p) : Inv s' := by
  have hzero : s.invalid 0 := by
    by_contra hi
    exact absurd (h.live 0 hi).1.1 (lt_irrefl 0)
  have hp0 : s'.parents 0 = [] := by
    have := hn.parents 0
    rw [h.noParents 0 hzero] at this
    exact List.sublist_nil.mp this
  have hbit : s'.dev.bitmap 0 = true := by rw [hn.bits, h.bitZero]
  refine h.of_frame (hn.frame 0) hc ?_ (Or.inl (by rw [hn.gen])) hnew ?_ ?_ hcount hbit
  · intro call hm ho
    have := h.owner_range (hc.before.mem_iff.mpr (List.mem_append_right _ hm)) ho
    exact absurd this.1 (lt_irrefl 0)
  · refine ⟨fun hi => absurd ((hn.invalid 0).mpr hzero) hi, fun _ => hp0, ?_, ?_, ?_⟩
    · intro c hm
      exact absurd (h.linked c 0 ((hn.parents c).subset hm)).1 (lt_irrefl 0)
    · simp [hp0]
    · simp [hbit]
  · exact fun c => (h.nodup c).sublist (hn.parents c)

lemma flight_perm {l l' : List Call} (h : l.Perm l') (x : ℕ) : flight l x = flight l' x :=
  (h.map _).sum_eq

lemma flight_append (l l' : List Call) (x : ℕ) : flight (l ++ l') x = flight l x + flight l' x := by
  simp [flight]

lemma flight_cons (c : Call) (l : List Call) (x : ℕ) :
    flight (c :: l) x = c.pending.count x + flight l x := by
  simp [flight]

lemma flight_eq_zero {l : List Call} (h : ∀ c ∈ l, x ∉ c.pending) : flight l x = 0 := by
  rw [flight, List.sum_eq_zero_iff]
  intro n hn
  obtain ⟨c, hc, rfl⟩ := List.mem_map.mp hn
  exact List.count_eq_zero.mpr (h c hc)

lemma waiting_card_le (hp : ∀ c, x ∈ s'.parents c → x ∈ s.parents c) :
    (waiting s'.dev x).card ≤ (waiting s.dev x).card := by
  apply Finset.card_le_card
  intro c hc
  exact mem_waiting.mpr ⟨(mem_waiting.mp hc).1, hp c (mem_waiting.mp hc).2⟩

lemma waiting_card_eq_zero (hp : ∀ c, x ∉ s.parents c) : (waiting s.dev x).card = 0 := by
  rw [Finset.card_eq_zero, Finset.eq_empty_iff_forall_notMem]
  exact fun c hc => hp c (mem_waiting.mp hc).2

lemma Calls.flight_eq (hc : Calls s s' old new rest) (x : ℕ) :
    flight s.calls x = flight old x + flight rest x ∧
    flight s'.calls x = flight new x + flight rest x :=
  ⟨by rw [flight_perm hc.before, flight_append], by rw [flight_perm hc.after, flight_append]⟩

lemma Inv.count_of_le (h : Inv s) (hc : Calls s s' old new rest)
    (hl : ∀ c, x ∈ s'.parents c → x ∈ s.parents c) (hfl : flight new x ≤ flight old x)
    (hr : s.remaining x ≤ s'.remaining x) :
    (waiting s'.dev x).card + flight s'.calls x ≤ s'.remaining x := by
  have hw := waiting_card_le hl
  obtain ⟨h1, h2⟩ := hc.flight_eq x
  have := h.count x
  omega

lemma count_of_unreferenced (h : Unreferenced s x) :
    (waiting s.dev x).card + flight s.calls x ≤ s.remaining x := by
  rw [waiting_card_eq_zero h.links, flight_eq_zero h.pending]
  exact Nat.zero_le _

lemma calls_set {k : ℕ} (hk : s.calls[k]? = some call) (dev : SyncDevice) (gen : ℕ → ℕ)
    (merged : List (Occupant × Occupant)) (new : Call) :
    ∃ rest, Calls s ⟨dev, s.calls.set k new, gen, merged⟩ [call] [new] rest := by
  obtain ⟨hlt, hget⟩ := List.getElem?_eq_some_iff.mp hk
  refine ⟨s.calls.take k ++ s.calls.drop (k + 1), ?_, ?_⟩
  · have : s.calls = s.calls.take k ++ call :: s.calls.drop (k + 1) := by
      rw [← hget, List.getElem_cons_drop, List.take_append_drop]
    nth_rewrite 1 [this]
    exact List.perm_middle
  · dsimp only
    rw [List.set_eq_take_append_cons_drop, if_pos hlt]
    exact List.perm_middle

lemma calls_start (dev : SyncDevice) (gen : ℕ → ℕ) (merged : List (Occupant × Occupant))
    (new : Call) : Calls s ⟨dev, s.calls ++ [new], gen, merged⟩ [] [new] s.calls :=
  ⟨List.Perm.refl _, List.perm_append_comm⟩

lemma calls_same (dev : SyncDevice) (gen : ℕ → ℕ) (merged : List (Occupant × Occupant)) :
    Calls s ⟨dev, s.calls, gen, merged⟩ [] [] s.calls :=
  ⟨List.Perm.refl _, List.Perm.refl _⟩

/-! ### Steps in which no row changes hands -/

lemma neutral_update {dev : SyncDevice} {calls : List Call} {i : ℕ} {row : SyncTableRow}
    (ht : dev.syncTable = Function.update s.dev.syncTable i row) (hb : dev.bitmap = s.dev.bitmap)
    (hi : row.state = .invalid ↔ s.invalid i) (hp : row.parentsList.Sublist (s.parents i))
    (hr : s.locked i = true → row.remaining ≤ s.remaining i)
    (hc : ∀ c, i ∈ s.parents c → c ∈ s.children i → c ∈ row.childrenList) :
    Neutral s ⟨dev, calls, s.gen, s.merged⟩ := by
  have hself : dev.syncTable i = row := by rw [ht, Function.update_self]
  have hother : ∀ y, y ≠ i → dev.syncTable y = s.dev.syncTable y := by
    intro y hy
    rw [ht, Function.update_of_ne hy]
  have hsub : ∀ c, (dev.syncTable c).parentsList.Sublist (s.parents c) := by
    intro c
    by_cases hci : c = i
    · rw [hci, hself]
      exact hp
    · rw [hother c hci]
  refine ⟨hb, rfl, rfl, ?_, hsub, ?_, ?_⟩
  · intro y
    by_cases hy : y = i
    · subst y
      simpa only [Sys.invalid, hself] using hi
    · simp only [Sys.invalid, hother y hy]
  · intro y hl
    by_cases hy : y = i
    · subst y
      simpa only [Sys.remaining, hself] using hr hl
    · simp only [Sys.remaining, hother y hy, le_refl]
  · intro c p hm hch
    by_cases hy : p = i
    · subst p
      simp only [Sys.children, hself]
      exact hc c ((hsub c).subset hm) hch
    · simpa only [Sys.children, hother p hy] using hch

lemma Inv.of_update (h : Inv s) {dev : SyncDevice} {calls : List Call} {i : ℕ}
    {row : SyncTableRow} (hc : Calls s ⟨dev, calls, s.gen, s.merged⟩ old new rest)
    (hn : Neutral s ⟨dev, calls, s.gen, s.merged⟩)
    (ht : dev.syncTable = Function.update s.dev.syncTable i row)
    (hr : row.remaining = s.remaining i) (hfl : ∀ x, flight new x ≤ flight old x)
    (hnew : NewCalls s ⟨dev, calls, s.gen, s.merged⟩ 0 old new) :
    Inv ⟨dev, calls, s.gen, s.merged⟩ := by
  refine h.of_neutral hn hc hnew fun p => ?_
  refine h.count_of_le hc (fun c hm => (hn.parents c).subset hm) (hfl p) ?_
  by_cases hp : p = i
  · subst p
    simp only [Sys.remaining, ht, Function.update_self, hr, le_refl]
  · simp only [Sys.remaining, ht, Function.update_of_ne hp, le_refl]

lemma newCalls_nil : NewCalls s s' x old [] :=
  ⟨by simp, Or.inl (by simp), by simp, by simp⟩

lemma Inv.of_refCnt (h : Inv s) (i : ℕ) (n : BitVec 32) :
    Inv { s with dev := setRow s.dev i { s.dev.syncTable i with refCnt := n } } := by
  refine h.of_update (calls_same _ _ _) (neutral_update rfl rfl Iff.rfl (List.Sublist.refl _)
    (fun _ => le_refl _) fun _ _ hc => hc) rfl rfl (fun _ => le_refl _) newCalls_nil

lemma Inv.of_calls (h : Inv s) {calls : List Call} (hc : Calls s ⟨s.dev, calls, s.gen, s.merged⟩ old new rest)
    (hfl : ∀ x, flight new x ≤ flight old x)
    (hnew : NewCalls s ⟨s.dev, calls, s.gen, s.merged⟩ 0 old new) :
    Inv ⟨s.dev, calls, s.gen, s.merged⟩ :=
  h.of_update (i := 0) hc (neutral_update (i := 0) (Function.update_eq_self _ _).symm rfl Iff.rfl
    (List.Sublist.refl _) (fun _ => le_refl _) fun _ _ hc => hc)
    (Function.update_eq_self _ _).symm rfl hfl hnew

lemma newCalls_moved (h : Inv s) {a b : Call} (hm : a ∈ s.calls) (ho : b.owner = a.owner)
    (hp : b.pending = []) (hb : s'.dev.bitmap = s.dev.bitmap) (hphase : Phase s' b) :
    NewCalls s s' x [a] [b] := by
  refine ⟨?_, Or.inl ?_, ?_, ?_⟩
  · simp [hp]
  · simp [List.filterMap_cons, ho]
  · intro call hc y hy
    rw [List.mem_singleton.mp hc, ho] at hy
    rw [hb]
    exact h.owned a hm y hy
  · intro call hc
    rwa [List.mem_singleton.mp hc]

lemma flight_singleton_le {a b : Call} (h : b.pending = []) (x : ℕ) : flight [b] x ≤ flight [a] x := by
  simp [flight, h]

lemma unlinkChild_parents {idx c : ℕ} (y : ℕ) (dev : SyncDevice) :
    ((unlinkChild idx dev c).syncTable y).parentsList =
      if y = c then (dev.syncTable c).parentsList.erase idx else (dev.syncTable y).parentsList := by
  by_cases hy : y = c
  · simp [hy, unlinkChild, camSyncUtilCleanupParentsList, cleanupList]
  · simp [hy, unlinkChild]

lemma Leaving.unlink (h : Inv s) {idx c : ℕ} {cs : List ℕ} (hl : Leaving s idx (c :: cs))
    (calls : List Call) :
    Leaving ⟨unlinkChild idx s.dev c, calls, s.gen, s.merged⟩ idx cs := by
  refine ⟨hl.range, ?_, ?_⟩
  · have hi : s.invalid idx := hl.invalid
    by_cases hc : idx = c
    · subst c
      simpa [Sys.invalid, unlinkChild, camSyncUtilCleanupParentsList] using hi
    · simpa [Sys.invalid, unlinkChild, hc] using hi
  · intro y hy
    simp only [Sys.parents, unlinkChild_parents] at hy
    split_ifs at hy with hyc
    · exact absurd hy (h.nodup c).not_mem_erase
    · exact (List.mem_cons.mp (hl.links y hy)).resolve_left hyc

lemma Inv.of_unlinkChild (h : Inv s) {idx c : ℕ} {cs : List ℕ} {k : ℕ} {a b : Call}
    (hk : s.calls[k]? = some a) (ho : b.owner = a.owner) (hp : b.pending = [])
    (hl : Leaving s idx (c :: cs))
    (hphase : ∀ s', Leaving s' idx cs → Phase s' b) :
    Inv ⟨unlinkChild idx s.dev c, s.calls.set k b, s.gen, s.merged⟩ := by
  obtain ⟨rest, hc⟩ := calls_set hk (unlinkChild idx s.dev c) s.gen s.merged b
  refine h.of_update hc (neutral_update rfl rfl Iff.rfl (List.erase_sublist ..)
    (fun _ => le_refl _) fun _ _ hm => hm) rfl rfl (flight_singleton_le hp) ?_
  exact newCalls_moved h (List.mem_of_getElem? hk) ho hp rfl (hphase _ (hl.unlink h _))

lemma Inv.deinitChild_eq (h : Inv s) (idx c : ℕ) :
    deinitChild idx s.dev c = unlinkChild idx s.dev c := by
  unfold deinitChild
  split_ifs with hi
  · have hp := h.noParents c hi
    simp only [Sys.parents] at hp
    simp only [unlinkChild, setRow, camSyncUtilCleanupParentsList, cleanupList, hp, List.erase_nil]
    rw [← hp, Function.update_eq_self]
  · rfl

lemma Inv.of_deinitParent (h : Inv s) {idx p : ℕ} {ps : List ℕ} {k : ℕ}
    (hk : s.calls[k]? = some (.destroy idx [] (p :: ps))) :
    Inv ⟨deinitParent idx s.dev p, s.calls.set k (.destroy idx [] ps), s.gen, s.merged⟩ := by
  have hl : Leaving s idx [] := h.phase _ (List.mem_of_getElem? hk)
  unfold deinitParent
  split_ifs with hi
  · obtain ⟨rest, hc⟩ := calls_set hk s.dev s.gen s.merged (.destroy idx [] ps)
    exact h.of_calls hc (flight_singleton_le rfl)
      (newCalls_moved h (List.mem_of_getElem? hk) rfl rfl rfl ⟨hl.range, hl.invalid, hl.links⟩)
  · obtain ⟨rest, hc⟩ := calls_set hk
      (setRow s.dev p (camSyncUtilCleanupChildrenList (s.dev.syncTable p) .one idx)) s.gen s.merged
      (.destroy idx [] ps)
    have hn : Neutral s ⟨setRow s.dev p (camSyncUtilCleanupChildrenList (s.dev.syncTable p) .one idx),
        s.calls.set k (.destroy idx [] ps), s.gen, s.merged⟩ := by
      refine neutral_update rfl rfl Iff.rfl (List.Sublist.refl _) (fun _ => le_refl _) ?_
      intro c hm hch
      have hne : c ≠ idx := by
        rintro rfl
        simp [h.noParents c hl.invalid] at hm
      simpa [camSyncUtilCleanupChildrenList, cleanupList, List.mem_erase_of_ne hne] using hch
    refine h.of_update hc hn rfl rfl (flight_singleton_le rfl)
      (newCalls_moved h (List.mem_of_getElem? hk) rfl rfl rfl ⟨hl.range, ?_, ?_⟩)
    · exact (hn.invalid idx).mpr hl.invalid
    · exact fun c hm => hl.links c ((hn.parents c).subset hm)

/-- A notification in flight finds the object it was made for, with a counter that
still expects it. -/
lemma Inv.notify_current (h : Inv s) {k p : ℕ} {src : Occupant} {st : SyncState} {ps : List ℕ}
    (hk : s.calls[k]? = some (.notify src st (p :: ps))) :
    st ≠ .invalid ∧ (src, s.occupant p) ∈ s.merged ∧ 0 < s.remaining p := by
  obtain ⟨hst, hm⟩ : st ≠ .invalid ∧ ∀ q ∈ p :: ps, (src, s.occupant q) ∈ s.merged :=
    h.phase _ (List.mem_of_getElem? hk)
  refine ⟨hst, hm p (by simp), ?_⟩
  obtain ⟨rest, hc⟩ := calls_set hk s.dev s.gen s.merged .done
  have hfl := (hc.flight_eq p).1
  have hcount := h.count p
  simp only [flight_cons, Call.pending, List.count_cons_self] at hfl
  omega

lemma Inv.of_notify (h : Inv s) {k p : ℕ} {src : Occupant} {st : SyncState} {ps : List ℕ}
    (hk : s.calls[k]? = some (.notify src st (p :: ps))) :
    Inv ⟨parentSection st s.dev p, s.calls.set k (.notify src st ps), s.gen, s.merged⟩ := by
  obtain ⟨hst, -, hpos⟩ := h.notify_current hk
  have hphase : Phase s (.notify src st (p :: ps)) := h.phase _ (List.mem_of_getElem? hk)
  have hloc := parentSection_local s.dev hst
  have htab := hloc.table s.dev p ⟨rfl, rfl, rfl⟩
  have hcfg := hloc.keeps s.dev p ⟨rfl, rfl, rfl⟩
  generalize hrow : parentRow s.dev.camSyncEventq st (s.dev.syncTable p) = row at htab
  have hfacts : (row.state = .invalid ↔ s.invalid p) ∧ row.parentsList = s.parents p ∧
      row.childrenList = s.children p ∧ row.remaining = s.remaining p - 1 := by
    have hdec : (countDown (s.dev.syncTable p)).remaining = s.remaining p - 1 := u32Dec_of_pos hpos
    rw [← hrow, parentRow]
    cases hu : camSyncUtilUpdateParentState (s.dev.syncTable p).state st with
    | none => exact ⟨Iff.rfl, rfl, rfl, hdec⟩
    | some st' =>
      have hne := updateParentState_ne hst hu
      have hlive : ¬ s.invalid p := by
        intro hi
        rw [Sys.invalid] at hi
        rw [hi] at hu
        cases hu
      dsimp only
      split_ifs
      · exact ⟨by simp [dispatchedRow, hne, hlive], rfl, rfl, hdec⟩
      · exact ⟨by simp [hne, hlive], rfl, rfl, hdec⟩
  obtain ⟨hi, hp, hch, hrem⟩ := hfacts
  obtain ⟨rest, hc⟩ := calls_set hk (parentSection st s.dev p) s.gen s.merged (.notify src st ps)
  have hn : Neutral s ⟨parentSection st s.dev p, s.calls.set k (.notify src st ps), s.gen, s.merged⟩ :=
    neutral_update htab hcfg.bitmap hi (by rw [hp]) (fun _ => by omega) fun c _ hm => by rwa [hch]
  refine h.of_neutral hn hc ⟨?_, Or.inl (List.nil_sublist _), ?_, ?_⟩ ?_
  · intro call hm q hq hu
    rw [List.mem_singleton.mp hm] at hq
    exact hu.pending _ (List.mem_of_getElem? hk) (List.mem_cons_of_mem _ hq)
  · intro call hm y hy
    rw [List.mem_singleton.mp hm] at hy
    cases hy
  · intro call hm
    rw [List.mem_singleton.mp hm]
    exact ⟨hst, fun q hq => hphase.2 q (List.mem_cons_of_mem _ hq)⟩
  · intro q
    have hw := waiting_card_le (x := q) fun c hm => (hn.parents c).subset hm
    have hcount := h.count q
    obtain ⟨h1, h2⟩ := hc.flight_eq q
    simp only [flight_cons, Call.pending] at h1 h2
    by_cases hq : q = p
    · subst q
      have hr : (parentSection st s.dev p).syncTable p = row := by rw [htab, Function.update_self]
      simp only [Sys.remaining, hr, hrem, List.count_cons_self] at *
      omega
    · have hr : (parentSection st s.dev p).syncTable q = s.dev.syncTable q := by
        rw [htab, Function.update_of_ne hq]
      rw [List.count_cons_of_ne (Ne.symm hq)] at h1
      simp only [Sys.remaining, hr] at *
      omega

/-- The first section of a signal: the parents it detaches are now in flight. -/
lemma Inv.of_signal (h : Inv s) (obj : ℤ) (status : ℕ) : Inv (startSignal s obj status) := by
  by_cases hf : ∃ st, Fires s.dev obj status st
  · obtain ⟨st, hf⟩ := hf
    have hst : st ≠ .invalid := by rcases signalStatus_ne hf.status with rfl | rfl <;> decide
    have heq : startSignal s obj status = ⟨fire s.dev obj.toNat st, s.calls ++
        [Call.notify (s.occupant obj.toNat) st (s.parents obj.toNat)], s.gen, s.merged⟩ := by
      simp [startSignal, signalSection_fires hf, Sys.start]
    rw [heq]
    have hact := hf.active
    generalize obj.toNat = i at hact ⊢
    have hlive : ¬ s.invalid i := by simp [Sys.invalid, hact]
    have hn : Neutral s ⟨fire s.dev i st, s.calls ++ [Call.notify (s.occupant i) st (s.parents i)],
        s.gen, s.merged⟩ := by
      have htab : (fire s.dev i st).syncTable = Function.update s.dev.syncTable i
          (firedRow s.dev.camSyncEventq st (s.dev.syncTable i)) := rfl
      refine neutral_update htab rfl ?_ (List.nil_sublist _) (fun _ => le_refl _) fun _ _ hm => hm
      simp [firedRow, dispatchedRow, hst, hlive]
    have hc := calls_start (s := s) (fire s.dev i st) s.gen s.merged
      (.notify (s.occupant i) st (s.parents i))
    refine h.of_neutral hn hc ⟨?_, Or.inl (List.nil_sublist _), ?_, ?_⟩ ?_
    · intro call hm p hp hu
      rw [List.mem_singleton.mp hm] at hp
      exact hu.links i hp
    · intro call hm y hy
      rw [List.mem_singleton.mp hm] at hy
      cases hy
    · intro call hm
      rw [List.mem_singleton.mp hm]
      exact ⟨hst, fun p hp => (h.linked i p hp).2.1⟩
    · intro q
      have hcount := h.count q
      have hfl := (hc.flight_eq q).2
      simp only [flight_cons, Call.pending] at hfl
      have hr : ((fire s.dev i st).syncTable q).remaining = s.remaining q := by
        by_cases hq : q = i
        · subst q
          simp [fire, firedRow, dispatchedRow]
        · simp [fire, hq]
      have hpi : ((fire s.dev i st).syncTable i).parentsList = [] := by simp [fire, firedRow]
      have hpo : ∀ c, c ≠ i → ((fire s.dev i st).syncTable c).parentsList = s.parents c := by
        intro c hci
        simp [fire, hci]
      have hw : (waiting (fire s.dev i st) q).card + (s.parents i).count q ≤
          (waiting s.dev q).card := by
        by_cases hq : q ∈ s.parents i
        · have hi : i ∈ waiting s.dev q := mem_waiting.mpr ⟨(h.live i hlive).1.2, hq⟩
          have hsub : waiting (fire s.dev i st) q ⊆ (waiting s.dev q).erase i := by
            intro c hm
            have hci : c ≠ i := by
              rintro rfl
              simp [mem_waiting, hpi] at hm
            rw [mem_waiting, hpo c hci] at hm
            exact Finset.mem_erase.mpr ⟨hci, mem_waiting.mpr hm⟩
          have hle := Finset.card_le_card hsub
          rw [Finset.card_erase_of_mem hi] at hle
          have hpos := Finset.card_pos.mpr ⟨i, hi⟩
          rw [List.count_eq_one_of_mem (h.nodup i) hq]
          omega
        · rw [List.count_eq_zero.mpr hq, Nat.add_zero]
          exact @waiting_card_le s ⟨fire s.dev i st, [], s.gen, s.merged⟩ q
            fun c hm => (hn.parents c).subset hm
      have hnil : flight [] q = 0 := rfl
      change (waiting (fire s.dev i st) q).card + flight (s.calls ++ _) q ≤
        ((fire s.dev i st).syncTable q).remaining
      rw [hr]
      omega
  · obtain ⟨hnone, n, hd⟩ := signalSection_quiet (not_exists.mp hf)
    have heq : startSignal s obj status =
        { s with dev := setRow s.dev obj.toNat { s.dev.syncTable obj.toNat with refCnt := n } } := by
      simp [startSignal, hnone, hd]
    rw [heq]
    exact h.of_refCnt _ n

lemma Inv.of_finish (h : Inv s) {k idx : ℕ} {linked : List ℕ} {alloc : ℕ → Bool × Bool}
    (hk : s.calls[k]? = some (.link idx linked [] alloc)) :
    Inv ⟨mergeFinish idx s.dev, s.calls.set k .done, s.gen, s.merged⟩ := by
  have hb : Building s idx linked [] := h.phase _ (List.mem_of_getElem? hk)
  have hnew : ∀ s', NewCalls s s' 0 [Call.link idx linked [] alloc] [.done] := by
    refine fun s' => ⟨by simp [Call.pending], Or.inl (List.nil_sublist _), ?_, ?_⟩
    · intro call hm y hy
      rw [List.mem_singleton.mp hm] at hy
      cases hy
    · intro call hm
      rw [List.mem_singleton.mp hm]
      trivial
  unfold mergeFinish
  dsimp only
  by_cases hz : (s.dev.syncTable idx).remaining = 0
  · rw [if_pos hz]
    obtain ⟨rest, hc⟩ := calls_set hk _ s.gen s.merged .done
    refine h.of_update hc (neutral_update rfl rfl ?_ (List.Sublist.refl _) (fun _ => le_refl _)
      fun _ _ hm => hm) rfl rfl (flight_singleton_le rfl) (hnew _)
    have hlive := hb.live
    split_ifs <;> simp [hlive]
  · rw [if_neg hz]
    obtain ⟨rest, hc⟩ := calls_set hk s.dev s.gen s.merged .done
    exact h.of_calls hc (flight_singleton_le rfl) (hnew _)

lemma Inv.of_merge (h : Inv s) (objs : List ℤ) (alloc : ℕ → Bool × Bool) (hnd : objs.Nodup) :
    Inv (s.start (.check objs objs alloc)) := by
  refine h.of_calls (calls_start _ _ _ _) (fun x => by simp [flight, Call.pending])
    ⟨by simp [Call.pending], Or.inl (List.nil_sublist _), ?_, ?_⟩
  · intro call hm y hy
    rw [List.mem_singleton.mp hm] at hy
    cases hy
  · intro call hm
    rw [List.mem_singleton.mp hm]
    exact ⟨hnd, fun o ho hno => absurd ho hno⟩

lemma Inv.of_check (h : Inv s) {k : ℕ} {objs rest : List ℤ} {o : ℤ} {alloc : ℕ → Bool × Bool}
    (hk : s.calls[k]? = some (.check objs (o :: rest) alloc)) :
    Inv { s with calls := s.calls.set k (if camSyncCheckValid s.dev o = 0 then
      .check objs rest alloc else .done) } := by
  obtain ⟨hnd, hval⟩ : objs.Nodup ∧ ∀ x ∈ objs, x ∉ o :: rest →
      x.toNat < camSyncMaxObjs ∧ (x.toNat : ℤ) = x := h.phase _ (List.mem_of_getElem? hk)
  split_ifs with hz
  · obtain ⟨others, hc⟩ := calls_set hk s.dev s.gen s.merged (.check objs rest alloc)
    refine h.of_calls hc (flight_singleton_le rfl)
      (newCalls_moved h (List.mem_of_getElem? hk) rfl rfl rfl ⟨hnd, fun x hx hno => ?_⟩)
    by_cases hxo : x = o
    · subst x
      have hfind : ([o].map (camSyncCheckValid s.dev)).find? (· ≠ 0) = none := by simp [hz]
      have hv := checkValid_of_find hfind o (by simp)
      exact ⟨hv.1, hv.2.1⟩
    · exact hval x hx (by simp [hxo, hno])
  · obtain ⟨others, hc⟩ := calls_set hk s.dev s.gen s.merged .done
    exact h.of_calls hc (flight_singleton_le rfl)
      (newCalls_moved h (List.mem_of_getElem? hk) rfl rfl rfl trivial)

/-! ### Steps in which a row changes hands -/

lemma frame_setRow {dev : SyncDevice} {calls : List Call} {gen : ℕ → ℕ}
    (hrows : ∀ y, y ≠ x → dev.syncTable y = s.dev.syncTable y)
    (hp : ∀ p ∈ (dev.syncTable x).parentsList, p ∈ s.parents x)
    (hb : ∀ y, y ≠ x → dev.bitmap y = s.dev.bitmap y) (hg : ∀ y, y ≠ x → gen y = s.gen y) :
    Frame s ⟨dev, calls, gen, s.merged⟩ x where
  bits := hb
  gen := hg
  merged _ hm := hm
  invalid y hy := by simp only [Sys.invalid, hrows y hy]
  links c p _ hm := by
    by_cases hc : c = x
    · subst c
      exact hp p hm
    · simpa only [Sys.parents, hrows c hc] using hm
  quiet y hy _ hn := by simpa only [Sys.parents, hrows y hy] using hn
  counter y hy _ := by simp only [Sys.remaining, hrows y hy, le_refl]
  children c p hp _ hm := by simpa only [Sys.children, hrows p hp] using hm

lemma Inv.count_of_frame (h : Inv s) (hf : Frame s s' x) (hc : Calls s s' old new rest)
    (hfl : ∀ p, flight new p ≤ flight old p) (hr : ∀ p, p ≠ x → s'.remaining p = s.remaining p)
    (hx : (waiting s'.dev x).card + flight s'.calls x ≤ s'.remaining x) (p : ℕ) :
    (waiting s'.dev p).card + flight s'.calls p ≤ s'.remaining p := by
  by_cases hp : p = x
  · subst p
    exact hx
  · exact h.count_of_le hc (fun c hm => hf.links c p hp hm) (hfl p) (hr p hp).ge

lemma Inv.rest_owner (h : Inv s) (hc : Calls s s' old new rest) {a : Call} (ha : a ∈ old)
    (ho : a.owner = some x) : ∀ call ∈ rest, call.owner ≠ some x := by
  intro call hm he
  have hnd := (hc.before.filterMap Call.owner).nodup_iff.mp h.owners
  rw [List.filterMap_append] at hnd
  exact (List.nodup_append.mp hnd).2.2 x (List.mem_filterMap.mpr ⟨a, ha, ho⟩) x
    (List.mem_filterMap.mpr ⟨call, hm, he⟩) rfl

lemma Inv.unowned (h : Inv s) (hb : s.dev.bitmap x = false) : ∀ call ∈ s.calls, call.owner ≠ some x := by
  intro call hm ho
  simp [h.owned call hm x ho] at hb

lemma Inv.invalid_of_free (h : Inv s) (hb : s.dev.bitmap x = false) : s.invalid x := by
  by_contra hi
  simp [(h.live x hi).2] at hb

lemma Inv.of_take (h : Inv s) {calls : List Call} {b : Call} (hfree : freeBit s.dev x = true)
    (hc : Calls s ⟨setBit s.dev x true, calls, s.gen, s.merged⟩ old [b] rest)
    (hb : b.owner = some x) (hp : b.pending = [])
    (hphase : ∀ s', Taken s' x → Phase s' b) :
    Inv ⟨setBit s.dev x true, calls, s.gen, s.merged⟩ := by
  simp only [freeBit, Bool.and_eq_true, decide_eq_true_eq, Bool.not_eq_true'] at hfree
  obtain ⟨hlt, hbit⟩ := hfree
  have hpos : 0 < x := Nat.pos_of_ne_zero fun he => by simp [he, h.bitZero] at hbit
  have hu := h.free x hbit
  have hinv := h.invalid_of_free hbit
  have hf : Frame s ⟨setBit s.dev x true, calls, s.gen, s.merged⟩ x :=
    frame_setRow (fun _ _ => rfl) (fun _ hm => hm) (fun y hy => by simp [setBit_apply, hy])
      fun _ _ => rfl
  have hu' : Unreferenced ⟨setBit s.dev x true, calls, s.gen, s.merged⟩ x := by
    refine ⟨hu.links, fun call hm hx => ?_⟩
    rcases List.mem_append.mp (hc.after.mem_iff.mp hm) with hm | hm
    · rw [List.mem_singleton.mp hm, hp] at hx
      simp at hx
    · exact hu.pending call (hc.before.mem_iff.mpr (List.mem_append_right _ hm)) hx
  have hfl : ∀ q, flight [b] q ≤ flight old q := fun q => by simp [flight, hp]
  refine h.of_frame hf hc (fun call hm => h.unowned hbit call
      (hc.before.mem_iff.mpr (List.mem_append_right _ hm))) (Or.inl rfl)
    ⟨by simp [hp], Or.inr (by simp [hb]), ?_, ?_⟩ ?_ h.nodup
    (h.count_of_frame hf hc hfl (fun _ _ => rfl) (count_of_unreferenced hu')) ?_
  · intro call hm y hy
    rw [List.mem_singleton.mp hm, hb] at hy
    cases hy
    simp [setBit_apply]
  · intro call hm
    rw [List.mem_singleton.mp hm]
    exact hphase _ ⟨⟨hpos, hlt⟩, hinv, hu'⟩
  · exact ⟨fun hi => absurd hinv hi, fun _ => h.noParents x hinv, fun c hm => absurd hm (hu.links c),
      fun p hp' _ => (h.linked x p hp').2.1, fun _ => hu'⟩
  · simp [setBit_apply, h.bitZero]

/-- A row right after its initialisation. -/
structure Fresh (s : Sys) (x : ℕ) : Prop where
  range : inRange x
  live : ¬ s.invalid x
  parents : s.parents x = []
  remaining : s.remaining x = 0
  links : ∀ c, x ∉ s.parents c

lemma Inv.of_fill (h : Inv s) {k : ℕ} {a b : Call} {type : SyncType} {clientId : ℕ}
    (hk : s.calls[k]? = some a) (ha : a.owner = some x) (ht : Taken s x)
    (hp : b.pending = []) (hb : b.owner = none ∨ b.owner = some x)
    (hphase : ∀ s', Fresh s' x → Phase s' b) :
    Inv ⟨setRow s.dev x (initRow x type clientId), s.calls.set k b, bump s.gen x, s.merged⟩ := by
  obtain ⟨rest, hc⟩ := calls_set hk (setRow s.dev x (initRow x type clientId)) (bump s.gen x)
    s.merged b
  have hm := List.mem_of_getElem? hk
  have hbit := h.owned a hm x ha
  have hpar := h.noParents x ht.invalid
  have hf : Frame s ⟨setRow s.dev x (initRow x type clientId), s.calls.set k b, bump s.gen x,
      s.merged⟩ x :=
    frame_setRow (fun y hy => setRow_ne _ _ _ _ hy) (by simp [initRow, zeroRow]) (fun _ _ => rfl)
      fun y hy => Function.update_of_ne hy _ _
  have hlinks : ∀ c, x ∉ ((setRow s.dev x (initRow x type clientId)).syncTable c).parentsList := by
    intro c
    by_cases hcx : c = x
    · simp [hcx, initRow, zeroRow]
    · rw [setRow_ne _ _ _ _ hcx]
      exact ht.fresh.links c
  have hu' : Unreferenced ⟨setRow s.dev x (initRow x type clientId), s.calls.set k b,
      bump s.gen x, s.merged⟩ x := by
    refine ⟨hlinks, fun call hm hx => ?_⟩
    rcases List.mem_append.mp (hc.after.mem_iff.mp hm) with hm | hm
    · rw [List.mem_singleton.mp hm, hp] at hx
      simp at hx
    · exact ht.fresh.pending call (hc.before.mem_iff.mpr (List.mem_append_right _ hm)) hx
  have hfresh : Fresh ⟨setRow s.dev x (initRow x type clientId), s.calls.set k b,
      bump s.gen x, s.merged⟩ x :=
    ⟨ht.range, by simp [Sys.invalid, initRow], by simp [Sys.parents, initRow, zeroRow],
      by simp [Sys.remaining, initRow, zeroRow], hlinks⟩
  refine h.of_frame hf hc (h.rest_owner hc (List.mem_singleton.mpr rfl) ha) (Or.inr ht.fresh)
    ⟨by simp [hp], ?_, ?_, ?_⟩ ⟨fun _ => ⟨ht.range, hbit⟩, fun hi => absurd hi hfresh.live,
      fun c hm => absurd hm (hlinks c), by simp [hfresh.parents], fun _ => hu'⟩ ?_
    (h.count_of_frame hf hc (flight_singleton_le hp) (fun q hq => by
      simp only [Sys.remaining, setRow_ne _ _ _ _ hq]) (count_of_unreferenced hu')) h.bitZero
  · rcases hb with hb | hb
    · exact Or.inl (by simp [hb])
    · exact Or.inr (by simp [hb])
  · intro call hm y hy
    rw [List.mem_singleton.mp hm] at hy
    rcases hb with hb | hb
    · simp [hb] at hy
    · rw [hb] at hy
      cases hy
      exact hbit
  · intro call hm
    rw [List.mem_singleton.mp hm]
    exact hphase _ hfresh
  · intro c
    by_cases hcx : c = x
    · simp [Sys.parents, hcx, initRow, zeroRow]
    · simpa only [Sys.parents, setRow_ne _ _ _ _ hcx] using h.nodup c

lemma Inv.of_release (h : Inv s) {k : ℕ} {a : Call} {row : SyncTableRow}
    (hk : s.calls[k]? = some a) (ha : a.owner = some x) (hl : Leaving s x [])
    (hq : ∀ c ∈ s.calls, x ∉ c.pending) (hi : row.state = .invalid) (hp : row.parentsList = []) :
    Inv ⟨setBit (setRow s.dev x row) x false, s.calls.set k .done, s.gen, s.merged⟩ := by
  obtain ⟨rest, hc⟩ := calls_set hk (setBit (setRow s.dev x row) x false) s.gen s.merged .done
  have hrows : ∀ y, y ≠ x → (setBit (setRow s.dev x row) x false).syncTable y = s.dev.syncTable y :=
    fun y hy => setRow_ne _ _ _ _ hy
  have hself : (setBit (setRow s.dev x row) x false).syncTable x = row := setRow_self _ _ _
  have hf : Frame s ⟨setBit (setRow s.dev x row) x false, s.calls.set k .done, s.gen, s.merged⟩ x :=
    frame_setRow hrows (by rw [hself, hp]; simp) (fun y hy => by simp [setBit_apply, hy])
      fun _ _ => rfl
  have hnone : ∀ c, x ∉ s.parents c := fun c hm => by simpa using hl.links c hm
  have hlinks : ∀ c, x ∉ ((setBit (setRow s.dev x row) x false).syncTable c).parentsList := by
    intro c
    by_cases hcx : c = x
    · rw [hcx, hself, hp]
      exact List.not_mem_nil
    · rw [hrows c hcx]
      exact hnone c
  have hu' : Unreferenced ⟨setBit (setRow s.dev x row) x false, s.calls.set k .done, s.gen,
      s.merged⟩ x := by
    refine ⟨hlinks, fun call hm hx => ?_⟩
    rcases List.mem_append.mp (hc.after.mem_iff.mp hm) with hm | hm
    · rw [List.mem_singleton.mp hm] at hx
      simp [Call.pending] at hx
    · exact hq call (hc.before.mem_iff.mpr (List.mem_append_right _ hm)) hx
  refine h.of_frame hf hc (h.rest_owner hc (List.mem_singleton.mpr rfl) ha) (Or.inl rfl)
    ⟨by simp [Call.pending], Or.inl (List.nil_sublist _), ?_, ?_⟩
    ⟨fun hne => absurd (by rw [Sys.invalid, hself, hi]) hne, fun _ => by rw [Sys.parents, hself, hp],
      fun c hm => absurd hm (hlinks c), by rw [Sys.parents, hself, hp]; simp, fun _ => hu'⟩ ?_
    (h.count_of_frame hf hc (flight_singleton_le rfl) (fun q hq => by
      simp only [Sys.remaining, hrows q hq]) (count_of_unreferenced hu')) ?_
  · intro call hm y hy
    rw [List.mem_singleton.mp hm] at hy
    cases hy
  · intro call hm
    rw [List.mem_singleton.mp hm]
    trivial
  · intro c
    by_cases hcx : c = x
    · rw [Sys.parents, hcx, hself, hp]
      exact List.nodup_nil
    · simpa only [Sys.parents, hrows c hcx] using h.nodup c
  · have hx0 : (0 : ℕ) ≠ x := hl.range.1.ne
    simpa [setBit_apply, hx0] using h.bitZero

lemma Inv.unowned_of_live (h : Inv s) (hi : ¬ s.invalid x) (hl : s.locked x = false) :
    ∀ call ∈ s.calls, call.owner ≠ some x := by
  intro call hm ho
  have hp := h.phase call hm
  have hfree : call.holds ≠ some x := by
    intro hh
    simp [locked_of_holds hm hh] at hl
  cases call <;> simp only [Call.owner, Option.some.injEq, reduceCtorEq] at ho <;> subst ho
  · exact hi (Taken.invalid hp)
  · exact hi hp.1.invalid
  · exact hfree rfl
  · exact hfree rfl
  · exact hi (Leaving.invalid hp)

lemma Inv.of_destroy (h : Inv s) (hl : s.locked x = false) : Inv (startDestroy s x) := by
  unfold startDestroy deinitDetach
  dsimp only
  by_cases hi : s.invalid x
  · rw [if_pos hi]
    exact h
  rw [if_neg hi]
  obtain ⟨hrange, hbit⟩ := h.live x hi
  have hpar : (s.parents x).filter (¬ 0 < ·) = [] := by
    rw [List.filter_eq_nil_iff]
    intro p hp
    simpa using (h.linked x p hp).1.ne'
  simp only [Sys.parents] at hpar
  rw [hpar]
  generalize hcl : (s.dev.syncTable x).childrenList.filter (¬ 0 < ·) = left
  generalize hps : (s.dev.syncTable x).parentsList.filter (0 < ·) = ps
  have hchild : ∀ c, x ∈ s.parents c → c ∈ (s.dev.syncTable x).childrenList.filter (0 < ·) := by
    intro c hm
    have hc : ¬ s.invalid c := fun hc => by simp [h.noParents c hc] at hm
    rw [List.mem_filter]
    exact ⟨(h.linked c x hm).2.2 hi, by simpa using (h.live c hc).1.1⟩
  generalize (s.dev.syncTable x).childrenList.filter (0 < ·) = cs at hchild
  obtain ⟨row, hrow⟩ : ∃ row : SyncTableRow, row = { s.dev.syncTable x with
      state := .invalid, childrenList := left, parentsList := [] } := ⟨_, rfl⟩
  have hstart : Sys.start { s with dev := setRow s.dev x row } (.destroy x cs ps) =
      ⟨setRow s.dev x row, s.calls ++ [Call.destroy x cs ps], s.gen, s.merged⟩ := rfl
  dsimp only
  rw [← hrow, hstart]
  have hc := calls_start (s := s) (setRow s.dev x row) s.gen s.merged (.destroy x cs ps)
  have hself : (setRow s.dev x row).syncTable x = row := setRow_self _ _ _
  have hrows : ∀ y, y ≠ x → (setRow s.dev x row).syncTable y = s.dev.syncTable y :=
    fun y hy => setRow_ne _ _ _ _ hy
  have hf : Frame s ⟨setRow s.dev x row, s.calls ++ [Call.destroy x cs ps], s.gen, s.merged⟩ x :=
    frame_setRow hrows (by rw [hself, hrow]; simp) (fun _ _ => rfl) fun _ _ => rfl
  have hlinks : ∀ c, x ∈ ((setRow s.dev x row).syncTable c).parentsList → x ∈ s.parents c := by
    intro c hm
    by_cases hcx : c = x
    · rw [hcx, hself, hrow] at hm
      simp at hm
    · rwa [hrows c hcx] at hm
  have hinv : (Sys.mk (setRow s.dev x row) (s.calls ++ [Call.destroy x cs ps]) s.gen s.merged).invalid x := by
    rw [Sys.invalid, hself, hrow]
  have hpx : (Sys.mk (setRow s.dev x row) (s.calls ++ [Call.destroy x cs ps]) s.gen s.merged).parents x = [] := by
    rw [Sys.parents, hself, hrow]
  refine h.of_frame hf hc (h.unowned_of_live hi hl) (Or.inl rfl)
    ⟨by simp [Call.pending], Or.inr rfl, ?_, ?_⟩
    ⟨fun hne => absurd hinv hne, fun _ => hpx, ?_, by simp [hpx], ?_⟩ ?_
    (h.count_of_frame hf hc (fun q => by simp [flight, Call.pending]) (fun q hq => by
      simp only [Sys.remaining, hrows q hq]) ?_) h.bitZero
  · intro call hm y hy
    rw [List.mem_singleton.mp hm] at hy
    cases hy
    exact hbit
  · intro call hm
    rw [List.mem_singleton.mp hm]
    exact ⟨hrange, hinv, fun c hm => hchild c (hlinks c hm)⟩
  · intro c hm
    exact ⟨hrange.1, (h.linked c x (hlinks c hm)).2.1, fun hne => absurd hinv hne⟩
  · intro hb
    exact absurd hb (by simp [hbit])
  · intro c
    by_cases hcx : c = x
    · rw [hcx, hpx]
      exact List.nodup_nil
    · simpa only [Sys.parents, hrows c hcx] using h.nodup c
  · exact h.count_of_le hc hlinks (by simp [flight, Call.pending])
      (by rw [Sys.remaining, Sys.remaining, hself, hrow])

lemma Building.counter_lt {linked rest : List ℕ} (hb : Building s x linked rest) :
    s.remaining x < u32Max := by
  have hsub : ∀ c ∈ linked ++ rest, c ∈ List.range camSyncMaxObjs :=
    fun c hc => List.mem_range.mpr (hb.objs c hc)
  have hlen := (hb.nodup.subperm hsub).length_le
  rw [List.length_append, List.length_range] at hlen
  have hmax : camSyncMaxObjs < u32Max := by
    rw [u32Max_eq]
    decide
  have := hb.counter
  omega

lemma Inv.of_link (h : Inv s) {k c : ℕ} {linked rest' : List ℕ} {alloc : ℕ → Bool × Bool}
    {dev : SyncDevice} (hk : s.calls[k]? = some (.link x linked (c :: rest') alloc))
    (hl : s.locked c = false) (hd : Linked s.dev x [c] dev) :
    Inv ⟨dev, s.calls.set k (.link x (linked ++ [c]) rest' alloc), s.gen,
      (s.occupant c, s.occupant x) :: s.merged⟩ := by
  have hm := List.mem_of_getElem? hk
  have hb : Building s x linked (c :: rest') := h.phase _ hm
  have hbit := h.owned _ hm x rfl
  have hlx := locked_of_holds hm (x := x) rfl
  have hcx : c ≠ x := by
    rintro rfl
    simp [hl] at hlx
  have hcl : c ∉ linked := by
    have := (List.nodup_append.mp hb.nodup).2.2
    exact fun hm => this c hm c (by simp) rfl
  have hxc : x ∉ s.parents c := fun hm => hcl (hb.links c hm)
  have hact : ∀ y, y ∈ activeOf s.dev [c] ↔ y = c ∧ (s.dev.syncTable c).state = .active := by
    intro y
    rw [mem_activeOf, List.mem_singleton]
    exact and_congr_right fun he => by rw [he]
  have hrow : ∀ y, y ≠ x → ∃ ps, dev.syncTable y = { s.dev.syncTable y with parentsList := ps } := by
    intro y hy
    rw [hd.others y hy]
    split_ifs
    · exact ⟨_, rfl⟩
    · exact ⟨_, rfl⟩
  have hpx : (dev.syncTable x).parentsList = [] := by rw [hd.parentsList]; exact hb.parents
  have hpar : ∀ y, y ≠ x → (dev.syncTable y).parentsList =
      if y ∈ activeOf s.dev [c] then s.parents y ++ [x] else s.parents y := by
    intro y hy
    rw [hd.others y hy]
    split_ifs <;> rfl
  have hlinks : ∀ y p, p ∈ (dev.syncTable y).parentsList ↔
      p ∈ s.parents y ∨ p = x ∧ y ∈ activeOf s.dev [c] := by
    intro y p
    by_cases hy : y = x
    · have hno : x ∉ activeOf s.dev [c] := fun hm => hcx ((hact x).mp hm).1.symm
      simp [hy, hpx, hno, hb.parents]
    · rw [hpar y hy]
      split_ifs with ha <;> simp [ha]
  have hlive : (dev.syncTable x).state ≠ .invalid := by
    rw [hd.state]
    split_ifs
    · decide
    · exact hb.live
  obtain ⟨others, hc⟩ := calls_set hk dev s.gen ((s.occupant c, s.occupant x) :: s.merged)
    (.link x (linked ++ [c]) rest' alloc)
  have hf : Frame s ⟨dev, s.calls.set k (.link x (linked ++ [c]) rest' alloc), s.gen,
      (s.occupant c, s.occupant x) :: s.merged⟩ x := by
    refine ⟨fun y _ => by rw [hd.outside.bitmap], fun _ _ => rfl, fun m hm => List.mem_cons_of_mem _ hm,
      ?_, ?_, ?_, ?_, ?_⟩
    · intro y hy
      obtain ⟨ps, he⟩ := hrow y hy
      rw [Sys.invalid, he]
    · intro y p hp hmem
      exact ((hlinks y p).mp hmem).resolve_right fun he => hp he.1
    · intro y hy hor hn
      rw [Sys.parents, hpar y hy, if_neg]
      · exact hn
      · intro ha
        obtain ⟨rfl, hac⟩ := (hact y).mp ha
        rcases hor with hi | hlk
        · simp [Sys.invalid, hac] at hi
        · simp [hl] at hlk
    · intro y hy _
      obtain ⟨ps, he⟩ := hrow y hy
      rw [Sys.remaining, he]
    · intro y p hp _ hch
      obtain ⟨ps, he⟩ := hrow p hp
      rw [Sys.children, he]
      exact hch
  have hbuild : Building ⟨dev, s.calls.set k (.link x (linked ++ [c]) rest' alloc), s.gen,
      (s.occupant c, s.occupant x) :: s.merged⟩ x (linked ++ [c]) rest' := by
    refine ⟨hb.range, hlive, hpx, ?_, ?_, ?_, ?_⟩
    · rw [List.append_assoc]
      exact hb.nodup
    · rw [List.append_assoc]
      exact hb.objs
    · have h1 := hd.remaining
      have h2 : (activeOf s.dev [c]).length ≤ 1 := List.length_filter_le _ _
      have h3 : (s.dev.syncTable x).remaining ≤ linked.length := hb.counter
      rw [List.length_append, List.length_singleton, Sys.remaining, h1]
      omega
    · intro y hy
      rcases (hlinks y x).mp hy with hy | ⟨-, hy⟩
      · exact List.mem_append_left _ (hb.links y hy)
      · simp [((hact y).mp hy).1]
  refine h.of_frame hf hc (h.rest_owner hc (List.mem_singleton.mpr rfl) rfl) (Or.inl rfl)
    ⟨by simp [Call.pending], Or.inr rfl, ?_, ?_⟩
    ⟨fun _ => ⟨hb.range, by rw [hd.outside.bitmap]; exact hbit⟩, fun hi => absurd hi hlive, ?_,
      by simp [Sys.parents, hpx], fun hz => ?_⟩ ?_
    (h.count_of_frame hf hc (flight_singleton_le rfl) (fun q hq => ?_) ?_)
    (by rw [hd.outside.bitmap]; exact h.bitZero)
  · intro call hm y hy
    rw [List.mem_singleton.mp hm] at hy
    cases hy
    rw [hd.outside.bitmap]
    exact hbit
  · intro call hm
    rw [List.mem_singleton.mp hm]
    exact hbuild
  · intro y hy
    rw [Sys.children, hd.childrenList]
    rcases (hlinks y x).mp hy with hy | ⟨-, hy⟩
    · obtain ⟨-, h1, h2⟩ := h.linked y x hy
      exact ⟨hb.range.1, List.mem_cons_of_mem _ h1, fun _ => List.mem_append_left _ (h2 hb.live)⟩
    · obtain ⟨rfl, -⟩ := (hact y).mp hy
      exact ⟨hb.range.1, List.mem_cons_self, fun _ => List.mem_append_right _ hy⟩
  · rw [hd.outside.bitmap, hbit] at hz
    cases hz
  · intro y
    by_cases hy : y = x
    · simp [Sys.parents, hy, hpx]
    · rw [Sys.parents, hpar y hy]
      split_ifs with ha
      · obtain ⟨rfl, -⟩ := (hact y).mp ha
        refine List.nodup_append.mpr ⟨h.nodup y, List.nodup_singleton _, ?_⟩
        intro a ha b hb' he
        exact hxc (List.mem_singleton.mp hb' ▸ he ▸ ha)
      · exact h.nodup y
  · obtain ⟨ps, he⟩ := hrow q hq
    rw [Sys.remaining, he]
  · have hsub : waiting dev x ⊆ waiting s.dev x ∪ (activeOf s.dev [c]).toFinset := by
      intro y hy
      rw [mem_waiting, hlinks] at hy
      rw [Finset.mem_union, mem_waiting, List.mem_toFinset]
      rcases hy with ⟨hy, hp | ⟨-, hp⟩⟩
      · exact Or.inl ⟨hy, hp⟩
      · exact Or.inr hp
    have hcard := (Finset.card_le_card hsub).trans (Finset.card_union_le _ _)
    have hfin := List.toFinset_card_le (activeOf s.dev [c])
    have hcount := h.count x
    obtain ⟨h1, h2⟩ := hc.flight_eq x
    have hfl := flight_singleton_le (a := .link x linked (c :: rest') alloc)
      (b := .link x (linked ++ [c]) rest' alloc) rfl x
    rw [Sys.remaining, hd.remaining]
    change (waiting dev x).card + _ ≤ _
    simp only [Sys.remaining] at hcount
    omega

lemma Inv.of_linkFail (h : Inv s) {k c : ℕ} {linked rest' : List ℕ} {alloc : ℕ → Bool × Bool}
    {dev : SyncDevice} (hk : s.calls[k]? = some (.link x linked (c :: rest') alloc))
    (ho : SameOutside s.dev dev) (hs : ∀ y, y ≠ x → dev.syncTable y = s.dev.syncTable y)
    (hp : (dev.syncTable x).parentsList = (s.dev.syncTable x).parentsList)
    (hr : (s.dev.syncTable x).remaining ≤ (dev.syncTable x).remaining) :
    Inv ⟨setRow dev x { dev.syncTable x with state := .invalid },
      s.calls.set k (.unlink x linked.reverse), s.gen, s.merged⟩ := by
  have hm := List.mem_of_getElem? hk
  have hb : Building s x linked (c :: rest') := h.phase _ hm
  have hbit := h.owned _ hm x rfl
  obtain ⟨row, hrow⟩ : ∃ row : SyncTableRow, row = { dev.syncTable x with state := .invalid } :=
    ⟨_, rfl⟩
  rw [← hrow]
  obtain ⟨others, hc⟩ := calls_set hk (setRow dev x row) s.gen s.merged (.unlink x linked.reverse)
  have hself : (setRow dev x row).syncTable x = row := setRow_self _ _ _
  have hrows : ∀ y, y ≠ x → (setRow dev x row).syncTable y = s.dev.syncTable y := by
    intro y hy
    rw [setRow_ne _ _ _ _ hy, hs y hy]
  have hpx : row.parentsList = [] := by
    rw [hrow]
    exact hp.trans hb.parents
  have hf : Frame s ⟨setRow dev x row, s.calls.set k (.unlink x linked.reverse), s.gen, s.merged⟩ x :=
    frame_setRow hrows (by rw [hself, hpx]; simp) (fun y _ => by rw [setRow_bitmap, ho.bitmap])
      fun _ _ => rfl
  have hlinks : ∀ y, x ∈ ((setRow dev x row).syncTable y).parentsList → x ∈ s.parents y := by
    intro y hy
    by_cases hyx : y = x
    · rw [hyx, hself, hpx] at hy
      simp at hy
    · rwa [hrows y hyx] at hy
  have hinv : row.state = .invalid := by rw [hrow]
  refine h.of_frame hf hc (h.rest_owner hc (List.mem_singleton.mpr rfl) rfl) (Or.inl rfl)
    ⟨by simp [Call.pending], Or.inr rfl, ?_, ?_⟩
    ⟨fun hne => absurd (by rw [Sys.invalid, hself, hinv]) hne, fun _ => by rw [Sys.parents, hself, hpx],
      ?_, by rw [Sys.parents, hself, hpx]; simp, fun hz => ?_⟩ ?_
    (h.count_of_frame hf hc (flight_singleton_le rfl) (fun q hq => by
      simp only [Sys.remaining, hrows q hq]) ?_) (by rw [setRow_bitmap, ho.bitmap]; exact h.bitZero)
  · intro call hm y hy
    rw [List.mem_singleton.mp hm] at hy
    cases hy
    rw [setRow_bitmap, ho.bitmap]
    exact hbit
  · intro call hm
    rw [List.mem_singleton.mp hm]
    refine ⟨hb.range, by rw [Sys.invalid, hself, hinv], fun y hy => ?_⟩
    exact List.mem_reverse.mpr (hb.links y (hlinks y hy))
  · intro y hy
    exact ⟨hb.range.1, (h.linked y x (hlinks y hy)).2.1,
      fun hne => absurd (by rw [Sys.invalid, hself, hinv]) hne⟩
  · rw [setRow_bitmap, ho.bitmap, hbit] at hz
    cases hz
  · intro y
    by_cases hyx : y = x
    · rw [hyx, Sys.parents, hself, hpx]
      exact List.nodup_nil
    · simpa only [Sys.parents, hrows y hyx] using h.nodup y
  · refine h.count_of_le hc hlinks (flight_singleton_le rfl x) ?_
    rw [Sys.remaining, Sys.remaining, hself, hrow]
    exact hr

lemma Inv.of_advance (h : Inv s) {k : ℕ} (hk : s.calls[k]? = some call)
    (hq : ∀ x, call.releases = some x → ∀ c ∈ s.calls, x ∉ c.pending) :
    Inv { (call.advance s).2 with calls := s.calls.set k (call.advance s).1 } := by
  have hm := List.mem_of_getElem? hk
  have hp := h.phase call hm
  have hset : s.calls.set k call = s.calls := by
    obtain ⟨hlt, rfl⟩ := List.getElem?_eq_some_iff.mp hk
    exact List.set_getElem_self hlt
  have hspin : Inv { s with calls := s.calls.set k call } := by
    rw [hset]
    exact h
  cases call with
  | create idx clientId =>
    simp only [Call.advance]
    split_ifs with hl
    · exact hspin
    · have ht : Taken s idx := hp
      have hsec : (createSection s.dev idx clientId).2 =
          setRow s.dev idx (initRow idx .indv clientId) := by
        simp [createSection, camSyncInitRow_ok ht.range]
      rw [hsec]
      exact h.of_fill hk rfl ht rfl (Or.inl rfl) fun _ _ => trivial
  | check objs rest alloc =>
    cases rest with
    | nil => exact hspin
    | cons o rest =>
      have := h.of_check hk
      simp only [Call.advance]
      split_ifs at this ⊢ <;> exact this
  | group idx objs alloc =>
    simp only [Call.advance]
    split_ifs with hl
    · exact hspin
    · obtain ⟨ht, hnd, hobjs⟩ := hp
      rw [camSyncInitRow_ok ht.range]
      refine h.of_fill hk rfl ht rfl (Or.inr rfl) fun s' hf => ?_
      exact ⟨hf.range, hf.live, hf.parents, hnd, hobjs, hf.remaining.le,
        fun c hc => absurd hc (hf.links c)⟩
  | link idx linked rest alloc =>
    cases rest with
    | nil => exact h.of_finish hk
    | cons c rest =>
      simp only [Call.advance]
      split_ifs with hl
      · exact hspin
      · have hb : Building s idx linked (c :: rest) := hp
        have hlx := locked_of_holds hm (x := idx) rfl
        have hcx : c ≠ idx := by
          rintro rfl
          exact hl hlx
        unfold linkSection
        dsimp only
        obtain ⟨rc, dev, hr⟩ : ∃ rc dev, mergeChild idx (alloc linked.length) s.dev c = (rc, dev) :=
          ⟨_, _, rfl⟩
        rw [hr]
        by_cases hrc : rc = 0
        · subst rc
          exact h.of_link hk (by simpa using hl) (mergeChild_ok hcx hb.counter_lt hr)
        · obtain ⟨-, ho, hs, hpar, hrem⟩ := mergeChild_fail hb.counter_lt hr hrc
          simp only [hrc, if_false]
          exact h.of_linkFail hk ho hs hpar hrem
  | unlink idx rest =>
    cases rest with
    | nil =>
      have hl : Leaving s idx [] := hp
      exact h.of_release hk rfl hl (hq idx rfl) hl.invalid (h.noParents idx hl.invalid)
    | cons c rest =>
      simp only [Call.advance]
      split_ifs with hl
      · exact hspin
      · exact h.of_unlinkChild hk rfl rfl hp fun _ hl => hl
  | notify src st ps =>
    cases ps with
    | nil =>
      obtain ⟨rest, hc⟩ := calls_set hk s.dev s.gen s.merged .done
      exact h.of_calls hc (flight_singleton_le rfl) (newCalls_moved h hm rfl rfl rfl trivial)
    | cons p ps =>
      simp only [Call.advance]
      split_ifs with hl
      · exact hspin
      · exact h.of_notify hk
  | destroy idx children parents =>
    cases children with
    | cons c children =>
      simp only [Call.advance]
      split_ifs with hl
      · exact hspin
      · rw [h.deinitChild_eq]
        exact h.of_unlinkChild hk rfl rfl hp fun _ hl => hl
    | nil =>
      cases parents with
      | cons p parents =>
        simp only [Call.advance]
        split_ifs with hl
        · exact hspin
        · exact h.of_deinitParent hk
      | nil =>
        simp only [Call.advance]
        split_ifs with hl
        · exact hspin
        · exact h.of_release hk rfl hp (hq idx rfl) rfl rfl
  | done => exact hspin

end

end CameraKernel.SyncThreads
