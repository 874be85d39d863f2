import CameraKernel.SyncThreadsInv

/-! Signals in flight and recycled rows: what keeps a notification from hitting an
object it was not made for, and a run in which it does. -/
namespace CameraKernel.SyncThreads
open SyncTable SyncOps SyncSpec SyncInvariant MachineInt

lemma inv_probe : Inv probe := by
  have hp : ∀ c, probe.parents c = [] := fun _ => rfl
  have hi : ∀ c, probe.invalid c := fun _ => rfl
  have hc : probe.calls = [] := rfl
  refine ⟨rfl, fun x hx => absurd (hi x) hx, fun c _ => hp c, ?_, ?_, ?_, ?_, ?_, ?_, ?_⟩
  · simp [hp]
  · simp [hp]
  · intro x
    rw [waiting_card_eq_zero (by simp [hp])]
    exact le_refl _
  · exact fun x _ => ⟨by simp [hp], by simp [hc]⟩
  · simp [hc]
  · simp [hc]
  · simp [hc]

theorem Inv.step {s : Sys} (h : Inv s) (i : Choice) (hok : ReleasesQuiet s i) :
    Inv (step s i) := by
  cases i with
  | create idx clientId =>
    simp only [SyncThreads.step]
    split_ifs with hf
    · exact h.of_take hf (calls_start _ _ _ _) rfl rfl fun _ ht => ht
    · exact h
  | merge objs alloc =>
    simp only [SyncThreads.step]
    split_ifs with hbad
    · exact h
    · obtain ⟨hlen, hdup⟩ := not_or.mp hbad
      obtain ⟨harr, hnd⟩ := removeDuplicateArr_length (by omega) (not_not.mp hdup)
      rw [harr]
      exact h.of_merge objs alloc hnd
  | take k idx =>
    simp only [SyncThreads.step]
    split
    · next objs alloc hk =>
      obtain ⟨hnd, hval⟩ : objs.Nodup ∧ ∀ o ∈ objs, o ∉ ([] : List ℤ) →
          o.toNat < camSyncMaxObjs ∧ (o.toNat : ℤ) = o := h.phase _ (List.mem_of_getElem? hk)
      split_ifs with hf
      · obtain ⟨rest, hc⟩ := calls_set hk (setBit s.dev idx true) s.gen s.merged
          (.group idx (objs.map Int.toNat) alloc)
        refine h.of_take hf hc rfl rfl fun _ ht => ⟨ht, ?_, ?_⟩
        · refine List.Nodup.map_on (fun a ha b hb he => ?_) hnd
          rw [← (hval a ha (by simp)).2, ← (hval b hb (by simp)).2, he]
        · intro c hc
          obtain ⟨o, ho, rfl⟩ := List.mem_map.mp hc
          exact (hval o ho (by simp)).1
      · exact h
    · exact h
  | getObjRef obj =>
    simp only [SyncThreads.step, camSyncGetObjRef]
    split_ifs
    · exact h
    · exact h
    · exact h
    · exact h.of_refCnt _ _
  | putObjRef obj =>
    simp only [SyncThreads.step, camSyncPutObjRef]
    split_ifs
    · exact h
    · exact h.of_refCnt _ _
  | signal obj status =>
    simp only [SyncThreads.step]
    split_ifs
    · exact h
    · exact h.of_signal obj status
  | destroy obj =>
    simp only [SyncThreads.step]
    split_ifs with hr hl
    · exact h
    · exact h
    · exact h.of_destroy (by simpa using hl)
  | advance k =>
    simp only [SyncThreads.step]
    cases hk : s.calls[k]? with
    | none => exact h
    | some call => exact h.of_advance hk fun x hx => hok call hk x hx

/-- The state and the counter of row `x` are as before. -/
def Still (dev dev' : SyncDevice) (x : ℕ) : Prop :=
  (dev'.syncTable x).state = (dev.syncTable x).state ∧
    (dev'.syncTable x).remaining = (dev.syncTable x).remaining

lemma still_refl (dev : SyncDevice) (x : ℕ) : Still dev dev x := ⟨rfl, rfl⟩

lemma Still.trans {a b c : SyncDevice} {x : ℕ} (h : Still a b x) (g : Still b c x) : Still a c x :=
  ⟨g.1.trans h.1, g.2.trans h.2⟩

lemma still_setRow_ne {dev : SyncDevice} {i x : ℕ} {row : SyncTableRow} (h : x ≠ i) :
    Still dev (setRow dev i row) x := by
  simp [Still, h]

lemma still_setRow {dev : SyncDevice} {i : ℕ} {row : SyncTableRow}
    (hs : row.state = (dev.syncTable i).state) (hr : row.remaining = (dev.syncTable i).remaining)
    (x : ℕ) : Still dev (setRow dev i row) x := by
  by_cases hx : x = i
  · subst x
    simp [Still, hs, hr]
  · exact still_setRow_ne hx

lemma still_mergeChild {dev : SyncDevice} {idx c x : ℕ} {alloc : Bool × Bool} (h : x ≠ idx) :
    Still dev (mergeChild idx alloc dev c).2 x := by
  unfold mergeChild
  dsimp only
  by_cases hinvalid : (dev.syncTable c).type = .group ∨ (dev.syncTable c).state = .invalid
  · rw [if_pos hinvalid]
    exact still_refl _ _
  rw [if_neg hinvalid]
  by_cases herror : (dev.syncTable c).state = .signaledError
  · rw [if_pos herror]
    exact still_setRow_ne h
  rw [if_neg herror]
  by_cases hactive : (dev.syncTable c).state ≠ .active
  · rw [if_pos hactive]
    exact still_refl _ _
  rw [if_neg hactive]
  obtain ⟨first, second⟩ := alloc
  cases first with
  | false => exact still_setRow_ne h
  | true =>
    cases second with
    | false => exact still_setRow_ne h
    | true =>
      simp only [Bool.not_true, Bool.false_eq_true, if_false]
      refine (still_setRow_ne h).trans (still_setRow ?_ ?_ x)
      · rfl
      · rfl

lemma still_parentSection {dev : SyncDevice} {p x : ℕ} {st : SyncState} (hst : st ≠ .invalid)
    (h : x ≠ p) : Still dev (parentSection st dev p) x := by
  rw [Still, (parentSection_local dev hst).table dev p ⟨rfl, rfl, rfl⟩, Function.update_of_ne h]
  exact ⟨rfl, rfl⟩

lemma still_advance {s : Sys} (h : Inv s) {k x : ℕ} {call : Call} (hk : s.calls[k]? = some call)
    (ho : call.owner ≠ some x) (hn : ∀ src st ps, call ≠ .notify src st (x :: ps)) :
    Still s.dev (call.advance s).2.dev x := by
  cases call with
  | create idx clientId =>
    have hx : x ≠ idx := fun he => ho (he ▸ rfl)
    have ht : Taken s idx := h.phase _ (List.mem_of_getElem? hk)
    simp only [Call.advance]
    split_ifs
    · exact still_refl _ _
    · simp only [createSection, camSyncInitRow_ok ht.range]
      exact still_setRow_ne hx
  | check objs rest alloc =>
    cases rest with
    | nil => exact still_refl _ _
    | cons o rest =>
      simp only [Call.advance]
      split_ifs <;> exact still_refl _ _
  | group idx objs alloc =>
    have hx : x ≠ idx := fun he => ho (he ▸ rfl)
    have ht : Taken s idx := (h.phase _ (List.mem_of_getElem? hk)).1
    simp only [Call.advance]
    split_ifs
    · exact still_refl _ _
    · rw [camSyncInitRow_ok ht.range]
      exact still_setRow_ne hx
  | link idx linked rest alloc =>
    have hx : x ≠ idx := fun he => ho (he ▸ rfl)
    cases rest with
    | nil =>
      simp only [Call.advance, mergeFinish]
      split_ifs
      · exact still_setRow_ne hx
      · exact still_setRow_ne hx
      · exact still_refl _ _
    | cons c rest =>
      simp only [Call.advance, linkSection]
      split_ifs
      · exact still_refl _ _
      · exact still_mergeChild hx
      · exact (still_mergeChild hx).trans (still_setRow_ne hx)
  | unlink idx rest =>
    have hx : x ≠ idx := fun he => ho (he ▸ rfl)
    cases rest with
    | nil => exact still_setRow_ne hx
    | cons c rest =>
      simp only [Call.advance]
      split_ifs
      · exact still_refl _ _
      · refine still_setRow ?_ ?_ x <;> rfl
  | notify src st ps =>
    cases ps with
    | nil => exact still_refl _ _
    | cons p ps =>
      have hx : x ≠ p := fun he => hn src st ps (he ▸ rfl)
      simp only [Call.advance]
      split_ifs
      · exact still_refl _ _
      · exact still_parentSection (h.notify_current hk).1 hx
  | destroy idx children parents =>
    have hx : x ≠ idx := fun he => ho (he ▸ rfl)
    cases children with
    | cons c children =>
      simp only [Call.advance, deinitChild]
      split_ifs
      · exact still_refl _ _
      · exact still_refl _ _
      · refine still_setRow ?_ ?_ x <;> rfl
    | nil =>
      cases parents with
      | cons p parents =>
        simp only [Call.advance, deinitParent]
        split_ifs
        · exact still_refl _ _
        · exact still_refl _ _
        · refine still_setRow ?_ ?_ x <;> rfl
      | nil =>
        simp only [Call.advance]
        split_ifs
        · exact still_refl _ _
        · exact still_setRow_ne hx
  | done => exact still_refl _ _

lemma still_startSignal {s : Sys} {obj : ℤ} {status x : ℕ} (h : x ≠ obj.toNat) :
    Still s.dev (startSignal s obj status).dev x := by
  by_cases hf : ∃ st, Fires s.dev obj status st
  · obtain ⟨st, hf⟩ := hf
    simp only [startSignal, signalSection_fires hf]
    exact still_setRow_ne h
  · obtain ⟨hnone, n, hd⟩ := signalSection_quiet (not_exists.mp hf)
    simp only [startSignal, hnone, hd]
    exact still_setRow_ne h

lemma still_startDestroy {s : Sys} {idx x : ℕ} (h : x ≠ idx) :
    Still s.dev (startDestroy s idx).dev x := by
  simp only [startDestroy, deinitDetach]
  split_ifs
  · exact still_refl _ _
  · exact still_setRow_ne h

theorem Inv.noForeignHit {s : Sys} (h : Inv s) (i : Choice) : NoForeignHit s i := by
  intro x hmove
  by_contra hcause
  have hstill : Still s.dev (SyncThreads.step s i).dev x := by
    cases i with
    | create idx clientId =>
      simp only [SyncThreads.step]
      split_ifs <;> exact still_refl _ _
    | merge objs alloc =>
      simp only [SyncThreads.step]
      split_ifs <;> exact still_refl _ _
    | take k idx =>
      simp only [SyncThreads.step]
      split
      · split_ifs <;> exact still_refl _ _
      · exact still_refl _ _
    | getObjRef obj =>
      simp only [SyncThreads.step, camSyncGetObjRef]
      split_ifs
      · exact still_refl _ _
      · exact still_refl _ _
      · exact still_refl _ _
      · refine still_setRow ?_ ?_ x <;> rfl
    | putObjRef obj =>
      simp only [SyncThreads.step, camSyncPutObjRef]
      split_ifs
      · exact still_refl _ _
      · refine still_setRow ?_ ?_ x <;> rfl
    | signal obj status =>
      have hx : x ≠ obj.toNat := fun he => hcause (.signal he.symm)
      simp only [SyncThreads.step]
      split_ifs
      · exact still_refl _ _
      · exact still_startSignal hx
    | destroy obj =>
      have hx : x ≠ obj.toNat := fun he => hcause (.destroy he.symm)
      simp only [SyncThreads.step]
      split_ifs
      · exact still_refl _ _
      · exact still_refl _ _
      · exact still_startDestroy hx
    | advance k =>
      simp only [SyncThreads.step]
      cases hk : s.calls[k]? with
      | none => exact still_refl _ _
      | some call =>
        refine still_advance h hk (fun ho => hcause (.owner hk ho)) ?_
        rintro src st ps rfl
        obtain ⟨-, hm, hr⟩ := h.notify_current hk
        exact hcause (.notified hk hm hr)
  rcases hmove with ⟨ha, hn⟩ | hr
  · exact hn (hstill.1.trans ha)
  · exact hr hstill.2

/-- In every interleaving in which no index is given back while a notification for
it is in flight, no step hits a foreign object. -/
theorem noForeignHit_of_releasesQuiet (is : List Choice)
    (h : Transition.Guarded step ReleasesQuiet probe is) :
    Transition.Guarded step NoForeignHit probe is := by
  have key : ∀ s, Inv s → Transition.Guarded step ReleasesQuiet s is →
      Transition.Guarded step NoForeignHit s is := by
    clear h
    induction is with
    | nil => exact fun _ _ _ => trivial
    | cons i is ih => exact fun s hs hg => ⟨hs.noForeignHit i, ih _ (hs.step i hg.1) hg.2⟩
  exact key probe inv_probe h

/-- Two fences and their group, each call run to its end. -/
def buildGroup : List Choice :=
  [.create 1 0, .advance 0, .create 2 0, .advance 1,
    .merge [1, 2] (fun _ => (true, true)), .advance 2, .advance 2, .take 2 3,
    .advance 2, .advance 2, .advance 2, .advance 2]

/-- The first fence is signaled and its group notified, then the group destroyed. -/
def notifyThenDestroy : List Choice :=
  buildGroup ++ [Choice.getObjRef 1, .signal 1 2, .advance 3, .destroy 3, .advance 4, .advance 4, .advance 4]

theorem notifyThenDestroy_noForeignHit :
    Transition.Guarded step ReleasesQuiet probe notifyThenDestroy ∧
    ((Transition.run step probe notifyThenDestroy).dev.bitmap 3 = false) ∧
    Transition.Guarded step NoForeignHit probe notifyThenDestroy := by
  have hg : Transition.Guarded step ReleasesQuiet probe notifyThenDestroy := by decide +kernel
  exact ⟨hg, by decide +kernel, noForeignHit_of_releasesQuiet _ hg⟩

/-- The group is destroyed and its row reused with the notification still in
flight. -/
def recycleInFlight : List Choice :=
  buildGroup ++ [Choice.getObjRef 1, .signal 1 2, .destroy 3, .advance 4, .advance 4, .advance 4,
    .create 3 0, .advance 5]

theorem recycleInFlight_foreignHit :
    ¬ Transition.Guarded step NoForeignHit probe (recycleInFlight ++ [Choice.advance 3]) := by
  rw [Transition.guarded_append]
  rintro ⟨-, hlast, -⟩
  generalize hs : Transition.run step probe recycleInFlight = s at hlast
  have hbefore : (s.dev.syncTable 3).type = .indv ∧ (s.dev.syncTable 3).state = .active ∧
      s.merged = [(⟨2, 1⟩, ⟨3, 1⟩), (⟨1, 1⟩, ⟨3, 1⟩)] ∧ s.occupant 3 = ⟨3, 2⟩ := by
    rw [← hs]
    decide +kernel
  have hafter : ((step s (.advance 3)).dev.syncTable 3).state ≠ .active := by
    rw [← hs]
    decide +kernel
  obtain ⟨-, hactive, hmerged, hocc⟩ := hbefore
  cases hlast 3 (Or.inl ⟨hactive, hafter⟩) with
  | notified hk hm hr =>
    rw [hmerged, hocc] at hm
    simp at hm
  | owner hk ho =>
    have hnone : (s.calls[3]?.bind Call.owner) = none := by
      rw [← hs]
      decide +kernel
    rw [hk, Option.bind_some, ho] at hnone
    cases hnone

end CameraKernel.SyncThreads
