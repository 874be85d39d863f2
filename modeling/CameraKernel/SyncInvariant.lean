import CameraKernel.SyncSpec

/-! The table invariant of the sync driver. It holds in every run in which no
object is destroyed while a group still waits for it. -/
namespace CameraKernel.SyncInvariant
open SyncTable SyncOps SyncSpec MachineInt

/-- The rows that still list group `g` among their parents. -/
def waiting (dev : SyncDevice) (g : ℕ) : Finset ℕ :=
  (Finset.range camSyncMaxObjs).filter fun c => g ∈ (dev.syncTable c).parentsList

/-- A row that is done: signaled, nothing to wait for, its callbacks gone. -/
structure Settled (row : SyncTableRow) : Prop where
  state : row.state = .signaledSuccess ∨ row.state = .signaledError
  signaled : row.signaled = true
  callbackList : row.callbackList = []

structure TableInv (dev : SyncDevice) : Prop where
  bitZero : dev.bitmap 0 = true
  live : ∀ i, (dev.syncTable i).state ≠ .invalid →
    0 < i ∧ i < camSyncMaxObjs ∧ dev.bitmap i = true
  child : ∀ c p, p ∈ (dev.syncTable c).parentsList →
    (dev.syncTable c).state = .active ∧ (dev.syncTable c).type = .indv
  parent : ∀ c p, p ∈ (dev.syncTable c).parentsList →
    (dev.syncTable p).state ≠ .invalid ∧ (dev.syncTable p).type = .group ∧
      c ∈ (dev.syncTable p).childrenList
  parentsNodup : ∀ c, (dev.syncTable c).parentsList.Nodup
  childrenNodup : ∀ p, (dev.syncTable p).childrenList.Nodup
  childrenPos : ∀ p, 0 ∉ (dev.syncTable p).childrenList
  count : ∀ g, (dev.syncTable g).type = .group → (dev.syncTable g).state ≠ .invalid →
    (dev.syncTable g).remaining = (waiting dev g).card
  done : ∀ g, (dev.syncTable g).type = .group → (dev.syncTable g).state ≠ .invalid →
    (dev.syncTable g).remaining = 0 → Settled (dev.syncTable g)

section
variable {dev dev' : SyncDevice}

lemma mem_waiting {g c : ℕ} : c ∈ waiting dev g ↔
    c < camSyncMaxObjs ∧ g ∈ (dev.syncTable c).parentsList := by
  simp [waiting]

lemma TableInv.invalid_of_free (h : TableInv dev) {i : ℕ} (hi : dev.bitmap i = false) :
    (dev.syncTable i).state = .invalid := by
  by_contra hne
  have := (h.live i hne).2.2
  simp [hi] at this

lemma TableInv.parentsList_invalid (h : TableInv dev) {i : ℕ}
    (hi : (dev.syncTable i).state = .invalid) : (dev.syncTable i).parentsList = [] := by
  rw [List.eq_nil_iff_forall_not_mem]
  intro p hp
  have := (h.child i p hp).1
  simp [hi] at this

lemma TableInv.notMem_parents (h : TableInv dev) {i : ℕ}
    (hi : (dev.syncTable i).state = .invalid) (c : ℕ) : i ∉ (dev.syncTable c).parentsList :=
  fun hm => (h.parent c i hm).1 hi

lemma TableInv.lt_of_mem (h : TableInv dev) {c p : ℕ}
    (hp : p ∈ (dev.syncTable c).parentsList) : c < camSyncMaxObjs :=
  (h.live c (by rw [(h.child c p hp).1]; decide)).2.1

/-- The parts of a row the invariant looks at. -/
structure SameLinks (row row' : SyncTableRow) : Prop where
  type : row'.type = row.type
  state : row'.state = row.state
  parentsList : row'.parentsList = row.parentsList
  childrenList : row'.childrenList = row.childrenList
  remaining : row'.remaining = row.remaining
  signaled : row'.signaled = row.signaled
  callbackList : SyncTableRow.complete row = true → row.callbackList = [] → row'.callbackList = []

lemma SameLinks.refl (row : SyncTableRow) : SameLinks row row :=
  ⟨rfl, rfl, rfl, rfl, rfl, rfl, fun _ h => h⟩

theorem TableInv.of_sameLinks (h : TableInv dev) (hb : dev'.bitmap = dev.bitmap)
    (hl : ∀ i, SameLinks (dev.syncTable i) (dev'.syncTable i)) : TableInv dev' := by
  have hw : ∀ g, waiting dev' g = waiting dev g := by
    intro g
    simp only [waiting, (hl _).parentsList]
  constructor
  · rw [hb]
    exact h.bitZero
  · intro i hi
    rw [hb]
    rw [(hl i).state] at hi
    exact h.live i hi
  · intro c p hp
    rw [(hl c).parentsList] at hp
    rw [(hl c).state, (hl c).type]
    exact h.child c p hp
  · intro c p hp
    rw [(hl c).parentsList] at hp
    rw [(hl p).state, (hl p).type, (hl p).childrenList]
    exact h.parent c p hp
  · intro c
    rw [(hl c).parentsList]
    exact h.parentsNodup c
  · intro p
    rw [(hl p).childrenList]
    exact h.childrenNodup p
  · intro p
    rw [(hl p).childrenList]
    exact h.childrenPos p
  · intro g ht hs
    rw [(hl g).type] at ht
    rw [(hl g).state] at hs
    rw [(hl g).remaining, hw]
    exact h.count g ht hs
  · intro g ht hs hr
    rw [(hl g).type] at ht
    rw [(hl g).state] at hs
    rw [(hl g).remaining] at hr
    have hd := h.done g ht hs hr
    have hc : SyncTableRow.complete (dev.syncTable g) = true := by
      simp [SyncTableRow.complete, hd.state, hr]
    exact ⟨by rw [(hl g).state]; exact hd.state, by rw [(hl g).signaled]; exact hd.signaled,
      (hl g).callbackList hc hd.callbackList⟩

lemma sameLinks_setRow {i : ℕ} {row : SyncTableRow} (h : SameLinks (dev.syncTable i) row) (j : ℕ) :
    SameLinks (dev.syncTable j) ((setRow dev i row).syncTable j) := by
  by_cases hj : j = i
  · subst j
    rwa [setRow_self]
  · rw [setRow_ne _ _ _ _ hj]
    exact SameLinks.refl _

theorem TableInv.replace (h : TableInv dev) {idx : ℕ}
    (hi : (dev.syncTable idx).state = .invalid)
    (hsame : ∀ c, c ≠ idx → dev'.syncTable c = dev.syncTable c)
    (hp : (dev'.syncTable idx).parentsList = []) (hc : (dev'.syncTable idx).childrenList = [])
    (ht : (dev'.syncTable idx).state = .invalid ∨ (dev'.syncTable idx).type = .indv)
    (hz : dev'.bitmap 0 = true)
    (hl : ∀ i, (dev'.syncTable i).state ≠ .invalid →
      0 < i ∧ i < camSyncMaxObjs ∧ dev'.bitmap i = true) : TableInv dev' := by
  have hpar : ∀ c, (dev'.syncTable c).parentsList = (dev.syncTable c).parentsList := by
    intro c
    by_cases hne : c = idx
    · rw [hne, hp, h.parentsList_invalid hi]
    · rw [hsame c hne]
  have hw : ∀ g, waiting dev' g = waiting dev g := fun g => by simp only [waiting, hpar]
  have hnot : ∀ c p, p ∈ (dev.syncTable c).parentsList → c ≠ idx ∧ p ≠ idx := by
    intro c p hm
    refine ⟨fun he => ?_, fun he => h.notMem_parents hi c (he ▸ hm)⟩
    simp [he, h.parentsList_invalid hi] at hm
  have hgroup : ∀ g, (dev'.syncTable g).type = .group → (dev'.syncTable g).state ≠ .invalid →
      g ≠ idx := by
    rintro g hg hs rfl
    rcases ht with ht | ht
    · exact hs ht
    · simp [ht] at hg
  constructor
  · exact hz
  · exact hl
  · intro c p hm
    rw [hpar] at hm
    rw [hsame c (hnot c p hm).1]
    exact h.child c p hm
  · intro c p hm
    rw [hpar] at hm
    rw [hsame p (hnot c p hm).2]
    exact h.parent c p hm
  · intro c
    rw [hpar]
    exact h.parentsNodup c
  · intro p
    by_cases hne : p = idx
    · rw [hne, hc]
      exact List.nodup_nil
    · rw [hsame p hne]
      exact h.childrenNodup p
  · intro p
    by_cases hne : p = idx
    · simp [hne, hc]
    · rw [hsame p hne]
      exact h.childrenPos p
  · intro g hg hs
    have hne := hgroup g hg hs
    rw [hsame g hne] at hg hs ⊢
    rw [hw]
    exact h.count g hg hs
  · intro g hg hs
    have hne := hgroup g hg hs
    rw [hsame g hne] at hg hs ⊢
    exact h.done g hg hs

lemma TableInv.create (h : TableInv dev) (clientId : ℕ) :
    TableInv (camSyncCreate dev clientId).2 := by
  rcases camSyncCreate_spec dev clientId h.bitZero with ⟨e, he⟩ | ⟨idx, ⟨hpos, hlt⟩, hbit, he⟩
  · rw [he]
    exact h
  · rw [he]
    refine h.replace (h.invalid_of_free hbit) (fun c hc => setRow_ne _ _ _ _ hc) (by simp [initRow, zeroRow])
      (by simp [initRow, zeroRow]) (Or.inr (by simp [initRow])) ?_ ?_
    · simp [setBit_apply, h.bitZero]
    · intro i hi
      by_cases hne : i = idx
      · simp [hne, hpos, hlt, setBit_apply]
      · rw [setRow_ne _ _ _ _ hne] at hi
        simpa [setBit_apply, hne] using h.live i hi

lemma TableInv.aborted (h : TableInv dev) {idx : ℕ} (ha : Aborted dev idx dev') :
    TableInv dev' := by
  refine h.replace (h.invalid_of_free ha.free) ha.others ha.parentsList ha.childrenList
    (Or.inl ha.state) ?_ ?_
  · rw [ha.outside.bitmap]
    exact h.bitZero
  · intro i hi
    have hne : i ≠ idx := fun he => hi (he ▸ ha.state)
    rw [ha.others i hne] at hi
    rw [ha.outside.bitmap]
    exact h.live i hi

/-- What a live parent row becomes when a child reports. -/
structure CountedDown (row row' : SyncTableRow) : Prop where
  type : row'.type = row.type
  state : row'.state = .signaledSuccess ∨ row'.state = .signaledError
  parentsList : row'.parentsList = row.parentsList
  childrenList : row'.childrenList = row.childrenList
  remaining : row'.remaining = row.remaining - 1
  settled : row'.remaining = 0 → Settled row'

lemma parentRow_countedDown {row : SyncTableRow} {st : SyncState} (eventq : Bool)
    (hst : st = .signaledSuccess ∨ st = .signaledError) (hl : row.state ≠ .invalid)
    (hr : 0 < row.remaining) : CountedDown row (parentRow eventq st row) := by
  obtain ⟨st', hu, hst'⟩ : ∃ st', camSyncUtilUpdateParentState row.state st = some st' ∧
      (st' = .signaledSuccess ∨ st' = .signaledError) := by
    cases hs : row.state with
    | invalid => exact absurd hs hl
    | active => exact ⟨st, rfl, hst⟩
    | signaledSuccess => exact ⟨st, rfl, hst⟩
    | signaledError => exact ⟨_, rfl, Or.inr rfl⟩
  have hdec : (countDown row).remaining = row.remaining - 1 := u32Dec_of_pos hr
  unfold parentRow
  rw [hu]
  dsimp only
  split_ifs with hz
  · exact ⟨rfl, hst', rfl, rfl, hdec, fun _ => ⟨hst', rfl, rfl⟩⟩
  · exact ⟨rfl, hst', rfl, rfl, hdec, fun he => absurd he hz⟩

section Signal
variable {i : ℕ} {st : SyncState} (h : TableInv dev)
  (hst : st = .signaledSuccess ∨ st = .signaledError) (hs : Signaled dev i st dev')

include h in
lemma TableInv.mem_waiting_of_mem {p : ℕ} (hp : p ∈ (dev.syncTable i).parentsList) :
    i ∈ waiting dev p :=
  mem_waiting.mpr ⟨h.lt_of_mem hp, hp⟩

include h hst hs in
lemma TableInv.countedDown {p : ℕ} (hp : p ∈ (dev.syncTable i).parentsList) :
    CountedDown (dev.syncTable p) (dev'.syncTable p) := by
  obtain ⟨hpl, hpt, -⟩ := h.parent i p hp
  rw [hs.parents p hp]
  refine parentRow_countedDown _ hst hpl ?_
  rw [h.count p hpt hpl]
  exact Finset.card_pos.mpr ⟨i, h.mem_waiting_of_mem hp⟩

include h hst hs in
lemma TableInv.rows_signaled {x : ℕ} (hx : x ≠ i) :
    (dev'.syncTable x).type = (dev.syncTable x).type ∧
    (dev'.syncTable x).parentsList = (dev.syncTable x).parentsList ∧
    (dev'.syncTable x).childrenList = (dev.syncTable x).childrenList ∧
    ((dev'.syncTable x).state = .invalid ↔ (dev.syncTable x).state = .invalid) := by
  by_cases hxp : x ∈ (dev.syncTable i).parentsList
  · have hd := h.countedDown hst hs hxp
    refine ⟨hd.type, hd.parentsList, hd.childrenList, ?_⟩
    have h1 := (h.parent i x hxp).1
    rcases hd.state with h2 | h2 <;> simp [h1, h2]
  · rw [hs.others x hx hxp]
    simp

include h hst hs in
lemma TableInv.parents_signaled (c p : ℕ) : p ∈ (dev'.syncTable c).parentsList ↔
    c ≠ i ∧ p ∈ (dev.syncTable c).parentsList := by
  by_cases hc : c = i
  · have hi : (dev'.syncTable i).parentsList = [] := by
      rw [hs.self]
      rfl
    simp [hc, hi]
  · simp [hc, (h.rows_signaled hst hs hc).2.1]

end Signal

lemma TableInv.signaled (h : TableInv dev) {i : ℕ} {st : SyncState}
    (hst : st = .signaledSuccess ∨ st = .signaledError)
    (ha : (dev.syncTable i).state = .active) (ht : (dev.syncTable i).type = .indv)
    (hs : Signaled dev i st dev') : TableInv dev' := by
  have hlive : (dev.syncTable i).state ≠ .invalid := by simp [ha]
  have hmem : ∀ p ∈ (dev.syncTable i).parentsList, i ∈ waiting dev p :=
    fun p hp => h.mem_waiting_of_mem hp
  have hdown : ∀ p ∈ (dev.syncTable i).parentsList,
      CountedDown (dev.syncTable p) (dev'.syncTable p) := fun p hp => h.countedDown hst hs hp
  have hrows := fun x (hx : x ≠ i) => h.rows_signaled hst hs hx
  have hpar := h.parents_signaled hst hs
  have hi : (dev'.syncTable i).type = .indv ∧ (dev'.syncTable i).parentsList = [] ∧
      (dev'.syncTable i).childrenList = (dev.syncTable i).childrenList := by
    rw [hs.self]
    exact ⟨ht, rfl, rfl⟩
  have hw : ∀ g, waiting dev' g = (waiting dev g).erase i := by
    intro g
    ext c
    simp only [mem_waiting, Finset.mem_erase, hpar]
    tauto
  have hne : ∀ g, (dev'.syncTable g).type = .group → g ≠ i := by
    rintro g hg rfl
    simp [hi.1] at hg
  constructor
  · rw [hs.config.bitmap]
    exact h.bitZero
  · intro x hx
    rw [hs.config.bitmap]
    by_cases hxi : x = i
    · exact hxi ▸ h.live i hlive
    · exact h.live x fun he => hx ((hrows x hxi).2.2.2.mpr he)
  · intro c p hp
    obtain ⟨hc, hp⟩ := (hpar c p).mp hp
    have hcp : c ∉ (dev.syncTable i).parentsList := by
      intro hm
      have := (h.parent i c hm).2.1
      simp [(h.child c p hp).2] at this
    rw [hs.others c hc hcp]
    exact h.child c p hp
  · intro c p hp
    obtain ⟨hc, hp⟩ := (hpar c p).mp hp
    obtain ⟨hpl, hpt, hpc⟩ := h.parent c p hp
    have hpi : p ≠ i := by
      rintro rfl
      simp [ht] at hpt
    rw [(hrows p hpi).1, (hrows p hpi).2.2.1, ne_eq, (hrows p hpi).2.2.2]
    exact ⟨hpl, hpt, hpc⟩
  · intro c
    by_cases hc : c = i
    · rw [hc, hi.2.1]
      exact List.nodup_nil
    · rw [(hrows c hc).2.1]
      exact h.parentsNodup c
  · intro p
    by_cases hp : p = i
    · rw [hp, hi.2.2]
      exact h.childrenNodup i
    · rw [(hrows p hp).2.2.1]
      exact h.childrenNodup p
  · intro p
    by_cases hp : p = i
    · rw [hp, hi.2.2]
      exact h.childrenPos i
    · rw [(hrows p hp).2.2.1]
      exact h.childrenPos p
  · intro g hg hgl
    have hgi := hne g hg
    rw [(hrows g hgi).1] at hg
    rw [ne_eq, (hrows g hgi).2.2.2] at hgl
    have hc := h.count g hg hgl
    rw [hw]
    by_cases hgp : g ∈ (dev.syncTable i).parentsList
    · rw [(hdown g hgp).remaining, Finset.card_erase_of_mem (hmem g hgp), hc]
    · have hni : i ∉ waiting dev g := fun hm => hgp (mem_waiting.mp hm).2
      rw [hs.others g hgi hgp, Finset.erase_eq_of_notMem hni, hc]
  · intro g hg hgl hr
    have hgi := hne g hg
    by_cases hgp : g ∈ (dev.syncTable i).parentsList
    · exact (hdown g hgp).settled hr
    · rw [hs.others g hgi hgp] at hg hgl hr ⊢
      exact h.done g hg hgl hr

lemma TableInv.parents_merged (h : TableInv dev) {idx : ℕ} {l : List ℕ} (hm : Merged dev idx l dev')
    (c p : ℕ) : p ∈ (dev'.syncTable c).parentsList ↔
      p ∈ (dev.syncTable c).parentsList ∨ p = idx ∧ c ∈ activeOf dev l := by
  by_cases hc : c = idx
  · have hno : idx ∉ activeOf dev l := fun ha => hm.notMem (mem_activeOf.mp ha).1
    simp [hc, hm.parentsList, h.parentsList_invalid (h.invalid_of_free hm.free), hno]
  · rw [hm.others c hc]
    by_cases ha : c ∈ activeOf dev l <;> simp [ha, linked]

lemma TableInv.merged (h : TableInv dev) {idx : ℕ} {l : List ℕ} (hm : Merged dev idx l dev') :
    TableInv dev' := by
  have hinv := h.invalid_of_free hm.free
  have hnot := h.notMem_parents hinv
  have hpar := h.parents_merged hm
  have hst : ∀ c, c ≠ idx → (dev'.syncTable c).state = (dev.syncTable c).state := by
    intro c hc
    obtain ⟨ps, he⟩ := hm.frame hc
    rw [he]
  have hidx : (dev'.syncTable idx).state ≠ .invalid := by
    rw [hm.state]
    split_ifs <;> decide
  have hw : ∀ g, g ≠ idx → waiting dev' g = waiting dev g := by
    intro g hg
    ext c
    simp [mem_waiting, hpar, hg]
  have hwi : waiting dev' idx = (activeOf dev l).toFinset := by
    ext c
    simp only [mem_waiting, hpar, hnot, false_or, true_and, List.mem_toFinset]
    refine ⟨fun hc => hc.2, fun hc => ⟨?_, hc⟩⟩
    exact (h.live c (hm.children c (mem_activeOf.mp hc).1).2.2).2.1
  have hnd : (activeOf dev l).Nodup := hm.nodup.filter _
  constructor
  · rw [hm.bitmap, Function.update_of_ne hm.range.1.ne]
    exact h.bitZero
  · intro x hx
    rw [hm.bitmap]
    by_cases hxi : x = idx
    · simp [hxi, hm.range]
    · rw [hst x hxi] at hx
      simpa [hxi] using h.live x hx
  · intro c p hp
    have hc : c ≠ idx := by
      rintro rfl
      simp [hm.parentsList] at hp
    obtain ⟨ps, he⟩ := hm.frame hc
    rw [he]
    rcases (hpar c p).mp hp with hp | ⟨-, ha⟩
    · exact h.child c p hp
    · exact ⟨(mem_activeOf.mp ha).2, (hm.children c (mem_activeOf.mp ha).1).2.1⟩
  · intro c p hp
    rcases (hpar c p).mp hp with hp | ⟨rfl, ha⟩
    · have hpi : p ≠ idx := fun he => hnot c (he ▸ hp)
      obtain ⟨ps, he⟩ := hm.frame hpi
      rw [he]
      exact h.parent c p hp
    · exact ⟨hidx, hm.type, by rw [hm.childrenList]; exact ha⟩
  · intro c
    by_cases hc : c = idx
    · rw [hc, hm.parentsList]
      exact List.nodup_nil
    · rw [hm.others c hc]
      split_ifs
      · refine List.nodup_append.mpr ⟨h.parentsNodup c, List.nodup_singleton _, ?_⟩
        intro a ha b hb he
        exact hnot c (List.mem_singleton.mp hb ▸ he ▸ ha)
      · exact h.parentsNodup c
  · intro p
    by_cases hp : p = idx
    · rw [hp, hm.childrenList]
      exact hnd
    · obtain ⟨ps, he⟩ := hm.frame hp
      rw [he]
      exact h.childrenNodup p
  · intro p
    by_cases hp : p = idx
    · rw [hp, hm.childrenList]
      intro hz
      exact absurd (h.live 0 (hm.children 0 (mem_activeOf.mp hz).1).2.2).1 (lt_irrefl 0)
    · obtain ⟨ps, he⟩ := hm.frame hp
      rw [he]
      exact h.childrenPos p
  · intro g hg hgl
    by_cases hgi : g = idx
    · rw [hgi, hm.remaining, hwi, List.toFinset_card_of_nodup hnd]
    · rw [hw g hgi]
      obtain ⟨ps, he⟩ := hm.frame hgi
      rw [he] at hg hgl ⊢
      exact h.count g hg hgl
  · intro g hg hgl hr
    by_cases hgi : g = idx
    · subst g
      rw [hm.remaining, List.length_eq_zero_iff] at hr
      refine ⟨?_, by simp [hm.signaled, hr], hm.callbackList⟩
      rw [hm.state, if_pos hr]
      split_ifs
      · exact Or.inr rfl
      · exact Or.inl rfl
    · obtain ⟨ps, he⟩ := hm.frame hgi
      rw [he] at hg hgl hr ⊢
      have hd := h.done g hg hgl hr
      exact ⟨hd.state, hd.signaled, hd.callbackList⟩

lemma TableInv.parents_destroyed (h : TableInv dev) {idx : ℕ} (hd : Destroyed dev idx dev')
    {c : ℕ} (hc : c ≠ idx) :
    (dev'.syncTable c).parentsList = (dev.syncTable c).parentsList.erase idx := by
  rw [hd.others c hc]
  by_cases hm : idx ∈ (dev.syncTable c).parentsList
  · have ha := (h.child c idx hm).1
    have hch := (h.parent c idx hm).2.2
    simp [ha, hch]
  · simp only [List.erase_of_not_mem hm, ite_self]
    split_ifs <;> rfl

lemma TableInv.destroyed (h : TableInv dev) {idx : ℕ} (hd : Destroyed dev idx dev')
    (hempty : (dev.syncTable idx).parentsList = []) : TableInv dev' := by
  have hrow : ∀ c, c ≠ idx → ∃ ps, dev'.syncTable c = { dev.syncTable c with parentsList := ps } := by
    intro c hc
    rw [hd.others c hc, hempty]
    by_cases hi : (dev.syncTable c).state = .invalid
    · exact ⟨_, if_pos hi⟩
    · exact ⟨_, by rw [if_neg hi]; simp only [List.not_mem_nil, if_false]; rfl⟩
  have hself : (dev'.syncTable idx).state = .invalid := by
    rw [hd.self]
    rfl
  have hpar : ∀ c p, p ∈ (dev'.syncTable c).parentsList ↔
      p ≠ idx ∧ p ∈ (dev.syncTable c).parentsList := by
    intro c p
    by_cases hc : c = idx
    · simp [hc, hd.self, hempty, zeroRow]
    · rw [h.parents_destroyed hd hc, (h.parentsNodup c).mem_erase_iff]
  have hw : ∀ g, g ≠ idx → waiting dev' g = waiting dev g := by
    intro g hg
    ext c
    simp [mem_waiting, hpar, hg]
  have hne : ∀ g, (dev'.syncTable g).state ≠ .invalid → g ≠ idx := fun g hg he => hg (he ▸ hself)
  constructor
  · rw [hd.bitmap, Function.update_of_ne hd.range.1.ne]
    exact h.bitZero
  · intro x hx
    have hxi := hne x hx
    obtain ⟨ps, he⟩ := hrow x hxi
    rw [he] at hx
    rw [hd.bitmap, Function.update_of_ne hxi]
    exact h.live x hx
  · intro c p hp
    have hc : c ≠ idx := by
      rintro rfl
      simp [hd.self, zeroRow] at hp
    obtain ⟨ps, he⟩ := hrow c hc
    have := h.child c p ((hpar c p).mp hp).2
    rw [he]
    exact this
  · intro c p hp
    obtain ⟨hpi, hp⟩ := (hpar c p).mp hp
    obtain ⟨ps, he⟩ := hrow p hpi
    rw [he]
    exact h.parent c p hp
  · intro c
    by_cases hc : c = idx
    · rw [hc, hd.self]
      exact List.nodup_nil
    · rw [h.parents_destroyed hd hc]
      exact (h.parentsNodup c).erase idx
  · intro p
    by_cases hp : p = idx
    · rw [hp, hd.self]
      exact List.nodup_nil
    · obtain ⟨ps, he⟩ := hrow p hp
      rw [he]
      exact h.childrenNodup p
  · intro p
    by_cases hp : p = idx
    · rw [hp, hd.self]
      exact List.not_mem_nil
    · obtain ⟨ps, he⟩ := hrow p hp
      rw [he]
      exact h.childrenPos p
  · intro g hg hgl
    have hgi := hne g hgl
    obtain ⟨ps, he⟩ := hrow g hgi
    rw [he] at hg hgl
    rw [hw g hgi, he]
    exact h.count g hg hgl
  · intro g hg hgl hr
    obtain ⟨ps, he⟩ := hrow g (hne g hgl)
    rw [he] at hg hgl hr ⊢
    have hs := h.done g hg hgl hr
    exact ⟨hs.state, hs.signaled, hs.callbackList⟩

/-- The side condition of the run: no object is destroyed while it still lists a
parent. -/
def DestroysDetached (dev : SyncDevice) : SyncOp → Prop
  | .destroy obj => (dev.syncTable obj.toNat).parentsList = []
  | _ => True

lemma tableInv_probe : TableInv camSyncProbe := by
  constructor <;> simp [camSyncProbe, zeroRow]

lemma TableInv.setRow (h : TableInv dev) {i : ℕ} {row : SyncTableRow}
    (hl : SameLinks (dev.syncTable i) row) : TableInv (setRow dev i row) :=
  h.of_sameLinks rfl (sameLinks_setRow hl)

lemma TableInv.signal (h : TableInv dev) (obj : ℤ) (status : ℕ) :
    TableInv (camSyncSignal dev obj status).2 := by
  by_cases hf : ∃ st, Fires dev obj status st
  · obtain ⟨st, hf⟩ := hf
    have hself : obj.toNat ∉ (dev.syncTable obj.toNat).parentsList := by
      intro hm
      have := (h.parent _ _ hm).2.1
      simp [hf.indv] at this
    exact h.signaled (signalStatus_ne hf.status) hf.active hf.indv
      (camSyncSignal_spec hf (h.parentsNodup _) hself)
  · obtain ⟨n, he⟩ := camSyncSignal_quiet (not_exists.mp hf)
    rw [he]
    exact h.setRow ⟨rfl, rfl, rfl, rfl, rfl, rfl, fun _ he => he⟩

lemma TableInv.merge (h : TableInv dev) (objs : List ℤ) (alloc : ℕ → Bool × Bool) :
    TableInv (camSyncMerge dev objs alloc).2 := by
  have hfree : ∀ i c, dev.bitmap i = false → i ∉ (dev.syncTable c).parentsList :=
    fun i c hi => h.notMem_parents (h.invalid_of_free hi) c
  rcases camSyncMerge_spec dev objs alloc h.bitZero hfree with
    ⟨idx, d, he, hm⟩ | ⟨e, d, he, rfl | ⟨idx, ha⟩⟩
  · rw [he]
    exact h.merged hm
  · rw [he]
    exact h
  · rw [he]
    exact h.aborted ha

lemma TableInv.registerCallback (h : TableInv dev) (cb : SyncCallback) (obj : ℤ) (alloc : Bool) :
    TableInv (camSyncRegisterCallback dev cb obj alloc).2 := by
  unfold camSyncRegisterCallback
  dsimp only
  split_ifs with h1 h2 h3 h4
  · exact h
  · exact h
  · exact h
  · exact h.of_sameLinks rfl fun i => SameLinks.refl _
  · exact h.of_sameLinks rfl fun i => SameLinks.refl _
  · exact h.setRow ⟨rfl, rfl, rfl, rfl, rfl, rfl, fun hc => absurd hc h4⟩

theorem TableInv.step (h : TableInv dev) (op : SyncOp) (hok : DestroysDetached dev op) :
    TableInv (step dev op) := by
  cases op with
  | create clientId => exact h.create clientId
  | merge objs alloc => exact h.merge objs alloc
  | getObjRef obj =>
    simp only [SyncOps.step, camSyncGetObjRef]
    split_ifs
    · exact h
    · exact h
    · exact h.setRow ⟨rfl, rfl, rfl, rfl, rfl, rfl, fun _ he => he⟩
  | putObjRef obj =>
    simp only [SyncOps.step, camSyncPutObjRef]
    split_ifs
    · exact h
    · exact h.setRow ⟨rfl, rfl, rfl, rfl, rfl, rfl, fun _ he => he⟩
  | signal obj status => exact h.signal obj status
  | destroy obj =>
    rcases camSyncDestroy_spec dev obj (fun i => ⟨h.childrenNodup i, h.childrenPos i⟩)
      (fun i => ⟨h.parentsNodup i, h.notMem_parents (by_contra fun he =>
        absurd (h.live 0 he).1 (lt_irrefl 0)) i⟩) with he | hd
    · rw [SyncOps.step, he]
      exact h
    · exact h.destroyed hd hok
  | registerCallback cb obj alloc => exact h.registerCallback cb obj alloc
  | deregisterCallback cb obj =>
    simp only [SyncOps.step, camSyncDeregisterCallback]
    split_ifs
    · exact h
    · exact h
    · exact h.setRow ⟨rfl, rfl, rfl, rfl, rfl, rfl, fun _ he => by simp [he]⟩
    · exact h.setRow ⟨rfl, rfl, rfl, rfl, rfl, rfl, fun _ he => by simp [he]⟩

theorem tableInv_run {ops : List SyncOp}
    (h : Transition.Guarded SyncOps.step DestroysDetached camSyncProbe ops) :
    TableInv (Transition.run SyncOps.step camSyncProbe ops) :=
  Transition.run_invariant (fun _ op hs hok => hs.step op hok) tableInv_probe h

end

end CameraKernel.SyncInvariant
