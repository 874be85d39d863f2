import CameraKernel.SyncIoctl
import CameraKernel.SyncInvariant

/-! What every run of the fence driver keeps of its links, also when objects are destroyed
while a group waits for them: parent links lead to live groups that list the child, and a
group never counts fewer children than wait for it. -/
namespace CameraKernel.SyncLinks
open SyncTable SyncOps SyncSpec SyncInvariant SyncIoctl MachineInt

structure LinkInv (dev : SyncDevice) : Prop where
  bitZero : dev.bitmap 0 = true
  range : ∀ i, dev.bitmap i = true → i < camSyncMaxObjs
  live : ∀ i, (dev.syncTable i).state ≠ .invalid ↔ 0 < i ∧ dev.bitmap i = true
  child : ∀ c p, p ∈ (dev.syncTable c).parentsList →
    (dev.syncTable c).state = .active ∧ (dev.syncTable c).type = .indv
  parent : ∀ c p, p ∈ (dev.syncTable c).parentsList →
    (dev.syncTable p).state ≠ .invalid ∧ (dev.syncTable p).type = .group ∧
      c ∈ (dev.syncTable p).childrenList
  parentsNodup : ∀ c, (dev.syncTable c).parentsList.Nodup
  childrenNodup : ∀ p, (dev.syncTable p).childrenList.Nodup
  childrenPos : ∀ p, 0 ∉ (dev.syncTable p).childrenList
  indv : ∀ i, (dev.syncTable i).state ≠ .invalid → (dev.syncTable i).type = .indv →
    (dev.syncTable i).remaining = 0
  pending : ∀ g, (waiting dev g).card ≤ (dev.syncTable g).remaining

section
variable {dev dev' : SyncDevice} {idx i : ℕ} {st : SyncState}

lemma linkInv_probe : LinkInv camSyncProbe := by
  constructor <;> simp [camSyncProbe, zeroRow, waiting, camSyncMaxObjs]
  intro i h
  omega

lemma LinkInv.invalid_of_free (h : LinkInv dev) (hi : dev.bitmap i = false) :
    (dev.syncTable i).state = .invalid := by
  by_contra hne
  have hbit := ((h.live i).1 hne).2
  simp [hi] at hbit

lemma LinkInv.parentsList_invalid (h : LinkInv dev) (hi : (dev.syncTable i).state = .invalid) :
    (dev.syncTable i).parentsList = [] := by
  rw [List.eq_nil_iff_forall_not_mem]
  intro p hp
  have hact := (h.child i p hp).1
  simp [hi] at hact

lemma LinkInv.notMem_parents (h : LinkInv dev) (hi : (dev.syncTable i).state = .invalid) (c : ℕ) :
    i ∉ (dev.syncTable c).parentsList :=
  fun hm => (h.parent c i hm).1 hi

lemma LinkInv.mem_waiting_iff (h : LinkInv dev) {g c : ℕ} :
    c ∈ waiting dev g ↔ g ∈ (dev.syncTable c).parentsList := by
  rw [mem_waiting, and_iff_right_iff_imp]
  intro hc
  have hact := (h.child c g hc).1
  exact h.range c ((h.live c).1 (by simp [hact])).2

lemma LinkInv.zero_notMem (h : LinkInv dev) (c : ℕ) : 0 ∉ (dev.syncTable c).parentsList := fun hm =>
  absurd ((h.live 0).1 (h.parent c 0 hm).1).1 (lt_irrefl 0)

/-- A live row nobody waits for, and which waits for nobody, gets contents without links. -/
structure Replaced (dev : SyncDevice) (idx : ℕ) (dev' : SyncDevice) : Prop where
  others : ∀ c, c ≠ idx → dev'.syncTable c = dev.syncTable c
  parentsList : (dev'.syncTable idx).parentsList = []
  childrenList : (dev'.syncTable idx).childrenList = []
  indv : (dev'.syncTable idx).state ≠ .invalid → (dev'.syncTable idx).type = .indv →
    (dev'.syncTable idx).remaining = 0
  bitZero : dev'.bitmap 0 = true
  bits : ∀ i, i ≠ idx → dev'.bitmap i = dev.bitmap i
  range : dev'.bitmap idx = true → idx < camSyncMaxObjs
  live : (dev'.syncTable idx).state ≠ .invalid ↔ 0 < idx ∧ dev'.bitmap idx = true

lemma LinkInv.replaced (h : LinkInv dev) (hr : Replaced dev idx dev')
    (hp : (dev.syncTable idx).parentsList = [])
    (hnot : ∀ c, idx ∉ (dev.syncTable c).parentsList) : LinkInv dev' := by
  have hpar : ∀ c, (dev'.syncTable c).parentsList = (dev.syncTable c).parentsList := by
    intro c
    by_cases hc : c = idx
    · rw [hc, hr.parentsList, hp]
    · rw [hr.others c hc]
  have hw : ∀ g, waiting dev' g = waiting dev g := fun g => by simp only [waiting, hpar]
  have hne : ∀ c p, p ∈ (dev.syncTable c).parentsList → c ≠ idx ∧ p ≠ idx := by
    intro c p hm
    refine ⟨?_, fun he => hnot c (he ▸ hm)⟩
    rintro rfl
    simp [hp] at hm
  refine ⟨hr.bitZero, fun i hi => ?_, fun i => ?_, fun c p hm => ?_, fun c p hm => ?_, fun c => ?_,
    fun p => ?_, fun p => ?_, fun i hl hi => ?_, fun g => ?_⟩
  · by_cases hi' : i = idx
    · exact hi' ▸ hr.range (hi' ▸ hi)
    · exact h.range i (hr.bits i hi' ▸ hi)
  · by_cases hi' : i = idx
    · exact hi' ▸ hr.live
    · rw [hr.others i hi', hr.bits i hi']
      exact h.live i
  · rw [hpar] at hm
    rw [hr.others c (hne c p hm).1]
    exact h.child c p hm
  · rw [hpar] at hm
    rw [hr.others p (hne c p hm).2]
    exact h.parent c p hm
  · rw [hpar]
    exact h.parentsNodup c
  · by_cases hp' : p = idx
    · rw [hp', hr.childrenList]
      exact List.nodup_nil
    · rw [hr.others p hp']
      exact h.childrenNodup p
  · by_cases hp' : p = idx
    · simp [hp', hr.childrenList]
    · rw [hr.others p hp']
      exact h.childrenPos p
  · by_cases hi' : i = idx
    · exact hi' ▸ hr.indv (hi' ▸ hl) (hi' ▸ hi)
    · rw [hr.others i hi'] at hl hi ⊢
      exact h.indv i hl hi
  · rw [hw]
    by_cases hg : g = idx
    · have hempty : waiting dev g = ∅ := by
        rw [Finset.eq_empty_iff_forall_notMem]
        intro c hc
        exact hnot c (hg ▸ (mem_waiting.mp hc).2)
      simp [hempty]
    · rw [hr.others g hg]
      exact h.pending g

lemma LinkInv.of_sameRows (h : LinkInv dev) (hb : dev'.bitmap = dev.bitmap)
    (hl : ∀ i, SameLinks (dev.syncTable i) (dev'.syncTable i)) : LinkInv dev' := by
  have hw : ∀ g, waiting dev' g = waiting dev g := fun g => by simp only [waiting, (hl _).parentsList]
  constructor
  · rw [hb]
    exact h.bitZero
  · rw [hb]
    exact h.range
  · intro i
    rw [hb, (hl i).state]
    exact h.live i
  · intro c p hp
    rw [(hl c).parentsList] at hp
    rw [(hl c).state, (hl c).type]
    exact h.child c p hp
  · intro c p hp
    rw [(hl c).parentsList] at hp
    rw [(hl p).state, (hl p).type, (hl p).childrenList]
    exact h.parent c p hp
  · intro c
    rw [(hl c).parentsList]
    exact h.parentsNodup c
  · intro p
    rw [(hl p).childrenList]
    exact h.childrenNodup p
  · intro p
    rw [(hl p).childrenList]
    exact h.childrenPos p
  · intro i hs ht
    rw [(hl i).state] at hs
    rw [(hl i).type] at ht
    rw [(hl i).remaining]
    exact h.indv i hs ht
  · intro g
    rw [hw, (hl g).remaining]
    exact h.pending g

lemma LinkInv.remaining_pos (h : LinkInv dev) {p : ℕ} (hp : p ∈ (dev.syncTable i).parentsList) :
    0 < (dev.syncTable p).remaining :=
  (Finset.card_pos.mpr ⟨i, h.mem_waiting_iff.mpr hp⟩).trans_le (h.pending p)

lemma LinkInv.row_signaled (h : LinkInv dev) (hst : st = .signaledSuccess ∨ st = .signaledError)
    (hs : Signaled dev i st dev') {x : ℕ} (hx : x ≠ i) :
    (x ∈ (dev.syncTable i).parentsList ∧ CountedDown (dev.syncTable x) (dev'.syncTable x)) ∨
    (x ∉ (dev.syncTable i).parentsList ∧ dev'.syncTable x = dev.syncTable x) := by
  by_cases hxp : x ∈ (dev.syncTable i).parentsList
  · refine Or.inl ⟨hxp, ?_⟩
    rw [hs.parents x hxp]
    exact parentRow_countedDown _ hst (h.parent i x hxp).1 (h.remaining_pos hxp)
  · exact Or.inr ⟨hxp, hs.others x hx hxp⟩

lemma LinkInv.links_signaled (h : LinkInv dev) (hst : st = .signaledSuccess ∨ st = .signaledError)
    (hs : Signaled dev i st dev') {x : ℕ} (hx : x ≠ i) :
    (dev'.syncTable x).type = (dev.syncTable x).type ∧
    (dev'.syncTable x).parentsList = (dev.syncTable x).parentsList ∧
    (dev'.syncTable x).childrenList = (dev.syncTable x).childrenList ∧
    ((dev'.syncTable x).state = .invalid ↔ (dev.syncTable x).state = .invalid) := by
  rcases h.row_signaled hst hs hx with ⟨hxp, hd⟩ | ⟨-, he⟩
  · refine ⟨hd.type, hd.parentsList, hd.childrenList, iff_of_false ?_ (h.parent i x hxp).1⟩
    rcases hd.state with h2 | h2 <;> simp [h2]
  · simp [he]

lemma LinkInv.signaled (h : LinkInv dev) (hst : st = .signaledSuccess ∨ st = .signaledError)
    (ha : (dev.syncTable i).state = .active) (ht : (dev.syncTable i).type = .indv)
    (hs : Signaled dev i st dev') : LinkInv dev' := by
  have hlinks := fun x (hx : x ≠ i) => h.links_signaled hst hs hx
  have hself : (dev'.syncTable i).type = .indv ∧ (dev'.syncTable i).parentsList = [] ∧
      (dev'.syncTable i).childrenList = (dev.syncTable i).childrenList ∧
      (dev'.syncTable i).state = st ∧ (dev'.syncTable i).remaining = (dev.syncTable i).remaining := by
    rw [hs.self]
    exact ⟨ht, rfl, rfl, rfl, rfl⟩
  have hpar : ∀ c p, p ∈ (dev'.syncTable c).parentsList ↔ c ≠ i ∧ p ∈ (dev.syncTable c).parentsList := by
    intro c p
    by_cases hc : c = i
    · simp [hc, hself.2.1]
    · simp [hc, (hlinks c hc).2.1]
  have hw : ∀ g, waiting dev' g = (waiting dev g).erase i := by
    intro g
    ext c
    simp only [mem_waiting, Finset.mem_erase, hpar]
    tauto
  refine ⟨hs.config.bitmap ▸ h.bitZero, hs.config.bitmap ▸ h.range, fun x => ?_, fun c p hp => ?_,
    fun c p hp => ?_, fun c => ?_, fun p => ?_, fun p => ?_, fun x hl hx => ?_, fun g => ?_⟩
  · rw [hs.config.bitmap, ← h.live x]
    by_cases hx : x = i
    · subst hx
      refine iff_of_true ?_ (by simp [ha])
      rcases hst with rfl | rfl <;> simp [hself.2.2.2.1]
    · exact not_congr (hlinks x hx).2.2.2
  · obtain ⟨hc, hp⟩ := (hpar c p).mp hp
    have hcp : c ∉ (dev.syncTable i).parentsList := by
      intro hm
      have hgroup := (h.parent i c hm).2.1
      simp [(h.child c p hp).2] at hgroup
    rw [hs.others c hc hcp]
    exact h.child c p hp
  · obtain ⟨hc, hp⟩ := (hpar c p).mp hp
    obtain ⟨hpl, hpt, hpc⟩ := h.parent c p hp
    have hpi : p ≠ i := by
      rintro rfl
      simp [ht] at hpt
    rw [(hlinks p hpi).1, (hlinks p hpi).2.2.1, ne_eq, (hlinks p hpi).2.2.2]
    exact ⟨hpl, hpt, hpc⟩
  · by_cases hc : c = i
    · rw [hc, hself.2.1]
      exact List.nodup_nil
    · rw [(hlinks c hc).2.1]
      exact h.parentsNodup c
  · by_cases hp : p = i
    · rw [hp, hself.2.2.1]
      exact h.childrenNodup i
    · rw [(hlinks p hp).2.2.1]
      exact h.childrenNodup p
  · by_cases hp : p = i
    · rw [hp, hself.2.2.1]
      exact h.childrenPos i
    · rw [(hlinks p hp).2.2.1]
      exact h.childrenPos p
  · by_cases hxi : x = i
    · rw [hxi, hself.2.2.2.2]
      exact h.indv i (by simp [ha]) ht
    · rcases h.row_signaled hst hs hxi with ⟨hxp, -⟩ | ⟨-, he⟩
      · rw [(hlinks x hxi).1, (h.parent i x hxp).2.1] at hx
        cases hx
      · rw [he] at hl hx ⊢
        exact h.indv x hl hx
  · rw [hw]
    by_cases hg : g = i
    · have hempty : waiting dev g = ∅ := by
        rw [Finset.eq_empty_iff_forall_notMem]
        intro c hc
        have hgroup := (h.parent c g (mem_waiting.mp hc).2).2.1
        simp [hg, ht] at hgroup
      simp [hempty]
    rcases h.row_signaled hst hs hg with ⟨hgp, hd⟩ | ⟨hgp, he⟩
    · rw [hd.remaining, Finset.card_erase_of_mem (h.mem_waiting_iff.mpr hgp)]
      exact Nat.sub_le_sub_right (h.pending g) 1
    · rw [he]
      exact (Finset.card_le_card (Finset.erase_subset _ _)).trans (h.pending g)

lemma LinkInv.merged (h : LinkInv dev) {l : List ℕ} (hm : Merged dev idx l dev') : LinkInv dev' := by
  have hinv := h.invalid_of_free hm.free
  have hnot := h.notMem_parents hinv
  have hpar : ∀ c p, p ∈ (dev'.syncTable c).parentsList ↔
      p ∈ (dev.syncTable c).parentsList ∨ p = idx ∧ c ∈ activeOf dev l := by
    intro c p
    by_cases hc : c = idx
    · have hno : idx ∉ activeOf dev l := fun ha => hm.notMem (mem_activeOf.mp ha).1
      simp [hc, hm.parentsList, h.parentsList_invalid hinv, hno]
    · rw [hm.others c hc]
      by_cases ha : c ∈ activeOf dev l <;> simp [ha, linked]
  have hidx : (dev'.syncTable idx).state ≠ .invalid := by
    rw [hm.state]
    split_ifs <;> decide
  have hframe : ∀ c, c ≠ idx → ∃ ps, dev'.syncTable c = { dev.syncTable c with parentsList := ps } :=
    fun c hc => hm.frame hc
  refine ⟨?_, fun i hi => ?_, fun x => ?_, fun c p hp => ?_, fun c p hp => ?_, fun c => ?_,
    fun p => ?_, fun p => ?_, fun x hl hx => ?_, fun g => ?_⟩
  · rw [hm.bitmap, Function.update_of_ne hm.range.1.ne]
    exact h.bitZero
  · rw [hm.bitmap] at hi
    by_cases hii : i = idx
    · exact hii ▸ hm.range.2
    · exact h.range i (by rwa [Function.update_of_ne hii] at hi)
  · rw [hm.bitmap]
    by_cases hx : x = idx
    · rw [hx, Function.update_self]
      exact iff_of_true hidx ⟨hm.range.1, rfl⟩
    · obtain ⟨ps, he⟩ := hframe x hx
      rw [he, Function.update_of_ne hx]
      exact h.live x
  · have hc : c ≠ idx := by
      rintro rfl
      simp [hm.parentsList] at hp
    obtain ⟨ps, he⟩ := hframe c hc
    rw [he]
    rcases (hpar c p).mp hp with hp | ⟨-, ha⟩
    · exact h.child c p hp
    · exact ⟨(mem_activeOf.mp ha).2, (hm.children c (mem_activeOf.mp ha).1).2.1⟩
  · rcases (hpar c p).mp hp with hp | ⟨rfl, ha⟩
    · have hpi : p ≠ idx := fun he => hnot c (he ▸ hp)
      obtain ⟨ps, he⟩ := hframe p hpi
      rw [he]
      exact h.parent c p hp
    · exact ⟨hidx, hm.type, hm.childrenList ▸ ha⟩
  · by_cases hc : c = idx
    · rw [hc, hm.parentsList]
      exact List.nodup_nil
    · rw [hm.others c hc]
      split_ifs
      · refine List.nodup_append.mpr ⟨h.parentsNodup c, List.nodup_singleton _, ?_⟩
        intro a ha b hb he
        exact hnot c (List.mem_singleton.mp hb ▸ he ▸ ha)
      · exact h.parentsNodup c
  · by_cases hp : p = idx
    · rw [hp, hm.childrenList]
      exact hm.nodup.filter _
    · obtain ⟨ps, he⟩ := hframe p hp
      rw [he]
      exact h.childrenNodup p
  · by_cases hp : p = idx
    · rw [hp, hm.childrenList]
      intro hz
      have hlive := (hm.children 0 (mem_activeOf.mp hz).1).2.2
      exact absurd ((h.live 0).1 hlive).1 (lt_irrefl 0)
    · obtain ⟨ps, he⟩ := hframe p hp
      rw [he]
      exact h.childrenPos p
  · have hxi : x ≠ idx := by
      rintro rfl
      simp [hm.type] at hx
    obtain ⟨ps, he⟩ := hframe x hxi
    rw [he] at hl hx ⊢
    exact h.indv x hl hx
  · by_cases hg : g = idx
    · have hsub : waiting dev' idx ⊆ (activeOf dev l).toFinset := by
        intro c hc
        have hc' := (hpar c idx).mp (mem_waiting.mp hc).2
        simpa [hnot c] using hc'
      rw [hg, hm.remaining]
      exact (Finset.card_le_card hsub).trans (List.toFinset_card_le _)
    · have hw : waiting dev' g = waiting dev g := by
        ext c
        simp [mem_waiting, hpar, hg]
      obtain ⟨ps, he⟩ := hframe g hg
      rw [hw, he]
      exact h.pending g

lemma LinkInv.destroyed (h : LinkInv dev) (hd : Destroyed dev idx dev') : LinkInv dev' := by
  have hpar : ∀ c p, p ∈ (dev'.syncTable c).parentsList →
      c ≠ idx ∧ p ≠ idx ∧ p ∈ (dev.syncTable c).parentsList := by
    intro c p hp
    have hc : c ≠ idx := by
      rintro rfl
      simp [hd.self, zeroRow] at hp
    refine ⟨hc, ?_⟩
    rw [hd.others c hc] at hp
    have hlive : (dev.syncTable c).state ≠ .invalid ∨ (dev.syncTable c).state = .invalid :=
      ne_or_eq _ _
    rcases hlive with hlive | hdead
    · rw [if_neg hlive] at hp
      dsimp only at hp
      split_ifs at hp with hmem
      · exact ⟨((h.parentsNodup c).mem_erase_iff.mp hp).1, List.mem_of_mem_erase hp⟩
      · exact ⟨fun he => hmem (he ▸ (h.parent c p hp).2.2), hp⟩
    · rw [if_pos hdead, h.parentsList_invalid hdead] at hp
      simp at hp
  have hsame : ∀ x, x ≠ idx → (dev'.syncTable x).state = (dev.syncTable x).state ∧
      (dev'.syncTable x).type = (dev.syncTable x).type ∧
      (dev'.syncTable x).remaining = (dev.syncTable x).remaining := by
    intro x hx
    rw [hd.others x hx]
    split_ifs <;> exact ⟨rfl, rfl, rfl⟩
  have hchildren : ∀ p, p ≠ idx → (dev'.syncTable p).childrenList.Sublist (dev.syncTable p).childrenList ∧
      ∀ c, c ≠ idx → c ∈ (dev.syncTable p).childrenList → c ∈ (dev'.syncTable p).childrenList := by
    intro p hp
    rw [hd.others p hp]
    by_cases hi : (dev.syncTable p).state = .invalid
    · rw [if_pos hi]
      exact ⟨List.Sublist.refl _, fun _ _ hc => hc⟩
    · rw [if_neg hi]
      dsimp only
      split_ifs
      · exact ⟨List.erase_sublist, fun c hc hm => (List.mem_erase_of_ne hc).mpr hm⟩
      · exact ⟨List.Sublist.refl _, fun _ _ hc => hc⟩
  refine ⟨?_, fun i hi => ?_, fun x => ?_, fun c p hp => ?_, fun c p hp => ?_, fun c => ?_,
    fun p => ?_, fun p => ?_, fun x hl hx => ?_, fun g => ?_⟩
  · rw [hd.bitmap, Function.update_of_ne hd.range.1.ne]
    exact h.bitZero
  · rw [hd.bitmap] at hi
    by_cases hii : i = idx
    · simp [hii] at hi
    · exact h.range i (by rwa [Function.update_of_ne hii] at hi)
  · rw [hd.bitmap]
    by_cases hx : x = idx
    · simp [hx, hd.self, zeroRow]
    · rw [(hsame x hx).1, Function.update_of_ne hx]
      exact h.live x
  · obtain ⟨hc, -, hp⟩ := hpar c p hp
    rw [(hsame c hc).1, (hsame c hc).2.1]
    exact h.child c p hp
  · obtain ⟨hc, hpi, hp⟩ := hpar c p hp
    rw [(hsame p hpi).1, (hsame p hpi).2.1]
    obtain ⟨hlive, hgroup, hmem⟩ := h.parent c p hp
    exact ⟨hlive, hgroup, (hchildren p hpi).2 c hc hmem⟩
  · by_cases hc : c = idx
    · rw [hc, hd.self]
      exact List.nodup_nil
    · rw [hd.others c hc]
      by_cases hi : (dev.syncTable c).state = .invalid
      · rw [if_pos hi]
        exact h.parentsNodup c
      · rw [if_neg hi]
        dsimp only
        split_ifs
        · exact (h.parentsNodup c).erase idx
        · exact h.parentsNodup c
  · by_cases hp : p = idx
    · rw [hp, hd.self]
      exact List.nodup_nil
    · exact (h.childrenNodup p).sublist (hchildren p hp).1
  · by_cases hp : p = idx
    · rw [hp, hd.self]
      exact List.not_mem_nil
    · exact fun hz => h.childrenPos p ((hchildren p hp).1.subset hz)
  · by_cases hxi : x = idx
    · rw [hxi, hd.self]
      rfl
    · rw [(hsame x hxi).1] at hl
      rw [(hsame x hxi).2.1] at hx
      rw [(hsame x hxi).2.2]
      exact h.indv x hl hx
  · have hsub : waiting dev' g ⊆ waiting dev g := by
      intro c hc
      obtain ⟨hlt, hc⟩ := mem_waiting.mp hc
      exact mem_waiting.mpr ⟨hlt, (hpar c g hc).2.2⟩
    by_cases hg : g = idx
    · have hempty : waiting dev' g = ∅ := by
        rw [Finset.eq_empty_iff_forall_notMem]
        intro c hc
        exact (hpar c g (mem_waiting.mp hc).2).2.1 hg
      simp [hempty]
    · rw [(hsame g hg).2.2]
      exact (Finset.card_le_card hsub).trans (h.pending g)

lemma LinkInv.setRow (h : LinkInv dev) {row : SyncTableRow} (hl : SameLinks (dev.syncTable i) row) :
    LinkInv (setRow dev i row) :=
  h.of_sameRows rfl (sameLinks_setRow hl)

lemma LinkInv.create (h : LinkInv dev) (clientId : ℕ) : LinkInv (camSyncCreate dev clientId).2 := by
  rcases camSyncCreate_spec dev clientId h.bitZero with ⟨e, he⟩ | ⟨idx, ⟨hpos, hlt⟩, hbit, he⟩
  · rw [he]
    exact h
  · rw [he]
    have hinv := h.invalid_of_free hbit
    refine h.replaced ⟨fun c hc => setRow_ne _ _ _ _ hc, by simp [initRow, zeroRow],
      by simp [initRow, zeroRow], by simp [initRow, zeroRow], ?_, fun i hi => ?_, fun _ => hlt, ?_⟩
      (h.parentsList_invalid hinv) (h.notMem_parents hinv)
    · simp [setBit_apply, h.bitZero]
    · simp [setBit_apply, hi]
    · simp [setBit_apply, initRow, hpos]

lemma LinkInv.merge (h : LinkInv dev) (objs : List ℤ) (alloc : ℕ → Bool × Bool) :
    LinkInv (camSyncMerge dev objs alloc).2 := by
  rcases camSyncMerge_spec dev objs alloc h.bitZero
    (fun i c hi => h.notMem_parents (h.invalid_of_free hi) c) with
    ⟨idx, d, he, hm⟩ | ⟨e, d, he, rfl | ⟨idx, ha⟩⟩
  · rw [he]
    exact h.merged hm
  · rw [he]
    exact h
  · rw [he]
    have hinv := h.invalid_of_free ha.free
    exact h.replaced ⟨ha.others, ha.parentsList, ha.childrenList, fun hl => absurd ha.state hl,
      ha.outside.bitmap ▸ h.bitZero,
      fun i _ => by rw [ha.outside.bitmap], fun hb => h.range idx (ha.outside.bitmap ▸ hb),
      iff_of_false (not_not.mpr ha.state) (by simp [ha.outside.bitmap, ha.free])⟩
      (h.parentsList_invalid hinv) (h.notMem_parents hinv)

lemma LinkInv.signal (h : LinkInv dev) (obj : ℤ) (status : ℕ) :
    LinkInv (camSyncSignal dev obj status).2 := by
  by_cases hf : ∃ st, Fires dev obj status st
  · obtain ⟨st, hf⟩ := hf
    have hself : obj.toNat ∉ (dev.syncTable obj.toNat).parentsList := by
      intro hm
      have hgroup := (h.parent _ _ hm).2.1
      simp [hf.indv] at hgroup
    exact h.signaled (signalStatus_ne hf.status) hf.active hf.indv
      (camSyncSignal_spec hf (h.parentsNodup _) hself)
  · obtain ⟨n, he⟩ := camSyncSignal_quiet (not_exists.mp hf)
    rw [he]
    exact h.setRow ⟨rfl, rfl, rfl, rfl, rfl, rfl, fun _ he => he⟩

lemma LinkInv.destroy (h : LinkInv dev) (obj : ℤ) : LinkInv (camSyncDestroy dev obj).2 := by
  rcases camSyncDestroy_spec dev obj (fun i => ⟨h.childrenNodup i, h.childrenPos i⟩)
    (fun i => ⟨h.parentsNodup i, h.zero_notMem i⟩) with he | hd
  · rw [he]
    exact h
  · exact h.destroyed hd

lemma LinkInv.getObjRef (h : LinkInv dev) (obj : ℤ) : LinkInv (camSyncGetObjRef dev obj).2 := by
  simp only [camSyncGetObjRef]
  split_ifs
  · exact h
  · exact h
  · exact h.setRow ⟨rfl, rfl, rfl, rfl, rfl, rfl, fun _ he => he⟩

lemma LinkInv.step (h : LinkInv dev) (op : SyncOp) : LinkInv (step dev op) := by
  cases op with
  | create clientId => exact h.create clientId
  | merge objs alloc => exact h.merge objs alloc
  | getObjRef obj => exact h.getObjRef obj
  | putObjRef obj =>
    simp only [SyncOps.step, camSyncPutObjRef]
    split_ifs
    · exact h
    · exact h.setRow ⟨rfl, rfl, rfl, rfl, rfl, rfl, fun _ he => he⟩
  | signal obj status => exact h.signal obj status
  | destroy obj => exact h.destroy obj
  | registerCallback cb obj alloc =>
    rcases camSyncRegisterCallback_cases dev cb obj alloc with ⟨-, he⟩ | ⟨-, -, he⟩ | ⟨-, hc, he⟩
    · rw [SyncOps.step, he]
      exact h
    · rw [SyncOps.step, he]
      exact h.of_sameRows rfl fun _ => SameLinks.refl _
    · rw [SyncOps.step, he]
      exact h.setRow ⟨rfl, rfl, rfl, rfl, rfl, rfl, fun hc' => by simp [hc] at hc'⟩
  | deregisterCallback cb obj =>
    simp only [SyncOps.step, camSyncDeregisterCallback]
    split_ifs
    · exact h
    · exact h
    · exact h.setRow ⟨rfl, rfl, rfl, rfl, rfl, rfl, fun _ he => by simp [he]⟩
    · exact h.setRow ⟨rfl, rfl, rfl, rfl, rfl, rfl, fun _ he => by simp [he]⟩

lemma LinkInv.handleSignal (h : LinkInv dev) (arg : PrivateIoctlArg SyncSignal) :
    LinkInv (camSyncHandleSignal dev arg).2 := by
  simp only [camSyncHandleSignal]
  cases fetch sizeofSyncSignal arg with
  | error rc => exact h
  | ok s =>
    dsimp only
    split_ifs
    · exact h.getObjRef s.syncObj
    · exact (h.getObjRef s.syncObj).signal s.syncObj s.syncState

lemma LinkInv.registerPayload (h : LinkInv dev) (arg : PrivateIoctlArg UserPayloadInfo) (alloc : Bool) :
    LinkInv (camSyncHandleRegisterUserPayload dev arg alloc).2 := by
  simp only [camSyncHandleRegisterUserPayload]
  cases fetch sizeofUserPayloadInfo arg with
  | error rc => exact h
  | ok u =>
    dsimp only
    split_ifs
    · exact h
    · exact h
    · exact h
    · exact h.of_sameRows rfl fun _ => SameLinks.refl _
    · exact h
    · exact h.setRow ⟨rfl, rfl, rfl, rfl, rfl, rfl, fun _ he => he⟩

lemma LinkInv.deregisterPayload (h : LinkInv dev) (arg : PrivateIoctlArg UserPayloadInfo) :
    LinkInv (camSyncHandleDeregisterUserPayload dev arg).2 := by
  simp only [camSyncHandleDeregisterUserPayload]
  cases fetch sizeofUserPayloadInfo arg with
  | error rc => exact h
  | ok u =>
    dsimp only
    split_ifs
    · exact h
    · exact h
    · exact h.setRow ⟨rfl, rfl, rfl, rfl, rfl, rfl, fun _ he => he⟩

/-- Row `i` waits for nobody's signal, and nobody for its. -/
def unlinked (dev : SyncDevice) (i : ℕ) : Bool :=
  (dev.syncTable i).parentsList.isEmpty &&
    (List.range camSyncMaxObjs).all fun c => decide (i ∉ (dev.syncTable c).parentsList)

/-- A reset tears no link. -/
def resetsUnlinked (s : SyncSys) : SyncCall → Bool
  | .reset arg _ _ =>
    match fetch sizeofUserPayloadInfo arg with
    | .error _ => true
    | .ok u => outOfRange u.syncObj || unlinked s.dev u.syncObj.toNat
  | _ => true

lemma LinkInv.reset (h : LinkInv dev) {obj : ℤ} (hq : outOfRange obj || unlinked dev obj.toNat) :
    LinkInv (camSyncReset dev obj).2 := by
  simp only [camSyncReset]
  split_ifs with hr hi
  · exact h
  · exact h
  · simp only [hr, unlinked, Bool.false_or, Bool.and_eq_true, List.isEmpty_iff, List.all_eq_true,
      List.mem_range, decide_eq_true_eq] at hq
    have hnot : ∀ c, obj.toNat ∉ (dev.syncTable c).parentsList := fun c hm =>
      hq.2 c (mem_waiting.mp (h.mem_waiting_iff.mpr hm)).1 hm
    refine h.replaced ⟨fun c hc => setRow_ne _ _ _ _ hc, by simp [resetRow], by simp [resetRow],
      by simp [resetRow], h.bitZero, fun _ _ => rfl, h.range _, ?_⟩ hq.1 hnot
    have hlive := (h.live obj.toNat).1 hi
    simp [resetRow, hlive]

lemma LinkInv.closeSignal {r : ℤ × SyncDevice} (h : LinkInv r.2) (i : ℕ) :
    LinkInv (closeSignal r i).2 := by
  simp only [SyncIoctl.closeSignal]
  split_ifs
  · exact h.signal i 3
  · exact h

lemma LinkInv.closeDestroy {r : ℤ × SyncDevice} (h : LinkInv r.2) (i : ℕ) :
    LinkInv (closeDestroy r i).2 := by
  simp only [SyncIoctl.closeDestroy]
  split_ifs
  · exact h.destroy i
  · exact h

lemma LinkInv.foldl_closeSignal {r : ℤ × SyncDevice} (h : LinkInv r.2) (l : List ℕ) :
    LinkInv (l.foldl SyncIoctl.closeSignal r).2 := by
  induction l generalizing r with
  | nil => exact h
  | cons i l ih => exact ih (h.closeSignal i)

lemma LinkInv.foldl_closeDestroy {r : ℤ × SyncDevice} (h : LinkInv r.2) (l : List ℕ) :
    LinkInv (l.foldl SyncIoctl.closeDestroy r).2 := by
  induction l generalizing r with
  | nil => exact h
  | cons i l ih => exact ih (h.closeDestroy i)

lemma LinkInv.closeSignalAll (h : LinkInv dev) : LinkInv (closeSignalAll dev).2 := by
  have hstart : LinkInv ((0, dev) : ℤ × SyncDevice).2 := h
  rw [SyncIoctl.closeSignalAll]
  exact hstart.foldl_closeSignal sweptRows

lemma LinkInv.closeDestroyAll {r : ℤ × SyncDevice} (h : LinkInv r.2) : LinkInv (closeDestroyAll r).2 := by
  rw [SyncIoctl.closeDestroyAll]
  exact h.foldl_closeDestroy sweptRows

lemma LinkInv.closedSys (h : LinkInv dev) : LinkInv (closedSys dev).dev :=
  h.of_sameRows rfl fun _ => SameLinks.refl _

lemma camSyncClose_last {s : SyncSys} (h : s.openCnt - 1 = 0) :
    (camSyncClose s).2 = closedSys (closeDestroyAll (closeSignalAll s.dev)).2 := by
  rw [camSyncClose, if_neg (not_not.mpr h)]

lemma LinkInv.closed {s : SyncSys} (h : LinkInv s.dev) : LinkInv (camSyncClose s).2.dev := by
  by_cases hlast : s.openCnt - 1 = 0
  · have hclosed := h.closeSignalAll.closeDestroyAll
    rw [camSyncClose_last hlast]
    exact hclosed.closedSys
  · rw [camSyncClose, if_pos hlast]
    exact h

theorem LinkInv.sysStep {s : SyncSys} (h : LinkInv s.dev) (call : SyncCall)
    (hok : resetsUnlinked s call = true) : LinkInv (sysStep s call).dev := by
  cases call with
  | kernel op => exact h.step op
  | signal arg =>
    simp only [SyncIoctl.sysStep]
    split_ifs
    · exact h
    · exact h.handleSignal arg
  | registerPayload arg alloc =>
    simp only [SyncIoctl.sysStep]
    split_ifs
    · exact h
    · exact h.registerPayload arg alloc
  | deregisterPayload arg =>
    simp only [SyncIoctl.sysStep]
    split_ifs
    · exact h
    · exact h.deregisterPayload arg
  | reset arg again alloc =>
    simp only [SyncIoctl.sysStep, camSyncHandleReset, SyncSys.onDev]
    simp only [resetsUnlinked] at hok
    cases hf : fetch sizeofUserPayloadInfo arg with
    | error rc => split_ifs <;> exact h
    | ok u =>
      rw [hf] at hok
      dsimp only at hok ⊢
      split_ifs
      · exact h
      · exact h.reset hok
      · exact (h.reset hok).registerPayload _ alloc
  | openFile fh =>
    simp only [SyncIoctl.sysStep, camSyncOpen]
    split_ifs
    · exact h
    · exact h
    · exact h.of_sameRows rfl fun _ => SameLinks.refl _
  | closeFile =>
    simp only [SyncIoctl.sysStep]
    split_ifs
    · exact h
    · exact h.closed

theorem linkInv_run {switch : Bool} {calls : List SyncCall}
    (h : Transition.Guarded sysStep (fun s c => resetsUnlinked s c = true) (sysProbe switch) calls) :
    LinkInv (Transition.run sysStep (sysProbe switch) calls).dev := by
  have hstart : LinkInv (sysProbe switch).dev :=
    linkInv_probe.of_sameRows rfl fun _ => SameLinks.refl _
  have hstep : ∀ (s : SyncSys) c, LinkInv s.dev → resetsUnlinked s c = true →
      LinkInv (SyncIoctl.sysStep s c).dev := fun _ c hs hok => hs.sysStep c hok
  exact Transition.run_invariant hstep hstart h

def isReset : SyncCall → Bool
  | .reset _ _ _ => true
  | _ => false

lemma guarded_of_noReset {s : SyncSys} {calls : List SyncCall} (h : ∀ c ∈ calls, isReset c = false) :
    Transition.Guarded sysStep (fun s c => resetsUnlinked s c = true) s calls := by
  induction calls generalizing s with
  | nil => trivial
  | cons c cs ih =>
    obtain ⟨hc, hcs⟩ := List.forall_mem_cons.mp h
    refine ⟨?_, ih hcs⟩
    cases c with
    | reset arg again alloc => cases hc
    | kernel op => rfl
    | signal arg => rfl
    | registerPayload arg alloc => rfl
    | deregisterPayload arg => rfl
    | openFile fh => rfl
    | closeFile => rfl

/-- All that a failed merge may leave behind is one free row, INVALID and without children. -/
structure MergeUndone (dev dev' : SyncDevice) : Prop where
  bitmap : dev'.bitmap = dev.bitmap
  trace : dev'.trace = dev.trace
  rows : dev'.syncTable = dev.syncTable ∨
    ∃ idx, dev.bitmap idx = false ∧ (dev'.syncTable idx).state = .invalid ∧
      (dev'.syncTable idx).childrenList = [] ∧ ∀ c, c ≠ idx → dev'.syncTable c = dev.syncTable c

/-- After every run without a reset, a merge that returns an error is undone. -/
theorem failed_merge_undone (switch : Bool) (calls : List SyncCall)
    (h : ∀ c ∈ calls, isReset c = false) (objs : List ℤ) (alloc : ℕ → Bool × Bool) (e : ℤ)
    (hfail : (camSyncMerge (Transition.run sysStep (sysProbe switch) calls).dev objs alloc).1 = .error e) :
    MergeUndone (Transition.run sysStep (sysProbe switch) calls).dev
      (camSyncMerge (Transition.run sysStep (sysProbe switch) calls).dev objs alloc).2 := by
  have hinv := linkInv_run (guarded_of_noReset (s := sysProbe switch) h)
  revert hinv hfail
  generalize (Transition.run sysStep (sysProbe switch) calls).dev = dev
  intro hfail hinv
  rcases camSyncMerge_spec dev objs alloc hinv.bitZero
    (fun i c hi => hinv.notMem_parents (hinv.invalid_of_free hi) c) with
    ⟨idx, d, he, -⟩ | ⟨e', d, he, rfl | ⟨idx, ha⟩⟩
  · rw [he] at hfail
    cases hfail
  · rw [he]
    exact ⟨rfl, rfl, Or.inl rfl⟩
  · rw [he]
    exact ⟨ha.outside.bitmap, ha.outside.trace,
      Or.inr ⟨idx, ha.free, ha.state, ha.childrenList, ha.others⟩⟩

theorem failed_merge_undone_third :
    (camSyncMerge (Transition.run sysStep (sysProbe false)
        [.kernel (.create 0), .kernel (.create 0), .kernel (.create 0)]).dev [1, 2, 3]
        fun i => (true, decide (i < 2))).1 = .error (-Errno.EINVAL) ∧
    MergeUndone (Transition.run sysStep (sysProbe false)
        [.kernel (.create 0), .kernel (.create 0), .kernel (.create 0)]).dev
      (camSyncMerge (Transition.run sysStep (sysProbe false)
        [.kernel (.create 0), .kernel (.create 0), .kernel (.create 0)]).dev [1, 2, 3]
        fun i => (true, decide (i < 2))).2 := by
  have hfail : (camSyncMerge (Transition.run sysStep (sysProbe false)
        [.kernel (.create 0), .kernel (.create 0), .kernel (.create 0)]).dev [1, 2, 3]
        fun i => (true, decide (i < 2))).1 = .error (-Errno.EINVAL) := by decide +kernel
  exact ⟨hfail, failed_merge_undone false _ (by decide) _ _ _ hfail⟩

end
end CameraKernel.SyncLinks
