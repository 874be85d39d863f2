import CameraKernel.LinkPool

/-! Pairing the links of a session. `cam_req_mgr_sync_config` rewrites the partners of
the two links it is given, unlinking clears the partner it finds. -/
namespace CameraKernel.LinkPool

inductive SyncMode
  | noSync
  | sync
  deriving DecidableEq, Repr

def setSyncLink (s : Session) (l : ℕ) (partner : Option ℕ) : Session :=
  setLink s l { s.linksInit l with syncLink := partner }

def syncConfig (s : Session) (link1 link2 : ℕ) (mode : SyncMode) : Session :=
  let s := setSyncLink (setSyncLink s link1 none) link2 none
  match mode with
  | .noSync => s
  | .sync => setSyncLink (setSyncLink s link1 (some link2)) link2 (some link1)

/-- The calls on the links of a session. -/
inductive SessionOp
  | link
  | syncConfig (link1 link2 : ℕ) (mode : SyncMode)
  | unlink (l : ℕ)
  deriving DecidableEq, Repr

def Reserved (s : Session) (l : ℕ) : Prop := (references s l).Nonempty

instance (s : Session) (l : ℕ) : Decidable (Reserved s l) :=
  inferInstanceAs (Decidable (Finset.Nonempty _))

/-- The handle of a link is good while the link is reserved. Whether the links of other sessions are
is left to the call: it may name any of them. -/
def HasHandle (s : Session) (l : ℕ) : Prop := Reserved s l ∨ maximumLinksPerSession ≤ l

instance (s : Session) (l : ℕ) : Decidable (HasHandle s l) := inferInstanceAs (Decidable (_ ∨ _))

/-- A call with a handle that is not one of a reserved link fails and changes nothing. No call looks
whether the link belongs to the session it is made on. -/
def sessionStep (s : Session) : SessionOp → Session
  | .link => (reserveLink s true).2
  | .syncConfig link1 link2 mode =>
    if HasHandle s link1 ∧ HasHandle s link2 then syncConfig s link1 link2 mode else s
  | .unlink l => if HasHandle s l then unreserveLink s l else s

/-- Partners are different reserved links that point at each other. -/
def SyncSymmetric (s : Session) : Prop :=
  ∀ a b, Reserved s a → (s.linksInit a).syncLink = some b →
    Reserved s b ∧ b ≠ a ∧ (s.linksInit b).syncLink = some a

/-- The two links of a configuration are links of the session, free or partners of each other, and not
the same link if they are to be paired. Only links of the session are unlinked. -/
def KeepsPairs (s : Session) : SessionOp → Prop
  | .link => True
  | .syncConfig link1 link2 mode =>
    (link1 < maximumLinksPerSession ∧ link2 < maximumLinksPerSession) ∧
      (mode = .sync → link1 ≠ link2) ∧
      ((s.linksInit link1).syncLink = none ∨ (s.linksInit link1).syncLink = some link2) ∧
      ((s.linksInit link2).syncLink = none ∨ (s.linksInit link2).syncLink = some link1)
  | .unlink l => l < maximumLinksPerSession

instance (s : Session) : ∀ op, Decidable (KeepsPairs s op)
  | .link => inferInstanceAs (Decidable True)
  | .syncConfig _ _ _ => inferInstanceAs (Decidable (_ ∧ _))
  | .unlink _ => inferInstanceAs (Decidable (_ < _))

variable {s : Session}

lemma Aligned.reserved_iff (h : Aligned s) {l : ℕ} :
    Reserved s l ↔ l < maximumLinksPerSession ∧ (s.linksInit l).isUsed = true := by
  constructor
  · rintro ⟨i, hi⟩
    obtain ⟨hlt, href⟩ := Finset.mem_filter.mp hi
    rw [Finset.mem_range] at hlt
    rw [h.links i hlt] at href
    split_ifs at href with hu
    cases href
    exact ⟨hlt, hu⟩
  · rintro ⟨hlt, hu⟩
    refine ⟨l, Finset.mem_filter.mpr ⟨Finset.mem_range.mpr hlt, ?_⟩⟩
    rw [h.links l hlt, if_pos hu]

lemma HasHandle.reserved {l : ℕ} (h : HasHandle s l) (hl : l < maximumLinksPerSession) : Reserved s l :=
  h.resolve_right (by omega)

@[simp] lemma setSyncLink_links (l : ℕ) (p : Option ℕ) : (setSyncLink s l p).links = s.links := rfl

@[simp] lemma setSyncLink_numLinks (l : ℕ) (p : Option ℕ) :
    (setSyncLink s l p).numLinks = s.numLinks := rfl

lemma setSyncLink_isUsed (l : ℕ) (p : Option ℕ) (j : ℕ) :
    ((setSyncLink s l p).linksInit j).isUsed = (s.linksInit j).isUsed := by
  by_cases hj : j = l <;> simp [setSyncLink, setLink, hj]

lemma setSyncLink_syncLink (l : ℕ) (p : Option ℕ) (j : ℕ) :
    ((setSyncLink s l p).linksInit j).syncLink = if j = l then p else (s.linksInit j).syncLink := by
  by_cases hj : j = l <;> simp [setSyncLink, setLink, hj]

lemma Aligned.setSyncLink (h : Aligned s) (l : ℕ) (p : Option ℕ) : Aligned (setSyncLink s l p) where
  links i hi := by
    rw [setSyncLink_links, setSyncLink_isUsed]
    exact h.links i hi
  count := h.count

lemma reserved_syncConfig (link1 link2 : ℕ) (mode : SyncMode) (j : ℕ) :
    Reserved (syncConfig s link1 link2 mode) j ↔ Reserved s j := by
  cases mode <;> exact Iff.rfl

lemma Aligned.syncConfig (h : Aligned s) (link1 link2 : ℕ) (mode : SyncMode) :
    Aligned (syncConfig s link1 link2 mode) := by
  have hfree := (h.setSyncLink link1 none).setSyncLink link2 none
  cases mode with
  | noSync => exact hfree
  | sync => exact (hfree.setSyncLink link1 _).setSyncLink link2 _

lemma syncConfig_syncLink (link1 link2 : ℕ) (mode : SyncMode) (j : ℕ) :
    ((syncConfig s link1 link2 mode).linksInit j).syncLink =
      if j = link2 then (if mode = .sync then some link1 else none)
      else if j = link1 then (if mode = .sync then some link2 else none)
      else (s.linksInit j).syncLink := by
  cases mode with
  | noSync => simp [syncConfig, setSyncLink_syncLink]
  | sync =>
    simp only [syncConfig, setSyncLink_syncLink]
    split_ifs <;> rfl

lemma SyncSymmetric.not_partner (h : SyncSymmetric s) {a b l l' : ℕ} (ha : Reserved s a)
    (hb : (s.linksInit a).syncLink = some b) (hl : (s.linksInit l).syncLink = none ∨
      (s.linksInit l).syncLink = some l') (hal : a ≠ l') : b ≠ l := by
  rintro rfl
  obtain ⟨-, -, hback⟩ := h a b ha hb
  rcases hl with hl | hl
  · rw [hl] at hback
    cases hback
  · rw [hl] at hback
    exact hal (Option.some.inj hback).symm

lemma SyncSymmetric.syncConfig (h : SyncSymmetric s) {link1 link2 : ℕ} {mode : SyncMode}
    (hr1 : Reserved s link1) (hr2 : Reserved s link2)
    (hok : KeepsPairs s (.syncConfig link1 link2 mode)) :
    SyncSymmetric (syncConfig s link1 link2 mode) := by
  obtain ⟨-, hne, h1, h2⟩ := hok
  intro a b ha hb
  rw [reserved_syncConfig] at ha ⊢
  rw [syncConfig_syncLink] at hb ⊢
  by_cases ha2 : a = link2
  · -- The second link now points at the first.
    subst ha2
    rw [if_pos rfl] at hb
    cases mode with
    | noSync => cases hb
    | sync =>
      obtain rfl : link1 = b := by simpa using hb
      have hdiff := hne rfl
      simp [hr1, hdiff]
  · rw [if_neg ha2] at hb
    by_cases ha1 : a = link1
    · subst ha1
      rw [if_pos rfl] at hb
      cases mode with
      | noSync => cases hb
      | sync =>
        obtain rfl : link2 = b := by simpa using hb
        exact ⟨hr2, Ne.symm ha2, by simp⟩
    · rw [if_neg ha1] at hb
      have hb1 : b ≠ link1 := h.not_partner ha hb h1 ha2
      have hb2 : b ≠ link2 := h.not_partner ha hb h2 ha1
      simpa [hb1, hb2] using h a b ha hb

lemma SyncSymmetric.link (h : SyncSymmetric s) (hal : Aligned s) :
    SyncSymmetric (reserveLink s true).2 := by
  by_cases hn : s.numLinks < maximumLinksPerSession
  · cases hl : firstIndex fun i => !(s.linksInit i).isUsed with
    | none => simpa [reserveLink, hn, hl] using h
    | some l =>
      obtain ⟨hlt, hfree⟩ := firstIndex_some hl
      have hnew := hal.reserve
      have hunused : ¬Reserved s l := by
        rw [hal.reserved_iff]
        simp_all
      intro a b ha hb
      rw [hnew.reserved_iff] at ha ⊢
      rw [hal.reserveLink_eq hn hl] at ha hb ⊢
      by_cases hal' : a = l
      · simp [hal'] at hb
      · -- An old link keeps its old partner, which is not the new one.
        simp only [Function.update_of_ne hal'] at ha hb
        obtain ⟨hrb, hne, hback⟩ := h a b (hal.reserved_iff.mpr ha) hb
        have hbl : b ≠ l := fun he => hunused (he ▸ hrb)
        simpa [Function.update_of_ne hbl, hne, hback] using hal.reserved_iff.mp hrb
  · simpa [reserveLink, Nat.not_lt.mp hn] using h

lemma unreserveRound_links (l k i : ℕ) : (unreserveRound l s k).links i =
    if i = k ∧ s.links k = some l then none else s.links i := by
  have hsync : ∀ t : Session, (releaseSync l t k).links = t.links := by
    intro t
    unfold releaseSync
    split
    · split_ifs <;> rfl
    · rfl
  rw [unreserveRound, hsync, releaseEntry]
  by_cases hl : s.links k = some l
  · by_cases hi : i = k <;> simp [hl, hi]
  · simp [hl]

lemma unreserveRound_syncLink (l k j : ℕ) : ((unreserveRound l s k).linksInit j).syncLink =
    if s.links k = some j ∧ j ≠ l ∧ (s.linksInit l).syncLink = some j then none
    else (s.linksInit j).syncLink := by
  have hentry : ∀ i, ((releaseEntry l s k).linksInit i).syncLink = (s.linksInit i).syncLink := by
    intro i
    unfold releaseEntry
    split_ifs
    · by_cases hi : i = k <;> simp [setLink, hi]
    · rfl
  have hlinks : (releaseEntry l s k).links k = if s.links k = some l then none else s.links k := by
    unfold releaseEntry
    split_ifs <;> simp
  rw [unreserveRound, releaseSync, hentry, hlinks]
  by_cases hl : s.links k = some l
  · have hj : ¬(s.links k = some j ∧ j ≠ l ∧ (s.linksInit l).syncLink = some j) := by
      rintro ⟨he, hne, -⟩
      exact hne (Option.some.inj (he.symm.trans hl))
    rw [if_pos hl, if_neg hj]
    cases (s.linksInit l).syncLink <;> exact hentry j
  · rw [if_neg hl]
    cases hp : (s.linksInit l).syncLink with
    | none => simpa using hentry j
    | some p =>
      cases hk : s.links k with
      | none => simpa using hentry j
      | some q =>
        have hql : q ≠ l := fun he => hl (he ▸ hk)
        simp only [Option.some.injEq]
        by_cases hpq : p = q
        · subst hpq
          rw [if_pos rfl]
          by_cases hj : j = p
          · simp [setLink, hj, hql]
          · simpa [setLink, hj, Ne.symm hj] using hentry j
        · rw [if_neg hpq, hentry, if_neg]
          rintro ⟨rfl, -, rfl⟩
          exact hpq rfl

lemma foldl_unreserveRound_syncLink (hal : Aligned s) {l : ℕ} (k : ℕ)
    (hk : k ≤ maximumLinksPerSession) (hself : (s.linksInit l).syncLink ≠ some l) :
    (∀ i, ((List.range k).foldl (unreserveRound l) s).links i =
      if i < k ∧ i = l then none else s.links i) ∧
    ∀ j, (((List.range k).foldl (unreserveRound l) s).linksInit j).syncLink =
      if j < k ∧ s.links j = some j ∧ (s.linksInit l).syncLink = some j then none
      else (s.linksInit j).syncLink := by
  induction k with
  | zero => simp
  | succ k ih =>
    obtain ⟨hlinks, hsync⟩ := ih (by omega)
    rw [List.range_succ, List.foldl_append, List.foldl_cons, List.foldl_nil]
    generalize (List.range k).foldl (unreserveRound l) s = t at hlinks hsync
    have hentry : ∀ j, s.links k = some j → j = k := by
      intro j hj
      rw [hal.links k (by omega)] at hj
      split_ifs at hj
      exact (Option.some.inj hj).symm
    have htk : t.links k = s.links k := by simp [hlinks]
    have hpartner : (t.linksInit l).syncLink = (s.linksInit l).syncLink := by
      rw [hsync, if_neg]
      exact fun hp => hself hp.2.2
    refine ⟨fun i => ?_, fun j => ?_⟩
    · rw [unreserveRound_links, htk, hlinks]
      by_cases hik : i = k
      · subst hik
        by_cases hl : i = l
        · subst hl
          have hrow := hal.links i (by omega)
          split_ifs at hrow with hused <;> simp [hrow]
        · have hne : s.links i ≠ some l := fun he => hl (hentry l he).symm
          simp [hl, hne]
      · simp only [hik, false_and, if_false]
        by_cases hl : i = l
        · have hlt : i < k + 1 ↔ i < k := by omega
          simp [hl ▸ hlt, hl]
        · simp [hl]
    · rw [unreserveRound_syncLink, htk, hpartner, hsync]
      by_cases hjk : j = k
      · subst hjk
        by_cases hp : (s.linksInit l).syncLink = some j
        · have hjl : j ≠ l := fun he => hself (he ▸ hp)
          simp [hp, hjl]
        · simp [hp]
      · have hne : s.links k ≠ some j := fun he => hjk (hentry j he)
        have hlt : j < k + 1 ↔ j < k := by omega
        simp [hne, hlt]

lemma SyncSymmetric.unlink (h : SyncSymmetric s) (hal : Aligned s) {l : ℕ} (hl : Reserved s l) :
    SyncSymmetric (unreserveLink s l) := by
  obtain ⟨hlt, hused⟩ := hal.reserved_iff.mp hl
  have href : l ∈ references s l :=
    Finset.mem_filter.mpr ⟨Finset.mem_range.mpr hlt, by rw [hal.links l hlt, if_pos hused]⟩
  have hnew := hal.unreserve href
  have hact : l ∈ active s := by simp [active, hlt, (Finset.mem_filter.mp href).2]
  have hpos : s.numLinks ≠ 0 := by
    rw [hal.count]
    exact (Finset.card_pos.mpr ⟨l, hact⟩).ne'
  have hself : (s.linksInit l).syncLink ≠ some l := fun he => (h l l hl he).2.1 rfl
  obtain ⟨hlinks, hsync⟩ := foldl_unreserveRound_syncLink hal maximumLinksPerSession le_rfl hself
  -- What is left: the partner and the link itself are free, the others are as before.
  have hlinks' : ∀ i, (unreserveLink s l).links i = if i = l then none else s.links i := by
    intro i
    simp only [unreserveLink, hpos, if_false, setLink, hlinks]
    by_cases hil : i = l <;> simp [hil, hlt]
  have hsync' : ∀ j, ((unreserveLink s l).linksInit j).syncLink =
      if j = l ∨ (Reserved s j ∧ (s.linksInit l).syncLink = some j) then none
      else (s.linksInit j).syncLink := by
    intro j
    have hres : Reserved s j ↔ j < maximumLinksPerSession ∧ s.links j = some j := by
      rw [hal.reserved_iff]
      refine and_congr_right fun hj => ?_
      rw [hal.links j hj]
      split_ifs with hu <;> simp [hu]
    simp only [unreserveLink, hpos, if_false, setLink]
    by_cases hj : j = l
    · simp [hj]
    · simp [hj, hsync, hres, and_assoc]
  have hres' : ∀ j, Reserved (unreserveLink s l) j ↔ Reserved s j ∧ j ≠ l := by
    intro j
    constructor
    · rintro ⟨i, hi⟩
      obtain ⟨hmem, he⟩ := Finset.mem_filter.mp hi
      rw [hlinks'] at he
      by_cases hil : i = l
      · simp [hil] at he
      · rw [if_neg hil] at he
        refine ⟨⟨i, Finset.mem_filter.mpr ⟨hmem, he⟩⟩, ?_⟩
        rintro rfl
        rw [hal.links i (Finset.mem_range.mp hmem)] at he
        split_ifs at he
        exact hil (Option.some.inj he)
    · rintro ⟨hj, hjl⟩
      obtain ⟨hjlt, hju⟩ := hal.reserved_iff.mp hj
      refine ⟨j, Finset.mem_filter.mpr ⟨Finset.mem_range.mpr hjlt, ?_⟩⟩
      rw [hlinks', if_neg hjl, hal.links j hjlt, if_pos hju]
  intro a b ha hb
  rw [hres'] at ha ⊢
  rw [hsync'] at hb ⊢
  split_ifs at hb with hcase
  push Not at hcase
  obtain ⟨hrb, hne, hback⟩ := h a b ha.1 hb
  have hbl : b ≠ l := by
    rintro rfl
    exact hcase.2 ha.1 hback
  refine ⟨⟨hrb, hbl⟩, hne, ?_⟩
  rw [if_neg, hback]
  rintro (he | ⟨-, he⟩)
  · exact hbl he
  · exact ha.2 (Option.some.inj (hback.symm.trans (h l b hl he).2.2))

lemma sessionStep_keeps (op : SessionOp) (h : Aligned s ∧ SyncSymmetric s) (hok : KeepsPairs s op) :
    Aligned (sessionStep s op) ∧ SyncSymmetric (sessionStep s op) := by
  cases op with
  | link => exact ⟨h.1.reserve, h.2.link h.1⟩
  | syncConfig link1 link2 mode =>
    simp only [sessionStep]
    split_ifs with hr
    · have hr1 := hr.1.reserved hok.1.1
      have hr2 := hr.2.reserved hok.1.2
      exact ⟨h.1.syncConfig link1 link2 mode, h.2.syncConfig hr1 hr2 hok⟩
    · exact h
  | unlink l =>
    simp only [sessionStep]
    split_ifs with hvalid
    · have hr := hvalid.reserved hok
      obtain ⟨hlt, hused⟩ := h.1.reserved_iff.mp hr
      have href : l ∈ references s l :=
        Finset.mem_filter.mpr ⟨Finset.mem_range.mpr hlt, by rw [h.1.links l hlt, if_pos hused]⟩
      exact ⟨h.1.unreserve href, h.2.unlink h.1 hr⟩
    · exact h

/-- In every run whose calls keep to the session and to its pairs, partners point at each other. -/
theorem syncSymmetric_of_keepsPairs (s : Session) (hs : EmptyPool s) (ops : List SessionOp)
    (h : Transition.Guarded sessionStep KeepsPairs s ops) :
    SyncSymmetric (Transition.run sessionStep s ops) := by
  have hinit : Aligned s ∧ SyncSymmetric s := by
    refine ⟨⟨fun i _ => by rw [hs.links, hs.unused]; rfl, ?_⟩, ?_⟩
    · simp [active, hs.links, hs.numLinks]
    · rintro a b ⟨i, hi⟩
      simp [references, hs.links] at hi
  exact (@Transition.run_invariant _ _ _ _ (fun s => Aligned s ∧ SyncSymmetric s)
    (fun _ op hinv hok => sessionStep_keeps op hinv hok) _ _ hinit h).2

theorem pairAndUnlink_syncSymmetric :
    Transition.Guarded sessionStep KeepsPairs emptySession
      [.link, .link, .link, .syncConfig 0 1 .sync, .unlink 0, .syncConfig 1 2 .sync] ∧
    SyncSymmetric (Transition.run sessionStep emptySession
      [.link, .link, .link, .syncConfig 0 1 .sync, .unlink 0, .syncConfig 1 2 .sync]) := by
  have hg : Transition.Guarded sessionStep KeepsPairs emptySession
      [.link, .link, .link, .syncConfig 0 1 .sync, .unlink 0, .syncConfig 1 2 .sync] := by
    decide +kernel
  exact ⟨hg, syncSymmetric_of_keepsPairs _ ⟨fun _ => rfl, fun _ => rfl, rfl⟩ _ hg⟩

/-- Pairing a link anew leaves its old partner behind, which then outlives an unlink. -/
theorem rePair_not_syncSymmetric :
    let s := Transition.run sessionStep emptySession
      [.link, .link, .link, .syncConfig 0 1 .sync, .syncConfig 0 2 .sync, .unlink 0]
    ¬SyncSymmetric s ∧ Reserved s 1 ∧ (s.linksInit 1).syncLink = some 0 ∧ ¬Reserved s 0 := by
  intro s
  have hs : Reserved s 1 ∧ (s.linksInit 1).syncLink = some 0 ∧ ¬Reserved s 0 := by decide +kernel
  exact ⟨fun h => hs.2.2 (h 1 0 hs.1 hs.2.1).1, hs⟩

end CameraKernel.LinkPool
