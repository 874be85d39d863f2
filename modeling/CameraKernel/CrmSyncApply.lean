import CameraKernel.CrmSession

/-! The decision to apply a request on two links in step: a check that validates and the check
that applies agree, and a refusal leaves what would have been applied as it was. -/
namespace CameraKernel.Crm
variable {inQ : ReqQueue} {lTbl : List ReqTbl} {σ τ υ : Links} {l m idx : ℕ}

lemma traverse_validate (inQ : ReqQueue) (applyData : ℕ → Apply) (result : BitVec 32) (idx : ℕ)
    (lTbl : List ReqTbl) :
    (traverse inQ true applyData result idx lTbl).applyData = applyData ∧
      (traverse inQ true applyData result idx lTbl).lTbl = lTbl := by
  induction lTbl generalizing idx with
  | nil => exact ⟨rfl, rfl⟩
  | cons tbl rest ih =>
    unfold traverse
    by_cases hready : tblReady inQ tbl idx
    · rw [if_pos hready]
      cases rest with
      | nil => simp
      | cons next rest =>
        obtain ⟨happly, htbls⟩ := ih (decIdx idx tbl.pdDelta)
        simp only [happly, htbls, if_true]
        split <;> exact ⟨rfl, rfl⟩
    · rw [if_neg hready]
      exact ⟨rfl, rfl⟩

lemma traverse_mode (inQ : ReqQueue) (a b : ℕ → Apply) (result : BitVec 32) (idx : ℕ)
    (lTbl : List ReqTbl) :
    (traverse inQ false a result idx lTbl).rc = (traverse inQ true b result idx lTbl).rc ∧
      (traverse inQ false a result idx lTbl).result =
        (traverse inQ true b result idx lTbl).result := by
  induction lTbl generalizing idx with
  | nil => exact ⟨rfl, rfl⟩
  | cons tbl rest ih =>
    unfold traverse
    by_cases hready : tblReady inQ tbl idx
    · rw [if_pos hready, if_pos hready]
      cases rest with
      | nil => simp
      | cons next rest =>
        obtain ⟨hrc, hresult⟩ := ih (decIdx idx tbl.pdDelta)
        simp only [hrc, hresult]
        split <;> exact ⟨rfl, rfl⟩
    · rw [if_neg hready, if_neg hready]
      exact ⟨rfl, rfl⟩

lemma checkLinkIsReady_mode (link : CoreLink) (idx : ℕ) :
    (checkLinkIsReady link idx false).1 = (checkLinkIsReady link idx true).1 := by
  obtain ⟨hrc, hresult⟩ :=
    traverse_mode link.inQ (fun _ => zeroApply) link.applyData 0 idx link.lTbl
  simp only [checkLinkIsReady, Bool.false_eq_true, if_false, if_true, hrc, hresult]

lemma checkLinkIsReady_sync (link : CoreLink) (s : LinkSync) (idx : ℕ) (validateOnly : Bool) :
    (checkLinkIsReady { link with sync := s } idx validateOnly).1 =
        (checkLinkIsReady link idx validateOnly).1 ∧
      (checkLinkIsReady { link with sync := s } idx validateOnly).2.applyData =
        (checkLinkIsReady link idx validateOnly).2.applyData ∧
      (checkLinkIsReady { link with sync := s } idx validateOnly).2.lTbl =
        (checkLinkIsReady link idx validateOnly).2.lTbl := ⟨rfl, rfl, rfl⟩

/-- Only the fields for the sync partner differ. -/
def SyncOnly (σ τ : Links) : Prop := ∀ k, τ k = { σ k with sync := (τ k).sync }

/-- What was stored to be applied and how many frames the tables skip is as it was. -/
def Untouched (σ τ : Links) : Prop := ∀ k, (τ k).applyData = (σ k).applyData ∧
  (τ k).lTbl.map (·.skipTraverse) = (σ k).lTbl.map (·.skipTraverse)

lemma SyncOnly.refl (σ : Links) : SyncOnly σ σ := fun _ => rfl

lemma SyncOnly.trans (h : SyncOnly σ τ) (h' : SyncOnly τ υ) : SyncOnly σ υ := by
  intro k
  rw [h' k, h k]

lemma SyncOnly.untouched (h : SyncOnly σ τ) : Untouched σ τ := by
  intro k
  rw [h k]
  exact ⟨rfl, rfl⟩

lemma Untouched.trans (h : Untouched σ τ) (h' : Untouched τ υ) : Untouched σ υ :=
  fun k => ⟨(h' k).1.trans (h k).1, (h' k).2.trans (h k).2⟩

lemma setSync_syncOnly (σ : Links) (l : ℕ) (f : LinkSync → LinkSync) :
    SyncOnly σ (setSync σ l f) := by
  intro k
  by_cases hk : k = l
  · subst hk
    simp [setSync, setLink]
  · simp [setSync, setLink, hk]

lemma checkLinkOn_syncOnly (σ : Links) (l idx : ℕ) : SyncOnly σ (checkLinkOn σ l idx true).2 := by
  obtain ⟨happly, htbls⟩ := traverse_validate (σ l).inQ (σ l).applyData 0 idx (σ l).lTbl
  intro k
  by_cases hk : k = l
  · subst hk
    simp only [checkLinkOn, checkLinkIsReady, setLink, if_true, Function.update_self, happly, htbls]
  · simp [checkLinkOn, setLink, hk]

lemma injectDelay_skipTraverse (idx : ℕ) (lTbl : List ReqTbl) :
    (injectDelay idx lTbl).2.map (·.skipTraverse) = lTbl.map (·.skipTraverse) := by
  induction lTbl generalizing idx with
  | nil => rfl
  | cons tbl rest ih =>
    unfold injectDelay
    split
    · simp [setTblSlot, ih]
    · simp [ih]

lemma injectDelay_zero {idx : ℕ} {lTbl : List ReqTbl} (h : (injectDelay idx lTbl).1 = 0) :
    (injectDelay idx lTbl).2 = lTbl := by
  induction lTbl generalizing idx with
  | nil => rfl
  | cons tbl rest ih =>
    unfold injectDelay at h ⊢
    split at h
    · have hrc : -Errno.EAGAIN ≠ 0 := by decide
      exact absurd h hrc
    · rename_i hnone
      rw [if_neg hnone, ih h]

lemma injectDelayOn_untouched (σ : Links) (l idx : ℕ) : Untouched σ (injectDelayOn σ l idx).2 := by
  intro k
  by_cases hk : k = l
  · subst hk
    simp [injectDelayOn, setLink, injectDelay_skipTraverse]
  · simp [injectDelayOn, setLink, hk]

lemma injectDelayOn_zero (h : (injectDelayOn σ l idx).1 = 0) : (injectDelayOn σ l idx).2 = σ := by
  have htbls : (injectDelay idx (σ l).lTbl).2 = (σ l).lTbl := injectDelay_zero h
  funext k
  by_cases hk : k = l
  · subst hk
    simp [injectDelayOn, setLink, htbls]
  · simp [injectDelayOn, setLink, hk]

lemma findSlotFrom_reqId {reqId : ℤ} {n start i : ℕ} (h : findSlotFrom inQ reqId n start = some i) :
    (inQ.slot i).reqId = reqId := by
  induction n generalizing start with
  | zero => cases h
  | succ n ih =>
    unfold findSlotFrom at h
    split at h
    · rename_i heq
      cases h
      exact heq
    · exact ih h

/-- The partner holds the request, and it has applied it or could. -/
def PartnerReady (σ : Links) (m : ℕ) (reqId : ℤ) : Prop :=
  ∃ i, findSlotForReq (σ m).inQ reqId = some i ∧ ((σ m).inQ.slot i).reqId = reqId ∧
    (((σ m).inQ.slot i).status = .reqApplied ∨ (checkLinkIsReady (σ m) i true).1 = 0)

/-- The last call of the decision, made in a state where only sync fields have changed, and it
succeeds. -/
def Applies (σ : Links) (l idx : ℕ) (r : ℤ × Links) : Prop :=
  ∃ τ, SyncOnly σ τ ∧ r = applyChecked τ l idx ∧ (checkLinkOn τ l idx false).1 = 0

structure SyncDecision (σ : Links) (l m idx : ℕ) (r : ℤ × Links) : Prop where
  partner : r.1 = 0 → PartnerReady σ m ((σ l).inQ.slot idx).reqId
  own : r.1 = 0 → (checkLinkIsReady (σ l) idx true).1 = 0
  applies : r.1 = 0 → Applies σ l idx r
  refuses : r.1 ≠ 0 → Untouched σ r.2

lemma SyncDecision.of_refusal {r : ℤ × Links} (hrc : r.1 ≠ 0) (h : Untouched σ r.2) :
    SyncDecision σ l m idx r :=
  ⟨fun h0 => absurd h0 hrc, fun h0 => absurd h0 hrc, fun h0 => absurd h0 hrc, fun _ => h⟩

lemma applies_of_ready (hτ : SyncOnly σ τ) (hready : (checkLinkIsReady (σ l) idx true).1 = 0) :
    Applies σ l idx (applyChecked τ l idx) := by
  refine ⟨τ, hτ, rfl, ?_⟩
  rw [checkLinkOn, hτ l, checkLinkIsReady_mode, (checkLinkIsReady_sync _ _ _ _).1]
  exact hready

lemma correctSync_cases (hτ : SyncOnly σ τ) (hready : (checkLinkIsReady (σ l) idx true).1 = 0) :
    ((correctSync τ l m idx).1 ≠ 0 ∧ (correctSync τ l m idx).2 = τ) ∨
      Applies σ l idx (correctSync τ l m idx) := by
  have heagain : -Errno.EAGAIN ≠ 0 := by decide
  unfold correctSync
  dsimp only
  split
  · split
    · exact .inl ⟨heagain, rfl⟩
    · split
      · exact .inr (applies_of_ready (hτ.trans (setSync_syncOnly τ l _)) hready)
      · exact .inr (applies_of_ready hτ hready)
  · split
    · exact .inl ⟨heagain, rfl⟩
    · exact .inr (applies_of_ready hτ hready)

lemma sync_decision_refused {rc : ℤ} (hrc : rc ≠ 0) (h : Untouched σ τ) :
    SyncDecision σ l m idx (rc, τ) := SyncDecision.of_refusal hrc h

/-- The part from the two checks on, in a state where no delay was injected: both links were
checked in the state that the request is applied in. -/
lemma checked_decides {i : ℕ} (hτ : SyncOnly σ τ)
    (hfind : findSlotForReq (τ m).inQ ((σ l).inQ.slot idx).reqId = some i) :
    let own := checkLinkOn τ l idx true
    let partner := checkLinkOn own.2 m i true
    own.1 = 0 → ¬(partner.1 ≠ 0 ∧ ((τ m).inQ.slot i).status ≠ .reqApplied) →
      SyncDecision σ l m idx (correctSync partner.2 l m idx) := by
  intro own partner hown hpartner
  have hownSync : SyncOnly σ own.2 := hτ.trans (checkLinkOn_syncOnly τ l idx)
  have hpartnerSync : SyncOnly σ partner.2 := hownSync.trans (checkLinkOn_syncOnly own.2 m i)
  have hready : (checkLinkIsReady (σ l) idx true).1 = 0 := by
    have hrc : (checkLinkIsReady (τ l) idx true).1 = 0 := hown
    rwa [hτ l, (checkLinkIsReady_sync _ _ _ _).1] at hrc
  have hqueue : (τ m).inQ = (σ m).inQ := by rw [hτ m]
  have hrc : partner.1 = (checkLinkIsReady (σ m) i true).1 := by
    change (checkLinkIsReady (own.2 m) i true).1 = _
    rw [hownSync m, (checkLinkIsReady_sync _ _ _ _).1]
  have hpartnerReady : PartnerReady σ m ((σ l).inQ.slot idx).reqId := by
    rw [hqueue] at hfind hpartner
    refine ⟨i, hfind, findSlotFrom_reqId hfind, ?_⟩
    rw [hrc] at hpartner
    tauto
  rcases correctSync_cases (m := m) hpartnerSync hready with ⟨hne, heq⟩ | happlies
  · exact SyncDecision.of_refusal hne (by rw [heq]; exact hpartnerSync.untouched)
  · have hzero : (correctSync partner.2 l m idx).1 = 0 := by
      obtain ⟨υ, -, heq, -⟩ := happlies
      rw [heq]
      rfl
    exact ⟨fun _ => hpartnerReady, fun _ => hready, fun _ => happlies, fun hne => absurd hzero hne⟩

/-- Whatever the slots hold, the decision to apply a request on two synced links is right, and a
refusal is without effect on what is to be applied. -/
theorem checkSyncReqIsReady_decides (σ : Links) {l m : ℕ} (idx : ℕ)
    (hsync : (σ l).sync.syncLink = some m) :
    SyncDecision σ l m idx (checkSyncReqIsReady σ l idx) := by
  have heagain : -Errno.EAGAIN ≠ 0 := by decide
  have heinval : -Errno.EINVAL ≠ 0 := by decide
  unfold checkSyncReqIsReady
  rw [hsync]
  dsimp only
  by_cases hskip : (σ m).sync.initialSkip = true
  · rw [if_pos hskip]
    exact sync_decision_refused heagain
      ((setSync_syncOnly σ l _).untouched.trans (injectDelayOn_untouched _ l idx))
  · rw [if_neg hskip]
    obtain ⟨τ, hτ⟩ : ∃ τ, τ = setSync σ l fun s => { s with initialSkip := false } := ⟨_, rfl⟩
    have hτσ : SyncOnly σ τ := by
      rw [hτ]
      exact setSync_syncOnly σ l _
    rw [← hτ]
    by_cases hfirst : (σ l).sync.initialSkip = true ∧ skipsFirstFrame (τ l).sync (τ m).sync = true
    · rw [if_pos hfirst]
      exact sync_decision_refused heagain (hτσ.untouched.trans (injectDelayOn_untouched τ l idx))
    rw [if_neg hfirst]
    by_cases hsof : (τ m).sync.syncLinkSofSkip = true
    · rw [if_pos hsof]
      exact sync_decision_refused heagain
        ((hτσ.trans (setSync_syncOnly τ m _)).untouched.trans (injectDelayOn_untouched _ l idx))
    rw [if_neg hsof]
    have hinj : Untouched σ (injectDelayOn τ l idx).2 :=
      hτσ.untouched.trans (injectDelayOn_untouched τ l idx)
    split
    · exact sync_decision_refused heagain hinj
    rename_i i hfind
    split
    · exact sync_decision_refused heagain hinj
    have hchecked : Untouched σ
        (checkLinkOn (checkLinkOn (injectDelayOn τ l idx).2 l idx true).2 m i true).2 :=
      hinj.trans ((checkLinkOn_syncOnly _ l idx).trans (checkLinkOn_syncOnly _ m i)).untouched
    split
    · split
      · exact sync_decision_refused heinval (hchecked.trans (setSync_syncOnly _ l _).untouched)
      · exact sync_decision_refused heinval hchecked
    split
    · exact sync_decision_refused heinval hchecked
    rename_i hsame hready
    rw [Bool.not_eq_false, decide_eq_true_eq] at hready
    obtain ⟨hdelay, hown⟩ := hready
    rw [injectDelayOn_zero hdelay] at hfind hown hsame ⊢
    refine checked_decides hτσ hfind hown ?_
    simpa [hdelay, hown] using hsame

/-- A link whose every request is ready, synced to another. -/
def readyLink (partner : ℕ) : CoreLink :=
  { reservedLink 1 ⟨some partner, false, false, false, false, -1, 0, 0⟩ with
    maxDelay := 1
    pdMask := 2
    inQ := ⟨fun i => ⟨false, .reqAdded, 0, i + 1, syncModeSync⟩, 0, 1, 0⟩
    lTbl := [⟨1, 1, 1, 0, 0, fun _ => ⟨1, .ready, 0, 0, false, false⟩⟩] }

theorem checkSyncReqIsReady_decides_ready :
    SyncDecision (fun k => readyLink (1 - k)) 0 1 0
        (checkSyncReqIsReady (fun k => readyLink (1 - k)) 0 0) ∧
      (checkSyncReqIsReady (fun k => readyLink (1 - k)) 0 0).1 = 0 :=
  ⟨checkSyncReqIsReady_decides _ 0 rfl, by decide +kernel⟩

end CameraKernel.Crm
