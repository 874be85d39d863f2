import CameraKernel.CrmTables

/-! A traversal takes effect on all tables or on none, each at its own place in the ring. -/
namespace CameraKernel.Crm
variable {inQ : ReqQueue} {lTbl : List ReqTbl} {idx : ℕ}

/-- The place of the table with delay `p` when the table with delay `maxPd` is at `idx`. -/
def tblIdx (maxPd idx p : ℕ) : ℕ := (((idx : ℤ) - ((maxPd : ℤ) - p)) % maxReqSlots).toNat

def maxPd (lTbl : List ReqTbl) : ℕ := (lTbl.head?.map (·.pd)).getD 0

/-- The mask of the delays of the tables, with a mask to begin with. -/
def delayMask (mask : BitVec 32) (lTbl : List ReqTbl) : BitVec 32 :=
  lTbl.foldr (fun t mask => mask ||| 1#32 <<< t.pd) mask

/-- What the tables apply when the table with delay `top` is at `idx`. -/
def applyAll (inQ : ReqQueue) (top idx : ℕ) (applyData : ℕ → Apply) (lTbl : List ReqTbl) :
    ℕ → Apply :=
  lTbl.foldr (fun t a => Function.update a t.pd (tblApply inQ t (tblIdx top idx t.pd) (a t.pd)))
    applyData

def skipDown (t : ReqTbl) : ReqTbl := { t with skipTraverse := t.skipTraverse - 1 }

def allReady (inQ : ReqQueue) (top idx : ℕ) (lTbl : List ReqTbl) : Prop :=
  ∀ t ∈ lTbl, tblReady inQ t (tblIdx top idx t.pd)

lemma tblIdx_self (h : idx < maxReqSlots) (p : ℕ) : tblIdx p idx p = idx := by
  unfold tblIdx
  rw [sub_self, sub_zero, Int.emod_eq_of_lt (Int.natCast_nonneg _) (Int.ofNat_lt.2 h)]
  rfl

lemma decIdx_lt (h : idx < maxReqSlots) {step : ℕ} (hstep : step < maxReqSlots) :
    decIdx idx step < maxReqSlots := by
  unfold decIdx maxReqSlots at *
  split <;> omega

lemma tblIdx_decIdx (h : idx < maxReqSlots) {top next p : ℕ} (hnext : next ≤ top)
    (htop : top < maxReqSlots) : tblIdx next (decIdx idx (top - next : ℕ)) p = tblIdx top idx p := by
  unfold tblIdx decIdx maxReqSlots at *
  congr 1
  split <;> omega

lemma applyAll_decIdx (applyData : ℕ → Apply) (h : idx < maxReqSlots) {top next : ℕ}
    (hnext : next ≤ top) (htop : top < maxReqSlots) :
    applyAll inQ next (decIdx idx (top - next : ℕ)) applyData lTbl =
      applyAll inQ top idx applyData lTbl := by
  unfold applyAll
  congr 1
  funext t a
  rw [tblIdx_decIdx h hnext htop]

lemma allReady_decIdx (h : idx < maxReqSlots) {top next : ℕ} (hnext : next ≤ top)
    (htop : top < maxReqSlots) :
    allReady inQ next (decIdx idx (top - next : ℕ)) lTbl ↔ allReady inQ top idx lTbl := by
  unfold allReady
  refine forall₂_congr fun t _ => ?_
  rw [tblIdx_decIdx h hnext htop]

lemma traverse_ready {tbl : ReqTbl} {rest : List ReqTbl} (h : Gaps (tbl :: rest))
    (hpd : tbl.pd < maxReqSlots) (hidx : idx < maxReqSlots)
    (hready : allReady inQ tbl.pd idx (tbl :: rest)) (validateOnly : Bool)
    (applyData : ℕ → Apply) (result : BitVec 32) :
    traverse inQ validateOnly applyData result idx (tbl :: rest) =
      ⟨0, delayMask result (tbl :: rest),
        if validateOnly then applyData else applyAll inQ tbl.pd idx applyData (tbl :: rest),
        if validateOnly then tbl :: rest else (tbl :: rest).map skipDown⟩ := by
  have hhead : tblReady inQ tbl idx := by
    have htbl := hready tbl List.mem_cons_self
    rwa [tblIdx_self hidx] at htbl
  induction rest generalizing tbl idx with
  | nil =>
    unfold traverse
    rw [if_pos hhead]
    cases validateOnly <;> simp [delayMask, applyAll, skipDown, tblIdx_self hidx]
  | cons next rest ih =>
    have hnext : next.pd ≤ tbl.pd := h.1.le
    have hstep : decIdx idx tbl.pdDelta = decIdx idx (tbl.pd - next.pd : ℕ) := by rw [h.2.1]
    have hidx' : decIdx idx (tbl.pd - next.pd : ℕ) < maxReqSlots :=
      decIdx_lt hidx (by omega)
    have hrest : allReady inQ next.pd (decIdx idx (tbl.pd - next.pd : ℕ)) (next :: rest) :=
      (allReady_decIdx hidx hnext hpd).2 fun t ht => hready t (List.mem_cons_of_mem _ ht)
    have hnextReady := hrest next List.mem_cons_self
    rw [tblIdx_self hidx'] at hnextReady
    have hbelow := ih h.2.2 (h.1.trans hpd) hidx' hrest hnextReady
    rw [applyAll_decIdx applyData hidx hnext hpd] at hbelow
    unfold traverse
    rw [if_pos hhead]
    simp only [hstep, hbelow]
    cases validateOnly <;> simp [delayMask, applyAll, skipDown, tblIdx_self hidx]

lemma eagain_neg : -Errno.EAGAIN < 0 := by decide

lemma traverse_notReady {tbl : ReqTbl} {rest : List ReqTbl} (h : Gaps (tbl :: rest))
    (hpd : tbl.pd < maxReqSlots) (hidx : idx < maxReqSlots)
    (hready : ¬allReady inQ tbl.pd idx (tbl :: rest)) (validateOnly : Bool)
    (applyData : ℕ → Apply) (result : BitVec 32) :
    (traverse inQ validateOnly applyData result idx (tbl :: rest)).rc < 0 ∧
      (traverse inQ validateOnly applyData result idx (tbl :: rest)).applyData = applyData ∧
      (traverse inQ validateOnly applyData result idx (tbl :: rest)).lTbl = tbl :: rest := by
  induction rest generalizing tbl idx with
  | nil =>
    have hhead : ¬tblReady inQ tbl idx := fun hhead => hready fun t ht => by
      rw [List.mem_singleton.1 ht, tblIdx_self hidx]
      exact hhead
    unfold traverse
    rw [if_neg hhead]
    exact ⟨eagain_neg, rfl, rfl⟩
  | cons next rest ih =>
    unfold traverse
    by_cases hhead : tblReady inQ tbl idx
    · have hnext : next.pd ≤ tbl.pd := h.1.le
      have hstep : decIdx idx tbl.pdDelta = decIdx idx (tbl.pd - next.pd : ℕ) := by rw [h.2.1]
      have hidx' : decIdx idx (tbl.pd - next.pd : ℕ) < maxReqSlots :=
        decIdx_lt hidx (by omega)
      have hrest : ¬allReady inQ next.pd (decIdx idx (tbl.pd - next.pd : ℕ)) (next :: rest) := by
        rw [allReady_decIdx hidx hnext hpd]
        refine fun hrest => hready fun t ht => ?_
        rcases List.mem_cons.1 ht with rfl | ht
        · rw [tblIdx_self hidx]
          exact hhead
        · exact hrest t ht
      obtain ⟨hrc, happly, htbls⟩ := ih h.2.2 (h.1.trans hpd) hidx' hrest
      rw [if_pos hhead]
      simp only [hstep, if_neg (not_le.2 hrc)]
      exact ⟨hrc, happly, congrArg (tbl :: ·) htbls⟩
    · rw [if_neg hhead]
      exact ⟨eagain_neg, rfl, rfl⟩

lemma delayMask_getLsbD (mask : BitVec 32) (lTbl : List ReqTbl) {p : ℕ} (hp : p < 32) :
    (delayMask mask lTbl).getLsbD p = true ↔ mask.getLsbD p = true ∨ ∃ t ∈ lTbl, t.pd = p := by
  induction lTbl with
  | nil => simp [delayMask]
  | cons t rest ih =>
    rw [delayMask, List.foldr_cons, getLsbD_or_shift _ _ _ hp, Bool.or_eq_true, ← delayMask, ih,
      decide_eq_true_iff, or_assoc]
    refine or_congr Iff.rfl ?_
    constructor
    · rintro (⟨u, hu, hpd⟩ | heq)
      · exact ⟨u, List.mem_cons_of_mem _ hu, hpd⟩
      · exact ⟨t, List.mem_cons_self, heq.symm⟩
    · rintro ⟨u, hu, hpd⟩
      rcases List.mem_cons.1 hu with rfl | hu
      · exact Or.inr hpd.symm
      · exact Or.inl ⟨u, hu, hpd⟩

lemma applyAll_of_ne (inQ : ReqQueue) (top idx : ℕ) (applyData : ℕ → Apply) {p : ℕ}
    (h : ∀ t ∈ lTbl, t.pd ≠ p) : applyAll inQ top idx applyData lTbl p = applyData p := by
  induction lTbl with
  | nil => rfl
  | cons t rest ih =>
    rw [applyAll, List.foldr_cons, Function.update_of_ne (h t List.mem_cons_self).symm]
    exact ih fun u hu => h u (List.mem_cons_of_mem _ hu)

lemma applyAll_of_mem (inQ : ReqQueue) (top idx : ℕ) (applyData : ℕ → Apply) (h : Gaps lTbl)
    {t : ReqTbl} (ht : t ∈ lTbl) :
    applyAll inQ top idx applyData lTbl t.pd =
      tblApply inQ t (tblIdx top idx t.pd) (applyData t.pd) := by
  induction lTbl with
  | nil => simp at ht
  | cons u rest ih =>
    rcases List.mem_cons.1 ht with rfl | ht
    · have hrest : applyAll inQ top idx applyData rest t.pd = applyData t.pd :=
        applyAll_of_ne inQ top idx applyData fun v hv => (h.lt_head v hv).ne
      rw [applyAll, List.foldr_cons, Function.update_self, ← applyAll, hrest]
    · rw [applyAll, List.foldr_cons, Function.update_of_ne (h.lt_head t ht).ne]
      exact ih h.tail ht

/-- The effects of a traversal that returns 0. -/
structure Applied (inQ : ReqQueue) (idx : ℕ) (validateOnly : Bool) (applyData : ℕ → Apply)
    (lTbl : List ReqTbl) (r : Traverse) : Prop where
  result : ∀ p, r.result.getLsbD p = true ↔ ∃ t ∈ lTbl, t.pd = p
  validated : validateOnly = true → r.applyData = applyData ∧ r.lTbl = lTbl
  applied : validateOnly = false → ∀ t ∈ lTbl,
    (r.applyData t.pd).idx = tblIdx (maxPd lTbl) idx t.pd ∧ (r.applyData t.pd).pd = t.pd ∧
      (r.applyData t.pd).reqId =
        if 0 < t.skipTraverse then -1 else (inQ.slot (tblIdx (maxPd lTbl) idx t.pd)).reqId
  others : ∀ p, (∀ t ∈ lTbl, t.pd ≠ p) → r.applyData p = applyData p
  skipTraverse : validateOnly = false →
    r.lTbl = lTbl.map fun t => { t with skipTraverse := t.skipTraverse - 1 }

/-- It returns 0 just when every table is ready at its place, and else changes nothing. -/
theorem traverse_allOrNothing (h : SortedTables lTbl) (hidx : idx < maxReqSlots)
    (inQ : ReqQueue) (validateOnly : Bool) (applyData : ℕ → Apply) :
    ((traverse inQ validateOnly applyData 0 idx lTbl).rc = 0 ↔
        lTbl ≠ [] ∧ ∀ t ∈ lTbl, tblReady inQ t (tblIdx (maxPd lTbl) idx t.pd)) ∧
      ((traverse inQ validateOnly applyData 0 idx lTbl).rc = 0 →
        Applied inQ idx validateOnly applyData lTbl
          (traverse inQ validateOnly applyData 0 idx lTbl)) ∧
      ((traverse inQ validateOnly applyData 0 idx lTbl).rc ≠ 0 →
        (traverse inQ validateOnly applyData 0 idx lTbl).applyData = applyData ∧
          (traverse inQ validateOnly applyData 0 idx lTbl).lTbl = lTbl) := by
  cases lTbl with
  | nil =>
    have hrc : ¬-Errno.EINVAL = 0 := by decide
    exact ⟨iff_of_false hrc fun hne => hne.1 rfl, fun hzero => absurd hzero hrc,
      fun _ => ⟨rfl, rfl⟩⟩
  | cons tbl rest =>
    have hpd : tbl.pd < maxReqSlots := (h.accepted tbl List.mem_cons_self).trans (by decide)
    have hmax : maxPd (tbl :: rest) = tbl.pd := rfl
    by_cases hready : allReady inQ tbl.pd idx (tbl :: rest)
    · rw [traverse_ready h.gaps hpd hidx hready]
      refine ⟨iff_of_true rfl ⟨List.cons_ne_nil _ _, hready⟩, fun _ => ?_,
        fun hrc => absurd rfl hrc⟩
      constructor
      · intro p
        by_cases hp : p < 32
        · rw [delayMask_getLsbD _ _ hp]
          simp
        · rw [BitVec.getLsbD_of_ge _ _ (not_lt.1 hp)]
          refine iff_of_false Bool.false_ne_true fun ⟨t, ht, heq⟩ => hp ?_
          rw [← heq]
          exact (h.accepted t ht).trans (by decide)
      · intro hv
        simp [hv]
      · intro hv t ht
        simp only [hv, Bool.false_eq_true, if_false, applyAll_of_mem inQ _ _ _ h.gaps ht, hmax]
        exact ⟨rfl, rfl, rfl⟩
      · intro p hp
        cases validateOnly with
        | true => rfl
        | false => exact applyAll_of_ne inQ _ _ _ hp
      · intro hv
        simp only [hv, Bool.false_eq_true, if_false]
        rfl
    · obtain ⟨hrc, happly, htbls⟩ := traverse_notReady h.gaps hpd hidx hready validateOnly
        applyData 0
      exact ⟨iff_of_false hrc.ne fun hall => hready hall.2, fun hzero => absurd hzero hrc.ne,
        fun _ => ⟨happly, htbls⟩⟩

/-- Two tables, the lower one still skipping. -/
def twoTables : List ReqTbl :=
  [⟨2, 1, 1, 0, 1, fun _ => ⟨1, .ready, 0, 0, false, false⟩⟩,
    ⟨1, 1, 1, 1, 0, fun _ => ⟨0, .empty, 0, 0, false, false⟩⟩]

def queued : ReqQueue := ⟨fun i => ⟨false, .reqAdded, 0, i + 1, 0⟩, 0, 1, 0⟩

theorem traverse_allOrNothing_twoTables :
    ((traverse queued false (fun _ => zeroApply) 0 0 twoTables).applyData 1).idx = 47 ∧
      ((traverse queued false (fun _ => zeroApply) 0 0 twoTables).applyData 1).reqId = -1 := by
  have hsorted : SortedTables twoTables := by
    refine ⟨⟨by decide, rfl, rfl⟩, fun t ht => ?_⟩
    rcases List.mem_cons.1 ht with rfl | ht
    · decide
    · rw [List.mem_singleton.1 ht]
      decide
  have hzero : 0 < maxReqSlots := by decide
  obtain ⟨hiff, happlied, -⟩ := traverse_allOrNothing hsorted hzero queued false fun _ => zeroApply
  have hrc := hiff.2 ⟨List.cons_ne_nil _ _, fun t ht => by
    rcases List.mem_cons.1 ht with rfl | ht
    · exact Or.inl rfl
    · rw [List.mem_singleton.1 ht]
      exact Or.inr (Or.inr Nat.one_pos)⟩
  have happly := (happlied hrc).applied rfl ⟨1, 1, 1, 1, 0, fun _ => ⟨0, .empty, 0, 0, false, false⟩⟩
    (List.mem_cons_of_mem _ List.mem_cons_self)
  exact ⟨happly.1, happly.2.2⟩

end CameraKernel.Crm
