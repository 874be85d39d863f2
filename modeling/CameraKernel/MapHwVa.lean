import CameraKernel.Smmu

/-! Mapping one buffer for several SMMU handles, with the rollback of what was mapped when a handle
fails. -/
namespace CameraKernel.Smmu
open MemMgr (has MemFlag getDmaDir)

/-- The mapping of one handle: the protected mode has a variant of its own. -/
def mapHdl (flags fd : BitVec 32) (region : RegionId) (hdl : BitVec 32) (env : MapAnswers)
    (s : SmmuState) : ℤ × SmmuState :=
  if has flags .protectedMode then mapStage2Iova hdl fd (getDmaDir flags) env s
  else mapUserIova hdl fd (getDmaDir flags) region env s

def unmapHdl (flags fd hdl : BitVec 32) (s : SmmuState) : SmmuState :=
  if has flags .protectedMode then (unmapStage2Iova hdl fd s).2 else (unmapUserIova hdl fd s).2

/-- The loops `for (--i; i > 0; i--)` behind `multi_map_fail`, from the decremented `i` on. -/
def rollback (flags fd : BitVec 32) (mmuHdls : List (BitVec 32)) : ℕ → SmmuState → SmmuState
  | 0, s => s
  | i + 1, s => rollback flags fd mmuHdls i (unmapHdl flags fd (mmuHdls.getD (i + 1) 0) s)

/-- The mapping loop from handle `i` on: the code, the handle that failed, and the state. -/
def mapFrom (flags fd : BitVec 32) (region : RegionId) (env : ℕ → MapAnswers) :
    ℕ → ℤ → List (BitVec 32) → SmmuState → ℤ × Option ℕ × SmmuState
  | _, rc, [], s => (rc, none, s)
  | i, _, hdl :: hdls, s =>
    match mapHdl flags fd region hdl (env i) s with
    | (rc, s) => if rc < 0 then (rc, some i, s) else mapFrom flags fd region env (i + 1) rc hdls s

/-- `cam_mem_util_map_hw_va`; `env` has the answers to the mapping of each handle. -/
def mapHwVa (flags : BitVec 32) (mmuHdls : List (BitVec 32)) (fd : BitVec 32) (region : RegionId)
    (env : ℕ → MapAnswers) (s : SmmuState) : ℤ × SmmuState :=
  if getDmaDir flags < 0 then (getDmaDir flags, s)
  else
    match mapFrom flags fd region env 0 (-1) mmuHdls s with
    | (rc, none, s) => (rc, s)
    | (rc, some i, s) => (rc, rollback flags fd mmuHdls (i - 1) s)

/-- The handle at which the mapping fails. -/
def failsAt (flags : BitVec 32) (mmuHdls : List (BitVec 32)) (fd : BitVec 32) (region : RegionId)
    (env : ℕ → MapAnswers) (s : SmmuState) : Option ℕ :=
  if getDmaDir flags < 0 then none else (mapFrom flags fd region env 0 (-1) mmuHdls s).2.1

/-- After an error the banks are as before. -/
def RollsBack (flags : BitVec 32) (mmuHdls : List (BitVec 32)) (fd : BitVec 32) (region : RegionId)
    (env : ℕ → MapAnswers) (s : SmmuState) : Prop :=
  (mapHwVa flags mmuHdls fd region env s).1 < 0 →
    (mapHwVa flags mmuHdls fd region env s).2.cbInfo = s.cbInfo

variable {flags fd : BitVec 32} {region : RegionId} {env : ℕ → MapAnswers}

lemma mapHdl_holds (flags fd : BitVec 32) (region : RegionId) (hdl : BitVec 32) (env : MapAnswers)
    (s : SmmuState) :
    ((mapHdl flags fd region hdl env s).1 < 0 ∧
        (mapHdl flags fd region hdl env s).2.cbInfo = s.cbInfo) ∨
      ((mapHdl flags fd region hdl env s).1 = 0 ∧
        ∀ j, ((mapHdl flags fd region hdl env s).2.cbInfo j).holds fd =
          (s.cbInfo j).holds fd + if j = getSmmuTableIdx hdl then 1 else 0) := by
  rw [mapHdl]
  split_ifs
  · exact mapStage2Iova_holds hdl fd (getDmaDir flags) env s
  · exact mapUserIova_holds hdl fd (getDmaDir flags) region env s

lemma unmapHdl_holds (flags fd hdl : BitVec 32) (s : SmmuState) (j : ℕ) :
    (s.cbInfo j).holds fd - (if j = getSmmuTableIdx hdl then 1 else 0) ≤
      ((unmapHdl flags fd hdl s).cbInfo j).holds fd := by
  rw [unmapHdl]
  cases has flags .protectedMode with
  | true => exact unmapStage2Iova_holds hdl fd s j
  | false => exact unmapUserIova_holds hdl fd s j

/-- How many of the handles belong to a bank. -/
def hdlsOf (j : ℕ) (mmuHdls : List (BitVec 32)) : ℕ :=
  mmuHdls.countP fun hdl => getSmmuTableIdx hdl = j

lemma hdlsOf_cons (j : ℕ) (hdl : BitVec 32) (hdls : List (BitVec 32)) :
    (hdlsOf j (hdl :: hdls) : ℤ) = (if j = getSmmuTableIdx hdl then 1 else 0) + hdlsOf j hdls := by
  simp only [hdlsOf, List.countP_cons, decide_eq_true_eq, eq_comm (a := j)]
  push_cast
  ring

/-- How a mapping loop ends: with the error of handle `i + n`, or with the code of the last handle. -/
inductive LoopEnd (i : ℕ) (rc : ℤ) (mmuHdls : List (BitVec 32)) :
    ℕ → ℤ × Option ℕ × SmmuState → Prop
  | failed {n : ℕ} {code : ℤ} {s : SmmuState} (hn : n < mmuHdls.length) (hcode : code < 0) :
      LoopEnd i rc mmuHdls n (code, some (i + n), s)
  | done {code : ℤ} {s : SmmuState} (hcode : code = if mmuHdls = [] then rc else 0) :
      LoopEnd i rc mmuHdls mmuHdls.length (code, none, s)

lemma mapFrom_holds (flags fd : BitVec 32) (region : RegionId) (env : ℕ → MapAnswers) (i : ℕ) (rc : ℤ)
    (mmuHdls : List (BitVec 32)) (s : SmmuState) :
    ∃ n, LoopEnd i rc mmuHdls n (mapFrom flags fd region env i rc mmuHdls s) ∧
      (n = 0 → (mapFrom flags fd region env i rc mmuHdls s).2.2.cbInfo = s.cbInfo) ∧
      ∀ j, ((mapFrom flags fd region env i rc mmuHdls s).2.2.cbInfo j).holds fd =
        (s.cbInfo j).holds fd + hdlsOf j (mmuHdls.take n) := by
  induction mmuHdls generalizing i rc s with
  | nil => exact ⟨0, .done (by simp), fun _ => rfl, fun j => by simp [mapFrom, hdlsOf]⟩
  | cons hdl hdls ih =>
    obtain ⟨code, t, heq⟩ : ∃ code t, mapHdl flags fd region hdl (env i) s = (code, t) := ⟨_, _, rfl⟩
    have hmap := mapHdl_holds flags fd region hdl (env i) s
    rw [heq] at hmap
    dsimp only at hmap
    rw [mapFrom, heq]
    rcases hmap with ⟨hcode, hsame⟩ | ⟨hcode, hholds⟩
    · simp only [if_pos hcode]
      exact ⟨0, .failed (by simp) hcode, fun _ => hsame, fun j => by simp [hsame, hdlsOf]⟩
    · have hgoes : ¬code < 0 := by omega
      simp only [if_neg hgoes]
      obtain ⟨n, hend, -, hrest⟩ := ih (i + 1) code t
      refine ⟨n + 1, ?_, by omega, fun j => ?_⟩
      · generalize mapFrom flags fd region env (i + 1) code hdls t = result at hend
        cases hend with
        | failed hn hfail =>
          rw [Nat.add_right_comm, Nat.add_assoc]
          exact .failed (by simpa using hn) hfail
        | done hdone =>
          refine .done ?_
          rw [hdone, hcode]
          simp
      · rw [hrest j, hholds j, List.take_succ_cons, hdlsOf_cons]
        ring

lemma rollback_holds (flags fd : BitVec 32) (mmuHdls : List (BitVec 32)) (i : ℕ) (s : SmmuState)
    (j : ℕ) (hi : i < mmuHdls.length) :
    (s.cbInfo j).holds fd - hdlsOf j (mmuHdls.tail.take i) ≤
      ((rollback flags fd mmuHdls i s).cbInfo j).holds fd := by
  induction i generalizing s with
  | zero => simp [rollback, hdlsOf]
  | succ i ih =>
    have hget : mmuHdls.tail[i]? = some (mmuHdls.getD (i + 1) 0) := by
      rw [List.getElem?_tail, List.getD_eq_getElem?_getD, List.getElem?_eq_getElem hi,
        Option.getD_some]
    have hsplit : (hdlsOf j (mmuHdls.tail.take (i + 1)) : ℤ) = hdlsOf j (mmuHdls.tail.take i) +
        if j = getSmmuTableIdx (mmuHdls.getD (i + 1) 0) then 1 else 0 := by
      rw [List.take_add_one, hget, Option.toList_some]
      simp only [hdlsOf, List.countP_append, List.countP_singleton, decide_eq_true_eq,
        eq_comm (a := j)]
      push_cast
      rfl
    have hunmap := unmapHdl_holds flags fd (mmuHdls.getD (i + 1) 0) s j
    have hrest := ih (unmapHdl flags fd (mmuHdls.getD (i + 1) 0) s) (by omega)
    rw [rollback, hsplit]
    omega

lemma mapHwVa_holds {mmuHdls : List (BitVec 32)} {s : SmmuState}
    (h : (mapHwVa flags mmuHdls fd region env s).1 = 0) :
    mmuHdls ≠ [] ∧ ∀ j, ((mapHwVa flags mmuHdls fd region env s).2.cbInfo j).holds fd =
      (s.cbInfo j).holds fd + hdlsOf j mmuHdls := by
  rw [mapHwVa] at h ⊢
  by_cases hdir : getDmaDir flags < 0
  · rw [if_pos hdir] at h
    dsimp only at h
    omega
  · rw [if_neg hdir] at h ⊢
    obtain ⟨n, hend, -, hholds⟩ := mapFrom_holds flags fd region env 0 (-1) mmuHdls s
    generalize mapFrom flags fd region env 0 (-1) mmuHdls s = result at h hend hholds ⊢
    cases hend with
    | failed hn hfail =>
      dsimp only at h
      omega
    | done hdone =>
      dsimp only at h hholds ⊢
      rw [List.take_length] at hholds
      refine ⟨fun hnil => ?_, hholds⟩
      rw [hdone, if_pos hnil] at h
      omega

/-- After an error the banks are as before unless a handle behind the first fails. -/
theorem mapHwVa_rollsBack_iff (flags : BitVec 32) (mmuHdls : List (BitVec 32)) (fd : BitVec 32)
    (region : RegionId) (env : ℕ → MapAnswers) (s : SmmuState) :
    RollsBack flags mmuHdls fd region env s ↔
      ∀ k, failsAt flags mmuHdls fd region env s = some k → k = 0 := by
  rw [RollsBack, mapHwVa, failsAt]
  by_cases hdir : getDmaDir flags < 0
  · rw [if_pos hdir, if_pos hdir]
    exact iff_of_true (fun _ => rfl) (fun k hk => by simp at hk)
  rw [if_neg hdir, if_neg hdir]
  obtain ⟨n, hend, hnone, hholds⟩ := mapFrom_holds flags fd region env 0 (-1) mmuHdls s
  generalize mapFrom flags fd region env 0 (-1) mmuHdls s = result at hend hnone hholds ⊢
  cases hend with
  | @done code t hdone =>
    dsimp only at hnone ⊢
    refine iff_of_true (fun hcode => hnone ?_) (fun k hk => by simp at hk)
    by_contra hlen
    rw [hdone, if_neg (fun hnil => hlen (by rw [hnil]; rfl))] at hcode
    omega
  | @failed n code t hn hfail =>
    dsimp only at hnone hholds ⊢
    rw [Nat.zero_add]
    rcases Nat.eq_zero_or_pos n with hzero | hpos
    · subst hzero
      exact iff_of_true (fun _ => hnone rfl) (fun k hk => (Option.some.inj hk).symm)
    · refine iff_of_false (fun hback => ?_) (fun hall => hpos.ne' (hall n rfl))
      -- the bank of the first handle holds the buffer once more than before
      cases mmuHdls with
      | nil => simp at hn
      | cons hdl hdls =>
        obtain ⟨m, rfl⟩ : ∃ m, n = m + 1 := ⟨n - 1, by omega⟩
        have hmapped := hholds (getSmmuTableIdx hdl)
        have hheld := rollback_holds flags fd (hdl :: hdls) m t (getSmmuTableIdx hdl) (by omega)
        rw [List.take_succ_cons, hdlsOf_cons, if_pos rfl] at hmapped
        have hsame := congrFun (hback hfail) (getSmmuTableIdx hdl)
        simp only [Nat.add_sub_cancel] at hsame
        rw [List.tail_cons, hsame] at hheld
        omega

/-- One bank, with handle `0x1234` and no buffers. -/
def emptyBank : SmmuState := ⟨1, fun _ => ⟨0x1234, false, true, [], []⟩, []⟩

/-- Every primitive succeeds, and the buffer has number 9. -/
def goodAnswers : MapAnswers := ⟨.ok 9, none, none, 0, true, true, 4096, 4096⟩

theorem mapHwVa_leavesFirst :
    ¬∀ (flags : BitVec 32) (mmuHdls : List (BitVec 32)) (fd : BitVec 32) (region : RegionId)
      (env : ℕ → MapAnswers) (s : SmmuState), mmuHdls.length ≤ MemMgr.mmuMaxHandle →
        RollsBack flags mmuHdls fd region env s := by
  intro hall
  have hback := hall 1 [0x1234, -1] 3 .io (fun _ => goodAnswers) emptyBank (by decide) (by decide)
  have hlist := congrArg ContextBank.smmuBufList (congrFun hback 0)
  revert hlist
  decide

end CameraKernel.Smmu
