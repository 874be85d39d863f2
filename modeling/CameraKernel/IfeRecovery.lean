import CameraKernel.ListClosure

/-! The contexts and cores an IFE error recovery touches. The contexts are walked once, and
the set of cores grows on the way. -/
namespace CameraKernel.IfeRecovery
open ListClosure

abbrev hwNumMax : ℕ := 8
abbrev ctxMax : ℕ := 32

/-- `base` lists the cores of the context. -/
structure Ctx where
  ctxIndex : Fin ctxMax
  base : List (Fin hwNumMax)
  deriving DecidableEq, Repr

/-- The contexts come from the pool, so each is there once. -/
structure HwMgr where
  usedCtxList : List Ctx
  nodup : (usedCtxList.map Ctx.ctxIndex).Nodup

/-- What is handed to the recovery, which stops and restarts the contexts and resets the
cores, and the contexts whose `overflow_pending` is set and whose error callback is called. -/
structure RecoveryData where
  affectedCtx : List Ctx
  affectedCore : Fin hwNumMax → Bool
  overflowPending : List Ctx
  notified : List Ctx

/-- The cores found unaffected are marked when another one is affected. -/
def isCtxAffected (ctx : Ctx) (affectedCore : Fin hwNumMax → Bool) (size : ℕ) :
    Bool × (Fin hwNumMax → Bool) :=
  if hwNumMax ≤ ctx.base.length ∨ hwNumMax < size then (false, affectedCore)
  else
    let ctxAffectedCoreIdx := ctx.base.filter fun c => !affectedCore c
    if ctx.base.any affectedCore then
      (true, ctxAffectedCoreIdx.foldr (fun c a => Function.update a c true) affectedCore)
    else (false, affectedCore)

/-- The loop body. -/
def visit (r : RecoveryData) (ctx : Ctx) : RecoveryData :=
  match isCtxAffected ctx r.affectedCore hwNumMax with
  | (false, _) => r
  | (true, affectedCore) =>
    { affectedCtx := if r.affectedCtx.length < ctxMax then r.affectedCtx ++ [ctx] else r.affectedCtx
      affectedCore := affectedCore
      overflowPending := r.overflowPending ++ [ctx]
      notified := r.notified ++ [ctx] }

def findAffectedCtx (m : HwMgr) (currCoreIdx : Fin hwNumMax) : RecoveryData :=
  m.usedCtxList.foldl visit ⟨[], Function.update (fun _ => false) currCoreIdx true, [], []⟩

def uses (ctx : Ctx) (c : Fin hwNumMax) : Prop := c ∈ ctx.base

/-- The result is the least closed pair, and its contexts are told once each. -/
structure ReachesAll (m : HwMgr) (core : Fin hwNumMax) (r : RecoveryData) : Prop where
  closed : Closed uses m.usedCtxList core (fun c => r.affectedCore c = true) (· ∈ r.affectedCtx)
  least : ∀ K A, Closed uses m.usedCtxList core K A →
    (∀ c, r.affectedCore c = true → K c) ∧ ∀ ctx ∈ r.affectedCtx, A ctx
  nodup : r.affectedCtx.Nodup
  overflowPending : r.overflowPending = r.affectedCtx
  notified : r.notified = r.affectedCtx

/-- Every context that shares cores with the failing one, over others or not, does so along
the list, and has fewer cores than there are. -/
def LinkedAlongList (m : HwMgr) (core : Fin hwNumMax) : Prop :=
  ∀ i ctx, m.usedCtxList[i]? = some ctx → Linked uses m.usedCtxList core ctx →
    LinkedInOrder uses (fun ctx => ctx.base.length < hwNumMax) m.usedCtxList core i

variable {m : HwMgr} {core : Fin hwNumMax} {ctx : Ctx} {a : Fin hwNumMax → Bool}

lemma foldr_update (l : List (Fin hwNumMax)) (a : Fin hwNumMax → Bool) (c : Fin hwNumMax) :
    l.foldr (fun c a => Function.update a c true) a c = true ↔ a c = true ∨ c ∈ l := by
  induction l with
  | nil => simp
  | cons d l ih =>
    rw [List.foldr_cons, Function.update_apply, List.mem_cons]
    split_ifs with h
    · simp [h]
    · simp [ih, h]

lemma isCtxAffected_iff : (isCtxAffected ctx a hwNumMax).1 = true ↔
    ctx.base.length < hwNumMax ∧ ∃ c, uses ctx c ∧ a c = true := by
  rw [isCtxAffected]
  split_ifs with hmax hany
  · simp only [lt_irrefl, or_false] at hmax
    simp [hmax]
  · simp only [lt_irrefl, or_false, not_le] at hmax
    simpa [hmax, uses] using hany
  · simp only [List.any_eq_true, not_exists, not_and] at hany
    simpa [uses] using fun _ c hc => hany c hc

lemma isCtxAffected_core (h : (isCtxAffected ctx a hwNumMax).1 = true) (c : Fin hwNumMax) :
    (isCtxAffected ctx a hwNumMax).2 c = true ↔ a c = true ∨ uses ctx c := by
  rw [isCtxAffected] at h ⊢
  split_ifs at h ⊢
  rw [foldr_update, List.mem_filter, uses]
  cases a c <;> simp

/-- After the first `n` contexts. -/
structure Walked (m : HwMgr) (core : Fin hwNumMax) (n : ℕ) (r : RecoveryData) : Prop where
  cores : ∀ c, r.affectedCore c = true ↔
    PassKey uses (fun ctx => ctx.base.length < hwNumMax) m.usedCtxList core n c
  ctxs : ∀ ctx, ctx ∈ r.affectedCtx ↔
    PassElem uses (fun ctx => ctx.base.length < hwNumMax) m.usedCtxList core n ctx
  sub : r.affectedCtx.Sublist (m.usedCtxList.take n)
  overflowPending : r.overflowPending = r.affectedCtx
  notified : r.notified = r.affectedCtx

lemma HwMgr.length_le (m : HwMgr) : m.usedCtxList.length ≤ ctxMax := by
  simpa using m.nodup.length_le_card

lemma Walked.visit {n : ℕ} {r : RecoveryData} (h : Walked m core n r)
    (hctx : m.usedCtxList[n]? = some ctx) : Walked m core (n + 1) (visit r ctx) := by
  have hn := (List.getElem?_eq_some_iff.mp hctx).1
  have htake : m.usedCtxList.take (n + 1) = m.usedCtxList.take n ++ [ctx] := by
    rw [List.take_add_one, hctx]
    rfl
  have hlinked : (isCtxAffected ctx r.affectedCore hwNumMax).1 = true ↔
      LinkedInOrder uses (fun ctx => ctx.base.length < hwNumMax) m.usedCtxList core n := by
    rw [isCtxAffected_iff, linkedInOrder_iff hctx]
    simp only [h.cores]
  have hcore : (isCtxAffected ctx r.affectedCore hwNumMax).1 = true → ∀ c,
      (isCtxAffected ctx r.affectedCore hwNumMax).2 c = true ↔ r.affectedCore c = true ∨ uses ctx c :=
    isCtxAffected_core
  rw [IfeRecovery.visit]
  revert hlinked hcore
  generalize isCtxAffected ctx r.affectedCore hwNumMax = res
  obtain ⟨_ | _, affected⟩ := res
  · intro hlinked _
    have hno := hlinked.not.mp (by simp)
    refine ⟨fun c => ?_, fun ctx' => ?_, ?_, h.overflowPending, h.notified⟩
    · rw [passKey_succ hctx, h.cores]
      simp [hno]
    · rw [passElem_succ hctx, h.ctxs]
      simp [hno]
    · exact h.sub.trans (htake ▸ List.sublist_append_left _ _)
  · intro hlinked hcore
    have hyes := hlinked.mp rfl
    have hroom : r.affectedCtx.length < ctxMax := by
      have hle := h.sub.length_le
      have := m.length_le
      rw [List.length_take] at hle
      omega
    simp only [hroom, if_true]
    refine ⟨fun c => ?_, fun ctx' => ?_, ?_, by rw [h.overflowPending], by rw [h.notified]⟩
    · rw [passKey_succ hctx, ← h.cores, hcore rfl c]
      simp [hyes]
    · rw [passElem_succ hctx, ← h.ctxs, List.mem_append, List.mem_singleton]
      simp [hyes]
    · rw [htake]
      exact h.sub.append (List.Sublist.refl _)

lemma walked_foldl (m : HwMgr) (core : Fin hwNumMax) (n : ℕ) (hn : n ≤ m.usedCtxList.length) :
    Walked m core n ((m.usedCtxList.take n).foldl visit
      ⟨[], Function.update (fun _ => false) core true, [], []⟩) := by
  induction n with
  | zero =>
    refine ⟨fun c => ?_, fun ctx => ?_, List.Sublist.refl _, rfl, rfl⟩
    · rw [passKey_zero, List.take_zero, List.foldl_nil]
      simp [Function.update_apply]
    · simp [PassElem]
  | succ n ih =>
    have hget : m.usedCtxList[n]? = some m.usedCtxList[n] := List.getElem?_eq_getElem hn
    rw [List.take_add_one, hget, Option.toList_some, List.foldl_append, List.foldl_cons, List.foldl_nil]
    exact (ih (by omega)).visit hget

theorem findAffectedCtx_reachesAll_iff (m : HwMgr) (core : Fin hwNumMax) :
    ReachesAll m core (findAffectedCtx m core) ↔ LinkedAlongList m core := by
  have hw := walked_foldl m core m.usedCtxList.length le_rfl
  rw [List.take_length] at hw
  have hnodup : m.usedCtxList.Nodup := m.nodup.of_map
  have hclosed : Closed uses m.usedCtxList core (fun c => (findAffectedCtx m core).affectedCore c = true)
      (· ∈ (findAffectedCtx m core).affectedCtx) ↔ LinkedAlongList m core := by
    rw [LinkedAlongList, ← closed_pass_iff hnodup]
    have hkeys : (fun c => (findAffectedCtx m core).affectedCore c = true) = _ :=
      funext fun c => propext (hw.cores c)
    have helems : (fun ctx => ctx ∈ (findAffectedCtx m core).affectedCtx) = _ :=
      funext fun ctx => propext (hw.ctxs ctx)
    rw [hkeys, helems]
  refine ⟨fun h => hclosed.mp h.closed, fun h => ⟨hclosed.mpr h, fun K A hc => ⟨fun c hk => ?_, fun ctx he => ?_⟩,
    ?_, hw.overflowPending, hw.notified⟩⟩
  · exact hc.of_passKey ((hw.cores c).mp hk)
  · exact hc.of_passElem ((hw.ctxs ctx).mp he)
  · have hsub := hw.sub
    rw [List.take_length] at hsub
    exact hnodup.sublist hsub

/-- The failing core is on the second context, which shares a core with the first one. -/
def backwards : HwMgr := ⟨[⟨0, [1, 2]⟩, ⟨1, [0, 1]⟩], by decide⟩

theorem backwards_not_reachesAll : ¬ReachesAll backwards 0 (findAffectedCtx backwards 0) := by
  intro h
  exact absurd (h.closed.elem ⟨0, [1, 2]⟩ (by decide) 1 (by simp [uses]) (by decide)) (by decide)

end CameraKernel.IfeRecovery
