import CameraKernel.HolderCount
import CameraKernel.IfeStart

/-! The count of active contexts and the SAFE LUT are exact, and failed starts are undone, as
long as a start only fails where the driver undoes it in full. -/
namespace CameraKernel.IfeStart
variable {res : Resources} {a : Answers} {c : Ctx} {g : Glob}

/-- A failed start leaves nothing that it switched on itself. -/
structure Undone (before after : Ctx) : Prop where
  initDone : after.initDone = false
  inited : after.inited = []
  cdm : after.cdmOn = true → before.cdmOn = true
  tasklet : after.taskletActive = true → before.taskletActive = true

def initsAll (res : Resources) (a : Answers) : Bool := res.all.all fun n => a.initRc n = 0

/-- The first init that fails is one of a bus read. -/
def readInitFails (res : Resources) (a : Answers) : Bool :=
  (nodes (res.cid ++ res.csid ++ res.src)).all (fun n => a.initRc n = 0) &&
    !(nodes res.inRd).all fun n => a.initRc n = 0

def startsAll (res : Resources) (a : Answers) : Bool :=
  (slaveFirst (res.out ++ res.inRd ++ res.src ++ res.csid ++ res.cid)).all fun n => a.startRc n = 0

/-- The stop that undoes a start is effective, with `cnt` contexts left. -/
def stops (res : Resources) (a : Answers) (cnt : ℤ) : Bool :=
  res.numBase ≠ 0 && (cnt ≠ 0 || a.safeDisableRc = 0)

def startUndoes (res : Resources) (startOnly : Bool) (a : Answers) (c : Ctx) (cnt : ℤ) : Bool :=
  if !res.ctxInUse || !c.initDone && startOnly then true
  else if startOnly then startsAll res a || stops res a (cnt - 1)
  else
    !c.initDone &&
      if initsAll res a then
        (cnt ≠ 0 || a.safeEnableRc = 0) && a.streamOnRc = 0 && a.configRc = 0 &&
          (startsAll res a || a.streamOffRc = 0 && stops res a cnt)
      else !readInitFails res a

def stopMatches (res : Resources) (stopOnly : Bool) (a : Answers) (c : Ctx) (cnt : ℤ) : Bool :=
  stopOnly || !res.ctxInUse || res.numBase = 0 ||
    c.initDone && (cnt ≠ 1 || a.safeDisableRc = 0)

def undoes {ι : Type*} (res : ι → Resources) (s : State ι) : Op ι → Bool
  | .start i startOnly a => startUndoes (res i) startOnly a (s.ctx i) s.glob.activeCtxCnt
  | .stop i _ stopOnly a => stopMatches (res i) stopOnly a (s.ctx i) s.glob.activeCtxCnt

lemma initHwRes_all {rc : ℕ → ℤ} {ns : List ℕ} (h : ns.all (fun n => rc n = 0) = true)
    (inited : List ℕ) : initHwRes rc ns inited = (inited ++ ns, 0) := by
  induction ns generalizing inited with
  | nil => simp [initHwRes]
  | cons n ns ih =>
    obtain ⟨hn, hns⟩ := Bool.and_eq_true_iff.1 h
    rw [initHwRes, if_pos (of_decide_eq_true hn), ih hns, List.append_assoc, List.singleton_append]

lemma initHwRes_fails {rc : ℕ → ℤ} {ns : List ℕ} (h : ns.all (fun n => rc n = 0) = false)
    (inited : List ℕ) :
    ∃ done e, done <+: ns ∧ e ≠ 0 ∧ initHwRes rc ns inited = (inited ++ done, e) := by
  induction ns generalizing inited with
  | nil => cases h
  | cons n ns ih =>
    unfold initHwRes
    by_cases hn : rc n = 0
    · have hns : ns.all (fun n => rc n = 0) = false := by simpa [hn] using h
      obtain ⟨done, e, hdone, he, hinit⟩ := ih hns (inited ++ [n])
      rw [if_pos hn]
      refine ⟨n :: done, e, (List.prefix_cons_inj n).2 hdone, he, ?_⟩
      rw [hinit, List.append_assoc, List.singleton_append]
    · rw [if_neg hn]
      exact ⟨[], rc n, List.nil_prefix, hn, by rw [List.append_nil]⟩

lemma diff_self (l : List ℕ) : l.diff l = [] := by
  induction l with
  | nil => rfl
  | cons n l ih => rw [List.diff_cons, List.erase_cons_head, ih]

lemma diff_of_prefix {l m : List ℕ} (h : l <+: m) : l.diff m = [] := by
  obtain ⟨t, rfl⟩ := h
  rw [List.diff_append, diff_self, List.nil_diff]

lemma deinitHw_prefixed {inited : List ℕ} (h : inited <+: res.all) (hdone : c.initDone = true)
    (hinited : c.inited = inited) :
    deinitHw res c = { c with inited := [], initDone := false } := by
  rw [deinitHw, if_pos hdone, hinited, diff_of_prefix h]

lemma all_eq (res : Resources) :
    res.all = nodes (res.cid ++ res.csid ++ res.src) ++ nodes res.inRd ++ nodes res.out := by
  simp only [Resources.all, nodes, List.flatMap_append]

lemma initHw_all (hidle : c.inited = []) (h : initsAll res a = true) :
    initHw res a c = ({ c with inited := res.all }, 0) := by
  rw [initsAll, all_eq, List.all_append, List.all_append, Bool.and_eq_true, Bool.and_eq_true] at h
  obtain ⟨⟨hpix, hrd⟩, hout⟩ := h
  simp only [initHw, hidle, initHwRes_all hpix, initHwRes_all hrd, initHwRes_all hout,
    List.nil_append, ne_eq, not_true_eq_false, if_false]
  rw [all_eq]

lemma initHw_fails (hidle : c.inited = []) (h : initsAll res a = false)
    (hrd : readInitFails res a = false) :
    ∃ rc, rc ≠ 0 ∧ initHw res a c = ({ c with inited := [], initDone := false }, rc) := by
  have hundo : ∀ inited, inited <+: res.all →
      deinitHw res { c with inited, initDone := true } =
        { c with inited := [], initDone := false } := fun inited hprefix => by
    rw [deinitHw_prefixed hprefix rfl rfl]
  unfold initHw
  cases hpix : (nodes (res.cid ++ res.csid ++ res.src)).all fun n => a.initRc n = 0 with
  | false =>
    obtain ⟨done, e, hdone, he, hinit⟩ := initHwRes_fails hpix []
    refine ⟨e, he, ?_⟩
    simp only [hidle, hinit, List.nil_append, he, ne_eq, not_false_eq_true, if_true]
    rw [hundo done (hdone.trans ?_)]
    rw [all_eq]
    exact (List.prefix_append _ _).trans (List.prefix_append _ _)
  | true =>
    have hread : (nodes res.inRd).all (fun n => a.initRc n = 0) = true := by
      rw [readInitFails, hpix, Bool.true_and, Bool.not_eq_false'] at hrd
      exact hrd
    have hout : (nodes res.out).all (fun n => a.initRc n = 0) = false := by
      rw [initsAll, all_eq, List.all_append, List.all_append, hpix, hread] at h
      exact h
    obtain ⟨done, e, hdone, he, hinit⟩ := initHwRes_fails hout
      (nodes (res.cid ++ res.csid ++ res.src) ++ nodes res.inRd)
    refine ⟨e, he, ?_⟩
    simp only [hidle, initHwRes_all hpix, initHwRes_all hread, hinit, List.nil_append, ne_eq,
      not_true_eq_false, if_false, he, not_false_eq_true, if_true]
    rw [hundo _ ?_]
    rw [all_eq]
    exact (List.prefix_append_right_inj _).2 hdone

/-- A context between calls. -/
structure Settled (res : Resources) (c : Ctx) : Prop where
  started : c.started = c.initDone
  idle : c.initDone = false → c.inited = []
  busy : c.initDone = true → c.inited = res.all ∧ res.ctxInUse = true

structure Shared (g : Glob) : Prop where
  safe : g.safeOn = decide (0 < g.activeCtxCnt)
  mutex : g.mutexHeld = false
  cnt : 0 ≤ g.activeCtxCnt

/-- A call returns, and the count moves as the context does. -/
structure Accounted (res : Resources) (c : Ctx) (g : Glob) (r : Ctx × Glob × Option ℤ) : Prop where
  settled : Settled res r.1
  shared : Shared r.2.1
  count : r.2.1.activeCtxCnt + c.started.toNat = g.activeCtxCnt + r.1.started.toNat
  returned : r.2.2.isSome = true

lemma Accounted.refused (h : Settled res c) (hg : Shared g) (rc : ℤ) :
    Accounted res c g (c, g, some rc) := ⟨h, hg, rfl, rfl⟩

/-- The shared state after a full stop. -/
def Glob.drop (g : Glob) (a : Answers) : Glob :=
  let g := { g with activeCtxCnt := g.activeCtxCnt - 1 }
  if g.activeCtxCnt = 0 then g.safe false a.safeDisableRc else g

lemma drop_cnt (g : Glob) (a : Answers) : (g.drop a).activeCtxCnt = g.activeCtxCnt - 1 := by
  simp only [Glob.drop, Glob.safe]
  split
  · split <;> rfl
  · rfl

lemma drop_shared (h : Shared g) (hpos : 0 < g.activeCtxCnt)
    (hlast : g.activeCtxCnt = 1 → a.safeDisableRc = 0) : Shared (g.drop a) := by
  have hsafe : g.safeOn = true := by rw [h.safe, decide_eq_true hpos]
  refine ⟨?_, ?_, by rw [drop_cnt]; omega⟩
  · rw [drop_cnt]
    unfold Glob.drop Glob.safe
    by_cases hzero : g.activeCtxCnt - 1 = 0
    · simp [hzero, hlast (by omega)]
    · have hleft : 0 < g.activeCtxCnt - 1 := by omega
      simp only [hzero, if_false, hsafe, decide_eq_true hleft]
  · simp only [Glob.drop, Glob.safe]
    split
    · split <;> exact h.mutex
    · exact h.mutex

/-- The context after a full stop. -/
def stopped (a : Answers) (c : Ctx) : Ctx :=
  { c with initDone := false, inited := [], taskletActive := false, started := false,
           cdmOn := if a.streamOffRc = 0 then false else c.cdmOn }

lemma stopHw_full (huse : res.ctxInUse = true) (hbase : res.numBase ≠ 0)
    (hdone : c.initDone = true) (hinited : c.inited = res.all) (hmutex : g.mutexHeld = false)
    (immediately : Bool) :
    stopHw res immediately false a c g = (stopped a c, g.drop a, some 0) := by
  have hdeinit : ∀ cdmOn, deinitHw res { c with taskletActive := false, cdmOn } =
      { c with taskletActive := false, cdmOn, inited := [], initDone := false } := fun cdmOn =>
    deinitHw_prefixed (List.prefix_refl res.all) hdone hinited
  obtain ⟨cnt, safeOn, mutexHeld⟩ := g
  simp only at hmutex
  subst hmutex
  simp only [stopHw, huse, hbase, Bool.not_true, Bool.and_false, Bool.false_eq_true,
    if_false, stopped]
  by_cases hoff : a.streamOffRc = 0
  · simp only [hoff, if_true, hdeinit]
    rfl
  · simp only [hoff, if_false, hdeinit]
    rfl

lemma stopped_settled (res : Resources) (a : Answers) (c : Ctx) : Settled res (stopped a c) :=
  ⟨rfl, fun _ => rfl, fun h => by cases h⟩

lemma startHwRes_eq_zero (rc : ℕ → ℤ) (ns : List ℕ) :
    startHwRes rc ns = 0 ↔ ns.all (fun n => rc n = 0) = true := by
  induction ns with
  | nil => simp [startHwRes]
  | cons n ns ih =>
    unfold startHwRes
    by_cases hn : rc n = 0
    · rw [if_pos hn, ih, List.all_cons, decide_eq_true hn, Bool.true_and]
    · rw [if_neg hn]
      simp [hn]

lemma stopHw_accounted (h : Settled res c) (hg : Shared g)
    (hcnt : (c.started.toNat : ℤ) ≤ g.activeCtxCnt) (immediately : Bool) {stopOnly : Bool}
    (hok : stopMatches res stopOnly a c g.activeCtxCnt = true) :
    Accounted res c g (stopHw res immediately stopOnly a c g) := by
  by_cases huse : res.ctxInUse = true
  · by_cases hboth : (immediately && stopOnly) = true
    · simp only [stopHw, huse, hboth, Bool.not_true, Bool.false_eq_true, if_false, if_true]
      exact .refused h hg _
    · by_cases hbase : res.numBase = 0
      · simp only [stopHw, huse, hboth, hbase, Bool.not_true, Bool.false_eq_true, if_false, if_true]
        exact .refused h hg _
      · cases stopOnly with
        | true =>
          simp only [stopHw, huse, hboth, hbase, Bool.not_true, Bool.false_eq_true, if_false,
            if_true]
          exact ⟨⟨h.started, h.idle, h.busy⟩, hg, rfl, rfl⟩
        | false =>
          simp only [stopMatches, huse, hbase, Bool.not_true, Bool.false_or, decide_false,
            Bool.and_eq_true, Bool.or_eq_true, decide_eq_true_eq] at hok
          obtain ⟨hdone, hsafe⟩ := hok
          have hstarted : c.started = true := h.started.trans hdone
          rw [hstarted] at hcnt
          have hpos : 0 < g.activeCtxCnt := Int.lt_of_lt_of_le Int.one_pos hcnt
          rw [stopHw_full huse hbase hdone (h.busy hdone).1 hg.mutex]
          refine ⟨stopped_settled res a c, drop_shared hg hpos fun hone => ?_, ?_, rfl⟩
          · exact hsafe.resolve_left (not_not_intro hone)
          · rw [drop_cnt, hstarted]
            simp [stopped]
  · rw [Bool.not_eq_true] at huse
    simp only [stopHw, huse, Bool.not_false, if_true]
    exact .refused h hg _

lemma startOut_spec (huse : res.ctxInUse = true) (hdone : c.initDone = true)
    (hinited : c.inited = res.all) (hmutex : g.mutexHeld = false) :
    startsAll res a = true ∧ startOut res a c g = ({ c with started := true }, g, some 0) ∨
      startsAll res a = false ∧ (res.numBase ≠ 0 →
        ∃ rc, rc ≠ 0 ∧ startOut res a c g = (stopped a c, g.drop a, some rc)) := by
  unfold startOut
  cases hall : startsAll res a with
  | true =>
    have hrc := (startHwRes_eq_zero a.startRc _).2 hall
    rw [hrc]
    exact Or.inl ⟨rfl, rfl⟩
  | false =>
    refine Or.inr ⟨rfl, fun hbase => ?_⟩
    obtain ⟨rc, hrc⟩ : ∃ rc, rc = startHwRes a.startRc
        (slaveFirst (res.out ++ res.inRd ++ res.src ++ res.csid ++ res.cid)) := ⟨_, rfl⟩
    have hne : rc ≠ 0 := fun hzero => by
      rw [startsAll, (startHwRes_eq_zero a.startRc _).1 (hrc.symm.trans hzero)] at hall
      cases hall
    refine ⟨rc, hne, ?_⟩
    rw [← hrc]
    simp only [if_pos hne, stopHw_full huse hbase hdone hinited hmutex true]
    rfl

/-- What a start keeps, and what it undoes when it fails. -/
structure StartOk (res : Resources) (c : Ctx) (g : Glob) (r : Ctx × Glob × Option ℤ) : Prop where
  accounted : Accounted res c g r
  undone : r.2.2 ≠ some 0 → Undone c r.1

lemma StartOk.refused (h : Settled res c) (hg : Shared g) {rc : ℤ} (hdone : c.initDone = false) :
    StartOk res c g (c, g, some rc) :=
  ⟨.refused h hg rc, fun _ => ⟨hdone, h.idle hdone, id, id⟩⟩

lemma stopped_undone (before : Ctx)
    (hcdm : a.streamOffRc = 0 ∨ (c.cdmOn = true → before.cdmOn = true)) :
    Undone before (stopped a c) := by
  refine ⟨rfl, rfl, fun hon => ?_, fun hactive => by cases hactive⟩
  simp only [stopped] at hon
  split at hon
  · cases hon
  · rename_i hoff
    exact hcdm.resolve_left hoff hon

lemma restart_ok (h : Settled res c) (hg : Shared g) (hcnt : (c.started.toNat : ℤ) ≤ g.activeCtxCnt)
    (huse : res.ctxInUse = true) (hdone : c.initDone = true)
    (hok : (startsAll res a || stops res a (g.activeCtxCnt - 1)) = true) :
    StartOk res c g (startOut res a { c with taskletActive := true } g) := by
  have hstarted : c.started = true := h.started.trans hdone
  rcases startOut_spec (c := { c with taskletActive := true }) (a := a) huse hdone (h.busy hdone).1
    hg.mutex with ⟨-, heq⟩ | ⟨hall, hspec⟩
  · rw [heq]
    refine ⟨⟨⟨hdone.symm, h.idle, h.busy⟩, hg, ?_, rfl⟩, fun hrc => absurd rfl hrc⟩
    rw [hstarted]
  · rw [hall, Bool.false_or, stops, Bool.and_eq_true, decide_eq_true_eq, Bool.or_eq_true,
      decide_eq_true_eq, decide_eq_true_eq] at hok
    obtain ⟨rc, -, heq⟩ := hspec hok.1
    rw [hstarted] at hcnt
    have hpos : 0 < g.activeCtxCnt := Int.lt_of_lt_of_le Int.one_pos hcnt
    rw [heq]
    refine ⟨⟨stopped_settled res a _, drop_shared hg hpos fun hone => ?_, ?_, rfl⟩,
      fun _ => stopped_undone c (Or.inr id)⟩
    · exact hok.2.resolve_left fun hne => hne (by omega)
    · rw [drop_cnt, hstarted]
      simp [stopped]

/-- The count raised by a first start, with SAFE enabled. -/
def Glob.raise (g : Glob) : Glob :=
  if g.activeCtxCnt = 0 then { g with activeCtxCnt := g.activeCtxCnt + 1, safeOn := true }
  else { g with activeCtxCnt := g.activeCtxCnt + 1 }

lemma raise_cnt (g : Glob) : g.raise.activeCtxCnt = g.activeCtxCnt + 1 := by
  unfold Glob.raise
  split <;> rfl

lemma raise_shared (h : Shared g) : Shared g.raise := by
  have hcnt := h.cnt
  have hpos : 0 < g.raise.activeCtxCnt := by rw [raise_cnt]; omega
  refine ⟨?_, ?_, hpos.le⟩
  · rw [decide_eq_true hpos, Glob.raise]
    split
    · rfl
    · rename_i hne
      exact h.safe.trans (decide_eq_true (by omega))
  · unfold Glob.raise
    split <;> exact h.mutex

lemma startHw_raise (huse : res.ctxInUse = true) (hidle : c.initDone = false)
    (hinited : c.inited = []) (hmutex : g.mutexHeld = false) (hall : initsAll res a = true)
    (hsafe : g.activeCtxCnt ≠ 0 ∨ a.safeEnableRc = 0) (hon : a.streamOnRc = 0)
    (hconfig : a.configRc = 0) :
    startHw res false a c g =
      startOut res a { c with taskletActive := true, inited := res.all, initDone := true,
                              cdmOn := true } g.raise := by
  obtain ⟨cnt, safeOn, mutexHeld⟩ := g
  simp only at hmutex hsafe
  subst hmutex
  have hinit : initHw res a { c with taskletActive := true } =
      ({ c with taskletActive := true, inited := res.all }, 0) := initHw_all hinited hall
  simp only [hidle] at hinit
  have hfirst : ¬(cnt = 0 ∧ a.safeEnableRc ≠ 0) := fun h =>
    hsafe.elim (fun hne => hne h.1) h.2
  simp only [startHw, huse, hidle, Bool.not_true, Bool.and_false, Bool.false_eq_true, if_false,
    hinit, ne_eq, not_true_eq_false, hfirst, startCdm, hon, hconfig]
  unfold Glob.raise
  split <;> rfl

lemma start_ok (h : Settled res c) (hg : Shared g) (huse : res.ctxInUse = true)
    (hidle : c.initDone = false)
    (hok : startUndoes res false a c g.activeCtxCnt = true) :
    StartOk res c g (startHw res false a c g) := by
  have hnot : c.started = false := h.started.trans hidle
  simp only [startUndoes, huse, hidle, Bool.not_true, Bool.and_false, Bool.or_self,
    Bool.false_eq_true, if_false, Bool.not_false, Bool.true_and] at hok
  cases hall : initsAll res a with
  | false =>
    rw [hall, if_neg Bool.false_ne_true, Bool.not_eq_true'] at hok
    obtain ⟨rc, hrc, hinit⟩ := initHw_fails (c := { c with taskletActive := true })
      (h.idle hidle) hall hok
    simp only [hidle] at hinit
    have heq : startHw res false a c g =
        ({ c with taskletActive := false, inited := [], initDone := false, started := false }, g,
          some rc) := by
      simp only [startHw, huse, hidle, Bool.not_true, Bool.and_false, Bool.false_eq_true, if_false,
        hinit, ne_eq, hrc, not_false_eq_true, if_true, taskletStop]
    rw [heq]
    refine ⟨⟨⟨rfl, fun _ => rfl, fun hf => by cases hf⟩, hg, ?_, rfl⟩,
      fun _ => ⟨rfl, rfl, id, fun hf => by cases hf⟩⟩
    rw [hnot]
  | true =>
    rw [hall, if_pos rfl] at hok
    simp only [Bool.and_eq_true, Bool.or_eq_true, decide_eq_true_eq] at hok
    obtain ⟨⟨⟨hsafe, hon⟩, hconfig⟩, hstarts⟩ := hok
    rw [startHw_raise huse hidle (h.idle hidle) hg.mutex hall hsafe hon hconfig]
    have hraised := raise_shared hg
    have hcnt := hg.cnt
    obtain ⟨up, hup⟩ : ∃ up : Ctx, up = { c with taskletActive := true, inited := res.all,
                                                 initDone := true, cdmOn := true } := ⟨_, rfl⟩
    have hdone : up.initDone = true := by rw [hup]
    have hinited : up.inited = res.all := by rw [hup]
    rw [← hup]
    rcases startOut_spec (c := up) (a := a) huse hdone hinited hraised.mutex with
      ⟨-, heq⟩ | ⟨hfail, hspec⟩
    · rw [heq]
      refine ⟨⟨⟨hdone.symm, fun hf => ?_, fun _ => ⟨hinited, huse⟩⟩, hraised, ?_, rfl⟩,
        fun hrc => absurd rfl hrc⟩
      · rw [hup] at hf
        cases hf
      · rw [raise_cnt, hnot]
        exact Int.add_zero _
    · obtain ⟨hoff, hstops⟩ := hstarts.resolve_left (by rw [hfail]; exact Bool.false_ne_true)
      simp only [stops, Bool.and_eq_true, decide_eq_true_eq, Bool.or_eq_true] at hstops
      obtain ⟨rc, -, heq⟩ := hspec hstops.1
      rw [heq]
      refine ⟨⟨stopped_settled res a _, drop_shared hraised ?_ fun hone => ?_, ?_, rfl⟩,
        fun _ => stopped_undone c (Or.inl hoff)⟩
      · rw [raise_cnt]
        omega
      · rw [raise_cnt] at hone
        exact hstops.2.resolve_left fun hne => hne (by omega)
      · rw [drop_cnt, raise_cnt, hnot]
        simp [stopped]

lemma startHw_ok (h : Settled res c) (hg : Shared g)
    (hcnt : (c.started.toNat : ℤ) ≤ g.activeCtxCnt) {startOnly : Bool}
    (hok : startUndoes res startOnly a c g.activeCtxCnt = true) :
    StartOk res c g (startHw res startOnly a c g) := by
  cases huse : res.ctxInUse with
  | false =>
    have hidle : c.initDone = false := by
      refine Bool.eq_false_of_not_eq_true fun hdone => ?_
      rw [(h.busy hdone).2] at huse
      cases huse
    simp only [startHw, huse, Bool.not_false, if_true]
    exact .refused h hg hidle
  | true =>
    cases hdone : c.initDone with
    | false =>
      cases startOnly with
      | false => exact start_ok h hg huse hdone hok
      | true =>
        simp only [startHw, huse, hdone, Bool.not_true, Bool.not_false, Bool.and_true,
          Bool.false_eq_true, if_false, if_true]
        exact .refused h hg hdone
    | true =>
      cases startOnly with
      | false =>
        simp only [startUndoes, huse, hdone, Bool.not_true, Bool.and_false, Bool.or_self,
          Bool.false_eq_true, if_false, Bool.false_and] at hok
      | true =>
        simp only [startUndoes, huse, hdone, Bool.not_true, Bool.false_and, Bool.or_self,
          Bool.false_eq_true, if_false, if_true] at hok
        simp only [startHw, huse, hdone, Bool.not_true, Bool.false_eq_true, if_false,
          Bool.and_true, if_true]
        have hrestart := restart_ok h hg hcnt huse hdone hok
        simp only [hdone] at hrestart
        exact hrestart

section Runs
variable {ι : Type*} [Fintype ι] {res : ι → Resources} {s : State ι}

def startedCount (s : State ι) : ℕ := HolderCount.holders Ctx.started s.ctx

/-- What holds after each call. -/
structure Exact (s : State ι) : Prop where
  count : s.glob.activeCtxCnt = startedCount s
  safe : s.glob.safeOn = decide (0 < s.glob.activeCtxCnt)
  mutex : s.glob.mutexHeld = false

structure Inv (res : ι → Resources) (s : State ι) : Prop where
  exact : Exact s
  settled : ∀ i, Settled (res i) (s.ctx i)

lemma Inv.shared (h : Inv res s) : Shared s.glob :=
  ⟨h.exact.safe, h.exact.mutex, h.exact.count ▸ Int.natCast_nonneg _⟩

lemma init_inv (res : ι → Resources) : Inv res (init ι) := by
  refine ⟨⟨?_, rfl, rfl⟩, fun i => ⟨rfl, fun _ => rfl, fun hf => by cases hf⟩⟩
  rw [startedCount, HolderCount.holders_eq_zero fun _ => rfl]
  rfl

variable [DecidableEq ι]

lemma Inv.counted (h : Inv res s) (i : ι) :
    ((s.ctx i).started.toNat : ℤ) ≤ s.glob.activeCtxCnt := by
  rw [h.exact.count]
  cases hi : (s.ctx i).started with
  | false => exact Int.natCast_nonneg _
  | true => exact Int.ofNat_le.2 (HolderCount.holders_pos hi)

lemma Inv.put (h : Inv res s) {i : ι} {r : Ctx × Glob × Option ℤ}
    (hr : Accounted (res i) (s.ctx i) s.glob r) : Inv res (s.put i r).1 := by
  have hsum := HolderCount.holders_update Ctx.started s.ctx i r.1
  have hcount := hr.count
  rw [h.exact.count] at hcount
  refine ⟨⟨?_, hr.shared.safe, hr.shared.mutex⟩, fun j => ?_⟩
  · simp only [State.put, startedCount] at hcount ⊢
    omega
  · simp only [State.put]
    by_cases hj : j = i
    · subst hj
      rw [Function.update_self]
      exact hr.settled
    · rw [Function.update_of_ne hj]
      exact h.settled j

lemma call_accounted (h : Inv res s) {op : Op ι} (hop : undoes res s op = true) :
    Inv res (call res s op).1 ∧ (call res s op).2.isSome = true ∧
      ∀ i startOnly a, op = .start i startOnly a → (call res s op).2 ≠ some 0 →
        Undone (s.ctx i) ((call res s op).1.ctx i) := by
  cases op with
  | start i startOnly a =>
    have hstart := startHw_ok (h.settled i) h.shared (h.counted i) hop
    refine ⟨h.put hstart.accounted, hstart.accounted.returned, ?_⟩
    rintro j startOnly' a' ⟨⟩ hrc
    simp only [call, State.put, Function.update_self]
    exact hstart.undone hrc
  | stop i immediately stopOnly a =>
    have hstop := stopHw_accounted (h.settled i) h.shared (h.counted i)
      immediately hop
    exact ⟨h.put hstop, hstop.returned, fun j startOnly' a' heq => by cases heq⟩

/-- After each call of a run it has returned, count, SAFE and mutex are exact, and a start
that failed is undone. -/
theorem active_count_exact {ops : List (Op ι)} {op : Op ι}
    (h : Transition.Guarded (step res) (fun s op => undoes res s op = true) (init ι)
      (ops ++ [op])) :
    Exact (call res (Transition.run (step res) (init ι) ops) op).1 ∧
      (call res (Transition.run (step res) (init ι) ops) op).2.isSome = true ∧
      ∀ i startOnly a, op = .start i startOnly a →
        (call res (Transition.run (step res) (init ι) ops) op).2 ≠ some 0 →
        Undone ((Transition.run (step res) (init ι) ops).ctx i)
          ((call res (Transition.run (step res) (init ι) ops) op).1.ctx i) := by
  obtain ⟨hops, hop, -⟩ := Transition.guarded_append.1 h
  have hstep : ∀ s op, Inv res s → undoes res s op = true → Inv res (step res s op) :=
    fun s op hs hok => (call_accounted hs hok).1
  have hinv := Transition.run_invariant hstep (init_inv res) hops
  obtain ⟨hexact, hreturned, hundone⟩ := call_accounted hinv hop
  exact ⟨hexact.exact, hreturned, hundone⟩

end Runs

def oneOut : Resources := ⟨true, 1, [], [⟨some 1, none⟩], [⟨some 2, none⟩], [], [⟨some 3, none⟩]⟩

def allGood : Answers := ⟨fun _ => 0, fun _ => 0, 0, 0, 0, 0, 0⟩

theorem active_count_exact_one_context :
    Exact (call (fun _ : Unit => oneOut) (Transition.run (step fun _ => oneOut) (init Unit)
      [.start () false allGood]) (.stop () true false allGood)).1 :=
  (active_count_exact (by decide +kernel)).1

/-- The CDM does not stream on: the count stays raised. -/
theorem failed_stream_on_counted :
    ¬ ∀ (res : Unit → Resources) (ops : List (Op Unit)) (op : Op Unit),
      Exact (call res (Transition.run (step res) (init Unit) ops) op).1 ∧
        (call res (Transition.run (step res) (init Unit) ops) op).2.isSome = true ∧
        ∀ i startOnly a, op = .start i startOnly a →
          (call res (Transition.run (step res) (init Unit) ops) op).2 ≠ some 0 →
          Undone ((Transition.run (step res) (init Unit) ops).ctx i)
            ((call res (Transition.run (step res) (init Unit) ops) op).1.ctx i) := by
  intro h
  have hcount := (h (fun _ => oneOut) [] (.start () false { allGood with streamOnRc := -1 })).1.count
  exact absurd hcount (by decide +kernel)

end CameraKernel.IfeStart
