import CameraKernel.CrmLink

/-! The list of request tables that link setup builds: strictly decreasing delays, each table
knowing the gap to the next. -/
namespace CameraKernel.Crm

/-- Strictly decreasing delays, with the gaps between neighbours in `pdDelta`. -/
def Gaps : List ReqTbl → Prop
  | [] => True
  | [t] => t.pdDelta = 0
  | t :: u :: rest => u.pd < t.pd ∧ t.pdDelta = t.pd - u.pd ∧ Gaps (u :: rest)

structure SortedTables (lTbl : List ReqTbl) : Prop where
  gaps : Gaps lTbl
  accepted : ∀ t ∈ lTbl, t.pd < pipelineDelayMax

lemma Gaps.tail {t : ReqTbl} {rest : List ReqTbl} (h : Gaps (t :: rest)) : Gaps rest := by
  cases rest with
  | nil => trivial
  | cons u rest => exact h.2.2

lemma Gaps.lt_head {t : ReqTbl} {rest : List ReqTbl} (h : Gaps (t :: rest)) :
    ∀ u ∈ rest, u.pd < t.pd := by
  induction rest generalizing t with
  | nil => simp
  | cons v rest ih =>
    intro u hu
    rcases List.mem_cons.1 hu with rfl | hu
    · exact h.1
    · exact (ih h.2.2 u hu).trans h.1

lemma Gaps.le_head {t : ReqTbl} {rest : List ReqTbl} (h : Gaps (t :: rest)) :
    ∀ u ∈ t :: rest, u.pd ≤ t.pd := by
  intro u hu
  rcases List.mem_cons.1 hu with rfl | hu
  · exact le_rfl
  · exact (h.lt_head u hu).le

lemma Gaps.find_of_mem {lTbl : List ReqTbl} (h : Gaps lTbl) {t : ReqTbl} (ht : t ∈ lTbl) :
    findPdTbl lTbl t.pd = some t := by
  induction lTbl with
  | nil => simp at ht
  | cons u rest ih =>
    unfold findPdTbl
    rcases List.mem_cons.1 ht with rfl | ht
    · exact List.find?_cons_of_pos (beq_self_eq_true _)
    · have hne : ¬(u.pd == t.pd) = true := fun heq =>
        (h.lt_head t ht).ne (beq_iff_eq.1 heq).symm
      exact (List.find?_cons_of_neg (p := fun v : ReqTbl => v.pd == t.pd) hne).trans
        (ih h.tail ht)

lemma findPdTbl_pd {lTbl : List ReqTbl} {p : ℕ} {t : ReqTbl} (h : findPdTbl lTbl p = some t) :
    t ∈ lTbl ∧ t.pd = p := ⟨List.mem_of_find?_eq_some h, by simpa using List.find?_some h⟩

/-- A table but for its place in the list. -/
def unplaced (t : ReqTbl) : ReqTbl := { t with pdDelta := 0 }

lemma addTblBehind_perm (newTbl : ReqTbl) (tbl : ReqTbl) (rest : List ReqTbl) :
    ((addTblBehind newTbl (tbl :: rest)).map unplaced).Perm
      (unplaced newTbl :: (tbl :: rest).map unplaced) := by
  induction rest generalizing tbl with
  | nil => exact List.Perm.swap _ _ _
  | cons next rest ih =>
    unfold addTblBehind
    split
    · exact ((ih next).cons (unplaced tbl)).trans (List.Perm.swap _ _ _)
    · exact List.Perm.swap _ _ _

lemma addTblToLink_perm (lTbl : List ReqTbl) (newTbl : ReqTbl) :
    ((addTblToLink lTbl newTbl).map unplaced).Perm (unplaced newTbl :: lTbl.map unplaced) := by
  cases lTbl with
  | nil => exact List.Perm.refl _
  | cons tbl rest =>
    simp only [addTblToLink]
    split
    · exact List.Perm.refl _
    · exact addTblBehind_perm newTbl tbl rest

lemma addTblBehind_gaps {newTbl tbl : ReqTbl} {rest : List ReqTbl} (h : Gaps (tbl :: rest))
    (hlt : newTbl.pd < tbl.pd) (hnew : ∀ t ∈ rest, t.pd ≠ newTbl.pd) :
    Gaps (addTblBehind newTbl (tbl :: rest)) ∧
      ∃ head tail, addTblBehind newTbl (tbl :: rest) = head :: tail ∧ head.pd = tbl.pd := by
  induction rest generalizing tbl with
  | nil => exact ⟨⟨hlt, rfl, rfl⟩, _, _, rfl, rfl⟩
  | cons next rest ih =>
    unfold addTblBehind
    by_cases hnext : newTbl.pd < next.pd
    · obtain ⟨hgaps, head, tail, heq, hpd⟩ := ih h.2.2 hnext fun t ht =>
        hnew t (List.mem_cons_of_mem _ ht)
      rw [if_pos hnext]
      refine ⟨?_, _, _, rfl, rfl⟩
      rw [heq] at hgaps ⊢
      exact ⟨hpd ▸ h.1, hpd ▸ h.2.1, hgaps⟩
    · have hgt : next.pd < newTbl.pd :=
        lt_of_le_of_ne (not_lt.1 hnext) (hnew next List.mem_cons_self)
      rw [if_neg hnext]
      exact ⟨⟨hlt, rfl, hgt, rfl, h.2.2⟩, _, _, rfl, rfl⟩

lemma addTblToLink_gaps {lTbl : List ReqTbl} {newTbl : ReqTbl} (h : Gaps lTbl)
    (hdelta : newTbl.pdDelta = 0) (hnew : ∀ t ∈ lTbl, t.pd ≠ newTbl.pd) :
    Gaps (addTblToLink lTbl newTbl) := by
  cases lTbl with
  | nil => exact hdelta
  | cons tbl rest =>
    simp only [addTblToLink]
    by_cases hhead : tbl.pd < newTbl.pd
    · rw [if_pos hhead]
      exact ⟨hhead, rfl, h⟩
    · have hlt : newTbl.pd < tbl.pd :=
        lt_of_le_of_ne (not_lt.1 hhead) fun heq => hnew tbl List.mem_cons_self heq.symm
      rw [if_neg hhead]
      exact (addTblBehind_gaps h hlt fun t ht => hnew t (List.mem_cons_of_mem _ ht)).1

lemma Gaps.map {lTbl : List ReqTbl} (h : Gaps lTbl) {f : ReqTbl → ReqTbl}
    (hpd : ∀ t, (f t).pd = t.pd) (hdelta : ∀ t, (f t).pdDelta = t.pdDelta) :
    Gaps (lTbl.map f) := by
  induction lTbl with
  | nil => trivial
  | cons t rest ih =>
    cases rest with
    | nil => exact (hdelta t).trans h
    | cons u rest =>
      refine ⟨?_, ?_, ih h.2.2⟩
      · rw [hpd, hpd]
        exact h.1
      · rw [hpd, hpd, hdelta]
        exact h.2.1

def maskOf (bits : List ℕ) : BitVec 32 := bits.foldl (fun mask bit => mask ||| devBitMask bit) 0

/-- The delay's devices are numbered in order, and the mask has the bit of each. -/
structure TableOk (devs : List ConnectedDevice) (t : ReqTbl) : Prop where
  bits : (devs.filter fun d => d.pDelay = t.pd).map (·.devBit) = List.range t.devCount
  mask : t.devMask = maskOf (List.range t.devCount)
  fresh : ∀ i, t.slot i = ⟨0, .empty, 0, 0, false, false⟩

lemma TableOk.of_unplaced {devs : List ConnectedDevice} {t u : ReqTbl} (h : TableOk devs u)
    (heq : unplaced t = unplaced u) : TableOk devs t := by
  have hpd : (unplaced t).pd = (unplaced u).pd := congrArg ReqTbl.pd heq
  have hcount : (unplaced t).devCount = (unplaced u).devCount := congrArg ReqTbl.devCount heq
  have hmask : (unplaced t).devMask = (unplaced u).devMask := congrArg ReqTbl.devMask heq
  have hslot : (unplaced t).slot = (unplaced u).slot := congrArg ReqTbl.slot heq
  simp only [unplaced] at hpd hcount hmask hslot
  exact ⟨by rw [hpd, hcount]; exact h.bits, by rw [hmask, hcount]; exact h.mask,
    by rw [hslot]; exact h.fresh⟩

/-- A link after the devices `infos` are connected. -/
structure Built (infos : List DeviceInfo) (link : CoreLink) : Prop where
  gaps : Gaps link.lTbl
  delays : ∀ p, p ∈ link.lTbl.map (·.pd) ↔ p ∈ infos.map (·.pDelay)
  pdMask : ∀ p < 32, link.pdMask.getLsbD p = decide (p ∈ infos.map (·.pDelay))
  le_maxDelay : ∀ info ∈ infos, info.pDelay ≤ link.maxDelay
  maxDelay : link.maxDelay = 0 ∨ link.maxDelay ∈ infos.map (·.pDelay)
  devs : link.devs.map (fun d => (d.devHdl, d.pDelay)) = infos.map fun d => (d.devHdl, d.pDelay)
  tables : ∀ t ∈ link.lTbl, TableOk link.devs t

/-- The list of tables a device is added to. -/
def withTable (link : CoreLink) (pDelay : ℕ) : List ReqTbl :=
  if link.pdMask.getLsbD pDelay then link.lTbl else addTblToLink link.lTbl (createPdTbl pDelay)

lemma Built.mem_map_iff {infos : List DeviceInfo} {link : CoreLink} (h : Built infos link) {p : ℕ} :
    (∃ t ∈ link.lTbl, t.pd = p) ↔ p ∈ infos.map (·.pDelay) := by
  rw [← h.delays, List.mem_map]

lemma filter_pDelay_nil {infos : List DeviceInfo} {link : CoreLink} (h : Built infos link) {p : ℕ}
    (hp : p ∉ infos.map (·.pDelay)) : link.devs.filter (fun d => d.pDelay = p) = [] := by
  refine List.filter_eq_nil_iff.2 fun d hd heq => hp ?_
  have hmem : (d.devHdl, d.pDelay) ∈ infos.map fun d => (d.devHdl, d.pDelay) := by
    rw [← h.devs]
    exact List.mem_map_of_mem hd
  obtain ⟨info, hinfo, hpair⟩ := List.mem_map.1 hmem
  rw [← of_decide_eq_true heq]
  exact List.mem_map.2 ⟨info, hinfo, congrArg Prod.snd hpair⟩

lemma Built.withTable_spec {infos : List DeviceInfo} {link : CoreLink} (h : Built infos link)
    {p : ℕ} (hp : p < 32) :
    Gaps (withTable link p) ∧
      (∀ q, q ∈ (withTable link p).map (·.pd) ↔ q = p ∨ q ∈ infos.map (·.pDelay)) ∧
      ∀ t ∈ withTable link p, TableOk link.devs t := by
  unfold withTable
  by_cases hmem : p ∈ infos.map (·.pDelay)
  · rw [h.pdMask p hp, decide_eq_true hmem, if_pos rfl]
    refine ⟨h.gaps, fun q => ?_, h.tables⟩
    rw [h.delays]
    constructor
    · exact Or.inr
    · rintro (rfl | hq)
      · exact hmem
      · exact hq
  · rw [h.pdMask p hp, decide_eq_false hmem, if_neg Bool.false_ne_true]
    have hperm := addTblToLink_perm link.lTbl (createPdTbl p)
    have hnew : ∀ t ∈ link.lTbl, t.pd ≠ (createPdTbl p).pd := fun t ht heq =>
      hmem (h.mem_map_iff.1 ⟨t, ht, heq⟩)
    refine ⟨addTblToLink_gaps h.gaps rfl hnew, fun q => ?_, fun t ht => ?_⟩
    · have hpds := hperm.map (·.pd)
      simp only [List.map_map, List.map_cons] at hpds
      have hq := hpds.mem_iff (a := q)
      rw [List.mem_cons] at hq
      exact hq.trans (or_congr Iff.rfl (h.delays q))
    · have hunplaced := hperm.subset (List.mem_map_of_mem ht)
      rcases List.mem_cons.1 hunplaced with heq | hold
      · refine TableOk.of_unplaced ⟨?_, rfl, fun _ => rfl⟩ heq
        rw [show (createPdTbl p).pd = p from rfl, filter_pDelay_nil h hmem]
        rfl
      · obtain ⟨u, hu, heq⟩ := List.mem_map.1 hold
        exact (h.tables u hu).of_unplaced heq.symm

lemma getLsbD_or_shift (mask : BitVec 32) (p q : ℕ) (hq : q < 32) :
    (mask ||| 1#32 <<< p).getLsbD q = (mask.getLsbD q || decide (q = p)) := by
  rw [BitVec.getLsbD_or, BitVec.getLsbD_shiftLeft, BitVec.getLsbD_one]
  by_cases hqp : q = p
  · subst hqp
    simp [hq]
  · by_cases hlt : q < p
    · simp [hlt, hqp]
    · have hsub : q - p ≠ 0 := by omega
      simp [hsub, hqp]

lemma devBit_eq {devs : List ConnectedDevice} {lTbl : List ReqTbl} (hgaps : Gaps lTbl)
    {t : ReqTbl} (ht : t ∈ lTbl) {p : ℕ} (hpd : t.pd = p) (hok : TableOk devs t) :
    (((findPdTbl lTbl p).map (·.devCount)).getD 0) =
      (devs.filter fun d => d.pDelay = p).length := by
  subst hpd
  rw [hgaps.find_of_mem ht, Option.map_some, Option.getD_some, ← List.length_map (f := (·.devBit)),
    hok.bits, List.length_range]

lemma Built.connectDevice {infos : List DeviceInfo} {link : CoreLink} (h : Built infos link)
    {info : DeviceInfo} (hp : info.pDelay < pipelineDelayMax) :
    Built (infos ++ [info]) (connectDevice link info) := by
  have hp32 : info.pDelay < 32 := hp.trans (by decide)
  obtain ⟨hgaps, hdelays, htables⟩ := h.withTable_spec hp32
  obtain ⟨t, ht, htpd⟩ : ∃ t ∈ withTable link info.pDelay, t.pd = info.pDelay :=
    List.mem_map.1 ((hdelays info.pDelay).2 (Or.inl rfl))
  obtain ⟨bit, hbit⟩ : ∃ bit, bit =
      ((findPdTbl (withTable link info.pDelay) info.pDelay).map (·.devCount)).getD 0 := ⟨_, rfl⟩
  have hdevs : (Crm.connectDevice link info).devs =
      link.devs ++ [⟨info.devHdl, bit, info.pDelay, info.trigger⟩] := by rw [hbit]; rfl
  have hlTbl : (Crm.connectDevice link info).lTbl =
      mapPdTbl (withTable link info.pDelay) info.pDelay fun t =>
        { t with devCount := t.devCount + 1, devMask := t.devMask ||| devBitMask bit } := by
    rw [hbit]
    rfl
  have hlength := devBit_eq hgaps ht htpd (htables t ht)
  rw [← hbit] at hlength
  constructor
  · rw [hlTbl]
    refine hgaps.map (fun u => ?_) fun u => ?_
    · split <;> rfl
    · split <;> rfl
  · intro q
    have hpds : ((Crm.connectDevice link info).lTbl).map (·.pd) =
        (withTable link info.pDelay).map (·.pd) := by
      rw [hlTbl, mapPdTbl, List.map_map]
      refine List.map_congr_left fun u _ => ?_
      simp only [Function.comp]
      split <;> rfl
    rw [hpds, hdelays, List.map_append, List.mem_append, or_comm, List.map_singleton,
      List.mem_singleton]
  · intro q hq
    have hmask : (Crm.connectDevice link info).pdMask = link.pdMask ||| 1#32 <<< info.pDelay := rfl
    rw [hmask, getLsbD_or_shift _ _ _ hq, h.pdMask q hq, List.map_append, List.map_singleton,
      ← Bool.decide_or]
    simp [List.mem_append]
  · intro i hi
    rcases List.mem_append.1 hi with hi | hi
    · exact (h.le_maxDelay i hi).trans (le_max_left _ _)
    · rw [List.mem_singleton.1 hi]
      exact le_max_right _ _
  · have hmax : (Crm.connectDevice link info).maxDelay = max link.maxDelay info.pDelay := rfl
    rw [hmax, List.map_append, List.mem_append]
    rcases le_total info.pDelay link.maxDelay with hle | hle
    · rw [max_eq_left hle]
      exact h.maxDelay.imp id Or.inl
    · rw [max_eq_right hle]
      exact Or.inr (Or.inr (by simp))
  · rw [hdevs, List.map_append, List.map_append, h.devs]
    rfl
  · intro u hu
    rw [hlTbl] at hu
    obtain ⟨v, hv, rfl⟩ := List.mem_map.1 hu
    have hok := htables v hv
    by_cases hvp : v.pd = info.pDelay
    · have hcount : bit = v.devCount := by
        rw [hlength, ← List.length_map (f := (·.devBit)), ← hvp, hok.bits, List.length_range]
      simp only [if_pos hvp]
      refine ⟨?_, ?_, hok.fresh⟩
      · rw [hdevs, List.filter_append, List.map_append, hok.bits, List.range_succ]
        simp [hvp, hcount]
      · rw [hok.mask, List.range_succ, maskOf, maskOf, List.foldl_append, hcount]
        rfl
    · simp only [if_neg hvp]
      refine ⟨?_, hok.mask, hok.fresh⟩
      rw [hdevs, List.filter_append, List.map_append, hok.bits]
      simp [Ne.symm hvp]

lemma reservedLink_built (subscribeEvent : ℕ) (sync : LinkSync) :
    Built [] (reservedLink subscribeEvent sync) := by
  constructor <;> simp [reservedLink, Gaps]

lemma Built.foldl {before : List DeviceInfo} {link : CoreLink} (h : Built before link)
    {infos : List DeviceInfo} (haccepted : AcceptedDelays infos) :
    Built (before ++ infos) (infos.foldl Crm.connectDevice link) := by
  induction infos generalizing before link with
  | nil => rwa [List.append_nil]
  | cons info rest ih =>
    have hnext := ih (h.connectDevice (haccepted info List.mem_cons_self)) fun i hi =>
      haccepted i (List.mem_cons_of_mem _ hi)
    rwa [List.append_assoc, List.singleton_append] at hnext

lemma setupLinkInfo_built {infos : List DeviceInfo} (h : AcceptedDelays infos) (sync : LinkSync) :
    ∃ link, Built infos link ∧
      setupLinkInfo infos sync = { link with lTbl := tblSetAllSkipCnt link.lTbl } := by
  refine ⟨_, ?_, rfl⟩
  have hbuilt := (reservedLink_built (infos.foldl (fun mask info => mask ||| info.trigger) 0)
    sync).foldl h
  rwa [List.nil_append] at hbuilt

lemma tblSetAllSkipCnt_eq (lTbl : List ReqTbl) :
    tblSetAllSkipCnt lTbl =
      lTbl.map fun t => { t with skipTraverse := ((lTbl.head?.map (·.pd)).getD 0) - t.pd } := by
  cases lTbl <;> rfl

/-- What link setup leaves for the devices it is given. -/
structure WellFormedLink (infos : List DeviceInfo) (link : CoreLink) : Prop where
  sorted : SortedTables link.lTbl
  delays : ∀ p, (∃ t ∈ link.lTbl, t.pd = p) ↔ ∃ info ∈ infos, info.pDelay = p
  pdMask : ∀ p, link.pdMask.getLsbD p = true ↔ ∃ info ∈ infos, info.pDelay = p
  maxDelay : ∀ t ∈ link.lTbl.head?, link.maxDelay = t.pd
  skipTraverse : ∀ t ∈ link.lTbl, t.skipTraverse = link.maxDelay - t.pd
  devices : link.devs.map (fun d => (d.devHdl, d.pDelay)) =
    infos.map fun d => (d.devHdl, d.pDelay)
  pdTbl : ∀ d ∈ link.devs, ∃ t, findPdTbl link.lTbl d.pDelay = some t ∧ t.pd = d.pDelay

lemma Built.head_pd {infos : List DeviceInfo} {link : CoreLink} (h : Built infos link)
    {t : ReqTbl} {rest : List ReqTbl} (hl : link.lTbl = t :: rest) : link.maxDelay = t.pd := by
  have hgaps := h.gaps
  rw [hl] at hgaps
  refine le_antisymm ?_ ?_
  · rcases h.maxDelay with hzero | hmem
    · rw [hzero]
      exact Nat.zero_le _
    · obtain ⟨u, hu, hpd⟩ := h.mem_map_iff.2 hmem
      rw [hl] at hu
      exact hpd ▸ hgaps.le_head u hu
  · obtain ⟨info, hinfo, hpd⟩ := List.mem_map.1 (h.mem_map_iff.1 ⟨t, hl ▸ List.mem_cons_self, rfl⟩)
    exact hpd ▸ h.le_maxDelay info hinfo

/-- Whatever the order and the repetitions of the delays, setup builds the sorted list. -/
theorem setupLinkInfo_wellFormed {infos : List DeviceInfo} (h : AcceptedDelays infos)
    (sync : LinkSync) : WellFormedLink infos (setupLinkInfo infos sync) := by
  obtain ⟨link, hbuilt, heq⟩ := setupLinkInfo_built h sync
  rw [heq]
  have hskip := tblSetAllSkipCnt_eq link.lTbl
  have hgaps : Gaps (tblSetAllSkipCnt link.lTbl) := by
    rw [hskip]
    exact hbuilt.gaps.map (fun _ => rfl) fun _ => rfl
  have hdelays : ∀ p, (∃ t ∈ tblSetAllSkipCnt link.lTbl, t.pd = p) ↔
      ∃ info ∈ infos, info.pDelay = p := fun p => by
    rw [← List.mem_map (f := DeviceInfo.pDelay), ← hbuilt.mem_map_iff, hskip]
    constructor
    · rintro ⟨t, ht, hpd⟩
      obtain ⟨u, hu, rfl⟩ := List.mem_map.1 ht
      exact ⟨u, hu, hpd⟩
    · rintro ⟨u, hu, hpd⟩
      exact ⟨_, List.mem_map_of_mem hu, hpd⟩
  constructor
  · refine ⟨hgaps, fun t ht => ?_⟩
    obtain ⟨info, hinfo, hpd⟩ := (hdelays t.pd).1 ⟨t, ht, rfl⟩
    exact hpd ▸ h info hinfo
  · exact hdelays
  · intro p
    by_cases hp : p < 32
    · rw [hbuilt.pdMask p hp, decide_eq_true_iff, List.mem_map]
    · rw [BitVec.getLsbD_of_ge _ _ (not_lt.1 hp)]
      refine iff_of_false Bool.false_ne_true fun ⟨info, hinfo, hpd⟩ => ?_
      have haccepted := h info hinfo
      rw [hpd] at haccepted
      exact absurd (haccepted.trans (by decide)) hp
  · intro t ht
    simp only [hskip, List.head?_map] at ht
    obtain ⟨u, hu, rfl⟩ := Option.map_eq_some_iff.1 ht
    obtain ⟨rest, hl⟩ : ∃ rest, link.lTbl = u :: rest := List.head?_eq_some_iff.1 hu
    have hhead : link.maxDelay = u.pd := hbuilt.head_pd hl
    exact hhead
  · intro t ht
    simp only [hskip] at ht
    obtain ⟨u, hu, rfl⟩ := List.mem_map.1 ht
    cases hl : link.lTbl with
    | nil => simp [hl] at hu
    | cons v rest =>
      rw [hbuilt.head_pd hl]
      rfl
  · exact hbuilt.devs
  · intro d hd
    have hmem : (d.devHdl, d.pDelay) ∈ infos.map fun d => (d.devHdl, d.pDelay) := by
      rw [← hbuilt.devs]
      exact List.mem_map_of_mem hd
    obtain ⟨info, hinfo, hpair⟩ := List.mem_map.1 hmem
    obtain ⟨t, ht, hpd⟩ := (hdelays d.pDelay).2 ⟨info, hinfo, congrArg Prod.snd hpair⟩
    exact ⟨t, hpd ▸ hgaps.find_of_mem ht, hpd⟩

theorem setupLinkInfo_wellFormed_threeDelays :
    WellFormedLink [⟨11, 1, 1⟩, ⟨12, 0, 1⟩, ⟨13, 2, 1⟩, ⟨14, 1, 1⟩]
      (setupLinkInfo [⟨11, 1, 1⟩, ⟨12, 0, 1⟩, ⟨13, 2, 1⟩, ⟨14, 1, 1⟩]
        ⟨none, false, false, false, false, -1, 0, 0⟩) :=
  setupLinkInfo_wellFormed (by decide) _

end CameraKernel.Crm
