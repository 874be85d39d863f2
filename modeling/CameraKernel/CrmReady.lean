import CameraKernel.CrmTables

/-! When the devices of a table have reported a request, and when its slot says so. -/
namespace CameraKernel.Crm
variable {infos : List DeviceInfo} {sync : LinkSync} {link : CoreLink} {p idx : ℕ} {reqId : ℤ}

/-- The reports of one request, each with its device and its delay. -/
def addReqs (reqId : ℤ) (calls : List (ℤ × ℕ)) (link : CoreLink) : CoreLink :=
  calls.foldl (fun link c => (processAddReq link c.1 reqId c.2).2) link

/-- A link with the devices `infos` whose request `reqId` has a freshly reset slot. -/
structure FreshRequest (infos : List DeviceInfo) (sync : LinkSync) (link : CoreLink) (reqId : ℤ)
    (idx : ℕ) : Prop where
  devs : link.devs = (setupLinkInfo infos sync).devs
  devMask : ∀ p, (findPdTbl link.lTbl p).map (·.devMask) =
    (findPdTbl (setupLinkInfo infos sync).lTbl p).map (·.devMask)
  found : findSlotForReq link.inQ reqId = some idx
  reset : ∀ t ∈ link.lTbl, (t.slot idx).reqReadyMap = 0 ∧ (t.slot idx).state = .empty

def slotReady (link : CoreLink) (p idx : ℕ) : Prop :=
  ∃ t, findPdTbl link.lTbl p = some t ∧ (t.slot idx).state = .ready

def allReported (infos : List DeviceInfo) (p : ℕ) (calls : List (ℤ × ℕ)) : Prop :=
  ∀ info ∈ infos, info.pDelay = p → info.devHdl ∈ calls.map Prod.fst

/-- The bit that a report by `hdl` sets in the table of delay `p`. -/
def reportedBit (devs : List ConnectedDevice) (p : ℕ) (hdl : ℤ) : Option ℕ :=
  (devs.find? fun d => d.devHdl == hdl).bind fun d =>
    if d.pDelay = p then some (d.devBit % 32) else none

/-- Each device of the table reports to the table, with a bit of its handle's own, and these
are all the bits the table waits for. -/
structure BitsApart (devs : List ConnectedDevice) (p : ℕ) : Prop where
  own : ∀ d ∈ devs, d.pDelay = p → (reportedBit devs p d.devHdl).isSome = true
  apart : ∀ d ∈ devs, d.pDelay = p → ∀ e ∈ devs, e.pDelay = p →
    reportedBit devs p d.devHdl = reportedBit devs p e.devHdl → d.devHdl = e.devHdl
  covered : ∀ d ∈ devs, d.pDelay = p →
    ∃ e ∈ devs, e.pDelay = p ∧ reportedBit devs p e.devHdl = some (d.devBit % 32)

lemma devBitMask_getLsbD (bit b : ℕ) (hb : b < 32) :
    (devBitMask bit).getLsbD b = decide (b = bit % 32) := by
  have h := getLsbD_or_shift 0#32 (bit % 32) b hb
  rwa [BitVec.zero_or, BitVec.getLsbD_zero, Bool.false_or] at h

lemma or_devBitMask_getLsbD (mask : BitVec 32) (bit b : ℕ) (hb : b < 32) :
    (mask ||| devBitMask bit).getLsbD b = true ↔ mask.getLsbD b = true ∨ bit % 32 = b := by
  rw [BitVec.getLsbD_or, devBitMask_getLsbD bit b hb, Bool.or_eq_true, decide_eq_true_iff,
    eq_comm (a := b)]

lemma foldl_mask_getLsbD (bits : List ℕ) (mask : BitVec 32) {b : ℕ} (hb : b < 32) :
    (bits.foldl (fun mask bit => mask ||| devBitMask bit) mask).getLsbD b = true ↔
      mask.getLsbD b = true ∨ ∃ bit ∈ bits, bit % 32 = b := by
  induction bits generalizing mask with
  | nil => simp
  | cons bit bits ih =>
    rw [List.foldl_cons, ih, or_devBitMask_getLsbD mask bit b hb, or_assoc]
    simp

lemma TableOk.devMask_getLsbD {devs : List ConnectedDevice} {t : ReqTbl} (h : TableOk devs t)
    {b : ℕ} (hb : b < 32) :
    t.devMask.getLsbD b = true ↔ ∃ d ∈ devs, d.pDelay = t.pd ∧ d.devBit % 32 = b := by
  rw [h.mask, maskOf, foldl_mask_getLsbD _ _ hb, ← h.bits]
  constructor
  · rintro (hf | ⟨bit, hbit, hmod⟩)
    · simp at hf
    · obtain ⟨d, hd, rfl⟩ := List.mem_map.1 hbit
      obtain ⟨hd, hpd⟩ := List.mem_filter.1 hd
      exact ⟨d, hd, of_decide_eq_true hpd, hmod⟩
  · rintro ⟨d, hd, hpd, hmod⟩
    exact Or.inr ⟨d.devBit, List.mem_map_of_mem (List.mem_filter.2 ⟨hd, decide_eq_true hpd⟩), hmod⟩

lemma findPdTbl_map (lTbl : List ReqTbl) (p : ℕ) {f : ReqTbl → ReqTbl}
    (hpd : ∀ t, (f t).pd = t.pd) : findPdTbl (lTbl.map f) p = (findPdTbl lTbl p).map f := by
  have hfun : (fun t : ReqTbl => t.pd == p) ∘ f = fun t => t.pd == p := by
    funext t
    simp only [Function.comp, hpd]
  unfold findPdTbl
  rw [List.find?_map, hfun]

lemma findPdTbl_mapPdTbl (lTbl : List ReqTbl) (q p : ℕ) {f : ReqTbl → ReqTbl}
    (hpd : ∀ t, (f t).pd = t.pd) :
    findPdTbl (mapPdTbl lTbl q f) p =
      (findPdTbl lTbl p).map fun t => if p = q then f t else t := by
  have hmap := findPdTbl_map lTbl p (f := fun t => if t.pd = q then f t else t) fun t => by
    split
    · exact hpd t
    · rfl
  rw [mapPdTbl, hmap]
  cases hfind : findPdTbl lTbl p with
  | none => rfl
  | some t => rw [Option.map_some, Option.map_some, (findPdTbl_pd hfind).2]

/-- The table of delay `p` after some reports: its bits, and that its state follows them. -/
structure Reported (devs : List ConnectedDevice) (p idx : ℕ) (mask : BitVec 32) (hdls : List ℤ)
    (lTbl : List ReqTbl) : Prop where
  table : ∃ t, findPdTbl lTbl p = some t ∧ t.devMask = mask ∧
    (∀ b < 32, (t.slot idx).reqReadyMap.getLsbD b = true ↔
      ∃ h ∈ hdls, reportedBit devs p h = some b) ∧
    ((t.slot idx).state = .ready ↔ (t.slot idx).reqReadyMap = mask)

lemma addToTblSlot_map (dev : ConnectedDevice) (skip : ℕ) (mask : BitVec 32) (s : TblSlot) :
    (addToTblSlot dev skip mask s).reqReadyMap = s.reqReadyMap ||| devBitMask dev.devBit := by
  unfold addToTblSlot
  simp only
  split <;> rfl

lemma addToTblSlot_state (dev : ConnectedDevice) (skip : ℕ) (mask : BitVec 32) (s : TblSlot) :
    (addToTblSlot dev skip mask s).state = .ready ↔
      (addToTblSlot dev skip mask s).reqReadyMap = mask := by
  rw [addToTblSlot_map]
  unfold addToTblSlot
  simp only
  split <;> split <;> simp_all

lemma reportedBit_of_find {devs : List ConnectedDevice} {hdl : ℤ} {dev : ConnectedDevice}
    (h : devs.find? (fun d => d.devHdl == hdl) = some dev) :
    reportedBit devs p hdl = if dev.pDelay = p then some (dev.devBit % 32) else none := by
  rw [reportedBit, h]
  rfl

lemma Reported.report {devs : List ConnectedDevice} {mask : BitVec 32} {hdls : List ℤ}
    (h : Reported devs p idx mask hdls link.lTbl) (hdevs : link.devs = devs)
    (hfound : findSlotForReq link.inQ reqId = some idx) (hdl : ℤ) (skip : ℕ) :
    Reported devs p idx mask (hdl :: hdls) (processAddReq link hdl reqId skip).2.lTbl ∧
      (processAddReq link hdl reqId skip).2.devs = devs ∧
      (processAddReq link hdl reqId skip).2.inQ = link.inQ := by
  obtain ⟨t, ht, hmask, hbits, hstate⟩ := h.table
  unfold processAddReq
  rw [hdevs]
  cases hfind : devs.find? fun d => d.devHdl == hdl with
  | none =>
    refine ⟨⟨t, ht, hmask, fun b hb => ?_, hstate⟩, hdevs, rfl⟩
    have hnone : reportedBit devs p hdl = none := by
      rw [reportedBit, hfind]
      rfl
    rw [hbits b hb]
    simp [hnone]
  | some dev =>
    rw [hfound]
    refine ⟨?_, rfl, rfl⟩
    have hbit := reportedBit_of_find (p := p) hfind
    have hmap := findPdTbl_mapPdTbl link.lTbl dev.pDelay p
      (f := fun t => setTblSlot t idx (addToTblSlot dev skip t.devMask)) fun _ => rfl
    rw [ht, Option.map_some] at hmap
    by_cases hp : p = dev.pDelay
    · rw [if_pos hp] at hmap
      rw [if_pos hp.symm] at hbit
      refine ⟨_, hmap, hmask, fun b hb => ?_, ?_⟩
      · simp only [setTblSlot, Function.update_self]
        rw [addToTblSlot_map, or_devBitMask_getLsbD _ _ _ hb, hbits b hb]
        simp [hbit, or_comm]
      · simp only [setTblSlot, Function.update_self]
        rw [addToTblSlot_state, hmask]
    · rw [if_neg hp] at hmap
      rw [if_neg (Ne.symm hp)] at hbit
      refine ⟨t, hmap, hmask, fun b hb => ?_, hstate⟩
      rw [hbits b hb]
      simp [hbit]

lemma Reported.reports {devs : List ConnectedDevice} {mask : BitVec 32} {hdls : List ℤ}
    (h : Reported devs p idx mask hdls link.lTbl) (hdevs : link.devs = devs)
    (hfound : findSlotForReq link.inQ reqId = some idx) (calls : List (ℤ × ℕ)) :
    Reported devs p idx mask ((calls.map Prod.fst).reverse ++ hdls)
      (addReqs reqId calls link).lTbl := by
  induction calls generalizing link hdls with
  | nil => exact h
  | cons c calls ih =>
    obtain ⟨hnext, hdevs', hinQ⟩ := h.report hdevs hfound c.1 c.2
    have hrest := ih hnext hdevs' (hinQ ▸ hfound)
    rw [List.map_cons, List.reverse_cons, List.append_assoc, List.singleton_append]
    exact hrest

/-- The reports set every bit that the table waits for. -/
def Covers (devs : List ConnectedDevice) (p : ℕ) (hdls : List ℤ) : Prop :=
  ∀ d ∈ devs, d.pDelay = p → ∃ h ∈ hdls, reportedBit devs p h = some (d.devBit % 32)

instance (devs : List ConnectedDevice) (p : ℕ) (hdls : List ℤ) : Decidable (Covers devs p hdls) :=
  inferInstanceAs (Decidable (∀ d ∈ devs, d.pDelay = p →
    ∃ h ∈ hdls, reportedBit devs p h = some (d.devBit % 32)))

lemma mem_of_reportedBit {devs : List ConnectedDevice} {hdl : ℤ} {b : ℕ}
    (h : reportedBit devs p hdl = some b) :
    ∃ d ∈ devs, d.pDelay = p ∧ d.devBit % 32 = b ∧ d.devHdl = hdl := by
  unfold reportedBit at h
  obtain ⟨d, hd, hbit⟩ := Option.bind_eq_some_iff.1 h
  by_cases hp : d.pDelay = p
  · rw [if_pos hp] at hbit
    have hhdl := List.find?_some hd
    exact ⟨d, List.mem_of_find?_eq_some hd, hp, Option.some.inj hbit, beq_iff_eq.1 hhdl⟩
  · rw [if_neg hp] at hbit
    cases hbit

lemma slotReady_iff_covers (haccepted : AcceptedDelays infos)
    (hp : ∃ info ∈ infos, info.pDelay = p) (hfresh : FreshRequest infos sync link reqId idx)
    (calls : List (ℤ × ℕ)) :
    slotReady (addReqs reqId calls link) p idx ↔
      Covers (setupLinkInfo infos sync).devs p (calls.map Prod.fst) := by
  obtain ⟨built, hbuilt, heq⟩ := setupLinkInfo_built haccepted sync
  obtain ⟨t, ht, hpd⟩ := hbuilt.mem_map_iff.2 (List.mem_map.2 hp)
  have hok := hbuilt.tables t ht
  have hdevs : (setupLinkInfo infos sync).devs = built.devs := by rw [heq]
  -- the table found at the link is the one that setup made
  have hsetup : (findPdTbl (setupLinkInfo infos sync).lTbl p).map (·.devMask) =
      some t.devMask := by
    have hfind := hbuilt.gaps.find_of_mem ht
    rw [hpd] at hfind
    rw [heq]
    simp only [tblSetAllSkipCnt_eq]
    have hmap := findPdTbl_map built.lTbl p (f := fun u =>
      { u with skipTraverse := ((built.lTbl.head?.map (·.pd)).getD 0) - u.pd }) fun _ => rfl
    rw [hmap, hfind]
    rfl
  obtain ⟨u, hu, humask⟩ := Option.map_eq_some_iff.1 ((hfresh.devMask p).trans hsetup)
  obtain ⟨hzero, hempty⟩ := hfresh.reset u (findPdTbl_pd hu).1
  have hbits : ∀ b < 32, t.devMask.getLsbD b = true ↔
      ∃ d ∈ built.devs, d.pDelay = p ∧ d.devBit % 32 = b := fun b hb => by
    rw [hok.devMask_getLsbD hb, hpd]
  have hnonzero : t.devMask ≠ 0 := by
    obtain ⟨info, hinfo, hdelay⟩ := hp
    have hmem : (info.devHdl, info.pDelay) ∈ built.devs.map fun d => (d.devHdl, d.pDelay) := by
      rw [hbuilt.devs]
      exact List.mem_map_of_mem (f := fun d : DeviceInfo => (d.devHdl, d.pDelay)) hinfo
    obtain ⟨d, hd, hpair⟩ := List.mem_map.1 hmem
    intro hmask
    have hbit := (hbits _ (Nat.mod_lt d.devBit (by decide))).2
      ⟨d, hd, (congrArg Prod.snd hpair).trans hdelay, rfl⟩
    rw [hmask] at hbit
    simp at hbit
  have hstart : Reported built.devs p idx t.devMask [] link.lTbl := by
    refine ⟨u, hu, humask, fun b _ => ?_, ?_⟩
    · rw [hzero]
      simp
    · rw [hempty, hzero]
      exact iff_of_false (by decide) hnonzero.symm
  obtain ⟨v, hv, -, hmap, hstate⟩ := (hstart.reports (hfresh.devs.trans hdevs) hfresh.found
    calls).table
  have hready : slotReady (addReqs reqId calls link) p idx ↔
      (v.slot idx).reqReadyMap = t.devMask := by
    rw [← hstate]
    constructor
    · rintro ⟨w, hw, hs⟩
      rw [hv] at hw
      cases hw
      exact hs
    · exact fun hs => ⟨v, hv, hs⟩
  rw [hready, hdevs]
  constructor
  · intro hmask d hd hdp
    have hset := (hbits _ (Nat.mod_lt d.devBit (by decide))).2 ⟨d, hd, hdp, rfl⟩
    rw [← hmask, hmap _ (Nat.mod_lt _ (by decide))] at hset
    obtain ⟨h, hh, hbit⟩ := hset
    exact ⟨h, by simpa using hh, hbit⟩
  · intro hcovers
    refine BitVec.eq_of_getLsbD_eq fun b hb => Bool.eq_iff_iff.2 ?_
    rw [hmap b hb, hbits b hb]
    constructor
    · rintro ⟨h, -, hbit⟩
      obtain ⟨d, hd, hdp, hmod, -⟩ := mem_of_reportedBit hbit
      exact ⟨d, hd, hdp, hmod⟩
    · rintro ⟨d, hd, hdp, rfl⟩
      obtain ⟨h, hh, hbit⟩ := hcovers d hd hdp
      exact ⟨h, by simpa using hh, hbit⟩

lemma freshRequest_setup (haccepted : AcceptedDelays infos) (sync : LinkSync) :
    ∃ link, FreshRequest infos sync link 1 0 := by
  refine ⟨{ setupLinkInfo infos sync with
    inQ := setSlot setupInQ 0 fun s => { s with reqId := 1, status := .reqAdded } },
    rfl, fun _ => rfl, rfl, fun t ht => ?_⟩
  obtain ⟨built, hbuilt, heq⟩ := setupLinkInfo_built haccepted sync
  have hmem : t ∈ (setupLinkInfo infos sync).lTbl := ht
  rw [heq] at hmem
  simp only [tblSetAllSkipCnt_eq] at hmem
  obtain ⟨u, hu, rfl⟩ := List.mem_map.1 hmem
  simp only [(hbuilt.tables u hu).fresh, and_self]

lemma covers_iff_of_bitsApart {devs : List ConnectedDevice} (h : BitsApart devs p)
    (hdls : List ℤ) :
    Covers devs p hdls ↔ ∀ d ∈ devs, d.pDelay = p → d.devHdl ∈ hdls := by
  constructor
  · intro hcovers d hd hp
    -- the bit of `d`'s handle is some device's, so a report covers it, and it is `d`'s own
    obtain ⟨b, hb⟩ := Option.isSome_iff_exists.1 (h.own d hd hp)
    obtain ⟨e, he, hep, hbit, -⟩ := mem_of_reportedBit hb
    obtain ⟨hdl, hmem, hcovered⟩ := hcovers e he hep
    obtain ⟨f, hf, hfp, -, hfhdl⟩ := mem_of_reportedBit hcovered
    rw [hbit] at hcovered
    have hsame := h.apart d hd hp f hf hfp (by rw [hb, hfhdl, hcovered])
    rw [hsame, hfhdl]
    exact hmem
  · intro hall d hd hp
    obtain ⟨e, he, hep, hbit⟩ := h.covered d hd hp
    exact ⟨e.devHdl, hall e he hep, hbit⟩

lemma bitsApart_of_covers {devs : List ConnectedDevice}
    (h : ∀ hdls : List ℤ, Covers devs p hdls ↔ ∀ d ∈ devs, d.pDelay = p → d.devHdl ∈ hdls) :
    BitsApart devs p := by
  obtain ⟨all, hall⟩ : ∃ all, all = (devs.filter fun d => d.pDelay = p).map (·.devHdl) := ⟨_, rfl⟩
  have hmem : ∀ hdl, hdl ∈ all ↔ ∃ d ∈ devs, d.pDelay = p ∧ d.devHdl = hdl := fun hdl => by
    simp [hall, and_assoc]
  have hcovered := (h all).2 fun d hd hp => (hmem _).2 ⟨d, hd, hp, rfl⟩
  -- without a report that another makes up for, the table would still be covered
  have hneeded : ∀ d ∈ devs, d.pDelay = p → ¬∀ b, reportedBit devs p d.devHdl = some b →
      ∃ hdl ∈ all, hdl ≠ d.devHdl ∧ reportedBit devs p hdl = some b := by
    intro d hd hp hothers
    have hcovers : Covers devs p (all.filter (· ≠ d.devHdl)) := fun e he hep => by
      obtain ⟨hdl, hhdl, hbit⟩ := hcovered e he hep
      by_cases hsame : hdl = d.devHdl
      · obtain ⟨other, hother, hne, hbit'⟩ := hothers _ (hsame ▸ hbit)
        exact ⟨other, List.mem_filter.2 ⟨hother, decide_eq_true hne⟩, hbit'⟩
      · exact ⟨hdl, List.mem_filter.2 ⟨hhdl, decide_eq_true hsame⟩, hbit⟩
    have hin := (h _).1 hcovers d hd hp
    simp at hin
  constructor
  · intro d hd hp
    refine Option.isSome_iff_ne_none.2 fun hnone => hneeded d hd hp fun b hb => ?_
    rw [hnone] at hb
    cases hb
  · intro d hd hp e he hep hbits
    by_contra hne
    refine hneeded d hd hp fun b hb => ⟨e.devHdl, (hmem _).2 ⟨e, he, hep, rfl⟩, Ne.symm hne, ?_⟩
    rw [← hbits, hb]
  · intro d hd hp
    obtain ⟨hdl, hhdl, hbit⟩ := hcovered d hd hp
    obtain ⟨e, he, hep, rfl⟩ := (hmem hdl).1 hhdl
    exact ⟨e, he, hep, hbit⟩

lemma allReported_iff (haccepted : AcceptedDelays infos) (sync : LinkSync)
    (calls : List (ℤ × ℕ)) :
    allReported infos p calls ↔
      ∀ d ∈ (setupLinkInfo infos sync).devs, d.pDelay = p → d.devHdl ∈ calls.map Prod.fst := by
  have hpairs := (setupLinkInfo_wellFormed haccepted sync).devices
  have hdevs : (∀ x ∈ (setupLinkInfo infos sync).devs.map fun d => (d.devHdl, d.pDelay),
      x.2 = p → x.1 ∈ calls.map Prod.fst) ↔ allReported infos p calls := by
    rw [hpairs, List.forall_mem_map]
    rfl
  rw [← hdevs, List.forall_mem_map]

lemma reportedBit_of_nodup {devs : List ConnectedDevice} (h : (devs.map (·.devHdl)).Nodup)
    {d : ConnectedDevice} (hd : d ∈ devs) (hp : d.pDelay = p) :
    reportedBit devs p d.devHdl = some (d.devBit % 32) := by
  have hfind : devs.find? (fun e => e.devHdl == d.devHdl) = some d := by
    induction devs with
    | nil => simp at hd
    | cons e devs ih =>
      rw [List.map_cons, List.nodup_cons] at h
      rcases List.mem_cons.1 hd with rfl | hd
      · exact List.find?_cons_of_pos (beq_self_eq_true _)
      · have hne : ¬(e.devHdl == d.devHdl) = true := fun heq =>
          h.1 (beq_iff_eq.1 heq ▸ List.mem_map_of_mem hd)
        exact (List.find?_cons_of_neg (p := fun e : ConnectedDevice => e.devHdl == d.devHdl)
          hne).trans (ih h.2 hd)
  rw [reportedBit_of_find hfind, if_pos hp]

lemma setup_bits (haccepted : AcceptedDelays infos) (sync : LinkSync)
    (hp : ∃ info ∈ infos, info.pDelay = p) :
    ((setupLinkInfo infos sync).devs.filter fun d => d.pDelay = p).map (·.devBit) =
      List.range (infos.countP fun info => info.pDelay = p) := by
  obtain ⟨built, hbuilt, heq⟩ := setupLinkInfo_built haccepted sync
  obtain ⟨t, ht, hpd⟩ := hbuilt.mem_map_iff.2 (List.mem_map.2 hp)
  have hbits := (hbuilt.tables t ht).bits
  rw [hpd] at hbits
  have hcount : t.devCount = infos.countP fun info => info.pDelay = p := by
    have hdelays := congrArg (List.countP fun x : ℤ × ℕ => x.2 = p) hbuilt.devs
    rw [List.countP_map, List.countP_map] at hdelays
    have hlength := congrArg List.length hbits
    rw [List.length_map, ← List.countP_eq_length_filter, List.length_range] at hlength
    exact hlength.symm.trans hdelays
  rw [heq, ← hcount]
  exact hbits

/-- With distinct handles, the bits are apart just when the table has no more devices than
its mask has bits. -/
theorem bitsApart_iff_of_nodup (haccepted : AcceptedDelays infos) (sync : LinkSync)
    (hp : ∃ info ∈ infos, info.pDelay = p) (hnodup : (infos.map (·.devHdl)).Nodup) :
    BitsApart (setupLinkInfo infos sync).devs p ↔
      (infos.countP fun info => info.pDelay = p) ≤ 32 := by
  obtain ⟨devs, hdevs⟩ : ∃ devs, devs = (setupLinkInfo infos sync).devs := ⟨_, rfl⟩
  have hbits := setup_bits haccepted sync hp
  have hhdls : (devs.map (·.devHdl)).Nodup := by
    have hpairs := congrArg (List.map Prod.fst) (setupLinkInfo_wellFormed haccepted sync).devices
    rw [List.map_map, List.map_map] at hpairs
    rw [hdevs]
    exact hpairs ▸ hnodup
  rw [← hdevs] at hbits ⊢
  have hinj : ∀ d ∈ devs, ∀ e ∈ devs, d.devHdl = e.devHdl → d = e := fun d hd e he heq =>
    List.inj_on_of_nodup_map hhdls hd he heq
  constructor
  · intro h
    by_contra hmany
    have hbit : ∀ b, b < (infos.countP fun info => info.pDelay = p) →
        ∃ d ∈ devs, d.pDelay = p ∧ d.devBit = b := fun b hb => by
      have hmem : b ∈ (devs.filter fun d => d.pDelay = p).map (·.devBit) := by
        rw [hbits]
        exact List.mem_range.2 hb
      obtain ⟨d, hd, hdb⟩ := List.mem_map.1 hmem
      obtain ⟨hd, hdp⟩ := List.mem_filter.1 hd
      exact ⟨d, hd, of_decide_eq_true hdp, hdb⟩
    obtain ⟨d, hd, hdp, hd0⟩ := hbit 0 (by omega)
    obtain ⟨e, he, hep, he32⟩ := hbit 32 (by omega)
    have hsame := h.apart d hd hdp e he hep (by
      rw [reportedBit_of_nodup hhdls hd hdp, reportedBit_of_nodup hhdls he hep, hd0, he32])
    rw [hinj d hd e he hsame, he32] at hd0
    cases hd0
  · intro hfew
    have hlt : ∀ d ∈ devs, d.pDelay = p → d.devBit < 32 := fun d hd hdp => by
      have hmem : d.devBit ∈ (devs.filter fun d => d.pDelay = p).map (·.devBit) :=
        List.mem_map_of_mem (List.mem_filter.2 ⟨hd, decide_eq_true hdp⟩)
      rw [hbits, List.mem_range] at hmem
      omega
    constructor
    · intro d hd hdp
      rw [reportedBit_of_nodup hhdls hd hdp]
      rfl
    · intro d hd hdp e he hep heq
      rw [reportedBit_of_nodup hhdls hd hdp, reportedBit_of_nodup hhdls he hep, Option.some.injEq,
        Nat.mod_eq_of_lt (hlt d hd hdp), Nat.mod_eq_of_lt (hlt e he hep)] at heq
      have hunique : ((devs.filter fun d => d.pDelay = p).map (·.devBit)).Nodup := by
        rw [hbits]
        exact List.nodup_range
      exact congrArg _ (List.inj_on_of_nodup_map hunique
        (List.mem_filter.2 ⟨hd, decide_eq_true hdp⟩) (List.mem_filter.2 ⟨he, decide_eq_true hep⟩) heq)
    · intro d hd hdp
      exact ⟨d, hd, hdp, reportedBit_of_nodup hhdls hd hdp⟩

/-- The slot of a table is ready just when all its devices reported, in every sequence of
reports, exactly for the device lists whose bits are apart. -/
theorem slotReady_iff_allReported_iff (haccepted : AcceptedDelays infos) (sync : LinkSync)
    (hp : ∃ info ∈ infos, info.pDelay = p) :
    (∀ link reqId idx, FreshRequest infos sync link reqId idx → ∀ calls,
        (slotReady (addReqs reqId calls link) p idx ↔ allReported infos p calls)) ↔
      BitsApart (setupLinkInfo infos sync).devs p := by
  constructor
  · intro h
    obtain ⟨link, hfresh⟩ := freshRequest_setup haccepted sync
    refine bitsApart_of_covers fun hdls => ?_
    have hcalls := h link 1 0 hfresh (hdls.map fun hdl => (hdl, 0))
    rw [slotReady_iff_covers haccepted hp hfresh, allReported_iff haccepted sync, List.map_map,
      show Prod.fst ∘ (fun hdl : ℤ => (hdl, 0)) = id from rfl, List.map_id] at hcalls
    exact hcalls
  · intro h link reqId idx hfresh calls
    rw [slotReady_iff_covers haccepted hp hfresh, allReported_iff haccepted sync,
      covers_iff_of_bitsApart h]

def noSync : LinkSync := ⟨none, false, false, false, false, -1, 0, 0⟩

theorem slotReady_iff_allReported_iff_twoDevices :
    (∀ link reqId idx, FreshRequest [⟨11, 2, 1⟩, ⟨12, 2, 1⟩] noSync link reqId idx → ∀ calls,
        (slotReady (addReqs reqId calls link) 2 idx ↔
          allReported [⟨11, 2, 1⟩, ⟨12, 2, 1⟩] 2 calls)) ↔
      BitsApart (setupLinkInfo [⟨11, 2, 1⟩, ⟨12, 2, 1⟩] noSync).devs 2 :=
  slotReady_iff_allReported_iff (by decide) noSync ⟨⟨11, 2, 1⟩, by decide, rfl⟩

theorem bitsApart_iff_of_nodup_twoDevices :
    BitsApart (setupLinkInfo [⟨11, 2, 1⟩, ⟨12, 2, 1⟩] noSync).devs 2 ↔
      ([⟨11, 2, 1⟩, ⟨12, 2, 1⟩].countP fun info : DeviceInfo => info.pDelay = 2) ≤ 32 :=
  bitsApart_iff_of_nodup (by decide) noSync ⟨⟨11, 2, 1⟩, by decide, rfl⟩ (by decide)

/-- Thirty-three devices of one delay: the last one shares the first one's bit. -/
def manyDevices : List DeviceInfo := (List.range 33).map fun n => ⟨n + 1, 0, 1⟩

theorem unreported_device_ready :
    ¬ ∀ (infos : List DeviceInfo) (sync : LinkSync) (p : ℕ), infos.length ≤ 64 →
      AcceptedDelays infos → (∃ info ∈ infos, info.pDelay = p) →
      ∀ link reqId idx, FreshRequest infos sync link reqId idx → ∀ calls,
        (slotReady (addReqs reqId calls link) p idx ↔ allReported infos p calls) := by
  intro h
  have haccepted : AcceptedDelays manyDevices := by decide +kernel
  have hdelay : ∃ info ∈ manyDevices, info.pDelay = 0 := ⟨⟨1, 0, 1⟩, by decide +kernel, rfl⟩
  obtain ⟨link, hfresh⟩ := freshRequest_setup haccepted noSync
  obtain ⟨calls, hcalls⟩ : ∃ calls : List (ℤ × ℕ),
      calls = (List.range 32).map fun n => ((n : ℤ) + 1, 0) := ⟨_, rfl⟩
  have hready : slotReady (addReqs 1 calls link) 0 0 := by
    rw [slotReady_iff_covers haccepted hdelay hfresh, hcalls]
    decide +kernel
  have hall := (h manyDevices noSync 0 (by decide +kernel) haccepted hdelay link 1 0 hfresh calls).1
    hready ⟨33, 0, 1⟩ (by decide +kernel) rfl
  rw [hcalls] at hall
  exact absurd hall (by decide +kernel)

end CameraKernel.Crm
