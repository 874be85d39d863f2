import CameraKernel.CrmTables

/-! Linking devices: the chain of steps of `cam_req_mgr_link`, each of which may fail, and what a
link that is reported as made looks like. -/
namespace CameraKernel.Crm

/-- What a device of the list is and answers: `ops` is whether it has the operations that are
needed, `rc` the code of `get_dev_info`, and `tblAlloc` whether there is memory for its table. -/
structure DeviceAnswer where
  devHdl : ℤ
  ops : Bool
  rc : ℤ
  pDelay : ℤ
  trigger : ℕ
  tblAlloc : Bool
  deriving DecidableEq, Repr

def DeviceAnswer.info (d : DeviceAnswer) : DeviceInfo := ⟨d.devHdl, d.pDelay.toNat, d.trigger⟩

/-- A link with the sizes of its queue and of its list of devices. -/
structure LinkInfo where
  link : CoreLink
  numSlots : ℕ
  numDevs : ℕ

/-- `none` is a division by zero. -/
def incIdxBy (val step : ℤ) (maxVal : ℕ) : Option ℤ :=
  if maxVal = 0 then none else some ((val + step).tmod maxVal)

def resetInQ (inQ : ReqQueue) : ReqQueue :=
  { inQ with
    slot := fun _ => ⟨false, .noReq, 0, 0, 0⟩
    rdIdx := 0
    wrIdx := 0 }

def destroyLinkInfo (k : CoreLink) : LinkInfo where
  link := { k with lTbl := [], inQ := resetInQ k.inQ, pdMask := 0, maxDelay := 0 }
  numSlots := 0
  numDevs := 0

/-- The loop over the devices that asks for their info. An error carries the code it ends with. -/
def queryDevices : List DeviceAnswer → Except ℤ (List DeviceInfo)
  | [] => .ok []
  | d :: rest =>
    if !d.ops then .error (-Errno.ENXIO)
    else if d.rc < 0 ∨ d.pDelay ≥ pipelineDelayMax ∨ d.pDelay < 0 then .error d.rc
    else (queryDevices rest).map (d.info :: ·)

/-- One round of the loop that builds the tables. -/
def connectRound (k : CoreLink) (d : DeviceAnswer) : Except ℤ CoreLink :=
  if k.pdMask.getLsbD d.info.pDelay then
    match findPdTbl k.lTbl d.info.pDelay with
    | none => .error (-Errno.ENXIO)
    | some _ => .ok (connectDevice k d.info)
  else if !d.tblAlloc then .error (-Errno.ENXIO)
  else .ok (connectDevice k d.info)

def connectDevices : CoreLink → List DeviceAnswer → Except ℤ CoreLink × CoreLink
  | k, [] => (.ok k, k)
  | k, d :: rest =>
    match connectRound k d with
    | .error rc => (.error rc, k)
    | .ok k => connectDevices k rest

/-- The link that `__cam_req_mgr_reserve_link` returns. -/
def freshLink (sync : LinkSync) : CoreLink := { reservedLink 0 sync with state := .idle }

def setupLinkDevices (sync : LinkSync) (devs : List DeviceAnswer) : ℤ × LinkInfo :=
  let k := { freshLink sync with inQ := setupInQ }
  match queryDevices devs with
  | .error rc => (rc, destroyLinkInfo k)
  | .ok infos =>
    let k := { k with subscribeEvent := infos.foldl (fun mask info => mask ||| info.trigger) 0 }
    match connectDevices k devs with
    | (.error rc, k) => (rc, destroyLinkInfo k)
    | (.ok k, _) => (0, ⟨{ k with lTbl := tblSetAllSkipCnt k.lTbl }, maxReqSlots, devs.length⟩)

/-- The steps of a link call other than those with the devices: whether the session is found and
has a free link, the handle that is created, and whether there is memory for the device list, the
worker and the payloads. -/
structure LinkAnswers where
  session : Bool
  reserve : Bool
  linkHdl : ℤ
  subdevs : Bool
  workq : Bool
  payload : Bool
  deriving DecidableEq, Repr

/-- `linkHdl` is what is written to the caller's `link_hdl`, and `link` is `none` once the link went
back to the session. -/
structure LinkResult where
  rc : ℤ
  linkHdl : Option ℤ
  link : Option LinkInfo

/-- The shared body of `cam_req_mgr_link` and `cam_req_mgr_link_v2`, which differ in the number of
handles they take. -/
def linkWith (maxHandles : ℕ) (sync : LinkSync) (env : LinkAnswers) (devs : List DeviceAnswer) :
    LinkResult :=
  if devs.length > maxHandles then ⟨-Errno.EINVAL, none, none⟩
  else if !env.session then ⟨-Errno.EINVAL, none, none⟩
  else if !env.reserve then ⟨-Errno.EINVAL, none, none⟩
  else if env.linkHdl < 0 then ⟨env.linkHdl, none, none⟩
  else if !env.subdevs then ⟨-Errno.ENOMEM, some (-1), none⟩
  else
    let setup := setupLinkDevices sync devs
    if setup.1 < 0 then ⟨setup.1, some (-1), none⟩
    else
      let l := { setup.2 with link := { setup.2.link with state := .ready } }
      if !env.workq then ⟨-Errno.ENOMEM, some (-1), none⟩
      else if !env.payload then ⟨-Errno.ENOMEM, some (-1), none⟩
      else ⟨0, some env.linkHdl, some l⟩

def camReqMgrMaxHandles : ℕ := 64
def camReqMgrMaxHandlesV2 : ℕ := 128

def camReqMgrLink (sync : LinkSync) (env : LinkAnswers) (devs : List DeviceAnswer) : LinkResult :=
  linkWith camReqMgrMaxHandles sync env devs

def camReqMgrLinkV2 (sync : LinkSync) (env : LinkAnswers) (devs : List DeviceAnswer) : LinkResult :=
  linkWith camReqMgrMaxHandlesV2 sync env devs

structure Usable (devs : List DeviceAnswer) (l : LinkInfo) : Prop where
  numSlots : l.numSlots = maxReqSlots
  numDevs : l.numDevs = devs.length
  pdMask : ∀ d ∈ devs, 0 ≤ d.pDelay ∧ l.link.pdMask.getLsbD d.pDelay.toNat = true
  incIdx : ∀ val step, (incIdxBy val step l.numSlots).isSome

/-- Success means a usable link. -/
def SucceedsUsable (devs : List DeviceAnswer) (r : LinkResult) : Prop :=
  r.rc = 0 → ∃ l, r.link = some l ∧ Usable devs l

def DeviceAnswer.accepted (d : DeviceAnswer) : Bool :=
  d.ops && 0 ≤ d.rc && 0 ≤ d.pDelay && d.pDelay < pipelineDelayMax

/-- The first device that is refused is refused for its delay, with a code that is no error. -/
def refusedInSilence : List DeviceAnswer → Bool
  | [] => false
  | d :: rest => if d.accepted then refusedInSilence rest else d.ops && 0 ≤ d.rc

/-- The rest of a link call goes through. -/
def otherwiseLinks (maxHandles : ℕ) (env : LinkAnswers) (devs : List DeviceAnswer) : Bool :=
  devs.length ≤ maxHandles && env.session && env.reserve && 0 ≤ env.linkHdl && env.subdevs &&
    env.workq && env.payload

variable {sync : LinkSync} {devs : List DeviceAnswer} {infos : List DeviceInfo} {k : CoreLink}

lemma accepted_iff {d : DeviceAnswer} : d.accepted = true ↔
    d.ops = true ∧ ¬(d.rc < 0 ∨ d.pDelay ≥ pipelineDelayMax ∨ d.pDelay < 0) := by
  simp only [DeviceAnswer.accepted, Bool.and_eq_true, decide_eq_true_eq, not_or, not_lt, ge_iff_le,
    not_le]
  tauto

lemma queryDevices_cases (devs : List DeviceAnswer) :
    ((∀ d ∈ devs, d.accepted = true) ∧ queryDevices devs = .ok (devs.map DeviceAnswer.info) ∧
        refusedInSilence devs = false) ∨
      ∃ rc, queryDevices devs = .error rc ∧ (refusedInSilence devs = true ↔ 0 ≤ rc) := by
  induction devs with
  | nil => exact .inl ⟨by simp, rfl, rfl⟩
  | cons d rest ih =>
    by_cases hd : d.accepted = true
    · obtain ⟨hops, hgood⟩ := accepted_iff.mp hd
      rcases ih with ⟨hall, heq, hno⟩ | ⟨rc, heq, hiff⟩
      · refine .inl ⟨by simpa [hd] using hall, ?_, by simp [refusedInSilence, hd, hno]⟩
        rw [queryDevices, hops, if_neg (by simp), if_neg hgood, heq]
        rfl
      · refine .inr ⟨rc, ?_, by simpa [refusedInSilence, hd] using hiff⟩
        rw [queryDevices, hops, if_neg (by simp), if_neg hgood, heq]
        rfl
    · cases hops : d.ops with
      | false =>
        have hneg : ¬0 ≤ -Errno.ENXIO := by decide
        have hquiet : refusedInSilence (d :: rest) = false := by
          simp [refusedInSilence, hd, hops]
        refine .inr ⟨-Errno.ENXIO, by simp [queryDevices, hops], ?_⟩
        rw [hquiet]
        exact iff_of_false (by simp) hneg
      | true =>
        have hbad : d.rc < 0 ∨ d.pDelay ≥ pipelineDelayMax ∨ d.pDelay < 0 := by
          by_contra hgood
          exact hd (accepted_iff.mpr ⟨hops, hgood⟩)
        refine .inr ⟨d.rc, ?_, by simp [refusedInSilence, hd, hops]⟩
        rw [queryDevices, hops, if_neg (by simp), if_pos hbad]

lemma connectDevices_cases (k : CoreLink) (devs : List DeviceAnswer) :
    (∃ rc k', connectDevices k devs = (.error rc, k') ∧ rc < 0) ∨
      ∃ k', connectDevices k devs = (.ok ((devs.map DeviceAnswer.info).foldl connectDevice k), k') := by
  have hneg : -Errno.ENXIO < 0 := by decide
  induction devs generalizing k with
  | nil => exact .inr ⟨k, rfl⟩
  | cons d rest ih =>
    have hround : connectRound k d = .error (-Errno.ENXIO) ∨
        connectRound k d = .ok (connectDevice k d.info) := by
      unfold connectRound
      split
      · cases findPdTbl k.lTbl d.info.pDelay with
        | none => exact .inl rfl
        | some t => exact .inr rfl
      · cases d.tblAlloc
        · exact .inl rfl
        · exact .inr rfl
    rcases hround with hround | hround
    · exact .inl ⟨_, k, by rw [connectDevices, hround], hneg⟩
    · rw [connectDevices, hround]
      exact ih (connectDevice k d.info)

lemma freshLink_built (subscribeEvent : ℕ) (sync : LinkSync) :
    Built [] { { freshLink sync with inQ := setupInQ } with subscribeEvent := subscribeEvent } := by
  constructor <;> simp [freshLink, reservedLink, Gaps]

lemma setupLinkDevices_cases (sync : LinkSync) (devs : List DeviceAnswer) :
    ((setupLinkDevices sync devs).1 < 0 ∧ refusedInSilence devs = false) ∨
      (0 ≤ (setupLinkDevices sync devs).1 ∧ refusedInSilence devs = true ∧
        (setupLinkDevices sync devs).2.numSlots = 0) ∨
      (0 ≤ (setupLinkDevices sync devs).1 ∧ refusedInSilence devs = false ∧
        Usable devs (setupLinkDevices sync devs).2) := by
  rcases queryDevices_cases devs with ⟨hall, hquery, hno⟩ | ⟨rc, hquery, hiff⟩
  · obtain ⟨ev, hev⟩ : ∃ ev, ev = (devs.map DeviceAnswer.info).foldl
        (fun mask info => mask ||| info.trigger) 0 := ⟨_, rfl⟩
    obtain ⟨k, hk⟩ : ∃ k, k = { { freshLink sync with inQ := setupInQ } with
        subscribeEvent := ev } := ⟨_, rfl⟩
    have hbuilt : Built [] k := by
      rw [hk]
      exact freshLink_built ev sync
    rcases connectDevices_cases k devs with ⟨rc, k', hconnect, hneg⟩ | ⟨k', hconnect⟩
    · have heq : setupLinkDevices sync devs = (rc, destroyLinkInfo k') := by
        rw [setupLinkDevices, hquery]
        simp only [← hev, ← hk, hconnect]
      rw [heq]
      exact .inl ⟨hneg, hno⟩
    · obtain ⟨k'', hk''⟩ : ∃ k'', k'' = (devs.map DeviceAnswer.info).foldl connectDevice k :=
        ⟨_, rfl⟩
      rw [← hk''] at hconnect
      have heq : setupLinkDevices sync devs =
          (0, ⟨{ k'' with lTbl := tblSetAllSkipCnt k''.lTbl }, maxReqSlots, devs.length⟩) := by
        rw [setupLinkDevices, hquery]
        simp only [← hev, ← hk, hconnect]
      have haccepted : AcceptedDelays (devs.map DeviceAnswer.info) := by
        intro info hinfo
        obtain ⟨d, hd, rfl⟩ := List.mem_map.mp hinfo
        have hgood := (accepted_iff.mp (hall d hd)).2
        simp only [DeviceAnswer.info]
        omega
      have hmask := (hbuilt.foldl haccepted).pdMask
      rw [List.nil_append, ← hk''] at hmask
      rw [heq]
      refine .inr (.inr ⟨le_refl _, hno, rfl, rfl, ?_, ?_⟩)
      · intro d hd
        have hgood := (accepted_iff.mp (hall d hd)).2
        have hlt : d.pDelay.toNat < 32 := by
          simp only [pipelineDelayMax] at hgood
          omega
        refine ⟨by omega, ?_⟩
        change k''.pdMask.getLsbD d.pDelay.toNat = true
        rw [hmask _ hlt, decide_eq_true_eq, List.mem_map]
        exact ⟨d.info, List.mem_map_of_mem hd, rfl⟩
      · intro val step
        simp [incIdxBy, maxReqSlots]
  · have heq : setupLinkDevices sync devs =
        (rc, destroyLinkInfo { freshLink sync with inQ := setupInQ }) := by
      rw [setupLinkDevices, hquery]
    rw [heq]
    by_cases hrc : 0 ≤ rc
    · exact .inr (.inl ⟨hrc, hiff.mpr hrc, rfl⟩)
    · exact .inl ⟨not_le.mp hrc, by simpa using mt hiff.mp hrc⟩

lemma otherwiseLinks_iff {maxHandles : ℕ} {env : LinkAnswers} {devs : List DeviceAnswer} :
    otherwiseLinks maxHandles env devs = true ↔ devs.length ≤ maxHandles ∧ env.session = true ∧
      env.reserve = true ∧ 0 ≤ env.linkHdl ∧ env.subdevs = true ∧ env.workq = true ∧
        env.payload = true := by
  simp only [otherwiseLinks, Bool.and_eq_true, decide_eq_true_eq, and_assoc]

lemma linkWith_cases (maxHandles : ℕ) (sync : LinkSync) (env : LinkAnswers)
    (devs : List DeviceAnswer) :
    ((linkWith maxHandles sync env devs).rc < 0 ∧
        (otherwiseLinks maxHandles env devs = false ∨ (setupLinkDevices sync devs).1 < 0)) ∨
      (otherwiseLinks maxHandles env devs = true ∧ 0 ≤ (setupLinkDevices sync devs).1 ∧
        linkWith maxHandles sync env devs =
          ⟨0, some env.linkHdl, some { (setupLinkDevices sync devs).2 with
            link := { (setupLinkDevices sync devs).2.link with state := .ready } }⟩) := by
  have hinval : -Errno.EINVAL < 0 := by decide
  have hnomem : -Errno.ENOMEM < 0 := by decide
  have hfail (h : ¬(devs.length ≤ maxHandles ∧ env.session = true ∧ env.reserve = true ∧
      0 ≤ env.linkHdl ∧ env.subdevs = true ∧ env.workq = true ∧ env.payload = true)) :
      otherwiseLinks maxHandles env devs = false := by
    rw [← Bool.not_eq_true, otherwiseLinks_iff]
    exact h
  obtain ⟨rc, hrc⟩ : ∃ rc, rc = (setupLinkDevices sync devs).1 := ⟨_, rfl⟩
  rw [← hrc, linkWith]
  dsimp only
  rw [← hrc]
  by_cases hmax : devs.length > maxHandles
  · rw [if_pos hmax]
    exact .inl ⟨hinval, .inl (hfail fun h => by omega)⟩
  rw [if_neg hmax]
  cases hsession : env.session with
  | false => exact .inl ⟨hinval, .inl (hfail fun h => by simp [h.2.1] at hsession)⟩
  | true =>
  cases hreserve : env.reserve with
  | false => exact .inl ⟨hinval, .inl (hfail fun h => by simp [h.2.2.1] at hreserve)⟩
  | true =>
  by_cases hhdl : env.linkHdl < 0
  · simp only [Bool.not_true, Bool.false_eq_true, if_false, if_pos hhdl]
    exact .inl ⟨hhdl, .inl (hfail fun h => by omega)⟩
  simp only [Bool.not_true, Bool.false_eq_true, if_false, if_neg hhdl]
  cases hsubdevs : env.subdevs with
  | false => exact .inl ⟨hnomem, .inl (hfail fun h => by simp [h.2.2.2.2.1] at hsubdevs)⟩
  | true =>
  by_cases hneg : rc < 0
  · simp only [Bool.not_true, Bool.false_eq_true, if_false, if_pos hneg]
    exact .inl ⟨hneg, .inr hneg⟩
  simp only [Bool.not_true, Bool.false_eq_true, if_false, if_neg hneg]
  cases hworkq : env.workq with
  | false => exact .inl ⟨hnomem, .inl (hfail fun h => by simp [h.2.2.2.2.2.1] at hworkq)⟩
  | true =>
  cases hpayload : env.payload with
  | false => exact .inl ⟨hnomem, .inl (hfail fun h => by simp [h.2.2.2.2.2.2] at hpayload)⟩
  | true =>
    exact .inr ⟨otherwiseLinks_iff.mpr ⟨by omega, hsession, hreserve, by omega, hsubdevs, hworkq, hpayload⟩,
      by omega, rfl⟩

theorem succeedsUsable_iff (maxHandles : ℕ) (sync : LinkSync) (env : LinkAnswers)
    (devs : List DeviceAnswer) :
    SucceedsUsable devs (linkWith maxHandles sync env devs) ↔
      ¬(otherwiseLinks maxHandles env devs = true ∧ refusedInSilence devs = true) := by
  rcases linkWith_cases maxHandles sync env devs with ⟨hrc, hwhy⟩ | ⟨hother, hrc, heq⟩
  · refine iff_of_true (fun hzero => by omega) fun ⟨hother, hquiet⟩ => ?_
    rcases hwhy with hwhy | hwhy
    · simp [hwhy] at hother
    · rcases setupLinkDevices_cases sync devs with ⟨_, hloud⟩ | ⟨hpos, _⟩ | ⟨hpos, _⟩
      · simp [hloud] at hquiet
      · omega
      · omega
  · rw [heq]
    rcases setupLinkDevices_cases sync devs with ⟨hneg, _⟩ | ⟨_, hquiet, hslots⟩ | ⟨_, hloud, husable⟩
    · omega
    · refine iff_of_false (fun hsucc => ?_) (fun hnot => hnot ⟨hother, hquiet⟩)
      obtain ⟨l, hl, husable⟩ := hsucc rfl
      have hl := Option.some.inj hl
      have hcount := husable.numSlots
      rw [← hl, hslots] at hcount
      simp [maxReqSlots] at hcount
    · refine iff_of_true (fun _ => ⟨_, rfl, ?_⟩) fun ⟨_, hquiet⟩ => by simp [hloud] at hquiet
      exact ⟨husable.numSlots, husable.numDevs, husable.pdMask, husable.incIdx⟩

/-- Success of either call leaves a usable link just where no device is refused in silence. -/
theorem camReqMgrLink_usable_iff (sync : LinkSync) (env : LinkAnswers) (devs : List DeviceAnswer) :
    (SucceedsUsable devs (camReqMgrLink sync env devs) ↔
        ¬(otherwiseLinks camReqMgrMaxHandles env devs = true ∧ refusedInSilence devs = true)) ∧
      (SucceedsUsable devs (camReqMgrLinkV2 sync env devs) ↔
        ¬(otherwiseLinks camReqMgrMaxHandlesV2 env devs = true ∧ refusedInSilence devs = true)) :=
  ⟨succeedsUsable_iff _ sync env devs, succeedsUsable_iff _ sync env devs⟩

/-- A device whose `get_dev_info` returns 0 with a delay of 3. -/
theorem camReqMgrLink_unusable :
    ¬∀ (sync : LinkSync) (env : LinkAnswers) (devs : List DeviceAnswer),
      SucceedsUsable devs (camReqMgrLink sync env devs) := by
  intro hall
  have hsucc := hall ⟨none, false, false, false, false, 0, 0, 0⟩ ⟨true, true, 5, true, true, true⟩
    [⟨7, true, 0, 3, 1, true⟩]
  obtain ⟨l, hl, husable⟩ := hsucc (by decide)
  have hslots : (camReqMgrLink ⟨none, false, false, false, false, 0, 0, 0⟩
      ⟨true, true, 5, true, true, true⟩ [⟨7, true, 0, 3, 1, true⟩]).link.map LinkInfo.numSlots =
        some 0 := by decide
  rw [hl, Option.map_some, husable.numSlots] at hslots
  simp [maxReqSlots] at hslots

end CameraKernel.Crm
