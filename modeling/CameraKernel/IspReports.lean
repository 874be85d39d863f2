import CameraKernel.IspOps
import CameraKernel.OrderedTrace

/-! The request ids in the SOF messages to user space. An id of zero says that the frame has
no request to report. -/
namespace CameraKernel.Isp
open Transition

/-- The first active request that is not reported yet. -/
def firstUnreportedId (c : Ctx) : ℕ :=
  match firstUnreported c with
  | none => 0
  | some i => (c.req i).requestId

def newId (c : Ctx) (id : ℕ) : ℕ := if c.reportedReqId < id then id else 0

/-- In the BUBBLE substate the id is counted as reported, and not sent. -/
def notifySofSends (c : Ctx) : List ℕ :=
  if c.crmIntf = true ∧ c.activeReqCnt ≤ 2 then
    [if c.substate = .bubble then 0 else firstUnreportedId c]
  else []

def epochInAppliedSends (c : Ctx) : List ℕ :=
  match c.wait with
  | [] => [0]
  | i :: _ => [newId c (c.req i).requestId]

def bubbleAgainSends (c : Ctx) (i : ℕ) : List ℕ :=
  if (c.req i).bubbleReport && c.crmIntf then [0] else [newId c (c.req i).requestId]

def epochInBubbleAppliedSends (c : Ctx) : List ℕ :=
  match c.wait with
  | [] => [0]
  | i :: _ => bubbleAgainSends c i

def fs2SofInSofSends (c : Ctx) : List ℕ :=
  if c.wait = [] ∧ c.crmIntf = true ∧ c.activeReqCnt ≤ 2 then [firstUnreportedId c] else []

def fs2RegUpdInAppliedSends (c : Ctx) : List ℕ :=
  match c.wait with
  | [] => []
  | i :: rest =>
    let d := takeUp c i rest
    if (c.req i).fenceMapOut.length = 1 ∧ d.crmIntf = true ∧ d.activeReqCnt ≤ 2 then
      [firstUnreportedId d]
    else []

/-- The id goes through a variable of type `int`, and is compared as a signed number. -/
def fs2BufDoneSends (c : Ctx) (t : ℕ) (acks : List (ℕ × ℤ)) : List ℕ :=
  match c.active with
  | [] => []
  | i :: _ =>
    let d := handleBufDoneInActivatedState c t acks
    let id := requestIdAsInt (c.req i).requestId
    if c.activeReqCnt = d.activeReqCnt + 1 ∧ d.wait = [] ∧ d.active = [] ∧
        int64 d.reportedReqId < int64 id then [id]
    else []

def rdiOnlySofInTopSends (c : Ctx) : List ℕ := if c.crmIntf then [0] else []

/-- The frame before is reported first, as an idle one. -/
def rdiOnlySofInBubbleAppliedSends (c : Ctx) : List ℕ := 0 :: epochInBubbleAppliedSends c

/-- An INIT packet without buffers is not reported. -/
def rdiOnlyRegUpdId (c : Ctx) (i : ℕ) : ℕ :=
  if (c.req i).fenceMapOut.length = 0 ∧ (c.req i).initPacket = true then 0 else (c.req i).requestId

/-- The one handler that does not look whether the id was reported before. -/
def rdiOnlyRegUpdInBubbleAppliedSends (c : Ctx) : List ℕ :=
  if c.crmIntf = true then
    match c.wait with
    | [] => [0]
    | i :: _ => [rdiOnlyRegUpdId c i]
  else [0]

def pixSends (c : Ctx) : Event → List ℕ
  | .epoch _ => match c.substate with
    | .sof | .epoch | .bubble => notifySofSends c
    | .applied => epochInAppliedSends c
    | .bubbleApplied => epochInBubbleAppliedSends c
    | _ => []
  | _ => []

def fs2Sends (c : Ctx) (e : Event) : List ℕ :=
  match c.substate, e with
  | .sof, .sof _ => fs2SofInSofSends c
  | .sof, .epoch _ => fs2SofInSofSends c
  | .applied, .regUpdate _ _ => fs2RegUpdInAppliedSends c
  | .applied, .done t acks => fs2BufDoneSends c t acks
  | .epoch, .done t acks => fs2BufDoneSends c t acks
  | _, e => pixSends c e

def rdiOnlySends (c : Ctx) : Event → List ℕ
  | .sof _ => match c.substate with
    | .sof | .epoch => rdiOnlySofInTopSends c
    | .bubble => [0]
    | .bubbleApplied => rdiOnlySofInBubbleAppliedSends c
    | _ => []
  | .regUpdate _ _ => match c.substate with
    | .bubbleApplied => rdiOnlyRegUpdInBubbleAppliedSends c
    | _ => []
  | _ => []

/-- The ids in the SOF messages that a step sends. -/
def sofSends (c : Ctx) : Op → List ℕ
  | .irq e =>
    if c.state = .activated then
      match c.machine with
      | .pix => pixSends c e
      | .fs2 => fs2Sends c e
      | .rdi => rdiOnlySends c e
    else []
  | _ => []

def reportedIds (c : Ctx) (op : Op) : List ℕ := (sofSends c op).filter fun id => id ≠ 0

/-- A register update that the RDI-only machine handles in the BUBBLE_APPLIED substate takes up a
request with an id above the last reported one. -/
def updatesUnreported (c : Ctx) : Op → Bool
  | .irq (.regUpdate _ _) =>
    if c.state = .activated ∧ c.machine = .rdi ∧ c.substate = .bubbleApplied ∧ c.crmIntf = true then
      match c.wait with
      | [] => true
      | i :: _ => decide (rdiOnlyRegUpdId c i ≠ 0 → c.reportedReqId < rdiOnlyRegUpdId c i)
    else true
  | _ => true

/-- The FS2 machine reports the id of the only active request when it is done and none waits. -/
def reportsAtDone (c : Ctx) (acks : List (ℕ × ℤ)) : Bool :=
  c.machine == .fs2 && (c.substate == .applied || c.substate == .epoch) && c.wait.isEmpty &&
    c.active.length == 1 && doneCompletes c acks

/-- The last reported id or the copy of the id in an `int` keeps the unsigned order: only a negative
number is below a negative one. -/
def signKept (c : Ctx) : Bool :=
  decide (c.reportedReqId < 2 ^ 63) || c.active.all fun i => decide (2 ^ 31 ≤ (c.req i).requestId % 2 ^ 32)

/-- A done event that completes a request finds another one where the counter says so, and the id that
the FS2 machine reports then keeps its place in the order. -/
def donesInOrder (c : Ctx) : Op → Bool
  | .irq (.done t acks) =>
    !(c.state == .activated && handlesDone c) ||
      (!reportsAtDone c acks || signKept c) && !(doneCompletes c acks && straysAfter c t)
  | _ => true

/-- The operations between the start of the device and its stop. -/
def streams : Op → Bool
  | .stopDev | .unlink | .releaseHw | .releaseDev => false
  | _ => true

/-! ### What a step reports -/

/-- The ids sent rise from the last reported one. The RDI-only machine sends every id that it counts
as reported. -/
structure Reports (c : Ctx) (ids : List ℕ) (d : Ctx) : Prop where
  climbs : Climbs c.reportedReqId (ids.filter fun id => id ≠ 0) d.reportedReqId
  sent : c.machine = .rdi →
    d.reportedReqId = c.reportedReqId ∨ d.reportedReqId ∈ ids.filter fun id => id ≠ 0

lemma Reports.idle {c d : Ctx} {ids : List ℕ} (hids : ∀ id ∈ ids, id = 0)
    (h : d.reportedReqId = c.reportedReqId) : Reports c ids d := by
  have hnone : (ids.filter fun id => id ≠ 0) = [] := by simpa [List.filter_eq_nil_iff] using hids
  refine ⟨?_, fun _ => .inl h⟩
  rw [hnone]
  exact .nil h.ge

lemma Reports.above {c d : Ctx} {id : ℕ} (hid : c.reportedReqId < id) (h : d.reportedReqId = id) :
    Reports c [id] d := by
  have hone : ([id].filter fun id => id ≠ 0) = [id] := by simp [Nat.ne_zero_of_lt hid]
  refine ⟨?_, fun _ => .inr ?_⟩
  · rw [hone, h]
    exact .singleton hid
  · rw [hone, h]
    exact List.mem_singleton_self id

lemma Reports.cons_zero {c d : Ctx} {ids : List ℕ} (h : Reports c ids d) : Reports c (0 :: ids) d :=
  ⟨h.climbs, h.sent⟩

lemma Reports.unsent {c d : Ctx} (hm : c.machine ≠ .rdi) (h : c.reportedReqId ≤ d.reportedReqId) :
    Reports c [0] d :=
  ⟨.nil h, fun hrdi => absurd hrdi hm⟩

lemma raiseReported_reports (b : Ctx) {c : Ctx} (h : b.reportedReqId = c.reportedReqId) (id : ℕ) :
    Reports c [newId c id] (raiseReported b id) := by
  unfold newId raiseReported
  rw [h]
  by_cases hid : c.reportedReqId < id
  · simp only [hid, if_true]
    exact .above hid rfl
  · simp only [hid, if_false]
    exact .idle (by simp) rfl

lemma firstUnreported_lt {c : Ctx} {i : ℕ} (h : firstUnreported c = some i) :
    c.reportedReqId < (c.req i).requestId := by
  simpa using List.find?_some h

lemma report_reports (c : Ctx) : Reports c [firstUnreportedId c] (report c) := by
  unfold firstUnreportedId report
  cases h : firstUnreported c with
  | none => exact .idle (by simp) rfl
  | some i => exact .above (firstUnreported_lt h) rfl

lemma takeUp_reported (c : Ctx) (i : ℕ) (rest : List ℕ) :
    (takeUp c i rest).reportedReqId = c.reportedReqId := by
  unfold takeUp
  split <;> rfl

lemma takeUp_req (c : Ctx) (i : ℕ) (rest : List ℕ) : (takeUp c i rest).req = c.req := by
  unfold takeUp
  split <;> rfl

lemma handleBufDone_reported (c : Ctx) (t : ℕ) (acks : List (ℕ × ℤ)) :
    (handleBufDoneInActivatedState c t acks).reportedReqId = c.reportedReqId := by
  have hdrop (d : Ctx) : (dropDelayed d).reportedReqId = d.reportedReqId := by
    unfold dropDelayed
    split
    · split <;> rfl
    · rfl
  have hfinish (d : Ctx) (i : ℕ) (rest : List ℕ) :
      (finishFirst d i rest).reportedReqId = d.reportedReqId := by
    unfold finishFirst
    split <;> rfl
  unfold handleBufDoneInActivatedState
  split
  · rfl
  · dsimp only
    split
    · rfl
    · exact (hdrop _).trans (hfinish _ _ _)

lemma dropWaiting_reported (c : Ctx) : (dropWaiting c).reportedReqId = c.reportedReqId := by
  unfold dropWaiting
  split <;> rfl

lemma notifySof_reports {c : Ctx} (hm : c.machine ≠ .rdi) :
    Reports c (notifySofSends c) (notifySofInActivatedState c) := by
  unfold notifySofSends notifySofInActivatedState firstUnreportedId
  split
  · cases h : firstUnreported c with
    | none => exact .idle (by simp) rfl
    | some i =>
      have hid := firstUnreported_lt h
      have hreported (d : Ctx) (hd : d.reportedReqId = (c.req i).requestId) :
          Reports c [if c.substate = .bubble then 0 else (c.req i).requestId] d := by
        split
        · exact .unsent hm (hd ▸ hid.le)
        · exact .above hid hd
      dsimp only
      apply hreported
      split <;> rfl
  · exact .idle (by simp) rfl

lemma epochInApplied_reports (c : Ctx) (t : ℕ) :
    Reports c (epochInAppliedSends c) (epochInApplied c t) := by
  unfold epochInAppliedSends epochInApplied
  cases c.wait with
  | nil => exact .idle (by simp) rfl
  | cons i rest =>
    have h := raiseReported_reports (c := c) { bubble c i rest with
      processBubble := ((c.req i).bubbleReport && c.crmIntf) || c.processBubble } rfl (c.req i).requestId
    exact ⟨h.climbs, h.sent⟩

lemma bubbleAgain_reports (b : Ctx) {c : Ctx} (hreq : b.req = c.req) (hcrm : b.crmIntf = c.crmIntf)
    (h : b.reportedReqId = c.reportedReqId) (i : ℕ) (rest : List ℕ) :
    Reports c (bubbleAgainSends c i) (bubbleAgain b i rest) := by
  unfold bubbleAgainSends bubbleAgain
  rw [hreq, hcrm]
  split
  · exact .idle (by simp) h
  · exact raiseReported_reports (bubble b i rest) h (c.req i).requestId

lemma epochInBubbleApplied_reports (c : Ctx) :
    Reports c (epochInBubbleAppliedSends c) (epochInBubbleApplied c) := by
  unfold epochInBubbleAppliedSends epochInBubbleApplied
  cases c.wait with
  | nil => exact .idle (by simp) rfl
  | cons i rest => exact bubbleAgain_reports c rfl rfl rfl i rest

lemma rdiOnlySofInBubbleApplied_reports (c : Ctx) :
    Reports c (rdiOnlySofInBubbleAppliedSends c) (rdiOnlySofInBubbleApplied c) := by
  refine .cons_zero ?_
  unfold epochInBubbleAppliedSends rdiOnlySofInBubbleApplied
  dsimp only
  cases c.wait with
  | nil => exact .idle (by simp) rfl
  | cons i rest => exact bubbleAgain_reports _ (by rfl) (by rfl) (by rfl) i rest

lemma fs2SofInSof_reports (c : Ctx) : Reports c (fs2SofInSofSends c) (fs2SofInSofState c) := by
  unfold fs2SofInSofSends fs2SofInSofState
  dsimp only
  split
  · have h := report_reports { c with frameId := c.frameId + 1 }
    exact ⟨h.climbs, h.sent⟩
  · exact .idle (by simp) rfl

lemma fs2RegUpd_reports (c : Ctx) : Reports c (fs2RegUpdInAppliedSends c) (fs2RegUpdInAppliedState c) := by
  unfold fs2RegUpdInAppliedSends fs2RegUpdInAppliedState
  cases c.wait with
  | nil => exact .idle (by simp) rfl
  | cons i rest =>
    have hlast := takeUp_reported c i rest
    have hreq := takeUp_req c i rest
    have hmachine : (takeUp c i rest).machine = c.machine := congrArg Top.machine (takeUp_top c i rest)
    dsimp only
    generalize takeUp c i rest = d at hlast hreq hmachine ⊢
    have h := report_reports { updateFps d (c.req i).fps with substate := .epoch }
    have hreport : Reports c [firstUnreportedId d]
        (report { updateFps d (c.req i).fps with substate := .epoch }) := by
      refine ⟨?_, fun hrdi => ?_⟩
      · rw [← hlast]
        exact h.climbs
      · rw [← hlast]
        exact h.sent (hmachine.trans hrdi)
    change Reports c _ (if (d.req i).fenceMapOut.length = 1 ∧ d.crmIntf = true ∧ d.activeReqCnt ≤ 2 then _ else _)
    rw [hreq]
    split
    · exact hreport
    · exact .idle (by simp) hlast

lemma handleBufDone_last {c : Ctx} {i : ℕ} {rest : List ℕ} {t : ℕ} {acks : List (ℕ × ℤ)}
    (hactive : c.active = i :: rest) (hnone : (handleBufDoneInActivatedState c t acks).active = [])
    (hcnt : c.activeReqCnt = (handleBufDoneInActivatedState c t acks).activeReqCnt + 1) :
    (handleBufDoneInActivatedState c t acks).wait = c.wait ∧ rest = [] ∧ doneCompletes c acks = true := by
  have hwait (d : Ctx) : (dropDelayed d).wait = d.wait := by
    unfold dropDelayed
    split
    · split <;> rfl
    · rfl
  have hfinish (d : Ctx) : (finishFirst d i rest).wait = d.wait ∧ (finishFirst d i rest).active = rest ∧
      (finishFirst d i rest).activeReqCnt = d.activeReqCnt - 1 := by
    unfold finishFirst
    split <;> exact ⟨rfl, rfl, rfl⟩
  unfold handleBufDoneInActivatedState at hnone hcnt ⊢
  rw [hactive] at hnone hcnt ⊢
  dsimp only at hnone hcnt ⊢
  split at hnone
  · exact absurd hnone (by simp [setReq, stampIrq, hactive])
  · next hacked =>
    rw [if_neg hacked] at hcnt ⊢
    obtain ⟨hw, ha, hc⟩ := hfinish (setReq (stampIrq c t) i (ackPorts (c.req i) acks))
    refine ⟨(hwait _).trans hw, ?_, by simpa [doneCompletes, hactive] using hacked⟩
    generalize finishFirst (setReq (stampIrq c t) i (ackPorts (c.req i) acks)) i rest = d at ha hc hnone hcnt
    change d.activeReqCnt = c.activeReqCnt - 1 at hc
    unfold dropDelayed at hnone hcnt
    split at hnone
    · next hlate =>
      rw [if_pos hlate] at hcnt
      -- The delayed path takes the counter down once more.
      cases hd : d.active with
      | nil => rw [hd] at hcnt; simp only at hcnt; omega
      | cons j rest' => rw [hd] at hcnt; simp only at hcnt; omega
    · exact ha.symm.trans hnone

lemma lt_of_int64_lt {reported id : ℕ} (hlt : int64 reported < int64 (requestIdAsInt id))
    (h : reported < 2 ^ 63 ∨ 2 ^ 31 ≤ id % 2 ^ 32) : reported < requestIdAsInt id := by
  have hmod : id % 2 ^ 32 < 2 ^ 32 := Nat.mod_lt _ (by norm_num)
  unfold int64 requestIdAsInt at hlt
  unfold requestIdAsInt
  split_ifs at hlt ⊢ <;> omega

lemma fs2BufDone_reports {c : Ctx} {t : ℕ} {acks : List (ℕ × ℤ)}
    (h : c.wait = [] → c.active.length = 1 → doneCompletes c acks = true → signKept c = true) :
    Reports c (fs2BufDoneSends c t acks) (fs2BufDone c t acks) := by
  have hlast := handleBufDone_reported c t acks
  unfold fs2BufDoneSends fs2BufDone
  cases hactive : c.active with
  | nil => exact .idle (by simp) rfl
  | cons i rest =>
    dsimp only
    rw [hlast]
    split
    · next hsend =>
      rw [if_pos ⟨hsend.1, hsend.2.1, hsend.2.2.1⟩]
      obtain ⟨hwait, hrest, hcompletes⟩ := handleBufDone_last hactive hsend.2.2.1 hsend.1
      have hkept := h (hwait.symm.trans hsend.2.1) (by simp [hactive, hrest]) hcompletes
      have hsigns : c.reportedReqId < 2 ^ 63 ∨ 2 ^ 31 ≤ (c.req i).requestId % 2 ^ 32 := by
        simpa [signKept, hactive, hrest] using hkept
      exact .above (lt_of_int64_lt hsend.2.2.2 hsigns) (if_pos hsend.2.2.2)
    · next hsend =>
      refine .idle (by simp) ?_
      split
      · next hidle =>
        have hnot : ¬int64 c.reportedReqId < int64 (requestIdAsInt (c.req i).requestId) :=
          fun hid => hsend ⟨hidle.1, hidle.2.1, hidle.2.2, hid⟩
        exact if_neg hnot
      · exact hlast

lemma rdiOnlyRegUpd_reports {c : Ctx}
    (h : c.crmIntf = true → ∀ i rest, c.wait = i :: rest → rdiOnlyRegUpdId c i ≠ 0 →
      c.reportedReqId < rdiOnlyRegUpdId c i) :
    Reports c (rdiOnlyRegUpdInBubbleAppliedSends c) (rdiOnlyRegUpdInBubbleAppliedState c) := by
  unfold rdiOnlyRegUpdInBubbleAppliedSends rdiOnlyRegUpdInBubbleAppliedState
  split
  · next hcrm =>
    cases hwait : c.wait with
    | nil => exact .idle (by simp) rfl
    | cons i rest =>
      change Reports c [rdiOnlyRegUpdId c i] { updateFps (takeUp c i rest) (c.req i).fps with
        substate := .epoch
        reportedReqId := if rdiOnlyRegUpdId c i ≠ 0 then rdiOnlyRegUpdId c i else c.reportedReqId }
      by_cases hid : rdiOnlyRegUpdId c i = 0
      · exact .idle (by simp [hid]) (if_neg (not_not.mpr hid))
      · exact .above (h hcrm i rest hwait hid) (if_pos hid)
  · exact .idle (by simp) rfl

lemma regUpd_reported (c : Ctx) (t : ℕ) : (regUpdInActivatedState c t).reportedReqId = c.reportedReqId := by
  unfold regUpdInActivatedState
  split
  · rfl
  · next i rest _ =>
    have hlast := takeUp_reported c i rest
    generalize takeUp c i rest = d at hlast ⊢
    exact hlast

lemma pixIrq_reports {c : Ctx} (hm : c.machine ≠ .rdi) (e : Event) : Reports c (pixSends c e) (pixIrq c e) := by
  cases e with
  | error =>
    refine .idle (by simp [pixSends]) ?_
    unfold pixIrq
    cases c.substate with
    | hwError | halt => rfl
    | sof | applied | epoch | bubble | bubbleApplied => exact (handleError_errorKeeps c).reportedReqId
  | sof t =>
    refine .idle (by simp [pixSends]) ?_
    unfold pixIrq
    cases c.substate <;> rfl
  | regUpdate t strayFps =>
    refine .idle (by simp [pixSends]) ?_
    unfold pixIrq
    cases c.substate with
    | sof =>
      dsimp only
      unfold regUpdInSof
      split
      · rfl
      · exact dropWaiting_reported c
    | applied | bubbleApplied => exact regUpd_reported c t
    | epoch | hwError | bubble | halt => rfl
  | epoch t =>
    unfold pixIrq pixSends
    cases c.substate with
    | sof | epoch | bubble => exact notifySof_reports hm
    | applied => exact epochInApplied_reports c t
    | bubbleApplied => exact epochInBubbleApplied_reports c
    | hwError | halt => exact .idle (by simp) rfl
  | eof => exact .idle (by simp [pixSends]) rfl
  | done t acks =>
    refine .idle (by simp [pixSends]) ?_
    unfold pixIrq
    cases c.substate with
    | applied | epoch | bubble | bubbleApplied => exact handleBufDone_reported c t acks
    | sof | hwError | halt => rfl

lemma fs2Irq_reports {c : Ctx} (hstate : c.state = .activated) (hm : c.machine = .fs2) {e : Event}
    (h : donesInOrder c (.irq e) = true) : Reports c (fs2Sends c e) (fs2Irq c e) := by
  have hpix := pixIrq_reports (c := c) (by simp [hm]) e
  unfold fs2Irq fs2Sends
  cases e with
  | sof t =>
    cases c.substate with
    | sof => exact fs2SofInSof_reports c
    | applied | epoch | bubble | bubbleApplied | hwError | halt => exact hpix
  | epoch t =>
    cases c.substate with
    | sof => exact fs2SofInSof_reports c
    | applied | epoch | bubble | bubbleApplied | hwError | halt => exact hpix
  | regUpdate t strayFps =>
    cases c.substate with
    | sof =>
      refine .idle (by simp [pixSends]) ?_
      dsimp only
      unfold fs2RegUpdInSof
      split
      · rfl
      · exact dropWaiting_reported c
    | applied => exact fs2RegUpd_reports c
    | epoch | bubble | bubbleApplied | hwError | halt => exact hpix
  | done t acks =>
    cases hsub : c.substate with
    | applied | epoch =>
      refine fs2BufDone_reports fun hwait hone hcompletes => ?_
      have hboth : signKept c = true ∧ straysAfter c t = false := by
        simpa [donesInOrder, reportsAtDone, handlesDone, hstate, hm, hsub, hwait, hone, hcompletes] using h
      exact hboth.1
    | sof | bubble | bubbleApplied | hwError | halt => exact hpix
  | error | eof => cases c.substate <;> exact hpix

lemma rdiOnlySofInTop_reports (c : Ctx) : Reports c (rdiOnlySofInTopSends c) (rdiOnlySofInTopState c) := by
  unfold rdiOnlySofInTopSends
  split
  · exact .idle (by simp) rfl
  · exact .idle (by simp) rfl

lemma rdiOnlyIrq_reports {c : Ctx} (hstate : c.state = .activated) (hm : c.machine = .rdi) {e : Event}
    (h : updatesUnreported c (.irq e) = true) : Reports c (rdiOnlySends c e) (rdiOnlyIrq c e) := by
  cases e with
  | error =>
    refine .idle (by simp [rdiOnlySends]) ?_
    unfold rdiOnlyIrq
    cases c.substate with
    | applied | epoch | bubble | bubbleApplied => exact (handleError_errorKeeps c).reportedReqId
    | sof | hwError | halt => rfl
  | sof t =>
    unfold rdiOnlyIrq rdiOnlySends
    cases c.substate with
    | sof | epoch => exact rdiOnlySofInTop_reports c
    | applied | hwError | halt => exact .idle (by simp) rfl
    | bubble => exact .idle (by simp) rfl
    | bubbleApplied => exact rdiOnlySofInBubbleApplied_reports c
  | regUpdate t strayFps =>
    unfold rdiOnlyIrq rdiOnlySends
    cases hsub : c.substate with
    | sof =>
      refine .idle (by simp) ?_
      dsimp only
      unfold regUpdInSof
      split
      · rfl
      · exact dropWaiting_reported c
    | bubbleApplied =>
      refine rdiOnlyRegUpd_reports fun hcrm i rest hwait => ?_
      have hid : rdiOnlyRegUpdId c i = 0 ∨ c.reportedReqId < rdiOnlyRegUpdId c i := by
        simpa [updatesUnreported, hstate, hm, hsub, hcrm, hwait] using h
      exact hid.resolve_left
    | applied | epoch | bubble | hwError | halt => exact .idle (by simp) rfl
  | epoch t => exact .idle (by simp [rdiOnlySends]) rfl
  | eof => exact .idle (by simp [rdiOnlySends]) rfl
  | done t acks =>
    refine .idle (by simp [rdiOnlySends]) ?_
    unfold rdiOnlyIrq
    cases c.substate with
    | applied | epoch | bubble | bubbleApplied => exact handleBufDone_reported c t acks
    | sof | hwError | halt => rfl

/-- A call between start and stop: the device goes on streaming, and nothing is reported. -/
structure KeepsReported (c d : Ctx) : Prop where
  state : d.state = c.state
  machine : d.machine = c.machine
  reported : d.reportedReqId = c.reportedReqId

lemma KeepsReported.refl (c : Ctx) : KeepsReported c c := ⟨rfl, rfl, rfl⟩

lemma takeFreeReq_keepsReported (c : Ctx) : KeepsReported c (takeFreeReq c).2 := by
  unfold takeFreeReq
  split
  · exact .refl c
  · exact ⟨rfl, rfl, rfl⟩

lemma configured_keepsReported {c d : Ctx} {i : ℕ} {p : Packet} (h : Configured c i p d) : KeepsReported c d := by
  obtain ⟨free, pending, req, initReceived, rfl⟩ := configured_eq h
  exact ⟨rfl, rfl, rfl⟩

lemma configDev_keepsReported {c : Ctx} (hstate : c.state = .activated) (i : ℕ) (p : Packet) :
    KeepsReported c (configDev c i p).2 := by
  unfold configDev
  rw [if_neg (by simp [hstate])]
  exact configured_keepsReported (configDevInTopState_configured c i p)

lemma applyReq_keepsReported (c : Ctx) (a : ApplyReq) : KeepsReported c (applyReq c a).2 := by
  have hactivated (next : Substate) : KeepsReported c (applyReqInActivatedState c a next).2 := by
    unfold applyReqInActivatedState
    split
    · exact .refl c
    · dsimp only
      split_ifs <;> exact ⟨rfl, rfl, rfl⟩
  unfold applyReq
  split
  · exact hactivated _
  · exact hactivated _
  · exact hactivated _
  · exact hactivated _
  · exact .refl c

lemma flushReq_keepsReported {c : Ctx} (hstate : c.state = .activated) (f : FlushReq) :
    KeepsReported c (flushReq c f).2 := by
  have hpending : KeepsReported c (flushPending (recordFlush c f) f) := ⟨rfl, rfl, rfl⟩
  unfold flushReq
  rw [hstate]
  dsimp only
  unfold flushReqInTopState
  generalize flushPending (recordFlush c f) f = d at hpending ⊢
  dsimp only
  have happlied : KeepsReported d (flushApplied { d with processBubble := false } f) := ⟨rfl, rfl, rfl⟩
  generalize flushApplied { d with processBubble := false } f = e at happlied ⊢
  split_ifs
  · exact ⟨hpending.state, hpending.machine, hpending.reported⟩
  · exact ⟨hpending.state, hpending.machine, hpending.reported⟩
  · exact ⟨happlied.state.trans hpending.state, happlied.machine.trans hpending.machine,
      happlied.reported.trans hpending.reported⟩

lemma call_keepsReported {c : Ctx} (hstate : c.state = .activated) {op : Op} (hop : streams op = true) :
    KeepsReported c (call c op) := by
  cases op with
  | acquireDev cmd =>
    rw [call, acquireDev, hstate]
    exact .refl c
  | acquireHw cmd =>
    rw [call, if_neg (by simp [hstate])]
    exact .refl c
  | link hdl =>
    rw [call, if_neg (by simp [hstate])]
    exact .refl c
  | beginConfig =>
    rw [call, beginConfigDev, hstate]
    exact takeFreeReq_keepsReported c
  | startDev cmd =>
    rw [call, if_neg (by simp [hstate])]
    exact .refl c
  | apply a =>
    rw [call, if_pos hstate]
    exact applyReq_keepsReported c a
  | flush f => exact flushReq_keepsReported hstate f
  | config | irq => exact .refl c
  | releaseHw | releaseDev | unlink | stopDev => simp [streams] at hop

lemma step_keepsReported {c : Ctx} (hstate : c.state = .activated) {op : Op} (hop : streams op = true)
    (hirq : ∀ e, op ≠ .irq e) : KeepsReported c (step c op) := by
  unfold step
  split
  · next e => exact absurd rfl (hirq e)
  · exact configDev_keepsReported hstate _ _
  · exact .refl c
  · exact .refl c
  · exact call_keepsReported hstate hop

lemma irq_keepsTop {c : Ctx} (e : Event) : (step c (.irq e)).top = c.top := by
  unfold step
  dsimp only
  split
  · exact handled_top (handleIrqInActivated_handled c e)
  · rfl

lemma step_streaming {c : Ctx} (hstate : c.state = .activated) {op : Op} (hop : streams op = true) :
    (step c op).state = .activated ∧ (step c op).machine = c.machine := by
  by_cases hirq : ∃ e, op = .irq e
  · obtain ⟨e, rfl⟩ := hirq
    have htop := irq_keepsTop (c := c) e
    exact ⟨(congrArg Top.state htop).trans hstate, congrArg Top.machine htop⟩
  · have hkeeps := step_keepsReported hstate hop fun e he => hirq ⟨e, he⟩
    exact ⟨hkeeps.state.trans hstate, hkeeps.machine⟩

lemma step_reports {c : Ctx} (hstate : c.state = .activated) {op : Op} (hop : streams op = true)
    (hdone : donesInOrder c op = true) (hok : updatesUnreported c op = true) : Reports c (sofSends c op) (step c op) := by
  by_cases hirq : ∃ e, op = .irq e
  · obtain ⟨e, rfl⟩ := hirq
    simp only [sofSends, step, handleIrqInActivated, if_pos hstate]
    cases hm : c.machine with
    | pix => exact pixIrq_reports (by simp [hm]) e
    | fs2 => exact fs2Irq_reports hstate hm hdone
    | rdi => exact rdiOnlyIrq_reports hstate hm hok
  · have hkeeps := step_keepsReported hstate hop fun e he => hirq ⟨e, he⟩
    have hnone : sofSends c op = [] := by
      unfold sofSends
      split
      · next e => exact absurd ⟨e, rfl⟩ hirq
      · rfl
    rw [hnone]
    exact .idle (by simp) hkeeps.reported

lemma updatesReported_sends {c : Ctx} {op : Op} (h : ¬updatesUnreported c op = true) :
    c.machine = .rdi ∧ ∃ id, reportedIds c op = [id] ∧ id ≠ 0 ∧ id ≤ c.reportedReqId := by
  unfold updatesUnreported at h
  split at h
  · split at h
    · next hcond =>
      obtain ⟨hstate, hm, hsub, hcrm⟩ := hcond
      split at h
      · exact absurd rfl h
      · next i rest hwait =>
        have hid : rdiOnlyRegUpdId c i ≠ 0 ∧ rdiOnlyRegUpdId c i ≤ c.reportedReqId := by simpa using h
        refine ⟨hm, rdiOnlyRegUpdId c i, ?_, hid.1, hid.2⟩
        simp [reportedIds, sofSends, rdiOnlySends, rdiOnlyRegUpdInBubbleAppliedSends, hstate, hm, hsub,
          hcrm, hwait, hid.1]
    · exact absurd rfl h
  · exact absurd rfl h

/-- What the RDI-only machine counts as reported was sent since the start. -/
structure Streaming (c : Ctx) (sent : List ℕ) : Prop where
  state : c.state = .activated
  last : c.machine = .rdi → c.reportedReqId = 0 ∨ c.reportedReqId ∈ sent

lemma Streaming.step {c : Ctx} {sent : List ℕ} (h : Streaming c sent) {op : Op} (hop : streams op = true)
    (hdone : donesInOrder c op = true) (hok : updatesUnreported c op = true) : Streaming (step c op) (sent ++ reportedIds c op) := by
  obtain ⟨hstate, hmachine⟩ := step_streaming h.state hop
  refine ⟨hstate, fun hrdi => ?_⟩
  have hm := hmachine.symm.trans hrdi
  rcases (step_reports h.state hop hdone hok).sent hm with hsame | hnew
  · rw [hsame]
    exact (h.last hm).imp_right (List.mem_append_left _)
  · exact .inr (List.mem_append_right _ hnew)

lemma Streaming.not_rising {c : Ctx} {sent : List ℕ} (h : Streaming c sent) {op : Op}
    (hbad : ¬updatesUnreported c op = true) : ¬(sent ++ reportedIds c op).Pairwise (· < ·) := by
  obtain ⟨hm, id, hsends, hid, hle⟩ := updatesReported_sends hbad
  rw [hsends]
  intro hrise
  have hmem : c.reportedReqId ∈ sent := (h.last hm).resolve_left (by omega)
  have hlt := (List.pairwise_append.mp hrise).2.2 _ hmem id (List.mem_singleton_self id)
  omega

lemma startDev_unreported {c : Ctx} (hready : c.state = .ready) {cmd : StartCmd}
    (hstart : (step c (.startDev cmd)).state = .activated) :
    (step c (.startDev cmd)).reportedReqId = 0 := by
  have hidle : c.state ≠ .activated := by simp [hready]
  have hstep : step c (.startDev cmd) = c ∨ step c (.startDev cmd) = (startDevInReady c cmd).2 := by
    unfold step
    cases c.held with
    | none => exact .inr (if_pos hready)
    | some i => exact .inl rfl
  rcases hstep with hstep | hstep
  · exact absurd (hstep ▸ hstart) hidle
  · rw [hstep] at hstart ⊢
    revert hstart
    unfold startDevInReady
    split
    · exact fun hstart => absurd hstart hidle
    · split
      · exact fun hstart => absurd hstart hidle
      · split
        · exact fun hstart => absurd hstart hidle
        · intro hstart
          dsimp only
          split_ifs <;> rfl

/-- From start to stop, where the done events keep the order, the ids in the SOF messages rise strictly
exactly if the RDI-only machine never takes up a request that it has reported already or passed over. -/
theorem reportedIds_rising_iff {c : Ctx} (hready : c.state = .ready) (cmd : StartCmd)
    (hstart : (step c (.startDev cmd)).state = .activated) (ops : List Op)
    (hops : Guarded step (fun c op => streams op = true ∧ donesInOrder c op = true) (step c (.startDev cmd)) ops) :
    (trace step reportedIds (step c (.startDev cmd)) ops).Pairwise (· < ·) ↔
      Guarded step (fun c op => updatesUnreported c op = true) (step c (.startDev cmd)) ops := by
  constructor
  · intro hrise
    have hs : Streaming (step c (.startDev cmd)) [] :=
      ⟨hstart, fun _ => .inl (startDev_unreported hready hstart)⟩
    have hstep (c : Ctx) (op : Op) (sent : List ℕ) (h : Streaming c sent)
        (hop : streams op = true ∧ donesInOrder c op = true) (hok : updatesUnreported c op = true) :
        Streaming (step c op) (sent ++ reportedIds c op) := h.step hop.1 hop.2 hok
    have hbad (c : Ctx) (op : Op) (sent : List ℕ) (h : Streaming c sent)
        (hnot : ¬updatesUnreported c op = true) : ¬(sent ++ reportedIds c op).Pairwise (· < ·) :=
      h.not_rising hnot
    exact guarded_of_trace_rising hstep hbad hs hops hrise
  · intro hok
    have hstep (c : Ctx) (op : Op) (hstate : c.state = .activated)
        (hop : streams op = true ∧ donesInOrder c op = true) : (step c op).state = .activated :=
      (step_streaming hstate hop.1).1
    have hclimb (c : Ctx) (op : Op) (hstate : c.state = .activated)
        (hop : streams op = true ∧ donesInOrder c op = true) (hok : updatesUnreported c op = true) :
        Climbs c.reportedReqId (reportedIds c op) (step c op).reportedReqId :=
      (step_reports hstate hop.1 hop.2 hok).climbs
    exact (trace_climbs hstep hclimb hstart hops hok).rising

/-- A linked context that has its INIT packet. -/
def setUp (ctxType : Machine) : List Op := (startUp ctxType).dropLast

/-- A request is applied and taken up by the next frame. -/
def frame (requestId : ℕ) : List Op :=
  [.apply ⟨requestId, true, 0⟩, .irq (.sof 0), .irq (.regUpdate 0 0)]

theorem twoFrames_rising :
    trace step reportedIds (run step contextInit (startUp .rdi))
      (firstFrame ++ update 2 11 ++ update 3 12 ++ frame 2 ++ frame 3) = [2, 3] ∧
    (trace step reportedIds (step (run step contextInit (setUp .rdi)) (.startDev ⟨1, 7, 0⟩))
      (firstFrame ++ update 2 11 ++ update 3 12 ++ frame 2 ++ frame 3)).Pairwise (· < ·) := by
  refine ⟨by decide +kernel, ?_⟩
  exact (reportedIds_rising_iff (by decide +kernel) ⟨1, 7, 0⟩ (by decide +kernel) _ (by decide +kernel)).mpr
    (by decide +kernel)

/-- The ids of the update packets that are submitted. -/
def updateIds (ops : List Op) : List ℕ :=
  ops.filterMap fun
    | .config p => if p.opCode = .updateDev then some p.requestId else none
    | _ => none

/-- An error puts request 2 back though it was reported. Once request 3 is cancelled it is applied
again, and its register update reports it a second time. -/
def reapplied : List Op :=
  firstFrame ++ update 2 11 ++ update 3 12 ++ frame 2 ++
    [Op.irq .error, .flush ⟨.cancelReq, 3, 0, 0⟩] ++ frame 2

theorem not_reportedIds_rising :
    ¬∀ (setup ops : List Op) (cmd : StartCmd),
      (run step contextInit setup).state = .ready →
      (step (run step contextInit setup) (.startDev cmd)).state = .activated →
      (∀ op ∈ ops, streams op = true) →
      (updateIds (setup ++ ops)).Pairwise (· < ·) → (∀ id ∈ updateIds (setup ++ ops), id < 2 ^ 64) →
      (trace step reportedIds (step (run step contextInit setup) (.startDev cmd)) ops).Pairwise (· < ·) := by
  intro h
  have hrise := h (setUp .rdi) reapplied ⟨1, 7, 0⟩ (by decide +kernel) (by decide +kernel) (by decide)
    (by decide) (by decide)
  have hsent : trace step reportedIds (step (run step contextInit (setUp .rdi)) (.startDev ⟨1, 7, 0⟩))
      reapplied = [2, 2] := by decide +kernel
  rw [hsent] at hrise
  simp at hrise

end CameraKernel.Isp
